import CitedReport.Completion
import CitedReport.Prompt
import CitedReport.WebAddress

/-!
# Clarification

Decides whether a query can be researched as it is written. A web address in it is replaced by the
name of who is behind it, if that can be found out; any other query is put to a model, which lets it
pass or asks the user one question. A failure never stops a query.
-/

namespace CitedReport.Clarify

/-- The words by which the model lets a query pass. -/
def proceedMark : String := "need_clarification: false"

/-- Puts a query to the model. -/
def classify (s : ModelSettings) (query : String) : Dialogue (StageOutcome String) := do
  match ← s.completeText Prompt.clarifySystem (Prompt.clarify query) with
  | .error _ => return .proceed query
  | .ok response =>
    if Text.contains proceedMark (Text.asciiLower response) then return .proceed query
    else return .terminate (Text.trim response)

/-- The query to research, or the question to the user. -/
def clarify (s : ModelSettings) (query : String) (enabled : Bool) :
    Dialogue (StageOutcome String) :=
  if !enabled then return .proceed query
  else
    match WebAddress.find? query with
    | none => classify s query
    | some found => do
      match (← Dialogue.resolve (String.ofList found.url)).bind Text.trimmed? with
      | some name =>
        return .proceed (String.ofList found.before ++ name ++ String.ofList found.after)
      | none => classify s query

end CitedReport.Clarify
