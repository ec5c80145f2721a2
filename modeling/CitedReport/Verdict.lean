import CitedReport.Text
import CitedReport.Json.Parser
import CitedReport.Json.Record

/-!
# Verdicts of a reviewer

A reviewer accepts a text or asks for a revision. `Verdict.parse?` reads the verdict out of a
model's answer: the first balanced `{ … }` in it if that is a verdict in JSON, otherwise some plain
words.
-/

namespace CitedReport

/-- What a reviewer says about a text. -/
structure Verdict where
  /-- Whether the text is accepted. -/
  passes : Bool
  /-- What is to be revised. -/
  revisionPrompt : Option String := none
deriving DecidableEq, Repr, Inhabited

namespace Verdict

/-- The text is accepted. -/
def pass : Verdict := ⟨true, none⟩

/-- The text is rejected. -/
def fail (revisionPrompt : String) : Verdict := ⟨false, some revisionPrompt⟩

/-- A verdict in JSON. -/
def toJson (v : Verdict) : Json :=
  .object (("passes", .bool v.passes) ::
    Json.optionalMember "revision_prompt" Json.string v.revisionPrompt)

/-- Reads a verdict. -/
def ofJson? (j : Json) : Option Verdict := do
  let r ← Json.record? ["passes", "revision_prompt"] j
  let passes ← r.required "passes" Json.bool?
  let revisionPrompt ← r.withDefault "revision_prompt" none (Json.nullable Json.string?)
  return { passes, revisionPrompt }

/-- Where a scan for the end of a bracketed span stands. -/
inductive SpanState where
  /-- Outside strings, inside that many brackets besides the first. -/
  | code (depth : Nat)
  /-- In a string. -/
  | quoted (depth : Nat)
  /-- In a string after a backslash. -/
  | escaped (depth : Nat)

/-- The text up to the bracket that closes the span. Brackets in strings do not count. -/
def spanEnd : SpanState → List Char → Option (List Char)
  | _, [] => none
  | .escaped depth, c :: cs => (spanEnd (.quoted depth) cs).map (c :: ·)
  | .quoted depth, c :: cs =>
    let next := if c = '\\' then .escaped depth else if c = '"' then .code depth else .quoted depth
    (spanEnd next cs).map (c :: ·)
  | .code depth, c :: cs =>
    if c = '}' then
      match depth with
      | 0 => some [c]
      | depth + 1 => (spanEnd (.code depth) cs).map (c :: ·)
    else
      let next :=
        if c = '"' then .quoted depth else if c = '{' then .code (depth + 1) else .code depth
      (spanEnd next cs).map (c :: ·)

/-- The span that opens at the first `{` of a text and closes where its brackets balance. -/
def objectSpan? (cs : List Char) : Option (List Char) :=
  match cs.dropWhile (· ≠ '{') with
  | [] => none
  | c :: rest => (spanEnd (.code 0) rest).map (c :: ·)

/-- What is asked of the writer when the reviewer does not say. -/
def genericRevision : String := "Address the evaluator's concerns and improve accuracy."

/-- A verdict read from JSON, in the form that the library hands on: an accepted text has no
revision prompt and a rejected one has a prompt that is not blank. -/
def normalized (v : Verdict) : Verdict :=
  if v.passes then pass
  else
    match v.revisionPrompt with
    | some p => fail (if Text.isBlank p then genericRevision else p)
    | none => fail genericRevision

/-- The verdict in plain words. -/
def ofWords? (text : String) : Option Verdict :=
  let trimmed := Text.trim text
  let lower := Text.asciiLower trimmed
  if lower = "pass" ∨ Text.startsWith "pass\n" lower ∨ Text.contains "passes: true" lower then
    some pass
  else if Text.contains "passes: false" lower ∨ Text.startsWith "fail" lower then
    some (fail trimmed)
  else none

/-- Reads a verdict out of a model's answer. -/
def parse? (text : String) : Option Verdict :=
  let span := (objectSpan? text.toList).map String.ofList
  match (span.bind Json.parse?).bind ofJson? with
  | some v => some v.normalized
  | none => ofWords? text

end Verdict

end CitedReport
