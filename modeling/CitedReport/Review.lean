import CitedReport.Completion
import CitedReport.Prompt
import CitedReport.Relationship

/-!
# Review

A model reviews a brief or a report. A review that fails or cannot be read counts as acceptance, so
it never stops a run. A report must first keep the relationship rule; only then is the model asked.
-/

namespace CitedReport.Review

/-- Puts a text to the reviewer. -/
def evaluate (s : ModelSettings) (prompt : String) : Dialogue Verdict := do
  match ← s.completeText Prompt.evaluatorSystem prompt with
  | .ok text => return (Verdict.parse? text).getD .pass
  | .error _ => return .pass

/-- Reviews a brief. -/
def evaluateBrief (s : ModelSettings) (query : String) (subject : SubjectType) (brief : String) :
    Dialogue Verdict :=
  evaluate s (Prompt.briefEvaluation query subject brief)

/-- Reviews a report. -/
def evaluateReport (s : ModelSettings) (brief report : String) (status : RelationshipStatus) :
    Dialogue Verdict :=
  match status.check report with
  | some verdict => return verdict
  | none => evaluate s (Prompt.reportEvaluation brief report)

end CitedReport.Review
