import CitedReport.Review

/-!
# The research brief

A model writes the brief that a run researches from. With validation a reviewer looks at it, and
while it is rejected it is written again, a bounded number of times. A brief that cannot be written
ends the run.
-/

namespace CitedReport

/-- A brief and how it came about. -/
structure CompiledBrief where
  /-- Its text. -/
  text : String
  /-- How often it was sent back. -/
  revisionCount : Nat
  /-- Whether it was still rejected when no revision was left. -/
  maxRevisionsExceeded : Bool
deriving DecidableEq, Repr

namespace Brief

/-- What a brief is to be about. -/
structure Assignment where
  /-- What to research. -/
  query : String
  /-- The kind of subject. -/
  subject : SubjectType
  /-- The date. -/
  today : String

/-- Writes the brief once. -/
def write (s : ModelSettings) (a : Assignment) (feedback : Option String) :
    Dialogue (Except ResearchError String) := do
  match ← s.completeText Prompt.briefSystem (Prompt.brief a.query a.subject a.today feedback) with
  | .ok text => return .ok (Text.trim text)
  | .error e => return .error (.briefCompilation e)

/-- Reviews a text and has it written again while it is rejected and revisions are left. -/
def revise (s : ModelSettings) (a : Assignment) :
    Nat → Nat → String → Dialogue (StageOutcome CompiledBrief)
  | left, count, text => do
    let verdict ← Review.evaluateBrief s a.query a.subject text
    if verdict.passes then return .proceed ⟨text, count, false⟩
    else
      match left with
      | 0 => return .proceed ⟨text, count, true⟩
      | left + 1 =>
        match ← write s a verdict.revisionPrompt with
        | .ok text => revise s a left (count + 1) text
        | .error e => return .fatal e

/-- Compiles the brief; a bound on revisions means that it is validated. -/
def compile (s : ModelSettings) (a : Assignment) (maxRevisions : Option Nat) :
    Dialogue (StageOutcome CompiledBrief) := do
  match ← write s a none with
  | .error e => return .fatal e
  | .ok text =>
    match maxRevisions with
    | none => return .proceed ⟨text, 0, false⟩
    | some bound => revise s a bound 0 text

end Brief

end CitedReport
