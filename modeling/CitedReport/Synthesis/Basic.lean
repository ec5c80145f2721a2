import CitedReport.Review
import CitedReport.Synthesis.Sections

/-!
# Writing the report

A report is written from the consolidated context and reviewed; while it is rejected it is written
again, a bounded number of times. If not even a first draft can be written, the report consists of
the findings themselves; if a later one cannot, the last draft stands.
-/

namespace CitedReport.Synthesis

/-- What a report is to be about, besides its context. -/
structure Assignment where
  /-- The research brief. -/
  brief : String
  /-- The kind of subject. -/
  subject : SubjectType
  /-- What to dwell on. -/
  focusArea : Option String
  /-- The date. -/
  today : String

/-- Writes a draft and puts the generated section of sources into it. -/
def write (s : ModelSettings) (a : Assignment) (c : ResearchContext) (status : RelationshipStatus)
    (revision : Option (String × String)) : Dialogue (Except ResearchError String) := do
  let prompt :=
    Prompt.synthesis a.brief a.subject a.focusArea c.text a.today status.directive revision
  match ← s.completeText Prompt.synthesisSystem prompt with
  | .ok draft => return .ok (replaceSources draft (sourcesSection c))
  | .error e => return .error (.synthesis e)

/-- What is asked of the writer when the reviewer does not say. -/
def genericFeedback : String := "Improve accuracy and citation coverage."

/-- The report with a text, as its review ended. -/
def finish (c : ResearchContext) (content : String) (status : ReportStatus) (revisionCount : Nat)
    (exceeded : Bool) : Report :=
  { content, status, revisionCount, maxRevisionsExceeded := exceeded
    briefMaxRevisionsExceeded := false, sources := c.sources }

/-- Reviews a draft and has it written again while it is rejected and revisions are left. -/
def revise (s : ModelSettings) (a : Assignment) (c : ResearchContext) (status : RelationshipStatus)
    (maxRevisions : Nat) : Nat → Nat → String → Dialogue Report
  | left, count, draft => do
    let verdict ← Review.evaluateReport s a.brief draft status
    if verdict.passes then return finish c draft .accepted count false
    else
      match left with
      | 0 => return finish c draft .exhausted count true
      | left + 1 => do
        let feedback := verdict.revisionPrompt.getD genericFeedback
        Dialogue.report (.revision (count + 1) maxRevisions feedback)
        match ← write s a c status (some (draft, feedback)) with
        | .ok draft => revise s a c status maxRevisions left (count + 1) draft
        | .error _ => return finish c draft .exhausted (count + 1) false

/-- Writes and reviews the report, with at most `maxRevisions` revisions. -/
def synthesize (s : ModelSettings) (a : Assignment) (c : ResearchContext) (maxRevisions : Nat) :
    Dialogue Report := do
  let status := Relationship.detect c.findings
  match ← write s a c status none with
  | .error e => return finish c (fallbackReport c e) .exhausted 0 false
  | .ok draft => revise s a c status maxRevisions maxRevisions 0 draft

end CitedReport.Synthesis
