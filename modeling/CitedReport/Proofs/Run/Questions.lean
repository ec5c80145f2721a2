import CitedReport.Run
import CitedReport.Proofs.Completion.Asks
import CitedReport.Proofs.Task.Answers

/-!
# What the stages of a run ask

Every stage asks the model, and each of them one more kind of question at most: who is behind a web
address, what a tool gives, or what the observer makes of a revision. A stage keeps to a kind of
question when those are of it (`Dialogue.Consults`). The run itself asks for the time and tells of
its stages (`Run.asks_enter`, `Run.asks_close`).
-/

namespace CitedReport

open Dialogue

variable {p : Query → Prop}

/-- A query that holds a web address has it resolved. -/
theorem Clarify.consults_clarify (hresolve : ∀ url, p (.resolve url)) (s : ModelSettings)
    (query : String) (enabled : Bool) : Consults p (clarify s query enabled) := by
  have hclassify : Consults p (classify s query) := by
    unfold classify
    refine (s.consults_completeText _ _).bind fun answer => ?_
    cases answer with
    | error e => exact consults_pure _
    | ok response =>
      simp only
      split
      · exact consults_pure _
      · exact consults_pure _
  unfold clarify
  split
  · exact consults_pure _
  · split
    · exact hclassify
    · refine (consults_one (hresolve _)).bind fun name => ?_
      split
      · exact consults_pure _
      · exact hclassify

/-- A verdict is asked of the model. -/
theorem Review.consults_evaluate (s : ModelSettings) (prompt : String) :
    Consults p (evaluate s prompt) := by
  unfold evaluate
  refine (s.consults_completeText _ _).bind fun answer => ?_
  cases answer with
  | ok text => exact consults_pure _
  | error e => exact consults_pure _

namespace Brief

/-- A brief is asked of the model. -/
theorem consults_write (s : ModelSettings) (a : Assignment) (feedback : Option String) :
    Consults p (write s a feedback) := by
  unfold write
  refine (s.consults_completeText _ _).bind fun answer => ?_
  cases answer with
  | ok text => exact consults_pure _
  | error e => exact consults_pure _

/-- So are its revisions and the verdicts on them. -/
theorem consults_revise (s : ModelSettings) (a : Assignment) (left count : Nat) (text : String) :
    Consults p (revise s a left count text) := by
  induction left generalizing count text with
  | zero =>
    rw [revise]
    refine (Review.consults_evaluate s _).bind fun verdict => ?_
    split
    · exact consults_pure _
    · exact consults_pure _
  | succ left ih =>
    rw [revise]
    refine (Review.consults_evaluate s _).bind fun verdict => ?_
    split
    · exact consults_pure _
    · refine (consults_write s a _).bind fun result => ?_
      cases result with
      | ok text => exact ih (count + 1) text
      | error e => exact consults_pure _

/-- Nothing but the model is asked for a brief. -/
theorem consults_compile (s : ModelSettings) (a : Assignment) (maxRevisions : Option Nat) :
    Consults p (compile s a maxRevisions) := by
  unfold compile
  refine (consults_write s a none).bind fun result => ?_
  cases result with
  | error e => exact consults_pure _
  | ok text =>
    cases maxRevisions with
    | none => exact consults_pure _
    | some bound => exact consults_revise s a bound 0 text

end Brief

/-- A task calls tools, which take their time. -/
theorem Task.consults_execute (hcall : ∀ name arguments, p (.callTool name arguments))
    (hpause : ∀ ms, p (.pause ms)) (s : ModelSettings) (tools : Toolbox) (maxTurns : Nat)
    (group : String) (subject : SubjectType) :
    Consults p (execute s tools maxTurns group subject) := by
  have hconverse : ∀ turns progress, Consults p (converse s tools turns progress) := by
    intro turns
    induction turns with
    | zero => exact fun _ => consults_pure _
    | succ turns ih =>
      intro progress
      rw [converse]
      refine (s.consults_think _ _).bind fun answer => ?_
      cases answer with
      | error e => exact consults_pure _
      | ok c =>
        simp only
        split
        · exact consults_pure _
        · exact (asks_runCalls hcall hpause tools _ _).consults.bind fun progress => ih progress
  unfold execute
  refine (hconverse _ _).bind fun outcome => ?_
  cases outcome with
  | error e => exact consults_pure _
  | ok gathered => exact consults_pure _

namespace Synthesis

/-- A draft is asked of the model. -/
theorem consults_write (s : ModelSettings) (a : Assignment) (c : ResearchContext)
    (status : RelationshipStatus) (revision : Option (String × String)) :
    Consults p (write s a c status revision) := by
  unfold write
  refine (s.consults_completeText _ _).bind fun answer => ?_
  cases answer with
  | ok draft => exact consults_pure _
  | error e => exact consults_pure _

variable (hreport : ∀ number bound feedback, p (.report (.revision number bound feedback)))

include hreport

/-- So are its revisions and the verdicts on them, and the observer is told of each revision. -/
theorem consults_revise (s : ModelSettings) (a : Assignment) (c : ResearchContext)
    (status : RelationshipStatus) (maxRevisions left count : Nat) (draft : String) :
    Consults p (revise s a c status maxRevisions left count draft) := by
  have hreview : ∀ draft, Consults p (Review.evaluateReport s a.brief draft status) := by
    intro draft
    unfold Review.evaluateReport
    split
    · exact consults_pure _
    · exact Review.consults_evaluate s _
  induction left generalizing count draft with
  | zero =>
    rw [revise]
    refine (hreview draft).bind fun verdict => ?_
    split
    · exact consults_pure _
    · exact consults_pure _
  | succ left ih =>
    rw [revise]
    refine (hreview draft).bind fun verdict => ?_
    split
    · exact consults_pure _
    · refine (consults_one (hreport _ _ _)).bind fun _ => ?_
      refine (consults_write s a c status _).bind fun result => ?_
      cases result with
      | ok draft => exact ih (count + 1) draft
      | error e => exact consults_pure _

/-- The observer is told of revisions of the report. -/
theorem consults_synthesize (s : ModelSettings) (a : Assignment) (c : ResearchContext)
    (maxRevisions : Nat) : Consults p (synthesize s a c maxRevisions) := by
  unfold synthesize
  refine (consults_write s a c _ none).bind fun result => ?_
  cases result with
  | error e => exact consults_pure _
  | ok draft => exact consults_revise hreport s a c _ maxRevisions maxRevisions 0 draft

end Synthesis

namespace Run

variable (hnow : p .now) (hstage : ∀ stage, p (.report (.stage stage)))

include hnow hstage

/-- A stage is entered by asking for the time and telling of it. -/
theorem asks_enter (stage : RunStage) (session : RunSession) : (enter stage session).Asks p :=
  (asks_one hnow).bind fun _ => (asks_one (hstage stage)).bind fun _ => asks_pure _

/-- So does the last stage. -/
theorem asks_close (outcome : RunOutcome) (session : RunSession) :
    (close outcome session).Asks p := by
  cases outcome with
  | report report => exact asks_enter hnow hstage .complete session
  | clarification question => exact asks_enter hnow hstage .awaitingClarification session
  | failed message =>
    exact (asks_one hnow).bind fun _ => (asks_one (hstage .failed)).bind fun _ => asks_pure _

end Run

end CitedReport
