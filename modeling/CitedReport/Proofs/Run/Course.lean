import CitedReport.Proofs.Brief.Validation
import CitedReport.Proofs.Clarify.Outcomes
import CitedReport.Proofs.Dialogue.Bill
import CitedReport.Proofs.Run.Questions
import CitedReport.Proofs.Session.Trail
import CitedReport.Proofs.Supervisor.FanOut

/-!
# The course of a run

A run goes one of three ways (`Run.Course`): it ends with a question to the user, with the failure
to write a brief, or with a report. Each way is a list of stages, and two parts of a run keep that
list: the observer is told of every stage that is entered (`Run.entered`), and the session notes
every stage that is left (`RunSession.trail`). `Run.stages_carryOut` says that the two agree on
every way out.

Whatever else is asked in a run says nothing of stages, so the stages that the observer is told of
are those that the run itself enters. A research unit of someone else's could tell of stages too;
with one that does not (`ResearchUnit.Discreet`) nothing else is told.
-/

namespace CitedReport

open Dialogue

-- a goal about what a stage asks is taken apart by the lemmas, not by running the stage
attribute [local irreducible] Dialogue.Asks

/-- The stages of a run with this outcome. -/
def RunOutcome.stages : RunOutcome → List RunStage
  | .clarification _ => [.clarifying, .awaitingClarification]
  | .failed _ => [.clarifying, .compilingBrief, .failed]
  | .report _ =>
    [.clarifying, .compilingBrief, .planning, .researching, .consolidating, .synthesizing,
      .complete]

namespace Run

/-! ## Stages that are told of -/

/-- The stage that the observer is told of, if an exchange is about that. -/
def entered? (x : Exchange) : Option RunStage :=
  match x.query with
  | .report (.stage stage) => some stage
  | _ => none

/-- The stages that the observer is told of, in order. -/
def entered (t : List Exchange) : List RunStage := t.filterMap entered?

/-- The question tells of no stage. -/
def NoStage : Query → Prop
  | .report (.stage _) => False
  | _ => True

/-- A question that tells of no stage enters none. -/
theorem entered?_eq_none {x : Exchange} (h : NoStage x.query) : entered? x = none := by
  unfold entered?
  split
  · next stage hquery =>
    rw [hquery] at h
    exact h.elim
  · rfl

/-- No stage is entered in no exchanges. -/
@[simp] theorem entered_nil : entered [] = [] := rfl

/-- Stages are entered in the order of the exchanges. -/
@[simp] theorem entered_append (t₁ t₂ : List Exchange) :
    entered (t₁ ++ t₂) = entered t₁ ++ entered t₂ :=
  List.filterMap_append

/-- A dialogue that tells of no stage enters none. -/
theorem entered_of_asks {α : Type} {d : Dialogue α} {t : List Exchange} {a : α}
    (hd : d.Asks NoStage) (h : Held d t a) : entered t = [] :=
  hd.filterMap_eq_nil h fun _ => entered?_eq_none

/-- Asking the model tells of no stage. -/
theorem noStage_admits : AdmitsModel NoStage :=
  ⟨fun _ => trivial, fun _ => trivial, fun _ => trivial⟩

end Run

/-- Whoever researches tells of no stage. -/
def ResearchUnit.Discreet (unit : ResearchUnit) : Prop :=
  ∀ group subject, (unit group subject).Asks Run.NoStage

namespace Run

/-- Those who research in a run tell of no stage: the model with its tools does not, and nor does
anybody else who may be named. -/
theorem discreet_researchUnit {setup : RunSetup} (h : ∀ unit ∈ setup.unit, unit.Discreet) :
    (researchUnit setup).Discreet := by
  unfold researchUnit
  cases hunit : setup.unit with
  | none =>
    intro group subject
    exact (Task.consults_execute (fun _ _ => trivial) (fun _ => trivial) _ _ _ group subject).asks
      noStage_admits
  | some unit => exact h unit hunit

/-- Research that tells of no stage is not told to the observer as one. -/
theorem entered_supervise {unit : ResearchUnit} (hunit : unit.Discreet)
    {limits : Supervisor.Limits} {groups : List String} {subject : SubjectType}
    {t : List Exchange} {state : SupervisorState}
    (h : Held (Supervisor.supervise unit limits groups subject) t state) : entered t = [] := by
  obtain ⟨log, hlog, hfanned⟩ := Supervisor.exists_schedule_of_held h
  have hannouncement : ∀ r, (Supervisor.announcement r).filterMap entered? = [] := fun _ => rfl
  have hasked : ∀ e ∈ log, ∀ x, e.move = .asks x → entered? x = none := fun e he x hx =>
    entered?_eq_none (Supervisor.asked_of_schedule hlog (fun g _ => hunit g subject) he hx)
  rw [hfanned.asked, entered, filterMap_heard (fun _ => rfl) hannouncement hasked 0]
  exact List.flatMap_eq_nil_iff.2 fun _ _ => rfl

/-! ## Entering a stage -/

/-- What entering a stage takes. -/
def entering (time : Timestamp) (stage : RunStage) : List Exchange :=
  [⟨.now, time⟩, ⟨.report (.stage stage), ()⟩]

/-- Entering a stage enters just this one. -/
@[simp] theorem entered_entering (time : Timestamp) (stage : RunStage) :
    entered (entering time stage) = [stage] :=
  rfl

/-- What follows the time and the news of a stage. -/
theorem exists_entering_of_held {β : Type} {stage : RunStage} {f : Timestamp → Dialogue β}
    {t : List Exchange} {b : β}
    (h : Held (Dialogue.now >>= fun time => Dialogue.report (.stage stage) >>= fun _ => f time)
      t b) : ∃ time rest, t = entering time stage ++ rest ∧ Held (f time) rest b := by
  obtain ⟨t₁, t₂, time, rfl, hnow, hlater⟩ := held_bind_iff.1 h
  obtain ⟨t₃, rest, _, rfl, hreport, hrest⟩ := held_bind_iff.1 hlater
  obtain rfl := held_ask_done_iff.1 hnow
  obtain rfl := held_ask_done_iff.1 hreport
  exact ⟨time, rest, rfl, hrest⟩

/-- Entering a stage takes the time and tells the observer. -/
theorem held_enter {stage : RunStage} {session session' : RunSession} {t : List Exchange}
    (h : Held (enter stage session) t session') :
    ∃ time, t = entering time stage ∧ session' = session.transition time stage := by
  obtain ⟨time, rest, rfl, hrest⟩ := exists_entering_of_held h
  obtain ⟨rfl, rfl⟩ := held_pure_iff.1 hrest
  exact ⟨time, List.append_nil _, rfl⟩

/-- The stage that an outcome ends in is entered, and the session is told of it too. -/
theorem held_close {outcome : RunOutcome} {session session' : RunSession} {t : List Exchange}
    (hactive : session.isActive = true) (h : Held (close outcome session) t session') :
    ∃ time stage, t = entering time stage ∧ session'.trail = session.trail ++ [stage] ∧
      outcome.stages.getLast? = some stage := by
  cases outcome with
  | report report =>
    obtain ⟨time, rfl, rfl⟩ := held_enter h
    exact ⟨time, .complete, rfl, RunSession.trail_transition hactive time _, rfl⟩
  | clarification question =>
    obtain ⟨time, rfl, rfl⟩ := held_enter h
    exact ⟨time, .awaitingClarification, rfl, RunSession.trail_transition hactive time _, rfl⟩
  | failed message =>
    obtain ⟨time, rest, rfl, hrest⟩ := exists_entering_of_held h
    obtain ⟨rfl, rfl⟩ := held_pure_iff.1 hrest
    exact ⟨time, .failed, List.append_nil _, RunSession.trail_fail hactive time message, rfl⟩

/-! ## The three ways -/

section

variable (setup : RunSetup) (request : RunRequest) (today : String)

/-- How often a brief may be revised, if it is validated. -/
def briefBound : Option Nat :=
  if setup.config.briefValidation then some setup.config.briefMaxRevisions else none

/-- From the plan on: the planned groups are researched, their findings consolidated and the report
written. -/
inductive Written (brief : CompiledBrief) : List Exchange → Report → Prop where
  /-- Nothing of this can fail. -/
  | written {planned begun consolidated synthesized : Timestamp} {research writing : List Exchange}
    {state : SupervisorState} {report : Report}
    (hresearch : Held (Supervisor.supervise (researchUnit setup)
      { maxRounds := setup.config.maxResearcherIterations
        maxConcurrency := setup.config.maxConcurrentResearchUnits }
      (Plan.plan setup.config.groupMergePolicy setup.config.maxQuestionGroups brief.text)
      request.subject) research state)
    (hwriting : Held (Synthesis.synthesize setup.model
      { brief := brief.text, subject := request.subject, focusArea := request.focusArea, today }
      (Consolidation.consolidate setup.config.sourcePrunePolicy setup.config.maxSources brief.text
        state.notes request.subject) setup.config.maxReportRevisions) writing report) :
    Written brief
      (entering planned .planning ++ (entering begun .researching ++ (research ++
        (entering consolidated .consolidating ++ (entering synthesized .synthesizing ++ writing)))))
      { report with briefMaxRevisionsExceeded := brief.maxRevisionsExceeded }

/-- How a run goes, with the episodes of its brief and its outcome. -/
inductive Course : List Exchange → List Brief.Episode → RunOutcome → Prop where
  /-- The query is answered with a question. -/
  | asked {started ended : Timestamp} {clarifying : List Exchange} {question : String}
    (hclarify : Held (Clarify.clarify setup.model request.query setup.config.clarificationEnabled)
      clarifying (.terminate question)) :
    Course (entering started .clarifying ++ (clarifying ++ entering ended .awaitingClarification))
      [] (.clarification question)
  /-- The brief cannot be written. -/
  | failed {started briefed ended : Timestamp} {clarifying compiling : List Exchange}
    {query : String} {es : List Brief.Episode} {e : ResearchError}
    (hclarify : Held (Clarify.clarify setup.model request.query setup.config.clarificationEnabled)
      clarifying (.proceed query))
    (hcompile : Brief.Course setup.model ⟨query, request.subject, today⟩ es compiling)
    (hbrief : Brief.Compiled (briefBound setup) es (.fatal e)) :
    Course (entering started .clarifying ++ (clarifying ++ (entering briefed .compilingBrief ++
      (compiling ++ entering ended .failed)))) es (.failed e.message)
  /-- There is a report. -/
  | reported {started briefed ended : Timestamp} {clarifying compiling writing : List Exchange}
    {query : String} {es : List Brief.Episode} {brief : CompiledBrief} {report : Report}
    (hclarify : Held (Clarify.clarify setup.model request.query setup.config.clarificationEnabled)
      clarifying (.proceed query))
    (hcompile : Brief.Course setup.model ⟨query, request.subject, today⟩ es compiling)
    (hbrief : Brief.Compiled (briefBound setup) es (.proceed brief))
    (hwritten : Written setup request today brief writing report) :
    Course (entering started .clarifying ++ (clarifying ++ (entering briefed .compilingBrief ++
      (compiling ++ (writing ++ entering ended .complete))))) es (.report report)

end

variable {setup : RunSetup} {request : RunRequest} {today : String}

/-! ## What the observer is told -/

/-- Between the stages from the plan on nothing is told, unless by those who research. -/
theorem Written.entered_eq {brief : CompiledBrief} {t : List Exchange} {report : Report}
    (h : Written setup request today brief t report) :
    ∃ others, entered t = [.planning, .researching] ++ (others ++ [.consolidating, .synthesizing]) ∧
      ((∀ unit ∈ setup.unit, unit.Discreet) → others = []) := by
  cases h with
  | @written _ _ _ _ research _ _ _ hresearch hwriting =>
    have hquiet := entered_of_asks
      ((Synthesis.consults_synthesize (fun _ _ _ => trivial) _ _ _ _).asks noStage_admits) hwriting
    refine ⟨entered research, ?_, fun hunits => ?_⟩
    · simp only [entered_append, entered_entering, hquiet, List.append_nil]
      rfl
    · exact entered_supervise (discreet_researchUnit hunits) hresearch

/-- Compiling a brief takes nothing but asking the model. -/
theorem kind_of_compiling {kind : Query → Prop} (hkind : AdmitsModel kind) {s : ModelSettings}
    {a : Brief.Assignment} {es : List Brief.Episode} {t : List Exchange}
    (h : Brief.Course s a es t) : ∀ x ∈ t, kind x.query := by
  obtain ⟨parts, hparts, rfl⟩ := h
  induction hparts with
  | nil => simp
  | cons htakes _ ih =>
    intro x hx
    rw [List.flatten_cons, List.mem_append] at hx
    rcases hx with hx | hx
    · cases htakes with
      | asked hasked =>
        exact ((ModelSettings.consults_completeText _ _ _).asks hkind).of_held hasked x hx
      | judged hjudged => exact ((Review.consults_evaluate _ _).asks hkind).of_held hjudged x hx
    · exact ih x hx

/-- It tells of no stage. -/
theorem entered_compiling {s : ModelSettings} {a : Brief.Assignment} {es : List Brief.Episode}
    {t : List Exchange} (h : Brief.Course s a es t) : entered t = [] :=
  List.filterMap_eq_nil_iff.2 fun x hx => entered?_eq_none (kind_of_compiling noStage_admits h x hx)

/-- The observer is told of all stages of the run, and of no other by the run itself. -/
theorem Course.entered_eq {t : List Exchange} {es : List Brief.Episode} {outcome : RunOutcome}
    (h : Course setup request today t es outcome) :
    List.Sublist outcome.stages (entered t) ∧
      ((∀ unit ∈ setup.unit, unit.Discreet) → entered t = outcome.stages) := by
  have hclarify : ∀ {t r}, Held (Clarify.clarify setup.model request.query
      setup.config.clarificationEnabled) t r → entered t = [] := fun h =>
    entered_of_asks ((Clarify.consults_clarify (fun _ => trivial) _ _ _).asks noStage_admits) h
  cases h with
  | asked hclarified =>
    simp only [entered_append, entered_entering, hclarify hclarified]
    exact ⟨List.Sublist.refl _, fun _ => rfl⟩
  | failed hclarified hcompiled _ =>
    simp only [entered_append, entered_entering, hclarify hclarified, entered_compiling hcompiled]
    exact ⟨List.Sublist.refl _, fun _ => rfl⟩
  | reported hclarified hcompiled _ hwritten =>
    obtain ⟨others, hothers, hnone⟩ := hwritten.entered_eq
    simp only [entered_append, entered_entering, hclarify hclarified, entered_compiling hcompiled,
      hothers]
    constructor
    · simp [RunOutcome.stages]
    · intro hunits
      rw [hnone hunits]
      rfl

/-! ## Every run goes one of these ways -/

section

variable (setup request today)

/-- The counts of a run when a report is written on what was researched. -/
def counted (brief : CompiledBrief) (counts : RunSummary) (state : SupervisorState)
    (report : Report) : RunSummary :=
  let c := setup.config
  let context :=
    Consolidation.consolidate c.sourcePrunePolicy c.maxSources brief.text state.notes
      request.subject
  { counts with
    questionGroups := (Plan.plan c.groupMergePolicy c.maxQuestionGroups brief.text).length
    researchIterations := state.iterations
    completedGroups := state.completedGroups.length
    failedTasks := failedTasks state.notes
    sources := context.sources.length
    prunedSources := context.pruned
    reportRevisions := report.revisionCount }

/-- From the plan on, with what has been counted before and after. -/
inductive Drafted (brief : CompiledBrief) (counts : RunSummary) :
    List Exchange → Report → RunSummary → Prop where
  /-- The planned groups are researched and the report written. -/
  | drafted {planned begun consolidated synthesized : Timestamp} {research writing : List Exchange}
    {state : SupervisorState} {report : Report}
    (hresearch : Held (Supervisor.supervise (researchUnit setup)
      { maxRounds := setup.config.maxResearcherIterations
        maxConcurrency := setup.config.maxConcurrentResearchUnits }
      (Plan.plan setup.config.groupMergePolicy setup.config.maxQuestionGroups brief.text)
      request.subject) research state)
    (hwriting : Held (Synthesis.synthesize setup.model
      { brief := brief.text, subject := request.subject, focusArea := request.focusArea, today }
      (Consolidation.consolidate setup.config.sourcePrunePolicy setup.config.maxSources brief.text
        state.notes request.subject) setup.config.maxReportRevisions) writing report) :
    Drafted brief counts
      (entering planned .planning ++ (entering begun .researching ++ (research ++
        (entering consolidated .consolidating ++ (entering synthesized .synthesizing ++ writing)))))
      { report with briefMaxRevisionsExceeded := brief.maxRevisionsExceeded }
      (counted setup request brief counts state report)

/-- The stages of a run up to its last one, with what has been counted in the end. Only a run with a
report counts more than the revisions of its brief. -/
inductive Counted (counts : RunSummary) :
    List Exchange → List Brief.Episode → RunOutcome → RunSummary → Prop where
  /-- There is no report. -/
  | unreported {t : List Exchange} {es : List Brief.Episode} {outcome : RunOutcome}
    {counts' : RunSummary} (h : ∀ report, outcome ≠ .report report) :
    Counted counts t es outcome counts'
  /-- There is a report. -/
  | reported {briefed : Timestamp} {clarifying compiling writing : List Exchange} {query : String}
    {es : List Brief.Episode} {brief : CompiledBrief} {report : Report} {counts' : RunSummary}
    (hclarify : Held (Clarify.clarify setup.model request.query setup.config.clarificationEnabled)
      clarifying (.proceed query))
    (hcompile : Brief.Course setup.model ⟨query, request.subject, today⟩ es compiling)
    (hbrief : Brief.Compiled (briefBound setup) es (.proceed brief))
    (hdrafted : Drafted setup request today brief
      { counts with briefRevisions := brief.revisionCount } writing report counts') :
    Counted counts (⟨.report (.stage .clarifying), ()⟩ ::
      (clarifying ++ (entering briefed .compilingBrief ++ (compiling ++ writing)))) es
      (.report report) counts'

end

/-- A report with its counts is a report. -/
theorem Drafted.written {brief : CompiledBrief} {counts counts' : RunSummary} {t : List Exchange}
    {report : Report} (h : Drafted setup request today brief counts t report counts') :
    Written setup request today brief t report := by
  cases h with
  | drafted hresearch hwriting => exact .written hresearch hwriting

/-- From the plan on a run enters four stages and comes to a report. -/
theorem drafted_of_held {brief : CompiledBrief} {p p' : Progress} {visited : List RunStage}
    {t : List Exchange} {report : Report} (hp : p.session.Underway visited)
    (h : Held (researchAndWrite setup request today brief p) t (report, p')) :
    Drafted setup request today brief p.counts t report p'.counts ∧
      p'.session.Underway
        (visited ++ [.planning, .researching, .consolidating, .synthesizing]) := by
  unfold researchAndWrite at h
  simp only at h
  obtain ⟨t₁, u₁, s₁, rfl, hplanning, h⟩ := held_bind_iff.1 h
  obtain ⟨t₂, u₂, s₂, rfl, hresearching, h⟩ := held_bind_iff.1 h
  obtain ⟨t₃, u₃, state, rfl, hsupervise, h⟩ := held_bind_iff.1 h
  obtain ⟨t₄, u₄, s₃, rfl, hconsolidating, h⟩ := held_bind_iff.1 h
  obtain ⟨t₅, u₅, s₄, rfl, hsynthesizing, h⟩ := held_bind_iff.1 h
  obtain ⟨t₆, u₆, written, rfl, hsynthesize, h⟩ := held_bind_iff.1 h
  obtain ⟨rfl, heq⟩ := held_pure_iff.1 h
  obtain ⟨rfl, rfl⟩ := Prod.mk.inj heq
  -- the four stages are entered, and between them the work is done
  obtain ⟨planned, rfl, rfl⟩ := held_enter hplanning
  obtain ⟨begun, rfl, rfl⟩ := held_enter hresearching
  obtain ⟨consolidated, rfl, rfl⟩ := held_enter hconsolidating
  obtain ⟨synthesized, rfl, rfl⟩ := held_enter hsynthesizing
  rw [List.append_nil]
  refine ⟨.drafted hsupervise hsynthesize, ?_⟩
  -- the session goes through these stages one after the other
  have hplanned := hp.transition planned .planning rfl
  have hbegun := hplanned.transition begun .researching rfl
  have hconsolidated := hbegun.transition consolidated .consolidating rfl
  have hsynthesized := hconsolidated.transition synthesized .synthesizing rfl
  simpa using hsynthesized

/-- The stages of a run lead to the one in which it ends. -/
theorem course_of_held_stages {p p' : Progress} {t : List Exchange} {outcome : RunOutcome}
    (hp : p.session.Underway [.clarifying])
    (h : Held (stages setup request today p) t (outcome, p')) :
    ∃ es, p'.session.Underway outcome.stages.dropLast ∧
      Counted setup request today p.counts t es outcome p'.counts ∧
      ∀ started ended stage, outcome.stages.getLast? = some stage →
        Course setup request today (⟨.now, started⟩ :: (t ++ entering ended stage)) es outcome := by
  unfold stages at h
  obtain ⟨t₁, u₁, _, rfl, hreport, h⟩ := held_bind_iff.1 h
  obtain ⟨t₂, u₂, clarified, rfl, hclarify, h⟩ := held_bind_iff.1 h
  obtain rfl := held_ask_done_iff.1 hreport
  rcases (Clarify.clarified_of_held hclarify).settled with ⟨query, rfl⟩ | ⟨question, rfl, -⟩
  · -- there is a query, and a brief is compiled for it
    obtain ⟨t₃, u₃, session, rfl, henter, h⟩ := held_bind_iff.1 h
    obtain ⟨briefed, rfl, rfl⟩ := held_enter henter
    have hbriefed := hp.transition briefed .compilingBrief rfl
    obtain ⟨t₄, u₄, compiled, rfl, hcompile, h⟩ := held_bind_iff.1 h
    obtain ⟨es, hcourse, hcompiled⟩ := Brief.compiled_of_held hcompile
    rcases hcompiled.settled with ⟨feedback, e, -, rfl⟩ | ⟨-, brief, rfl⟩
    · -- no brief comes of it, and the run fails
      obtain ⟨rfl, heq⟩ := held_pure_iff.1 h
      obtain ⟨rfl, rfl⟩ := Prod.mk.inj heq
      refine ⟨es, hbriefed, .unreported (by simp), fun started ended stage hstage => ?_⟩
      obtain rfl := Option.some.inj hstage
      rw [List.append_nil]
      change Course setup request today (entering started .clarifying ++
        ((t₂ ++ (entering briefed .compilingBrief ++ t₄)) ++ entering ended .failed)) _ _
      rw [List.append_assoc, List.append_assoc]
      exact .failed hclarify hcourse hcompiled
    · -- there is a brief, and a report is written
      obtain ⟨t₅, u₅, ⟨report, p''⟩, rfl, hwritten, h⟩ := held_bind_iff.1 h
      obtain ⟨rfl, heq⟩ := held_pure_iff.1 h
      obtain ⟨rfl, rfl⟩ := Prod.mk.inj heq
      obtain ⟨hdrafted, hsession⟩ := drafted_of_held hbriefed hwritten
      rw [List.append_nil]
      refine ⟨es, hsession, .reported hclarify hcourse hcompiled hdrafted,
        fun started ended stage hstage => ?_⟩
      obtain rfl := Option.some.inj hstage
      change Course setup request today (entering started .clarifying ++
        ((t₂ ++ (entering briefed .compilingBrief ++ (t₄ ++ t₅))) ++ entering ended .complete)) _ _
      rw [List.append_assoc, List.append_assoc, List.append_assoc]
      exact .reported hclarify hcourse hcompiled hdrafted.written
  · obtain ⟨rfl, heq⟩ := held_pure_iff.1 h
    obtain ⟨rfl, rfl⟩ := Prod.mk.inj heq
    refine ⟨[], hp, .unreported (by simp), fun started ended stage hstage => ?_⟩
    obtain rfl := Option.some.inj hstage
    rw [List.append_nil]
    exact .asked hclarify

/-- A run, however it is held, goes one of the three ways, and its session, its bill and its counts
go with it up to the last stage. -/
theorem summarized_of_held {id : Identifier} {t : List Exchange} {outcome : RunOutcome}
    {summary : RunSummary} (h : Held (carryOut setup id today request) t (outcome, summary)) :
    ∃ (es : List Brief.Episode) (started ended : Timestamp) (before : List Exchange)
      (last : RunStage) (session : RunSession) (counts : RunSummary),
      t = ⟨.now, started⟩ :: (before ++ entering ended last) ∧
      Course setup request today t es outcome ∧
      Counted setup request today {} before es outcome counts ∧
      session.trail = outcome.stages ∧
      summary = summarize session (billed before) counts := by
  unfold carryOut at h
  obtain ⟨t₁, u₁, started, rfl, hnow, hrun⟩ := held_bind_iff.1 h
  obtain ⟨before, u₂, ⟨⟨result, p⟩, usage⟩, rfl, hmetered, hend⟩ := held_bind_iff.1 hrun
  obtain ⟨t₃, u₃, session, rfl, hclose, hdone⟩ := held_bind_iff.1 hend
  obtain rfl := held_ask_done_iff.1 hnow
  obtain ⟨rfl, heq⟩ := held_pure_iff.1 hdone
  obtain ⟨rfl, rfl⟩ := Prod.mk.inj heq
  obtain ⟨es, hsession, hcounted, hcourse⟩ := course_of_held_stages
    (RunSession.underway_start id request.query request.subject started)
    (held_of_held_metered hmetered)
  obtain ⟨ended, last, rfl, htrail, hlast⟩ := held_close hsession.isActive hclose
  have htrail : session.trail = outcome.stages := by
    rw [htrail, hsession.trail_eq]
    exact List.dropLast_append_getLast? last hlast
  -- the meter starts with an empty bill
  have husage : usage = billed before := by
    have hbill := usage_of_held_metered hmetered
    rwa [show ({} : TokenUsage) = 0 from rfl, zero_add] at hbill
  rw [List.append_nil, List.singleton_append]
  exact ⟨es, started, ended, before, last, session, p.counts, rfl, hcourse started ended last hlast,
    hcounted, htrail, by rw [husage]⟩

/-- However a run is held, it goes one of the three ways, and its summary has the times of the
stages before the last. -/
theorem course_of_held {id : Identifier} {t : List Exchange} {outcome : RunOutcome}
    {summary : RunSummary} (h : Held (carryOut setup id today request) t (outcome, summary)) :
    ∃ es, Course setup request today t es outcome ∧
      summary.timings.map StageTiming.stage = outcome.stages.dropLast ∧
      summary.finalStage = outcome.stages.getLast? := by
  obtain ⟨es, _, _, _, _, session, _, -, hcourse, -, htrail, rfl⟩ := summarized_of_held h
  refine ⟨es, hcourse, ?_, ?_⟩
  · rw [← htrail]
    exact session.map_stage_timings
  · rw [← htrail, session.getLast?_trail]
    rfl

/-! ## The stages of a run -/

/-- What the observer and the session say of a run, and when it fails. -/
structure Accounted (setup : RunSetup) (t : List Exchange) (es : List Brief.Episode)
    (outcome : RunOutcome) (summary : RunSummary) : Prop where
  /-- The observer is told of the stages of the run, when nobody else tells it of stages. -/
  told : (∀ unit ∈ setup.unit, unit.Discreet) → entered t = outcome.stages
  /-- It is told of them, in order, in any case. -/
  sublist : List.Sublist outcome.stages (entered t)
  /-- The session has left all of them but the last. -/
  timings : summary.timings.map StageTiming.stage = outcome.stages.dropLast
  /-- It ends in the last. -/
  finalStage : summary.finalStage = outcome.stages.getLast?
  /-- A run fails just when the writer of the brief was asked and there was an error. -/
  failed_iff : (∃ message, outcome = .failed message) ↔
    ∃ feedback e, Brief.Episode.asked feedback (.error e) ∈ es
  /-- A question to the user is not blank. -/
  question : ∀ text, outcome = .clarification text → ∃ c ∈ text.toList, Chars.isBlank c = false

/-- Only the brief makes a run fail. -/
theorem Course.failed_iff {t : List Exchange} {es : List Brief.Episode} {outcome : RunOutcome}
    (h : Course setup request today t es outcome) :
    (∃ message, outcome = .failed message) ↔
      ∃ feedback e, Brief.Episode.asked feedback (.error e) ∈ es := by
  cases h with
  | asked _ => simp
  | failed _ _ hcompiled =>
    rcases hcompiled.settled with ⟨feedback, e, he, -⟩ | ⟨-, brief, hbrief⟩
    · exact ⟨fun _ => ⟨feedback, e, he⟩, fun _ => ⟨_, rfl⟩⟩
    · cases hbrief
  | reported _ _ hcompiled _ =>
    rcases hcompiled.settled with ⟨feedback, e, -, hfatal⟩ | ⟨hnone, -⟩
    · cases hfatal
    · constructor
      · rintro ⟨message, hfailed⟩
        cases hfailed
      · rintro ⟨feedback, e, he⟩
        exact (hnone feedback e he).elim

/-- A run never ends with a blank question. -/
theorem Course.question_not_blank {t : List Exchange} {es : List Brief.Episode} {text : String}
    (h : Course setup request today t es (.clarification text)) :
    ∃ c ∈ text.toList, Chars.isBlank c = false := by
  cases h with
  | asked hclarify =>
    rcases (Clarify.clarified_of_held hclarify).settled with ⟨query, heq⟩ | ⟨question, heq, hquestion⟩
    · cases heq
    · cases heq
      obtain ⟨c, hc, hblank⟩ := List.all_eq_false.1 hquestion.1
      exact ⟨c, hc, Bool.eq_false_iff.2 hblank⟩

/-- Whatever the services answer, a run goes one of the three ways: the observer is told of the
stages of that way in order, the session has left all of them but the last, and the run fails just
when the model, asked to write a brief, came to an error in the end. -/
theorem stages_carryOut {σ : Type} (services : Services σ) (state : σ) (setup : RunSetup)
    (id : Identifier) (today : String) (request : RunRequest) :
    let work := carryOut setup id today request
    let trace := work.transcript services state
    let (outcome, summary) := (work.run services state).1
    ∃ es, Course setup request today trace es outcome ∧
      Accounted setup trace es outcome summary := by
  intro work trace
  obtain ⟨es, hcourse, htimings, hfinal⟩ := course_of_held (held_run services work state)
  exact ⟨es, hcourse,
    { told := hcourse.entered_eq.2
      sublist := hcourse.entered_eq.1
      timings := htimings
      finalStage := hfinal
      failed_iff := hcourse.failed_iff
      question := fun text htext => by
        rw [htext] at hcourse
        exact hcourse.question_not_blank }⟩

end Run

end CitedReport
