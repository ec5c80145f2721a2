import Mathlib.Tactic.Ring
import CitedReport.Run
import CitedReport.Proofs.Dialogue.Cost
import CitedReport.Proofs.Plan.Merging
import CitedReport.Proofs.Run.Questions
import CitedReport.Proofs.Supervisor.Pace

/-!
# What a run costs

A run asks for completions in five loops: a request is tried again, a brief is revised, groups are
researched, a researcher takes turns, a report is revised. Each of them has its own bound, and each
bound is one of `Costs`, from the tries of a single request (`ModelSettings.costs_think`) up to the
whole run (`Run.requests_carryOut_le`). Research is the one part where dialogues are held side by
side; there the groups are counted (`Plan.length_plan_le`), and each is researched once
(`Supervisor.costs_supervise`), at any pace (`ResearchUnit.costs_paced`).
-/

namespace CitedReport

open Dialogue

/-! ## Asking the model -/

/-- A series of tries is as long as there are tries. -/
theorem Task.Tried.requests_le {request : CompletionRequest} {tries : Nat} {t : List Exchange}
    {r : Except ModelError Completion} (h : Task.Tried request tries t r) :
    requests t ≤ tries + 1 := by
  induction h with
  | answered c => exact Nat.le_add_left 1 _
  | failed e => exact Nat.le_add_left 1 _
  | @again tries ms e paused t r hpause _ ih =>
    have hpaused : requests paused = 0 := by
      rw [requests, Task.answers_of_asks (Task.asks_noCompletion_pause ms) hpause]
      rfl
    have hone : requests [⟨.complete request, .error e⟩] = 1 := rfl
    rw [requests_cons, requests_append, hone, hpaused]
    omega

namespace ModelSettings

/-- What asking the model once costs. -/
def tries (s : ModelSettings) : Nat := s.maxRetries + 1

variable (s : ModelSettings)

/-- A draft, and the reviews and drafts after it. -/
theorem tries_mul_draft (left : Nat) :
    s.tries + s.tries * (2 * left + 1) = s.tries * (2 * (left + 1)) := by
  ring

/-- A review, and a further draft with the reviews and drafts after it. -/
theorem tries_mul_review (left : Nat) :
    s.tries + (s.tries + s.tries * (2 * left + 1)) = s.tries * (2 * (left + 1) + 1) := by
  ring

/-- Asking the model costs as many requests as there are tries. -/
theorem costs_think (messages : List Message) (offered : Option (List ToolDefinition)) :
    Costs s.tries (s.think messages offered) := by
  unfold think
  simp only
  split
  · exact Costs.pure _ _
  · exact fun t r h => (Task.tried_of_held h).requests_le

/-- So does asking it for a text. -/
theorem costs_completeText (system user : String) : Costs s.tries (s.completeText system user) := by
  unfold completeText
  refine (s.costs_think _ _).bind_free fun answer => ?_
  cases answer with
  | error e => exact Costs.pure _ _
  | ok c =>
    simp only
    split
    · exact Costs.pure _ _
    · exact Costs.pure _ _

end ModelSettings

/-! ## Clarification and review -/

section

variable (s : ModelSettings)

/-- So does looking at the query. -/
theorem Clarify.costs_classify (query : String) : Costs s.tries (classify s query) := by
  unfold classify
  refine (s.costs_completeText _ _).bind_free fun answer => ?_
  cases answer with
  | error e => exact Costs.pure _ _
  | ok response =>
    simp only
    split
    · exact Costs.pure _ _
    · exact Costs.pure _ _

/-- A query is put to the model once at most. -/
theorem Clarify.costs_clarify (query : String) (enabled : Bool) :
    Costs s.tries (clarify s query enabled) := by
  unfold clarify
  split
  · exact Costs.pure _ _
  · split
    · exact costs_classify s query
    · -- who is behind a web address is not asked of the model
      refine Costs.free_bind (asks_one trivial) fun name => ?_
      split
      · exact Costs.pure _ _
      · exact costs_classify s query

/-- So does asking for a verdict. -/
theorem Review.costs_evaluate (prompt : String) : Costs s.tries (evaluate s prompt) := by
  unfold evaluate
  refine (s.costs_completeText _ _).bind_free fun answer => ?_
  cases answer with
  | ok text => exact Costs.pure _ _
  | error e => exact Costs.pure _ _

/-- So does the review of a report, which is free where the relationship rule decides. -/
theorem Review.costs_evaluateReport (brief report : String) (status : RelationshipStatus) :
    Costs s.tries (evaluateReport s brief report status) := by
  unfold evaluateReport
  split
  · exact Costs.pure _ _
  · exact costs_evaluate s _

end

/-! ## The brief -/

namespace Brief

variable (s : ModelSettings) (a : Assignment)

/-- Writing a brief costs as many requests as there are tries. -/
theorem costs_write (feedback : Option String) : Costs s.tries (write s a feedback) := by
  unfold write
  refine (s.costs_completeText _ _).bind_free fun answer => ?_
  cases answer with
  | ok text => exact Costs.pure _ _
  | error e => exact Costs.pure _ _

/-- Each revision that is left takes a brief and a review, and there is one review to begin with. -/
theorem costs_revise (left count : Nat) (text : String) :
    Costs (s.tries * (2 * left + 1)) (revise s a left count text) := by
  have hreview := Review.costs_evaluate s (Prompt.briefEvaluation a.query a.subject text)
  induction left generalizing count text with
  | zero =>
    rw [revise]
    refine (hreview.bind_free fun verdict => ?_).mono (by omega)
    split
    · exact Costs.pure _ _
    · exact Costs.pure _ _
  | succ left ih =>
    rw [revise]
    refine hreview.bind_le (fun verdict => ?_) (Nat.le_of_eq (s.tries_mul_review left))
    split
    · exact Costs.pure _ _
    · refine (costs_write s a _).bind fun result => ?_
      cases result with
      | error e => exact Costs.pure _ _
      | ok text => exact ih (count + 1) text (Review.costs_evaluate s _)

/-- The revisions that a brief may have, if it is reviewed at all. -/
theorem costs_compile {bound : Nat} (maxRevisions : Option Nat)
    (hbound : ∀ b ∈ maxRevisions, b ≤ bound) :
    Costs (s.tries * (2 * (bound + 1))) (compile s a maxRevisions) := by
  unfold compile
  refine (costs_write s a none).bind_le (fun result => ?_) (Nat.le_of_eq (s.tries_mul_draft bound))
  cases result with
  | error e => exact Costs.pure _ _
  | ok text =>
    cases maxRevisions with
    | none => exact Costs.pure _ _
    | some b =>
      have hb : 2 * b + 1 ≤ 2 * bound + 1 := by
        have := hbound b rfl
        omega
      exact (costs_revise s a b 0 text).mono (Nat.mul_le_mul_left _ hb)

end Brief

/-! ## Research -/

namespace Task

variable (s : ModelSettings) (tools : Toolbox)

/-- A conversation asks the model once in each turn. -/
theorem costs_converse (turns : Nat) (p : Progress) :
    Costs (s.tries * turns) (converse s tools turns p) := by
  induction turns generalizing p with
  | zero => exact Costs.pure _ _
  | succ turns ih =>
    rw [converse]
    have hturn : s.tries + s.tries * turns = s.tries * (turns + 1) := by ring
    refine (s.costs_think p.messages (some tools.definitions)).bind_le (fun answer => ?_)
      (Nat.le_of_eq hturn)
    cases answer with
    | error e => exact Costs.pure _ _
    | ok c =>
      simp only
      split
      · exact Costs.pure _ _
      · exact Costs.free_bind (asks_noCompletion_runCalls tools _ _) ih

/-- So does a task. -/
theorem costs_execute (maxTurns : Nat) (group : String) (subject : SubjectType) :
    Costs (s.tries * max 1 maxTurns) (execute s tools maxTurns group subject) := by
  unfold execute
  refine (costs_converse s tools _ _).bind_free fun outcome => ?_
  cases outcome with
  | error e => exact Costs.pure _ _
  | ok gathered => exact Costs.pure _ _

end Task

/-- Every group is researched once. -/
theorem Supervisor.costs_supervise {n : Nat} {unit : ResearchUnit} {subject : SubjectType}
    (hunit : ∀ group, Costs n (unit group subject)) (limits : Limits) (groups : List String) :
    Costs (groups.length * n) (supervise unit limits groups subject) := by
  intro t state h
  obtain ⟨log, hlog, hfanned⟩ := exists_schedule_of_held h
  have hheld : ∀ d ∈ groups.map (hold unit subject), Costs n d := by
    intro d hd
    obtain ⟨group, -, rfl⟩ := List.mem_map.1 hd
    exact (hunit group).bind_free fun result => Costs.pure _ _
  have hrequests : requests (heard announcement 0 log)
      ≤ (groups.map (hold unit subject)).length * n :=
    hlog.requests_heard_le (fun _ => rfl) hheld 0
  rw [List.length_map] at hrequests
  rw [hfanned.asked]
  exact hrequests

/-! ## The report -/

namespace Synthesis

variable (s : ModelSettings) (a : Assignment) (c : ResearchContext)

/-- Writing a draft costs as many requests as there are tries. -/
theorem costs_write (status : RelationshipStatus) (revision : Option (String × String)) :
    Costs s.tries (write s a c status revision) := by
  unfold write
  refine (s.costs_completeText _ _).bind_free fun answer => ?_
  cases answer with
  | ok draft => exact Costs.pure _ _
  | error e => exact Costs.pure _ _

/-- Each revision that is left takes a draft and a review, and there is one review to begin with. -/
theorem costs_revise (status : RelationshipStatus) (maxRevisions left count : Nat)
    (draft : String) :
    Costs (s.tries * (2 * left + 1)) (revise s a c status maxRevisions left count draft) := by
  have hreview := Review.costs_evaluateReport s a.brief draft status
  induction left generalizing count draft with
  | zero =>
    rw [revise]
    refine (hreview.bind_free fun verdict => ?_).mono (by omega)
    split
    · exact Costs.pure _ _
    · exact Costs.pure _ _
  | succ left ih =>
    rw [revise]
    refine hreview.bind_le (fun verdict => ?_) (Nat.le_of_eq (s.tries_mul_review left))
    split
    · exact Costs.pure _ _
    · refine Costs.free_bind (asks_one trivial) fun _ => ?_
      refine (costs_write s a c status _).bind fun result => ?_
      cases result with
      | error e => exact Costs.pure _ _
      | ok draft => exact ih (count + 1) draft (Review.costs_evaluateReport s _ _ _)

/-- A report takes a draft and a review, and as many again for each revision. -/
theorem costs_synthesize (maxRevisions : Nat) :
    Costs (s.tries * (2 * (maxRevisions + 1))) (synthesize s a c maxRevisions) := by
  unfold synthesize
  simp only
  have hdraft := Nat.le_of_eq (s.tries_mul_draft maxRevisions)
  refine (costs_write s a c _ none).bind_le (fun result => ?_) hdraft
  cases result with
  | error e => exact Costs.pure _ _
  | ok draft => exact costs_revise s a c _ maxRevisions maxRevisions 0 draft

end Synthesis

/-! ## The run -/

namespace Run

/-- Entering a stage is free. -/
theorem free_enter (stage : RunStage) (session : RunSession) :
    (enter stage session).Asks Task.NoCompletion :=
  asks_enter trivial (fun _ => trivial) stage session

/-- From the plan on, the planned groups and the report cost something. -/
theorem costs_researchAndWrite {n : Nat} {setup : RunSetup}
    (hunit : ∀ group subject, Costs n (researchUnit setup group subject)) (request : RunRequest)
    (today : String) (brief : CompiledBrief) (p : Progress) :
    Costs (max 1 setup.config.maxQuestionGroups * n +
        setup.model.tries * (2 * (setup.config.maxReportRevisions + 1)))
      (researchAndWrite setup request today brief p) := by
  unfold researchAndWrite
  simp only
  refine Costs.free_bind (free_enter _ _) fun _ => Costs.free_bind (free_enter _ _) fun _ => ?_
  have hgroups : (Plan.plan setup.config.groupMergePolicy setup.config.maxQuestionGroups
      brief.text).length * n ≤ max 1 setup.config.maxQuestionGroups * n :=
    Nat.mul_le_mul_right n (Plan.length_plan_le _ _ _)
  have hresearch := Supervisor.costs_supervise (fun group => hunit group request.subject)
    ⟨setup.config.maxResearcherIterations, setup.config.maxConcurrentResearchUnits⟩
    (Plan.plan setup.config.groupMergePolicy setup.config.maxQuestionGroups brief.text)
  refine (hresearch.mono hgroups).bind fun state => ?_
  refine Costs.free_bind (free_enter _ _) fun _ => Costs.free_bind (free_enter _ _) fun _ => ?_
  exact (Synthesis.costs_synthesize setup.model _ _ _).bind_free fun report => Costs.pure _ _

/-- The query, the brief, and what comes after them. -/
theorem costs_stages {n : Nat} {setup : RunSetup}
    (hunit : ∀ group subject, Costs n (researchUnit setup group subject)) (request : RunRequest)
    (today : String) (p : Progress) :
    Costs (setup.model.tries + (setup.model.tries * (2 * (setup.config.briefMaxRevisions + 1)) +
        (max 1 setup.config.maxQuestionGroups * n +
          setup.model.tries * (2 * (setup.config.maxReportRevisions + 1)))))
      (stages setup request today p) := by
  unfold stages
  refine Costs.free_bind (asks_one trivial) fun _ => ?_
  refine (Clarify.costs_clarify setup.model request.query _).bind fun clarified => ?_
  cases clarified with
  | terminate question => exact Costs.pure _ _
  | fatal e => exact Costs.pure _ _
  | proceed query =>
    refine Costs.free_bind (free_enter _ _) fun _ => ?_
    -- a brief that is not reviewed is not revised
    have hbound : ∀ b ∈ (if setup.config.briefValidation then some setup.config.briefMaxRevisions
        else none), b ≤ setup.config.briefMaxRevisions := by
      intro b hb
      split at hb
      · exact Nat.le_of_eq (Option.some.inj hb).symm
      · cases hb
    refine (Brief.costs_compile setup.model _ _ hbound).bind fun compiled => ?_
    cases compiled with
    | terminate question => exact Costs.pure _ _
    | fatal e => exact Costs.pure _ _
    | proceed brief =>
      exact (costs_researchAndWrite hunit request today brief _).bind_free fun r => Costs.pure _ _

/-- The whole run costs what its stages cost. -/
theorem costs_carryOut {n : Nat} {setup : RunSetup}
    (hunit : ∀ group subject, Costs n (researchUnit setup group subject)) (id : Identifier)
    (today : String) (request : RunRequest) :
    Costs (setup.model.tries + (setup.model.tries * (2 * (setup.config.briefMaxRevisions + 1)) +
        (max 1 setup.config.maxQuestionGroups * n +
          setup.model.tries * (2 * (setup.config.maxReportRevisions + 1)))))
      (carryOut setup id today request) := by
  unfold carryOut
  refine Costs.free_bind (asks_one trivial) fun time => ?_
  refine ((costs_stages hunit request today _).metered {}).bind_free fun r => ?_
  have hclose := asks_close (p := Task.NoCompletion) trivial fun _ => trivial
  exact (Costs.of_asks (hclose _ _) 0).bind_free fun _ => Costs.pure _ _

/-- However the services answer and however long the completions of research take, a run that
researches with the model and the tools comes to an end, and the completions it has asked for by
then are bounded by its settings: the tries of a request, times the one request for the query, two
for each time the brief is written and reviewed, the turns for each planned group, and two for each
time the report is written and reviewed. -/
theorem requests_carryOut_le {σ : Type} (services : Services σ) (state : σ) (model : ModelSettings)
    (tools : Toolbox) (config : ResearchConfig) (id : Identifier) (today : String)
    (request : RunRequest) :
    let setup : RunSetup := { model, tools, config }
    ∀ run ∈ [setup, setup.paced],
      let work := carryOut run id today request
      let trace := work.transcript services state
      Held work trace (work.run services state).1 ∧
        requests trace ≤
          (model.maxRetries + 1) *
            (1 + 2 * (1 + config.briefMaxRevisions) +
              max 1 config.maxQuestionGroups * max 1 config.toolCallIterations +
              2 * (1 + config.maxReportRevisions)) := by
  intro setup run hrun work trace
  have hheld : Held work trace (work.run services state).1 := held_run services work state
  -- research costs the same at any pace
  have hplain : ∀ group subject, Costs (model.tries * max 1 config.toolCallIterations)
      (researchUnit setup group subject) :=
    fun group subject => Task.costs_execute model tools config.toolCallIterations group subject
  have hcosts : Costs (model.tries + (model.tries * (2 * (config.briefMaxRevisions + 1)) +
      (max 1 config.maxQuestionGroups * (model.tries * max 1 config.toolCallIterations) +
        model.tries * (2 * (config.maxReportRevisions + 1))))) work := by
    rcases List.mem_pair.1 hrun with rfl | rfl
    · exact costs_carryOut hplain id today request
    · exact costs_carryOut (fun group subject => ResearchUnit.costs_paced (hplain group subject)) id
        today request
  refine ⟨hheld, ?_⟩
  calc requests trace
      ≤ model.tries + (model.tries * (2 * (config.briefMaxRevisions + 1)) +
          (max 1 config.maxQuestionGroups * (model.tries * max 1 config.toolCallIterations) +
            model.tries * (2 * (config.maxReportRevisions + 1)))) :=
        hcosts _ _ hheld
    _ = (model.maxRetries + 1) *
        (1 + 2 * (1 + config.briefMaxRevisions) +
          max 1 config.maxQuestionGroups * max 1 config.toolCallIterations +
          2 * (1 + config.maxReportRevisions)) := by
      unfold ModelSettings.tries
      ring

end Run

end CitedReport
