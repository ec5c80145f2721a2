import CitedReport.Proofs.Consolidation.Sources
import CitedReport.Proofs.Plan.Lossless
import CitedReport.Proofs.Run.Course
import CitedReport.Proofs.Supervisor.Pace
import CitedReport.Proofs.Synthesis.Revision

/-!
# The summary of a run

The summary of a run puts together what its parts have counted. `Tallied` says of each count of a
run with a report what it is the number of: of planned groups, of events that the observer was told
of, of sources and revisions of the very report that is handed back. What it says was used is what
all completions of the run have used, wherever they were asked for.

The stages from the plan on count what they have done (`Drafted`); the bill is put together from
those of all stages, each of them honest (`honest_stages`).
-/

namespace CitedReport.Run

open Dialogue

-- a goal about what a stage asks is taken apart by the lemmas, not by running the stage
attribute [local irreducible] Dialogue.Asks

variable {setup : RunSetup} {request : RunRequest} {today : String}

/-- Those who research in a run are accountable: the model with its tools is, and so is anybody else
who may be named. -/
theorem accountable_researchUnit (h : ∀ unit ∈ setup.unit, unit.Accountable) :
    (researchUnit setup).Accountable := by
  unfold researchUnit
  cases hunit : setup.unit with
  | none => exact ResearchUnit.accountable_execute ..
  | some unit => exact h unit hunit

/-! ## The bill of a run -/

/-- Entering a stage costs nothing. -/
theorem honest_enter (stage : RunStage) (session : RunSession) : Honest (enter stage session) :=
  honest_of_asks (asks_enter trivial (fun _ => trivial) stage session)

/-- What research and the report cost is on the bill. -/
theorem honest_researchAndWrite (hunit : (researchUnit setup).Accountable) (brief : CompiledBrief)
    (p : Progress) : Honest (researchAndWrite setup request today brief p) := by
  unfold researchAndWrite
  simp only
  refine (honest_enter _ _).bind fun _ => (honest_enter _ _).bind fun _ => ?_
  refine (Supervisor.honest_supervise hunit).bind fun state => ?_
  refine (honest_enter _ _).bind fun _ => (honest_enter _ _).bind fun _ => ?_
  have hwriting := Synthesis.consults_synthesize (p := Unbilled) (fun _ _ _ => trivial)
  exact (hwriting _ _ _ _).honest.bind fun report => honest_pure _

/-- Whatever is asked of the model in the stages of a run is on the bill. -/
theorem honest_stages (hunit : (researchUnit setup).Accountable) (p : Progress) :
    Honest (stages setup request today p) := by
  have hstage : (Dialogue.report (.stage .clarifying)).Asks Unbilled := asks_one trivial
  unfold stages
  refine (honest_of_asks hstage).bind fun _ => ?_
  refine (Clarify.consults_clarify (fun _ => trivial) _ _ _).honest.bind fun clarified => ?_
  cases clarified with
  | terminate question => exact honest_pure _
  | fatal e => exact honest_pure _
  | proceed query =>
    refine (honest_enter _ _).bind fun _ => ?_
    refine (Brief.consults_compile _ _ _).honest.bind fun compiled => ?_
    cases compiled with
    | terminate question => exact honest_pure _
    | fatal e => exact honest_pure _
    | proceed brief => exact (honest_researchAndWrite hunit brief _).bind fun _ => honest_pure _

/-- What a run costs is on the bill. -/
theorem honest_carryOut (hunit : (researchUnit setup).Accountable) (id : Identifier) :
    Honest (carryOut setup id today request) := by
  have hnow : Dialogue.now.Asks Unbilled := asks_one trivial
  unfold carryOut
  refine (honest_of_asks hnow).bind fun time => ?_
  -- the meter asks for nothing
  refine Honest.bind (fun t r h => ?_) fun _ => ?_
  · exact honest_stages hunit _ t r.1 (held_of_held_metered h)
  · exact (honest_of_asks (asks_close trivial (fun _ => trivial) _ _)).bind fun _ => honest_pure _

/-- At any pace of the research those who are accountable stay so. -/
theorem accountable_paced (h : ∀ unit ∈ setup.unit, unit.Accountable) :
    ∀ unit ∈ setup.paced.unit, unit.Accountable := by
  intro unit hunit
  rw [← Option.some.inj hunit]
  exact (accountable_researchUnit h).paced

/-- What a run says was used is what all completions that came have used, however the run ends. -/
theorem usage_of_held {id : Identifier} {t : List Exchange} {outcome : RunOutcome}
    {summary : RunSummary} (hunit : (researchUnit setup).Accountable)
    (h : Held (carryOut setup id today request) t (outcome, summary)) :
    summary.usage = spent t := by
  have hhonest := honest_carryOut hunit id t (outcome, summary) h
  obtain ⟨_, started, ended, before, last, _, _, rfl, -, -, -, rfl⟩ := summarized_of_held h
  have hbefore : billed (⟨.now, started⟩ :: (before ++ entering ended last)) = billed before := by
    have hnow : billed [⟨.now, started⟩] = 0 := rfl
    have hentering : billed (entering ended last) = 0 := rfl
    rw [← List.singleton_append, billed_append, billed_append, hnow, hentering, zero_add, add_zero]
  rw [← hhonest, hbefore]
  rfl

/-! ## What the stages count -/

/-- Entering a stage tells of no failure. -/
theorem failuresTold_entering (time : Timestamp) (stage : RunStage) :
    Supervisor.failuresTold (entering time stage) = 0 :=
  rfl

/-- The counts of a run with a report. -/
structure Tallied (setup : RunSetup) (es : List Brief.Episode) (brief : CompiledBrief)
    (t : List Exchange) (report : Report) (summary : RunSummary) : Prop where
  /-- As many question groups as are planned for the brief. -/
  questionGroups : summary.questionGroups
    = (Plan.plan setup.config.groupMergePolicy setup.config.maxQuestionGroups brief.text).length
  /-- There is one at least, and there are no more than allowed. -/
  questionGroups_mem : 1 ≤ summary.questionGroups ∧
    summary.questionGroups ≤ max 1 setup.config.maxQuestionGroups
  /-- One round of research. -/
  researchIterations : summary.researchIterations = 1
  /-- As many groups are completed as there are distinct ones in the plan. -/
  completedGroups : summary.completedGroups
    = (Plan.plan setup.config.groupMergePolicy setup.config.maxQuestionGroups
        brief.text).toFinset.card
  /-- As many tasks have failed as the observer was told of. -/
  failedTasks : (∀ unit ∈ setup.unit, unit.Accountable) →
    summary.failedTasks = Supervisor.failuresTold t
  /-- As many sources as the report lists, and no more than allowed. -/
  sources : summary.sources = report.sources.length ∧
    summary.sources ≤ max 1 setup.config.maxSources
  /-- As many revisions of the report as it says itself. -/
  reportRevisions : summary.reportRevisions = report.revisionCount
  /-- No more revisions of the brief than allowed, -/
  briefRevisions : summary.briefRevisions ≤ setup.config.briefMaxRevisions
  /-- and none if it is not validated. -/
  briefRevisions_of_unvalidated :
    setup.config.briefValidation = false → summary.briefRevisions = 0
  /-- The report says whether the brief was validated and rejected when it was last judged. -/
  briefExceeded : report.briefMaxRevisionsExceeded = true ↔ setup.config.briefValidation = true ∧
    ∃ v, es.getLast? = some (.judged brief.text v) ∧ v.passes = false
  /-- What was used is what all completions that came have used, added up in words, -/
  usage : (∀ unit ∈ setup.unit, unit.Accountable) → summary.usage = spent t
  /-- and so the number of their tokens, as long as words can hold it. -/
  usage_totals : (∀ unit ∈ setup.unit, unit.Accountable) → summary.usage.Totals (t.map usageOf)

/-- Without validation a brief is not revised. -/
theorem getD_briefBound (setup : RunSetup) : (briefBound setup).getD 0
    = if setup.config.briefValidation then setup.config.briefMaxRevisions else 0 := by
  unfold briefBound
  split
  · rfl
  · rfl

/-- There is a bound on the revisions of a brief just when it is validated. -/
theorem isSome_briefBound (setup : RunSetup) :
    (briefBound setup).isSome = setup.config.briefValidation := by
  unfold briefBound
  split
  · next hon => exact hon.symm
  · next hoff => exact (Bool.eq_false_iff.2 hoff).symm

/-- The failures that are counted are those that the observer is told of. -/
theorem Drafted.failedTasks_eq {brief : CompiledBrief} {counts counts' : RunSummary}
    {writing : List Exchange} {report : Report}
    (h : Drafted setup request today brief counts writing report counts')
    (hunits : ∀ unit ∈ setup.unit, unit.Accountable) :
    counts'.failedTasks = Supervisor.failuresTold writing := by
  cases h with
  | drafted hresearch hwriting =>
    -- only in the research the observer is told of tasks
    have hresearch := Supervisor.failuresTold_of_held (accountable_researchUnit hunits) hresearch
    have hwriting := Supervisor.failuresTold_eq_zero
      (((Synthesis.consults_synthesize (fun _ _ _ _ => rfl) _ _ _ _).asks
        Supervisor.untold_admits).of_held hwriting)
    simp only [Supervisor.failuresTold_append, failuresTold_entering, hresearch, hwriting,
      Nat.zero_add, Nat.add_zero]
    rfl

/-- A brief is revised as often as allowed at most, and not at all if it is not validated. -/
theorem revisionCount_le {es : List Brief.Episode} {brief : CompiledBrief}
    (h : Brief.Concluded (briefBound setup) es brief) : brief.revisionCount ≤
      if setup.config.briefValidation then setup.config.briefMaxRevisions else 0 :=
  h.count_le.trans (Nat.le_of_eq (getD_briefBound setup))

/-- What happens from the plan on makes the counts, with what is known of the brief and the bill. -/
theorem Drafted.tallied {es : List Brief.Episode} {brief : CompiledBrief}
    {writing t : List Exchange} {report : Report} {counts : RunSummary}
    (h : Drafted setup request today brief { briefRevisions := brief.revisionCount } writing report
      counts)
    (hbrief : Brief.Concluded (briefBound setup) es brief)
    (htold : Supervisor.failuresTold t = Supervisor.failuresTold writing) (session : RunSession)
    {usage : TokenUsage} (husage : (∀ unit ∈ setup.unit, unit.Accountable) → usage = spent t) :
    Tallied setup es brief t report (summarize session usage counts) := by
  have hfailed := h.failedTasks_eq
  have hrevisions := revisionCount_le hbrief
  cases h with
  | @drafted planned begun consolidated synthesized research writing state report hresearch
      hwriting =>
    obtain ⟨log, hfanned⟩ := Supervisor.exists_fannedOut_of_held hresearch
    have hsize := Plan.one_le_length_plan setup.config.groupMergePolicy
      setup.config.maxQuestionGroups brief.text
    have hsources := Synthesis.sources_of_held hwriting
    refine
      { questionGroups := rfl
        questionGroups_mem := ⟨hsize, Plan.length_plan_le _ _ _⟩
        researchIterations := ?_
        completedGroups := hfanned.length_completed
        failedTasks := fun hunits => (hfailed hunits).trans htold.symm
        sources := ⟨congrArg List.length hsources.symm, Consolidation.length_listed_le _ _ _⟩
        reportRevisions := rfl
        briefRevisions := ?_
        briefRevisions_of_unvalidated := fun hoff => ?_
        briefExceeded := ?_
        usage := husage
        usage_totals := fun hunits => husage hunits ▸ TokenUsage.totals_sum (t.map usageOf) }
    · -- there is something to research, so that there is a round
      have hsome := List.ne_nil_of_length_pos hsize
      exact hfanned.rounds.trans (if_neg hsome)
    · refine hrevisions.trans ?_
      split
      · exact Nat.le_refl _
      · exact Nat.zero_le _
    · rw [hoff] at hrevisions
      exact Nat.le_zero.1 hrevisions
    · rw [← isSome_briefBound]
      exact hbrief.exceeded_iff

/-- A run with a report has the counts that its brief and its exchanges make. -/
theorem tallied_of_held {id : Identifier} {t : List Exchange} {report : Report}
    {summary : RunSummary}
    (h : Held (carryOut setup id today request) t (.report report, summary)) :
    ∃ es brief, Course setup request today t es (.report report) ∧
      Brief.Compiled (briefBound setup) es (.proceed brief) ∧
      Tallied setup es brief t report summary := by
  have husage : (∀ unit ∈ setup.unit, unit.Accountable) → summary.usage = spent t :=
    fun hunits => usage_of_held (accountable_researchUnit hunits) h
  obtain ⟨es, started, ended, before, last, session, counts, rfl, hcourse, hcounted, -, rfl⟩ :=
    summarized_of_held h
  cases hcounted with
  | unreported hnone => exact absurd rfl (hnone report)
  | @reported briefed clarifying compiling writing query es brief report counts hclarify hcompile
      hbrief hdrafted =>
    refine ⟨es, brief, hcourse, hbrief, hdrafted.tallied hbrief.concluded ?_ session husage⟩
    -- nothing is told of tasks before the plan and at the end
    have hclarified := Supervisor.failuresTold_eq_zero
      (((Clarify.consults_clarify (fun _ _ => rfl) _ _ _).asks
        Supervisor.untold_admits).of_held hclarify)
    have hcompiled := Supervisor.failuresTold_eq_zero
      (kind_of_compiling Supervisor.untold_admits hcompile)
    change Supervisor.failuresTold (entering started .clarifying ++
      ((clarifying ++ (entering briefed .compilingBrief ++ (compiling ++ writing))) ++
        entering ended last)) = _
    simp only [Supervisor.failuresTold_append, failuresTold_entering, hclarified, hcompiled,
      Nat.zero_add, Nat.add_zero]

/-- Whatever the services answer, the summary of a run that ends with a report tallies with what
happened in it: with the plan for the brief that was compiled in these episodes, with the report
that is handed back, with what the observer was told and with the completions that came. Those who
are accountable for their research, as whoever researches with the model and the tools is, stay so
when completions take time and the tasks end in any order. -/
theorem tallied_carryOut {σ : Type} (services : Services σ) (state : σ) (setup : RunSetup)
    (id : Identifier) (today : String) (request : RunRequest) :
    let work := carryOut setup id today request
    let trace := work.transcript services state
    ((∀ unit ∈ setup.unit, unit.Accountable) → ∀ unit ∈ setup.paced.unit, unit.Accountable) ∧
    match (work.run services state).1 with
    | (.report report, summary) => ∃ es brief,
      Course setup request today trace es (.report report) ∧
      Brief.Compiled (briefBound setup) es (.proceed brief) ∧
      Tallied setup es brief trace report summary
    | _ => True := by
  intro work trace
  refine ⟨accountable_paced, ?_⟩
  have hheld : Held work trace (work.run services state).1 := held_run services work state
  split
  · next report summary heq =>
    rw [heq] at hheld
    exact tallied_of_held hheld
  · trivial

end CitedReport.Run
