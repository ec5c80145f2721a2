import CitedReport.Proofs.Dialogue.Bill
import CitedReport.Proofs.Run.Questions
import CitedReport.Proofs.Supervisor.FanOut

/-!
# Accountable research

The summary of a run finds the failed tasks in the notes of the supervisor and what was spent on the
bill, neither of them where it happens. Both are right when those who research are accountable: they
put on the bill what their completions use, and leave it to the supervisor to tell of the end of
tasks (`Supervisor.honest_supervise`, `Supervisor.failuresTold_of_held`).

Whoever researches with the model and the tools is accountable (`accountable_execute`).
-/

namespace CitedReport

open Dialogue

-- a goal about what a stage asks is taken apart by the lemmas, not by running the stage
attribute [local irreducible] Dialogue.Asks

namespace Supervisor

/-- How often the observer is told that a task has failed. -/
def failuresTold (t : List Exchange) : Nat := (t.filterMap told?).countP Prod.snd

/-- The failures that are told of add up. -/
@[simp] theorem failuresTold_append (t₁ t₂ : List Exchange) :
    failuresTold (t₁ ++ t₂) = failuresTold t₁ + failuresTold t₂ := by
  rw [failuresTold, List.filterMap_append, List.countP_append, failuresTold, failuresTold]

/-- The question does not tell of the end of a task. -/
def Untold (q : Query) : Prop := ∀ answer, told? ⟨q, answer⟩ = none

/-- Asking the model tells of no task. -/
theorem untold_admits : AdmitsModel Untold := ⟨fun _ _ => rfl, fun _ _ => rfl, fun _ _ => rfl⟩

/-- Where nobody tells of tasks no failure is told of. -/
theorem failuresTold_eq_zero {t : List Exchange} (h : ∀ x ∈ t, Untold x.query) :
    failuresTold t = 0 := by
  rw [failuresTold, List.filterMap_eq_nil_iff.2 fun x hx => h x hx x.answer, List.countP_nil]

end Supervisor

namespace ResearchUnit

/-- What research puts on the bill is what it has spent, and it tells nobody of the end of tasks. -/
structure Accountable (unit : ResearchUnit) : Prop where
  /-- The bill is right. -/
  honest : ∀ group subject, Honest (unit group subject)
  /-- The supervisor alone tells of tasks. -/
  untold : ∀ group subject, (unit group subject).Asks Supervisor.Untold

/-- Research with the model and the tools is accountable. -/
theorem accountable_execute (s : ModelSettings) (tools : Toolbox) (maxTurns : Nat) :
    Accountable (Task.execute s tools maxTurns) where
  honest group subject := Consults.honest
    (Task.consults_execute (fun _ _ => trivial) (fun _ => trivial) s tools maxTurns group subject)
  untold group subject := Consults.asks
    (Task.consults_execute (fun _ _ _ => rfl) (fun _ _ => rfl) s tools maxTurns group subject)
    Supervisor.untold_admits

end ResearchUnit

/-! ## The supervisor's account -/

namespace Supervisor

variable {unit : ResearchUnit} {limits : Limits} {groups : List String} {subject : SubjectType}

/-- What is spent on all groups together is on the bill. -/
theorem honest_supervise (h : unit.Accountable) :
    Honest (supervise unit limits groups subject) := by
  intro t state hheld
  obtain ⟨log, hlog, hfanned⟩ := exists_schedule_of_held hheld
  have hhonest : ∀ d ∈ groups.map (hold unit subject), Honest d := by
    intro d hd
    obtain ⟨group, -, rfl⟩ := List.mem_map.1 hd
    exact (h.honest group subject).bind fun _ => honest_pure _
  have hannounced : ∀ r, ∀ x ∈ announcement r, Unbilled x.query := by
    intro r x hx
    obtain rfl := List.mem_singleton.1 hx
    exact trivial
  -- whatever the order in which the groups are asked for, each is held as if alone
  rw [hfanned.asked]
  exact hlog.billed_heard hhonest hannounced 0

/-- The failures that the observer is told of are those that the notes tell. -/
theorem failuresTold_of_held (h : unit.Accountable) {t : List Exchange} {state : SupervisorState}
    (hheld : Held (supervise unit limits groups subject) t state) :
    failuresTold t = Run.failedTasks state.notes := by
  obtain ⟨log, hfanned⟩ := exists_fannedOut_of_held hheld
  rw [failuresTold, hfanned.announced fun g _ => h.untold g subject, hfanned.notes, Run.failedTasks,
    ← List.countP_eq_length_filter, List.countP_map, List.countP_map]
  rfl

end Supervisor

end CitedReport
