import CitedReport.Proofs.Supervisor.Accountable

/-!
# The pace of research

The questions of a dialogue take no time but the pauses that it makes itself. `ResearchUnit.paced`
is the same research with time passing before each completion, as much as someone outside says: so
tasks that are in hand together overlap in any way, and end in any order.

Whatever is counted of the exchanges of research, and not of pauses and of who is asked how long
they are, is the same at any pace (`sum_of_held_await`). So a bound on the completions holds at any
pace (`costs_paced`), and so does the account of what is spent (`Accountable.paced`).
-/

namespace CitedReport

open Dialogue

-- a goal about what a stage asks is taken apart by the lemmas, not by running the stage
attribute [local irreducible] Dialogue.Asks

namespace ResearchUnit

/-- How the questions of research on a group are answered when someone outside says how long each
completion takes. -/
def await (group : String) (subject : SubjectType) : (q : Query) → Dialogue q.Answer
  | .complete request => do
    let ms ← Dialogue.delegate group subject
    Dialogue.pause ms
    Dialogue.complete request
  | q => .ask q .done

/-- The same research, with time passing before each completion. -/
def paced (unit : ResearchUnit) : ResearchUnit := fun group subject =>
  (unit group subject).answerBy (await group subject)

section

variable {M : Type} [AddCommMonoid M] {f : Exchange → M} {group : String} {subject : SubjectType}

/-- Waiting does not count, where neither pauses do nor who is asked for them. -/
theorem sum_of_held_await (hdelegate : ∀ ms, f ⟨.delegate group subject, ms⟩ = 0)
    (hpause : ∀ ms, f ⟨.pause ms, ()⟩ = 0) (x : Exchange) (part : List Exchange)
    (h : Held (await group subject x.query) part x.answer) : (part.map f).sum = f x := by
  obtain ⟨q, answer⟩ := x
  cases q with
  | complete request =>
    obtain ⟨t₁, t₂, ms, rfl, hasked, hlater⟩ := held_bind_iff.1 h
    obtain ⟨t₃, t₄, _, rfl, hpaused, hcomplete⟩ := held_bind_iff.1 hlater
    obtain rfl := held_ask_done_iff.1 hasked
    obtain rfl := held_ask_done_iff.1 hcomplete
    have hzero : (t₃.map f).sum = 0 := by
      unfold pause at hpaused
      split at hpaused
      · obtain ⟨rfl, -⟩ := held_done_iff.1 hpaused
        rfl
      · obtain rfl := held_ask_done_iff.1 hpaused
        rw [List.map_singleton, List.sum_singleton, hpause]
    rw [List.map_append, List.map_append, List.sum_append, List.sum_append, hzero,
      List.map_singleton, List.sum_singleton, List.map_singleton, List.sum_singleton, zero_add]
    exact (congrArg (· + _) (hdelegate ms)).trans (zero_add _)
  | _ =>
    obtain rfl := held_ask_done_iff.1 h
    rw [List.map_singleton, List.sum_singleton]

end

/-- At any pace as many completions are asked for. -/
theorem costs_paced {n : Nat} {unit : ResearchUnit} {group : String} {subject : SubjectType}
    (h : Costs n (unit group subject)) : Costs n (unit.paced group subject) :=
  h.answerBy (sum_of_held_await (fun _ => rfl) fun _ => rfl)

/-- At any pace the bill is right, and the supervisor alone tells of tasks. -/
theorem Accountable.paced {unit : ResearchUnit} (h : unit.Accountable) :
    unit.paced.Accountable where
  honest group subject := (h.honest group subject).answerBy
    (sum_of_held_await (fun _ => rfl) fun _ => rfl) (sum_of_held_await (fun _ => rfl) fun _ => rfl)
  untold group subject := by
    refine (h.untold group subject).answerBy fun q hq => ?_
    cases q with
    | complete request =>
      refine (asks_one fun _ => rfl).bind fun ms => ?_
      exact (asks_pause (fun _ _ => rfl) ms).bind fun _ => asks_one fun _ => rfl
    | _ => exact asks_one hq

end ResearchUnit

/-- The same run, with time passing before each completion that the research asks for. -/
def RunSetup.paced (setup : RunSetup) : RunSetup :=
  { setup with unit := some (Run.researchUnit setup).paced }

end CitedReport
