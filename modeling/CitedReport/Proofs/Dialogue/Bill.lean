import CitedReport.Proofs.Completion.Asks
import CitedReport.Proofs.Dialogue.Cost
import CitedReport.Proofs.Message.Usage

/-!
# What is on the bill

The bill of a dialogue is the sum of what it puts on it, and what it has spent is the usage of the
completions that it got. Nothing in the tree of a dialogue ties the two together: a charge is a
question like any other. But asking the model charges each completion that it gets, once and at
once, and no failed try (`ModelSettings.honest_think`), whatever is made of the completion later. So
all dialogues that get completions in no other way are honest (`Consults.honest`), also side by side
(`Schedule.billed_heard`).

The meter of a dialogue starts with what is on the bill already, and shows in the end what was put
on it besides (`usage_of_held_metered`).
-/

namespace CitedReport

namespace Dialogue

variable {α β : Type}

/-- What an exchange puts on the bill. -/
def chargeOf (x : Exchange) : TokenUsage :=
  match x.query with
  | .charge usage => usage
  | _ => 0

/-- What the completion of an exchange has used, if there is one. -/
def usageOf (x : Exchange) : TokenUsage :=
  match Task.answer? x with
  | some (.ok c) => c.usage
  | _ => 0

/-- What some exchanges put on the bill, added up in words. -/
def billed (t : List Exchange) : TokenUsage := (t.map chargeOf).sum

/-- What the completions of some exchanges have used, added up in words. -/
def spent (t : List Exchange) : TokenUsage := (t.map usageOf).sum

/-- The bill of two series of exchanges is that of both together. -/
@[simp] theorem billed_append (t₁ t₂ : List Exchange) :
    billed (t₁ ++ t₂) = billed t₁ + billed t₂ := by
  rw [billed, List.map_append, List.sum_append, billed, billed]

/-- So is what is spent in them. -/
@[simp] theorem spent_append (t₁ t₂ : List Exchange) : spent (t₁ ++ t₂) = spent t₁ + spent t₂ := by
  rw [spent, List.map_append, List.sum_append, spent, spent]

/-! ## The meter -/

/-- The meter shows what was on the bill before and what was put on it. -/
theorem usage_of_held_metered {d : Dialogue α} {bill : TokenUsage} {t : List Exchange}
    {r : α × TokenUsage} (h : Held (d.metered bill) t r) : r.2 = bill + billed t := by
  -- the bill so far is general, since a charge goes on with another one
  induction d generalizing bill t with
  | done a =>
    obtain ⟨rfl, rfl⟩ := held_done_iff.1 h
    exact (add_zero bill).symm
  | ask q next ih =>
    have hrest : ∀ {x : Exchange} {rest}, billed (x :: rest) = chargeOf x + billed rest :=
      List.sum_cons
    cases q with
    | charge usage =>
      obtain ⟨answer, rest, rfl, hheld⟩ := held_ask_iff.1 h
      rw [ih answer hheld, hrest, ← add_assoc]
      rfl
    | _ =>
      obtain ⟨answer, rest, rfl, hheld⟩ := held_ask_iff.1 h
      rw [ih answer hheld, hrest, chargeOf, zero_add]

/-! ## Honest dialogues -/

/-- However the dialogue is held, what it puts on the bill is what its completions have used. -/
def Honest (d : Dialogue α) : Prop := ∀ t a, Held d t a → billed t = spent t

/-- A value costs nothing. -/
theorem honest_pure (a : α) : Honest (pure a : Dialogue α) := by
  intro t b h
  obtain ⟨rfl, -⟩ := held_pure_iff.1 h
  rfl

/-- An honest dialogue that goes on with honest ones is honest. -/
theorem Honest.bind {d : Dialogue α} {f : α → Dialogue β} (hd : Honest d)
    (hf : ∀ a, Honest (f a)) : Honest (d >>= f) := by
  intro t b h
  obtain ⟨t₁, t₂, a, rfl, h₁, h₂⟩ := held_bind_iff.1 h
  rw [billed_append, spent_append, hd t₁ a h₁, hf a t₂ b h₂]

/-- Those who answer the questions of an honest dialogue may ask others, if neither the bill nor
what is spent depends on that. -/
theorem Honest.answerBy {g : (q : Query) → Dialogue q.Answer} {d : Dialogue α} (hd : Honest d)
    (hcharge : ∀ x part, Held (g x.query) part x.answer → (part.map chargeOf).sum = chargeOf x)
    (husage : ∀ x part, Held (g x.query) part x.answer → (part.map usageOf).sum = usageOf x) :
    Honest (d.answerBy g) := by
  intro t a h
  obtain ⟨xs, hheld, hsum⟩ := exists_sum_of_held_answerBy (M := TokenUsage) h
  calc billed t = billed xs := hsum chargeOf hcharge
    _ = spent xs := hd xs a hheld
    _ = spent t := (hsum usageOf husage).symm

/-- The question has nothing to do with completions and the bill. -/
def Unbilled : Query → Prop
  | .complete _ => False
  | .charge _ => False
  | _ => True

/-- A question of another kind is neither a charge nor a completion. -/
theorem chargeOf_eq_zero {q : Query} (h : Unbilled q) (answer : q.Answer) :
    chargeOf ⟨q, answer⟩ = 0 ∧ usageOf ⟨q, answer⟩ = 0 := by
  cases q with
  | complete request => exact h.elim
  | charge usage => exact h.elim
  | _ => exact ⟨rfl, rfl⟩

/-- Where nothing has to do with the bill, there is nothing on it and nothing is spent. -/
theorem billed_eq_zero {t : List Exchange} (h : ∀ x ∈ t, Unbilled x.query) :
    billed t = 0 ∧ spent t = 0 := by
  constructor
  · refine List.sum_eq_zero fun u hu => ?_
    obtain ⟨x, hx, rfl⟩ := List.mem_map.1 hu
    exact (chargeOf_eq_zero (h x hx) x.answer).1
  · refine List.sum_eq_zero fun u hu => ?_
    obtain ⟨x, hx, rfl⟩ := List.mem_map.1 hu
    exact (chargeOf_eq_zero (h x hx) x.answer).2

/-- So that is honest. -/
theorem honest_of_asks {d : Dialogue α} (hd : d.Asks Unbilled) : Honest d := by
  intro t a h
  obtain ⟨hbilled, hspent⟩ := billed_eq_zero (hd.of_held h)
  rw [hbilled, hspent]

end Dialogue

open Dialogue

/-- Each completion is charged when it comes, and a failed try is not. -/
theorem Task.Tried.billed_eq {request : CompletionRequest} {tries : Nat} {t : List Exchange}
    {r : Except ModelError Completion} (h : Task.Tried request tries t r) :
    billed t = spent t := by
  induction h with
  | answered c =>
    -- what is spent in the first exchange is charged in the second
    change 0 + (c.usage + 0) = c.usage + (0 + 0)
    simp only [zero_add, add_zero]
  | failed e => rfl
  | @again tries ms e paused t r hpause _ ih =>
    have hpaused := honest_of_asks (asks_pause (fun _ => trivial) ms) paused () hpause
    have hfailed : billed [⟨.complete request, .error e⟩]
        = spent [⟨.complete request, .error e⟩] := rfl
    rw [← List.singleton_append, billed_append, billed_append, spent_append, spent_append,
      hfailed, hpaused, ih]

/-- Asking the model is honest, whatever comes of it. -/
theorem ModelSettings.honest_think (s : ModelSettings) (messages : List Message)
    (offered : Option (List ToolDefinition)) : Honest (s.think messages offered) := by
  unfold think
  simp only
  split
  · exact honest_pure _
  · exact fun t r h => (Task.tried_of_held h).billed_eq

namespace Dialogue

variable {α β : Type}

/-- Whoever asks the model, and nobody else about completions, is honest. -/
theorem Consults.honest {d : Dialogue α} (hd : Consults Unbilled d) : Honest d := by
  induction hd with
  | done a => exact honest_pure a
  | @ask q next hq _ ih =>
    have hone : Honest (.ask q .done) := honest_of_asks (asks_one hq)
    exact hone.bind ih
  | think _ ih => exact Honest.bind (ModelSettings.honest_think _ _ _) ih

/-- Dialogues that are honest alone are honest side by side. -/
theorem Schedule.billed_heard {told : α → List Exchange} {cap : Nat}
    {dialogues : List (Dialogue α)} {log : List (Entry α)} (h : Schedule cap 0 [] dialogues log)
    (hhonest : ∀ d ∈ dialogues, Honest d) (htold : ∀ a, ∀ x ∈ told a, Unbilled x.query)
    (now : Nat) : billed (heard told now log) = spent (heard told now log) := by
  obtain ⟨xs, hheld, hsum⟩ := exists_sum_heard (M := TokenUsage) told h
  have hcharges : CountsNo told chargeOf := ⟨fun _ => rfl, fun a => (billed_eq_zero (htold a)).1⟩
  have husages : CountsNo told usageOf := ⟨fun _ => rfl, fun a => (billed_eq_zero (htold a)).2⟩
  rw [billed, spent, hsum chargeOf hcharges, hsum usageOf husages]
  -- both sums go over the same paths, one for each dialogue
  refine Finset.sum_congr rfl fun i hi => ?_
  have hd := List.getElem?_eq_getElem (Finset.mem_range.1 hi)
  obtain ⟨a, ha⟩ := hheld i _ hd
  exact hhonest _ (List.mem_of_getElem? hd) (xs i) a ha

end Dialogue

end CitedReport
