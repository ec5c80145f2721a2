import Mathlib.Algebra.BigOperators.Group.Finset.Piecewise
import Mathlib.Algebra.Order.BigOperators.Group.Finset
import Mathlib.Algebra.Ring.Nat
import CitedReport.Proofs.Dialogue.Crew
import CitedReport.Proofs.Task.Answers

/-!
# What a dialogue costs

The cost of a dialogue is the number of completions that it asks for, every attempt counted. `Costs`
bounds it on all paths of the dialogue, whatever is answered, and the bounds of parts add up to one
of the whole (`Costs.bind`).

Dialogues that are held side by side cost together what they cost alone, in any schedule: what is
asked outside belongs to one of them each time, and each of them is held once
(`Schedule.requests_heard_le`).
-/

namespace CitedReport.Dialogue

variable {α β : Type}

/-- How many completions are asked for. -/
def requests (t : List Exchange) : Nat := (Task.answers t).length

/-- No exchanges ask for nothing. -/
@[simp] theorem requests_nil : requests [] = 0 := rfl

/-- The requests of two series of exchanges add up. -/
@[simp] theorem requests_append (t₁ t₂ : List Exchange) :
    requests (t₁ ++ t₂) = requests t₁ + requests t₂ := by
  rw [requests, Task.answers_append, List.length_append, requests, requests]

/-- So do those of the first exchange and the others. -/
theorem requests_cons (x : Exchange) (t : List Exchange) :
    requests (x :: t) = requests [x] + requests t :=
  requests_append [x] t

/-- However the dialogue is held, at most so many completions are asked for. -/
def Costs (n : Nat) (d : Dialogue α) : Prop := ∀ t a, Held d t a → requests t ≤ n

namespace Costs

variable {m n : Nat} {d : Dialogue α}

/-- A bound can be raised. -/
theorem mono (h : Costs m d) (hmn : m ≤ n) : Costs n d := fun t a hd => (h t a hd).trans hmn

/-- A dialogue that goes on with another costs what both cost. -/
theorem bind {f : α → Dialogue β} (hd : Costs m d) (hf : ∀ a, Costs n (f a)) :
    Costs (m + n) (d >>= f) := by
  intro t b h
  obtain ⟨t₁, t₂, a, rfl, h₁, h₂⟩ := held_bind_iff.1 h
  rw [requests_append]
  exact Nat.add_le_add (hd t₁ a h₁) (hf a t₂ b h₂)

/-- Both bounds together can be raised, too. -/
theorem bind_le {k : Nat} {f : α → Dialogue β} (hd : Costs m d) (hf : ∀ a, Costs n (f a))
    (hk : m + n ≤ k) : Costs k (d >>= f) :=
  (hd.bind hf).mono hk

/-- A dialogue that never asks for a completion is free. -/
theorem of_asks (h : d.Asks Task.NoCompletion) (n : Nat) : Costs n d := by
  intro t a hd
  rw [requests, Task.answers_of_asks h hd]
  exact Nat.zero_le n

/-- A value is free. -/
theorem pure (a : α) (n : Nat) : Costs n (Pure.pure a : Dialogue α) :=
  of_asks (d := .done a) trivial n

/-- What comes for free after a dialogue leaves the bound as it is. -/
theorem bind_free {f : α → Dialogue β} (hd : Costs n d) (hf : ∀ a, Costs 0 (f a)) :
    Costs n (d >>= f) :=
  hd.bind hf

/-- So does what comes for free before it. -/
theorem free_bind {f : α → Dialogue β} (hd : d.Asks Task.NoCompletion) (hf : ∀ a, Costs n (f a)) :
    Costs n (d >>= f) :=
  (of_asks hd 0).bind_le hf (Nat.le_of_eq (Nat.zero_add n))

end Costs

/-- Adding up the bill asks for nothing. -/
theorem held_of_held_metered {d : Dialogue α} {bill : TokenUsage} {t : List Exchange}
    {r : α × TokenUsage} (h : Held (d.metered bill) t r) : Held d t r.1 := by
  induction d generalizing bill t with
  | done a =>
    obtain ⟨rfl, rfl⟩ := held_done_iff.1 h
    exact .done a
  | ask q next ih =>
    -- the bill is another one after a charge, and the path is the same
    cases q with
    | charge usage =>
      obtain ⟨answer, rest, rfl, hrest⟩ := held_ask_iff.1 h
      exact .ask _ next answer (ih answer hrest)
    | _ =>
      obtain ⟨answer, rest, rfl, hrest⟩ := held_ask_iff.1 h
      exact .ask _ next answer (ih answer hrest)

/-- A dialogue costs the same when its bill is added up. -/
theorem Costs.metered {n : Nat} {d : Dialogue α} (h : Costs n d) (bill : TokenUsage) :
    Costs n (d.metered bill) :=
  fun t r hd => h t r.1 (held_of_held_metered hd)

/-! ## Side by side -/

section

variable {M : Type} [AddCommMonoid M]

/-- The entries of a log are those of its dialogues, one after the other. -/
theorem sum_map_own {log : List (Entry α)} {n : Nat} (f : Entry α → M)
    (h : ∀ e ∈ log, e.place < n) :
    (log.map f).sum = ∑ i ∈ Finset.range n, ((own i log).map f).sum := by
  induction log with
  | nil => simp [own]
  | cons e log ih =>
    have hplace : e.place ∈ Finset.range n := Finset.mem_range.2 (h e List.mem_cons_self)
    have hown : ∀ i, ((own i (e :: log)).map f).sum
        = (if i = e.place then f e else 0) + ((own i log).map f).sum := by
      intro i
      by_cases hi : i = e.place
      · rw [if_pos hi, hi, own_cons_self, List.map_cons, List.sum_cons]
      · rw [if_neg hi, own_cons_of_ne (Ne.symm hi), zero_add]
    calc ((e :: log).map f).sum = f e + (log.map f).sum := by rw [List.map_cons, List.sum_cons]
      _ = f e + ∑ i ∈ Finset.range n, ((own i log).map f).sum := by
        rw [ih fun e' he' => h e' (List.mem_cons_of_mem e he')]
      _ = ∑ i ∈ Finset.range n, ((own i (e :: log)).map f).sum := by
        rw [Finset.sum_congr rfl fun i _ => hown i, Finset.sum_add_distrib, Finset.sum_ite_eq',
          if_pos hplace]

/-- What is counted is neither in pauses nor in what is told of values. -/
structure CountsNo (told : α → List Exchange) (f : Exchange → M) : Prop where
  /-- Pauses do not count. -/
  pause : ∀ ms, f ⟨.pause ms, ()⟩ = 0
  /-- What is told does not count. -/
  told : ∀ a, ((told a).map f).sum = 0

variable {told : α → List Exchange} {f : Exchange → M}

/-- Nothing is counted between the entries of a log. -/
theorem sum_map_heard (hf : CountsNo told f) (now : Nat) (log : List (Entry α)) :
    ((heard told now log).map f).sum
      = (log.map fun e => ((e.move.heard told).map f).sum).sum := by
  have hpaused : ∀ ms, ((paused ms).map f).sum = 0 := by
    intro ms
    unfold paused
    split
    · rfl
    · rw [List.map_singleton, List.sum_singleton, hf.pause]
  induction log generalizing now with
  | nil => rfl
  | cons e log ih =>
    rw [heard, List.map_append, List.map_append, List.sum_append, List.sum_append, hpaused, ih,
      List.map_cons, List.sum_cons, zero_add]

/-- A dialogue that is held from its beginning to its end counts as much as alone. -/
theorem Schedule.Whole.exists_held (told : α → List Exchange) {i : Nat} {d : Dialogue α}
    {entries : List (Entry α)} (h : Schedule.Whole d i entries) :
    ∃ xs a, Held d xs a ∧ ∀ f : Exchange → M, CountsNo told f →
      (entries.map fun e => ((e.move.heard told).map f).sum).sum = (xs.map f).sum := by
  obtain ⟨start, rest, rfl, asked, xs, a, rfl, hasked, hheld⟩ := h
  refine ⟨xs, a, hheld, fun f hf => ?_⟩
  have hpassed : ∀ x : Exchange, ((passedOn x).map f).sum = f x := by
    rintro ⟨q, answer⟩
    cases q with
    | pause ms => exact (hf.pause ms).symm
    | _ => exact List.sum_singleton
  have hmiddle : (asked.map fun e => ((e.move.heard told).map f).sum).sum = (xs.map f).sum := by
    calc (asked.map fun e => ((e.move.heard told).map f).sum).sum
        = ((asked.map Entry.move).map fun m => ((m.heard told).map f).sum).sum := by
          rw [List.map_map]
          rfl
      _ = (xs.map fun x => ((passedOn x).map f).sum).sum := by
        rw [hasked, List.map_map]
        rfl
      _ = (xs.map f).sum := by rw [List.map_congr_left fun x _ => hpassed x]
  have hends : (((Move.ends a).heard told).map f).sum = 0 := hf.told a
  have hbegins : (((Move.begins : Move α).heard told).map f).sum = 0 := rfl
  simp only [List.map_cons, List.map_append, List.map_nil, List.sum_cons, List.sum_append,
    List.sum_nil, hmiddle, hends, hbegins, zero_add, add_zero]

/-- In any schedule dialogues count together as much as alone. -/
theorem Schedule.exists_sum_heard (told : α → List Exchange) {cap : Nat}
    {dialogues : List (Dialogue α)} {log : List (Entry α)}
    (h : Schedule cap 0 [] dialogues log) :
    ∃ xs : Nat → List Exchange,
      (∀ i d, dialogues[i]? = some d → ∃ a, Held d (xs i) a) ∧
      ∀ f : Exchange → M, CountsNo told f → ∀ now, ((heard told now log).map f).sum
        = ∑ i ∈ Finset.range dialogues.length, ((xs i).map f).sum := by
  -- for each place what its dialogue has asked, which is what it would have asked alone
  have hone : ∀ i, ∃ xs : List Exchange, (∀ d, dialogues[i]? = some d → ∃ a, Held d xs a) ∧
      ∀ f : Exchange → M, CountsNo told f → i < dialogues.length →
        ((own i log).map fun e => ((e.move.heard told).map f).sum).sum = (xs.map f).sum := by
    intro i
    cases hd : dialogues[i]? with
    | none =>
      have hi := List.getElem?_eq_none_iff.1 hd
      exact ⟨[], fun d hd' => absurd hd' (by simp), fun f hf hlt => absurd hlt (Nat.not_lt.2 hi)⟩
    | some d =>
      have hwhole := h.accounts.whole i d hd
      rw [List.length_nil, Nat.zero_add] at hwhole
      obtain ⟨xs, a, hheld, hsum⟩ := hwhole.exists_held (M := M) told
      refine ⟨xs, fun d' hd' => ⟨a, ?_⟩, fun f hf _ => hsum f hf⟩
      rw [← Option.some.inj hd']
      exact hheld
  choose xs hheld hsum using hone
  refine ⟨xs, hheld, fun f hf now => ?_⟩
  -- the sum over the log is the sum over the places
  have hplaces : ∀ e ∈ log, e.place < dialogues.length := fun e he => by
    simpa using h.accounts.places e he
  rw [sum_map_heard hf, sum_map_own _ hplaces]
  exact Finset.sum_congr rfl fun i hi => hsum i f hf (Finset.mem_range.1 hi)

/-! ## Questions that are answered by dialogues -/

/-- When the questions of a dialogue are answered by dialogues that count as much as the questions,
then both count together as much as the dialogue alone. -/
theorem exists_sum_of_held_answerBy {g : (q : Query) → Dialogue q.Answer} {d : Dialogue α}
    {t : List Exchange} {a : α} (h : Held (d.answerBy g) t a) :
    ∃ xs, Held d xs a ∧ ∀ f : Exchange → M,
      (∀ x part, Held (g x.query) part x.answer → (part.map f).sum = f x) →
        (t.map f).sum = (xs.map f).sum := by
  obtain ⟨xs, parts, hheld, rfl, hparts⟩ := held_of_held_answerBy h
  refine ⟨xs, hheld, fun f hf => ?_⟩
  clear h hheld
  induction hparts with
  | nil => rfl
  | @cons x part xs parts hpart _ ih =>
    rw [List.flatten_cons, List.map_append, List.sum_append, ih, hf x part hpart, List.map_cons,
      List.sum_cons]

end

/-- Every exchange is a request or is not. -/
theorem requests_eq_sum (t : List Exchange) : requests t = (t.map fun x => requests [x]).sum := by
  induction t with
  | nil => rfl
  | cons x t ih => rw [requests_cons, ih, List.map_cons, List.sum_cons]

/-- Those who answer the questions of a dialogue may ask others, if that takes no completions but
those that are asked for. -/
theorem Costs.answerBy {n : Nat} {g : (q : Query) → Dialogue q.Answer} {d : Dialogue α}
    (hd : Costs n d) (hg : ∀ x part, Held (g x.query) part x.answer →
      (part.map fun y => requests [y]).sum = requests [x]) : Costs n (d.answerBy g) := by
  intro t a h
  obtain ⟨xs, hheld, hsum⟩ := exists_sum_of_held_answerBy (M := ℕ) h
  rw [requests_eq_sum, hsum _ hg, ← requests_eq_sum]
  exact hd xs a hheld

/-- In any schedule dialogues cost together at most what they cost alone. -/
theorem Schedule.requests_heard_le {told : α → List Exchange} (htold : ∀ a, requests (told a) = 0)
    {cap n : Nat} {dialogues : List (Dialogue α)} {log : List (Entry α)}
    (h : Schedule cap 0 [] dialogues log) (hcost : ∀ d ∈ dialogues, Costs n d) (now : Nat) :
    requests (heard told now log) ≤ dialogues.length * n := by
  have hcounts : CountsNo told fun x => requests [x] :=
    ⟨fun _ => rfl, fun a => by rw [← requests_eq_sum, htold]⟩
  obtain ⟨xs, hheld, hsum⟩ := exists_sum_heard (M := ℕ) told h
  have hone : ∀ i ∈ Finset.range dialogues.length, ((xs i).map fun x => requests [x]).sum ≤ n := by
    intro i hi
    have hd := List.getElem?_eq_getElem (Finset.mem_range.1 hi)
    obtain ⟨a, hheld⟩ := hheld i _ hd
    rw [← requests_eq_sum]
    exact hcost _ (List.mem_of_getElem? hd) (xs i) a hheld
  calc requests (heard told now log)
      = ((heard told now log).map fun x => requests [x]).sum := requests_eq_sum _
    _ = ∑ i ∈ Finset.range dialogues.length, ((xs i).map fun x => requests [x]).sum :=
      hsum _ hcounts now
    _ ≤ (Finset.range dialogues.length).card * n := Finset.sum_le_card_nsmul _ _ n hone
    _ = dialogues.length * n := by rw [Finset.card_range]

end CitedReport.Dialogue
