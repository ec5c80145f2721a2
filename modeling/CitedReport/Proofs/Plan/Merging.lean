import CitedReport.Plan

/-!
# How many question groups are planned

The pair that is joined is the earliest of the shortest ones (`shortest_of_shortestPair`). Joining
two neighbours takes one group away, and folding the tail leaves as many groups as there is room
for. So both ways to join leave all groups there is room for, and one at least where there is one
(`length_mergeSmallest`, `length_foldTail`), and no plan has more groups than its cap allows.
-/

namespace CitedReport.Plan

/-! ## The shortest pair -/

/-- The bytes of the pair of neighbours that begins at a place. -/
def pairSize (groups : List String) (i : Nat) : Nat :=
  (groups.getD i "").utf8ByteSize + (groups.getD (i + 1) "").utf8ByteSize

/-- A group more in front moves the pairs by one place. -/
theorem pairSize_cons_succ (g : String) (groups : List String) (i : Nat) :
    pairSize (g :: groups) (i + 1) = pairSize groups i :=
  rfl

/-- The first pair is as long as the first two groups. -/
theorem pairSize_cons_cons_zero (a b : String) (rest : List String) :
    pairSize (a :: b :: rest) 0 = a.utf8ByteSize + b.utf8ByteSize :=
  rfl

/-- The pair of neighbours at a place is the earliest of the shortest ones. -/
structure Shortest (groups : List String) (i : Nat) : Prop where
  /-- There is a pair. -/
  lt_length : i + 1 < groups.length
  /-- Those before it are longer. -/
  earlier : ∀ j < i, pairSize groups i < pairSize groups j
  /-- Those behind it are no shorter. -/
  later : ∀ j, i ≤ j → j + 1 < groups.length → pairSize groups i ≤ pairSize groups j

/-- No pair is shorter. -/
theorem Shortest.le {groups : List String} {i : Nat} (h : Shortest groups i) {j : Nat}
    (hj : j + 1 < groups.length) : pairSize groups i ≤ pairSize groups j := by
  rcases Nat.lt_or_ge j i with hlt | hge
  · exact Nat.le_of_lt (h.earlier j hlt)
  · exact h.later j hge hj

/-- Where there are two groups, there is a shortest pair. -/
theorem exists_shortestPair (i : Nat) {groups : List String} (h : 1 < groups.length) :
    ∃ j size, shortestPair i groups = some (j, size) := by
  match groups, h with
  | a :: b :: rest, _ =>
    rw [shortestPair]
    split
    · split
      · exact ⟨_, _, rfl⟩
      · exact ⟨_, _, rfl⟩
    · exact ⟨_, _, rfl⟩

/-- The pair that is looked for is found. -/
theorem shortest_of_shortestPair {i j size : Nat} {groups : List String}
    (h : shortestPair i groups = some (j, size)) :
    ∃ k, j = i + k ∧ size = pairSize groups k ∧ Shortest groups k := by
  induction groups generalizing i j size with
  | nil => cases h
  | cons a groups ih =>
    cases groups with
    | nil => cases h
    | cons b rest =>
      have hhere := pairSize_cons_cons_zero a b rest
      rw [shortestPair] at h
      split at h
      · next _ there hlater =>
        obtain ⟨k, rfl, rfl, hshortest⟩ := ih hlater
        split at h
        -- the pair is behind the first one, or it is the first one
        · next hless =>
          obtain ⟨rfl, rfl⟩ := Prod.mk.inj (Option.some.inj h)
          have hlt := hshortest.lt_length
          refine ⟨k + 1, by omega, rfl, by simpa using hlt, fun j' hj' => ?_, fun j' hj' hj => ?_⟩
          · cases j' with
            | zero => rwa [hhere]
            | succ j' => exact hshortest.earlier j' (by omega)
          · obtain ⟨j', rfl⟩ : ∃ m, j' = m + 1 := ⟨j' - 1, by omega⟩
            exact hshortest.later j' (by omega) (by simpa using hj)
        · next hless =>
          obtain ⟨rfl, rfl⟩ := Prod.mk.inj (Option.some.inj h)
          refine ⟨0, rfl, hhere.symm, by simp, by simp, fun j' _ hj => ?_⟩
          cases j' with
          | zero => exact Nat.le_refl _
          | succ j' =>
            have hle := hshortest.le (j := j') (by simpa using hj)
            rw [hhere, pairSize_cons_succ]
            omega
      · next hnone =>
        obtain ⟨rfl, rfl⟩ := Prod.mk.inj (Option.some.inj h)
        refine ⟨0, rfl, hhere.symm, by simp, by simp, fun j' _ hj => ?_⟩
        cases j' with
        | zero => exact Nat.le_refl _
        | succ j' =>
          -- with another pair behind it, there would be a shortest one
          have htwo : 1 < (b :: rest).length := by
            simp only [List.length_cons] at hj ⊢
            omega
          obtain ⟨j, size, hpair⟩ := exists_shortestPair (i + 1) htwo
          rw [hnone] at hpair
          cases hpair

/-! ## How many groups are left -/

/-- Joining two neighbours takes one group away. -/
theorem length_joinAt {i : Nat} {groups : List String} (h : i + 1 < groups.length) :
    (joinAt i groups).length + 1 = groups.length := by
  fun_induction joinAt i groups with
  | case1 a b rest => rfl
  | case2 i a rest ih =>
    have := ih (by simpa using h)
    simp only [List.length_cons]
    omega
  | case3 i groups hpair hcons =>
    match i, groups, h with
    | 0, a :: b :: rest, _ => exact (hpair a b rest rfl rfl).elim
    | i + 1, a :: rest, _ => exact (hcons i a rest rfl rfl).elim

/-- Each join takes one group away, as long as there are two. -/
theorem length_mergeTimes {n : Nat} {groups : List String} (h : n < groups.length) :
    (mergeTimes n groups).length = groups.length - n := by
  induction n generalizing groups with
  | zero => rfl
  | succ n ih =>
    obtain ⟨j, size, hpair⟩ := exists_shortestPair 0 (by omega : 1 < groups.length)
    obtain ⟨k, hk, -, hshortest⟩ := shortest_of_shortestPair hpair
    rw [Nat.zero_add] at hk
    have hjoin := length_joinAt hshortest.lt_length
    rw [mergeTimes, hpair, hk]
    simp only
    rw [ih (by omega)]
    omega

/-- Joining shortest pairs leaves as many groups as there is room for. -/
theorem length_mergeSmallest (groups : List String) (cap : Nat) :
    (mergeSmallest groups cap).length = min groups.length (max 1 cap) := by
  unfold mergeSmallest
  by_cases hsome : groups = []
  · rw [hsome]
    simp [mergeTimes]
  · have := List.length_pos_iff.2 hsome
    rw [length_mergeTimes (by omega)]
    omega

/-- Folding the tail leaves as many groups as there is room for. -/
theorem length_foldTail (groups : List String) (cap : Nat) :
    (foldTail groups cap).length = min groups.length (max 1 cap) := by
  unfold foldTail
  simp only
  split
  · omega
  · next h =>
    rw [List.length_append, List.length_take]
    split
    · next hnil =>
      have := List.drop_eq_nil_iff.1 hnil
      omega
    · rw [List.length_singleton]
      omega

/-- A plan has as many groups as the brief, or as many as there is room for. -/
theorem length_plan (policy : MergePolicy) (cap : Nat) (brief : String) :
    (plan policy cap brief).length = min (groups brief).length (max 1 cap) := by
  unfold plan
  cases policy with
  | mergeSmallest =>
    rw [length_mergeSmallest]
    omega
  | foldTail =>
    rw [length_foldTail]
    omega

/-- A plan has at most as many groups as there is room for, and room for one at least. -/
theorem length_plan_le (policy : MergePolicy) (cap : Nat) (brief : String) :
    (plan policy cap brief).length ≤ max 1 cap := by
  rw [length_plan]
  omega

end CitedReport.Plan
