import CitedReport.Proofs.Plan.Lossless

/-!
# Groups are joined with their neighbours

Groups over the cap are cut into runs of neighbours, and each run becomes one group: whichever way
to join is taken, no group is split, dropped, doubled or moved (`neighbours_joined`). That follows
from single joins (`Joined.exists_cut`), however many there are and wherever they happen.

Shortest neighbours are joined in a loop that goes on as long as there are too many groups.
`Merged` is that loop with its own test for the end, and `merged_iff` says that it comes to an end,
after as many rounds as there are groups too many.
-/

namespace CitedReport.Plan

/-- Groups as one, with blank lines between them. -/
def joinRun (run : List String) : String := Text.join "\n\n" run

/-- A run of one group is the group. -/
theorem joinRun_singleton (g : String) : joinRun [g] = g := by
  rw [joinRun, Text.join, String.intercalate_singleton]

/-- Two runs that follow each other are joined like two groups. -/
theorem joinRun_append {run run' : List String} (h : run ≠ []) (h' : run' ≠ []) :
    joinRun (run ++ run') = joinPair (joinRun run) (joinRun run') :=
  String.intercalate_append_of_ne_nil h h'

/-- The runs are the groups, cut between neighbours. -/
structure Cut (groups : List String) (runs : List (List String)) : Prop where
  /-- One after the other they are the groups. -/
  flatten_eq : runs.flatten = groups
  /-- None is empty. -/
  ne_nil : ∀ run ∈ runs, run ≠ []

/-- Joining each run and then all of them is joining the groups. -/
theorem Cut.joinRun_map {groups : List String} {runs : List (List String)} (h : Cut groups runs) :
    joinRun (runs.map joinRun) = joinRun groups := by
  obtain ⟨rfl, hne⟩ := h
  induction runs with
  | nil => rfl
  | cons run rest ih =>
    obtain ⟨hrun, hrest⟩ := List.forall_mem_cons.1 hne
    cases rest with
    | nil => simp [joinRun_singleton]
    | cons run' rest =>
      have hflat : (run' :: rest).flatten ≠ [] := by
        simp [(List.forall_mem_cons.1 hrest).1]
      calc joinRun ((run :: run' :: rest).map joinRun)
          = joinRun ([joinRun run] ++ (run' :: rest).map joinRun) := rfl
        _ = joinPair (joinRun run) (joinRun (run' :: rest).flatten) := by
          rw [joinRun_append (by simp) (by simp), joinRun_singleton, ih hrest]
        _ = joinRun (run :: run' :: rest).flatten := by
          rw [← joinRun_append hrun hflat, List.flatten_cons (l := run)]

/-- What single joins leave of groups are runs, each joined. -/
theorem Joined.exists_cut {groups result : List String} (h : Joined groups result) :
    ∃ runs, Cut groups runs ∧ result = runs.map joinRun := by
  induction h with
  | refl =>
    refine ⟨groups.map fun g => [g], ⟨?_, by simp⟩, ?_⟩
    · rw [← List.flatMap_def, List.flatMap_singleton']
    · simp [joinRun_singleton, Function.comp_def]
  | join _ ih =>
    obtain ⟨runs, ⟨hflatten, hne⟩, heq⟩ := ih
    obtain ⟨before, later, rfl, rfl, hlater⟩ := List.map_eq_append_iff.1 heq.symm
    obtain ⟨run, rest, rfl, rfl, hrest⟩ := List.map_eq_cons_iff.1 hlater
    obtain ⟨run', after, rfl, rfl, rfl⟩ := List.map_eq_cons_iff.1 hrest
    have hrun : run ≠ [] := hne run (by simp)
    have hrun' : run' ≠ [] := hne run' (by simp)
    refine ⟨before ++ (run ++ run') :: after, ⟨?_, fun r hr => ?_⟩, ?_⟩
    · rw [← hflatten]
      simp
    · simp only [List.mem_append, List.mem_cons] at hr
      rcases hr with hr | rfl | hr
      · exact hne r (by simp [hr])
      · exact List.append_ne_nil_of_left_ne_nil hrun run'
      · exact hne r (by simp [hr])
    · rw [List.map_append, List.map_cons, joinRun_append hrun hrun']

/-- The group at a place among the groups stands in the run at the place `r`. -/
def StandsIn (groups : List String) (runs : List (List String)) (i r : Nat) : Prop :=
  ∃ run j, runs[r]? = some run ∧ i = (runs.take r).flatten.length + j ∧ j < run.length ∧
    run[j]? = groups[i]?

/-- Each group stands in one run and in no other. -/
theorem Cut.existsUnique_standsIn {groups : List String} {runs : List (List String)}
    (h : Cut groups runs) {i : Nat} (hi : i < groups.length) : ∃! r, StandsIn groups runs i r := by
  obtain ⟨rfl, -⟩ := h
  refine existsUnique_of_exists_of_unique ?_ ?_
  · induction runs generalizing i with
    | nil => simp at hi
    | cons run rest ih =>
      -- it stands in the first run or in a later one
      by_cases hlt : i < run.length
      · refine ⟨0, run, i, rfl, by simp, hlt, ?_⟩
        rw [List.flatten_cons, List.getElem?_append_left hlt]
      · rw [List.flatten_cons, List.length_append] at hi
        obtain ⟨r, run', j, hrun', hplace, hj, hgroup⟩ := ih (i := i - run.length) (by omega)
        refine ⟨r + 1, run', j, hrun', ?_, hj, ?_⟩
        · rw [List.take_succ_cons, List.flatten_cons, List.length_append]
          omega
        · rw [List.flatten_cons, List.getElem?_append_right (by omega), hgroup]
  · -- a run that comes before another one ends before it begins
    have hbefore : ∀ {r r' : Nat}, StandsIn runs.flatten runs i r →
        StandsIn runs.flatten runs i r' → ¬ r < r' := by
      rintro r r' ⟨run, j, hrun, hplace, hj, -⟩ ⟨run', j', -, hplace', -, -⟩ hlt
      have hend : (runs.take (r + 1)).flatten.length
          = (runs.take r).flatten.length + run.length := by
        rw [List.take_add_one, hrun]
        simp
      obtain ⟨between, hbetween⟩ : runs.take (r + 1) <+: runs.take r' :=
        List.take_prefix_take_left hlt
      rw [← hbetween, List.flatten_append, List.length_append] at hplace'
      omega
    intro r r' hr hr'
    exact Nat.le_antisymm (Nat.le_of_not_lt (hbefore hr' hr)) (Nat.le_of_not_lt (hbefore hr hr'))

/-! ## The loop -/

/-- The loop of joining: as long as there are more groups than there is room for, the earliest of
the shortest pairs of neighbours is joined. -/
inductive Merged (cap : Nat) : List String → List String → Prop where
  /-- There is room. -/
  | done {groups : List String} (h : groups.length ≤ max 1 cap) : Merged cap groups groups
  /-- A pair is joined. -/
  | again {front back result : List String} {a b : String}
    (hover : max 1 cap < (front ++ a :: b :: back).length)
    (hpair : Shortest (front ++ a :: b :: back) front.length)
    (h : Merged cap (front ++ joinPair a b :: back) result) :
    Merged cap (front ++ a :: b :: back) result

/-- There is only one such pair. -/
theorem Shortest.unique {groups : List String} {i i' : Nat} (h : Shortest groups i)
    (h' : Shortest groups i') : i = i' := by
  rcases Nat.lt_trichotomy i i' with hlt | heq | hlt
  · have hless := h'.earlier i hlt
    have hle := h.le h'.lt_length
    omega
  · exact heq
  · have hless := h.earlier i' hlt
    have hle := h'.le h.lt_length
    omega

/-- The loop comes to one result. -/
theorem Merged.unique {cap : Nat} {groups result result' : List String}
    (h : Merged cap groups result) (h' : Merged cap groups result') : result = result' := by
  generalize hsame : groups = groups' at h'
  induction h generalizing groups' with
  | done hroom =>
    cases h' with
    | done => exact hsame
    | again hover =>
      rw [hsame] at hroom
      omega
  | again hover hpair _ ih =>
    cases h' with
    | done hroom =>
      rw [hsame] at hover
      omega
    | again _ hpair' hlater =>
      rw [hsame] at hpair
      obtain ⟨rfl, hback⟩ := List.append_inj hsame (hpair.unique hpair')
      obtain ⟨rfl, rfl, rfl⟩ : _ ∧ _ ∧ _ := by simpa using hback
      exact ih _ rfl hlater

/-- Joining at a place joins the two groups behind those in front of it. -/
theorem joinAt_append (front back : List String) (a b : String) :
    joinAt front.length (front ++ a :: b :: back) = front ++ joinPair a b :: back := by
  induction front with
  | nil => rfl
  | cons g front ih => rw [List.length_cons, List.cons_append, joinAt, ih, List.cons_append]

/-- The rounds that are counted are those of the loop. -/
theorem merged_mergeTimes {cap n : Nat} {groups : List String}
    (h : groups.length - max 1 cap = n) : Merged cap groups (mergeTimes n groups) := by
  induction n generalizing groups with
  | zero => exact .done (by omega)
  | succ n ih =>
    obtain ⟨j, size, hpair⟩ := exists_shortestPair 0 (by omega : 1 < groups.length)
    obtain ⟨k, hk, -, hshortest⟩ := shortest_of_shortestPair hpair
    rw [Nat.zero_add] at hk
    obtain ⟨front, a, b, back, rfl, rfl⟩ : ∃ front a b back,
        groups = front ++ a :: b :: back ∧ front.length = k := by
      have hlt := hshortest.lt_length
      refine ⟨groups.take k, groups[k], groups[k + 1], groups.drop (k + 2), ?_, ?_⟩
      · rw [List.getElem_cons_drop, List.getElem_cons_drop, List.take_append_drop]
      · rw [List.length_take]
        omega
    rw [mergeTimes, hpair, hk]
    simp only [joinAt_append]
    refine .again (by omega) hshortest (ih ?_)
    simp only [List.length_append, List.length_cons] at h ⊢
    omega

/-- The loop comes to an end, and this is its result. -/
theorem merged_iff {cap : Nat} {groups result : List String} :
    Merged cap groups result ↔ result = mergeSmallest groups cap := by
  have hmerged : Merged cap groups (mergeSmallest groups cap) := merged_mergeTimes rfl
  exact ⟨fun h => h.unique hmerged, fun h => h ▸ hmerged⟩

/-! ## Both ways to join -/

/-- Groups over the cap are joined with their neighbours. -/
structure JoinsNeighbours (cap : Nat) (groups result : List String) : Prop where
  /-- All groups are left that there is room for. -/
  length_eq : result.length = min groups.length (max 1 cap)
  /-- They are runs of neighbours, each joined, and every group is in one of the runs. -/
  cut : ∃ runs, Cut groups runs ∧ result = runs.map joinRun ∧
    ∀ i < groups.length, ∃! r, StandsIn groups runs i r
  /-- Joined with blank lines they are the same text as the groups. -/
  joinRun_eq : joinRun result = joinRun groups

/-- Groups that are joined now and then are neighbours that are joined. -/
theorem Joined.joinsNeighbours {cap : Nat} {groups result : List String}
    (h : Joined groups result) (hlength : result.length = min groups.length (max 1 cap)) :
    JoinsNeighbours cap groups result := by
  obtain ⟨runs, hcut, rfl⟩ := h.exists_cut
  exact ⟨hlength, ⟨runs, hcut, rfl, fun i => hcut.existsUnique_standsIn⟩, hcut.joinRun_map⟩

/-- The loop that joins shortest neighbours comes to its one result, and both that way to join and
folding the tail join groups with their neighbours, for any groups and any cap. -/
theorem neighbours_joined (groups : List String) (cap : Nat) :
    (∀ result, Merged cap groups result ↔ result = mergeSmallest groups cap) ∧
      JoinsNeighbours cap groups (mergeSmallest groups cap) ∧
      JoinsNeighbours cap groups (foldTail groups cap) :=
  ⟨fun _ => merged_iff,
    (joined_mergeTimes _ .refl).joinsNeighbours (length_mergeSmallest groups cap),
    (joined_foldTail groups cap).joinsNeighbours (length_foldTail groups cap)⟩

end CitedReport.Plan
