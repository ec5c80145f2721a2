import Mathlib.Algebra.Order.BigOperators.Group.Finset
import CitedReport.Proofs.Consolidation.Counting

/-!
# What pruning to the most cited sources costs

When there are more sources than there is room for, the ones that are cited most are kept, and of
those that are cited as often the ones that were seen first. No other choice of as many sources
takes fewer numbers out of the findings (`losesFewest_consolidate`).

The ranking is a stable sort by the number of citations, so a source that is kept is cited at least
as often as one that is not, and ties are settled by the order in which sources are seen
(`citations_le_of_mem_best`, `lt_of_citations_eq`). That a set of sources chosen in this way is
cited as often as any other of its size is a fact about sums (`sum_le_sum_of_preferred`), and what
is not cited is what is lost (`removed_add_sum_citations`).
-/

namespace CitedReport.Consolidation

/-- Of all sets of `m` of the sources that are seen, this one costs the notes the fewest numbers. -/
structure LosesFewest (notes : List Note) (m : Nat) (keep : Finset NoteSource) : Prop where
  /-- The sources are among those that are seen. -/
  subset : keep ⊆ (seen notes).toFinset
  /-- There are `m` of them. -/
  card : keep.card = m
  /-- No other `m` sources are cited more often. -/
  most : ∀ other ⊆ (seen notes).toFinset, other.card = m →
    ∑ s ∈ other, citations notes s ≤ ∑ s ∈ keep, citations notes s
  /-- No other `m` sources take fewer numbers out of the notes. -/
  fewest : ∀ other ⊆ (seen notes).toFinset, other.card = m →
    removed (keeping notes keep) notes ≤ removed (keeping notes other) notes
  /-- Each of them is cited more often than a source that is not kept, or as often and is seen
  before it. -/
  preferred : ∀ (i j : Nat) (a b : NoteSource), (seen notes)[i]? = some a →
    (seen notes)[j]? = some b → a ∈ keep → b ∉ keep →
    citations notes b < citations notes a ∨ citations notes a = citations notes b ∧ i < j

/-! ## Choosing from the front -/

/-- When the elements of a set count at least as much as the others, the set counts at least as much
as any other of its size. -/
theorem sum_le_sum_of_preferred {α : Type} [DecidableEq α] {keep other : Finset α} (count : α → Nat)
    (hcard : other.card = keep.card) (h : ∀ a ∈ keep, ∀ b ∉ keep, b ∈ other → count b ≤ count a) :
    ∑ s ∈ other, count s ≤ ∑ s ∈ keep, count s := by
  rw [← Finset.sum_sdiff_le_sum_sdiff]
  -- what the sets do not share has one size, and the greatest count of one side lies in between
  have hsize : (other \ keep).card = (keep \ other).card := Finset.card_sdiff_comm hcard
  calc ∑ s ∈ other \ keep, count s
      ≤ (other \ keep).card • (other \ keep).sup count :=
        Finset.sum_le_card_nsmul _ _ _ fun b hb => Finset.le_sup hb
    _ = (keep \ other).card • (other \ keep).sup count := by rw [hsize]
    _ ≤ ∑ s ∈ keep \ other, count s := by
        refine Finset.card_nsmul_le_sum _ _ _ fun a ha => Finset.sup_le fun b hb => ?_
        obtain ⟨hother, hkeep⟩ := Finset.mem_sdiff.1 hb
        exact h a (Finset.mem_sdiff.1 ha).1 b hkeep hother

/-- What is kept is the first of the ranked sources. -/
theorem kept_eq_filter (policy : PrunePolicy) (cap : Nat) (notes : List Note)
    {sources : List NoteSource} (h : (sources.map NoteSource.url).Nodup) :
    kept policy cap notes sources
      = sources.filter (· ∈ ((ranked policy notes sources).take cap).toFinset) := by
  -- what is kept is told by its URL, and no two sources have the same
  refine List.filter_congr fun s hs => ?_
  rw [Bool.eq_iff_iff, List.any_eq_true, decide_eq_true_eq, List.mem_toFinset]
  constructor
  · rintro ⟨b, hb, hurl⟩
    have hmem : b ∈ sources :=
      (ranked_perm policy notes sources).mem_iff.1 (List.mem_of_mem_take hb)
    obtain rfl := List.inj_on_of_nodup_map h hmem hs (by simpa using hurl)
    exact hb
  · intro hbest
    exact ⟨s, hbest, by simp⟩

section

variable (policy : PrunePolicy) {notes : List Note} {cap : Nat}

/-- The sources that are preferred when there is room for so many. -/
def best (cap : Nat) (notes : List Note) : Finset NoteSource :=
  ((ranked policy notes (seen notes)).take cap).toFinset

/-- The preferred sources are among those that are seen. -/
theorem best_subset : best policy cap notes ⊆ (seen notes).toFinset := by
  intro s hs
  have hranked : s ∈ ranked policy notes (seen notes) :=
    List.mem_of_mem_take (List.mem_toFinset.1 hs)
  exact List.mem_toFinset.2 ((ranked_perm policy notes _).mem_iff.1 hranked)

/-- They are as many as there is room for. -/
theorem card_best (hcap : cap < (seen notes).length) : (best policy cap notes).card = cap := by
  have hperm := ranked_perm policy notes (seen notes)
  have hnodup : (ranked policy notes (seen notes)).Nodup :=
    hperm.nodup_iff.2 (List.Nodup.of_map _ (nodup_urls_seen notes))
  rw [best, List.toFinset_card_of_nodup (hnodup.sublist (List.take_sublist _ _)), List.length_take,
    hperm.length_eq]
  omega

/-- They are the ones that are listed. -/
theorem listed_eq_keeping (hcap : cap < (seen notes).length) :
    listed policy cap notes = keeping notes (best policy cap notes) := by
  rw [listed, if_pos hcap, kept_eq_filter policy cap notes (nodup_urls_seen notes)]
  rfl

end

/-! ## The most cited sources -/

section

variable {notes : List Note} {cap : Nat} {a b : NoteSource}

/-- A source that is cited at least as often may come first. -/
def mayPrecede (notes : List Note) (a b : NoteSource) : Bool :=
  citationCount (notes.flatMap citedUrls) b.url ≤ citationCount (notes.flatMap citedUrls) a.url

/-- The order by citations is transitive. -/
theorem mayPrecede_trans (a b c : NoteSource) (hab : mayPrecede notes a b = true)
    (hbc : mayPrecede notes b c = true) : mayPrecede notes a c = true := by
  unfold mayPrecede at hab hbc ⊢
  rw [decide_eq_true_eq] at hab hbc ⊢
  omega

/-- Of two sources one may precede the other. -/
theorem mayPrecede_total (a b : NoteSource) :
    (mayPrecede notes a b || mayPrecede notes b a) = true := by
  unfold mayPrecede
  rw [Bool.or_eq_true, decide_eq_true_eq, decide_eq_true_eq]
  omega

/-- The ranking is a stable sort. -/
theorem ranked_mostCited (sources : List NoteSource) :
    ranked .mostCited notes sources = sources.mergeSort (mayPrecede notes) :=
  rfl

/-- Among sources that are seen, the numbers that are resolved to them decide. -/
theorem mayPrecede_iff (ha : a ∈ seen notes) (hb : b ∈ seen notes) :
    mayPrecede notes a b = true ↔ citations notes b ≤ citations notes a := by
  rw [mayPrecede, decide_eq_true_eq, citationCount_eq ha, citationCount_eq hb]

/-- A source that is not among the preferred ones stands behind them in the ranking. -/
theorem mem_drop_of_not_mem_best (hb : b ∈ seen notes) (hnot : b ∉ best .mostCited cap notes) :
    b ∈ (ranked .mostCited notes (seen notes)).drop cap := by
  have hranked : b ∈ ranked .mostCited notes (seen notes) :=
    (ranked_perm .mostCited notes _).mem_iff.2 hb
  rw [← List.take_append_drop cap (ranked .mostCited notes (seen notes))] at hranked
  rcases List.mem_append.1 hranked with htake | hdrop
  · exact absurd (List.mem_toFinset.2 htake) hnot
  · exact hdrop

/-- A preferred source is cited at least as often as one that is not. -/
theorem citations_le_of_mem_best (ha : a ∈ best .mostCited cap notes) (hb : b ∈ seen notes)
    (hnot : b ∉ best .mostCited cap notes) : citations notes b ≤ citations notes a := by
  have hsorted : (ranked .mostCited notes (seen notes)).Pairwise
      fun a b => mayPrecede notes a b = true := by
    rw [ranked_mostCited]
    exact List.pairwise_mergeSort mayPrecede_trans mayPrecede_total _
  rw [← List.take_append_drop cap (ranked .mostCited notes (seen notes)),
    List.pairwise_append] at hsorted
  have haseen : a ∈ seen notes := List.mem_toFinset.1 (best_subset .mostCited ha)
  have hprecede := hsorted.2.2 a (List.mem_toFinset.1 ha) b (mem_drop_of_not_mem_best hb hnot)
  exact (mayPrecede_iff haseen hb).1 hprecede

/-- Of two positions in a list the one in front is found first. -/
theorem pair_sublist_of_lt {α : Type} {l : List α} {i j : Nat} {x y : α} (hx : l[i]? = some x)
    (hy : l[j]? = some y) (hij : i < j) : [x, y].Sublist l := by
  have hfront : x ∈ l.take j := by
    have htake : (l.take j)[i]? = some x := by rw [List.getElem?_take_of_lt hij, hx]
    exact List.mem_of_getElem? htake
  have hback : y ∈ l.drop j := by
    have hdrop : (l.drop j)[0]? = some y := by rw [List.getElem?_drop, Nat.add_zero, hy]
    exact List.mem_of_getElem? hdrop
  have happend : ([x] ++ [y]).Sublist (l.take j ++ l.drop j) :=
    (List.singleton_sublist.2 hfront).append (List.singleton_sublist.2 hback)
  rwa [List.take_append_drop] at happend

/-- When it is cited only as often, it is seen before. -/
theorem lt_of_citations_eq {i j : Nat} (hi : (seen notes)[i]? = some a)
    (hj : (seen notes)[j]? = some b) (ha : a ∈ best .mostCited cap notes)
    (hnot : b ∉ best .mostCited cap notes) (heq : citations notes a = citations notes b) :
    i < j := by
  by_contra hge
  have hne : i ≠ j := by
    rintro rfl
    obtain rfl := Option.some.inj (hi.symm.trans hj)
    exact hnot ha
  have hlt : j < i := by omega
  -- the sort is stable, so what was in front stays in front
  have hprecede : mayPrecede notes b a = true :=
    (mayPrecede_iff (List.mem_of_getElem? hj) (List.mem_of_getElem? hi)).2 heq.le
  have hranked : [b, a].Sublist (ranked .mostCited notes (seen notes)) := by
    rw [ranked_mostCited]
    exact List.pair_sublist_mergeSort mayPrecede_trans mayPrecede_total hprecede
      (pair_sublist_of_lt hj hi hlt)
  have hnodup : (ranked .mostCited notes (seen notes)).Nodup :=
    (ranked_perm .mostCited notes _).nodup_iff.2 (List.Nodup.of_map _ (nodup_urls_seen notes))
  rw [← List.take_append_drop cap (ranked .mostCited notes (seen notes))] at hranked hnodup
  obtain ⟨front, back, hsplit, hfront, hback⟩ := List.sublist_append_iff.1 hranked
  cases front with
  | nil =>
    -- then the preferred source would stand behind the preferred ones
    obtain rfl : [b, a] = back := hsplit
    have hdrop : a ∈ (ranked .mostCited notes (seen notes)).drop cap := hback.mem (by simp)
    exact List.disjoint_of_nodup_append hnodup (List.mem_toFinset.1 ha) hdrop
  | cons c front =>
    obtain ⟨rfl, -⟩ := List.cons.inj hsplit
    exact hnot (List.mem_toFinset.2 (hfront.mem List.mem_cons_self))

/-- The most cited sources lose the fewest numbers. -/
theorem losesFewest_best (hcap : cap < (seen notes).length) :
    LosesFewest notes cap (best .mostCited cap notes) := by
  have hmost : ∀ other ⊆ (seen notes).toFinset, other.card = cap →
      ∑ s ∈ other, citations notes s ≤ ∑ s ∈ best .mostCited cap notes, citations notes s := by
    intro other hother hcard
    refine sum_le_sum_of_preferred (citations notes) (hcard.trans (card_best _ hcap).symm) ?_
    intro a ha b hnot hb
    exact citations_le_of_mem_best ha (List.mem_toFinset.1 (hother hb)) hnot
  exact {
    subset := best_subset .mostCited
    card := card_best .mostCited hcap
    most := hmost
    fewest := by
      intro other hother hcard
      have hsum := hmost other hother hcard
      have hbest := removed_add_sum_citations notes (best .mostCited cap notes)
      have hthat := removed_add_sum_citations notes other
      omega
    preferred := by
      intro i j a b hi hj ha hnot
      have hle := citations_le_of_mem_best ha (List.mem_of_getElem? hj) hnot
      rcases Nat.lt_or_eq_of_le hle with hlt | heq
      · exact .inl hlt
      · exact .inr ⟨heq.symm, lt_of_citations_eq hi hj ha hnot heq.symm⟩ }

end

/-- Under the policy of the most cited sources a consolidation with more sources than there is room
for keeps the sources that lose the notes the fewest numbers. So it removes no more of them than the
policy of the sources seen first. -/
theorem losesFewest_consolidate (maxSources : Nat) (brief : String) (notes : List String)
    (subject : SubjectType) (hcap : max 1 maxSources < (seen (notes.map Note.parse)).length) :
    let parsed := notes.map Note.parse
    let context := consolidate .mostCited maxSources brief notes subject
    let firstSeen := consolidate .firstSeen maxSources brief notes subject
    (∃ keep, LosesFewest parsed (max 1 maxSources) keep ∧
      context.sources = keeping parsed keep) ∧
      removed context.sources parsed ≤ removed firstSeen.sources parsed := by
  intro parsed context firstSeen
  have hbest : LosesFewest parsed (max 1 maxSources) (best .mostCited (max 1 maxSources) parsed) :=
    losesFewest_best hcap
  have hsources : context.sources = keeping parsed (best .mostCited (max 1 maxSources) parsed) :=
    listed_eq_keeping .mostCited hcap
  have hfirst : firstSeen.sources = keeping parsed (best .firstSeen (max 1 maxSources) parsed) :=
    listed_eq_keeping .firstSeen hcap
  refine ⟨⟨_, hbest, hsources⟩, ?_⟩
  rw [hsources, hfirst]
  exact hbest.fewest _ (best_subset .firstSeen) (card_best .firstSeen hcap)

/-- A note that cites its second source more often than its first. -/
def loudNote : String :=
  "Acme makes anvils [1]. They are heavy [2], and loud [2].\n\n### Sources\n" ++
    "1. https://acme.example\n2. https://anvils.example"

/-- Of two sources the one that is cited more is kept. -/
theorem losesFewest_consolidate_loud :
    max 1 1 < (seen ([loudNote].map Note.parse)).length ∧
      (∃ keep, LosesFewest ([loudNote].map Note.parse) (max 1 1) keep ∧
        (consolidate .mostCited 1 "" [loudNote] .company).sources
          = keeping ([loudNote].map Note.parse) keep) ∧
      removed (consolidate .mostCited 1 "" [loudNote] .company).sources ([loudNote].map Note.parse)
        ≤ removed (consolidate .firstSeen 1 "" [loudNote] .company).sources
            ([loudNote].map Note.parse) := by
  have hcap : max 1 1 < (seen ([loudNote].map Note.parse)).length := by decide +kernel
  exact ⟨hcap, losesFewest_consolidate 1 "" [loudNote] .company hcap⟩

example :
    (seen ([loudNote].map Note.parse)).map (citations ([loudNote].map Note.parse)) = [1, 2] := by
  decide +kernel

end CitedReport.Consolidation
