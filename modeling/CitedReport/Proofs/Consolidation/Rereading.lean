import CitedReport.Proofs.Citation.Rereading
import CitedReport.Proofs.Consolidation.Findings

/-!
# The findings, read again

The context says of its findings that they already use the numbers of its list of sources, and the
writer of the report takes each number that it reads there for one of them. When every number that a
note cites has an entry of the note's own, every number that is read in the finding is a position
in the list, and the URL there is one of the note's own entries (`listed_of_mem_indices`).

This takes that no citation that goes lets brackets around it close up to a new one (`Apart`), which
consolidation does not see to: `not_listed_revenue` is about a note on the years
`[2023 [2], 2024]`, whose finding cites the sources 2023 and 2024 once the source of `[2]` is
pruned.
-/

namespace CitedReport.Consolidation

open Citation

/-- No marker of the note vanishes between brackets that stand alone when its citations are made to
refer to these sources. -/
def Apart (sources : List ListedSource) (n : Note) : Prop :=
  ¬ Joins (Marker.survivors (resolve sources n)) (pieces n.body.toList)

/-- The number is the position of a listed source whose URL the note lists too. -/
def RefersToOwn (sources : List ListedSource) (n : Note) (k : Nat) : Prop :=
  1 ≤ k ∧ ∃ s, sources[k - 1]? = some s ∧ ∃ e ∈ n.sources, e.url = s.url

/-- A number that stands for something after its outcome is the position of a listed source, unless
no entry has it. -/
theorem Outcome.refersToOwn {sources : List ListedSource} {n : Note} {digits new : List Char}
    {k : Nat} (h : Outcome sources n.sources digits (some new)) (hk : index? new = some k)
    (hentry : ∀ j, index? digits = some j → ∃ e ∈ n.sources, e.number = j) :
    RefersToOwn sources n k := by
  cases h with
  | unreadable hnone =>
    rw [hnone] at hk
    cases hk
  | unlisted hj hno =>
    obtain ⟨e, he, hnumber⟩ := hentry _ hj
    exact absurd hnumber (hno e he)
  | listed _ hentries _ _ hs hurl =>
    obtain rfl := eq_of_index?_indexText hk
    refine ⟨Nat.le_add_left 1 _, _, hs, _, ?_, hurl.symm⟩
    rw [hentries]
    exact List.mem_append_right _ List.mem_cons_self

/-- In a finding of a note whose citations all have entries, and whose text stays apart where
citations go, every number that is read is the position of a listed source, and the note lists its
URL. -/
theorem listed_of_mem_indices (policy : PrunePolicy) (maxSources : Nat) (brief : String)
    (notes : List String) (subject : SubjectType) {j : Nat} {note finding : String}
    (hnote : notes[j]? = some note)
    (hfinding : (consolidate policy maxSources brief notes subject).findings[j]? = some finding)
    (hentries : ∀ k ∈ indices (Note.parse note).body.toList,
      ∃ e ∈ (Note.parse note).sources, e.number = k)
    (hapart : Apart (consolidate policy maxSources brief notes subject).sources (Note.parse note)) :
    ∀ k ∈ indices finding.toList,
      RefersToOwn (consolidate policy maxSources brief notes subject).sources (Note.parse note)
        k := by
  intro k hk
  obtain ⟨chosen, hsources⟩ := exists_sources_eq policy maxSources brief notes subject
  obtain rfl := Option.some.inj
    ((getElem?_findings policy maxSources brief subject hnote).symm.trans hfinding)
  rw [hsources] at hapart hk ⊢
  rw [Consolidation.finding, String.toList_ofList, indices_eq, digitRuns_renumber hapart] at hk
  obtain ⟨new, hnew, hindex⟩ := List.mem_filterMap.1 hk
  obtain ⟨digits, hdigits, hresolved⟩ := List.mem_filterMap.1 hnew
  have hout := outcome_resolve chosen (Note.parse note) digits
  rw [hresolved] at hout
  refine hout.refersToOwn hindex fun i hi => hentries i ?_
  rw [indices_eq]
  exact List.mem_filterMap.2 ⟨digits, hdigits, hi⟩

/-- A note with one source too many. -/
def salesNote : String :=
  "Sales grew [1, 2] and fell [2]; see [1].\n\n### Sources\n1. https://a.example\n" ++
    "2. https://b.example"

/-- The finding of that note, with room for one source. -/
theorem listed_of_mem_indices_sales :
    let context := consolidate .firstSeen 1 "" [salesNote] .company
    (∀ k ∈ indices (Note.parse salesNote).body.toList,
      ∃ e ∈ (Note.parse salesNote).sources, e.number = k) ∧
    Apart context.sources (Note.parse salesNote) ∧
    ∀ k ∈ indices "Sales grew [1] and fell; see [1].".toList,
      RefersToOwn context.sources (Note.parse salesNote) k := by
  intro context
  have hentries : ∀ k ∈ indices (Note.parse salesNote).body.toList,
      ∃ e ∈ (Note.parse salesNote).sources, e.number = k := by decide +kernel
  have hapart : Apart context.sources (Note.parse salesNote) := by
    have hbrackets : .char '[' ∉ pieces (Note.parse salesNote).body.toList := by decide +kernel
    exact not_joins_of_not_mem hbrackets
  have hfinding : context.findings[0]? = some "Sales grew [1] and fell; see [1]." := by
    decide +kernel
  exact ⟨hentries, hapart,
    listed_of_mem_indices .firstSeen 1 "" [salesNote] .company rfl hfinding hentries hapart⟩

/-- A note on two years, with a citation between them. -/
def revenueNote : String :=
  "Revenue [2023 [2], 2024] grew [1].\n\n### Sources\n1. https://a.example\n" ++
    "2. https://b.example"

/-- Without its condition the rule fails: when the source between the two years goes, they are read
as citations of sources that there are not. -/
theorem not_listed_revenue :
    ¬ ∀ (policy : PrunePolicy) (maxSources : Nat) (brief : String) (notes : List String)
      (subject : SubjectType),
      (∀ note ∈ notes, ∀ k ∈ indices (Note.parse note).body.toList,
        ∃ e ∈ (Note.parse note).sources, e.number = k) →
      ∀ (j : Nat) (note finding : String), notes[j]? = some note →
        (consolidate policy maxSources brief notes subject).findings[j]? = some finding →
        ∀ k ∈ indices finding.toList,
          RefersToOwn (consolidate policy maxSources brief notes subject).sources
            (Note.parse note) k := by
  intro h
  have hentries : ∀ note ∈ [revenueNote], ∀ k ∈ indices (Note.parse note).body.toList,
      ∃ e ∈ (Note.parse note).sources, e.number = k := by decide +kernel
  have hfinding : (consolidate .firstSeen 1 "" [revenueNote] .company).findings[0]?
      = some "Revenue [2023, 2024] grew [1]." := by decide +kernel
  have hread : 2023 ∈ indices "Revenue [2023, 2024] grew [1].".toList := by
    decide +kernel
  have hsources : (consolidate .firstSeen 1 "" [revenueNote] .company).sources[2022]? = none := by
    decide +kernel
  obtain ⟨-, s, hs, -⟩ := h .firstSeen 1 "" [revenueNote] .company hentries 0 revenueNote _ rfl
    hfinding 2023 hread
  rw [hsources] at hs
  cases hs

end CitedReport.Consolidation
