import CitedReport.Proofs.Citation.Place
import CitedReport.Proofs.Consolidation.Sources

/-!
# The citations of the consolidated findings

A number in a note's body refers to the first entry with that number below the note's own heading.
After consolidation it is the position of that entry's URL in the run's list of sources, or it is
gone because the URL is not listed any more; a number without an entry stays as it is written.
`Outcome` states this rule, and `outcome_resolve` that consolidation follows it. So a finding is its
note's body with the rule applied to each number by itself, and a single number can be followed
(`exists_finding_becomesAt`).
-/

namespace CitedReport.Consolidation

open Citation

/-- What becomes of a number of a note with these entries when these sources are listed. -/
inductive Outcome (sources : List ListedSource) (entries : List NoteSource) :
    List Char → Option (List Char) → Prop where
  /-- The digits stand for no number, and stay as written. -/
  | unreadable {digits : List Char} (h : index? digits = none) :
    Outcome sources entries digits (some digits)
  /-- No entry has the number, which stays as written. -/
  | unlisted {digits : List Char} {k : Nat} (h : index? digits = some k)
    (hk : ∀ e ∈ entries, e.number ≠ k) : Outcome sources entries digits (some digits)
  /-- The URL of the first entry with the number is listed, and the number becomes its position,
  counted from one. -/
  | listed {digits : List Char} {k i : Nat} {before after : List NoteSource} {e : NoteSource}
    {s : ListedSource} (h : index? digits = some k) (hentries : entries = before ++ e :: after)
    (hbefore : ∀ e' ∈ before, e'.number ≠ k) (hk : e.number = k) (hs : sources[i]? = some s)
    (hurl : s.url = e.url) : Outcome sources entries digits (some (indexText (i + 1)))
  /-- The URL of the first entry with the number is not listed, and the number goes. -/
  | pruned {digits : List Char} {k : Nat} {before after : List NoteSource} {e : NoteSource}
    (h : index? digits = some k) (hentries : entries = before ++ e :: after)
    (hbefore : ∀ e' ∈ before, e'.number ≠ k) (hk : e.number = k)
    (hurl : ∀ s ∈ sources, s.url ≠ e.url) : Outcome sources entries digits none

/-- In a list of sources that is numbered from one, a source has its position for a number. -/
theorem exists_getElem?_of_mem_numberFrom {first : Nat} {sources : List NoteSource}
    {s : ListedSource} (h : s ∈ numberFrom first sources) :
    ∃ i, (numberFrom first sources)[i]? = some s ∧ s.id = first + i := by
  rw [numberFrom_eq_mapIdx] at h ⊢
  obtain ⟨i, hi, rfl⟩ := List.mem_mapIdx.1 h
  exact ⟨i, by rw [List.getElem?_mapIdx, List.getElem?_eq_getElem hi]; rfl, rfl⟩

/-- Consolidation resolves each number by the rule. -/
theorem outcome_resolve (sources : List NoteSource) (n : Note) (digits : List Char) :
    Outcome (numberFrom 1 sources) n.sources digits
      (resolveDigits (resolve (numberFrom 1 sources) n) digits) := by
  rw [resolveDigits]
  cases hk : index? digits with
  | none => exact .unreadable hk
  | some k =>
    simp only [resolve]
    cases he : n.entry? k with
    | none =>
      refine .unlisted hk fun e hmem => ?_
      simpa using List.find?_eq_none.1 he e hmem
    | some e =>
      -- the first entry with the number is the one that counts
      obtain ⟨hnumber, before, after, hentries, hbefore⟩ := List.find?_eq_some_iff_append.1 he
      have hnumber' : e.number = k := by simpa using hnumber
      have hbefore' : ∀ e' ∈ before, e'.number ≠ k := by simpa using hbefore
      simp only
      cases hs : (numberFrom 1 sources).find? fun s => s.url = e.url with
      | none =>
        refine .pruned hk hentries hbefore' hnumber' fun s hmem => ?_
        simpa using List.find?_eq_none.1 hs s hmem
      | some s =>
        have hurl : s.url = e.url := by simpa using List.find?_some hs
        obtain ⟨i, hi, hid⟩ := exists_getElem?_of_mem_numberFrom (List.mem_of_find?_eq_some hs)
        simp only [hid, Nat.add_comm 1]
        exact .listed hk hentries hbefore' hnumber' hi hurl

/-- The sources of a context are numbered from one. -/
theorem exists_sources_eq (policy : PrunePolicy) (maxSources : Nat) (brief : String)
    (notes : List String) (subject : SubjectType) :
    ∃ chosen,
      (consolidate policy maxSources brief notes subject).sources = numberFrom 1 chosen := by
  obtain ⟨chosen, -, -, hlisted⟩ := exists_listed policy (max 1 maxSources) (notes.map Note.parse)
  exact ⟨chosen, hlisted⟩

/-- A finding is the body of its note with its numbers resolved by the rule. -/
theorem rewritten_finding (policy : PrunePolicy) (maxSources : Nat) (brief : String)
    (notes : List String) (subject : SubjectType) (n : Note) :
    Rewritten (Outcome (consolidate policy maxSources brief notes subject).sources n.sources)
      n.body.toList
      (finding (consolidate policy maxSources brief notes subject).sources n).toList := by
  obtain ⟨chosen, hsources⟩ := exists_sources_eq policy maxSources brief notes subject
  rw [hsources, finding, String.toList_ofList]
  exact rewritten_renumber (outcome_resolve chosen n) _

/-- The findings are those of the notes, in their order. -/
theorem findings_eq_map (policy : PrunePolicy) (maxSources : Nat) (brief : String)
    (notes : List String) (subject : SubjectType) :
    let context := consolidate policy maxSources brief notes subject
    context.findings = notes.map fun note => finding context.sources (Note.parse note) := by
  intro context
  change (notes.map Note.parse).map (finding context.sources) = _
  rw [List.map_map]
  rfl

/-- The finding of a note stands where the note stands. -/
theorem getElem?_findings (policy : PrunePolicy) (maxSources : Nat) (brief : String)
    {notes : List String} (subject : SubjectType) {j : Nat} {note : String}
    (hnote : notes[j]? = some note) :
    let context := consolidate policy maxSources brief notes subject
    context.findings[j]? = some (finding context.sources (Note.parse note)) := by
  intro context
  rw [show context.findings = _ from findings_eq_map .., List.getElem?_map, hnote]
  rfl

/-- There is one finding for each note, in the order of the notes: the note's body, in which every
number of every citation marker has had its own outcome and everything else stands as it stood, but
for the spaces that vanishing markers take along. -/
theorem findings_consolidate (policy : PrunePolicy) (maxSources : Nat) (brief : String)
    (notes : List String) (subject : SubjectType) :
    let context := consolidate policy maxSources brief notes subject
    List.Forall₂ (fun note finding =>
      Rewritten (Outcome context.sources (Note.parse note).sources) (Note.parse note).body.toList
        finding.toList) notes context.findings := by
  intro context
  rw [show context.findings = _ from findings_eq_map .., List.forall₂_map_right_iff,
    List.forall₂_same]
  exact fun note _ => rewritten_finding policy maxSources brief notes subject (Note.parse note)

/-! ## One number of a note -/

/-- The outcome of a number that one entry has to itself: the position of the entry's URL in the
list, or nothing when the URL is not listed. -/
theorem Outcome.of_filter_eq_singleton {sources : List ListedSource} {entries : List NoteSource}
    {n : Nat} {e : NoteSource} {result : Option (List Char)}
    (h : Outcome sources entries (indexText n) result) (hn : n < Word.size)
    (he : entries.filter (fun e => e.number = n) = [e]) :
    (∃ g s, result = some (indexText (g + 1)) ∧ sources[g]? = some s ∧ s.url = e.url) ∨
      (result = none ∧ ∀ s ∈ sources, s.url ≠ e.url) := by
  have hindex := index?_indexText hn
  -- the entry is the only one with the number
  have hmem : ∀ e', e' ∈ entries ∧ e'.number = n ↔ e' = e := by
    intro e'
    have : e' ∈ entries.filter (fun e => e.number = n) ↔ e' ∈ [e] := by rw [he]
    simpa using this
  obtain ⟨hentry, hnumber⟩ := (hmem e).2 rfl
  cases h with
  | unreadable h =>
    rw [hindex] at h
    contradiction
  | unlisted h hk =>
    obtain rfl := Option.some.inj (hindex.symm.trans h)
    exact absurd hnumber (hk e hentry)
  | listed h hentries _ hk hs hurl =>
    obtain rfl := Option.some.inj (hindex.symm.trans h)
    obtain rfl := (hmem _).1 ⟨by simp [hentries], hk⟩
    exact .inl ⟨_, _, rfl, hs, hurl⟩
  | pruned h hentries _ hk hurl =>
    obtain rfl := Option.some.inj (hindex.symm.trans h)
    obtain rfl := (hmem _).1 ⟨by simp [hentries], hk⟩
    exact .inr ⟨rfl, hurl⟩

/-- A URL that is seen is missing in the list only if something was pruned. -/
theorem pruned_pos_of_mem_seen (policy : PrunePolicy) (maxSources : Nat) (brief : String)
    {notes : List String} (subject : SubjectType) {e : NoteSource}
    (he : e ∈ seen (notes.map Note.parse)) :
    let context := consolidate policy maxSources brief notes subject
    (∀ s ∈ context.sources, s.url ≠ e.url) → 0 < context.pruned := by
  intro context hurl
  have hlt : context.sources.length < (seen (notes.map Note.parse)).length :=
    length_listed_lt he hurl
  change 0 < (seen (notes.map Note.parse)).length - context.sources.length
  omega

/-- A URL that an entry of a note has is missing in the list only if something was pruned. -/
theorem pruned_pos (policy : PrunePolicy) (maxSources : Nat) (brief : String)
    {notes : List String} (subject : SubjectType) {note : String} {e : NoteSource}
    (hnote : note ∈ notes)
    (he : (Note.parse note).sources.filter (fun e' => e'.number = e.number) = [e]) :
    let context := consolidate policy maxSources brief notes subject
    (∀ s ∈ context.sources, s.url ≠ e.url) → 0 < context.pruned := by
  intro context hurl
  obtain ⟨e', he', hurl'⟩ := exists_mem_seen (List.mem_map_of_mem hnote) he
  exact pruned_pos_of_mem_seen policy maxSources brief subject he' (hurl' ▸ hurl)

/-- A number is taken out of a note only if something was pruned. -/
theorem resolve_ne_drop (policy : PrunePolicy) (maxSources : Nat) (brief : String)
    {notes : List String} (subject : SubjectType) {note : String} (hnote : note ∈ notes) :
    let context := consolidate policy maxSources brief notes subject
    context.pruned = 0 → ∀ k, resolve context.sources (Note.parse note) k ≠ .drop := by
  intro context hpruned k
  rw [resolve]
  cases he : Note.entry? (Note.parse note) k with
  | none => exact Resolution.noConfusion
  | some e =>
    cases hs : context.sources.find? fun s => s.url = e.url with
    | some s => simp only [hs]; exact Resolution.noConfusion
    | none =>
      exfalso
      have hurl : ∀ s ∈ context.sources, s.url ≠ e.url := fun s hmem => by
        simpa using List.find?_eq_none.1 hs s hmem
      obtain ⟨e', he', hurl'⟩ := exists_mem_seen_of_refers (List.mem_map_of_mem hnote) he
      have hpos := pruned_pos_of_mem_seen policy maxSources brief subject he' (hurl' ▸ hurl)
      exact absurd hpruned (Nat.ne_of_gt hpos)

/-- How many sources are pruned depends on the entries of the notes alone. -/
theorem pruned_congr (policy : PrunePolicy) (maxSources : Nat) (brief : String)
    {notes notes' : List String} (subject : SubjectType)
    (h : notes.map (fun note => (Note.parse note).sources)
      = notes'.map fun note => (Note.parse note).sources) :
    (consolidate policy maxSources brief notes subject).pruned
      = (consolidate policy maxSources brief notes' subject).pruned := by
  have hcount : ∀ notes : List String, (consolidate policy maxSources brief notes subject).pruned
      = (seen (notes.map Note.parse)).length
        - min (max 1 maxSources) (seen (notes.map Note.parse)).length := by
    intro notes
    obtain ⟨chosen, -, hlength, hlisted⟩ :=
      exists_listed policy (max 1 maxSources) (notes.map Note.parse)
    change (seen (notes.map Note.parse)).length
      - (listed policy _ (notes.map Note.parse)).length = _
    rw [hlisted, numberFrom_one, length_numbered, hlength]
  have hseen : ∀ notes : List String, seen (notes.map Note.parse)
      = distinctUrls ((notes.map fun note => (Note.parse note).sources).flatMap
        Note.firstEntries) := by
    intro notes
    rw [seen, List.flatMap_map, List.flatMap_map]
  rw [hcount, hcount, hseen, hseen, h]

/-- A number that one entry of a note has to itself becomes, wherever it stands in the note's body,
the position of that entry's URL in the list, or it goes because its URL was pruned. -/
theorem exists_finding_becomesAt (policy : PrunePolicy) (maxSources : Nat) (brief : String)
    {notes : List String} (subject : SubjectType) {j n : Nat} {note : String} {p : Place}
    {e : NoteSource} (hnote : notes[j]? = some note)
    (hcited : CitedAt (Note.parse note).body.toList p (indexText n)) (hn : n < Word.size)
    (he : (Note.parse note).sources.filter (fun e => e.number = n) = [e]) :
    let context := consolidate policy maxSources brief notes subject
    ∃ finding, context.findings[j]? = some finding ∧
      ∃ result, BecomesAt (Outcome context.sources (Note.parse note).sources)
        (Note.parse note).body.toList finding.toList p result ∧
        ((∃ g s, result = some (indexText (g + 1)) ∧ context.sources[g]? = some s ∧ s.url = e.url) ∨
          (result = none ∧ 0 < context.pruned ∧ ∀ s ∈ context.sources, s.url ≠ e.url)) := by
  intro context
  have hfindings : context.findings[j]? = some (finding context.sources (Note.parse note)) :=
    getElem?_findings policy maxSources brief subject hnote
  obtain ⟨result, hout, hbecomes⟩ :=
    (rewritten_finding policy maxSources brief notes subject (Note.parse note)).becomesAt hcited
  refine ⟨_, hfindings, result, hbecomes, ?_⟩
  rcases hout.of_filter_eq_singleton hn he with hlisted | ⟨rfl, hurl⟩
  · exact .inl hlisted
  · have hnumber : e.number = n := by
      have hmem := List.mem_filter.1 (he ▸ List.mem_singleton_self e)
      simpa using hmem.2
    have hpos := pruned_pos policy maxSources brief subject (List.mem_of_getElem? hnote)
      (hnumber.symm ▸ he) hurl
    exact .inr ⟨rfl, hpos, hurl⟩

end CitedReport.Consolidation
