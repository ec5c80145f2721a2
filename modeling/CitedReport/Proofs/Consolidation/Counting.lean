import Mathlib.Algebra.BigOperators.Group.Finset.Piecewise
import Mathlib.Algebra.Ring.Nat
import CitedReport.Proofs.Citation.Rereading
import CitedReport.Proofs.Consolidation.Findings

/-!
# Counting citations

Sources are ranked by how often the notes cite them, and that is counted before anything is
renumbered: what stands between the commas of a marker is read as numbers, and each is looked up in
its note. Renumbering goes through the markers in its own way, number by number and separator by
separator. Here it is said what renumbering refers to (`references`), and that the count is the same
(`citationCount_eq`).

A list with fewer sources takes numbers out of the notes. How many these are is all references less
those to the sources that are kept (`removed_add_sum_citations`).
-/

namespace CitedReport.Consolidation

open Citation

/-! ## What a number is resolved to -/

/-- The sources of a numbered list, one by one. -/
theorem getElem?_numberFrom (first : Nat) (sources : List NoteSource) (i : Nat) :
    (numberFrom first sources)[i]?
      = sources[i]?.map fun e => ⟨first + i, e.url, e.description⟩ := by
  rw [numberFrom_eq_mapIdx, List.getElem?_mapIdx]

section

variable {sources : List NoteSource} {n : Note} {k : Nat} {e : NoteSource}

/-- A number that has no entry stays. -/
theorem resolve_of_entry?_eq_none (listed : List ListedSource) (he : n.entry? k = none) :
    resolve listed n k = .keep := by
  simp only [resolve, he]

/-- A number becomes the position of the source with its URL. -/
theorem exists_resolve_of_mem (hnodup : (sources.map NoteSource.url).Nodup) {s : NoteSource}
    (he : n.entry? k = some e) (hs : s ∈ sources) (hurl : s.url = e.url) :
    ∃ i, sources[i]? = some s ∧ resolve (numberFrom 1 sources) n k = .renumber (i + 1) := by
  cases hfind : (numberFrom 1 sources).find? fun l => l.url = e.url with
  | none =>
    have hmem : e.url ∈ (numberFrom 1 sources).map ListedSource.url := by
      rw [map_url_numberFrom]
      exact List.mem_map.2 ⟨s, hs, hurl⟩
    obtain ⟨l, hl, hlurl⟩ := List.mem_map.1 hmem
    have hne := List.find?_eq_none.1 hfind l hl
    exact absurd hlurl (by simpa using hne)
  | some l =>
    have hlurl : l.url = e.url := by simpa using List.find?_some hfind
    obtain ⟨i, hi, hid⟩ := exists_getElem?_of_mem_numberFrom (List.mem_of_find?_eq_some hfind)
    rw [getElem?_numberFrom] at hi
    obtain ⟨s', hs', rfl⟩ := Option.map_eq_some_iff.1 hi
    have hsame : s' = s :=
      List.inj_on_of_nodup_map hnodup (List.mem_of_getElem? hs') hs (hlurl.trans hurl.symm)
    refine ⟨i, hsame ▸ hs', ?_⟩
    simp only [resolve, he, hfind, Nat.add_comm i 1]

/-- A number goes when there is no source with its URL. -/
theorem resolve_of_forall_ne (he : n.entry? k = some e) (h : ∀ s ∈ sources, s.url ≠ e.url) :
    resolve (numberFrom 1 sources) n k = .drop := by
  have hfind : ((numberFrom 1 sources).find? fun l => l.url = e.url) = none := by
    rw [List.find?_eq_none]
    intro l hl
    obtain ⟨s, hs, hurl, -⟩ := exists_of_mem_numberFrom hl
    simpa [hurl] using h s hs
  simp only [resolve, he, hfind]

end

/-! ## The references of the notes -/

/-- The source, among all that are seen, that renumbering resolves a number of a note to. -/
def sourceOf? (notes : List Note) (n : Note) (digits : List Char) : Option NoteSource :=
  (index? digits).bind fun k =>
    match resolve (numberFrom 1 (seen notes)) n k with
    | .renumber i => (seen notes)[i - 1]?
    | .keep => none
    | .drop => none

/-- The sources that the numbers in the markers of the notes are resolved to, number by number. -/
def references (notes : List Note) : List NoteSource :=
  notes.flatMap fun n => (digitRuns n.body.toList).filterMap (sourceOf? notes n)

/-- How many numbers in the markers of the notes are resolved to a source. -/
def citations (notes : List Note) (s : NoteSource) : Nat := (references notes).count s

section

variable {notes : List Note} {n : Note} {digits : List Char} {k : Nat}

/-- The sources that are seen differ in their URLs. -/
theorem nodup_urls_seen (notes : List Note) : ((seen notes).map NoteSource.url).Nodup :=
  nodup_urls_distinctUrls _

/-- Two sources that are seen are one when they have one URL. -/
theorem eq_of_mem_seen {s s' : NoteSource} (hs : s ∈ seen notes) (hs' : s' ∈ seen notes)
    (hurl : s.url = s'.url) : s = s' :=
  List.inj_on_of_nodup_map (nodup_urls_seen notes) hs hs' hurl

/-- Digits that stand for no number cite no source. -/
theorem sourceOf?_of_index?_eq_none (h : index? digits = none) :
    sourceOf? notes n digits = none := by
  rw [sourceOf?, h, Option.bind_none]

/-- Nor does a number without an entry. -/
theorem sourceOf?_of_entry?_eq_none (hk : index? digits = some k) (he : n.entry? k = none) :
    sourceOf? notes n digits = none := by
  rw [sourceOf?, hk, Option.bind_some, resolve_of_entry?_eq_none _ he]

/-- A number that has an entry in its note is resolved to the source with the URL of the entry. -/
theorem exists_sourceOf?_eq (hn : n ∈ notes) {e : NoteSource} (hk : index? digits = some k)
    (he : n.entry? k = some e) :
    ∃ s ∈ seen notes, s.url = e.url ∧ sourceOf? notes n digits = some s := by
  obtain ⟨s, hs, hurl⟩ := exists_mem_seen_of_refers hn he
  obtain ⟨i, hi, hresolve⟩ := exists_resolve_of_mem (nodup_urls_seen notes) he hs hurl
  refine ⟨s, hs, hurl, ?_⟩
  rw [sourceOf?, hk, Option.bind_some, hresolve]
  exact hi

/-- The references of a note have the URLs that are counted for it. -/
theorem map_url_filterMap_sourceOf? (hn : n ∈ notes) :
    ((digitRuns n.body.toList).filterMap (sourceOf? notes n)).map NoteSource.url
      = citedUrls n := by
  -- the items of a marker are its numbers, so both go through the same digits
  rw [citedUrls, flatMap_items, List.map_filterMap]
  refine List.filterMap_congr fun digits _ => ?_
  cases hk : index? digits with
  | none => rw [sourceOf?_of_index?_eq_none hk, Option.map_none, Option.bind_none]
  | some k =>
    rw [Option.bind_some]
    cases he : n.entry? k with
    | none => rw [sourceOf?_of_entry?_eq_none hk he, Option.map_none]
    | some e =>
      obtain ⟨s, -, hurl, hsource⟩ := exists_sourceOf?_eq hn hk he
      rw [hsource, Option.map_some, Option.map_some, hurl]

/-- All references are to sources that are seen. -/
theorem mem_seen_of_mem_references {s : NoteSource} (h : s ∈ references notes) :
    s ∈ seen notes := by
  obtain ⟨n, hn, hs⟩ := List.mem_flatMap.1 h
  obtain ⟨digits, -, hsource⟩ := List.mem_filterMap.1 hs
  cases hk : index? digits with
  | none =>
    rw [sourceOf?_of_index?_eq_none hk] at hsource
    cases hsource
  | some k =>
    cases he : n.entry? k with
    | none =>
      rw [sourceOf?_of_entry?_eq_none hk he] at hsource
      cases hsource
    | some e =>
      obtain ⟨s', hs', -, hsource'⟩ := exists_sourceOf?_eq hn hk he
      obtain rfl := Option.some.inj (hsource'.symm.trans hsource)
      exact hs'

/-- How often a source is cited is how many numbers are resolved to it. -/
theorem citationCount_eq {s : NoteSource} (hs : s ∈ seen notes) :
    citationCount (notes.flatMap citedUrls) s.url = citations notes s := by
  have hurls : notes.flatMap citedUrls = (references notes).map NoteSource.url := by
    rw [references, List.map_flatMap]
    exact List.flatMap_congr fun n hn => (map_url_filterMap_sourceOf? hn).symm
  rw [citationCount, hurls, ← List.countP_eq_length_filter, List.countP_map, citations,
    List.count]
  -- the one counts by URL, the other by source
  refine List.countP_congr fun s' hs' => ?_
  have hsame : s'.url = s.url → s' = s := eq_of_mem_seen (mem_seen_of_mem_references hs') hs
  constructor
  · intro h
    simpa using hsame (by simpa using h)
  · intro h
    obtain rfl : s' = s := by simpa using h
    simp

end

/-! ## What a shorter list costs -/

/-- How many numbers the markers of a note lose when its citations are made to refer to these
sources. -/
def lost (sources : List ListedSource) (n : Note) : Nat :=
  ((markers n.body.toList).map fun m =>
    m.tokens.length - (m.survivors (resolve sources n)).length).sum

/-- How many numbers are removed from notes altogether. -/
def removed (sources : List ListedSource) (notes : List Note) : Nat :=
  (notes.map (lost sources)).sum

/-- The list with those of the sources that are seen that are to be kept. -/
def keeping (notes : List Note) (keep : Finset NoteSource) : List ListedSource :=
  numberFrom 1 ((seen notes).filter (· ∈ keep))

/-- The numbers that are lost are those whose digits resolve to nothing. -/
theorem lost_eq_countP (sources : List ListedSource) (n : Note) :
    lost sources n
      = (digitRuns n.body.toList).countP fun digits =>
          (resolveDigits (resolve sources n) digits).isNone := by
  rw [lost, digitRuns, List.countP_flatMap]
  refine congrArg List.sum (List.map_congr_left fun m _ => ?_)
  -- the numbers of a marker are those that survive and those that do not
  have hsplit := List.length_eq_countP_add_countP
    (fun t => (resolveDigits (resolve sources n) t.2).isSome) (l := m.tokens)
  have hleft : (m.survivors (resolve sources n)).length
      = m.tokens.countP fun t => (resolveDigits (resolve sources n) t.2).isSome := by
    rw [Marker.survivors, List.length_filterMap_eq_countP]
    simp only [Option.isSome_map]
  have hgone : (m.tokens.map Prod.snd).countP
        (fun digits => (resolveDigits (resolve sources n) digits).isNone)
      = m.tokens.countP fun t =>
          decide ¬(resolveDigits (resolve sources n) t.2).isSome = true := by
    rw [List.countP_map]
    refine List.countP_congr fun t _ => ?_
    simp
  rw [Function.comp_apply, hgone]
  omega

/-- A number goes when the source it refers to is not kept. -/
theorem isNone_resolveDigits_keeping {notes : List Note} {n : Note} (hn : n ∈ notes)
    (keep : Finset NoteSource) (digits : List Char) :
    (resolveDigits (resolve (keeping notes keep) n) digits).isNone
      = ((sourceOf? notes n digits).map fun s => decide (s ∉ keep)).getD false := by
  have hnodup : (((seen notes).filter (· ∈ keep)).map NoteSource.url).Nodup :=
    (nodup_urls_seen notes).sublist (List.filter_sublist.map _)
  rw [resolveDigits]
  cases hk : index? digits with
  | none =>
    rw [sourceOf?_of_index?_eq_none hk]
    rfl
  | some k =>
    cases he : n.entry? k with
    | none =>
      simp only [resolve_of_entry?_eq_none _ he, sourceOf?_of_entry?_eq_none hk he]
      rfl
    | some e =>
      obtain ⟨s, hs, hurl, hsource⟩ := exists_sourceOf?_eq hn hk he
      rw [hsource]
      -- the entry refers to a source that was seen; all depends on whether it is kept
      by_cases hkeep : s ∈ keep
      · have hmem : s ∈ (seen notes).filter (· ∈ keep) := by simp [hs, hkeep]
        obtain ⟨i, -, hresolve⟩ := exists_resolve_of_mem hnodup he hmem hurl
        simp only [keeping, hresolve]
        simp [hkeep]
      · -- no kept source has the URL of this one, since URLs are seen once
        have hne : ∀ s' ∈ (seen notes).filter (· ∈ keep), s'.url ≠ e.url := by
          intro s' hs' hurl'
          obtain ⟨hseen, hkept⟩ := List.mem_filter.1 hs'
          obtain rfl := eq_of_mem_seen hseen hs (hurl'.trans hurl.symm)
          exact hkeep (by simpa using hkept)
        simp only [keeping, resolve_of_forall_ne he hne]
        simp [hkeep]

/-- What is removed is every reference to a source that is not kept. -/
theorem removed_keeping (notes : List Note) (keep : Finset NoteSource) :
    removed (keeping notes keep) notes = (references notes).countP (· ∉ keep) := by
  rw [removed, references, List.countP_flatMap]
  refine congrArg List.sum (List.map_congr_left fun n hn => ?_)
  rw [lost_eq_countP, Function.comp_apply, List.countP_filterMap]
  exact List.countP_congr fun digits _ => by rw [isNone_resolveDigits_keeping hn keep digits]

/-- The elements of a list that are in a set are counted one by one. -/
theorem sum_count_eq_countP {α : Type} [DecidableEq α] (keep : Finset α) (l : List α) :
    ∑ s ∈ keep, l.count s = l.countP (· ∈ keep) := by
  induction l with
  | nil => simp
  | cons a l ih =>
    simp only [List.count_cons, List.countP_cons, Finset.sum_add_distrib, ih, beq_iff_eq,
      Finset.sum_ite_eq, decide_eq_true_eq]

/-- Every reference is removed or leads to a source that is kept. -/
theorem removed_add_sum_citations (notes : List Note) (keep : Finset NoteSource) :
    removed (keeping notes keep) notes + ∑ s ∈ keep, citations notes s
      = (references notes).length := by
  have hsplit := List.length_eq_countP_add_countP (fun s => decide (s ∈ keep))
    (l := references notes)
  simp only [decide_eq_true_eq] at hsplit
  have hkept : ∑ s ∈ keep, citations notes s = (references notes).countP (· ∈ keep) :=
    sum_count_eq_countP keep (references notes)
  rw [removed_keeping, hkept]
  omega

end CitedReport.Consolidation
