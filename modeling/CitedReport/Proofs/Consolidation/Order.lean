import CitedReport.Proofs.Consolidation.Rereading
import CitedReport.Proofs.Relationship.Digits

/-!
# Notes in another order

Question groups end in any order, and that is the order of their notes. The numbers of the sources,
their descriptions and the texts of the findings depend on it. `SameEvidence` says what does not,
and `sameEvidence_of_perm` that this is so as long as there is room for every source.

Two contexts are not compared with each other. The set of URLs, what the citations of a finding lead
to, and what is on record are each determined from the notes, without their order: the URLs are
those of the entries (`mem_urls_seen`), a citation still leads where it led in the note
(`urlsRead_finding`), and a status counts wherever it stands (`recorded_perm`).
-/

namespace CitedReport.Consolidation

open Citation Relationship

/-! ## The URLs -/

/-- The same URLs are seen in any order of the notes. -/
theorem urls_seen_perm {notes notes' : List Note} (h : notes.Perm notes') :
    ((seen notes).map NoteSource.url).Perm ((seen notes').map NoteSource.url) := by
  refine (List.perm_ext_iff_of_nodup (nodup_urls_distinctUrls _) (nodup_urls_distinctUrls _)).2
    fun url => ?_
  rw [← seen, ← seen, mem_urls_seen, mem_urls_seen]
  simp only [h.mem_iff]

/-! ## Where the citations lead -/

/-- The URL of the source in the list that these digits are the number of. -/
def urlAt? (sources : List ListedSource) (digits : List Char) : Option String :=
  (sources.find? fun s => s.id = Word.valueOf digits).map ListedSource.url

/-- What a reader comes to who looks up a citation in the list of sources, if its number stood for
an entry in the note, where it was written with other digits. -/
def lookedUp? (sources : List ListedSource) (n : Note) (digits new : List Char) :
    Option (Option String) :=
  if ∃ e ∈ n.sources, index? digits = some e.number then some (urlAt? sources new) else none

/-- What a reader of a finding comes to who looks up its citations one by one. -/
def urlsRead (sources : List ListedSource) (n : Note) (finding : String) :
    List (Option String) :=
  ((digitRuns n.body.toList).zip (digitRuns finding.toList)).filterMap fun p =>
    lookedUp? sources n p.1 p.2

/-- Each source of a list that is numbered from one is found under its number. -/
theorem urlAt?_indexText {chosen : List NoteSource} {s : ListedSource}
    (hs : s ∈ numberFrom 1 chosen) :
    urlAt? (numberFrom 1 chosen) (indexText s.id) = some s.url := by
  have hids : ((numberFrom 1 chosen).map ListedSource.id).Nodup := by
    rw [map_id_numberFrom]
    exact List.nodup_range'
  rw [urlAt?, valueOf_indexText]
  cases hfind : (numberFrom 1 chosen).find? fun s' => s'.id = s.id with
  | none => simpa using List.find?_eq_none.1 hfind s hs
  | some s' =>
    have hid : s'.id = s.id := by simpa using List.find?_some hfind
    rw [List.inj_on_of_nodup_map hids (List.mem_of_find?_eq_some hfind) hs hid]
    rfl

/-- A number that stands for an entry is replaced by the number of a source with its URL, if it is
not taken out. -/
theorem exists_resolveDigits_of_entry {sources : List ListedSource} {n : Note} {k : Nat}
    {digits : List Char} {e : NoteSource} (hk : index? digits = some k) (he : n.entry? k = some e)
    (hkeep : resolve sources n k ≠ .drop) :
    ∃ s ∈ sources, s.url = e.url ∧
      resolveDigits (resolve sources n) digits = some (indexText s.id) := by
  cases hs : sources.find? fun s => s.url = e.url with
  | none =>
    have hdrop : resolve sources n k = .drop := by simp only [resolve, he, hs]
    exact absurd hdrop hkeep
  | some s =>
    have hresolve : resolve sources n k = .renumber s.id := by simp only [resolve, he, hs]
    refine ⟨s, List.mem_of_find?_eq_some hs, by simpa using List.find?_some hs, ?_⟩
    simp only [resolveDigits, hk, hresolve]

/-- A number has an entry if it is the number of one. -/
theorem exists_entry?_iff {n : Note} {digits : List Char} :
    (∃ e ∈ n.sources, index? digits = some e.number)
      ↔ ∃ k e, index? digits = some k ∧ n.entry? k = some e := by
  constructor
  · rintro ⟨e, he, hindex⟩
    have hsome : (n.entry? e.number).isSome := List.find?_isSome.2 ⟨e, he, by simp⟩
    obtain ⟨first, hfirst⟩ := Option.isSome_iff_exists.1 hsome
    exact ⟨e.number, first, hindex, hfirst⟩
  · rintro ⟨k, e, hindex, he⟩
    have hnumber : e.number = k := by simpa using List.find?_some he
    exact ⟨e, List.mem_of_find?_eq_some he, hnumber ▸ hindex⟩

section

variable {chosen : List NoteSource} {n : Note}
  (hkeep : ∀ k, resolve (numberFrom 1 chosen) n k ≠ .drop)

include hkeep

/-- When no number is taken out, a citation leads where it led in the note. -/
theorem lookedUp?_of_resolveDigits {digits new : List Char}
    (hnew : resolveDigits (resolve (numberFrom 1 chosen) n) digits = some new) :
    lookedUp? (numberFrom 1 chosen) n digits new
      = ((index? digits).bind fun k => (n.entry? k).map NoteSource.url).map some := by
  rw [lookedUp?]
  by_cases hentry : ∃ e ∈ n.sources, index? digits = some e.number
  · obtain ⟨k, e, hk, he⟩ := exists_entry?_iff.1 hentry
    obtain ⟨s, hs, hurl, hresolved⟩ := exists_resolveDigits_of_entry hk he (hkeep k)
    obtain rfl : indexText s.id = new := Option.some.inj (hresolved.symm.trans hnew)
    rw [if_pos hentry, urlAt?_indexText hs, hk, Option.bind_some, he, hurl]
    rfl
  · have hnone : ((index? digits).bind fun k => (n.entry? k).map NoteSource.url) = none := by
      rw [Option.bind_eq_none_iff]
      intro k hk
      rw [Option.map_eq_none_iff, Option.eq_none_iff_forall_ne_some]
      exact fun e he => hentry (exists_entry?_iff.2 ⟨k, e, hk, he⟩)
    rw [if_neg hentry, hnone]
    rfl

/-- When no number is taken out, a finding has as many numbers as its note. -/
theorem digitRuns_finding : ∃ resolved : List Char → List Char,
    (∀ digits, resolveDigits (resolve (numberFrom 1 chosen) n) digits = some (resolved digits)) ∧
      digitRuns (finding (numberFrom 1 chosen) n).toList
        = (digitRuns n.body.toList).map resolved := by
  choose resolved hresolved using exists_resolveDigits_eq hkeep
  refine ⟨resolved, hresolved, ?_⟩
  rw [finding, String.toList_ofList, digitRuns_renumber (not_joins_of_ne_drop hkeep _),
    funext hresolved, List.filterMap_eq_map']

/-- When no number is taken out, the citations of a finding lead where they led in the note. -/
theorem urlsRead_finding :
    urlsRead (numberFrom 1 chosen) n (finding (numberFrom 1 chosen) n)
      = (citedUrls n).map some := by
  obtain ⟨resolved, hresolved, hruns⟩ := digitRuns_finding hkeep
  calc urlsRead (numberFrom 1 chosen) n (finding (numberFrom 1 chosen) n)
      = (digitRuns n.body.toList).filterMap fun digits =>
          lookedUp? (numberFrom 1 chosen) n digits (resolved digits) := by
        rw [urlsRead, hruns, List.zip_eq_zipWith, List.zipWith_map_right, List.zipWith_self,
          List.filterMap_map]
        rfl
    _ = (digitRuns n.body.toList).filterMap fun digits =>
          ((index? digits).bind fun k => (n.entry? k).map NoteSource.url).map some := by
        simp only [lookedUp?_of_resolveDigits hkeep (hresolved _)]
    _ = (citedUrls n).map some := by
        rw [citedUrls, flatMap_items, List.map_filterMap]

end

/-! ## Both orders -/

/-- What two contexts have in common when they come from the same notes in different orders. -/
structure SameEvidence (notes notes' : List String) (context context' : ResearchContext) :
    Prop where
  /-- They list the same URLs. -/
  urls : ∀ url, url ∈ context.sources.map ListedSource.url
    ↔ url ∈ context'.sources.map ListedSource.url
  /-- They list as many sources. -/
  count : context.sources.length = context'.sources.length
  /-- The findings of a note have all its numbers in both contexts, and those that stood for entries
  lead to the same URLs one by one. -/
  read : ∀ (i i' : Nat) (note : String), notes[i]? = some note → notes'[i']? = some note →
    ∃ finding finding', context.findings[i]? = some finding ∧
      context'.findings[i']? = some finding' ∧
      (digitRuns finding.toList).length = (digitRuns (Note.parse note).body.toList).length ∧
      (digitRuns finding'.toList).length = (digitRuns (Note.parse note).body.toList).length ∧
      urlsRead context.sources (Note.parse note) finding
        = urlsRead context'.sources (Note.parse note) finding'
  /-- The same is on record. -/
  onRecord : (detect context.findings).onRecord = (detect context'.findings).onRecord

/-- When there is room for every source, all of them are listed and none is pruned. -/
theorem sources_of_length_le (policy : PrunePolicy) {maxSources : Nat} (brief : String)
    {notes : List String} (subject : SubjectType)
    (hroom : (seen (notes.map Note.parse)).length ≤ max 1 maxSources) :
    let context := consolidate policy maxSources brief notes subject
    context.sources = numberFrom 1 (seen (notes.map Note.parse)) ∧ context.pruned = 0 := by
  intro context
  have hsources : context.sources = numberFrom 1 (seen (notes.map Note.parse)) :=
    listed_of_length_le policy hroom
  have hpruned : context.pruned
      = (seen (notes.map Note.parse)).length - context.sources.length := rfl
  rw [hsources, numberFrom_one, length_numbered, Nat.sub_self] at hpruned
  exact ⟨hsources, hpruned⟩

/-- When there is room for every source, each note has a finding with as many numbers as the note,
and its citations lead where they led in the note. -/
theorem exists_finding_urlsRead (policy : PrunePolicy) {maxSources : Nat} (brief : String)
    {notes : List String} (subject : SubjectType)
    (hroom : (seen (notes.map Note.parse)).length ≤ max 1 maxSources) {i : Nat} {note : String}
    (hnote : notes[i]? = some note) :
    let context := consolidate policy maxSources brief notes subject
    ∃ finding, context.findings[i]? = some finding ∧
      (digitRuns finding.toList).length = (digitRuns (Note.parse note).body.toList).length ∧
      urlsRead context.sources (Note.parse note) finding
        = (citedUrls (Note.parse note)).map some := by
  intro context
  obtain ⟨hsources, hpruned⟩ := sources_of_length_le policy brief subject hroom
  have hkeep := resolve_ne_drop policy maxSources brief subject (List.mem_of_getElem? hnote) hpruned
  have hfinding : context.findings[i]? = some (finding context.sources (Note.parse note)) :=
    getElem?_findings policy maxSources brief subject hnote
  rw [hsources] at hkeep
  rw [show context.sources = _ from hsources] at hfinding ⊢
  obtain ⟨resolved, -, hruns⟩ := digitRuns_finding hkeep
  exact ⟨_, hfinding, by rw [hruns, List.length_map], urlsRead_finding hkeep⟩

/-- The evidence does not depend on the order in which the notes come, as long as there is room for
the source of every URL. -/
theorem sameEvidence_of_perm (policy : PrunePolicy) (maxSources : Nat) (brief : String)
    {notes notes' : List String} (subject : SubjectType) (hperm : notes.Perm notes')
    (hroom : (seen (notes.map Note.parse)).length ≤ max 1 maxSources) :
    SameEvidence notes notes' (consolidate policy maxSources brief notes subject)
      (consolidate policy maxSources brief notes' subject) := by
  have hseen := urls_seen_perm (hperm.map Note.parse)
  have hroom' : (seen (notes'.map Note.parse)).length ≤ max 1 maxSources := by
    have hlength := hseen.length_eq
    rw [List.length_map, List.length_map] at hlength
    omega
  -- with room for all URLs nothing is pruned on either side
  obtain ⟨hsources, hpruned⟩ := sources_of_length_le policy brief subject hroom
  obtain ⟨hsources', hpruned'⟩ := sources_of_length_le policy brief subject hroom'
  have hurls :
      ((consolidate policy maxSources brief notes subject).sources.map ListedSource.url).Perm
        ((consolidate policy maxSources brief notes' subject).sources.map ListedSource.url) := by
    rw [hsources, hsources', map_url_numberFrom, map_url_numberFrom]
    exact hseen
  exact {
    urls := fun _ => hurls.mem_iff
    count := by simpa using hurls.length_eq
    read := by
      intro i i' note hnote hnote'
      obtain ⟨finding, hfinding, hcount, hread⟩ :=
        exists_finding_urlsRead policy brief subject hroom hnote
      obtain ⟨finding', hfinding', hcount', hread'⟩ :=
        exists_finding_urlsRead policy brief subject hroom' hnote'
      exact ⟨finding, finding', hfinding, hfinding', hcount, hcount', hread.trans hread'.symm⟩
    onRecord := by
      rw [onRecord_detect, onRecord_detect, flatMap_kinds_findings hpruned,
        flatMap_kinds_findings hpruned']
      exact recorded_perm (hperm.map _).flatten }

/-- What two groups found, who number a source that they share differently. -/
def anvilNotes : List String :=
  ["Acme makes anvils [1].\n\n### Sources\n1. https://acme.example",
    "Relationship status: Existing client [2]. Sales grew [1, 2].\n\n### Sources\n" ++
      "1. https://sales.example\n2. https://acme.example"]

/-- Two notes on anvils are taken in either order. -/
theorem sameEvidence_of_perm_anvil :
    anvilNotes.Perm anvilNotes.reverse ∧ (seen (anvilNotes.map Note.parse)).length ≤ max 1 40 ∧
      SameEvidence anvilNotes anvilNotes.reverse
        (consolidate .mostCited 40 "" anvilNotes .company)
        (consolidate .mostCited 40 "" anvilNotes.reverse .company) := by
  have hperm : anvilNotes.Perm anvilNotes.reverse := (List.reverse_perm _).symm
  have hroom : (seen (anvilNotes.map Note.parse)).length ≤ max 1 40 := by decide +kernel
  exact ⟨hperm, hroom, sameEvidence_of_perm .mostCited 40 "" .company hperm hroom⟩

end CitedReport.Consolidation
