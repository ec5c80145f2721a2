import CitedReport.Proofs.Consolidation.Pruning

/-!
# Consolidating more notes

What is seen in some notes is seen first when more notes follow, in the same order and with the same
descriptions (`seen_prefix_append`). So the sources that are listed for the notes and their findings
stay when more notes come, as long as the sources seen first are the ones that are kept
(`consolidate_begins`). When the notes that follow are the same once more, nothing new is seen and
every source is cited twice as often, which ranks them as before (`consolidate_append_self`).
-/

namespace CitedReport.Consolidation

/-! ## What is seen -/

/-- Of further entries those are listed whose URLs have not occurred. -/
theorem distinctUrls_append (entries more : List NoteSource) :
    distinctUrls (entries ++ more)
      = distinctUrls entries
        ++ (distinctUrls more).filter fun e => e.url ∉ entries.map NoteSource.url := by
  induction entries with
  | nil => simp [distinctUrls]
  | cons e rest ih =>
    rw [List.cons_append, distinctUrls, ih, distinctUrls, List.filter_append, List.filter_filter,
      List.cons_append]
    congr 3
    funext e'
    simp only [List.map_cons, List.mem_cons, not_or, Bool.decide_and]

/-- What is seen in notes is seen first when more notes follow. -/
theorem seen_prefix_append (notes more : List Note) : seen notes <+: seen (notes ++ more) := by
  unfold seen
  rw [List.flatMap_append, distinctUrls_append]
  exact List.prefix_append _ _

/-- Nothing new is seen in the same notes. -/
theorem seen_append_self (notes : List Note) : seen (notes ++ notes) = seen notes := by
  have hnone : ∀ entries : List NoteSource,
      (distinctUrls entries).filter (fun e => e.url ∉ entries.map NoteSource.url) = [] := by
    intro entries
    refine List.filter_eq_nil_iff.2 fun e he => ?_
    have hmem : e.url ∈ entries.map NoteSource.url :=
      List.mem_map_of_mem ((distinctUrls_sublist entries).mem he)
    simpa using hmem
  unfold seen
  rw [List.flatMap_append, distinctUrls_append, hnone, List.append_nil]

/-! ## Notes behind the others -/

/-- The first sources are numbered as if there were no more. -/
theorem numberFrom_begins {sources sources' : List NoteSource} (h : sources <+: sources')
    (first : Nat) : numberFrom first sources <+: numberFrom first sources' := by
  obtain ⟨more, rfl⟩ := h
  induction sources generalizing first with
  | nil => exact List.nil_prefix
  | cons s rest ih =>
    rw [List.cons_append, numberFrom, numberFrom, List.cons_prefix_cons]
    exact ⟨rfl, ih (first + 1)⟩

/-- The sources that are kept are those seen first, if that is the policy. -/
theorem kept_firstSeen (cap : Nat) (notes : List Note) {sources : List NoteSource}
    (h : (sources.map NoteSource.url).Nodup) :
    kept .firstSeen cap notes sources = sources.take cap := by
  have hsplit : sources.take cap ++ sources.drop cap = sources := List.take_append_drop cap sources
  have hnodup : (sources.take cap ++ sources.drop cap).Nodup := hsplit.symm ▸ List.Nodup.of_map _ h
  set best := (sources.take cap).toFinset with hbest
  have hfront : (sources.take cap).filter (· ∈ best) = sources.take cap :=
    List.filter_eq_self.2 fun s hs => by simpa [hbest] using hs
  have hback : (sources.drop cap).filter (· ∈ best) = [] := by
    refine List.filter_eq_nil_iff.2 fun s hs => ?_
    have hnot : s ∉ sources.take cap := fun hmem => List.disjoint_of_nodup_append hnodup hmem hs
    simpa [hbest] using hnot
  calc kept .firstSeen cap notes sources
      = sources.filter (· ∈ best) := kept_eq_filter .firstSeen cap notes h
    _ = (sources.take cap ++ sources.drop cap).filter (· ∈ best) := by rw [hsplit]
    _ = sources.take cap := by rw [List.filter_append, hfront, hback, List.append_nil]

/-- The list holds the sources that are seen first, if that is the policy or there is room for
all. -/
theorem listed_eq_take {policy : PrunePolicy} {cap : Nat} {notes : List Note}
    (h : policy = .firstSeen ∨ (seen notes).length ≤ cap) :
    listed policy cap notes = numberFrom 1 ((seen notes).take cap) := by
  by_cases hcap : cap < (seen notes).length
  · obtain rfl : policy = .firstSeen := h.resolve_right (by omega)
    rw [listed, if_pos hcap, kept_firstSeen cap notes (nodup_urls_seen notes)]
  · have hle : (seen notes).length ≤ cap := by omega
    rw [listed_of_length_le policy hle, List.take_of_length_le hle]

/-- A number whose URL is listed is resolved by the first sources of a list. -/
theorem resolve_of_prefix {listed listed' : List ListedSource} {n : Note} {k : Nat} {e : NoteSource}
    (hbegins : listed <+: listed') (he : n.entry? k = some e) (h : ∃ s ∈ listed, s.url = e.url) :
    resolve listed' n k = resolve listed n k := by
  obtain ⟨more, rfl⟩ := hbegins
  obtain ⟨s, hs, hurl⟩ := h
  have hfound : (listed.find? fun s => s.url = e.url).isSome :=
    List.find?_isSome.2 ⟨s, hs, by simpa using hurl⟩
  obtain ⟨l, hl⟩ := Option.isSome_iff_exists.1 hfound
  simp only [resolve, he, List.find?_append, hl, Option.some_or]

/-- The citations of a note refer to the same sources when more notes follow it. -/
theorem resolve_append {notes : List Note} {n : Note} (hn : n ∈ notes) (more : List Note)
    (cap k : Nat) :
    resolve (numberFrom 1 ((seen (notes ++ more)).take cap)) n k
      = resolve (numberFrom 1 ((seen notes).take cap)) n k := by
  have hseen := seen_prefix_append notes more
  rcases Nat.le_total cap (seen notes).length with hfull | hroom
  · -- there is no room for a source of the notes that follow
    obtain ⟨new, hnew⟩ := hseen
    rw [← hnew, List.take_append_of_le_length hfull]
  · cases he : n.entry? k with
    | none => rw [resolve_of_entry?_eq_none _ he, resolve_of_entry?_eq_none _ he]
    | some e =>
      -- all sources of the notes are listed, and with them that of the number
      have hurl : e.url ∈ (numberFrom 1 ((seen notes).take cap)).map ListedSource.url := by
        rw [map_url_numberFrom, List.take_of_length_le hroom]
        exact List.mem_map.2 (exists_mem_seen_of_refers hn he)
      exact resolve_of_prefix (numberFrom_begins (hseen.take cap) 1) he (List.mem_map.1 hurl)

/-- When more notes follow, the sources of the first ones are listed as before, and after them those
that are new; and the findings of the first ones are as before, and after them those of the others.
The sources seen first are to be kept, or there is to be room for all. -/
theorem consolidate_begins (policy : PrunePolicy) (maxSources : Nat) (brief : String)
    (notes more : List String) (subject : SubjectType)
    (h : policy = .firstSeen ∨
      (seen ((notes ++ more).map Note.parse)).length ≤ max 1 maxSources) :
    let context := consolidate policy maxSources brief notes subject
    let extended := consolidate policy maxSources brief (notes ++ more) subject
    context.sources <+: extended.sources ∧ context.findings <+: extended.findings := by
  intro context extended
  have hseen := seen_prefix_append (notes.map Note.parse) (more.map Note.parse)
  rw [List.map_append] at h
  have hfirst : policy = .firstSeen ∨ (seen (notes.map Note.parse)).length ≤ max 1 maxSources :=
    h.imp_right hseen.length_le.trans
  have hextended : extended.sources = numberFrom 1
      ((seen (notes.map Note.parse ++ more.map Note.parse)).take (max 1 maxSources)) := by
    rw [← listed_eq_take h, ← List.map_append]
    rfl
  have hsources : context.sources
      = numberFrom 1 ((seen (notes.map Note.parse)).take (max 1 maxSources)) :=
    listed_eq_take hfirst
  constructor
  · rw [hsources, hextended]
    exact numberFrom_begins (hseen.take _) 1
  · have hfindings : context.findings
        = notes.map fun note => finding extended.sources (Note.parse note) := by
      rw [show context.findings = _ from findings_eq_map ..]
      refine List.map_congr_left fun note hnote => ?_
      -- the lists differ, but not in what they say about the numbers of this note
      have hresolve : resolve context.sources (Note.parse note)
          = resolve extended.sources (Note.parse note) := by
        rw [hsources, hextended]
        exact funext fun k => (resolve_append (List.mem_map_of_mem hnote) _ _ k).symm
      rw [finding, finding, hresolve]
    rw [hfindings, show extended.findings = _ from findings_eq_map .., List.map_append]
    exact List.prefix_append _ _

/-- A note that describes a source of `loudNote` under another number and brings a new one. -/
def quietNote : String :=
  "Quiet anvils are rare [1][7].\n\n### Sources\n" ++
    "1. https://quiet.example\n7. https://anvils.example a shop"

/-- A note without sources comes behind a note with two. -/
theorem consolidate_begins_quiet :
    (PrunePolicy.firstSeen = .firstSeen ∨
        (seen (([loudNote] ++ [quietNote]).map Note.parse)).length ≤ max 1 2) ∧
      (consolidate .firstSeen 2 "" [loudNote] .company).sources
        <+: (consolidate .firstSeen 2 "" ([loudNote] ++ [quietNote]) .company).sources ∧
      (consolidate .firstSeen 2 "" [loudNote] .company).findings
        <+: (consolidate .firstSeen 2 "" ([loudNote] ++ [quietNote]) .company).findings :=
  ⟨.inl rfl, consolidate_begins .firstSeen 2 "" [loudNote] [quietNote] .company (.inl rfl)⟩

/-! ## The same notes once more -/

/-- Every URL is cited twice as often. -/
theorem citationCount_append_self (cited : List String) (url : String) :
    citationCount (cited ++ cited) url = 2 * citationCount cited url := by
  rw [citationCount, List.filter_append, List.length_append, citationCount]
  omega

/-- That ranks the sources as before. -/
theorem ranked_append_self (policy : PrunePolicy) (notes : List Note) (sources : List NoteSource) :
    ranked policy (notes ++ notes) sources = ranked policy notes sources := by
  cases policy with
  | firstSeen => rfl
  | mostCited =>
    -- the sort compares counts, and twice the counts compare as the counts do
    have hrank : mayPrecede (notes ++ notes) = mayPrecede notes := by
      funext a b
      unfold mayPrecede
      rw [List.flatMap_append, citationCount_append_self, citationCount_append_self,
        decide_eq_decide]
      omega
    rw [ranked_mostCited, ranked_mostCited, hrank]

/-- The same sources are listed. -/
theorem listed_append_self (policy : PrunePolicy) (cap : Nat) (notes : List Note) :
    listed policy cap (notes ++ notes) = listed policy cap notes := by
  simp only [listed, kept, seen_append_self, ranked_append_self]

/-- When all notes come once more, the same sources are listed and as many are pruned, under either
policy, and the findings are those of the notes, twice in a row. -/
theorem consolidate_append_self (policy : PrunePolicy) (maxSources : Nat) (brief : String)
    (notes : List String) (subject : SubjectType) :
    let context := consolidate policy maxSources brief notes subject
    let repeated := consolidate policy maxSources brief (notes ++ notes) subject
    repeated.sources = context.sources ∧ repeated.pruned = context.pruned ∧
      repeated.findings = context.findings ++ context.findings := by
  intro context repeated
  have hlisted := listed_append_self policy (max 1 maxSources) (notes.map Note.parse)
  rw [← List.map_append] at hlisted
  have hsources : repeated.sources = context.sources := hlisted
  have hseen : seen ((notes ++ notes).map Note.parse) = seen (notes.map Note.parse) := by
    rw [List.map_append, seen_append_self]
  refine ⟨hsources, ?_, ?_⟩
  · change (seen ((notes ++ notes).map Note.parse)).length - repeated.sources.length
      = (seen (notes.map Note.parse)).length - context.sources.length
    rw [hseen, hsources]
  · rw [show repeated.findings = _ from findings_eq_map ..,
      show context.findings = _ from findings_eq_map .., hsources, List.map_append]

end CitedReport.Consolidation
