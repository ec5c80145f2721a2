import Mathlib.Data.List.Basic
import Mathlib.Data.List.Nodup
import Mathlib.Data.List.Perm.Basic
import CitedReport.Consolidation

/-!
# The list of sources of a run

The entries of all notes, one for each number of a note, are gone through in order, and each URL is
listed where it first occurs. `firstEntries_eq_eraseDupsBy` and `distinctUrls_eq_eraseDupsBy` say
that both steps are removals of repetitions that keep what comes first. Pruning leaves exactly as
many sources as the cap allows (`length_kept`), in the order in which they stood. Whatever is left
is numbered from one.
-/

namespace CitedReport.Consolidation

/-! ## Removing repetitions -/

section Repetitions

variable {α β : Type} [DecidableEq β] (key : α → β)

/-- Whether what is looked for is picked out before repetitions are removed or after makes no
difference when it depends on the key. -/
theorem eraseDupsBy_filter (q : β → Bool) (l : List α) :
    (l.filter fun a => q (key a)).eraseDupsBy (fun a b => key a == key b)
      = (l.eraseDupsBy fun a b => key a == key b).filter fun a => q (key a) := by
  induction hn : l.length using Nat.strongRecOn generalizing l with
  | _ n ih =>
    cases l with
    | nil => rfl
    | cons a l =>
      have hlen : (l.filter fun b => (key b == key a) = false).length < n := by
        have := List.length_filter_le (fun b => (key b == key a) = false) l
        rw [List.length_cons] at hn
        omega
      have hih := ih _ hlen _ rfl
      rw [List.eraseDupsBy_cons, List.filter_cons, List.filter_cons, ← hih, List.filter_filter]
      by_cases hq : q (key a) = true
      · rw [if_pos hq, if_pos hq, List.eraseDupsBy_cons, List.filter_filter]
        congr 3
        funext b
        rw [Bool.and_comm]
      · rw [if_neg hq, if_neg hq]
        congr 2
        funext b
        -- what is picked out has another key than the first element
        by_cases hb : key b = key a
        · simp [hb, hq]
        · simp [hb]

/-- The first element stays and takes its repetitions out of the rest. -/
theorem eraseDupsBy_cons_filter (a : α) (l : List α) :
    (a :: l).eraseDupsBy (fun a b => key a == key b)
      = a :: (l.eraseDupsBy fun a b => key a == key b).filter fun b => key b ≠ key a := by
  have h := eraseDupsBy_filter key (fun k => decide (k ≠ key a)) l
  rw [List.eraseDupsBy_cons, ← h]
  congr 3
  funext b
  by_cases hb : key b = key a
  · simp [hb]
  · simp [hb]

/-- Removing repetitions keeps the order. -/
theorem eraseDupsBy_sublist (l : List α) :
    (l.eraseDupsBy fun a b => key a == key b).Sublist l := by
  induction l with
  | nil => exact List.Sublist.slnil
  | cons a l ih =>
    rw [eraseDupsBy_cons_filter]
    exact (List.filter_sublist.trans ih).cons_cons a

/-- Removing repetitions leaves an element with the key of each. -/
theorem exists_mem_eraseDupsBy {a : α} {l : List α} (h : a ∈ l) :
    ∃ b ∈ l.eraseDupsBy (fun a b => key a == key b), key b = key a := by
  induction l with
  | nil => simp at h
  | cons c l ih =>
    rw [eraseDupsBy_cons_filter]
    by_cases hkey : key a = key c
    · exact ⟨c, List.mem_cons_self, hkey.symm⟩
    · have hl : a ∈ l := by
        rcases List.mem_cons.1 h with rfl | h
        · exact absurd rfl hkey
        · exact h
      obtain ⟨b, hb, heq⟩ := ih hl
      have hkept : decide (key b ≠ key c) = true := by simpa [heq] using hkey
      exact ⟨b, List.mem_cons_of_mem _ (List.mem_filter.2 ⟨hb, hkept⟩), heq⟩

end Repetitions

/-- Of entries with one number the first is kept. -/
theorem firstEntries_eq_eraseDupsBy (entries : List NoteSource) :
    Note.firstEntries entries = entries.eraseDupsBy fun a b => a.number == b.number := by
  induction entries with
  | nil => rfl
  | cons e rest ih => rw [Note.firstEntries, ih, eraseDupsBy_cons_filter]

/-- Of entries with one URL the first is kept. -/
theorem distinctUrls_eq_eraseDupsBy (entries : List NoteSource) :
    distinctUrls entries = entries.eraseDupsBy fun a b => a.url == b.url := by
  induction entries with
  | nil => rfl
  | cons e rest ih => rw [distinctUrls, ih, eraseDupsBy_cons_filter]

/-- The URLs of the list differ. -/
theorem nodup_urls_distinctUrls (entries : List NoteSource) :
    ((distinctUrls entries).map NoteSource.url).Nodup := by
  induction entries with
  | nil => exact List.nodup_nil
  | cons e rest ih =>
    rw [distinctUrls, List.map_cons, List.nodup_cons]
    constructor
    · intro h
      obtain ⟨e', he', hurl⟩ := List.mem_map.1 h
      exact absurd hurl (by simpa using (List.mem_filter.1 he').2)
    · exact ih.sublist (List.filter_sublist.map _)

/-- The list is made of entries, in their order. -/
theorem distinctUrls_sublist (entries : List NoteSource) :
    (distinctUrls entries).Sublist entries := by
  rw [distinctUrls_eq_eraseDupsBy]
  exact eraseDupsBy_sublist NoteSource.url entries

/-- The entries that citations can refer to are entries of the note. -/
theorem firstEntries_sublist (entries : List NoteSource) :
    (Note.firstEntries entries).Sublist entries := by
  rw [firstEntries_eq_eraseDupsBy]
  exact eraseDupsBy_sublist NoteSource.number entries

/-- The entry that a number refers to is one that citations can refer to. -/
theorem mem_firstEntries_of_find? {entries : List NoteSource} {k : Nat} {e : NoteSource}
    (h : entries.find? (fun e => e.number = k) = some e) : e ∈ Note.firstEntries entries := by
  induction entries with
  | nil => cases h
  | cons first rest ih =>
    have hnumber : e.number = k := by simpa using List.find?_some h
    rw [List.find?_cons] at h
    by_cases hfirst : first.number = k
    · rw [decide_eq_true hfirst] at h
      obtain rfl := Option.some.inj h
      exact List.mem_cons_self
    · rw [decide_eq_false hfirst] at h
      have hother : e.number ≠ first.number := fun heq => hfirst (heq ▸ hnumber)
      exact List.mem_cons_of_mem _ (List.mem_filter.2 ⟨ih h, by simpa using hother⟩)

/-- The URLs that are seen are those of the entries that citations can refer to. -/
theorem mem_urls_seen {notes : List Note} {url : String} :
    url ∈ (seen notes).map NoteSource.url
      ↔ ∃ n ∈ notes, ∃ e ∈ Note.firstEntries n.sources, e.url = url := by
  constructor
  · intro h
    obtain ⟨e, he, rfl⟩ := List.mem_map.1 h
    obtain ⟨n, hn, hentry⟩ := List.mem_flatMap.1 ((distinctUrls_sublist _).mem he)
    exact ⟨n, hn, e, hentry, rfl⟩
  · rintro ⟨n, hn, e, he, rfl⟩
    have hentry : e ∈ notes.flatMap fun n => Note.firstEntries n.sources :=
      List.mem_flatMap.2 ⟨n, hn, he⟩
    obtain ⟨e', he', hurl⟩ := exists_mem_eraseDupsBy NoteSource.url hentry
    rw [← distinctUrls_eq_eraseDupsBy] at he'
    exact List.mem_map.2 ⟨e', he', hurl⟩

/-- The URL of an entry that a number refers to is seen. -/
theorem exists_mem_seen_of_refers {notes : List Note} {n : Note} {k : Nat} {e : NoteSource}
    (hn : n ∈ notes) (h : n.entry? k = some e) : ∃ e' ∈ seen notes, e'.url = e.url :=
  List.mem_map.1 (mem_urls_seen.2 ⟨n, hn, e, mem_firstEntries_of_find? h, rfl⟩)

/-- The URL of an entry that has its number to itself is seen. -/
theorem exists_mem_seen {notes : List Note} {n : Note} {e : NoteSource} (hn : n ∈ notes)
    (h : n.sources.filter (fun e' => e'.number = e.number) = [e]) :
    ∃ e' ∈ seen notes, e'.url = e.url := by
  have hentry : n.entry? e.number = some e := by
    unfold Note.entry?
    rw [← List.head?_filter, h]
    rfl
  exact exists_mem_seen_of_refers hn hentry

/-- Every source that is seen is an entry of a note. -/
theorem exists_of_mem_seen {notes : List Note} {e : NoteSource} (h : e ∈ seen notes) :
    ∃ n ∈ notes, e ∈ n.sources := by
  obtain ⟨n, hn, he⟩ := List.mem_flatMap.1 ((distinctUrls_sublist _).mem h)
  exact ⟨n, hn, (firstEntries_sublist _).mem he⟩

/-! ## Pruning -/

/-- Ranking moves sources and leaves none out. -/
theorem ranked_perm (policy : PrunePolicy) (notes : List Note) (sources : List NoteSource) :
    (ranked policy notes sources).Perm sources := by
  cases policy with
  | mostCited => exact List.mergeSort_perm _ _
  | firstSeen => exact List.Perm.refl _

/-- Pruning keeps the order. -/
theorem kept_sublist (policy : PrunePolicy) (cap : Nat) (notes : List Note)
    (sources : List NoteSource) : (kept policy cap notes sources).Sublist sources :=
  List.filter_sublist

/-- The sources that are kept are the preferred ones. -/
theorem kept_perm (policy : PrunePolicy) (cap : Nat) (notes : List Note)
    {sources : List NoteSource} (h : (sources.map NoteSource.url).Nodup) :
    (kept policy cap notes sources).Perm ((ranked policy notes sources).take cap) := by
  have hperm := ranked_perm policy notes sources
  have hsources : sources.Nodup := List.Nodup.of_map _ h
  have hbest : ((ranked policy notes sources).take cap).Nodup :=
    (hperm.nodup_iff.2 hsources).sublist (List.take_sublist _ _)
  refine (List.perm_ext_iff_of_nodup (hsources.sublist List.filter_sublist) hbest).2 fun s => ?_
  simp only [List.mem_filter, List.any_eq_true]
  constructor
  · rintro ⟨hs, b, hb, hurl⟩
    have hb' : b ∈ sources := hperm.mem_iff.1 (List.mem_of_mem_take hb)
    rwa [List.inj_on_of_nodup_map h hs hb' (by simpa using (of_decide_eq_true hurl).symm)]
  · intro hs
    exact ⟨hperm.mem_iff.1 (List.mem_of_mem_take hs), s, hs, by simp⟩

/-- As many sources are kept as the cap allows. -/
theorem length_kept (policy : PrunePolicy) {cap : Nat} (notes : List Note)
    {sources : List NoteSource} (h : (sources.map NoteSource.url).Nodup)
    (hcap : cap < sources.length) : (kept policy cap notes sources).length = cap := by
  have hlen := (ranked_perm policy notes sources).length_eq
  rw [(kept_perm policy cap notes h).length_eq, List.length_take, hlen]
  omega

/-! ## Numbering -/

/-- Sources as they are listed when they are numbered from one. -/
def numbered (sources : List NoteSource) : List ListedSource :=
  sources.mapIdx fun i e => ⟨i + 1, e.url, e.description⟩

/-- Numbering goes up by one from source to source. -/
theorem numberFrom_eq_mapIdx (first : Nat) (sources : List NoteSource) :
    numberFrom first sources = sources.mapIdx fun i e => ⟨first + i, e.url, e.description⟩ := by
  induction sources generalizing first with
  | nil => rfl
  | cons s rest ih =>
    rw [numberFrom, ih, List.mapIdx_cons]
    simp only [Nat.add_zero, Nat.add_assoc, Nat.add_comm 1]

/-- The list of sources is numbered from one. -/
theorem numberFrom_one (sources : List NoteSource) : numberFrom 1 sources = numbered sources := by
  rw [numberFrom_eq_mapIdx, numbered]
  simp only [Nat.add_comm 1]

/-- Numbering sources leaves their number as it is. -/
@[simp] theorem length_numbered (sources : List NoteSource) :
    (numbered sources).length = sources.length := by
  rw [numbered, List.length_mapIdx]

/-- Numbering keeps the URLs. -/
theorem map_url_numberFrom (first : Nat) (sources : List NoteSource) :
    (numberFrom first sources).map ListedSource.url = sources.map NoteSource.url := by
  induction sources generalizing first with
  | nil => rfl
  | cons s rest ih => rw [numberFrom, List.map_cons, List.map_cons, ih]

/-- The numbers are consecutive. -/
theorem map_id_numberFrom (first : Nat) (sources : List NoteSource) :
    (numberFrom first sources).map ListedSource.id = List.range' first sources.length := by
  induction sources generalizing first with
  | nil => rfl
  | cons s rest ih => rw [numberFrom, List.map_cons, ih, List.length_cons, List.range'_succ]

/-- A source that is numbered keeps its URL and its description. -/
theorem exists_of_mem_numberFrom {first : Nat} {sources : List NoteSource} {s : ListedSource}
    (h : s ∈ numberFrom first sources) :
    ∃ e ∈ sources, s.url = e.url ∧ s.description = e.description := by
  rw [numberFrom_eq_mapIdx] at h
  obtain ⟨i, hi, rfl⟩ := List.mem_mapIdx.1 h
  exact ⟨_, List.getElem_mem hi, rfl, rfl⟩

/-! ## The list as a whole -/

/-- The list is what is kept of the distinct URLs, numbered from one. -/
theorem exists_listed (policy : PrunePolicy) (cap : Nat) (notes : List Note) :
    ∃ chosen : List NoteSource, chosen.Sublist (seen notes) ∧
      chosen.length = min cap (seen notes).length ∧
      listed policy cap notes = numberFrom 1 chosen := by
  by_cases h : cap < (seen notes).length
  · refine ⟨kept policy cap notes (seen notes), kept_sublist .., ?_, by rw [listed, if_pos h]⟩
    have hnodup : ((seen notes).map NoteSource.url).Nodup := nodup_urls_distinctUrls _
    rw [length_kept policy notes hnodup h]
    omega
  · refine ⟨seen notes, List.Sublist.refl _, ?_, by rw [listed, if_neg h]⟩
    omega

/-- Every source of the list is an entry of a note. -/
theorem exists_of_mem_listed {policy : PrunePolicy} {cap : Nat} {notes : List Note}
    {s : ListedSource} (h : s ∈ listed policy cap notes) :
    ∃ n ∈ notes, ∃ e ∈ n.sources, s.url = e.url ∧ s.description = e.description := by
  obtain ⟨chosen, hsub, -, hlisted⟩ := exists_listed policy cap notes
  rw [hlisted] at h
  obtain ⟨e, he, heq⟩ := exists_of_mem_numberFrom h
  obtain ⟨n, hn, hmem⟩ := exists_of_mem_seen (hsub.mem he)
  exact ⟨n, hn, e, hmem, heq⟩

/-- The list is not longer than there is room for. -/
theorem length_listed_le (policy : PrunePolicy) (cap : Nat) (notes : List Note) :
    (listed policy cap notes).length ≤ cap := by
  obtain ⟨chosen, -, hlength, hlisted⟩ := exists_listed policy cap notes
  rw [hlisted, numberFrom_one, length_numbered, hlength]
  exact Nat.min_le_left cap _

/-- When a URL that is seen is not listed, the list is shorter than what is seen. -/
theorem length_listed_lt {policy : PrunePolicy} {cap : Nat} {notes : List Note} {e : NoteSource}
    (he : e ∈ seen notes) (h : ∀ s ∈ listed policy cap notes, s.url ≠ e.url) :
    (listed policy cap notes).length < (seen notes).length := by
  obtain ⟨chosen, hsub, -, hlisted⟩ := exists_listed policy cap notes
  have hlength : (listed policy cap notes).length = chosen.length := by
    rw [hlisted, numberFrom_one, length_numbered]
  have hle := hsub.length_le
  rcases Nat.lt_or_eq_of_le hle with hlt | heq
  · omega
  · -- nothing is missing, so the URL would be listed
    have hall := hsub.eq_of_length heq
    have hmem : e.url ∈ (listed policy cap notes).map ListedSource.url := by
      rw [hlisted, map_url_numberFrom, hall]
      exact List.mem_map_of_mem he
    obtain ⟨s, hs, hurl⟩ := List.mem_map.1 hmem
    exact absurd hurl (h s hs)

/-- A list of at least the length of all distinct URLs keeps them all. -/
theorem listed_of_length_le (policy : PrunePolicy) {cap : Nat} {notes : List Note}
    (h : (seen notes).length ≤ cap) : listed policy cap notes = numberFrom 1 (seen notes) := by
  rw [listed, if_neg (by omega)]

/-- The distinct URLs of the entries that citations of notes can refer to. -/
theorem seen_eq_eraseDupsBy (notes : List Note) :
    seen notes
      = (notes.flatMap fun n => n.sources.eraseDupsBy fun a b => a.number == b.number).eraseDupsBy
          fun a b => a.url == b.url := by
  simp only [seen, distinctUrls_eq_eraseDupsBy, firstEntries_eq_eraseDupsBy]

/-- The list of sources of a run holds, numbered from one, the distinct URLs of the notes' entries
in the order of their first occurrence - all of them if there is room, and as many as there is room
for if not. Of a note's entries with one number the first counts; of entries with one URL the first
gives the description. -/
theorem sources_consolidate (policy : PrunePolicy) (maxSources : Nat) (brief : String)
    (notes : List String) (subject : SubjectType) :
    let entries := notes.flatMap fun note =>
      (Note.parse note).sources.eraseDupsBy fun a b => a.number == b.number
    let distinct := entries.eraseDupsBy fun a b => a.url == b.url
    let cap := max 1 maxSources
    let context := consolidate policy maxSources brief notes subject
    (if distinct.length ≤ cap then context.pruned = 0 ∧ context.sources = numbered distinct
      else context.pruned = distinct.length - cap ∧ context.sources.length = cap ∧
        ∃ chosen : List NoteSource, chosen.Sublist distinct ∧ context.sources = numbered chosen) ∧
      context.sources.map ListedSource.id = List.range' 1 context.sources.length ∧
      (context.sources.map ListedSource.url).Nodup := by
  intro entries distinct cap context
  -- the sources that are seen are the distinct ones of the statement
  have hseen : seen (notes.map Note.parse) = distinct := by
    rw [seen_eq_eraseDupsBy, List.flatMap_map]
  have hsources : context.sources = listed policy cap (notes.map Note.parse) := rfl
  have hpruned : context.pruned = (seen (notes.map Note.parse)).length - context.sources.length :=
    rfl
  obtain ⟨chosen, hsub, hlen, hlisted⟩ := exists_listed policy cap (notes.map Note.parse)
  rw [hseen] at hsub hlen hpruned
  have hnumbered : context.sources = numberFrom 1 chosen := hsources.trans hlisted
  have hcount : context.sources.length = chosen.length := by
    rw [hnumbered, numberFrom_one, length_numbered]
  refine ⟨?_, ?_, ?_⟩
  · split
    · next h =>
      have hle : (seen (notes.map Note.parse)).length ≤ cap := hseen ▸ h
      have hall := listed_of_length_le policy hle
      rw [hseen] at hall
      refine ⟨by omega, ?_⟩
      rw [hsources, hall, numberFrom_one]
    · next h =>
      refine ⟨by omega, by omega, chosen, hsub, ?_⟩
      rw [hnumbered, numberFrom_one]
  · rw [hcount, hnumbered, map_id_numberFrom]
  · have hnodup := nodup_urls_distinctUrls
      ((notes.map Note.parse).flatMap fun n => Note.firstEntries n.sources)
    rw [hnumbered, map_url_numberFrom]
    exact List.Nodup.sublist (hsub.map _) (hseen ▸ hnodup)

end CitedReport.Consolidation
