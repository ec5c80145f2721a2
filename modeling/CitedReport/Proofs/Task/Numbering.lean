import CitedReport.Task.Finding
import CitedReport.Proofs.Note.Lines

/-!
# The sources of a task and their numbers

Numbering the sources of an output only adds to the sources of the task, so a number goes on
referring to the URL it was given for. The list at the end of a finding is read back as the same
numbers and URLs, if the sources are such that nothing in them is taken for something else: for the
end of a URL, for a line end, or for the heading of the list.
-/

namespace CitedReport

/-- A source that is read from a list of sources as it is written there. -/
structure SourceRef.Plain (s : SourceRef) : Prop where
  /-- Its URL begins with a letter and has no blanks. -/
  url : Note.PlainUrl s.url.toList
  /-- Its title is on one line. -/
  noLineFeed : ∀ t ∈ s.title, '\n' ∉ t.toList
  /-- Its title does not have the heading of a list of sources in it. -/
  noHeading : ∀ t ∈ s.title, ¬ Note.sourcesHeading.toList <:+: t.toList

namespace Task.LocalSources

open Chars Citation

/-- The number is that of a source with the URL. -/
def Refers (l : LocalSources) (n : Nat) (url : String) : Prop :=
  ∃ i s, n = i + 1 ∧ l.entries[i]? = some s ∧ s.url = url

/-- Numbers go on referring to the same URLs when sources are added. -/
theorem Refers.of_extends {l l' : LocalSources} {n : Nat} {url : String} (h : l.Refers n url)
    (hpre : l.entries <+: l'.entries) : l'.Refers n url := by
  obtain ⟨i, s, rfl, hs, hurl⟩ := h
  obtain ⟨added, hadded⟩ := hpre
  have hi : i < l.entries.length := (List.getElem?_eq_some_iff.1 hs).1
  refine ⟨i, s, rfl, ?_, hurl⟩
  rw [← hadded, List.getElem?_append_left hi, hs]

/-! ## Numbering -/

/-- The number that is found is that of the URL. -/
theorem exists_of_numberOf? {url : String} {first n : Nat} {entries : List SourceRef}
    (h : numberOf? url first entries = some n) :
    ∃ i s, n = first + i ∧ entries[i]? = some s ∧ s.url = url := by
  induction entries generalizing first with
  | nil => simp [numberOf?] at h
  | cons s rest ih =>
    rw [numberOf?] at h
    split at h
    · next hurl => exact ⟨0, s, (Option.some.inj h).symm, rfl, hurl⟩
    · obtain ⟨i, s', rfl, hs', hurl⟩ := ih h
      exact ⟨i + 1, s', by omega, hs', hurl⟩

/-- Numbering a source adds it at the end or nothing. -/
theorem number_extends (l : LocalSources) (s : SourceRef) :
    l.entries <+: (l.number s).2.entries := by
  rw [number]
  split
  · exact List.prefix_refl _
  · exact List.prefix_append _ _

/-- The number of a source refers to its URL. -/
theorem number_refers (l : LocalSources) (s : SourceRef) :
    (l.number s).2.Refers (l.number s).1 s.url := by
  rw [number]
  split
  · next n hn =>
    obtain ⟨i, s', rfl, hs', hurl⟩ := exists_of_numberOf? hn
    exact ⟨i, s', Nat.add_comm 1 i, hs', hurl⟩
  · exact ⟨l.entries.length, s, rfl, by simp, rfl⟩

/-- A source that is there after numbering was there before or has been numbered. -/
theorem mem_or_eq_of_mem_number {l : LocalSources} {s e : SourceRef}
    (h : e ∈ (l.number s).2.entries) : e ∈ l.entries ∨ e = s := by
  rw [number] at h
  split at h
  · exact .inl h
  · simpa using h

/-- Numbering several sources adds at the end. -/
theorem numberAll_extends (l : LocalSources) (ss : List SourceRef) :
    l.entries <+: (l.numberAll ss).2.entries := by
  induction ss generalizing l with
  | nil => exact List.prefix_refl _
  | cons s rest ih => exact (l.number_extends s).trans (ih _)

/-- The numbers of several sources refer to their URLs. -/
theorem numberAll_refers {l : LocalSources} {ss : List SourceRef} {i : Nat} {s : SourceRef}
    (h : ss[i]? = some s) :
    ∃ n, (l.numberAll ss).1[i]? = some n ∧ (l.numberAll ss).2.Refers n s.url := by
  induction ss generalizing l i with
  | nil => simp at h
  | cons s' rest ih =>
    cases i with
    | zero =>
      obtain rfl : s' = s := by simpa using h
      exact ⟨(l.number s').1, rfl, (l.number_refers s').of_extends (numberAll_extends _ rest)⟩
    | succ i => exact ih h

/-- A source that is there after numbering several was there before or is one of them. -/
theorem mem_or_mem_of_mem_numberAll {l : LocalSources} {ss : List SourceRef} {e : SourceRef}
    (h : e ∈ (l.numberAll ss).2.entries) : e ∈ l.entries ∨ e ∈ ss := by
  induction ss generalizing l with
  | nil => exact .inl h
  | cons s rest ih =>
    rcases ih h with h | h
    · rcases mem_or_eq_of_mem_number h with h | rfl
      · exact .inl h
      · exact .inr List.mem_cons_self
    · exact .inr (List.mem_cons_of_mem _ h)

/-! ## The list as text -/

/-- What stands behind the URL of a source. -/
def trailing (s : SourceRef) : List Char :=
  match s.title with
  | some title => ' ' :: '-' :: ' ' :: title.toList
  | none => []

/-- The line of a source. -/
def entryChars (n : Nat) (s : SourceRef) : List Char :=
  indexText n ++ '.' :: ' ' :: (s.url.toList ++ trailing s)

/-- The lines of the sources, one after the other. -/
theorem toList_linesFrom_cons (n : Nat) (s : SourceRef) (rest : List SourceRef) :
    (linesFrom n (s :: rest)).toList
      = entryChars n s ++ '\n' :: (linesFrom (n + 1) rest).toList := by
  have hnumber : (toString n).toList = indexText n := Nat.toList_repr
  rw [linesFrom, entryChars, trailing, ← hnumber]
  cases s.title with
  | none => simp
  | some title => simp

/-- What stands behind the URL is set off from it. -/
theorem setOff_trailing (s : SourceRef) : Note.SetOff (trailing s) := by
  intro c hc
  rw [trailing] at hc
  split at hc
  · obtain rfl : ' ' = c := by simpa using hc
    decide
  · simp at hc

section

variable {s : SourceRef}

/-- The line of a plain source is one line. -/
theorem newline_not_mem_entryChars (h : s.Plain) (n : Nat) : '\n' ∉ entryChars n s := by
  have hdigits : '\n' ∉ indexText n := not_mem_indexText (by decide) n
  have hurl : '\n' ∉ s.url.toList := fun hmem => absurd (h.url.noBlank _ hmem) (by decide)
  have htrailing : '\n' ∉ trailing s := by
    rw [trailing]
    split
    · next t ht => simpa using h.noLineFeed t ht
    · simp
  simp [entryChars, hdigits, hurl, htrailing]

/-- The heading does not begin with a space. -/
theorem heading_infix_of_space_cons {cs : List Char}
    (h : Note.sourcesHeading.toList <:+: ' ' :: cs) : Note.sourcesHeading.toList <:+: cs := by
  have hheading : Note.sourcesHeading.toList = '#' :: "## Sources".toList := rfl
  rw [hheading] at h ⊢
  exact infix_of_infix_cons (by decide) h

/-- The heading does not end with a space. -/
theorem heading_infix_of_append_space {cs : List Char}
    (h : Note.sourcesHeading.toList <:+: cs ++ [' ']) : Note.sourcesHeading.toList <:+: cs := by
  have hheading : Note.sourcesHeading.toList = "### Source".toList ++ ['s'] := rfl
  rw [hheading] at h ⊢
  exact infix_of_infix_concat (by decide) h

/-- The line of a plain source does not have the heading in it. -/
theorem heading_not_infix_entryChars (h : s.Plain) (n : Nat) :
    ¬ Note.sourcesHeading.toList <:+: entryChars n s := by
  have hdot : '.' ∉ Note.sourcesHeading.toList := by decide
  have hdash : '-' ∉ Note.sourcesHeading.toList := by decide
  have hspace : ' ' ∈ Note.sourcesHeading.toList := by decide
  have hdigits : ¬ Note.sourcesHeading.toList <:+: indexText n := fun hocc =>
    absurd (isAsciiDigit_of_mem_indexText (hocc.mem hspace)) (by decide)
  have hurl : ¬ Note.sourcesHeading.toList <:+: s.url.toList := fun hocc =>
    absurd (h.url.noBlank _ (hocc.mem hspace)) (by decide)
  intro hocc
  rcases infix_append_cons hdot hocc with hocc | hocc
  · exact hdigits hocc
  · rw [trailing] at hocc
    split at hocc
    · next t ht =>
      have hsplit : s.url.toList ++ ' ' :: '-' :: ' ' :: t.toList
          = (s.url.toList ++ [' ']) ++ '-' :: ' ' :: t.toList := by simp
      have hocc := heading_infix_of_space_cons hocc
      rw [hsplit] at hocc
      rcases infix_append_cons hdash hocc with hocc | hocc
      · exact hurl (heading_infix_of_append_space hocc)
      · exact h.noHeading t ht (heading_infix_of_space_cons hocc)
    · rw [List.append_nil] at hocc
      exact hurl (heading_infix_of_space_cons hocc)

end

/-- The lines of plain sources do not have the heading in them. -/
theorem heading_not_infix_linesFrom {entries : List SourceRef} (h : ∀ s ∈ entries, s.Plain)
    (first : Nat) : ¬ Note.sourcesHeading.toList <:+: (linesFrom first entries).toList := by
  have hnewline : '\n' ∉ Note.sourcesHeading.toList := by decide
  induction entries generalizing first with
  | nil =>
    intro hocc
    exact absurd (List.eq_nil_of_infix_nil hocc) (by decide)
  | cons s rest ih =>
    rw [toList_linesFrom_cons]
    intro hocc
    rcases infix_append_cons hnewline hocc with hocc | hocc
    · exact heading_not_infix_entryChars (h s List.mem_cons_self) first hocc
    · exact ih (fun s' hs' => h s' (List.mem_cons_of_mem _ hs')) (first + 1) hocc

/-- The lines of plain sources are read as entries with their numbers and URLs. -/
theorem map_readSource?_linesFrom {entries : List SourceRef} (h : ∀ s ∈ entries, s.Plain)
    (first : Nat) (hfirst : first + entries.length ≤ Word.size) :
    ((lines (linesFrom first entries).toList).filterMap Note.readSource?).map
        (fun e => (e.number, e.url))
      = entries.mapIdx fun i s => (first + i, s.url) := by
  induction entries generalizing first with
  | nil => rfl
  | cons s rest ih =>
    rw [List.length_cons] at hfirst
    have hs := h s List.mem_cons_self
    obtain ⟨d, hd⟩ := Note.readSource?_dropReturn (n := first) (by omega) hs.url (setOff_trailing s)
    have hline : Note.readSource? (dropReturn (entryChars first s))
        = some ⟨first, String.ofList s.url.toList, d⟩ := hd
    have hrest := ih (fun s' hs' => h s' (List.mem_cons_of_mem _ hs')) (first + 1) (by omega)
    rw [toList_linesFrom_cons, lines_append_cons (newline_not_mem_entryChars hs first),
      List.filterMap_cons, hline]
    simp only [List.map_cons, hrest, List.mapIdx_cons, String.ofList_toList, Nat.add_zero,
      Nat.add_assoc, Nat.add_comm 1]

/-! ## Reading the list back -/

/-- A text with a list of sources at its end is a note whose last heading is that of the list or
stands in the list. In its body, what the list has in front of that heading stands behind the
text. -/
theorem exists_parse_append_render (l : LocalSources) :
    ∃ extra block : List Char, l.render.toList = extra ++ Note.sourcesHeading.toList ++ block ∧
      ∀ front : String, Note.parse (front ++ l.render)
        = ⟨String.ofList (trimEnd (front.toList ++ extra)),
          (lines block).filterMap Note.readSource?⟩ := by
  have hheading : Note.sourcesHeading.toList <:+: l.render.toList := by
    have hrender : l.render.toList
        = Note.sourcesHeading.toList ++ '\n' :: (linesFrom 1 l.entries).toList := by
      rw [render, String.toList_append]
      rfl
    rw [hrender]
    exact (List.prefix_append _ _).isInfix
  obtain ⟨⟨extra, block⟩, hsplit⟩ := exists_splitLast?_eq hheading
  refine ⟨extra, block, eq_append_of_splitLast? hsplit, fun front => ?_⟩
  rw [Note.parse, String.toList_append, splitLast?_append_left hsplit]

/-- A text with the list of plain sources at its end is taken apart in front of the list. -/
theorem parse_append_render_eq {l : LocalSources} (h : ∀ s ∈ l.entries, s.Plain) (front : String) :
    Note.parse (front ++ l.render) = ⟨String.ofList (trimEnd front.toList),
      (lines (linesFrom 1 l.entries).toList).filterMap Note.readSource?⟩ := by
  have hnewline : '\n' ∉ Note.sourcesHeading.toList := by decide
  have htext : (front ++ l.render).toList
      = front.toList ++ Note.sourcesHeading.toList ++ '\n' :: (linesFrom 1 l.entries).toList := by
    have hheading : "### Sources\n".toList = Note.sourcesHeading.toList ++ ['\n'] := rfl
    rw [render, String.toList_append, String.toList_append, hheading]
    simp
  have hlast : ¬ Note.sourcesHeading.toList <:+:
      "## Sources".toList ++ '\n' :: (linesFrom 1 l.entries).toList := by
    intro hocc
    rcases infix_append_cons hnewline hocc with hocc | hocc
    · exact absurd hocc.length_le (by decide)
    · exact heading_not_infix_linesFrom h 1 hocc
  have hsplit : splitLast? Note.sourcesHeading.toList (front ++ l.render).toList
      = some (front.toList, '\n' :: (linesFrom 1 l.entries).toList) := by
    rw [htext]
    exact splitLast?_append hlast front.toList
  have hlines : lines ('\n' :: (linesFrom 1 l.entries).toList)
      = [] :: lines (linesFrom 1 l.entries).toList :=
    lines_append_cons List.not_mem_nil _
  have hempty : Note.readSource? [] = none := rfl
  rw [Note.parse, hsplit]
  simp only [hlines, List.filterMap_cons, hempty]

/-- A text with the list of plain sources at its end is a note with that text for its body and with
the sources for its entries. -/
theorem parse_append_render {l : LocalSources} (h : ∀ s ∈ l.entries, s.Plain)
    (hlen : l.entries.length < Word.size) (front : String) :
    (Note.parse (front ++ l.render)).body.toList = trimEnd front.toList ∧
      (Note.parse (front ++ l.render)).sources.map (fun e => (e.number, e.url))
        = l.entries.mapIdx fun i s => (i + 1, s.url) := by
  have hread := map_readSource?_linesFrom h 1 (by omega)
  rw [parse_append_render_eq h]
  constructor
  · exact String.toList_ofList
  · simp only [hread, Nat.add_comm 1]

/-- However many plain sources there are, the entries that are read have their URLs. -/
theorem exists_of_mem_linesFrom {entries : List SourceRef} (h : ∀ s ∈ entries, s.Plain)
    {first : Nat} {e : NoteSource}
    (he : e ∈ (lines (linesFrom first entries).toList).filterMap Note.readSource?) :
    ∃ s ∈ entries, s.url = e.url := by
  induction entries generalizing first with
  | nil =>
    have hnone : (lines (linesFrom first []).toList).filterMap Note.readSource? = [] := rfl
    rw [hnone] at he
    cases he
  | cons s rest ih =>
    have hs := h s List.mem_cons_self
    rw [toList_linesFrom_cons, lines_append_cons (newline_not_mem_entryChars hs first)] at he
    obtain ⟨line, hline, hread⟩ := List.mem_filterMap.1 he
    rcases List.mem_cons.1 hline with rfl | hline
    · have hurl := Note.url_of_readSource? hs.url (setOff_trailing s) hread
      exact ⟨s, List.mem_cons_self, by rw [hurl, String.ofList_toList]⟩
    · obtain ⟨s', hs', hurl⟩ := ih (fun s' hs' => h s' (List.mem_cons_of_mem _ hs'))
        (List.mem_filterMap.2 ⟨line, hline, hread⟩)
      exact ⟨s', List.mem_cons_of_mem _ hs', hurl⟩

/-- Numbers go up from the first. -/
theorem le_number_of_mem {entries : List NoteSource} {sources : List SourceRef} {first : Nat}
    (h : entries.map (fun e => (e.number, e.url)) = sources.mapIdx fun i s => (first + i, s.url))
    {e : NoteSource} (he : e ∈ entries) : first ≤ e.number := by
  have hmem := List.mem_map_of_mem (f := fun e : NoteSource => (e.number, e.url)) he
  rw [h] at hmem
  obtain ⟨j, hj, heq⟩ := List.mem_mapIdx.1 hmem
  have hnumber : first + j = e.number := (Prod.mk.inj heq).1
  omega

/-- Among entries that are numbered like the sources of a task there is exactly one with the number
of a source, and it has the URL of that source. -/
theorem exists_filter_eq_singleton {entries : List NoteSource} {sources : List SourceRef}
    {first : Nat}
    (h : entries.map (fun e => (e.number, e.url))
      = sources.mapIdx fun i s => (first + i, s.url))
    {i : Nat} {s : SourceRef} (hi : sources[i]? = some s) :
    ∃ e, entries.filter (fun e => e.number = first + i) = [e] ∧ e.url = s.url := by
  induction sources generalizing first entries i with
  | nil => simp at hi
  | cons s' rest ih =>
    rw [List.mapIdx_cons] at h
    obtain ⟨e, es, rfl, he, hes⟩ := List.map_eq_cons_iff.1 h
    obtain ⟨hnumber, hurl⟩ : e.number = first ∧ e.url = s'.url := by simpa using he
    have hes' : es.map (fun e => (e.number, e.url))
        = rest.mapIdx fun i s => (first + 1 + i, s.url) := by
      rw [hes]
      simp only [Nat.add_assoc, Nat.add_comm 1]
    cases i with
    | zero =>
      obtain rfl : s' = s := by simpa using hi
      -- the entries behind have greater numbers
      have hlater : ∀ e' ∈ es, e'.number ≠ first + 0 := by
        intro e' he'
        have := le_number_of_mem hes' he'
        omega
      refine ⟨e, ?_, hurl⟩
      rw [List.filter_cons_of_pos (by simp [hnumber]),
        List.filter_eq_nil_iff.2 (by simpa using hlater)]
    | succ j =>
      have hne : e.number ≠ first + (j + 1) := by omega
      have hsum : first + (j + 1) = first + 1 + j := by omega
      rw [List.filter_cons_of_neg (by simpa using hne), hsum]
      exact ih hes' hi

end Task.LocalSources

end CitedReport
