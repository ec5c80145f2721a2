import CitedReport.Note
import CitedReport.Proofs.Chars.Lines

/-!
# What an entry of a list of sources looks like

Whatever the line, a URL that is read off it is a text with an end that no trimming moves, and so is
a description. Sections of sources that are written from such entries keep their last character when
they are trimmed.

Both are pieces of the line (`standsIn_of_readSource?`). So neither has a line feed, and an entry
that is written down again takes one line, too.
-/

namespace CitedReport

open Chars

/-- The URL of an entry and its description, if it has one, end in text. -/
def NoteSource.EndsInText (e : NoteSource) : Prop :=
  Chars.EndsInText e.url.toList ∧ ∀ d ∈ e.description, Chars.EndsInText d.toList

/-- The URL of an entry and its description, if it has one, are pieces of a line. -/
def NoteSource.StandsIn (line : List Char) (e : NoteSource) : Prop :=
  e.url.toList <:+: line ∧ ∀ d ∈ e.description, d.toList <:+: line

namespace Note

/-- A text that counts as one has characters. -/
theorem toList_of_mem_nonempty? {cs : List Char} {s : String} (h : s ∈ nonempty? cs) :
    s.toList = cs ∧ cs ≠ [] := by
  rw [Option.mem_def] at h
  unfold nonempty? at h
  split at h
  · cases h
  · next hne =>
    obtain rfl := Option.some.inj h
    exact ⟨String.toList_ofList, hne⟩

/-! ## Ending in text -/

/-- A trimmed text that counts as one ends in text. -/
theorem endsInText_of_mem_nonempty? {cs : List Char} {s : String} (h : s ∈ nonempty? (trim cs)) :
    Chars.EndsInText s.toList := by
  obtain ⟨hs, hne⟩ := toList_of_mem_nonempty? h
  rw [hs]
  exact endsInText_trim hne

/-- The URL of a link has characters and no blanks. -/
theorem url_of_readLink? {cs title url rest : List Char}
    (h : readLink? cs = some (title, url, rest)) :
    url ≠ [] ∧ ∀ c ∈ url, isBlank c = false := by
  unfold readLink? at h
  split at h
  · next inside =>
    simp only at h
    split at h
    · next target htarget =>
      split at h
      · simp at h
      · next after hdrop hne =>
        simp only [Option.some.injEq, Prod.mk.injEq] at h
        obtain ⟨-, rfl, -⟩ := h
        refine ⟨hne, fun c hc => ?_⟩
        have hin := List.mem_takeWhile_imp hc
        simpa using (Bool.and_eq_true_iff.1 hin).2
      · simp at h
    · simp at h
  · simp at h

/-- The description of a link ends in text. -/
theorem endsInText_linkEntry {title url trailing : List Char} {d : String}
    (h : d ∈ (linkEntry title url trailing).2) : Chars.EndsInText d.toList := by
  unfold linkEntry at h
  simp only at h
  split at h
  · exact endsInText_of_mem_nonempty? h
  · exact endsInText_of_mem_nonempty? h

/-- Entries that are read end in text. -/
theorem endsInText_of_readSource? {line : List Char} {e : NoteSource}
    (h : readSource? line = some e) : e.EndsInText := by
  unfold readSource? at h
  simp only [Option.bind_eq_bind, Option.bind_eq_some_iff, Prod.exists] at h
  obtain ⟨digits, rest, -, number, -, h⟩ := h
  split at h
  · next title url trailing hlink =>
    obtain rfl : _ = e := by simpa using h
    obtain ⟨hne, hblank⟩ := url_of_readLink? hlink
    refine ⟨?_, fun d hd => endsInText_linkEntry hd⟩
    rw [String.toList_ofList]
    exact endsInText_of_forall hne hblank
  · obtain ⟨url, hurl, h⟩ := Option.bind_eq_some_iff.1 h
    obtain rfl : _ = e := by simpa using h
    exact ⟨endsInText_of_mem_nonempty? hurl, fun d hd => endsInText_of_mem_nonempty? hd⟩

/-- The entries of a note end in text. -/
theorem endsInText_of_mem_sources {note : String} {e : NoteSource}
    (h : e ∈ (parse note).sources) : e.EndsInText := by
  unfold parse at h
  split at h
  · simp at h
  · obtain ⟨line, -, hline⟩ := List.mem_filterMap.1 h
    exact endsInText_of_readSource? hline

/-! ## Standing in a line -/

/-- What stands behind the number of a line is the rest of the line. -/
theorem suffix_of_readNumber? {line digits rest : List Char}
    (h : readNumber? line = some (digits, rest)) : rest <:+ line := by
  have hspace : ∀ cs : List Char, cs.dropWhile isBlank <:+ cs := fun cs => List.dropWhile_suffix _
  -- the rest begins behind one more character, and that behind the digits
  have hclose : ∀ {cs : List Char} {c : Char} {back : List Char},
      cs.dropWhile isDigit = c :: back → back <:+ cs := fun hcs =>
    (List.suffix_cons _ _).trans (hcs ▸ List.dropWhile_suffix _)
  unfold readNumber? at h
  extract_lets front cs at h
  have hfront : front <:+ line := hspace line
  clear_value front
  have hcs : cs <:+ line := by
    unfold cs
    split
    · next rest => exact (hspace rest).trans ((List.suffix_cons _ _).trans hfront)
    · next rest => exact (hspace rest).trans ((List.suffix_cons _ _).trans hfront)
    · exact hfront
  refine List.IsSuffix.trans ?_ hcs
  clear_value cs
  split at h
  · next inside =>
    split at h
    · cases h
    · next hdrop _ =>
      obtain ⟨rfl, rfl⟩ := Prod.mk.inj (Option.some.inj h)
      exact (hclose hdrop).trans (List.suffix_cons _ _)
    · cases h
  · split at h
    · cases h
    · next hdrop _ =>
      obtain ⟨rfl, rfl⟩ := Prod.mk.inj (Option.some.inj h)
      exact hclose hdrop
    · next hdrop _ =>
      obtain ⟨rfl, rfl⟩ := Prod.mk.inj (Option.some.inj h)
      exact hclose hdrop
    · cases h

/-- What a line says is a piece of it. -/
theorem entryText_within (rest : List Char) : entryText rest <:+: rest := by
  have hspace : rest.dropWhile isBlank <:+ rest := List.dropWhile_suffix _
  unfold entryText
  split
  · next heq => exact (heq ▸ hspace).isInfix
  · next back _ heq =>
    exact (trim_within back).trans ((List.suffix_cons _ _).trans (heq ▸ hspace)).isInfix
  · exact (trimEnd_begins _).isInfix.trans hspace.isInfix

/-- So are the parts of a link. -/
theorem infix_of_readLink? {cs title url rest : List Char}
    (h : readLink? cs = some (title, url, rest)) :
    title <:+: cs ∧ url <:+: cs ∧ rest <:+: cs := by
  unfold readLink? at h
  split at h
  · next inside =>
    have hinside : inside <:+: '[' :: inside := (List.suffix_cons _ _).isInfix
    simp only at h
    split at h
    · next target htarget =>
      -- the URL stands behind the title, inside the link
      have hback : target <:+: '[' :: inside := by
        have hbracket : ']' :: '(' :: target <:+ inside := htarget ▸ List.dropWhile_suffix _
        exact (((List.suffix_cons _ _).trans (List.suffix_cons _ _)).trans hbracket).isInfix.trans
          hinside
      split at h
      · cases h
      · next after hdrop hne =>
        simp only [Option.some.injEq, Prod.mk.injEq] at h
        obtain ⟨rfl, rfl, rfl⟩ := h
        have hafter : ')' :: after <:+ target := hdrop ▸ List.dropWhile_suffix _
        exact ⟨(List.takeWhile_prefix _).isInfix.trans hinside,
          (List.takeWhile_prefix _).isInfix.trans hback,
          ((List.suffix_cons _ _).trans hafter).isInfix.trans hback⟩
      · cases h
    · cases h
  · cases h

/-- So is a description. -/
theorem cleanDescription_within (cs : List Char) : cleanDescription cs <:+: cs :=
  (trim_within _).trans ((List.dropWhile_suffix _).isInfix.trans (trim_within cs))

/-- The description of a link is a piece of its title or of what stands behind it. -/
theorem infix_linkEntry {title url trailing : List Char} {d : String}
    (h : d ∈ (linkEntry title url trailing).2) : d.toList <:+: title ∨ d.toList <:+: trailing := by
  unfold linkEntry at h
  simp only at h
  split at h
  · rw [(toList_of_mem_nonempty? h).1]
    exact .inl (trim_within title)
  · rw [(toList_of_mem_nonempty? h).1]
    exact .inr (cleanDescription_within trailing)

/-- The parts of what is no link are pieces of it. -/
theorem splitUrl_within (cs : List Char) : (splitUrl cs).1 <:+: cs ∧ (splitUrl cs).2 <:+: cs := by
  have hplain : cs.takeWhile (fun c => !isBlank c) <:+: cs ∧
      (cs.dropWhile fun c => !isBlank c).drop 1 <:+: cs :=
    ⟨(List.takeWhile_prefix _).isInfix,
      ((List.drop_suffix _ _).trans (List.dropWhile_suffix _)).isInfix⟩
  unfold splitUrl
  simp only
  split
  · next rest =>
    split
    · next c after heq =>
      have hrest : rest <:+: '<' :: rest := (List.suffix_cons _ _).isInfix
      have hafter : c :: after <:+ rest := heq ▸ List.dropWhile_suffix _
      exact ⟨(List.takeWhile_prefix _).isInfix.trans hrest,
        ((List.suffix_cons _ _).trans hafter).isInfix.trans hrest⟩
    · exact hplain
  · exact hplain

/-- Entries that are read are pieces of their lines. -/
theorem standsIn_of_readSource? {line : List Char} {e : NoteSource}
    (h : readSource? line = some e) : e.StandsIn line := by
  unfold readSource? at h
  simp only [Option.bind_eq_bind, Option.bind_eq_some_iff, Prod.exists] at h
  obtain ⟨digits, rest, hnumber, number, -, h⟩ := h
  have htext : entryText rest <:+: line :=
    (entryText_within rest).trans (suffix_of_readNumber? hnumber).isInfix
  split at h
  · next title url trailing hlink =>
    obtain rfl : _ = e := by simpa using h
    obtain ⟨htitle, hurl, htrailing⟩ := infix_of_readLink? hlink
    refine ⟨?_, fun d hd => ?_⟩
    · rw [String.toList_ofList]
      exact hurl.trans htext
    · rcases infix_linkEntry hd with hinfix | hinfix
      · exact hinfix.trans (htitle.trans htext)
      · exact hinfix.trans (htrailing.trans htext)
  · obtain ⟨url, hurl, h⟩ := Option.bind_eq_some_iff.1 h
    obtain rfl : _ = e := by simpa using h
    obtain ⟨hfront, hback⟩ := splitUrl_within (entryText rest)
    refine ⟨?_, fun d hd => ?_⟩
    · rw [(toList_of_mem_nonempty? hurl).1]
      exact (trim_within _).trans (hfront.trans htext)
    · rw [(toList_of_mem_nonempty? hd).1]
      exact (cleanDescription_within _).trans (hback.trans htext)

/-- The entries of a note have no line feeds. -/
theorem newline_not_mem_of_mem_sources {note : String} {e : NoteSource}
    (h : e ∈ (parse note).sources) :
    '\n' ∉ e.url.toList ∧ ∀ d ∈ e.description, '\n' ∉ d.toList := by
  unfold parse at h
  split at h
  · simp at h
  · obtain ⟨line, hline, hread⟩ := List.mem_filterMap.1 h
    have hfeed : '\n' ∉ line := newline_not_mem_of_mem_lines hline
    obtain ⟨hurl, hdesc⟩ := standsIn_of_readSource? hread
    exact ⟨fun hmem => hfeed (hurl.subset hmem), fun d hd hmem => hfeed ((hdesc d hd).subset hmem)⟩

end Note

end CitedReport
