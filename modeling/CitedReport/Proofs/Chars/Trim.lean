import CitedReport.Proofs.Chars.Span

/-!
# Trimming

A text that ends in a character other than a blank has nothing to be trimmed at its end, and what
stands before such a character is out of reach.
-/

namespace CitedReport.Chars

/-- The last character is there and is not a blank. -/
def EndsInText (cs : List Char) : Prop := ∃ front c, cs = front ++ [c] ∧ isBlank c = false

/-- A text with characters but no blanks ends in text. -/
theorem endsInText_of_forall {cs : List Char} (hne : cs ≠ [])
    (h : ∀ c ∈ cs, isBlank c = false) : EndsInText cs :=
  ⟨cs.dropLast, cs.getLast hne, (List.dropLast_append_getLast hne).symm,
    h _ (List.getLast_mem hne)⟩

/-- What ends in text goes on doing so with anything in front. -/
theorem EndsInText.append_left {cs : List Char} (h : EndsInText cs) (front : List Char) :
    EndsInText (front ++ cs) := by
  obtain ⟨front', c, rfl, hc⟩ := h
  exact ⟨front ++ front', c, (List.append_assoc ..).symm, hc⟩

/-- Nothing is dropped in front of what stays. -/
theorem dropEndWhile_append_cons {α : Type} {p : α → Bool} {c : α} (hc : p c = false)
    (before after : List α) :
    dropEndWhile p (before ++ c :: after) = before ++ c :: dropEndWhile p after := by
  rw [dropEndWhile, dropEndWhile, List.reverse_append, List.reverse_cons, List.append_assoc,
    List.dropWhile_append]
  split
  · next hnil =>
    rw [List.isEmpty_iff] at hnil
    simp [hnil, hc]
  · simp

/-- Trimming at the end does not reach past a character that is not a blank. -/
theorem trimEnd_append_cons {c : Char} (hc : isBlank c = false) (before after : List Char) :
    trimEnd (before ++ c :: after) = before ++ c :: trimEnd after :=
  dropEndWhile_append_cons hc before after

/-- Trimming does not reach past text. -/
theorem trimEnd_append {cs : List Char} (h : EndsInText cs) (rest : List Char) :
    trimEnd (cs ++ rest) = cs ++ trimEnd rest := by
  obtain ⟨front, c, rfl, hc⟩ := h
  rw [List.append_assoc, List.singleton_append, trimEnd_append_cons hc, List.append_assoc,
    List.singleton_append]

/-- Trimming does not reach past a text of which something is left. -/
theorem trimEnd_append_of_ne_nil {cs : List Char} (h : trimEnd cs ≠ []) (front : List Char) :
    trimEnd (front ++ cs) = front ++ trimEnd cs := by
  have hne : (cs.reverse.dropWhile isBlank).isEmpty = false := by
    rw [List.isEmpty_eq_false_iff]
    simpa [trimEnd, dropEndWhile] using h
  simp [trimEnd, dropEndWhile, List.dropWhile_append, hne]

/-- Nothing is trimmed off text. -/
theorem trimEnd_eq_self {cs : List Char} (h : EndsInText cs) : trimEnd cs = cs := by
  have := trimEnd_append h []
  rwa [List.append_nil, show trimEnd [] = [] from rfl, List.append_nil] at this

/-- Blanks at the end are trimmed off. -/
theorem trimEnd_append_blanks {blanks : List Char} (h : ∀ c ∈ blanks, isBlank c = true)
    (cs : List Char) : trimEnd (cs ++ blanks) = trimEnd cs := by
  rw [trimEnd, trimEnd, dropEndWhile, dropEndWhile, List.reverse_append,
    List.dropWhile_append_of_pos (by simpa using h)]

/-- What is left after trimming ends in text, if anything is left. -/
theorem endsInText_trimEnd {cs : List Char} (h : trimEnd cs ≠ []) : EndsInText (trimEnd cs) := by
  refine ⟨(trimEnd cs).dropLast, (trimEnd cs).getLast h, (List.dropLast_append_getLast h).symm, ?_⟩
  exact Bool.eq_false_iff.2 (List.rdropWhile_last_not isBlank cs h)

/-- A trimmed text ends in text unless nothing is left of it. -/
theorem endsInText_trim {cs : List Char} (h : trim cs ≠ []) : EndsInText (trim cs) :=
  endsInText_trimEnd h

/-- What is left after trimming is not trimmed further. -/
theorem trimEnd_trimEnd (cs : List Char) : trimEnd (trimEnd cs) = trimEnd cs := by
  rcases eq_or_ne (trimEnd cs) [] with hnil | hne
  · rw [hnil]
    rfl
  · exact trimEnd_eq_self (endsInText_trimEnd hne)

/-- A trimmed text has no blanks at its end to drop. -/
theorem trimEnd_trim (cs : List Char) : trimEnd (trim cs) = trim cs := trimEnd_trimEnd _

/-- Only of blanks is nothing left after trimming. -/
theorem allBlank_of_trim_eq_nil {cs : List Char} (h : trim cs = []) : allBlank cs = true := by
  -- what is left in front does not begin with a blank, so it can only go away if it is nothing
  have hblank : ∀ c ∈ trimStart cs, isBlank c = true := List.rdropWhile_eq_nil_iff.1 h
  have hnil : cs.dropWhile isBlank = [] := by
    by_contra hne
    have hhead := List.head_dropWhile_not isBlank hne
    rw [hblank _ (List.head_mem hne)] at hhead
    contradiction
  exact List.all_eq_true.2 (List.dropWhile_eq_nil_iff.1 hnil)

/-- Trimming at the end leaves a beginning of the text. -/
theorem trimEnd_begins (cs : List Char) : trimEnd cs <+: cs := List.rdropWhile_prefix isBlank cs

/-- Trimming leaves a piece of the text. -/
theorem trim_within (cs : List Char) : trim cs <:+: cs :=
  (trimEnd_begins (trimStart cs)).isInfix.trans (List.dropWhile_suffix isBlank).isInfix

/-- Trimming in front does not reach past a character that is not a blank. -/
theorem trimStart_append_cons {c : Char} (hc : isBlank c = false) (before after : List Char) :
    trimStart (before ++ c :: after) = trimStart before ++ c :: after := by
  rw [trimStart, trimStart, List.dropWhile_append]
  split
  · next hnil =>
    rw [List.isEmpty_iff] at hnil
    simp [hnil, hc]
  · rfl

/-- A character that is no blank stays in front of whatever is trimmed behind it. -/
theorem trimEnd_cons {c : Char} (hc : isBlank c = false) (after : List Char) :
    trimEnd (c :: after) = c :: trimEnd after := by
  have hcons := trimEnd_append_cons hc [] after
  rwa [List.nil_append, List.nil_append] at hcons

/-- A text that begins with no blank is trimmed at its end only. -/
theorem trim_cons {c : Char} (hc : isBlank c = false) (after : List Char) :
    trim (c :: after) = trimEnd (c :: after) := by
  have hstart := trimStart_append_cons hc [] after
  rw [List.nil_append, show trimStart [] = [] from rfl, List.nil_append] at hstart
  rw [trim, hstart]

/-- The first character is there and is not a blank. -/
def StartsInText (cs : List Char) : Prop := ∃ c back, cs = c :: back ∧ isBlank c = false

/-- What starts in text goes on doing so with anything behind. -/
theorem StartsInText.append_right {cs : List Char} (h : StartsInText cs) (back : List Char) :
    StartsInText (cs ++ back) := by
  obtain ⟨c, back', rfl, hc⟩ := h
  exact ⟨c, back' ++ back, List.cons_append, hc⟩

/-- A text that starts in text does not have blanks only. -/
theorem StartsInText.allBlank_eq_false {cs : List Char} (h : StartsInText cs) :
    allBlank cs = false := by
  obtain ⟨c, back, rfl, hc⟩ := h
  rw [allBlank, List.all_cons, hc, Bool.false_and]

/-- What is left after trimming starts in text, too. -/
theorem startsInText_trim {cs : List Char} (h : trim cs ≠ []) : StartsInText (trim cs) := by
  have hne : trimStart cs ≠ [] := by
    intro hnil
    rw [trim, hnil] at h
    exact h rfl
  have hc : isBlank ((trimStart cs).head hne) = false := List.head_dropWhile_not isBlank hne
  obtain ⟨c, rest, hcons⟩ := List.exists_cons_of_ne_nil hne
  simp only [hcons, List.head_cons] at hc
  exact ⟨c, trimEnd rest, by rw [trim, hcons, trimEnd_cons hc], hc⟩

/-- Of blanks nothing is left after trimming. -/
theorem trim_eq_nil_of_allBlank {cs : List Char} (h : allBlank cs = true) : trim cs = [] := by
  by_contra hne
  obtain ⟨c, back, htrim, hc⟩ := startsInText_trim hne
  have hmem : c ∈ cs := (trim_within cs).subset (htrim ▸ List.mem_cons_self)
  rw [List.all_eq_true.1 h c hmem] at hc
  cases hc

/-- Nothing is trimmed off what starts and ends in text. -/
theorem trim_eq_self {cs : List Char} (hstart : StartsInText cs) (hend : EndsInText cs) :
    trim cs = cs := by
  obtain ⟨c, back, rfl, hc⟩ := hstart
  rw [trim_cons hc, trimEnd_eq_self hend]

/-- Trimming does not reach past a character that is not a blank, from either side. -/
theorem trim_append_cons {c d : Char} (hc : isBlank c = false) (hd : isBlank d = false)
    (before inside after : List Char) :
    trim (before ++ (c :: (inside ++ [d])) ++ after)
      = trimStart before ++ (c :: (inside ++ [d])) ++ trimEnd after := by
  have hstart : trimStart (before ++ (c :: (inside ++ [d])) ++ after)
      = trimStart before ++ (c :: (inside ++ [d])) ++ after := by
    have hcons := trimStart_append_cons hc before (inside ++ [d] ++ after)
    simpa using hcons
  have hend : EndsInText (trimStart before ++ (c :: (inside ++ [d]))) :=
    ⟨trimStart before ++ (c :: inside), d, by simp, hd⟩
  rw [trim, hstart, trimEnd_append hend]

end CitedReport.Chars
