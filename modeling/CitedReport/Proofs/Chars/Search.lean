import Mathlib.Data.List.Basic
import CitedReport.Chars.Basic

/-!
# Patterns and pieces of a text

A text that is put together around a pattern is taken apart there again, as long as the pattern does
not occur once more behind its first character. Whether it does is decided piece by piece: an
occurrence cannot reach over a character that the pattern does not have, nor begin or end with a
character with which the pattern does not.

A text that is cut at every character of a class has at least one piece. What is put in front of it
makes the first piece longer or adds pieces, so that what holds of all texts can be shown piece by
piece (`piece_induction`).
-/

namespace CitedReport.Chars

/-! ## Occurrences -/

/-- A text begins with a pattern when the pattern is in front of the rest. -/
theorem after?_eq_some_iff {pattern cs rest : List Char} :
    after? pattern cs = some rest ↔ cs = pattern ++ rest := by
  induction pattern generalizing cs with
  | nil => simp [after?, eq_comm]
  | cons p ps ih =>
    cases cs with
    | nil => simp [after?]
    | cons c cs =>
      rw [after?]
      split
      · next h => simp [ih, h]
      · next h => simp [Ne.symm h]

/-- A text contains a pattern when the pattern occurs in it. -/
theorem contains_iff_infix {pattern cs : List Char} :
    contains pattern cs = true ↔ pattern <:+: cs := by
  rw [contains]
  induction cs with
  | nil =>
    rw [splitFirst?, List.infix_nil]
    split
    · next hnil => simp [hnil]
    · next hne => simp [hne]
  | cons c cs ih =>
    rw [splitFirst?, List.infix_cons_iff]
    cases hafter : after? pattern (c :: cs) with
    | none =>
      have hhere : ¬ pattern <+: c :: cs := by
        rintro ⟨rest, hrest⟩
        rw [after?_eq_some_iff.2 hrest.symm] at hafter
        cases hafter
      rw [Option.isSome_map, ih]
      exact (or_iff_right hhere).symm
    | some rest => exact iff_of_true rfl (.inl ⟨rest, (after?_eq_some_iff.1 hafter).symm⟩)

/-- Where a pattern does not occur there is nothing to split at. -/
theorem splitLast?_eq_none {pattern cs : List Char} (h : ¬ pattern <:+: cs) :
    splitLast? pattern cs = none := by
  induction cs with
  | nil =>
    have hne : pattern ≠ [] := by
      rintro rfl
      exact h List.nil_infix
    rw [splitLast?, if_neg hne]
  | cons c cs ih =>
    have hlater : ¬ pattern <:+: cs := fun hc => h (List.infix_cons hc)
    have hhere : after? pattern (c :: cs) = none := by
      cases hafter : after? pattern (c :: cs) with
      | none => rfl
      | some rest =>
        rw [after?_eq_some_iff] at hafter
        exact absurd (hafter ▸ List.infix_append [] pattern rest) h
    rw [splitLast?, ih hlater, hhere]
    rfl

/-- A text is split at a pattern that does not occur once more behind its first character. -/
theorem splitLast?_append {p : Char} {ps rest : List Char} (h : ¬ (p :: ps) <:+: ps ++ rest)
    (front : List Char) :
    splitLast? (p :: ps) (front ++ (p :: ps) ++ rest) = some (front, rest) := by
  induction front with
  | nil =>
    have hafter : after? (p :: ps) (p :: (ps ++ rest)) = some rest := after?_eq_some_iff.2 rfl
    rw [List.nil_append, List.cons_append, splitLast?, splitLast?_eq_none h, hafter]
    rfl
  | cons c cs ih => rw [List.cons_append, List.cons_append, splitLast?, ih]

/-- Wherever a pattern occurs there is something to split at. -/
theorem exists_splitLast?_eq {pattern cs : List Char} (h : pattern <:+: cs) :
    ∃ r, splitLast? pattern cs = some r := by
  induction cs with
  | nil =>
    rw [List.eq_nil_of_infix_nil h]
    exact ⟨_, rfl⟩
  | cons c cs ih =>
    rw [splitLast?]
    split
    · exact ⟨_, rfl⟩
    · next hlater =>
      rcases List.infix_cons_iff.1 h with ⟨rest, hrest⟩ | h
      · rw [after?_eq_some_iff.2 hrest.symm]
        exact ⟨_, rfl⟩
      · obtain ⟨r, hr⟩ := ih h
        rw [hr] at hlater
        cases hlater

/-- What a text is split into makes up the text. -/
theorem eq_append_of_splitLast? {pattern cs front rest : List Char}
    (h : splitLast? pattern cs = some (front, rest)) : cs = front ++ pattern ++ rest := by
  induction cs generalizing front with
  | nil =>
    rw [splitLast?] at h
    split at h
    · next hp =>
      obtain ⟨rfl, rfl⟩ := Prod.mk.inj (Option.some.inj h)
      rw [hp]
      rfl
    · cases h
  | cons c cs ih =>
    rw [splitLast?] at h
    split at h
    · next r hr =>
      obtain ⟨rfl, rfl⟩ := Prod.mk.inj (Option.some.inj h)
      rw [ih hr, List.cons_append, List.cons_append]
    · obtain ⟨after, hafter, heq⟩ := Option.map_eq_some_iff.1 h
      obtain ⟨rfl, rfl⟩ := Prod.mk.inj heq
      exact after?_eq_some_iff.1 hafter

/-- Where the last occurrence is does not depend on what stands in front. -/
theorem splitLast?_append_left {pattern cs front rest : List Char}
    (h : splitLast? pattern cs = some (front, rest)) (before : List Char) :
    splitLast? pattern (before ++ cs) = some (before ++ front, rest) := by
  induction before with
  | nil => exact h
  | cons c before ih => rw [List.cons_append, splitLast?, ih, List.cons_append]

/-! ## Occurrences piece by piece -/

/-- An occurrence does not reach over a character that the pattern does not have. -/
theorem infix_append_cons {pattern xs ys : List Char} {c : Char} (hc : c ∉ pattern)
    (h : pattern <:+: xs ++ c :: ys) : pattern <:+: xs ∨ pattern <:+: ys := by
  have hbegin : ∀ {l : List Char}, c ∉ l → l <+: c :: ys → l = [] := by
    intro l hl hpre
    rcases List.prefix_cons_iff.1 hpre with rfl | ⟨t, rfl, -⟩
    · rfl
    · exact absurd List.mem_cons_self hl
  rcases List.infix_append_iff.1 h with h | h | ⟨l₁, l₂, rfl, h₁, h₂⟩
  · exact .inl h
  · rcases List.infix_cons_iff.1 h with h | h
    · rw [hbegin hc h]
      exact .inr List.nil_infix
    · exact .inr h
  · rw [hbegin (fun hmem => hc (List.mem_append_right _ hmem)) h₂, List.append_nil]
    exact .inl h₁.isInfix

/-- An occurrence does not begin with a character with which the pattern does not. -/
theorem infix_of_infix_cons {p c : Char} {ps cs : List Char} (hne : p ≠ c)
    (h : (p :: ps) <:+: c :: cs) : (p :: ps) <:+: cs := by
  rcases List.infix_cons_iff.1 h with h | h
  · exact absurd (List.cons_prefix_cons.1 h).1 hne
  · exact h

/-- An occurrence does not end with a character with which the pattern does not. -/
theorem infix_of_infix_concat {p c : Char} {ps cs : List Char} (hne : p ≠ c)
    (h : (ps ++ [p]) <:+: cs ++ [c]) : (ps ++ [p]) <:+: cs := by
  rcases List.infix_concat_iff.1 h with h | h
  · obtain ⟨front, hfront⟩ := h
    rw [← List.append_assoc] at hfront
    exact absurd (List.append_inj' hfront rfl).2 (by simpa using hne)
  · exact h

/-! ## Pieces -/

/-- A character that a text does not have is none of its characters. -/
theorem beq_eq_false_of_not_mem {c : Char} {cs : List Char} (h : c ∉ cs) :
    ∀ d ∈ cs, (d == c) = false := by
  intro d hd
  rw [beq_eq_false_iff_ne]
  rintro rfl
  exact h hd

/-- A text without a separator is one piece. -/
theorem splitOn_of_forall {p : Char → Bool} {cs : List Char} (h : ∀ c ∈ cs, p c = false) :
    splitOn p cs = [cs] := by
  induction cs with
  | nil => rfl
  | cons c cs ih =>
    have hc : p c = false := h c List.mem_cons_self
    rw [splitOn, hc, ih fun d hd => h d (List.mem_cons_of_mem c hd)]
    rfl

/-- A separator ends a piece. -/
theorem splitOn_append_cons {p : Char → Bool} {piece : List Char} {c : Char}
    (h : ∀ d ∈ piece, p d = false) (hc : p c = true) (rest : List Char) :
    splitOn p (piece ++ c :: rest) = piece :: splitOn p rest := by
  induction piece with
  | nil => rw [List.nil_append, splitOn, if_pos hc]
  | cons d ds ih =>
    have hd : p d = false := h d List.mem_cons_self
    rw [List.cons_append, splitOn, hd, ih fun e he => h e (List.mem_cons_of_mem d he)]
    rfl

/-- There is always a piece. -/
theorem splitOn_ne_nil (p : Char → Bool) (cs : List Char) : splitOn p cs ≠ [] := by
  cases cs with
  | nil => simp [splitOn]
  | cons c cs =>
    rw [splitOn]
    split
    · simp
    · split <;> simp

/-- What holds of a text without a separator, and of a text with one more piece in front when it
holds of the text, holds of every text. -/
@[elab_as_elim]
theorem piece_induction (c : Char) {motive : List Char → Prop} (last : ∀ cs, c ∉ cs → motive cs)
    (piece : ∀ front rest, c ∉ front → motive rest → motive (front ++ c :: rest)) (cs : List Char) :
    motive cs := by
  by_cases hmem : c ∈ cs
  · obtain ⟨front, rest, hcs, hfront⟩ := List.eq_append_cons_of_mem hmem
    have hrest : motive rest := piece_induction c last piece rest
    rw [hcs]
    exact piece front rest hfront hrest
  · exact last cs hmem
termination_by cs.length
decreasing_by
  rw [hcs, List.length_append, List.length_cons]
  omega

/-- A text that is cut at a separator has the pieces of the parts. -/
theorem splitOn_append_separator {p : Char → Bool} {c : Char} (hc : p c = true)
    (cs rest : List Char) : splitOn p (cs ++ c :: rest) = splitOn p cs ++ splitOn p rest := by
  induction cs with
  | nil =>
    have hcut : splitOn p (c :: rest) = [] :: splitOn p rest := by rw [splitOn, if_pos hc]
    exact hcut
  | cons d cs ih =>
    rw [List.cons_append, splitOn, splitOn, ih]
    obtain ⟨piece, pieces, hpieces⟩ := List.exists_cons_of_ne_nil (splitOn_ne_nil p cs)
    split
    · rfl
    · rw [hpieces]
      rfl

/-- What is put in front of a text without a separator of its own goes to the first piece. -/
theorem splitOn_append_left {p : Char → Bool} {front cs piece : List Char}
    {pieces : List (List Char)} (h : ∀ c ∈ front, p c = false)
    (hcs : splitOn p cs = piece :: pieces) : splitOn p (front ++ cs) = (front ++ piece) :: pieces := by
  induction front with
  | nil => exact hcs
  | cons c front ih =>
    have hc : p c = false := h c List.mem_cons_self
    rw [List.cons_append, splitOn, hc, ih fun d hd => h d (List.mem_cons_of_mem c hd)]
    rfl

/-- The first piece of a text is its beginning. -/
theorem prefix_of_splitOn {p : Char → Bool} {cs piece : List Char} {pieces : List (List Char)}
    (h : splitOn p cs = piece :: pieces) : piece <+: cs := by
  induction cs generalizing piece pieces with
  | nil =>
    rw [splitOn, List.cons.injEq] at h
    exact h.1 ▸ List.nil_prefix
  | cons c cs ih =>
    obtain ⟨first, more, hcons⟩ := List.exists_cons_of_ne_nil (splitOn_ne_nil p cs)
    rw [splitOn, hcons] at h
    split at h
    · rw [← (List.cons.inj h).1]
      exact List.nil_prefix
    · rw [← (List.cons.inj h).1]
      exact (List.prefix_cons_inj c).2 (ih hcons)

/-! ## Lines -/

/-- A line feed ends a line. -/
theorem lines_append_cons {line : List Char} (h : '\n' ∉ line) (rest : List Char) :
    lines (line ++ '\n' :: rest) = dropReturn line :: lines rest := by
  rw [lines, lines, splitOn_append_cons (beq_eq_false_of_not_mem h) rfl]
  obtain ⟨piece, pieces, hpieces⟩ := List.exists_cons_of_ne_nil (splitOn_ne_nil (· == '\n') rest)
  rw [hpieces]
  rfl

/-- A line loses at most a carriage return. -/
theorem dropReturn_eq_or (cs : List Char) : dropReturn cs = cs ∨ cs = dropReturn cs ++ ['\r'] := by
  rw [dropReturn]
  split
  · next rest h =>
    have hcs := congrArg List.reverse h
    rw [List.reverse_reverse, List.reverse_cons] at hcs
    exact .inr hcs
  · exact .inl rfl

/-- What it loses comes behind every other character. -/
theorem exists_dropReturn_append {c : Char} (hc : c ≠ '\r') (front rest : List Char) :
    ∃ rest', dropReturn (front ++ c :: rest) = front ++ c :: rest' := by
  rcases dropReturn_eq_or (front ++ c :: rest) with heq | heq
  · exact ⟨rest, heq⟩
  · rcases List.eq_nil_or_concat' rest with rfl | ⟨rest', last, rfl⟩
    · exact absurd (by simpa using (List.append_inj' heq rfl).2) hc
    · have hline : front ++ c :: (rest' ++ [last]) = front ++ c :: rest' ++ [last] := by simp
      rw [hline] at heq ⊢
      exact ⟨rest', (List.append_inj' heq rfl).1.symm⟩

end CitedReport.Chars
