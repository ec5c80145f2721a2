import CitedReport.Proofs.Relationship.Digits

/-!
# Texts that say nothing about the relationship

A text is silent when the mark of a status is nowhere in it and it does not begin like a kind of
status (`Silent`), so that it neither has a status line nor completes one that has begun before it.
Such a text has no part in the status lines of a larger text in which it stands on lines of its own:
with another silent text in its place there are the same (`Agree.section`).

Texts that agree up to the brackets of their markers (`Masked`) are read alike, for no word of a
status goes past a bracket.
-/

namespace CitedReport.Relationship

open Chars

/-- The text has no status line and is not the end of one. -/
structure Silent (cs : List Char) : Prop where
  /-- The mark of a status is nowhere in it. -/
  unmarked : Unmarked cs
  /-- It does not begin with a kind of status. -/
  apart : StandsApart cs

instance (cs : List Char) : Decidable (Silent cs) :=
  decidable_of_iff (Unmarked cs ∧ StandsApart cs)
    ⟨fun h => ⟨h.1, h.2⟩, fun h => ⟨h.unmarked, h.apart⟩⟩

/-! ## Trimming -/

/-- Trimming leaves a silent text silent. -/
theorem Silent.trim {cs : List Char} (h : Silent cs) : Silent (trim cs) := by
  have hmarks : Unmarked (trimStart cs) := fun rest hrest =>
    h.unmarked rest (hrest.trans (List.dropWhile_suffix _))
  have hstart : StandsApart (trimStart cs) := by
    have hagain : trimStart (trimStart cs) = trimStart cs := List.dropWhile_idempotent _ _
    rw [StandsApart, hagain]
    exact h.apart
  obtain ⟨blanks, hblanks⟩ := trimEnd_begins (trimStart cs)
  -- a mark in the trimmed text would be one in the text
  have hwhole : Unmarked (Chars.trim cs ++ blanks) := by rwa [Chars.trim, hblanks]
  exact ⟨hwhole.of_append, readAlike_alike.standsApart (alike_trimEnd _) hstart⟩

/-! ## Brackets -/

/-- With these characters markers begin, those that are escaped among them. -/
def IsSign (c : Char) : Prop := c = '[' ∨ c = '\\'

/-- A sign is no part of a word. -/
theorem IsSign.not_word {c : Char} (h : IsSign c) : isWord c = false := by
  rcases h with rfl | rfl
  · decide
  · decide

/-- A sign is no blank. -/
theorem IsSign.not_blank {c : Char} (h : IsSign c) : isBlank c = false := by
  rcases h with rfl | rfl
  · rfl
  · rfl

/-- No word of a status has such a character. -/
theorem IsSign.fold_not_mem {c : Char} (h : IsSign c) {phrase : List Char}
    (hphrase : phrase ∈ phrases) : fold c ∉ phrase := by
  have hall : ∀ p ∈ phrases, fold '[' ∉ p ∧ fold '\\' ∉ p := by decide
  rcases h with rfl | rfl
  · exact (hall phrase hphrase).1
  · exact (hall phrase hphrase).2

/-- Texts that are the same up to the first marker. -/
inductive Masked : List Char → List Char → Prop where
  /-- The texts end. -/
  | nil : Masked [] []
  /-- The same character comes first. -/
  | char (c : Char) {cs ds : List Char} (h : Masked cs ds) : Masked (c :: cs) (c :: ds)
  /-- A marker begins in both. -/
  | sign {c d : Char} (hc : IsSign c) (hd : IsSign d) (cs ds : List Char) :
    Masked (c :: cs) (d :: ds)

/-- A phrase without brackets is read in both texts, or in none. -/
theorem Masked.afterFolded? {cs ds : List Char} (h : Masked cs ds) {phrase : List Char}
    (hphrase : ∀ c, IsSign c → fold c ∉ phrase) :
    Option.Rel Masked (afterFolded? phrase cs) (afterFolded? phrase ds) := by
  induction h generalizing phrase with
  | nil =>
    cases phrase with
    | nil => exact .some .nil
    | cons p ps => exact .none
  | char c h ih =>
    cases phrase with
    | nil => exact .some (.char c h)
    | cons p ps =>
      rw [Chars.afterFolded?, Chars.afterFolded?]
      split
      · exact ih fun d hd hmem => hphrase d hd (List.mem_cons_of_mem p hmem)
      · exact .none
  | @sign c d hc hd cs ds =>
    cases phrase with
    | nil => exact .some (.sign hc hd cs ds)
    | cons p ps =>
      -- the phrase goes on, and neither of the two is its next character
      have hp : ∀ e : Char, IsSign e → p ≠ fold e := fun e he heq =>
        hphrase e he (heq ▸ List.mem_cons_self)
      rw [Chars.afterFolded?, Chars.afterFolded?, if_neg (hp c hc), if_neg (hp d hd)]
      exact .none

/-- Texts that are the same up to the first marker cannot be told apart. -/
theorem readAlike_masked : ReadAlike Masked where
  phrase h hphrase := h.afterFolded? fun _ hc => hc.fold_not_mem hphrase
  wordNext h := by
    cases h with
    | nil => rfl
    | char c h => rfl
    | sign hc hd => exact hc.not_word.trans hd.not_word.symm
  trimStart h := by
    induction h with
    | nil => exact .nil
    | char c h ih =>
      rw [trimStart, trimStart, List.dropWhile_cons, List.dropWhile_cons]
      split
      · exact ih
      · exact .char c h
    | @sign c d hc hd cs ds =>
      rw [trimStart, trimStart, List.dropWhile_cons, List.dropWhile_cons,
        if_neg (by simp [hc.not_blank]), if_neg (by simp [hd.not_blank])]
      exact .sign hc hd cs ds

/-! ## Sections -/

/-- Two texts stand apart and have status lines of the same kinds. -/
structure Agree (cs ds : List Char) : Prop where
  /-- No status from before ends in the first. -/
  left : StandsApart cs
  /-- None ends in the second. -/
  right : StandsApart ds
  /-- Their status lines are of the same kinds. -/
  kinds_eq : kinds cs = kinds ds

/-- A text that stands apart agrees with itself. -/
theorem Agree.refl {cs : List Char} (h : StandsApart cs) : Agree cs cs := ⟨h, h, rfl⟩

/-- A blank line leaves a text apart. -/
theorem StandsApart.newline {cs : List Char} (h : StandsApart cs) : StandsApart ('\n' :: cs) := by
  have hnil : StandsApart [] := rfl
  exact hnil.append_newline h

/-- A text in front, up to a blank line. -/
theorem kinds_append_blankLine {rest : List Char} (h : StandsApart rest) (cs : List Char) :
    kinds (cs ++ '\n' :: '\n' :: rest) = kinds cs ++ kinds rest := by
  rw [kinds_append_newline h.newline, show '\n' :: rest = [] ++ '\n' :: rest from rfl,
    kinds_append_newline h]
  rfl

/-- A silent text adds nothing to the status lines behind it. -/
theorem Silent.kinds_append {cs rest : List Char} (hcs : Silent cs) (h : StandsApart rest) :
    kinds (cs ++ '\n' :: '\n' :: rest) = kinds rest := by
  rw [kinds_append_blankLine h, kinds_of_unmarked hcs.unmarked]
  rfl

/-- A silent text leaves what is behind it apart. -/
theorem Silent.append {cs rest : List Char} (hcs : Silent cs) (h : StandsApart rest) :
    StandsApart (cs ++ '\n' :: '\n' :: rest) :=
  hcs.apart.append_newline h.newline

/-- Agreeing texts go on agreeing with the same text in front. -/
theorem Agree.append_left {cs ds : List Char} (h : Agree cs ds) {front : List Char}
    (hfront : StandsApart front) :
    Agree (front ++ '\n' :: '\n' :: cs) (front ++ '\n' :: '\n' :: ds) :=
  ⟨hfront.append_newline h.left.newline, hfront.append_newline h.right.newline, by
    rw [kinds_append_blankLine h.left, kinds_append_blankLine h.right, h.kinds_eq]⟩

/-- Agreeing texts go on agreeing in sections with the same title and the same text, or with silent
ones. -/
theorem Agree.section {cs ds xs ys title : List Char} (h : Agree cs ds)
    (hsame : xs = ys ∨ Silent xs ∧ Silent ys) (htitle : ∀ rest, StandsApart (title ++ rest)) :
    Agree (title ++ '\n' :: (xs ++ '\n' :: '\n' :: cs))
      (title ++ '\n' :: (ys ++ '\n' :: '\n' :: ds)) := by
  refine ⟨htitle _, htitle _, ?_⟩
  -- the same text is counted with the title; silent ones count for nothing, and neither can
  -- complete a status that the title begins
  rcases hsame with rfl | ⟨hxs, hys⟩
  · have hfront : ∀ rest, title ++ '\n' :: (xs ++ '\n' :: '\n' :: rest)
        = (title ++ '\n' :: xs) ++ '\n' :: '\n' :: rest := by
      intro rest
      simp
    rw [hfront, hfront, kinds_append_blankLine h.left, kinds_append_blankLine h.right, h.kinds_eq]
  · rw [kinds_append_newline (hxs.append h.left), kinds_append_newline (hys.append h.right),
      hxs.kinds_append h.left, hys.kinds_append h.right, h.kinds_eq]

/-- The text has no effect on the status lines of what stands behind it. -/
def Idle (front : List Char) : Prop :=
  ∀ rest, StandsApart rest → StandsApart (front ++ rest) ∧ kinds (front ++ rest) = kinds rest

/-- No text has no effect. -/
theorem idle_nil : Idle [] := fun _ h => ⟨h, rfl⟩

/-- A silent text has no effect. -/
theorem Silent.idle {cs : List Char} (h : Silent cs) : Idle (cs ++ ['\n', '\n']) := by
  intro rest hrest
  rw [List.append_assoc]
  exact ⟨h.append hrest, h.kinds_append hrest⟩

/-- A silent line in front changes nothing. -/
theorem Idle.cons_line {line front : List Char} (h : Idle front) (hline : Silent line) :
    Idle (line ++ '\n' :: front) := by
  intro rest hrest
  obtain ⟨happart, hkinds⟩ := h rest hrest
  rw [List.append_assoc, List.cons_append]
  refine ⟨hline.apart.append_newline happart, ?_⟩
  rw [kinds_append_newline happart, hkinds, kinds_of_unmarked hline.unmarked]
  rfl

/-- Agreeing texts go on agreeing behind texts without effect. -/
theorem Agree.idle {cs ds front front' : List Char} (h : Agree cs ds) (hfront : Idle front)
    (hfront' : Idle front') : Agree (front ++ cs) (front' ++ ds) :=
  ⟨(hfront _ h.left).1, (hfront' _ h.right).1, by
    rw [(hfront _ h.left).2, (hfront' _ h.right).2, h.kinds_eq]⟩

end CitedReport.Relationship
