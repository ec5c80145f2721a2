import CitedReport.Html.Text
import CitedReport.Proofs.Chars.Lines

/-!
# A page in pieces

A `<` begins a tag wherever it stands, so a page is cut at these signs. The first piece is text. Each
of the others is a tag and the text behind it, or, without a `>`, a tag that does not come to an end.
What is left of a piece depends on the piece alone and on what is hidden in front of it:
`withoutTags_append_cons` says that a page read character by character is what is left of its
pieces, one after the other.
-/

namespace CitedReport.Html

open Chars

/-! ## One piece -/

/-- The name of the tag of a piece, in lower case. -/
def tagName (piece : List Char) : List Char := lowerAll (piece.takeWhile isNameChar)

/-- The text behind the tag of a piece. -/
def behindTag (piece : List Char) : List Char := (piece.dropWhile (· ≠ '>')).tail

/-- What is hidden behind a piece. A tag that does not come to an end has no effect. -/
def Hidden.behind (h : Hidden) (piece : List Char) : Hidden :=
  if '>' ∈ piece then h.after (tagName piece) else h

/-- What is left of the tag of a piece. -/
def tagText (piece : List Char) : List Char :=
  if '>' ∈ piece ∧ isBlock (tagName piece) then ['\n'] else []

/-- What is left of a piece. -/
def pieceText (h : Hidden) (piece : List Char) : List Char :=
  tagText piece ++ if (h.behind piece).any then [] else behindTag piece

/-- What is left of pieces, one after the other. -/
def piecesText : Hidden → List (List Char) → List Char
  | _, [] => []
  | h, piece :: pieces => pieceText h piece ++ piecesText (h.behind piece) pieces

/-- Later pieces are shown as the earlier ones leave things hidden. -/
theorem piecesText_append (h : Hidden) (ps qs : List (List Char)) :
    piecesText h (ps ++ qs) = piecesText h ps ++ piecesText (ps.foldl Hidden.behind h) qs := by
  induction ps generalizing h with
  | nil => rfl
  | cons p ps ih => simp only [List.cons_append, piecesText, ih, List.foldl_cons, List.append_assoc]

/-- The sign that ends a tag is no part of its name. -/
theorem isNameChar_gt : isNameChar '>' = false := by decide +kernel

/-- A piece is cut where its tag comes to an end. -/
theorem exists_append_of_mem {piece : List Char} (h : '>' ∈ piece) :
    ∃ tag text, piece = tag ++ '>' :: text ∧ '>' ∉ tag ∧ behindTag piece = text ∧
      tagName piece = lowerAll (tag.takeWhile isNameChar) := by
  obtain ⟨tag, text, rfl, htag⟩ := List.eq_append_cons_of_mem h
  refine ⟨tag, text, rfl, htag, ?_, ?_⟩
  · rw [behindTag, dropWhile_append_stop (fun c hc => ?_) (by simp), List.tail_cons]
    simpa using fun heq : c = '>' => htag (heq ▸ hc)
  · rw [tagName, List.takeWhile_append]
    split
    · next hall =>
      rw [(List.takeWhile_sublist isNameChar).eq_of_length hall, List.takeWhile_cons,
        isNameChar_gt, if_neg Bool.false_ne_true, List.append_nil]
    · rfl

/-- Without a `>` nothing stands behind the tag. -/
theorem behindTag_of_not_mem {piece : List Char} (h : '>' ∉ piece) : behindTag piece = [] := by
  have hnil : piece.dropWhile (· ≠ '>') = [] :=
    List.dropWhile_eq_nil_iff.2 fun c hc => by simpa using fun heq : c = '>' => h (heq ▸ hc)
  rw [behindTag, hnil, List.tail_nil]

/-! ## Reading a page -/

/-- Text is left as it is unless it is hidden. -/
theorem withoutTags_text (h : Hidden) {text : List Char} (htext : '<' ∉ text) (rest : List Char) :
    withoutTags h .text (text ++ rest) = (if h.any then [] else text) ++ withoutTags h .text rest := by
  induction text with
  | nil => simp
  | cons c cs ih =>
    obtain ⟨hc, hcs⟩ := List.ne_and_not_mem_of_not_mem_cons htext
    rw [List.cons_append, withoutTags, if_neg hc.symm, ih hcs]
    cases h.any <;> rfl

/-- The name that a tag has when more of it has been read, up to its end. -/
def Place.nameWith : Place → List Char → List Char
  | .text, _ => []
  | .name reversed, more => reversed.reverse ++ more.takeWhile isNameChar
  | .tag whole, _ => whole

/-- Reading in a tag goes on to its end. -/
theorem withoutTags_tag (h : Hidden) {p : Place} (hp : p ≠ .text) {more : List Char}
    (hmore : ∀ c ∈ more, c ≠ '<' ∧ c ≠ '>') (rest : List Char) :
    withoutTags h p (more ++ '>' :: rest)
      = (if isBlock (lowerAll (p.nameWith more)) then ['\n'] else []) ++
          withoutTags (h.after (lowerAll (p.nameWith more))) .text rest := by
  induction more generalizing p with
  | nil =>
    cases p with
    | text => exact absurd rfl hp
    | name reversed => simp [withoutTags, Place.nameWith]
    | tag whole => rfl
  | cons c cs ih =>
    obtain ⟨⟨hlt, hgt⟩, hcs⟩ := List.forall_mem_cons.1 hmore
    cases p with
    | text => exact absurd rfl hp
    | name reversed =>
      rw [List.cons_append, withoutTags, if_neg hlt, if_neg hgt]
      -- the name goes on, or it ends and the rest of the tag does not matter
      split
      · next hc =>
        rw [ih (by simp) hcs]
        simp [Place.nameWith, hc]
      · next hc =>
        have hname : (Place.name reversed).nameWith (c :: cs) = reversed.reverse := by
          simp [Place.nameWith, hc]
        rw [ih (by simp) hcs, hname]
        rfl
    | tag whole =>
      rw [List.cons_append, withoutTags, if_neg hlt, if_neg hgt, ih (by simp) hcs]
      rfl

/-- A tag that does not come to an end is dropped. -/
theorem withoutTags_open (h : Hidden) {p : Place} (hp : p ≠ .text) {more : List Char}
    (hmore : ∀ c ∈ more, c ≠ '<' ∧ c ≠ '>') {rest : List Char} (hrest : ∀ c ∈ rest.head?, c = '<') :
    withoutTags h p (more ++ rest) = withoutTags h .text rest := by
  induction more generalizing p with
  | nil =>
    cases rest with
    | nil => cases p <;> rfl
    | cons c cs =>
      obtain rfl := hrest c rfl
      cases p <;> simp [withoutTags]
  | cons c cs ih =>
    obtain ⟨⟨hlt, hgt⟩, hcs⟩ := List.forall_mem_cons.1 hmore
    cases p with
    | text => exact absurd rfl hp
    | name reversed =>
      rw [List.cons_append, withoutTags, if_neg hlt, if_neg hgt]
      split
      · exact ih (by simp) hcs
      · exact ih (by simp) hcs
    | tag whole =>
      rw [List.cons_append, withoutTags, if_neg hlt, if_neg hgt]
      exact ih (by simp) hcs

/-- A piece is read to the beginning of the next tag. -/
theorem withoutTags_piece (h : Hidden) {piece : List Char} (hpiece : '<' ∉ piece)
    {rest : List Char} (hrest : ∀ c ∈ rest.head?, c = '<') :
    withoutTags h (.name []) (piece ++ rest)
      = pieceText h piece ++ withoutTags (h.behind piece) .text rest := by
  by_cases hend : '>' ∈ piece
  · obtain ⟨tag, text, rfl, htag, hbehind, hname⟩ := exists_append_of_mem hend
    simp only [List.mem_append, List.mem_cons, not_or] at hpiece
    have hmore : ∀ c ∈ tag, c ≠ '<' ∧ c ≠ '>' := fun c hc =>
      ⟨fun heq => hpiece.1 (heq ▸ hc), fun heq => htag (heq ▸ hc)⟩
    have hnameWith : lowerAll ((Place.name []).nameWith tag) = tagName (tag ++ '>' :: text) := by
      rw [hname]
      rfl
    rw [List.append_assoc, List.cons_append, withoutTags_tag h (by simp) hmore, hnameWith,
      withoutTags_text _ hpiece.2.2, pieceText, tagText, hbehind, Hidden.behind, if_pos hend,
      List.append_assoc]
    simp only [hend, true_and]
  · have hmore : ∀ c ∈ piece, c ≠ '<' ∧ c ≠ '>' := fun c hc =>
      ⟨fun heq => hpiece (heq ▸ hc), fun heq => hend (heq ▸ hc)⟩
    rw [withoutTags_open h (by simp) hmore hrest, pieceText, tagText, behindTag_of_not_mem hend,
      Hidden.behind, if_neg hend]
    simp [hend]

/-- Behind a `<` a page is read piece by piece. -/
theorem withoutTags_pieces (h : Hidden) (cs : List Char) :
    withoutTags h (.name []) cs = piecesText h (splitOn (· == '<') cs) := by
  induction cs using piece_induction '<' generalizing h with
  | last cs hcs =>
    have hend : ∀ c ∈ ([] : List Char).head?, c = '<' := nofun
    have hpiece := withoutTags_piece h hcs hend
    rw [List.append_nil] at hpiece
    rw [hpiece, splitOn_of_forall (beq_eq_false_of_not_mem hcs)]
    rfl
  | piece front rest hfront ih =>
    rw [withoutTags_piece h hfront (by simp), splitOn_append_cons (beq_eq_false_of_not_mem hfront) rfl,
      piecesText, ← ih]
    rfl

/-- Of a page without tags everything is left. -/
theorem withoutTags_of_not_mem {cs : List Char} (h : '<' ∉ cs) : withoutTags {} .text cs = cs := by
  have htext := withoutTags_text {} h []
  rw [List.append_nil] at htext
  exact htext.trans (List.append_nil cs)

/-- Of any other page the text in front of its first tag is left, and what is left of the pieces
behind it. -/
theorem withoutTags_append_cons {text : List Char} (htext : '<' ∉ text) (rest : List Char) :
    withoutTags {} .text (text ++ '<' :: rest)
      = text ++ piecesText {} (splitOn (· == '<') rest) := by
  rw [withoutTags_text {} htext, ← withoutTags_pieces]
  rfl

end CitedReport.Html
