import CitedReport.Proofs.Chars.Trim
import CitedReport.Proofs.Citation.Renumber

/-!
# Text that is carried through

On its way into a report a text is trimmed, put between other texts and renumbered, in some cases
with spaces taken out where a citation vanishes. A passage of it comes through all of that as it is
when no trimming and no marker gets at it from its two ends and it has no markers itself. If a line
ends behind the passage, one still does in the end.
-/

namespace CitedReport.Citation

open Chars

/-- A passage that is neither trimmed nor renumbered, whatever stands around it. -/
structure Sturdy (passage : List Char) : Prop where
  /-- It has characters, and those at its ends are no blanks. -/
  ends : ∃ c inside d, passage = c :: (inside ++ [d]) ∧ isBlank c = false ∧ isBlank d = false ∧
    -- no marker reaches into it from the front
    ∀ m : Marker, m.WellFormed → c ∉ m.text.tail
  /-- No marker begins in it. -/
  noBracket : '[' ∉ passage

/-- Nothing follows, or a line end. -/
def LineEnds (after : List Char) : Prop := ∀ c, after.head? = some c → c = '\n'

/-- The passage stands in the text, and a line ends behind it. -/
def Carries (passage text : List Char) : Prop :=
  ∃ before after, text = before ++ passage ++ after ∧ LineEnds after

/-- A line also ends where only the beginning of what followed is left. -/
theorem LineEnds.of_begins {after after' : List Char} (h : LineEnds after)
    (hpre : after' <+: after) : LineEnds after' := by
  intro c hc
  obtain ⟨rest, rfl⟩ := hpre
  refine h c ?_
  rw [List.head?_append, hc]
  rfl

section

variable {passage text : List Char}

/-- The passage stands in all that is put together from the text and what begins with a line end. -/
theorem Carries.between (h : Carries passage text) (opening closing : List Char) :
    Carries passage (opening ++ text ++ '\n' :: closing) := by
  obtain ⟨before, after, rfl, hafter⟩ := h
  refine ⟨opening ++ before, after ++ '\n' :: closing, by simp, fun c hc => ?_⟩
  rw [List.head?_append] at hc
  rcases Option.or_eq_some_iff.1 hc with hc | ⟨-, hc⟩
  · exact hafter c hc
  · exact (Option.some.inj hc).symm

/-- A passage that is not trimmed ends in text. -/
theorem Sturdy.endsInText (h : Sturdy passage) : EndsInText passage := by
  obtain ⟨c, inside, d, rfl, -, hd, -⟩ := h.ends
  exact ⟨c :: inside, d, rfl, hd⟩

/-- Trimming at the end leaves the passage. -/
theorem Carries.trimEnd (h : Carries passage text) (hp : Sturdy passage) :
    Carries passage (trimEnd text) := by
  obtain ⟨before, after, rfl, hafter⟩ := h
  exact ⟨before, Chars.trimEnd after, trimEnd_append (hp.endsInText.append_left before) after,
    hafter.of_begins (trimEnd_begins after)⟩

/-- Trimming leaves the passage. -/
theorem Carries.trim (h : Carries passage text) (hp : Sturdy passage) :
    Carries passage (trim text) := by
  obtain ⟨before, after, rfl, hafter⟩ := h
  obtain ⟨c, inside, d, rfl, hc, hd, -⟩ := hp.ends
  exact ⟨trimStart before, Chars.trimEnd after, trim_append_cons hc hd before inside after,
    hafter.of_begins (trimEnd_begins after)⟩

/-- The characters of the passage are parts of their own. -/
theorem Sturdy.pieces_eq (hp : Sturdy passage) (before after : List Char) :
    pieces (before ++ passage ++ after)
      = pieces before ++ (passage.map .char ++ pieces after) := by
  -- no marker begins in the passage, and none that begins before it reaches into it
  rw [← pieces_append_of_not_mem hp.noBracket after, List.append_assoc]
  obtain ⟨c, inside, d, rfl, -, -, hc⟩ := hp.ends
  exact (scan_pieces before).append_cons hc _

/-- The passage stays when each part of the text is replaced, and characters stay. -/
theorem Carries.flatMap_pieces (h : Carries passage text) (hp : Sturdy passage)
    {f : Piece → List Char} (hf : ∀ c, f (.char c) = [c]) :
    Carries passage ((pieces text).flatMap f) := by
  obtain ⟨before, after, rfl, hafter⟩ := h
  have hchars : ∀ cs : List Char, (cs.map Piece.char).flatMap f = cs := by
    intro cs
    rw [List.flatMap_map]
    simp [hf]
  refine ⟨(pieces before).flatMap f, (pieces after).flatMap f, ?_, ?_⟩
  · rw [hp.pieces_eq, List.flatMap_append, List.flatMap_append, hchars, List.append_assoc]
  · cases after with
    | nil => exact hafter
    | cons c after =>
      obtain rfl : c = '\n' := hafter c rfl
      have hbreak := pieces_append_of_not_mem (show '[' ∉ ['\n'] by decide) after
      rw [← List.singleton_append, hbreak]
      intro c hc
      simpa [hf] using hc.symm

/-! ## Renumbering with an output in hand -/

/-- The first parts of a text leave some output behind for the others. -/
theorem exists_renumberFrom_append (resolve : Nat → Resolution) (ps qs : List Piece)
    (out : List Char) :
    ∃ out', renumberFrom resolve out (ps ++ qs) = renumberFrom resolve out' qs := by
  induction ps generalizing out with
  | nil => exact ⟨out, rfl⟩
  | cons p ps ih =>
    cases p with
    | char c => exact ih (c :: out)
    | marker m =>
      by_cases hm : m.survivors resolve = []
      · rw [List.cons_append, renumberFrom_marker_of_eq_nil hm]
        exact ih _
      · rw [List.cons_append, renumberFrom_marker_of_ne_nil hm]
        exact ih _

/-- Characters are put out as they are. -/
theorem renumberFrom_chars (resolve : Nat → Resolution) (cs : List Char) (qs : List Piece)
    (out : List Char) :
    renumberFrom resolve out (cs.map .char ++ qs)
      = renumberFrom resolve (cs.reverse ++ out) qs := by
  induction cs generalizing out with
  | nil => rfl
  | cons c cs ih =>
    rw [List.map_cons, List.cons_append, renumberFrom, ih, List.reverse_cons, List.append_assoc,
      List.singleton_append]

/-- Output stays that does not end in a space. -/
theorem exists_renumberFrom_eq (resolve : Nat → Resolution) (qs : List Piece) {d : Char}
    (hd : isSpaceOrTab d = false) (out : List Char) :
    ∃ rest, renumberFrom resolve (d :: out) qs = (d :: out).reverse ++ rest := by
  obtain ⟨bs, -, hadds⟩ := exists_blocks_adds resolve qs
  -- only spaces at the end of the output can be taken back, and there are none
  by_cases hsw : Swallows (Marker.survivors resolve) qs
  · refine ⟨bs.flatten, ?_⟩
    rw [hadds.swallowing hsw, List.dropWhile_cons, if_neg (by simp [hd])]
  · exact ⟨bs.flatten, hadds.keeping hsw _⟩

/-- Renumbering leaves the passage, whatever becomes of the citations around it. -/
theorem Carries.renumber (h : Carries passage text) (hp : Sturdy passage)
    (resolve : Nat → Resolution) : Carries passage (renumber resolve text) := by
  obtain ⟨before, after, rfl, hafter⟩ := h
  rw [Citation.renumber, hp.pieces_eq]
  obtain ⟨out, hout⟩ := exists_renumberFrom_append resolve (pieces before)
    (passage.map .char ++ pieces after) []
  rw [hout, renumberFrom_chars]
  cases after with
  | nil =>
    refine ⟨out.reverse, [], ?_, hafter⟩
    rw [show pieces [] = [] from rfl, renumberFrom]
    simp
  | cons c after =>
    obtain rfl : c = '\n' := hafter c rfl
    -- the line feed goes out behind the passage, before a citation could take spaces back
    have hbreak := pieces_append_of_not_mem (show '[' ∉ ['\n'] by decide) after
    obtain ⟨rest, hrest⟩ := exists_renumberFrom_eq resolve (pieces after) (d := '\n') (by decide)
      (passage.reverse ++ out)
    refine ⟨out.reverse, '\n' :: rest, ?_, fun c hc => (Option.some.inj hc).symm⟩
    rw [← List.singleton_append, hbreak, renumberFrom_chars]
    simpa using hrest

end

end CitedReport.Citation
