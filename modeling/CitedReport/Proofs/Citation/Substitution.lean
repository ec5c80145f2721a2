import CitedReport.Proofs.Citation.Marker
import CitedReport.Proofs.Citation.Number

/-!
# Putting markers in the place of markers

The markers of a text are those that stand anywhere in it (`mem_markers_iff`). So they can be told
from its parts: where the second part begins with a character that breaks every marker, the markers
of two parts are those of the one and those of the other (`markers_append_cons`), and what is put in
front without an opening bracket or behind without a closing one adds none.

`substitute` puts a marker in the place of each marker of a text, or escapes it when there is none
to put in. What is read in the new text are exactly the markers that were put in
(`markers_substitute`): a marker that begins at a bracket of the text stays clear of what was put in
and of every backslash, so it was there before.
-/

namespace CitedReport.Citation

open Chars

/-! ## The markers of a text -/

/-- The markers of a text are those that stand in it. -/
theorem mem_markers_iff {m : Marker} {cs : List Char} :
    m ∈ markers cs ↔ m.WellFormed ∧ m.text <:+: cs := by
  have hscan := scan_pieces cs
  constructor
  · intro hm
    obtain ⟨piece, hpiece, hmarker⟩ := List.mem_filterMap.1 hm
    cases piece with
    | char c => cases hmarker
    | marker m' =>
      obtain rfl := Option.some.inj hmarker
      obtain ⟨ps, qs, hsplit⟩ := List.append_of_mem hpiece
      have htext := hscan.flatMap_text
      rw [hsplit, List.flatMap_append, List.flatMap_cons, ← List.append_assoc] at htext
      exact ⟨hscan.wellFormed hpiece, _, _, htext⟩
  · rintro ⟨hm, before, after, rfl⟩
    rw [markers, pieces_append_marker hm]
    exact List.mem_filterMap.2 ⟨.marker m, List.mem_append_right _ List.mem_cons_self, rfl⟩

/-- No marker stands in the text. -/
def Inert (cs : List Char) : Prop := ∀ m : Marker, m.WellFormed → ¬ m.text <:+: cs

/-- No marker stands in a text just when none is read in it. -/
theorem inert_iff {cs : List Char} : Inert cs ↔ markers cs = [] := by
  rw [List.eq_nil_iff_forall_not_mem]
  simp only [mem_markers_iff, not_and, Inert]

/-- A text without markers is cut into its characters. -/
theorem Inert.pieces_eq {cs : List Char} (h : Inert cs) : pieces cs = cs.map .char := by
  have hscan := scan_pieces cs
  generalize pieces cs = ps at hscan ⊢
  induction hscan with
  | nil => rfl
  | @marker m cs _ hm _ _ => exact absurd (List.prefix_append m.text cs).isInfix (h m hm)
  | char _ _ ih => rw [List.map_cons, ih fun m hm hocc => h m hm (List.infix_cons hocc)]

/-! ## The markers of the parts of a text -/

/-- A character that no marker has behind its first one. -/
def Breaks (c : Char) : Prop :=
  ¬ (isDigit c = true ∨ isBlank c = true ∨ c = ',' ∨ c = ']')

instance : DecidablePred Breaks := fun _ => inferInstanceAs (Decidable (¬ _))

/-- A character that breaks a marker is not behind the first one of any. -/
theorem Breaks.not_mem_tail {c : Char} (h : Breaks c) (m : Marker) (hm : m.WellFormed) :
    c ∉ m.text.tail := fun hmem => h (Marker.class_of_mem_tail hm hmem)

/-- A text is cut in front of a character that breaks every marker. -/
theorem markers_append_cons {c : Char} (h : Breaks c) (before after : List Char) :
    markers (before ++ c :: after) = markers before ++ markers (c :: after) := by
  rw [markers, (scan_pieces before).append_cons h.not_mem_tail, List.filterMap_append, markers,
    markers]

/-- A marker at the beginning of a text is the first one. -/
theorem markers_text_append {m : Marker} (h : m.WellFormed) (rest : List Char) :
    markers (m.text ++ rest) = m :: markers rest := by
  rw [markers, pieces_text_append h]
  rfl

/-- The marker of one number. -/
def Marker.single (n : Nat) : Marker := ⟨indexText n, []⟩

/-- The marker of one number is one. -/
theorem Marker.wellFormed_single (n : Nat) : (Marker.single n).WellFormed :=
  ⟨isDigits_indexText n, fun _ h => nomatch h⟩

/-- It is the number in brackets. -/
@[simp] theorem Marker.text_single (n : Nat) : (single n).text = '[' :: (indexText n ++ [']']) := by
  rw [text_eq, single, moreText_nil, List.append_nil]

/-- No marker begins in front of the first opening bracket. -/
theorem markers_append_of_opening_not_mem {before : List Char} (h : '[' ∉ before)
    (after : List Char) : markers (before ++ after) = markers after := by
  have hchars : (before.map Piece.char).filterMap Piece.marker? = [] := by
    simp [List.filterMap_map, Piece.marker?]
  rw [markers, pieces_append_of_not_mem h, List.filterMap_append, hchars, List.nil_append, markers]

/-- A character that is no bracket adds no marker in front. -/
theorem markers_cons {c : Char} (h : c ≠ '[') (after : List Char) :
    markers (c :: after) = markers after := by
  have hbefore : '[' ∉ [c] := by simpa using h.symm
  exact markers_append_of_opening_not_mem hbefore after

/-- Behind the last closing bracket a text is cut into characters. -/
theorem Scan.append_of_closing_not_mem {before after : List Char} {ps : List Piece}
    (h : Scan before ps) (hafter : ']' ∉ after) :
    Scan (before ++ after) (ps ++ after.map .char) := by
  have hclosing : ∀ m : Marker, ']' ∈ m.text := fun m => by simp [Marker.text]
  induction h with
  | nil =>
    -- only what stands behind is left, and no marker ends in it
    induction after with
    | nil => exact .nil
    | cons c after ih =>
      refine .char (fun m rest _ htext => hafter ?_) (ih fun hmem => hafter (.tail c hmem))
      rw [htext]
      exact List.mem_append_left rest (hclosing m)
  | marker hm _ ih =>
    rw [List.append_assoc]
    exact .marker hm ih
  | @char c cs _ hno _ ih =>
    refine .char (fun m rest hm htext => ?_) ih
    have hsplit : c :: cs ++ after = m.text ++ rest := htext
    rcases List.append_eq_append_iff.1 hsplit with ⟨more, hmarker, hmore⟩ | ⟨more, hcs, -⟩
    · -- the marker goes on behind the text, but it has to end with a bracket
      rcases List.eq_nil_or_concat' more with rfl | ⟨more, d, rfl⟩
      · exact hno m [] hm (by rw [hmarker, List.append_nil, List.append_nil])
      · obtain ⟨inner, hinner⟩ : ∃ inner, m.text = inner ++ [']'] := ⟨'[' :: m.inner, rfl⟩
        rw [hinner, ← List.append_assoc] at hmarker
        obtain rfl : ']' = d := by simpa using (List.append_inj' hmarker rfl).2
        exact hafter (by rw [hmore]; simp)
    · exact hno m more hm hcs

/-- No marker ends behind the last closing bracket. -/
theorem markers_append_of_closing_not_mem {after : List Char} (h : ']' ∉ after)
    (before : List Char) : markers (before ++ after) = markers before := by
  have hscan := (scan_pieces before).append_of_closing_not_mem h
  rw [markers, ← hscan.eq_pieces, List.filterMap_append, List.filterMap_map, markers]
  simp [Piece.marker?]

/-- Trimming leaves the markers. -/
theorem markers_trim (cs : List Char) : markers (trim cs) = markers cs := by
  have hblank : ∀ {c : Char} {blanks : List Char}, isBlank c = false →
      (∀ d ∈ blanks, isBlank d = true) → c ∉ blanks := by
    intro c blanks hc hblanks hmem
    rw [hblanks c hmem] at hc
    cases hc
  have hstart : markers (trimStart cs) = markers cs := by
    conv_rhs => rw [← List.takeWhile_append_dropWhile (p := isBlank) (l := cs)]
    exact (markers_append_of_opening_not_mem
      (hblank (by decide) fun _ => List.mem_takeWhile_imp) _).symm
  have hend : ∀ cs : List Char, markers (trimEnd cs) = markers cs := by
    intro cs
    have hsplit : cs = trimEnd cs ++ (cs.reverse.takeWhile isBlank).reverse := by
      rw [trimEnd, dropEndWhile, ← List.reverse_append, List.takeWhile_append_dropWhile,
        List.reverse_reverse]
    have hblanks : ∀ c ∈ (cs.reverse.takeWhile isBlank).reverse, isBlank c = true := fun c hc =>
      List.mem_takeWhile_imp (List.mem_reverse.1 hc)
    conv_rhs => rw [hsplit]
    exact (markers_append_of_closing_not_mem (hblank (by decide) hblanks) _).symm
  rw [trim, hend, hstart]

/-! ## Substitution -/

section

variable (f : Marker → Option Marker)

/-- A part of a text with another marker in the place of a marker; one for which there is none is
escaped. -/
def Piece.substituted : Piece → List Char
  | .char c => [c]
  | .marker m =>
    match f m with
    | some m' => m'.text
    | none => m.escaped

/-- A text with other markers in the place of its markers. -/
def substitute (cs : List Char) : List Char := (pieces cs).flatMap (Piece.substituted f)

end

/-- An escaped marker is none. -/
theorem markers_escaped_append {m : Marker} (h : m.WellFormed) (rest : List Char) :
    markers (m.escaped ++ rest) = markers rest := by
  have hclosing : ']' ∉ '\\' :: '[' :: m.inner := by
    have hinner : m.inner = m.first ++ Marker.moreText m.more := by
      simp [Marker.inner, Marker.tokens, Marker.moreText]
    simp only [List.mem_cons, hinner, not_or]
    exact ⟨by decide, by decide, fun hmem => absurd (Marker.class_of_mem_inner h hmem) (by decide)⟩
  have hsplit : m.escaped ++ rest = '\\' :: '[' :: m.inner ++ '\\' :: ']' :: rest := by
    simp [Marker.escaped]
  have hopen : markers ('\\' :: '[' :: m.inner) = [] :=
    markers_append_of_closing_not_mem hclosing []
  rw [hsplit, markers_append_cons (by decide), hopen, List.nil_append, markers_cons (by decide),
    markers_cons (by decide)]

section

variable {f : Marker → Option Marker}

/-- What begins with a part that takes the place of a marker begins with a bracket or with a
backslash. -/
theorem exists_substituted_marker_eq (m : Marker) :
    ∃ c rest, Piece.substituted f (.marker m) = c :: rest ∧ (c = '[' ∨ c = '\\') := by
  rw [Piece.substituted]
  cases f m with
  | some m' => exact ⟨'[', _, rfl, .inl rfl⟩
  | none => exact ⟨'\\', _, rfl, .inr rfl⟩

/-- Where a substituted text begins with neither, it begins like the text before. -/
theorem Scan.begins_of_begins {cs inside : List Char} {ps : List Piece} (h : Scan cs ps)
    (hinside : ∀ c ∈ inside, c ≠ '[' ∧ c ≠ '\\')
    (hpre : inside <+: ps.flatMap (Piece.substituted f)) : inside <+: cs := by
  induction h generalizing inside with
  | nil => exact hpre
  | @marker m _ _ _ _ _ =>
    cases inside with
    | nil => exact List.nil_prefix
    | cons d inside =>
      obtain ⟨c, rest, hblock, hc⟩ := exists_substituted_marker_eq (f := f) m
      rw [List.flatMap_cons, hblock, List.cons_append] at hpre
      obtain rfl := (List.cons_prefix_cons.1 hpre).1
      obtain ⟨hbracket, hbackslash⟩ := hinside d List.mem_cons_self
      exact (hc.elim hbracket hbackslash).elim
  | char _ _ ih =>
    cases inside with
    | nil => exact List.nil_prefix
    | cons d inside =>
      rw [List.flatMap_cons, Piece.substituted, List.singleton_append] at hpre
      obtain ⟨rfl, hrest⟩ := List.cons_prefix_cons.1 hpre
      refine List.cons_prefix_cons.2 ⟨rfl, ih (fun c hc => hinside c ?_) hrest⟩
      exact List.mem_cons_of_mem d hc

/-- What is read in a substituted text are the markers that were put in. -/
theorem markers_substitute (hf : ∀ m : Marker, m.WellFormed → ∀ m' ∈ f m, m'.WellFormed)
    (cs : List Char) : markers (substitute f cs) = (markers cs).filterMap f := by
  have hscan := scan_pieces cs
  rw [substitute, show markers cs = (pieces cs).filterMap Piece.marker? from rfl]
  generalize pieces cs = ps at hscan ⊢
  induction hscan with
  | nil => rfl
  | @marker m _ _ hm _ ih =>
    rw [List.flatMap_cons, Piece.substituted]
    cases hfm : f m with
    | some m' =>
      simp only [markers_text_append (hf m hm m' hfm), ih]
      simp [Piece.marker?, hfm]
    | none =>
      simp only [markers_escaped_append hm, ih]
      simp [Piece.marker?, hfm]
  | @char c cs ps hno hps ih =>
    have hread : Marker.read? (c :: ps.flatMap (Piece.substituted f)) = none := by
      cases hread : Marker.read? (c :: ps.flatMap (Piece.substituted f)) with
      | none => rfl
      | some m =>
        exfalso
        obtain ⟨hm, rest, htext⟩ := Marker.eq_append_of_read? hread
        have hmarker : m.text = '[' :: m.text.tail := rfl
        rw [hmarker, List.cons_append] at htext
        obtain ⟨rfl, htail⟩ := List.cons.inj htext
        -- the marker goes on with characters that were there before
        obtain ⟨rest', hrest'⟩ : m.text.tail <+: cs := by
          refine hps.begins_of_begins (fun d hd => ?_) ⟨rest, htail.symm⟩
          have hclass := Marker.class_of_mem_tail hm hd
          constructor
          · rintro rfl
            exact absurd hclass (by decide)
          · rintro rfl
            exact absurd hclass (by decide)
        exact hno m rest' hm (by rw [hmarker, List.cons_append, hrest'])
    rw [List.flatMap_cons, Piece.substituted, List.singleton_append, markers,
      pieces_cons_of_read?_eq_none hread]
    simpa [List.filterMap_cons, Piece.marker?, markers] using ih

end

end CitedReport.Citation
