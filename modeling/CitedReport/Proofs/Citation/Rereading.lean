import CitedReport.Proofs.Citation.Place

/-!
# Reading a renumbered text again

A renumbered text is read for citations once more, by whoever writes from it. What is found then is
what is left of the markers of the text before (`markers_renumber`), with one exception: a marker
that vanishes inside a bracket that stood open lets the text around it close up, and what was no
marker may become one. `[2023 [1]]` holds the marker `[1]`; without it there is `[2023]`. `Joins`
says where that can happen.

The proof goes through the blocks of the new text. A marker of the new text begins at an opening
bracket, which is the block of a marker or one that stood alone. From one that stood alone, the
blocks up to the closing bracket are single digits, blanks and commas, or nothing at all
(`Blocks.exists_gap`); if no marker vanished among them, the brackets were a marker before.
-/

namespace CitedReport.Citation

/-- The marker that is made of numbers, if there are any. -/
def ofTokens? : List (List Char × List Char) → Option Marker
  | [] => none
  | (_, digits) :: more => some ⟨digits, more⟩

/-- What is put in brackets is the text of that marker. -/
theorem bracketed_eq (left : List (List Char × List Char)) :
    bracketed left = ((ofTokens? left).map Marker.text).getD [] := by
  cases left with
  | nil => rfl
  | cons t more => rfl

section

variable (left : Marker → List (List Char × List Char))

/-- A part that may come to stand inside a marker: a digit, a blank or a comma, or a marker that
vanishes. -/
def Piece.Loose : Piece → Prop
  | .char c => Chars.isDigit c = true ∨ Chars.isBlank c = true ∨ c = ','
  | .marker m => left m = []

/-- Between brackets that stand alone there are only such parts, and among them a marker that
vanishes. -/
def Joins (ps : List Piece) : Prop :=
  ∃ before gap after, ps = before ++ .char '[' :: (gap ++ .char ']' :: after) ∧
    (∀ p ∈ gap, p.Loose left) ∧ ∃ m, .marker m ∈ gap

end

variable {left : Marker → List (List Char × List Char)}

/-- Parts that join still do so behind another part. -/
theorem Joins.cons {ps : List Piece} (h : Joins left ps) (p : Piece) : Joins left (p :: ps) := by
  obtain ⟨before, gap, after, rfl, hgap, hmarker⟩ := h
  exact ⟨p :: before, gap, after, rfl, hgap, hmarker⟩

/-- A part that is not thin stops what takes spaces along, so the marker that does stands before
it. -/
theorem Swallows.exists_marker {gap after : List Piece} {p : Piece} (hp : ¬ p.Thin left)
    (h : Swallows left (gap ++ p :: after)) : ∃ m, .marker m ∈ gap := by
  induction gap with
  | nil =>
    exfalso
    cases p with
    | char c => exact hp (swallows_char_cons.1 h).1
    | marker m => exact hp (swallows_marker_cons.1 h).1
  | cons q gap ih =>
    cases q with
    | marker m => exact ⟨m, List.mem_cons_self⟩
    | char c =>
      obtain ⟨m, hm⟩ := ih (swallows_char_cons.1 h).2
      exact ⟨m, List.mem_cons_of_mem _ hm⟩

/-- What is left of a marker begins with a bracket, so it does not read like the inside of one up to
its end. -/
theorem bracketed_append_ne {t : List Char × List Char} {more : List (List Char × List Char)}
    {behind inner rest : List Char}
    (hinner : ∀ c ∈ inner, Chars.isDigit c = true ∨ Chars.isBlank c = true ∨ c = ',') :
    bracketed (t :: more) ++ behind ≠ inner ++ ']' :: rest := by
  intro htext
  cases inner with
  | nil =>
    have hhead := (List.cons.inj htext).1
    exact absurd hhead (by decide)
  | cons c inner =>
    obtain rfl : '[' = c := (List.cons.inj htext).1
    exact absurd (hinner '[' List.mem_cons_self) (by decide)

/-- A space that is swallowed goes with a marker, and that is not behind a bracket. -/
theorem Swallows.exists_marker_before_bracket {gap after : List Piece}
    (h : Swallows left (gap ++ .char ']' :: after)) : ∃ m, .marker m ∈ gap := by
  have hbracket : ¬ Piece.Thin left (.char ']') := by
    change ¬ (']' = ' ' ∨ ']' = '\t')
    decide
  exact h.exists_marker hbracket

/-- When blocks read like the inside of a marker up to its closing bracket, they come from loose
parts up to a bracket; and these are the very characters that are read, if no marker is among
them. -/
theorem Blocks.exists_gap {ps : List Piece} {bs : List (List Char)} (h : Blocks left ps bs)
    {inner rest : List Char}
    (hinner : ∀ c ∈ inner, Chars.isDigit c = true ∨ Chars.isBlank c = true ∨ c = ',')
    (htext : bs.flatten = inner ++ ']' :: rest) :
    ∃ gap after, ps = gap ++ .char ']' :: after ∧ (∀ p ∈ gap, p.Loose left) ∧
      ((∃ m, .marker m ∈ gap) ∨ gap = inner.map .char) := by
  induction h generalizing inner with
  | nil => simp at htext
  | @marker m ps bs _ ih =>
    -- a marker with nothing left writes nothing; any other begins with a bracket, unlike the inside
    cases hm : left m with
    | nil =>
      rw [hm] at htext
      obtain ⟨gap, after, rfl, hgap, -⟩ := ih hinner htext
      refine ⟨.marker m :: gap, after, rfl, ?_, .inl ⟨m, List.mem_cons_self⟩⟩
      exact List.forall_mem_cons.2 ⟨hm, hgap⟩
    | cons t more =>
      rw [hm, List.flatten_cons] at htext
      exact absurd htext (bracketed_append_ne hinner)
  | @kept c ps bs _ _ ih =>
    rw [List.flatten_cons, List.singleton_append] at htext
    cases inner with
    | nil =>
      obtain ⟨rfl, -⟩ := List.cons.inj htext
      exact ⟨[], ps, rfl, by simp, .inr rfl⟩
    | cons d inner =>
      obtain ⟨rfl, hrest⟩ := List.cons.inj htext
      obtain ⟨gap, after, rfl, hgap, hchars⟩ :=
        ih (fun e he => hinner e (List.mem_cons_of_mem _ he)) hrest
      refine ⟨.char c :: gap, after, rfl, ?_, ?_⟩
      · exact List.forall_mem_cons.2 ⟨hinner c List.mem_cons_self, hgap⟩
      · rcases hchars with ⟨m, hm⟩ | rfl
        · exact .inl ⟨m, List.mem_cons_of_mem _ hm⟩
        · exact .inr rfl
  | @swallowed c ps bs hc _ ih =>
    obtain ⟨gap, after, rfl, hgap, -⟩ := ih hinner htext
    have hblank : Chars.isBlank c = true := by
      rcases hc.1 with rfl | rfl
      · decide
      · decide
    obtain ⟨m, hm⟩ := hc.2.exists_marker_before_bracket
    refine ⟨.char c :: gap, after, rfl, ?_, .inl ⟨m, List.mem_cons_of_mem _ hm⟩⟩
    exact List.forall_mem_cons.2 ⟨.inr (.inl hblank), hgap⟩

/-- The markers of the blocks are what is left of the markers of the parts, unless parts join. -/
theorem Blocks.markers_flatten {cs : List Char} {ps : List Piece} {bs : List (List Char)}
    (h : Blocks left ps bs) (hscan : Scan cs ps)
    (hleft : ∀ m, .marker m ∈ ps → ∀ m', ofTokens? (left m) = some m' → m'.WellFormed)
    (hapart : ¬ Joins left ps) :
    markers bs.flatten = (ps.filterMap Piece.marker?).filterMap fun m => ofTokens? (left m) := by
  induction h generalizing cs with
  | nil => rfl
  | @marker m ps bs _ ih =>
    cases hscan with
    | @marker _ cs' _ _ hps =>
      have hrest := ih hps (fun m hm => hleft m (List.mem_cons_of_mem _ hm))
        fun hjoins => hapart (hjoins.cons _)
      rw [List.flatten_cons, bracketed_eq]
      cases hm : ofTokens? (left m) with
      | none => simpa [Piece.marker?, hm] using hrest
      | some m' =>
        have hm' : m'.WellFormed := hleft m List.mem_cons_self m' hm
        rw [Option.map_some, Option.getD_some, markers, pieces_text_append hm']
        simpa [Piece.marker?, hm, markers] using hrest
  | @kept c ps bs _ hblocks ih =>
    cases hscan with
    | @char _ cs' _ hno hps =>
      have hrest := ih hps (fun m hm => hleft m (List.mem_cons_of_mem _ hm))
        fun hjoins => hapart (hjoins.cons _)
      -- a kept character opens no marker in the new text, as it opens none in the old one
      have hread : Marker.read? (c :: bs.flatten) = none := by
        cases hread : Marker.read? (c :: bs.flatten) with
        | none => rfl
        | some m =>
          exfalso
          obtain ⟨hm, rest, htext⟩ := Marker.eq_append_of_read? hread
          rw [Marker.text_eq, List.cons_append, List.append_assoc, List.singleton_append] at htext
          obtain ⟨rfl, hinner⟩ := List.cons.inj htext
          obtain ⟨gap, after, rfl, hgap, hmarker | hchars⟩ :=
            hblocks.exists_gap (fun _ => Marker.class_of_mem_inner hm) hinner
          · exact hapart ⟨[], gap, after, rfl, hgap, hmarker⟩
          · -- the brackets were that marker before
            refine hno m (after.flatMap Piece.text) hm ?_
            rw [← hps.flatMap_text, hchars, Marker.text_eq]
            simp [Piece.text, List.flatMap_map]
      rw [List.flatten_cons, List.singleton_append, markers, pieces_cons_of_read?_eq_none hread]
      simpa [List.filterMap_cons, Piece.marker?, markers] using hrest
  | swallowed c _ _ ih =>
    cases hscan with
    | char _ hps =>
      have hrest := ih hps (fun m hm => hleft m (List.mem_cons_of_mem _ hm))
        fun hjoins => hapart (hjoins.cons _)
      simpa [List.filterMap_cons, Piece.marker?] using hrest

/-- What is read in a renumbered text is what is left of the markers of the text before, in their
order, unless a marker vanishes between brackets that stand alone. -/
theorem markers_renumber {resolve : Nat → Resolution} {cs : List Char}
    (hapart : ¬ Joins (Marker.survivors resolve) (pieces cs)) :
    markers (renumber resolve cs)
      = (markers cs).filterMap fun m => ofTokens? (m.survivors resolve) := by
  have hscan := scan_pieces cs
  obtain ⟨bs, hblocks, htext⟩ := renumber_blocks resolve cs
  have hleft : ∀ m, .marker m ∈ pieces cs → ∀ m', ofTokens? (m.survivors resolve) = some m' →
      m'.WellFormed := by
    intro m hm m' hm'
    cases hsurvivors : m.survivors resolve with
    | nil =>
      rw [hsurvivors] at hm'
      cases hm'
    | cons t more =>
      rw [hsurvivors] at hm'
      obtain rfl := Option.some.inj hm'
      exact (hscan.wellFormed hm).of_survivors hsurvivors
  rw [htext, hblocks.markers_flatten hscan hleft hapart, markers]

/-- The numbers of the markers of a text as they are written, in order. -/
def digitRuns (cs : List Char) : List (List Char) :=
  (markers cs).flatMap fun m => m.tokens.map Prod.snd

/-- The numbers that are read are those that digits stand for. -/
theorem indices_eq (cs : List Char) : indices cs = (digitRuns cs).filterMap index? := by
  rw [indices, digitRuns, List.filterMap_flatMap]
  simp only [List.filterMap_map]
  rfl

/-- What stands between the commas of the markers are these numbers. -/
theorem flatMap_items (cs : List Char) : (markers cs).flatMap Marker.items = digitRuns cs := by
  have hscan := scan_pieces cs
  refine List.flatMap_congr fun m hm => Marker.WellFormed.items_eq ?_
  obtain ⟨p, hp, hmarker⟩ := List.mem_filterMap.1 hm
  cases p with
  | char c => cases hmarker
  | marker m' =>
    obtain rfl := Option.some.inj hmarker
    exact hscan.wellFormed hp

/-- The numbers that are read in a renumbered text are written with the digits that those of the
text before resolve to. -/
theorem digitRuns_renumber {resolve : Nat → Resolution} {cs : List Char}
    (hapart : ¬ Joins (Marker.survivors resolve) (pieces cs)) :
    digitRuns (renumber resolve cs) = (digitRuns cs).filterMap (resolveDigits resolve) := by
  have hone : ∀ m : Marker,
      (ofTokens? (m.survivors resolve)).toList.flatMap (fun m => m.tokens.map Prod.snd)
        = (m.tokens.map Prod.snd).filterMap (resolveDigits resolve) := by
    intro m
    rw [← Marker.map_snd_survivors]
    cases hsurvivors : m.survivors resolve with
    | nil => rfl
    | cons t more => simp [ofTokens?, Marker.tokens]
  rw [digitRuns, digitRuns, markers_renumber hapart]
  induction markers cs with
  | nil => rfl
  | cons m ms ih =>
    rw [List.flatMap_cons, List.filterMap_append, ← hone, ← ih, List.filterMap_cons]
    cases ofTokens? (m.survivors resolve) with
    | none => rfl
    | some m' => simp

/-- Where every opening bracket begins a marker, nothing joins. -/
theorem not_joins_of_not_mem {ps : List Piece} (h : .char '[' ∉ ps) : ¬ Joins left ps := by
  rintro ⟨before, gap, after, rfl, -⟩
  exact h (List.mem_append_right _ List.mem_cons_self)

/-- Where no number is taken out, nothing joins. -/
theorem not_joins_of_ne_drop {resolve : Nat → Resolution} (hkeep : ∀ k, resolve k ≠ .drop)
    (ps : List Piece) : ¬ Joins (Marker.survivors resolve) ps := by
  rintro ⟨before, gap, after, -, hgap, m, hm⟩
  exact m.survivors_ne_nil hkeep (hgap _ hm)

end CitedReport.Citation
