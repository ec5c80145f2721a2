import CitedReport.Citation.Marker
import CitedReport.Proofs.Chars.Classes
import CitedReport.Proofs.Chars.Search
import CitedReport.Proofs.Chars.Trim

/-!
# Where the markers of a text are

`Marker.WellFormed` says what a citation marker is, without reading one: digits in brackets, with a
comma and blanks between two numbers. `Marker.read?_eq_some_iff` shows that the reader finds exactly
the markers that a text begins with, and `scan_pieces` that `pieces` cuts a text at its leftmost
markers, one after the other.

A marker holds one opening bracket, at its beginning. So what stands before a bracket, or before a
character that no marker has inside, has no influence on what begins there (`Scan.append_cons`), and
every marker that is written down somewhere in a text is one of its parts (`pieces_append_marker`).
-/

namespace CitedReport.Citation

/-- At least one digit, and nothing but digits. -/
def IsDigits (cs : List Char) : Prop := cs ≠ [] ∧ ∀ c ∈ cs, Chars.isDigit c = true

/-- A comma with blanks around it. -/
def IsSeparator (cs : List Char) : Prop :=
  ∃ before after : List Char, cs = before ++ ',' :: after ∧
    (∀ c ∈ before, Chars.isBlank c = true) ∧ ∀ c ∈ after, Chars.isBlank c = true

namespace Marker

/-- The numbers of a marker are digits and what stands between them are separators. -/
structure WellFormed (m : Marker) : Prop where
  /-- The first number is digits. -/
  first : IsDigits m.first
  /-- Each further number is digits behind a separator. -/
  more : ∀ t ∈ m.more, IsSeparator t.1 ∧ IsDigits t.2

/-- The text of further numbers. -/
def moreText (more : List (List Char × List Char)) : List Char := more.flatMap fun t => t.1 ++ t.2

/-- Without further numbers nothing follows the first one. -/
@[simp] theorem moreText_nil : moreText [] = [] := rfl

/-- Each further number follows what stands in front of it. -/
@[simp] theorem moreText_cons (t : List Char × List Char) (more : List (List Char × List Char)) :
    moreText (t :: more) = t.1 ++ t.2 ++ moreText more := by
  simp [moreText]

/-- The text of a marker, number by number. -/
theorem text_eq (m : Marker) : m.text = '[' :: (m.first ++ moreText m.more ++ [']']) := by
  simp [text, inner, tokens, moreText]

/-! ## What the reader finds -/

/-- No separator begins with a digit. -/
theorem isDigit_of_head?_separator {s rest : List Char} {c : Char} (hs : IsSeparator s)
    (h : (s ++ rest).head? = some c) : Chars.isDigit c = false := by
  obtain ⟨before, after, rfl, hb, -⟩ := hs
  cases before with
  | nil =>
    obtain rfl : ',' = c := by simpa using h
    decide
  | cons b bs =>
    obtain rfl : b = c := by simpa using h
    exact Chars.isDigit_eq_false_of_isBlank (hb b (by simp))

/-- What follows a number of a marker is not a digit. -/
theorem isDigit_of_head?_moreText {more : List (List Char × List Char)} {rest : List Char}
    {c : Char} (hm : ∀ t ∈ more, IsSeparator t.1 ∧ IsDigits t.2)
    (h : (moreText more ++ ']' :: rest).head? = some c) : Chars.isDigit c = false := by
  cases more with
  | nil =>
    obtain rfl : ']' = c := by simpa using h
    decide
  | cons t more =>
    rw [moreText_cons, List.append_assoc, List.append_assoc] at h
    exact isDigit_of_head?_separator (hm t (by simp)).1 h

/-- A digit is neither a blank nor a comma. -/
theorem isBlank_of_head?_digits {ds rest : List Char} {c : Char} (hd : IsDigits ds)
    (h : (ds ++ rest).head? = some c) : Chars.isBlank c = false := by
  obtain ⟨hne, hall⟩ := hd
  obtain ⟨d, ds, rfl⟩ := List.exists_cons_of_ne_nil hne
  obtain rfl : d = c := by simpa using h
  exact Chars.isBlank_eq_false_of_isDigit (hall d (by simp))

/-- A further number that is written down is read. -/
theorem readToken?_append {s ds rest : List Char} (hs : IsSeparator s) (hd : IsDigits ds)
    (hrest : ∀ c, rest.head? = some c → Chars.isDigit c = false) :
    readToken? (s ++ ds ++ rest) = some ((s, ds), rest) := by
  obtain ⟨before, after, rfl, hb, ha⟩ := hs
  have hcomma : ∀ c, (',' :: (after ++ ds ++ rest)).head? = some c → Chars.isBlank c = false := by
    intro c hc
    obtain rfl : ',' = c := by simpa using hc
    decide
  have hdigit : ∀ c, (ds ++ rest).head? = some c → Chars.isBlank c = false :=
    fun c => isBlank_of_head?_digits hd
  have htext : before ++ ',' :: after ++ ds ++ rest = before ++ ',' :: (after ++ ds ++ rest) := by
    simp
  rw [readToken?, htext, Chars.dropWhile_append_stop hb hcomma,
    Chars.takeWhile_append_stop hb hcomma]
  simp only [List.append_assoc]
  rw [Chars.dropWhile_append_stop ha hdigit, Chars.takeWhile_append_stop ha hdigit,
    Chars.takeWhile_append_stop hd.2 hrest, Chars.dropWhile_append_stop hd.2 hrest, if_neg hd.1]

/-- A closing bracket ends the numbers. -/
theorem readToken?_bracket (rest : List Char) : readToken? (']' :: rest) = none := by
  have h : Chars.isBlank ']' = false := by decide
  simp [readToken?, h]

/-- All further numbers that are written down are read. -/
theorem readMore_append {more : List (List Char × List Char)} (rest : List Char)
    (hm : ∀ t ∈ more, IsSeparator t.1 ∧ IsDigits t.2) :
    ∀ fuel, more.length ≤ fuel →
      readMore fuel (moreText more ++ ']' :: rest) = (more, ']' :: rest) := by
  induction more with
  | nil =>
    intro fuel _
    cases fuel with
    | zero => rfl
    | succ fuel => simp [readMore, readToken?_bracket]
  | cons t more ih =>
    intro fuel hfuel
    cases fuel with
    | zero => simp at hfuel
    | succ fuel =>
      have ht := hm t (by simp)
      have hmore : ∀ u ∈ more, IsSeparator u.1 ∧ IsDigits u.2 := fun u hu => hm u (by simp [hu])
      have hread : readToken? (moreText (t :: more) ++ ']' :: rest)
          = some (t, moreText more ++ ']' :: rest) := by
        rw [moreText_cons, List.append_assoc]
        exact readToken?_append ht.1 ht.2 fun c => isDigit_of_head?_moreText hmore
      simp only [readMore, hread, ih hmore fuel (by simpa using hfuel)]

/-- The number of further numbers is bounded by their text. -/
theorem length_le_moreText {more : List (List Char × List Char)}
    (hm : ∀ t ∈ more, IsSeparator t.1 ∧ IsDigits t.2) : more.length ≤ (moreText more).length := by
  induction more with
  | nil => simp
  | cons t more ih =>
    have ht := List.length_pos_iff.2 (hm t (by simp)).2.1
    have := ih fun u hu => hm u (by simp [hu])
    simp only [moreText_cons, List.length_cons, List.length_append]
    omega

/-- A marker at the beginning of a text is read. -/
theorem read?_text_append {m : Marker} (h : m.WellFormed) (rest : List Char) :
    read? (m.text ++ rest) = some m := by
  have hstop : ∀ c, (moreText m.more ++ ']' :: rest).head? = some c → Chars.isDigit c = false :=
    fun c => isDigit_of_head?_moreText h.more
  have htext : m.text ++ rest = '[' :: (m.first ++ (moreText m.more ++ ']' :: rest)) := by
    simp [text_eq]
  have hfuel : m.more.length ≤ (moreText m.more ++ ']' :: rest).length := by
    have := length_le_moreText h.more
    simp only [List.length_append]
    omega
  rw [htext, read?, Chars.takeWhile_append_stop h.first.2 hstop,
    Chars.dropWhile_append_stop h.first.2 hstop]
  simp only [readMore_append rest h.more _ hfuel, if_neg h.first.1]

/-- A further number that is read stands at the beginning. -/
theorem eq_append_of_readToken? {cs rest : List Char} {t : List Char × List Char}
    (h : readToken? cs = some (t, rest)) :
    IsSeparator t.1 ∧ IsDigits t.2 ∧ cs = t.1 ++ t.2 ++ rest := by
  rw [readToken?] at h
  split at h
  · next rest' hcs =>
    have hsplit : cs = cs.takeWhile Chars.isBlank ++ ',' :: rest' := by
      rw [← hcs, List.takeWhile_append_dropWhile]
    have hblanks : rest' = rest'.takeWhile Chars.isBlank ++ rest'.dropWhile Chars.isBlank :=
      List.takeWhile_append_dropWhile.symm
    simp only at h
    split at h
    · simp at h
    · next hne =>
      simp only [Option.some.injEq, Prod.mk.injEq] at h
      obtain ⟨rfl, rfl⟩ := h
      refine ⟨⟨_, _, rfl, fun c hc => ?_, fun c hc => ?_⟩, ⟨hne, fun c hc => ?_⟩, ?_⟩
      · exact List.mem_takeWhile_imp hc
      · exact List.mem_takeWhile_imp hc
      · exact List.mem_takeWhile_imp hc
      · conv_lhs => rw [hsplit, hblanks]
        simp [List.takeWhile_append_dropWhile]
  · simp at h

/-- The further numbers that are read stand at the beginning. -/
theorem eq_append_of_readMore {fuel : Nat} {cs rest : List Char}
    {more : List (List Char × List Char)} (h : readMore fuel cs = (more, rest)) :
    (∀ t ∈ more, IsSeparator t.1 ∧ IsDigits t.2) ∧ cs = moreText more ++ rest := by
  induction fuel generalizing cs more with
  | zero =>
    simp only [readMore, Prod.mk.injEq] at h
    obtain ⟨rfl, rfl⟩ := h
    simp
  | succ fuel ih =>
    simp only [readMore] at h
    split at h
    · simp only [Prod.mk.injEq] at h
      obtain ⟨rfl, rfl⟩ := h
      simp
    · next t rest' ht =>
      simp only [Prod.mk.injEq] at h
      obtain ⟨rfl, rfl⟩ := h
      obtain ⟨hs, hd, rfl⟩ := eq_append_of_readToken? ht
      obtain ⟨hmore, hrest⟩ := ih rfl
      refine ⟨fun u hu => ?_, ?_⟩
      · rcases List.mem_cons.1 hu with rfl | hu
        · exact ⟨hs, hd⟩
        · exact hmore u hu
      · conv_lhs => rw [hrest]
        simp

/-- A marker that is read stands at the beginning of the text. -/
theorem eq_append_of_read? {cs : List Char} {m : Marker} (h : read? cs = some m) :
    m.WellFormed ∧ ∃ rest, cs = m.text ++ rest := by
  rw [read?.eq_def] at h
  split at h
  · next cs =>
    simp only at h
    split at h
    · next more rest hmore =>
      split at h
      · simp at h
      · next hne =>
        obtain rfl := Option.some.inj h
        obtain ⟨hwf, htext⟩ := eq_append_of_readMore hmore
        refine ⟨⟨⟨hne, fun c hc => List.mem_takeWhile_imp hc⟩, hwf⟩, rest, ?_⟩
        conv_lhs => rw [← List.takeWhile_append_dropWhile (p := Chars.isDigit) (l := cs), htext]
        simp [text_eq]
    · simp at h
  · simp at h

/-- The reader finds exactly the markers that a text begins with. -/
theorem read?_eq_some_iff {cs : List Char} {m : Marker} :
    read? cs = some m ↔ m.WellFormed ∧ ∃ rest, cs = m.text ++ rest := by
  constructor
  · exact eq_append_of_read?
  · rintro ⟨hm, rest, rfl⟩
    exact read?_text_append hm rest

/-! ## The characters of a marker -/

/-- Inside its brackets a marker has digits, blanks and commas. -/
theorem class_of_mem_inner {m : Marker} (h : m.WellFormed) {c : Char}
    (hc : c ∈ m.first ++ moreText m.more) :
    Chars.isDigit c = true ∨ Chars.isBlank c = true ∨ c = ',' := by
  rcases List.mem_append.1 hc with hc | hc
  · exact .inl (h.first.2 c hc)
  · obtain ⟨t, ht, hct⟩ := List.mem_flatMap.1 hc
    obtain ⟨⟨before, after, hs, hb, ha⟩, hd⟩ := h.more t ht
    rcases List.mem_append.1 hct with hct | hct
    · rw [hs] at hct
      rcases List.mem_append.1 hct with hct | hct
      · exact .inr (.inl (hb c hct))
      · rcases List.mem_cons.1 hct with hct | hct
        · exact .inr (.inr hct)
        · exact .inr (.inl (ha c hct))
    · exact .inl (hd.2 c hct)

/-- Behind its first character a marker has digits, blanks, commas and a closing bracket. -/
theorem class_of_mem_tail {m : Marker} (h : m.WellFormed) {c : Char} (hc : c ∈ m.text.tail) :
    Chars.isDigit c = true ∨ Chars.isBlank c = true ∨ c = ',' ∨ c = ']' := by
  rw [text_eq, List.tail_cons] at hc
  rcases List.mem_append.1 hc with hc | hc
  · exact (class_of_mem_inner h hc).imp_right fun hc => hc.imp_right .inl
  · exact .inr (.inr (.inr (List.mem_singleton.1 hc)))

/-- The only opening bracket of a marker is its first character. -/
theorem bracket_not_mem_tail {m : Marker} (h : m.WellFormed) : '[' ∉ m.text.tail := fun hc =>
  absurd (class_of_mem_tail h hc) (by decide)

/-- The text of a marker is not empty. -/
theorem text_ne_nil (m : Marker) : m.text ≠ [] := by simp [text]

/-! ## The numbers between the commas -/

/-- Nothing that stands beside a number up to the next comma is a comma. -/
theorem comma_not_mem {cs : List Char}
    (h : ∀ c ∈ cs, Chars.isBlank c = true ∨ Chars.isDigit c = true) : ',' ∉ cs := by
  intro hmem
  rcases h ',' hmem with hblank | hdigit
  · exact absurd hblank (by decide)
  · exact absurd hdigit (by decide)

/-- A number is what is left when the blanks around it are trimmed off. -/
theorem trim_digits {before digits after : List Char}
    (hb : ∀ c ∈ before, Chars.isBlank c = true) (hd : IsDigits digits)
    (ha : ∀ c ∈ after, Chars.isBlank c = true) :
    Chars.trim (before ++ digits ++ after) = digits := by
  obtain ⟨hne, hall⟩ := hd
  have htext : ∀ c ∈ digits, Chars.isBlank c = false := fun c hc =>
    Chars.isBlank_eq_false_of_isDigit (hall c hc)
  have hstop : ∀ c, (digits ++ after).head? = some c → Chars.isBlank c = false :=
    fun c => isBlank_of_head?_digits ⟨hne, hall⟩
  have hend : Chars.EndsInText digits := Chars.endsInText_of_forall hne htext
  rw [Chars.trim, Chars.trimStart, List.append_assoc, Chars.dropWhile_append_stop hb hstop,
    Chars.trimEnd_append_blanks ha, Chars.trimEnd_eq_self hend]

/-- A text of numbers with separators between them has these numbers between its commas. -/
theorem map_trim_splitOn {more : List (List Char × List Char)} {before digits : List Char}
    (hb : ∀ c ∈ before, Chars.isBlank c = true) (hd : IsDigits digits)
    (hm : ∀ t ∈ more, IsSeparator t.1 ∧ IsDigits t.2) :
    (Chars.splitOn (· == ',') (before ++ digits ++ moreText more)).map Chars.trim
      = digits :: more.map Prod.snd := by
  -- a separator is cut at its comma: its blanks stay with the numbers on both sides
  induction more generalizing before digits with
  | nil =>
    have hcomma : ',' ∉ before ++ digits ++ [] := by
      refine comma_not_mem fun c hc => ?_
      rw [List.append_nil, List.mem_append] at hc
      exact hc.imp (hb c) (hd.2 c)
    have htrim : Chars.trim (before ++ digits ++ []) = digits := trim_digits hb hd (by simp)
    rw [moreText_nil, Chars.splitOn_of_forall (Chars.beq_eq_false_of_not_mem hcomma), List.map_cons,
      htrim]
    rfl
  | cons t more ih =>
    obtain ⟨sep, digits'⟩ := t
    obtain ⟨⟨blanks, blanks', hsep, hblanks, hblanks'⟩, hdigits'⟩ := hm _ List.mem_cons_self
    have hrest := ih hblanks' hdigits' fun t ht => hm t (List.mem_cons_of_mem _ ht)
    have hcomma : ',' ∉ before ++ digits ++ blanks := by
      refine comma_not_mem fun c hc => ?_
      simp only [List.mem_append] at hc
      rcases hc with (hc | hc) | hc
      · exact .inl (hb c hc)
      · exact .inr (hd.2 c hc)
      · exact .inl (hblanks c hc)
    have htext : before ++ digits ++ moreText ((sep, digits') :: more)
        = (before ++ digits ++ blanks) ++ ',' :: (blanks' ++ digits' ++ moreText more) := by
      simp only at hsep
      rw [moreText_cons, hsep]
      simp
    rw [htext, Chars.splitOn_append_cons (Chars.beq_eq_false_of_not_mem hcomma) rfl, List.map_cons,
      trim_digits hb hd hblanks, hrest]
    rfl

/-- Between its commas a marker has its numbers, as they are written. -/
theorem WellFormed.items_eq {m : Marker} (h : m.WellFormed) : m.items = m.tokens.map Prod.snd := by
  have hinner : m.inner = [] ++ m.first ++ moreText m.more := by simp [inner, tokens, moreText]
  rw [items, hinner, map_trim_splitOn (by simp) h.first h.more]
  rfl

end Marker

/-! ## The parts of a text -/

/-- Leaving characters out is going on behind them. -/
theorem piecesFrom_eq_drop (skip : Nat) (cs : List Char) :
    piecesFrom skip cs = pieces (cs.drop skip) := by
  induction cs generalizing skip with
  | nil => simp [pieces, piecesFrom]
  | cons c cs ih =>
    cases skip with
    | zero => simp [pieces]
    | succ skip => simpa [piecesFrom] using ih skip

/-- A marker at the beginning is the first part. -/
theorem pieces_text_append {m : Marker} (h : m.WellFormed) (rest : List Char) :
    pieces (m.text ++ rest) = .marker m :: pieces rest := by
  have hread := Marker.read?_text_append h rest
  have htext : m.text = '[' :: m.text.tail := by simp [Marker.text]
  rw [htext, List.cons_append] at hread ⊢
  rw [pieces, piecesFrom, hread]
  simp only [piecesFrom_eq_drop]
  have hlen : m.text.length - 1 = m.text.tail.length := by simp
  rw [hlen, List.drop_left]

/-- Where no marker begins, the next character is the next part. -/
theorem pieces_cons_of_read?_eq_none {c : Char} {cs : List Char}
    (h : Marker.read? (c :: cs) = none) : pieces (c :: cs) = .char c :: pieces cs := by
  rw [pieces, piecesFrom, h]
  rfl

/-- A text is cut into these parts: a marker wherever one begins, and else one character. -/
inductive Scan : List Char → List Piece → Prop where
  /-- There is nothing to be cut. -/
  | nil : Scan [] []
  /-- A marker begins. -/
  | marker {m : Marker} {cs : List Char} {ps : List Piece} (h : m.WellFormed) (hps : Scan cs ps) :
    Scan (m.text ++ cs) (.marker m :: ps)
  /-- No marker begins. -/
  | char {c : Char} {cs : List Char} {ps : List Piece}
    (h : ∀ (m : Marker) (rest : List Char), m.WellFormed → c :: cs ≠ m.text ++ rest)
    (hps : Scan cs ps) : Scan (c :: cs) (.char c :: ps)

/-- `pieces` cuts a text at its markers. -/
theorem scan_pieces (cs : List Char) : Scan cs (pieces cs) := by
  -- a marker takes more than one character, so the induction is on the length of the text
  induction hn : cs.length using Nat.strong_induction_on generalizing cs with
  | _ n ih =>
    cases cs with
    | nil => exact .nil
    | cons c cs =>
      cases hread : Marker.read? (c :: cs) with
      | none =>
        rw [pieces_cons_of_read?_eq_none hread]
        refine .char (fun m rest hm heq => ?_) (ih cs.length (by simp [← hn]) cs rfl)
        rw [heq, Marker.read?_text_append hm] at hread
        contradiction
      | some m =>
        obtain ⟨hm, rest, hrest⟩ := Marker.eq_append_of_read? hread
        have hpos := List.length_pos_iff.2 m.text_ne_nil
        have hlen : (c :: cs).length = m.text.length + rest.length := by rw [hrest]; simp
        rw [hrest, pieces_text_append hm]
        exact .marker hm (ih rest.length (by omega) rest rfl)

/-- A text is cut in one way only. -/
theorem Scan.eq_pieces {cs : List Char} {ps : List Piece} (h : Scan cs ps) : ps = pieces cs := by
  induction h with
  | nil => rfl
  | marker hm _ ih => rw [pieces_text_append hm, ih]
  | @char c cs ps hno _ ih =>
    have hread : Marker.read? (c :: cs) = none := by
      cases hread : Marker.read? (c :: cs) with
      | none => rfl
      | some m =>
        obtain ⟨hm, rest, hrest⟩ := Marker.eq_append_of_read? hread
        exact absurd hrest (hno m rest hm)
    rw [pieces_cons_of_read?_eq_none hread, ih]

/-- The parts of a text make up the text. -/
theorem Scan.flatMap_text {cs : List Char} {ps : List Piece} (h : Scan cs ps) :
    ps.flatMap Piece.text = cs := by
  induction h with
  | nil => rfl
  | marker _ _ ih => rw [List.flatMap_cons, ih, Piece.text]
  | char _ _ ih => rw [List.flatMap_cons, ih, Piece.text, List.singleton_append]

/-- The markers of a text are markers. -/
theorem Scan.wellFormed {cs : List Char} {ps : List Piece} (h : Scan cs ps) {m : Marker}
    (hm : .marker m ∈ ps) : m.WellFormed := by
  induction h with
  | nil => simp at hm
  | marker hwf _ ih =>
    rcases List.mem_cons.1 hm with h | h
    · cases h
      exact hwf
    · exact ih h
  | char _ _ ih =>
    rcases List.mem_cons.1 hm with h | h
    · cases h
    · exact ih h

/-- What stands before a character that is not inside any marker is cut as if the text ended
there. -/
theorem Scan.append_cons {before : List Char} {ps : List Piece} (h : Scan before ps) {c : Char}
    (hc : ∀ m : Marker, m.WellFormed → c ∉ m.text.tail) (after : List Char) :
    pieces (before ++ c :: after) = ps ++ pieces (c :: after) := by
  induction h with
  | nil => rfl
  | marker hm _ ih => rw [List.append_assoc, pieces_text_append hm, ih, List.cons_append]
  | @char d cs ps hno _ ih =>
    have hread : Marker.read? (d :: (cs ++ c :: after)) = none := by
      cases hread : Marker.read? (d :: (cs ++ c :: after)) with
      | none => rfl
      | some m =>
        exfalso
        obtain ⟨hm, rest, hrest⟩ := Marker.eq_append_of_read? hread
        rw [← List.cons_append] at hrest
        rcases List.append_eq_append_iff.1 hrest with ⟨more, htext, hmore⟩ | ⟨more, htext, -⟩
        · cases more with
          | nil => exact hno m [] hm (by rw [htext, List.append_nil, List.append_nil])
          | cons e es =>
            -- the character would stand inside the marker
            obtain ⟨rfl, -⟩ : c = e ∧ after = es ++ rest := by simpa using hmore
            exact hc m hm (by rw [htext]; simp)
        · exact hno m more hm htext
    rw [List.cons_append, pieces_cons_of_read?_eq_none hread, ih, List.cons_append]

/-- Characters that are not an opening bracket are parts of their own. -/
theorem pieces_append_of_not_mem {cs : List Char} (h : '[' ∉ cs) (after : List Char) :
    pieces (cs ++ after) = cs.map .char ++ pieces after := by
  induction cs with
  | nil => rfl
  | cons c cs ih =>
    have hc : c ≠ '[' := fun hc => h (hc ▸ List.mem_cons_self)
    have hread : Marker.read? (c :: (cs ++ after)) = none := by
      cases hread : Marker.read? (c :: (cs ++ after)) with
      | none => rfl
      | some m =>
        obtain ⟨-, rest, hrest⟩ := Marker.eq_append_of_read? hread
        exact absurd (List.cons.inj hrest).1 hc
    rw [List.cons_append, pieces_cons_of_read?_eq_none hread,
      ih fun hmem => h (List.mem_cons_of_mem c hmem), List.map_cons, List.cons_append]

/-- A marker that is written down in a text is a part of it, and what stands around it is cut as if
it were alone. -/
theorem pieces_append_marker {m : Marker} (h : m.WellFormed) (before after : List Char) :
    pieces (before ++ m.text ++ after) = pieces before ++ .marker m :: pieces after := by
  have htext : m.text = '[' :: m.text.tail := by simp [Marker.text]
  rw [← pieces_text_append h, List.append_assoc, htext, List.cons_append]
  exact (scan_pieces before).append_cons (fun _ => Marker.bracket_not_mem_tail) _

end CitedReport.Citation
