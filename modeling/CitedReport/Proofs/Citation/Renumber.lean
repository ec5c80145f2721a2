import CitedReport.Citation.Renumber
import CitedReport.Proofs.Citation.Marker

/-!
# What renumbering makes of each part of a text

`renumber` works through a text with the output so far in hand, and a marker that vanishes may take
the spaces at the end of that output along. Here the outcome is said part by part, without any
output in hand. Every part of the text leaves a block behind and the blocks make up the new text:
what is left of a marker goes back into its brackets, a character stays as it is, and a space is
swallowed when past further spaces and vanishing markers there comes a marker that vanishes and
before which the text closes up (`Blocks`, `renumber_blocks`).

`Rewritten` says all of this for a rule about single numbers, and `rewritten_renumber` that
`renumber` follows such a rule.
-/

namespace CitedReport.Citation

/-! ## What is left of a marker -/

/-- The marker that is made of numbers, or nothing when there are none. The separator of the first
number goes. -/
def bracketed : List (List Char × List Char) → List Char
  | [] => []
  | (_, digits) :: more => (Marker.mk digits more).text

/-- The text that takes the place of a marker. -/
def Marker.replacement (resolve : Nat → Resolution) (m : Marker) : List Char :=
  match m.renumber resolve with
  | .unchanged => m.text
  | .changed m' => m'.text
  | .removed => []

/-- When a list of numbers is resolved, and the digits are those from before, nothing has
changed. -/
theorem filterMap_resolved_eq_self {f : List Char → Option (List Char)}
    {ts : List (List Char × List Char)}
    (h : (ts.filterMap fun t => (f t.2).map fun d => (t.1, d)).map Prod.snd = ts.map Prod.snd) :
    (ts.filterMap fun t => (f t.2).map fun d => (t.1, d)) = ts := by
  induction ts with
  | nil => rfl
  | cons t ts ih =>
    cases hf : f t.2 with
    | none =>
      -- a number is missing, so the digits cannot be those from before
      have hle := List.length_filterMap_le (fun t => (f t.2).map fun d => (t.1, d)) ts
      have hlen := congrArg List.length h
      simp only [List.filterMap_cons, hf, Option.map_none, List.length_map,
        List.length_cons] at hlen
      omega
    | some d =>
      simp only [List.filterMap_cons, hf, Option.map_some, List.map_cons, List.cons.injEq] at h ⊢
      exact ⟨by rw [h.1], ih h.2⟩

/-- What takes the place of a marker is what is left of its numbers, in brackets. -/
theorem Marker.replacement_eq_bracketed (resolve : Nat → Resolution) (m : Marker) :
    m.replacement resolve = bracketed (m.survivors resolve) := by
  rw [replacement, renumber]
  split
  · next h =>
    split at h
    · next hsame =>
      rw [survivors] at hsame ⊢
      rw [filterMap_resolved_eq_self hsame, tokens, bracketed]
    · split at h <;> simp at h
  · next m' h =>
    split at h
    · simp at h
    · split at h
      · simp at h
      · next digits more hleft =>
        obtain rfl := Renumbered.changed.inj h
        rw [hleft, bracketed]
  · next h =>
    split at h
    · simp at h
    · split at h
      · next hleft => rw [hleft, bracketed]
      · simp at h

/-- A marker vanishes when nothing is left of it. -/
theorem Marker.renumber_eq_removed_iff {resolve : Nat → Resolution} {m : Marker} :
    m.renumber resolve = .removed ↔ m.survivors resolve = [] := by
  rw [renumber]
  split
  · next hsame =>
    constructor
    · intro h
      simp at h
    · intro h
      rw [h] at hsame
      simp [tokens] at hsame
  · split
    · next hleft => simp [hleft]
    · next hleft => simp [hleft]

/-- A marker that does not vanish ends in a bracket. -/
theorem bracketed_eq_append_bracket {left : List (List Char × List Char)} (h : left ≠ []) :
    ∃ inner, bracketed left = inner ++ [']'] := by
  obtain ⟨⟨sep, digits⟩, more, rfl⟩ := List.exists_cons_of_ne_nil h
  exact ⟨'[' :: (digits ++ Marker.moreText more), by simp [bracketed, Marker.text_eq]⟩

/-! ## The blocks of a renumbered text -/

/-- The text closes up at its end, before a blank and before a closing punctuation mark. -/
def ClosesUp (after : List Char) : Prop :=
  ∀ c, after.head? = some c → Chars.isBlank c = true ∨ c ∈ ".,;:!?)".toList

section Blocks

variable (left : Marker → List (List Char × List Char))

/-- A part of which at most a space or a tab is left. -/
def Piece.Thin : Piece → Prop
  | .char c => c = ' ' ∨ c = '\t'
  | .marker m => left m = []

/-- These parts take the spaces before them along: past thin parts comes a marker that vanishes and
before which the text closes up. -/
def Swallows (ps : List Piece) : Prop :=
  ∃ gap m after, ps = gap ++ .marker m :: after ∧ (∀ p ∈ gap, p.Thin left) ∧ left m = [] ∧
    ClosesUp (after.flatMap Piece.text)

/-- The blocks that the parts of a text leave behind, given what is left of each marker. -/
inductive Blocks : List Piece → List (List Char) → Prop where
  /-- There are no parts. -/
  | nil : Blocks [] []
  /-- What is left of a marker goes into brackets. -/
  | marker (m : Marker) {ps : List Piece} {bs : List (List Char)} (h : Blocks ps bs) :
    Blocks (.marker m :: ps) (bracketed (left m) :: bs)
  /-- A character stays. -/
  | kept (c : Char) {ps : List Piece} {bs : List (List Char)}
    (hc : ¬ ((c = ' ' ∨ c = '\t') ∧ Swallows left ps)) (h : Blocks ps bs) :
    Blocks (.char c :: ps) ([c] :: bs)
  /-- A space is swallowed. -/
  | swallowed (c : Char) {ps : List Piece} {bs : List (List Char)}
    (hc : (c = ' ' ∨ c = '\t') ∧ Swallows left ps) (h : Blocks ps bs) :
    Blocks (.char c :: ps) ([] :: bs)

end Blocks

variable {left : Marker → List (List Char × List Char)}

/-- Nothing takes no space along. -/
theorem not_swallows_nil : ¬ Swallows left [] := by
  rintro ⟨gap, m, after, h, -⟩
  simp at h

/-- A thin part in front changes nothing. -/
theorem swallows_char_cons {c : Char} {ps : List Piece} :
    Swallows left (.char c :: ps) ↔ (c = ' ' ∨ c = '\t') ∧ Swallows left ps := by
  constructor
  · rintro ⟨gap, m, after, h, hgap, hm, hafter⟩
    cases gap with
    | nil => simp at h
    | cons p gap =>
      obtain ⟨rfl, rfl⟩ : .char c = p ∧ ps = gap ++ .marker m :: after := by simpa using h
      have hc : Piece.Thin left (.char c) := hgap _ (by simp)
      exact ⟨hc, gap, m, after, rfl, fun q hq => hgap q (by simp [hq]), hm, hafter⟩
  · rintro ⟨hc, gap, m, after, rfl, hgap, hm, hafter⟩
    refine ⟨.char c :: gap, m, after, rfl, fun q hq => ?_, hm, hafter⟩
    rcases List.mem_cons.1 hq with rfl | hq
    · exact hc
    · exact hgap q hq

/-- A vanishing marker in front takes spaces along itself when the text closes up. -/
theorem swallows_marker_cons {m : Marker} {ps : List Piece} :
    Swallows left (.marker m :: ps) ↔
      left m = [] ∧ (ClosesUp (ps.flatMap Piece.text) ∨ Swallows left ps) := by
  constructor
  · rintro ⟨gap, m', after, h, hgap, hm, hafter⟩
    cases gap with
    | nil =>
      obtain ⟨rfl, rfl⟩ : m = m' ∧ ps = after := by simpa using h
      exact ⟨hm, .inl hafter⟩
    | cons p gap =>
      obtain ⟨rfl, rfl⟩ : .marker m = p ∧ ps = gap ++ .marker m' :: after := by simpa using h
      have hvanish : Piece.Thin left (.marker m) := hgap _ (by simp)
      exact ⟨hvanish, .inr ⟨gap, m', after, rfl, fun q hq => hgap q (by simp [hq]), hm, hafter⟩⟩
  · rintro ⟨hm, hafter | ⟨gap, m', after, rfl, hgap, hm', hafter⟩⟩
    · exact ⟨[], m, ps, rfl, by simp, hm, hafter⟩
    · refine ⟨.marker m :: gap, m', after, rfl, fun q hq => ?_, hm', hafter⟩
      rcases List.mem_cons.1 hq with rfl | hq
      · exact hm
      · exact hgap q hq

/-- Whether a text closes up is read off its parts. -/
theorem closesUp_iff {ps : List Piece} :
    closesUp ps = true ↔ ClosesUp (ps.flatMap Piece.text) := by
  cases ps with
  | nil => simp [closesUp, ClosesUp]
  | cons p ps =>
    cases p with
    | char c => simp [closesUp, ClosesUp, Piece.text, List.contains_eq_mem]
    | marker m =>
      have hblank : Chars.isBlank '[' = false := by decide
      simp [closesUp, ClosesUp, Piece.text, Marker.text, hblank]

/-- The blocks of parts from some place on. -/
theorem Blocks.drop {ps qs : List Piece} {bs : List (List Char)} (h : Blocks left (ps ++ qs) bs) :
    ∃ bs₁ bs₂, bs = bs₁ ++ bs₂ ∧ bs₁.length = ps.length ∧ Blocks left qs bs₂ := by
  induction ps generalizing bs with
  | nil => exact ⟨[], bs, rfl, rfl, h⟩
  | cons p ps ih =>
    rw [List.cons_append] at h
    obtain ⟨b, bs', rfl, h'⟩ : ∃ b bs', bs = b :: bs' ∧ Blocks left (ps ++ qs) bs' := by
      cases h with
      | marker _ h => exact ⟨_, _, rfl, h⟩
      | kept _ _ h => exact ⟨_, _, rfl, h⟩
      | swallowed _ _ h => exact ⟨_, _, rfl, h⟩
    obtain ⟨bs₁, bs₂, rfl, hlen, hq⟩ := ih h'
    exact ⟨b :: bs₁, bs₂, rfl, by rw [List.length_cons, List.length_cons, hlen], hq⟩

/-! ## The blocks make up the text -/

/-- A space or a tab. -/
def isSpaceOrTab (c : Char) : Bool := c == ' ' || c == '\t'

/-- The blanks that can be swallowed are the space and the tab. -/
theorem isSpaceOrTab_iff {c : Char} : isSpaceOrTab c = true ↔ c = ' ' ∨ c = '\t' := by
  simp [isSpaceOrTab]

/-- A marker that stays or changes adds its replacement to the output. -/
theorem renumberFrom_marker_of_ne_nil {resolve : Nat → Resolution} {m : Marker}
    (h : m.survivors resolve ≠ []) (out : List Char) (ps : List Piece) :
    renumberFrom resolve out (.marker m :: ps)
      = renumberFrom resolve ((m.replacement resolve).reverse ++ out) ps := by
  cases hm : m.renumber resolve with
  | unchanged => simp only [renumberFrom, Marker.replacement, hm]
  | changed m' => simp only [renumberFrom, Marker.replacement, hm]
  | removed => exact absurd (Marker.renumber_eq_removed_iff.1 hm) h

/-- A marker that vanishes adds nothing, and spaces at the end of the output go where the text
closes up. -/
theorem renumberFrom_marker_of_eq_nil {resolve : Nat → Resolution} {m : Marker}
    (h : m.survivors resolve = []) (out : List Char) (ps : List Piece) :
    renumberFrom resolve out (.marker m :: ps)
      = renumberFrom resolve (if closesUp ps then out.dropWhile isSpaceOrTab else out) ps := by
  simp only [renumberFrom, Marker.renumber_eq_removed_iff.2 h]
  rfl

/-- With any output in hand, the parts add these blocks; before that, spaces at the end of the
output go if the parts take them along. -/
structure Adds (resolve : Nat → Resolution) (ps : List Piece) (bs : List (List Char)) : Prop where
  /-- Spaces go. -/
  swallowing (h : Swallows (Marker.survivors resolve) ps) (out : List Char) :
    renumberFrom resolve out ps = (out.dropWhile isSpaceOrTab).reverse ++ bs.flatten
  /-- All of the output stays. -/
  keeping (h : ¬ Swallows (Marker.survivors resolve) ps) (out : List Char) :
    renumberFrom resolve out ps = out.reverse ++ bs.flatten

section Adds

variable {resolve : Nat → Resolution} {ps : List Piece} {bs : List (List Char)}

/-- No parts add no blocks. -/
theorem adds_nil : Adds resolve [] [] :=
  ⟨fun h => absurd h not_swallows_nil, fun _ out => by simp [renumberFrom]⟩

/-- A space that is swallowed adds nothing. -/
theorem Adds.swallowed {c : Char} (h : Adds resolve ps bs)
    (hc : (c = ' ' ∨ c = '\t') ∧ Swallows (Marker.survivors resolve) ps) :
    Adds resolve (.char c :: ps) ([] :: bs) := by
  refine ⟨fun _ out => ?_, fun hkeep => absurd (swallows_char_cons.2 hc) hkeep⟩
  have hsp := isSpaceOrTab_iff.2 hc.1
  rw [renumberFrom, h.swallowing hc.2]
  simp [hsp]

/-- A character that is not swallowed adds itself. -/
theorem Adds.kept {c : Char} (h : Adds resolve ps bs)
    (hc : ¬ ((c = ' ' ∨ c = '\t') ∧ Swallows (Marker.survivors resolve) ps)) :
    Adds resolve (.char c :: ps) ([c] :: bs) := by
  refine ⟨fun hsw => absurd (swallows_char_cons.1 hsw) hc, fun _ out => ?_⟩
  by_cases hsw : Swallows (Marker.survivors resolve) ps
  · -- what comes after takes spaces along, but this is none
    have hsp : isSpaceOrTab c = false := by
      rw [Bool.eq_false_iff, ne_eq, isSpaceOrTab_iff]
      exact fun hspace => hc ⟨hspace, hsw⟩
    rw [renumberFrom, h.swallowing hsw]
    simp [hsp]
  · rw [renumberFrom, h.keeping hsw]
    simp

/-- A marker that vanishes adds nothing. -/
theorem Adds.vanishing {m : Marker} (h : Adds resolve ps bs) (hm : m.survivors resolve = []) :
    Adds resolve (.marker m :: ps) ([] :: bs) := by
  have hstep := renumberFrom_marker_of_eq_nil hm
  refine ⟨fun hswallow out => ?_, fun hkeep out => ?_⟩
  · rw [swallows_marker_cons, ← closesUp_iff] at hswallow
    rw [hstep, List.flatten_cons, List.nil_append]
    by_cases hsw : Swallows (Marker.survivors resolve) ps
    · rw [h.swallowing hsw]
      split
      · rw [List.dropWhile_idempotent isSpaceOrTab out]
      · rfl
    · have hcloses : closesUp ps = true := hswallow.2.resolve_right hsw
      rw [if_pos hcloses, h.keeping hsw]
  · rw [swallows_marker_cons, ← closesUp_iff] at hkeep
    have hopen : ¬ closesUp ps = true := fun hcloses => hkeep ⟨hm, .inl hcloses⟩
    have hsw : ¬ Swallows (Marker.survivors resolve) ps := fun hsw => hkeep ⟨hm, .inr hsw⟩
    rw [hstep, if_neg hopen, h.keeping hsw]
    rfl

/-- A marker that stays or changes adds what is left of it. -/
theorem Adds.staying {m : Marker} (h : Adds resolve ps bs) (hm : m.survivors resolve ≠ []) :
    Adds resolve (.marker m :: ps) (bracketed (m.survivors resolve) :: bs) := by
  refine ⟨fun hsw => absurd (swallows_marker_cons.1 hsw).1 hm, fun _ out => ?_⟩
  obtain ⟨inner, hinner⟩ := bracketed_eq_append_bracket hm
  rw [renumberFrom_marker_of_ne_nil hm, Marker.replacement_eq_bracketed]
  by_cases hsw : Swallows (Marker.survivors resolve) ps
  · -- the bracket at the end keeps what stands before it
    have hbracket : isSpaceOrTab ']' = false := by decide
    rw [h.swallowing hsw, hinner]
    simp [hbracket]
  · rw [h.keeping hsw]
    simp

end Adds

/-- Every list of parts adds its blocks, which do not depend on the output in hand. -/
theorem exists_blocks_adds (resolve : Nat → Resolution) (ps : List Piece) :
    ∃ bs, Blocks (Marker.survivors resolve) ps bs ∧ Adds resolve ps bs := by
  induction ps with
  | nil => exact ⟨[], .nil, adds_nil⟩
  | cons p ps ih =>
    obtain ⟨bs, hbs, hadds⟩ := ih
    cases p with
    | char c =>
      by_cases hc : (c = ' ' ∨ c = '\t') ∧ Swallows (Marker.survivors resolve) ps
      · exact ⟨_, .swallowed c hc hbs, hadds.swallowed hc⟩
      · exact ⟨_, .kept c hc hbs, hadds.kept hc⟩
    | marker m =>
      refine ⟨_, .marker m hbs, ?_⟩
      by_cases hm : m.survivors resolve = []
      · rw [hm]
        exact hadds.vanishing hm
      · exact hadds.staying hm

/-- The renumbered text is made up of the blocks of the parts. -/
theorem renumber_blocks (resolve : Nat → Resolution) (cs : List Char) :
    ∃ bs, Blocks (Marker.survivors resolve) (pieces cs) bs ∧ renumber resolve cs = bs.flatten := by
  obtain ⟨bs, hbs, hadds⟩ := exists_blocks_adds resolve (pieces cs)
  refine ⟨bs, hbs, ?_⟩
  rw [renumber]
  by_cases hsw : Swallows (Marker.survivors resolve) (pieces cs)
  · rw [hadds.swallowing hsw, List.dropWhile_nil, List.reverse_nil, List.nil_append]
  · rw [hadds.keeping hsw, List.reverse_nil, List.nil_append]

/-! ## Numbers on their own -/

section Rewritten

variable (outcome : List Char → Option (List Char) → Prop)

/-- What is left of the numbers of a marker when each has its outcome: other digits, or none. A
number that is left keeps the separator written before it. -/
inductive Left : List (List Char × List Char) → List (List Char × List Char) → Prop where
  /-- There are no numbers. -/
  | nil : Left [] []
  /-- The first number stays or is replaced. -/
  | stays {sep digits new : List Char} {ts left : List (List Char × List Char)}
    (h : outcome digits (some new)) (hts : Left ts left) :
    Left ((sep, digits) :: ts) ((sep, new) :: left)
  /-- The first number goes. -/
  | goes {sep digits : List Char} {ts left : List (List Char × List Char)}
    (h : outcome digits none) (hts : Left ts left) : Left ((sep, digits) :: ts) left

/-- A text with the outcome of every number of its markers put in: the text is cut at its markers,
and each part leaves its block behind. -/
def Rewritten (old new : List Char) : Prop :=
  ∃ (ps : List Piece) (left : Marker → List (List Char × List Char)) (bs : List (List Char)),
    Scan old ps ∧ (∀ m, .marker m ∈ ps → Left outcome m.tokens (left m)) ∧ Blocks left ps bs ∧
      new = bs.flatten

end Rewritten

variable {outcome : List Char → Option (List Char) → Prop}

/-- Resolved one by one, numbers are left that have their outcomes. -/
theorem left_filterMap {resolve : Nat → Resolution}
    (h : ∀ digits, outcome digits (resolveDigits resolve digits))
    (ts : List (List Char × List Char)) :
    Left outcome ts (ts.filterMap fun t => (resolveDigits resolve t.2).map fun d => (t.1, d)) := by
  induction ts with
  | nil => exact .nil
  | cons t ts ih =>
    have ht := h t.2
    cases hd : resolveDigits resolve t.2 with
    | none =>
      rw [hd] at ht
      simp only [List.filterMap_cons, hd, Option.map_none]
      exact .goes ht ih
    | some d =>
      rw [hd] at ht
      simp only [List.filterMap_cons, hd, Option.map_some]
      exact .stays ht ih

/-- The survivors of a marker are what is left of its numbers. -/
theorem left_survivors {resolve : Nat → Resolution}
    (h : ∀ digits, outcome digits (resolveDigits resolve digits)) (m : Marker) :
    Left outcome m.tokens (m.survivors resolve) :=
  left_filterMap h m.tokens

/-- Renumbering puts in the outcome of every number. -/
theorem rewritten_renumber {resolve : Nat → Resolution}
    (h : ∀ digits, outcome digits (resolveDigits resolve digits)) (cs : List Char) :
    Rewritten outcome cs (renumber resolve cs) := by
  obtain ⟨bs, hbs, htext⟩ := renumber_blocks resolve cs
  exact ⟨pieces cs, Marker.survivors resolve, bs, scan_pieces cs, fun m _ => left_survivors h m,
    hbs, htext⟩

end CitedReport.Citation
