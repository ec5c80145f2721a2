import CitedReport.Proofs.Chars.Trim
import CitedReport.Proofs.Citation.Renumber
import CitedReport.Proofs.Citation.Substitution

/-!
# Following one number through a text

A number is found by the text in front of its marker and the numbers in front of it there. When a
text is rewritten number by number, a place is carried along: what was in front of it leaves its own
blocks behind, and the number itself has become other digits or is gone (`Rewritten.becomesAt`).
-/

namespace CitedReport.Citation

/-- A place in a text where a number may stand. -/
structure Place where
  /-- The text in front of the marker. -/
  lead : List Char
  /-- The numbers in front of it in the marker. -/
  before : List (List Char)

/-- The digits stand at the place, as a number of a marker. -/
def CitedAt (text : List Char) (p : Place) (digits : List Char) : Prop :=
  ∃ (m : Marker) (after : List (List Char)) (tail : List Char), m.WellFormed ∧
    text = p.lead ++ m.text ++ tail ∧ m.tokens.map Prod.snd = p.before ++ digits :: after

/-- The numbers of the markers of a text are those that stand at some place. -/
theorem exists_citedAt_iff {text digits : List Char} :
    (∃ p, CitedAt text p digits) ↔ ∃ m ∈ markers text, digits ∈ m.tokens.map Prod.snd := by
  constructor
  · rintro ⟨p, m, after, tail, hm, htext, htokens⟩
    refine ⟨m, mem_markers_iff.2 ⟨hm, p.lead, tail, htext.symm⟩, ?_⟩
    rw [htokens]
    exact List.mem_append_right p.before List.mem_cons_self
  · rintro ⟨m, hm, hdigits⟩
    obtain ⟨hm, lead, tail, htext⟩ := mem_markers_iff.1 hm
    obtain ⟨before, after, htokens⟩ := List.append_of_mem hdigits
    exact ⟨⟨lead, before⟩, m, after, tail, hm, htext.symm, htokens⟩

/-- The number at a place stands among the tokens of its marker. -/
theorem exists_tokens_eq {m : Marker} {before after : List (List Char)} {digits : List Char}
    (h : m.tokens.map Prod.snd = before ++ digits :: after) :
    ∃ ts₁ sep ts₂, m.tokens = ts₁ ++ (sep, digits) :: ts₂ ∧ ts₁.map Prod.snd = before ∧
      ts₂.map Prod.snd = after := by
  obtain ⟨ts₁, rest, htokens, hbefore, hrest⟩ := List.map_eq_append_iff.1 h
  obtain ⟨⟨sep, digits'⟩, ts₂, rfl, rfl, hafter⟩ := List.map_eq_cons_iff.1 hrest
  exact ⟨ts₁, sep, ts₂, htokens, hbefore, hafter⟩

/-! ## Texts around a place -/

/-- A place goes along with its text when that is put between others. -/
theorem CitedAt.between {text digits : List Char} {p : Place} (h : CitedAt text p digits)
    (opening closing : List Char) :
    CitedAt (opening ++ text ++ closing) ⟨opening ++ p.lead, p.before⟩ digits := by
  obtain ⟨m, after, tail, hm, rfl, htokens⟩ := h
  exact ⟨m, after, tail ++ closing, hm, by simp, htokens⟩

/-- Trimming at the end leaves all places. -/
theorem CitedAt.trimEnd {text digits : List Char} {p : Place} (h : CitedAt text p digits) :
    CitedAt (Chars.trimEnd text) p digits := by
  obtain ⟨m, after, tail, hm, rfl, htokens⟩ := h
  have hbracket : Chars.EndsInText (p.lead ++ m.text) :=
    ⟨p.lead ++ '[' :: m.inner, ']', by simp [Marker.text], by decide⟩
  exact ⟨m, after, Chars.trimEnd tail, hm, Chars.trimEnd_append hbracket tail, htokens⟩

/-- Trimming leaves all places, and what stands before them is trimmed at its beginning. -/
theorem CitedAt.trim {text digits : List Char} {p : Place} (h : CitedAt text p digits) :
    CitedAt (Chars.trim text) ⟨Chars.trimStart p.lead, p.before⟩ digits := by
  obtain ⟨m, after, tail, hm, rfl, htokens⟩ := h
  exact ⟨m, after, Chars.trimEnd tail, hm,
    Chars.trim_append_cons (by decide) (by decide) p.lead m.inner tail, htokens⟩

/-! ## Markers that are left -/

/-- Digits are resolved to digits. -/
theorem isDigits_of_resolveDigits {resolve : Nat → Resolution} {digits new : List Char}
    (hd : IsDigits digits) (h : resolveDigits resolve digits = some new) : IsDigits new := by
  unfold resolveDigits at h
  split at h
  · obtain rfl := Option.some.inj h
    exact hd
  · split at h
    · obtain rfl := Option.some.inj h
      exact hd
    · obtain rfl := Option.some.inj h
      exact isDigits_indexText _
    · simp at h

/-- Where no number is taken out, each is left with some digits. -/
theorem exists_resolveDigits_eq {resolve : Nat → Resolution} (hkeep : ∀ k, resolve k ≠ .drop)
    (digits : List Char) : ∃ new, resolveDigits resolve digits = some new := by
  unfold resolveDigits
  split
  · exact ⟨digits, rfl⟩
  · next n _ =>
    cases hn : resolve n with
    | keep => exact ⟨digits, rfl⟩
    | renumber k => exact ⟨indexText k, rfl⟩
    | drop => exact absurd hn (hkeep n)

/-- There no marker vanishes. -/
theorem Marker.survivors_ne_nil {resolve : Nat → Resolution} (hkeep : ∀ k, resolve k ≠ .drop)
    (m : Marker) : m.survivors resolve ≠ [] := by
  obtain ⟨new, hnew⟩ := exists_resolveDigits_eq hkeep m.first
  have hmem : ([], new) ∈ m.survivors resolve :=
    List.mem_filterMap.2 ⟨([], m.first), List.mem_cons_self, by rw [hnew]; rfl⟩
  exact List.ne_nil_of_mem hmem

/-- What is left of a marker is a marker. -/
theorem Marker.WellFormed.of_survivors {m : Marker} (h : m.WellFormed) {resolve : Nat → Resolution}
    {sep digits : List Char} {more : List (List Char × List Char)}
    (hleft : m.survivors resolve = (sep, digits) :: more) : (Marker.mk digits more).WellFormed := by
  have hdigits : ∀ t ∈ m.survivors resolve, IsDigits t.2 := by
    intro t ht
    obtain ⟨u, hu, hut⟩ := List.mem_filterMap.1 ht
    obtain ⟨new, hnew, rfl⟩ := Option.map_eq_some_iff.1 hut
    refine isDigits_of_resolveDigits ?_ hnew
    rcases List.mem_cons.1 hu with rfl | hu
    · exact h.first
    · exact (h.more u hu).2
  -- only the first number of a marker has no separator, and it does not come after another one
  have hmore : ∀ t ∈ more, ∃ u ∈ m.more, t.1 = u.1 := by
    intro t ht
    have hlater : t ∈ m.more.filterMap fun t =>
        (resolveDigits resolve t.2).map fun d => (t.1, d) := by
      rw [survivors, tokens, List.filterMap_cons] at hleft
      split at hleft
      · rw [hleft]
        exact List.mem_cons_of_mem _ ht
      · rw [(List.cons.inj hleft).2]
        exact ht
    obtain ⟨u, hu, hut⟩ := List.mem_filterMap.1 hlater
    obtain ⟨new, -, rfl⟩ := Option.map_eq_some_iff.1 hut
    exact ⟨u, hu, rfl⟩
  rw [hleft] at hdigits
  refine ⟨hdigits _ List.mem_cons_self, fun t ht => ?_⟩
  obtain ⟨u, hu, hsep⟩ := hmore t ht
  exact ⟨hsep ▸ (h.more u hu).1, hdigits t (List.mem_cons_of_mem _ ht)⟩

/-- The digits of the numbers that are left. -/
theorem Marker.map_snd_survivors (m : Marker) (resolve : Nat → Resolution) :
    (m.survivors resolve).map Prod.snd
      = (m.tokens.map Prod.snd).filterMap (resolveDigits resolve) := by
  rw [survivors, List.map_filterMap, List.filterMap_map]
  congr 1
  funext t
  cases hd : resolveDigits resolve t.2 with
  | none => simp [hd]
  | some d => simp [hd]

/-! ## Places of a rewritten text -/

section Becomes

variable (outcome : List Char → Option (List Char) → Prop)
variable (left : Marker → List (List Char × List Char))

/-- In the new text, the marker behind `lead` has left its block behind the blocks of `lead`. -/
def Leaves (old new lead : List Char) (m : Marker) : Prop :=
  ∃ tail bs₁ bs₂, old = lead ++ m.text ++ tail ∧
    Blocks left (pieces lead ++ .marker m :: pieces tail) (bs₁ ++ bracketed (left m) :: bs₂) ∧
    bs₁.length = (pieces lead).length ∧ new = bs₁.flatten ++ bracketed (left m) ++ bs₂.flatten

/-- In the new text, the number at the place has become the result, among what has become of the
other numbers of its marker. -/
def BecomesAt (old new : List Char) (p : Place) (result : Option (List Char)) : Prop :=
  ∃ left m ts₁ sep digits ts₂ left₁ left₂, m.WellFormed ∧ Leaves left old new p.lead m ∧
    m.tokens = ts₁ ++ (sep, digits) :: ts₂ ∧ ts₁.map Prod.snd = p.before ∧
    left m = left₁ ++ (result.map fun d => (sep, d)).toList ++ left₂ ∧
    Left outcome ts₁ left₁ ∧ Left outcome ts₂ left₂

end Becomes

variable {outcome : List Char → Option (List Char) → Prop}

/-- What is left of two lists of numbers is what is left of each. -/
theorem Left.of_append {ts₁ ts₂ left : List (List Char × List Char)}
    (h : Left outcome (ts₁ ++ ts₂) left) :
    ∃ left₁ left₂, left = left₁ ++ left₂ ∧ Left outcome ts₁ left₁ ∧ Left outcome ts₂ left₂ := by
  induction ts₁ generalizing left with
  | nil => exact ⟨[], left, rfl, .nil, h⟩
  | cons t ts ih =>
    rw [List.cons_append] at h
    cases h with
    | stays hout hts =>
      obtain ⟨left₁, left₂, rfl, h₁, h₂⟩ := ih hts
      exact ⟨_ :: left₁, left₂, rfl, .stays hout h₁, h₂⟩
    | goes hout hts =>
      obtain ⟨left₁, left₂, rfl, h₁, h₂⟩ := ih hts
      exact ⟨left₁, left₂, rfl, .goes hout h₁, h₂⟩

/-- The first of some numbers has its outcome. -/
theorem Left.of_cons {sep digits : List Char} {ts left : List (List Char × List Char)}
    (h : Left outcome ((sep, digits) :: ts) left) :
    ∃ result rest, outcome digits result ∧ Left outcome ts rest ∧
      left = (result.map fun d => (sep, d)).toList ++ rest := by
  cases h with
  | stays hout hts => exact ⟨some _, _, hout, hts, rfl⟩
  | goes hout hts => exact ⟨none, _, hout, hts, rfl⟩

/-- In a rewritten text, every number has become its outcome. -/
theorem Rewritten.becomesAt {old new digits : List Char} {p : Place}
    (h : Rewritten outcome old new) (hp : CitedAt old p digits) :
    ∃ result, outcome digits result ∧ BecomesAt outcome old new p result := by
  obtain ⟨ps, left, bs, hscan, hleft, hblocks, rfl⟩ := h
  obtain ⟨m, after, tail, hm, rfl, htokens⟩ := hp
  obtain ⟨ts₁, sep, ts₂, htokens, hbefore, -⟩ := exists_tokens_eq htokens
  have hps : ps = pieces p.lead ++ .marker m :: pieces tail := by
    rw [hscan.eq_pieces, pieces_append_marker hm]
  have hmem : .marker m ∈ ps := by
    rw [hps]
    exact List.mem_append_right _ List.mem_cons_self
  -- what is left of the marker, in three parts
  have hnumbers := hleft m hmem
  rw [htokens] at hnumbers
  obtain ⟨left₁, rest, hrest, h₁, hnumbers⟩ := hnumbers.of_append
  obtain ⟨result, left₂, hout, h₂, rfl⟩ := hnumbers.of_cons
  -- the block of the marker, behind the blocks of what stands before it
  have hall := hblocks
  rw [hps] at hblocks
  obtain ⟨bs₁, bs₂, rfl, hlen, hblocks⟩ := hblocks.drop
  cases hblocks with
  | @marker _ _ bs₃ hblocks =>
    refine ⟨result, hout, left, m, ts₁, sep, digits, ts₂, left₁, left₂, hm,
      ⟨tail, bs₁, bs₃, rfl, hps ▸ hall, hlen, by simp⟩, htokens, hbefore, ?_, h₁, h₂⟩
    rw [hrest, List.append_assoc]

end CitedReport.Citation
