import CitedReport.Proofs.Html.Pieces

/-!
# Entities

What means something on a page is written on it as an entity. Entities are decoded in passes over
the whole text, one for each entity, so a pass must neither make an entity for a later one nor take
an ampersand and the letters behind it for an entity that was not written. While the ampersands of a
text are escaped every ampersand in it begins an entity, so each pass decodes one sign and passes
over everything else (`replace_escapeOnly`). The ampersands themselves are decoded last, and then
the text is what it was before it was escaped (`decoded_escape`).
-/

namespace CitedReport.Chars

/-! ## Replacing a pattern -/

section

variable {p : Char} {ps : List Char} (replacement : List Char)

/-- Nothing is replaced where the pattern cannot begin. -/
theorem replace_append_of_not_mem {cs : List Char} (h : p ∉ cs) (rest : List Char) :
    replace (p :: ps) replacement (cs ++ rest) = cs ++ replace (p :: ps) replacement rest := by
  induction cs with
  | nil => rfl
  | cons c cs ih =>
    obtain ⟨hc, hcs⟩ := List.ne_and_not_mem_of_not_mem_cons h
    have hafter : after? (p :: ps) (c :: (cs ++ rest)) = none := by rw [after?, if_neg hc]
    have hlater := ih hcs
    unfold replace at hlater ⊢
    rw [List.cons_append, replaceFrom, hafter, hlater, List.cons_append]

/-- Characters of an occurrence are passed over. -/
theorem replaceFrom_append (pattern cs rest : List Char) :
    replaceFrom pattern replacement cs.length (cs ++ rest) = replace pattern replacement rest := by
  induction cs with
  | nil => rfl
  | cons c cs ih => exact ih

/-- An occurrence of the pattern is replaced. -/
theorem replace_pattern_append (rest : List Char) :
    replace (p :: ps) replacement (p :: ps ++ rest)
      = replacement ++ replace (p :: ps) replacement rest := by
  have hafter : after? (p :: ps) (p :: (ps ++ rest)) = some rest := after?_eq_some_iff.2 rfl
  rw [replace, List.cons_append, replaceFrom, hafter]
  exact congrArg (replacement ++ ·) (replaceFrom_append replacement (p :: ps) ps rest)

/-- A pattern does not occur in a piece, nor does it begin there: it is not the beginning of the
piece, nor the other way round, and its first character is not found further on. -/
def Apart (pattern piece : List Char) : Prop :=
  ¬ pattern <+: piece ∧ ¬ piece <+: pattern ∧ ∀ p ∈ pattern.head?, p ∉ piece.tail

instance (pattern piece : List Char) : Decidable (Apart pattern piece) :=
  inferInstanceAs (Decidable (_ ∧ _ ∧ _))

/-- Such a piece is passed over. -/
theorem replace_append_of_apart {piece : List Char} (h : Apart (p :: ps) piece)
    (rest : List Char) :
    replace (p :: ps) replacement (piece ++ rest) = piece ++ replace (p :: ps) replacement rest := by
  obtain ⟨hpattern, hpiece, htail⟩ := h
  cases piece with
  | nil => exact absurd List.nil_prefix hpiece
  | cons c cs =>
    have hafter : after? (p :: ps) (c :: (cs ++ rest)) = none := by
      cases hread : after? (p :: ps) (c :: (cs ++ rest)) with
      | none => rfl
      | some after =>
        have hprefix : p :: ps <+: c :: cs ++ rest := ⟨after, (after?_eq_some_iff.1 hread).symm⟩
        rcases List.prefix_or_prefix_of_prefix hprefix (List.prefix_append _ _) with h | h
        · exact absurd h hpattern
        · exact absurd h hpiece
    have hlater : replace (p :: ps) replacement (cs ++ rest)
        = cs ++ replace (p :: ps) replacement rest :=
      replace_append_of_not_mem replacement (htail p rfl) rest
    unfold replace at hlater ⊢
    rw [List.cons_append, replaceFrom, hafter]
    exact congrArg (c :: ·) hlater

end

end CitedReport.Chars

namespace CitedReport.Html

open Chars

/-! ## Escaping -/

/-- A character as it is written on a page. -/
def written (c : Char) : List Char :=
  if c = '&' then "&amp;".toList
  else if c = '<' then "&lt;".toList
  else if c = '>' then "&gt;".toList
  else if c = '"' then "&quot;".toList
  else if c = '\'' then "&#39;".toList
  else [c]

/-- A text as it is written on a page. -/
def escape (cs : List Char) : List Char := cs.flatMap written

/-- The signs that are escaped, in the order in which they are decoded. -/
def signs : List Char := ['<', '>', '"', '\'', '&']

/-- A text in which some signs are escaped. -/
def escapeOnly (escaped cs : List Char) : List Char :=
  cs.flatMap fun c => if c ∈ escaped then written c else [c]

/-- All other characters are written as they are. -/
theorem written_of_not_mem {c : Char} (h : c ∉ signs) : written c = [c] := by
  simp only [signs, List.mem_cons, List.not_mem_nil, or_false, not_or] at h
  simp [written, h]

/-- Escaping all signs is escaping. -/
theorem escapeOnly_signs (cs : List Char) : escapeOnly signs cs = escape cs := by
  refine List.flatMap_congr fun c _ => ?_
  split
  · rfl
  · next hc => exact (written_of_not_mem hc).symm

/-- Escaping no sign leaves the text as it is. -/
theorem escapeOnly_nil (cs : List Char) : escapeOnly [] cs = cs := by
  simp [escapeOnly]

/-! ## Decoding -/

/-- What an entity is written for is left as a sign when some signs stay escaped. -/
def Decodes (pattern replacement escaped left : List Char) : Prop :=
  (∀ c ∈ left, c ∈ escaped) ∧ ∀ c ∈ escaped,
    if c ∈ left then Apart pattern (written c) else written c = pattern ∧ replacement = [c]

instance (pattern replacement escaped left : List Char) :
    Decidable (Decodes pattern replacement escaped left) :=
  inferInstanceAs (Decidable (_ ∧ _))

/-- While ampersands are escaped a pass decodes one sign and passes over everything else. -/
theorem replace_escapeOnly {pattern replacement escaped left : List Char}
    (hpattern : pattern.head? = some '&') (hamp : '&' ∈ escaped)
    (h : Decodes pattern replacement escaped left) (cs : List Char) :
    replace pattern replacement (escapeOnly escaped cs) = escapeOnly left cs := by
  obtain ⟨body, rfl⟩ := List.head?_eq_some_iff.1 hpattern
  obtain ⟨hleft, hescaped⟩ := h
  induction cs with
  | nil => rfl
  | cons c cs ih =>
    unfold escapeOnly at ih ⊢
    rw [List.flatMap_cons, List.flatMap_cons]
    by_cases hc : c ∈ escaped
    · have hwritten := hescaped c hc
      rw [if_pos hc]
      split at hwritten
      · next hcleft => rw [replace_append_of_apart _ hwritten, ih, if_pos hcleft]
      · next hcleft =>
        rw [hwritten.1, replace_pattern_append, ih, if_neg hcleft, hwritten.2]
    · have hne : '&' ∉ [c] := fun hmem => hc (List.mem_singleton.1 hmem ▸ hamp)
      rw [if_neg hc, if_neg fun hcleft => hc (hleft c hcleft),
        replace_append_of_not_mem _ hne, ih]

/-- Decoding undoes escaping. -/
theorem decodeEntities_escape (cs : List Char) : decodeEntities (escape cs) = cs := by
  have hpass : ∀ {pattern replacement escaped left : List Char}, pattern.head? = some '&' →
      '&' ∈ escaped → Decodes pattern replacement escaped left →
      replace pattern replacement (escapeOnly escaped cs) = escapeOnly left cs :=
    fun hpattern hamp h => replace_escapeOnly hpattern hamp h cs
  -- one replacement after the other takes its sign off the list of those that are escaped
  have hblank : replace "&nbsp;".toList " ".toList (escapeOnly signs cs) = escapeOnly signs cs :=
    hpass (by decide) (by decide) (by decide)
  have hless : replace "&lt;".toList "<".toList (escapeOnly signs cs)
      = escapeOnly (signs.drop 1) cs :=
    hpass (by decide) (by decide) (by decide)
  have hgreater : replace "&gt;".toList ">".toList (escapeOnly (signs.drop 1) cs)
      = escapeOnly (signs.drop 2) cs :=
    hpass (by decide) (by decide) (by decide)
  have hquote : replace "&quot;".toList "\"".toList (escapeOnly (signs.drop 2) cs)
      = escapeOnly (signs.drop 3) cs :=
    hpass (by decide) (by decide) (by decide)
  have hsingle : replace "&#39;".toList "'".toList (escapeOnly (signs.drop 3) cs)
      = escapeOnly (signs.drop 4) cs :=
    hpass (by decide) (by decide) (by decide)
  have hhex : replace "&#x27;".toList "'".toList (escapeOnly (signs.drop 4) cs)
      = escapeOnly (signs.drop 4) cs :=
    hpass (by decide) (by decide) (by decide)
  have hamp : replace "&amp;".toList "&".toList (escapeOnly (signs.drop 4) cs) = escapeOnly [] cs :=
    hpass (by decide) (by decide) (by decide)
  rw [← escapeOnly_signs, decodeEntities]
  simp only [entities, List.map_cons, List.map_nil, List.foldl_cons, List.foldl_nil]
  rw [hblank, hless, hgreater, hquote, hsingle, hhex, hamp, escapeOnly_nil]

/-- A text without ampersands has no entities. -/
theorem decodeEntities_of_not_mem {cs : List Char} (h : '&' ∉ cs) : decodeEntities cs = cs := by
  have hentities : ∀ es : List (List Char × List Char), (∀ e ∈ es, e.1.head? = some '&') →
      es.foldl (fun cs e => replace e.1 e.2 cs) cs = cs := by
    intro es hes
    induction es with
    | nil => rfl
    | cons e es ih =>
      obtain ⟨body, hbody⟩ := List.head?_eq_some_iff.1 (hes e List.mem_cons_self)
      have hsame : replace ('&' :: body) e.2 (cs ++ []) = cs ++ replace ('&' :: body) e.2 [] :=
        replace_append_of_not_mem e.2 h []
      rw [List.append_nil, show replace ('&' :: body) e.2 [] = [] from rfl,
        List.append_nil] at hsame
      rw [List.foldl_cons, hbody, hsame]
      exact ih fun e' he' => hes e' (List.mem_cons_of_mem e he')
  exact hentities entities (by decide)

/-- There is no tag in what is written with entities. -/
theorem lt_not_mem_escape (cs : List Char) : '<' ∉ escape cs := by
  intro hmem
  obtain ⟨c, -, hc⟩ := List.mem_flatMap.1 hmem
  by_cases hsign : c ∈ signs
  · have hsigns : ∀ d ∈ signs, '<' ∉ written d := by decide
    exact hsigns c hsign hc
  · rw [written_of_not_mem hsign, List.mem_singleton] at hc
    exact hsign (hc ▸ List.mem_cons_self)

/-- A text that is written on a page with entities is read there: decoding gives the text back, even
if it looks like an entity itself, and the page shows the lines of the text that are not blank, each
trimmed. -/
theorem decoded_escape (cs : List Char) :
    decodeEntities (escape cs) = cs ∧
      textOf (escape cs)
        = List.intercalate ['\n'] (((lines cs).map trim).filter fun line => line ≠ []) := by
  refine ⟨decodeEntities_escape cs, ?_⟩
  rw [textOf, withoutTags_of_not_mem (lt_not_mem_escape cs), decodeEntities_escape, tidyLines]

/-- An entity is escaped like any other text. -/
example : escape "&lt;".toList = "&amp;lt;".toList := by decide

end CitedReport.Html
