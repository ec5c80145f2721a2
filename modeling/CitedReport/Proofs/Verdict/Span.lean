import CitedReport.Verdict
import CitedReport.Proofs.Json.Grammar

/-!
# The span of an object

The scan for the end of an object counts brackets and minds strings, and knows nothing else of JSON.
It is in step with the grammar: every part of a JSON text leaves the scan where it was
(`Balanced.of_isPart`), because brackets come in pairs outside strings, and a string is left at the
quote that closes it. So an object behind a text without brackets is found whole, whatever follows
it (`objectSpan?_append`).
-/

namespace CitedReport.Verdict

open Json

/-- The characters that the scan minds outside strings. -/
def marks : List Char := ['"', '{', '}']

/-- A text over which the scan passes and is as deep in brackets behind it as in front. -/
def Balanced (text : List Char) : Prop :=
  ∀ depth rest, spanEnd (.code depth) (text ++ rest)
    = (spanEnd (.code depth) rest).map (text ++ ·)

/-- What is found behind two texts is found behind the second one first. -/
theorem map_append_map (found : Option (List Char)) (text text' : List Char) :
    (found.map (text' ++ ·)).map (text ++ ·) = found.map (text ++ text' ++ ·) := by
  rw [Option.map_map]
  congr 1
  funext rest
  exact (List.append_assoc text text' rest).symm

namespace Balanced

variable {text text' : List Char}

/-- Nothing leaves the scan where it is. -/
theorem nil : Balanced [] := by
  intro depth rest
  rw [List.nil_append]
  cases spanEnd (.code depth) rest <;> rfl

/-- Two balanced texts are balanced together. -/
theorem append (h : Balanced text) (h' : Balanced text') : Balanced (text ++ text') := by
  intro depth rest
  rw [List.append_assoc, h, h', map_append_map]

/-- A character that the scan does not mind. -/
theorem singleton {c : Char} (h : c ∉ marks) : Balanced [c] := by
  intro depth rest
  simp only [marks, List.mem_cons, List.not_mem_nil, or_false, not_or] at h
  obtain ⟨hquote, hopen, hclose⟩ := h
  rw [List.singleton_append, spanEnd.eq_def]
  simp only [if_neg hclose, if_neg hquote, if_neg hopen]
  rfl

/-- A text of such characters. -/
theorem of_unmarked (h : ∀ m ∈ marks, m ∉ text) : Balanced text := by
  induction text with
  | nil => exact nil
  | cons c text ih =>
    have hc : c ∉ marks := fun hmem => h c hmem List.mem_cons_self
    exact (singleton hc).append (ih fun m hm hmem => h m hm (List.mem_cons_of_mem c hmem))

/-- A bracket that is closed again. -/
theorem braces (h : Balanced text) : Balanced ('{' :: text ++ ['}']) := by
  intro depth rest
  have hopen : spanEnd (.code depth) ('{' :: (text ++ '}' :: rest))
      = (spanEnd (.code (depth + 1)) (text ++ '}' :: rest)).map ('{' :: ·) := rfl
  have hclose : spanEnd (.code (depth + 1)) ('}' :: rest)
      = (spanEnd (.code depth) rest).map ('}' :: ·) := rfl
  rw [List.append_assoc, List.cons_append, List.singleton_append, hopen, h, hclose]
  cases spanEnd (.code depth) rest with
  | none => rfl
  | some found => simp

/-- What stands between quotes, whatever it is, and the quote that closes it. -/
theorem spanEnd_quoted {body : List Char} (h : IsString body) (depth : Nat) (rest : List Char) :
    spanEnd (.quoted depth) (body ++ '"' :: rest)
      = (spanEnd (.code depth) rest).map (body ++ '"' :: ·) := by
  -- a step passes over a character, or over a backslash and the character behind it
  have hescape : ∀ (c : Char) (cs : List Char), spanEnd (.quoted depth) ('\\' :: c :: cs)
      = ((spanEnd (.quoted depth) cs).map (c :: ·)).map ('\\' :: ·) := fun _ _ => rfl
  have hplain : ∀ (c : Char) (cs : List Char), c ≠ '"' → c ≠ '\\' →
      spanEnd (.quoted depth) (c :: cs) = (spanEnd (.quoted depth) cs).map (c :: ·) := by
    intro c cs hquote hbackslash
    rw [spanEnd]
    simp only [if_neg hquote, if_neg hbackslash]
  induction h with
  | nil => rfl
  | @plain c cs hcontrol hquote hbackslash _ ih =>
    rw [List.cons_append, hplain c _ hquote hbackslash, ih, Option.map_map]
    rfl
  | @escape c cs _ _ ih =>
    rw [List.cons_append, List.cons_append, hescape, ih, Option.map_map, Option.map_map]
    rfl
  | @unicode a b c d cs hdigits _ ih =>
    obtain ⟨ha, hb, hc, hd⟩ := isSome_of_hexValue? hdigits
    simp only [List.cons_append]
    rw [hescape, hplain a _ (ne_quote_of_hexDigit? ha) (ne_backslash_of_hexDigit? ha),
      hplain b _ (ne_quote_of_hexDigit? hb) (ne_backslash_of_hexDigit? hb),
      hplain c _ (ne_quote_of_hexDigit? hc) (ne_backslash_of_hexDigit? hc),
      hplain d _ (ne_quote_of_hexDigit? hd) (ne_backslash_of_hexDigit? hd), ih]
    simp only [Option.map_map]
    rfl

/-- A string in its quotes, whatever brackets and quotes it has in it. -/
theorem quoted {body : List Char} (h : IsString body) : Balanced ('"' :: body ++ ['"']) := by
  intro depth rest
  have hquote : spanEnd (.code depth) ('"' :: (body ++ '"' :: rest))
      = (spanEnd (.quoted depth) (body ++ '"' :: rest)).map ('"' :: ·) := by
    cases depth <;> rfl
  rw [List.append_assoc, List.cons_append, List.singleton_append, hquote, spanEnd_quoted h]
  cases spanEnd (.code depth) rest with
  | none => rfl
  | some found => simp

/-- Blanks are balanced. -/
theorem of_spaces (h : IsSpaces text) : Balanced text := by
  have hmarks : ∀ m ∈ marks, ¬ isSpace m = true := List.all_iff_forall_prop.1 (by decide)
  exact of_unmarked fun m hm hmem => hmarks m hm (h m hmem)

/-- Numbers are balanced. -/
theorem of_isNumber (h : IsNumber text) : Balanced text := by
  have hmarks : ∀ m ∈ marks, ¬ IsNumeric m := List.all_iff_forall_prop.1 (by decide)
  exact of_unmarked fun m hm hmem => hmarks m hm (h.isNumeric m hmem)

/-- The scan is in step with the grammar. -/
theorem of_isPart {kind : Part} (h : IsPart kind text) : Balanced text := by
  have hsign : ∀ c ∈ [',', ':', '[', ']'], Balanced [c] := by
    have hmarks : ∀ c ∈ [',', ':', '[', ']'], c ∉ marks := List.all_iff_forall_prop.1 (by decide)
    exact fun c hc => singleton (hmarks c hc)
  induction h with
  | word h =>
    have hwords : ∀ text ∈ wordTexts, (marks.all fun m => m ∉ text) = true := by decide
    exact of_unmarked (List.all_iff_forall_prop.1 (hwords _ h))
  | number h => exact of_isNumber h
  | string h => exact quoted h
  | emptyArray h =>
    exact ((hsign '[' (by decide)).append (of_spaces h)).append (hsign ']' (by decide))
  | array _ ih => exact ((hsign '[' (by decide)).append ih).append (hsign ']' (by decide))
  | object _ ih => exact ih
  | emptyBraces h => exact (of_spaces h).braces
  | braces _ ih => exact ih.braces
  | element hfront _ hback ih => exact ((of_spaces hfront).append ih).append (of_spaces hback)
  | lastElement _ ih => exact ih
  | moreElements _ _ ih ih' => exact ih.append ((hsign ',' (by decide)).append ih')
  | member hfront hkey hback _ ih =>
    exact (((of_spaces hfront).append (quoted hkey)).append (of_spaces hback)).append
      ((hsign ':' (by decide)).append ih)
  | lastMember _ ih => exact ih
  | moreMembers _ _ ih ih' => exact ih.append ((hsign ',' (by decide)).append ih')

end Balanced

/-- An object behind a text without brackets is found whole, whatever follows it. -/
theorem objectSpan?_append {before object : List Char} (hbefore : '{' ∉ before)
    (hobject : IsPart .object object) (after : List Char) :
    objectSpan? (before ++ object ++ after) = some object := by
  obtain ⟨inner, rfl, hinner⟩ : ∃ inner, object = '{' :: inner ++ ['}'] ∧ Balanced inner := by
    cases hobject with
    | @emptyBraces spaces h => exact ⟨spaces, rfl, .of_spaces h⟩
    | @braces inner h => exact ⟨inner, rfl, .of_isPart h⟩
  have hopen : ('{' :: inner ++ ['}'] ++ after).dropWhile (· ≠ '{')
      = '{' :: (inner ++ '}' :: after) := by
    simp
  have hclose : spanEnd (.code 0) (inner ++ '}' :: after) = some (inner ++ ['}']) := hinner 0 _
  have hnone : ∀ c ∈ before, decide (c ≠ '{') = true := by
    intro c hc
    rw [decide_eq_true_eq]
    rintro rfl
    exact hbefore hc
  rw [objectSpan?, List.append_assoc, List.dropWhile_append_of_pos hnone, hopen]
  simp only [hclose]
  rfl

end CitedReport.Verdict
