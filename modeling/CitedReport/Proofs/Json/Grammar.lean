import Mathlib.Data.Bool.AllAny
import CitedReport.Proofs.Chars.Span
import CitedReport.Json.Parser

/-!
# The grammar of JSON

Which texts are JSON, said without a reader: the words, the numbers with their signs, fractions and
exponents, the strings with their escapes, and what is put together from them with brackets, commas,
colons and blanks.
-/

namespace CitedReport.Json

open Chars

/-- Blanks between the parts of a text. -/
def IsSpaces (cs : List Char) : Prop := ∀ c ∈ cs, isSpace c = true

/-- What may stand between the quotes of a string. -/
inductive IsString : List Char → Prop
  /-- Nothing. -/
  | nil : IsString []
  /-- A character that stands for itself: no control character, quote or backslash. -/
  | plain {c : Char} {cs : List Char} (hcontrol : 32 ≤ c.toNat) (hquote : c ≠ '"')
      (hbackslash : c ≠ '\\') (h : IsString cs) : IsString (c :: cs)
  /-- A backslash with one of the letters and signs that may follow it. -/
  | escape {c : Char} {cs : List Char} (hc : (simpleEscape? c).isSome) (h : IsString cs) :
      IsString ('\\' :: c :: cs)
  /-- A backslash with `u` and four hexadecimal digits. -/
  | unicode {a b c d : Char} {cs : List Char} (hdigits : (hexValue? a b c d).isSome)
      (h : IsString cs) : IsString ('\\' :: 'u' :: a :: b :: c :: d :: cs)

/-- One of some signs, or none. -/
def IsSign (signs sign : List Char) : Prop := sign = [] ∨ ∃ c ∈ signs, sign = [c]

/-- The digits in front of the point of a number. -/
structure IsWhole (digits : List Char) : Prop where
  /-- There is at least one. -/
  isRun : IsRun isAsciiDigit digits
  /-- A zero comes first only when it is the only one. -/
  noZero : ∀ rest, digits = '0' :: rest → rest = []

/-- The fraction of a number, if there is one. -/
inductive IsFraction : List Char → Prop
  /-- There is none. -/
  | nil : IsFraction []
  /-- A point and digits. -/
  | digits {digits : List Char} (h : IsRun isAsciiDigit digits) : IsFraction ('.' :: digits)

/-- The exponent of a number, if there is one. -/
inductive IsExponent : List Char → Prop
  /-- There is none. -/
  | nil : IsExponent []
  /-- The letter, a sign or none, and digits. -/
  | digits {e : Char} {sign digits : List Char} (he : e = 'e' ∨ e = 'E')
      (hsign : IsSign ['+', '-'] sign) (h : IsRun isAsciiDigit digits) :
      IsExponent (e :: sign ++ digits)

/-- A number. -/
inductive IsNumber : List Char → Prop
  /-- A sign or none, whole digits, a fraction and an exponent. -/
  | parts {sign whole fraction exponent : List Char} (hsign : IsSign ['-'] sign)
      (hwhole : IsWhole whole) (hfraction : IsFraction fraction) (hexponent : IsExponent exponent) :
      IsNumber (sign ++ whole ++ fraction ++ exponent)

/-- The words that are values. -/
def wordTexts : List (List Char) := ["null", "true", "false"].map String.toList

/-- There are three words. -/
theorem mem_wordTexts_iff {text : List Char} :
    text ∈ wordTexts ↔ text = "null".toList ∨ text = "true".toList ∨ text = "false".toList := by
  simp only [wordTexts, List.map_cons, List.map_nil, List.mem_cons, List.not_mem_nil, or_false]

/-- The kinds of parts of a text. -/
inductive Part where
  /-- A value. -/
  | value
  /-- An object, from its first bracket to its last. -/
  | object
  /-- A value with blanks around it. -/
  | element
  /-- Elements with commas between them. -/
  | elements
  /-- A key and an element. -/
  | member
  /-- Members with commas between them. -/
  | members

/-- The text is a part of a kind. -/
inductive IsPart : Part → List Char → Prop
  /-- A word. -/
  | word {text : List Char} (h : text ∈ wordTexts) : IsPart .value text
  /-- A number. -/
  | number {text : List Char} (h : IsNumber text) : IsPart .value text
  /-- A string in its quotes. -/
  | string {body : List Char} (h : IsString body) : IsPart .value ('"' :: body ++ ['"'])
  /-- An array with nothing in it. -/
  | emptyArray {spaces : List Char} (h : IsSpaces spaces) : IsPart .value ('[' :: spaces ++ [']'])
  /-- An array. -/
  | array {inner : List Char} (h : IsPart .elements inner) : IsPart .value ('[' :: inner ++ [']'])
  /-- An object. -/
  | object {text : List Char} (h : IsPart .object text) : IsPart .value text
  /-- Brackets with nothing between them. -/
  | emptyBraces {spaces : List Char} (h : IsSpaces spaces) :
      IsPart .object ('{' :: spaces ++ ['}'])
  /-- Members in brackets. -/
  | braces {inner : List Char} (h : IsPart .members inner) :
      IsPart .object ('{' :: inner ++ ['}'])
  /-- A value with blanks around it. -/
  | element {front text back : List Char} (hfront : IsSpaces front) (h : IsPart .value text)
      (hback : IsSpaces back) : IsPart .element (front ++ text ++ back)
  /-- The last element. -/
  | lastElement {text : List Char} (h : IsPart .element text) : IsPart .elements text
  /-- An element with others behind it. -/
  | moreElements {text rest : List Char} (h : IsPart .element text)
      (hrest : IsPart .elements rest) : IsPart .elements (text ++ ',' :: rest)
  /-- A key, a colon and an element. -/
  | member {front key back text : List Char} (hfront : IsSpaces front) (hkey : IsString key)
      (hback : IsSpaces back) (h : IsPart .element text) :
      IsPart .member (front ++ ('"' :: key ++ ['"']) ++ back ++ ':' :: text)
  /-- The last member. -/
  | lastMember {text : List Char} (h : IsPart .member text) : IsPart .members text
  /-- A member with others behind it. -/
  | moreMembers {text rest : List Char} (h : IsPart .member text) (hrest : IsPart .members rest) :
      IsPart .members (text ++ ',' :: rest)

/-! ## The characters of a part -/

/-- Four characters with a value are digits. -/
theorem isSome_of_hexValue? {a b c d : Char} (h : (hexValue? a b c d).isSome) :
    (hexDigit? a).isSome ∧ (hexDigit? b).isSome ∧ (hexDigit? c).isSome ∧ (hexDigit? d).isSome := by
  rw [hexValue?] at h
  cases ha : hexDigit? a <;> cases hb : hexDigit? b <;> cases hc : hexDigit? c <;>
    cases hd : hexDigit? d <;> simp_all

/-- A quote is no hexadecimal digit. -/
theorem ne_quote_of_hexDigit? {c : Char} (h : (hexDigit? c).isSome) : c ≠ '"' := by
  rintro rfl
  exact absurd h (by decide)

/-- A backslash is no hexadecimal digit. -/
theorem ne_backslash_of_hexDigit? {c : Char} (h : (hexDigit? c).isSome) : c ≠ '\\' := by
  rintro rfl
  exact absurd h (by decide)

/-- The characters of numbers. -/
def IsNumeric (c : Char) : Prop := isAsciiDigit c = true ∨ c ∈ ['-', '+', '.', 'e', 'E']

instance (c : Char) : Decidable (IsNumeric c) := inferInstanceAs (Decidable (_ ∨ _))

/-- A number is made of digits, signs, a point and the letter of an exponent. -/
theorem IsNumber.isNumeric {text : List Char} (h : IsNumber text) : ∀ c ∈ text, IsNumeric c := by
  have hrun : ∀ {digits : List Char}, IsRun isAsciiDigit digits → ∀ c ∈ digits, IsNumeric c :=
    fun h c hc => .inl (h.all c hc)
  have hsigns : ∀ {signs sign : List Char}, (signs.all fun c => IsNumeric c) = true →
      IsSign signs sign → ∀ c ∈ sign, IsNumeric c := by
    rintro signs sign hall (rfl | ⟨d, hd, rfl⟩) c hc
    · cases hc
    · rw [List.mem_singleton.1 hc]
      exact List.all_iff_forall_prop.1 hall d hd
  obtain ⟨hsign, hwhole, hfraction, hexponent⟩ := h
  intro c hc
  simp only [List.mem_append] at hc
  -- the sign, the whole part, the fraction and the exponent
  rcases hc with ((hc | hc) | hc) | hc
  · exact hsigns (by decide) hsign c hc
  · exact hrun hwhole.isRun c hc
  · cases hfraction with
    | nil => cases hc
    | digits h =>
      rcases List.mem_cons.1 hc with rfl | hc
      · decide
      · exact hrun h c hc
  · cases hexponent with
    | nil => cases hc
    | @digits e sign digits he hsign h =>
      simp only [List.cons_append, List.mem_cons, List.mem_append] at hc
      rcases hc with rfl | hc | hc
      · rcases he with rfl | rfl <;> decide
      · exact hsigns (by decide) hsign c hc
      · exact hrun h c hc

end CitedReport.Json
