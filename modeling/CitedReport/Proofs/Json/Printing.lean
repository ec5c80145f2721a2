import Mathlib.Tactic.SplitIfs
import CitedReport.Json.Printer
import CitedReport.Proofs.Citation.Number
import CitedReport.Proofs.Json.Arrangement
import CitedReport.Proofs.Json.Reading

/-!
# Reading what was written

The text of a value on one line is read as that value (`parse?_compact`), as long as its brackets do
not nest too deep and its numbers are read back from their texts; whole numbers that fit are. The
induction is over the value: what is between brackets is read item by item, with the fuel that its
length gives.
-/

namespace CitedReport.Json

open Chars

/-! ## Strings -/

/-- What may stand in a string for a character. -/
inductive StandsFor (c : Char) : List Char → Prop
  /-- The character itself. -/
  | plain (hcontrol : 32 ≤ c.toNat) (hquote : c ≠ '"') (hbackslash : c ≠ '\\') : StandsFor c [c]
  /-- A backslash with a letter or sign. -/
  | letter {e : Char} (h : simpleEscape? e = some c) : StandsFor c ['\\', e]
  /-- A backslash with `u` and the digits of a control character. -/
  | digits {w x y z : Char} (h : hexValue? w x y z = some c.toNat) (hcontrol : c.toNat < 32) :
      StandsFor c ['\\', 'u', w, x, y, z]

/-- A character is written as something that stands for it. -/
theorem standsFor_escapeChar (c : Char) : StandsFor c (escapeChar c) := by
  have hofNat : ∀ {n : Nat}, c.toNat = n → Char.ofNat n = c := fun h => h ▸ Char.ofNat_toNat c
  -- control characters have two digits
  have hhex : ∀ n < 32,
      hexEscape n = ['\\', 'u', '0', '0', Nat.digitChar (n / 16), Nat.digitChar (n % 16)] ∧
        hexValue? '0' '0' (Nat.digitChar (n / 16)) (Nat.digitChar (n % 16)) = some n := by
    decide
  unfold escapeChar
  split_ifs with hquote hbackslash hn hr ht hb hf hcontrol
  · exact .letter (by rw [hquote]; rfl)
  · exact .letter (by rw [hbackslash]; rfl)
  · exact .letter (by rw [hn]; rfl)
  · exact .letter (by rw [hr]; rfl)
  · exact .letter (by rw [ht]; rfl)
  · exact .letter (congrArg some (hofNat hb))
  · exact .letter (congrArg some (hofNat hf))
  · rw [(hhex _ hcontrol).1]
    exact .digits (hhex _ hcontrol).2 hcontrol
  · exact .plain (Nat.not_lt.1 hcontrol) hquote hbackslash

/-- What stands for a character may be written in front of a string. -/
theorem StandsFor.isString {c : Char} {written rest : List Char} (h : StandsFor c written)
    (hrest : IsString rest) : IsString (written ++ rest) := by
  cases h with
  | plain hcontrol hquote hbackslash => exact .plain hcontrol hquote hbackslash hrest
  | letter h => exact .escape (Option.isSome_of_eq_some h) hrest
  | digits h => exact .unicode (Option.isSome_of_eq_some h) hrest

/-- What stands for a character is read as it. -/
theorem StandsFor.unescape {c : Char} {written : List Char} (h : StandsFor c written)
    (rest : List Char) :
    Json.unescape (written ++ rest) = (Json.unescape rest).map (c :: ·) := by
  cases h with
  | plain hcontrol hquote hbackslash =>
    rw [List.singleton_append, Json.unescape]
    · exact fun _ _ _ _ _ hc _ => hbackslash hc
    · exact fun _ _ hc _ => hbackslash hc
  | @letter e h =>
    rw [List.cons_append, List.singleton_append, Json.unescape, h]
    -- the letter for a code point is not among those of the other escapes
    rintro _ _ _ _ _ rfl -
    cases h
  | digits h hcontrol =>
    simp only [List.cons_append, List.nil_append]
    rw [Json.unescape, h]
    simp only []
    rw [if_neg (by omega), if_neg (by omega), Char.ofNat_toNat]

/-- What is written between the quotes may stand there. -/
theorem isString_escaped (cs : List Char) : IsString (cs.flatMap escapeChar) := by
  induction cs with
  | nil => exact .nil
  | cons c cs ih => exact (standsFor_escapeChar c).isString ih

/-- The characters are read back from what is written for them. -/
theorem unescape_escaped (cs : List Char) : unescape (cs.flatMap escapeChar) = some cs := by
  induction cs with
  | nil => rfl
  | cons c cs ih => rw [List.flatMap_cons, (standsFor_escapeChar c).unescape, ih, Option.map_some]

/-! ## Numbers -/

/-- A number is read from its text as it is, whatever follows that is no part of a number. -/
def ReadsNumber (n : JsonNumber) : Prop :=
  ∀ rest, NumberEnds rest → readNumber ((numberText n).toList ++ rest) = some (.number n, rest)

/-- The text of a number that is read back is a number of the grammar. -/
theorem ReadsNumber.isNumber {n : JsonNumber} (h : ReadsNumber n) :
    IsNumber (numberText n).toList := by
  have hread := h [] nofun
  have hafter : afterNumber? ((numberText n).toList ++ []) = some [] := by
    rw [← map_snd_readNumber, hread, Option.map_some]
  obtain ⟨text, htext, hnumber⟩ := exists_of_afterNumber? hafter
  rw [List.append_nil, List.append_nil] at htext
  rwa [htext]

/-- Only zero begins with a zero. -/
theorem isWhole_toDigits (n : Nat) : IsWhole (Nat.toDigits 10 n) := by
  refine ⟨⟨Nat.toDigits_ne_nil, fun c => Citation.isAsciiDigit_of_mem_indexText⟩, ?_⟩
  induction n using Nat.strongRecOn with
  | ind n ih =>
    intro rest hzero
    by_cases hn : n < 10
    · rw [Nat.toDigits_of_lt_base hn] at hzero
      exact (List.cons.inj hzero).2.symm
    · -- the digits in front of the last would be those of zero
      rw [Nat.toDigits_of_base_le (by omega) (by omega)] at hzero
      have hvalue := Citation.valueOf_indexText (n / 10)
      have hfront := ih (n / 10) (by omega)
      rw [Citation.indexText] at hvalue
      cases hdigits : Nat.toDigits 10 (n / 10) with
      | nil => exact absurd hdigits Nat.toDigits_ne_nil
      | cons d digits =>
        rw [hdigits, List.cons_append] at hzero
        rw [(List.cons.inj hzero).1] at hdigits
        rw [hfront digits hdigits] at hdigits
        rw [hdigits] at hvalue
        have hnone : n / 10 = 0 := hvalue.symm
        omega

/-- Further digits do not make a number smaller. -/
theorem le_foldl_digits (value : Nat) (digits : List Char) :
    value ≤ digits.foldl (fun n c => n * 10 + (c.toNat - 48)) value := by
  induction digits generalizing value with
  | nil => exact Nat.le_refl value
  | cons c digits ih =>
    rw [List.foldl_cons]
    have hnext := ih (value * 10 + (c.toNat - 48))
    omega

/-- Digits whose value fits are all taken. -/
theorem takeDigits_eq {value : Nat} {digits : List Char}
    (h : digits.foldl (fun n c => n * 10 + (c.toNat - 48)) value < Word.size) :
    takeDigits value digits
      = (digits.foldl (fun n c => n * 10 + (c.toNat - 48)) value, digits.length, []) := by
  induction digits generalizing value with
  | nil => rfl
  | cons c digits ih =>
    -- no beginning of the digits has a larger value than all of them
    have hnext := le_foldl_digits (value * 10 + (c.toNat - 48)) digits
    rw [List.foldl_cons] at h ⊢
    rw [takeDigits]
    simp only [if_neg (Nat.not_le.2 (Nat.lt_of_le_of_lt hnext h)), ih h, List.length_cons]

/-- Where a number ends behind its digits, it is a whole number. -/
theorem readFraction_of_ends {rest : List Char} (hrest : NumberEnds rest) (negative : Bool)
    (significand : Nat) :
    readFraction negative significand 0 rest
      = if !negative then some (.number (.natural significand), rest)
        else if significand = 0 ∨ Word.half < significand then
          some (decimalNumber true significand 0, rest)
        else some (.number (.negative significand), rest) := by
  have hne : ∀ c, IsNumeric c → ∀ behind, rest ≠ c :: behind := fun c hc behind heq =>
    hrest c (by rw [heq]; rfl) hc
  unfold readFraction
  split
  · exact absurd rfl (hne '.' (by decide) _)
  · exact absurd rfl (hne 'e' (by decide) _)
  · exact absurd rfl (hne 'E' (by decide) _)
  · rw [if_pos rfl]

/-- A number without fraction and exponent is read by the value of its digits. -/
theorem readNumber_toDigits {n : Nat} (hn : n < Word.size) {rest : List Char}
    (hrest : NumberEnds rest) (negative : Bool) :
    readNumber ((if negative then ['-'] else []) ++ (Nat.toDigits 10 n ++ rest))
      = readFraction negative n 0 rest := by
  have hwhole := isWhole_toDigits n
  have hends : ∀ c, rest.head? = some c → isAsciiDigit c = false := fun c hc =>
    Bool.eq_false_iff.2 fun hdigit => hrest c hc (.inl hdigit)
  have htake := takeWhile_append_stop hwhole.isRun.all hends
  have hdrop := hwhole.isRun.dropWhile_append hends
  have hvalue : takeDigits 0 (Nat.toDigits 10 n) = (n, (Nat.toDigits 10 n).length, []) := by
    have hfold := Citation.valueOf_indexText n
    rw [Word.valueOf, Citation.indexText] at hfold
    rw [takeDigits_eq (by rwa [hfold]), hfold]
  unfold readNumber
  split
  next minus unsigned hsign =>
  obtain ⟨rfl, rfl⟩ : negative = minus ∧ Nat.toDigits 10 n ++ rest = unsigned := by
    cases negative with
    | true => exact Prod.mk.inj hsign
    | false =>
      -- no digit is a minus
      obtain ⟨d, digits, hdigits, hd⟩ := hwhole.isRun.exists_cons
      rw [hdigits] at hsign ⊢
      split at hsign
      · next heq =>
        rw [(List.cons.inj heq).1] at hd
        cases hd
      · exact Prod.mk.inj hsign
  simp only [htake, hdrop]
  split
  · next hnil => exact absurd hnil Nat.toDigits_ne_nil
  · next d digits hzero => cases hwhole.noZero _ hzero
  · rw [hvalue]
    rfl

/-- A whole number that fits a word is read back. -/
theorem readsNumber_natural {n : Nat} (h : n < Word.size) : ReadsNumber (.natural n) := by
  intro rest hrest
  have htext : (numberText (.natural n)).toList = Nat.toDigits 10 n := Nat.toList_repr
  have hread := readNumber_toDigits h hrest false
  rw [readFraction_of_ends hrest] at hread
  rw [htext]
  exact hread

/-- A negative whole number that fits a word with a sign is read back. -/
theorem readsNumber_negative {n : Nat} (hpos : 0 < n) (h : n ≤ Word.half) :
    ReadsNumber (.negative n) := by
  intro rest hrest
  have htext : (numberText (.negative n)).toList = '-' :: Nat.toDigits 10 n := by
    rw [numberText, String.toList_append, Nat.toString_eq_repr, Nat.toList_repr]
    rfl
  have hsize : n < Word.size := Nat.lt_of_le_of_lt h (by decide)
  have hwhole : ¬ (n = 0 ∨ Word.half < n) :=
    not_or.2 ⟨Nat.pos_iff_ne_zero.1 hpos, Nat.not_lt.2 h⟩
  have hread := readNumber_toDigits hsize hrest true
  rw [readFraction_of_ends hrest, Bool.not_true, if_neg Bool.false_ne_true, if_neg hwhole] at hread
  rw [htext]
  exact hread

/-! ## Values -/

/-- A value that can be had from its text: all of it can be written, and its numbers are read
back. -/
inductive Legible : Json → Prop
  /-- The word `null`. -/
  | null : Legible .null
  /-- A truth word. -/
  | bool (b : Bool) : Legible (.bool b)
  /-- A number that is read back. -/
  | number {n : JsonNumber} (h : ReadsNumber n) : Legible (.number n)
  /-- A string. -/
  | string (s : String) : Legible (.string s)
  /-- An array of such values. -/
  | array {items : List Json} (h : ∀ v ∈ items, Legible v) : Legible (.array items)
  /-- An object with such values. -/
  | object {members : List (String × Json)} (h : ∀ m ∈ members, Legible m.2) :
      Legible (.object members)

/-- A value is read from its text, with the fuel that the length of the text gives and inside as
many brackets as it needs. -/
def ReadsValue (j : Json) : Prop :=
  ∀ fuel depth rest, 2 * j.compact.toList.length ≤ fuel → j.nesting ≤ depth → Delimited rest →
    readValue fuel depth (j.compact.toList ++ rest) = some (j, rest)

/-- A string is written in quotes, character by character. -/
theorem toList_quoted (s : String) :
    (quoted s).toList = '"' :: (s.toList.flatMap escapeChar ++ ['"']) := String.toList_ofList

/-- The text of a value begins with no blank and no delimiter. -/
theorem Legible.opens {j : Json} (h : Legible j) : Opens j.compact.toList := by
  cases h with
  | null => exact opens_cons (c := 'n') (by decide) (by decide) _
  | bool b =>
    cases b with
    | true => exact opens_cons (c := 't') (by decide) (by decide) _
    | false => exact opens_cons (c := 'f') (by decide) (by decide) _
  | number h => exact (IsPart.number h.isNumber).opens
  | string s =>
    rw [compact, toList_quoted]
    exact opens_cons (by decide) (by decide) _
  | array h =>
    rw [compact, String.toList_append, String.toList_append]
    exact opens_cons (c := '[') (by decide) (by decide) _
  | object h =>
    rw [compact, String.toList_append, String.toList_append]
    exact opens_cons (c := '{') (by decide) (by decide) _

/-- The text of items begins with their first value. -/
theorem Legible.opens_items {v : Json} (h : Legible v) (items : List Json) :
    Opens (compactItems (v :: items)).toList := by
  cases items with
  | nil => exact h.opens
  | cons w items =>
    rw [compactItems, String.toList_append, String.toList_append]
    · exact (h.opens.append_right _).append_right _
    · exact List.cons_ne_nil w items

/-- The text of members begins with a quote. -/
theorem opens_members (m : String × Json) (members : List (String × Json)) :
    Opens (compactMembers (m :: members)).toList := by
  have hquoted : Opens (quoted m.1).toList := by
    rw [toList_quoted]
    exact opens_cons (by decide) (by decide) _
  cases members with
  | nil =>
    rw [compactMembers, String.toList_append, String.toList_append]
    exact (hquoted.append_right _).append_right _
  | cons m' members =>
    rw [compactMembers]
    · simp only [String.toList_append]
      exact (((hquoted.append_right _).append_right _).append_right _).append_right _
    · exact List.cons_ne_nil m' members

/-- Items are read one after the other. -/
theorem readItems_compact {v : Json} {items : List Json} (h : ∀ w ∈ v :: items, ReadsValue w)
    {fuel depth : Nat} (hfuel : 2 * (compactItems (v :: items)).toList.length + 1 ≤ fuel)
    (hnesting : nestingOfItems (v :: items) ≤ depth) (rest : List Char) :
    readItems fuel depth ((compactItems (v :: items)).toList ++ ']' :: rest)
      = some (v :: items, rest) := by
  induction items generalizing v fuel with
  | nil =>
    obtain ⟨fuel, rfl⟩ : ∃ f, fuel = f + 1 := ⟨fuel - 1, by omega⟩
    rw [nestingOfItems] at hnesting
    rw [compactItems] at hfuel ⊢
    rw [readItems, h v List.mem_cons_self fuel depth (']' :: rest) (by omega) (by omega)
      (delimited_cons (by decide) _)]
    rfl
  | cons w items ih =>
    obtain ⟨fuel, rfl⟩ : ∃ f, fuel = f + 1 := ⟨fuel - 1, by omega⟩
    have htext : (compactItems (v :: w :: items)).toList
        = v.compact.toList ++ ',' :: (compactItems (w :: items)).toList := by
      rw [compactItems, String.toList_append, String.toList_append, List.append_assoc]
      · rfl
      · exact List.cons_ne_nil w items
    rw [nestingOfItems] at hnesting
    rw [htext, List.length_append, List.length_cons] at hfuel
    -- an item takes one unit of fuel, and the comma behind it is worth two
    have hread := h v List.mem_cons_self fuel depth
      (',' :: ((compactItems (w :: items)).toList ++ ']' :: rest)) (by omega) (by omega)
      (delimited_cons (by decide) _)
    have hmore : readItems fuel depth ((compactItems (w :: items)).toList ++ ']' :: rest)
        = some (w :: items, rest) :=
      ih (fun u hu => h u (List.mem_cons_of_mem v hu)) (by omega) (by omega)
    have hskip : ∀ behind, skipSpace (',' :: behind) = ',' :: behind := fun _ => rfl
    rw [htext, List.append_assoc, List.cons_append, readItems, hread]
    simp only [hskip, hmore, Option.map_some]

/-- A member is read with its key as it is written. -/
theorem readMembers_quoted {k : String} {v : Json} (h : ReadsValue v) {fuel depth : Nat}
    (hfuel : 2 * v.compact.toList.length ≤ fuel) (hnesting : v.nesting ≤ depth)
    {rest : List Char} (hrest : Delimited rest) :
    readMembers (fuel + 1) depth ((quoted k).toList ++ ':' :: (v.compact.toList ++ rest))
      = withMember fuel depth (k.toList.flatMap escapeChar, v) rest := by
  have hread := h fuel depth rest hfuel hnesting hrest
  have hscan := scanString_append (isString_escaped k.toList) (':' :: (v.compact.toList ++ rest))
  have hquote : ∀ behind, skipSpace ('"' :: behind) = '"' :: behind := fun _ => rfl
  have hcolon : ∀ behind, skipSpace (':' :: behind) = ':' :: behind := fun _ => rfl
  have hends : skipSpace rest = rest :=
    (hrest.of_blanks (List.forall_mem_nil fun c => isSpace c = true)).2
  rw [toList_quoted, List.cons_append, List.append_assoc, List.singleton_append, readMembers,
    hquote]
  simp only [hscan, hcolon, hread, hends]
  rfl

/-- Members are read one after the other, with their keys as they are written. -/
theorem readMembers_compact {m : String × Json} {members : List (String × Json)}
    (h : ∀ m' ∈ m :: members, ReadsValue m'.2) {fuel depth : Nat}
    (hfuel : 2 * (compactMembers (m :: members)).toList.length + 1 ≤ fuel)
    (hnesting : nestingOfMembers (m :: members) ≤ depth) (rest : List Char) :
    readMembers fuel depth ((compactMembers (m :: members)).toList ++ '}' :: rest)
      = some ((m :: members).map fun m' => (m'.1.toList.flatMap escapeChar, m'.2), rest) := by
  induction members generalizing m fuel with
  | nil =>
    obtain ⟨fuel, rfl⟩ : ∃ f, fuel = f + 1 := ⟨fuel - 1, by omega⟩
    have htext : (compactMembers [m]).toList
        = (quoted m.1).toList ++ ':' :: m.2.compact.toList := by
      rw [compactMembers, String.toList_append, String.toList_append, List.append_assoc]
      rfl
    rw [nestingOfMembers] at hnesting
    rw [htext, List.length_append, List.length_cons] at hfuel
    rw [htext, List.append_assoc, List.cons_append,
      readMembers_quoted (h m List.mem_cons_self) (by omega) (by omega)
        (delimited_cons (by decide) _)]
    rfl
  | cons m' members ih =>
    obtain ⟨fuel, rfl⟩ : ∃ f, fuel = f + 1 := ⟨fuel - 1, by omega⟩
    have htext : (compactMembers (m :: m' :: members)).toList
        = (quoted m.1).toList
          ++ ':' :: (m.2.compact.toList ++ ',' :: (compactMembers (m' :: members)).toList) := by
      rw [compactMembers]
      · simp only [String.toList_append, List.append_assoc]
        rfl
      · exact List.cons_ne_nil m' members
    rw [nestingOfMembers] at hnesting
    rw [htext, List.length_append, List.length_cons, List.length_append, List.length_cons] at hfuel
    -- the fuel that the first member leaves is enough for the others
    have hmore : readMembers fuel depth ((compactMembers (m' :: members)).toList ++ '}' :: rest)
        = some ((m' :: members).map fun m => (m.1.toList.flatMap escapeChar, m.2), rest) :=
      ih (fun n hn => h n (List.mem_cons_of_mem m hn)) (by omega) (by omega)
    rw [htext, List.append_assoc, List.cons_append, List.append_assoc, List.cons_append,
      readMembers_quoted (h m List.mem_cons_self) (by omega) (by omega)
        (delimited_cons (by decide) _), withMember, hmore]
    rfl

/-- An object is read back from its members with written keys. -/
theorem objectOf_escaped (members : List (String × Json)) :
    objectOf (members.map fun m => (m.1.toList.flatMap escapeChar, m.2)) = .object members := by
  have hread : (members.map fun m => (m.1.toList.flatMap escapeChar, m.2)).mapM
      (fun m => (unescape m.1).map fun k => (String.ofList k, m.2)) = some members := by
    induction members with
    | nil => rfl
    | cons m members ih =>
      rw [List.map_cons, List.mapM_cons, ih, unescape_escaped]
      simp
  rw [objectOf, hread]

/-- A value is read from a text that is not empty when it is read with some fuel. -/
theorem ReadsValue.of_succ {j : Json} (hopens : Opens j.compact.toList)
    (h : ∀ fuel depth rest, 2 * j.compact.toList.length ≤ fuel + 1 → j.nesting ≤ depth →
      Delimited rest → readValue (fuel + 1) depth (j.compact.toList ++ rest) = some (j, rest)) :
    ReadsValue j := by
  intro fuel depth rest hfuel hnesting hrest
  have hlength : 0 < j.compact.toList.length := by
    obtain ⟨front, c, back, htext, -⟩ := hopens
    rw [htext, List.length_append, List.length_cons]
    omega
  obtain ⟨fuel, rfl⟩ : ∃ f, fuel = f + 1 := ⟨fuel - 1, by omega⟩
  exact h fuel depth rest hfuel hnesting hrest

/-- A value that nests less deep than allowed is taken as it is. -/
theorem bracketed_of_lt {n depth : Nat} (h : n < depth) (v : Json) : bracketed depth v = v := by
  obtain ⟨depth, rfl⟩ : ∃ d, depth = d + 1 := ⟨depth - 1, by omega⟩
  rfl

/-- A string is read from its text. -/
theorem readsValue_string (s : String) : ReadsValue (.string s) := by
  refine .of_succ (Legible.string s).opens fun fuel depth rest _ _ _ => ?_
  have hread : ∀ body, readValue (fuel + 1) depth ('"' :: body)
      = (scanString body).map fun r => (stringOf r.1, r.2) := fun _ => rfl
  rw [compact, toList_quoted, List.cons_append, List.append_assoc, List.singleton_append, hread,
    scanString_append (isString_escaped s.toList), Option.map_some, stringOf, unescape_escaped]
  simp only [String.ofList_toList]

/-- An array is read from its text if its items are. -/
theorem readsValue_array {items : List Json} (h : ∀ v ∈ items, Legible v)
    (hitems : ∀ v ∈ items, ReadsValue v) : ReadsValue (.array items) := by
  refine .of_succ (Legible.array h).opens fun fuel depth rest hfuel hnesting _ => ?_
  have htext : (Json.array items).compact.toList
      = '[' :: ((compactItems items).toList ++ [']']) := by
    rw [compact, String.toList_append, String.toList_append, List.append_assoc]
    rfl
  rw [nesting] at hnesting
  rw [htext, List.length_cons, List.length_append, List.length_singleton] at hfuel
  rw [htext, List.cons_append, List.append_assoc, List.singleton_append]
  cases items with
  | nil => rw [readValue_emptyArray rfl, bracketed_of_lt hnesting]
  | cons v items =>
    -- where an item begins, the array does not end
    have hne : ∀ behind,
        skipSpace ((compactItems (v :: items)).toList ++ ']' :: rest) ≠ ']' :: behind :=
      (((h v List.mem_cons_self).opens_items items).append_right _).skipSpace_ne (by decide)
    rw [readValue_array hne, readItems_compact hitems (by omega) (by omega), Option.map_some,
      bracketed_of_lt hnesting]

/-- An object is read from its text if its members are. -/
theorem readsValue_object {members : List (String × Json)} (h : ∀ m ∈ members, Legible m.2)
    (hmembers : ∀ m ∈ members, ReadsValue m.2) : ReadsValue (.object members) := by
  refine .of_succ (Legible.object h).opens fun fuel depth rest hfuel hnesting _ => ?_
  have htext : (Json.object members).compact.toList
      = '{' :: ((compactMembers members).toList ++ ['}']) := by
    rw [compact, String.toList_append, String.toList_append, List.append_assoc]
    rfl
  rw [nesting] at hnesting
  rw [htext, List.length_cons, List.length_append, List.length_singleton] at hfuel
  rw [htext, List.cons_append, List.append_assoc, List.singleton_append]
  cases members with
  | nil => rw [readValue_emptyBraces rfl, bracketed_of_lt hnesting]
  | cons m members =>
    have hne : ∀ behind,
        skipSpace ((compactMembers (m :: members)).toList ++ '}' :: rest) ≠ '}' :: behind :=
      ((opens_members m members).append_right _).skipSpace_ne (by decide)
    rw [readValue_braces hne, readMembers_compact hmembers (by omega) (by omega), Option.map_some,
      objectOf_escaped, bracketed_of_lt hnesting]

/-- A value is read from its text. -/
theorem Legible.readsValue {j : Json} (h : Legible j) : ReadsValue j := by
  induction h with
  | null => exact .of_succ Legible.null.opens fun _ _ _ _ _ _ => rfl
  | bool b =>
    refine .of_succ (Legible.bool b).opens fun _ _ _ _ _ _ => ?_
    cases b <;> rfl
  | @number n h =>
    refine .of_succ (Legible.number h).opens fun fuel depth rest _ _ hrest => ?_
    have hends := (hrest.of_blanks (List.forall_mem_nil fun c => isSpace c = true)).1
    rw [compact, readValue_number h.isNumber]
    exact h rest hends
  | string s => exact readsValue_string s
  | array h ih => exact readsValue_array h ih
  | object h ih => exact readsValue_object h ih

/-- A text on one line is read as the value it was written for, unless the brackets of the value
nest too deep. -/
theorem parse?_compact {j : Json} (h : Legible j) (hnesting : j.nesting ≤ maxDepth) :
    parse? j.compact = some j := by
  have hread := h.readsValue (2 * j.compact.toList.length + 2) maxDepth [] (Nat.le_add_right _ _)
    hnesting nofun
  rw [List.append_nil] at hread
  simp only [parse?, hread]
  rfl

/-- So it is with a value of no fixed form. -/
theorem Sorted.parse?_text {v : Sorted} (h : Legible v.json)
    (hnesting : v.json.nesting ≤ maxDepth) : Sorted.parse? v.text = some v := by
  rw [Sorted.parse?, Sorted.text, parse?_compact h hnesting, Option.bind_some, Sorted.of?,
    if_pos (isReadable_of_isSorted v.json v.isSorted), Sorted.of_json]

end CitedReport.Json
