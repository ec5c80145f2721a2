import CitedReport.Chars.Basic
import CitedReport.Chars.CompositionTables

/-!
# Composed characters

A letter with marks on it can be written as one character or as several, and marks on one letter in
different orders. `compose` brings a text into the form with as few characters as there can be: the
text is taken apart, marks are put in the order of their classes, and what belongs together is put
together again. The text must not contain characters that are only another name for a character.
-/

namespace CitedReport.Chars

/-!
## Images of characters

What characters are mapped to is written down in rows. A row is about consecutive characters and
gives the image of each: a code point in hexadecimal digits, or several with plus signs between them.
-/

/-- The value of digits in base sixteen, of which the letters are capital ones. -/
def hexValue (digits : List Char) : Nat :=
  digits.foldl (fun n c => n * 16 + (if c.toNat < 0x41 then c.toNat - 0x30 else c.toNat - 0x37)) 0

/-- An image as it is written in a row. -/
def readImage (word : List Char) : List Char :=
  (splitOn (· == '+') word).map fun digits => Char.ofNat (hexValue digits)

/-- The images of a row. -/
def rowImages (images : String) : List (List Char) :=
  (splitOn (· == ' ') images.toList).map readImage

/-- The image of a code point under rows in increasing order: the last row that begins at it or
before it has the image if any row has. -/
def rowImage? (rows : List (Nat × String)) (n : Nat) : Option (List Char) :=
  (rows.takeWhile fun r => r.1 ≤ n).getLast?.bind fun r => (rowImages r.2)[n - r.1]?

/-- All code points of rows with their images. -/
def rowEntries (rows : List (Nat × String)) : List (Nat × List Char) :=
  rows.flatMap fun r => (rowImages r.2).zipIdx.map fun e => (r.1 + e.2, e.1)

/-! ## Marks -/

/-- The class of a mark, by which the marks on one letter are ordered; any other character has the
class zero. -/
def combiningClass (c : Char) : Nat :=
  match Tables.combiningClasses.find? fun r => r.1 ≤ c.toNat && c.toNat ≤ r.2.1 with
  | some r => r.2.2
  | none => 0

/-! ## Syllables of the Korean script -/

/-- Whether a character is a composed syllable. -/
def isSyllable (c : Char) : Bool := 0xAC00 ≤ c.toNat && c.toNat < 0xAC00 + 11172

/-- The two or three letters of a syllable: an initial, a vowel, and perhaps a final. -/
def syllableLetters (c : Char) : List Char :=
  let n := c.toNat - 0xAC00
  let final := if n % 28 = 0 then [] else [Char.ofNat (0x11A7 + n % 28)]
  Char.ofNat (0x1100 + n / 588) :: Char.ofNat (0x1161 + n % 588 / 28) :: final

/-- The syllable of an initial and a vowel, or of a syllable without a final and a final. -/
def syllable? (a b : Char) : Option Char :=
  let initial := a.toNat - 0x1100
  let vowel := b.toNat - 0x1161
  if 0x1100 ≤ a.toNat ∧ initial < 19 ∧ 0x1161 ≤ b.toNat ∧ vowel < 21 then
    some (Char.ofNat (0xAC00 + (initial * 21 + vowel) * 28))
  else if isSyllable a ∧ (a.toNat - 0xAC00) % 28 = 0 ∧ 0x11A7 < b.toNat ∧ b.toNat < 0x11A7 + 28 then
    some (Char.ofNat (a.toNat + (b.toNat - 0x11A7)))
  else none

/-! ## Taking apart -/

/-- What a character is composed of. -/
def parts (c : Char) : List Char :=
  if c.toNat < 0xC0 then [c]
  else if isSyllable c then syllableLetters c
  else (rowImage? Tables.composedRows c.toNat).getD [c]

/-- Puts a mark in front of marks that are in order; of marks of one class it stays the first. -/
def placeMark (c : Char) : List Char → List Char
  | [] => [c]
  | d :: cs =>
    if 0 < combiningClass d ∧ combiningClass d < combiningClass c then d :: placeMark c cs
    else c :: d :: cs

/-- A text with the marks on every letter in the order of their classes. -/
def orderMarks (cs : List Char) : List Char := cs.foldr placeMark []

/-! ## Putting together -/

/-- The composed characters and what each of them is composed of. -/
def composites : List (Nat × List Char) := rowEntries Tables.composedRows

/-- The character that two characters are composed to. -/
def compose? (a b : Char) : Option Char :=
  if b.toNat < 0x300 then none
  else
    match syllable? a b with
    | some c => some c
    | none =>
      let whole := parts a ++ [b]
      (composites.find? fun e => e.2 = whole).map fun e => Char.ofNat e.1

/-- Puts a letter together with the marks that follow it, given the marks, in reverse, that are
passed over already. A mark reaches the letter if those before it have lower classes. -/
def composeAfter (letter : Char) (passed : List Char) : List Char → List Char
  | [] => letter :: passed.reverse
  | c :: cs =>
    let isFree :=
      match passed with
      | [] => true
      | mark :: _ => combiningClass mark < combiningClass c
    match if isFree then compose? letter c else none with
    | some whole => composeAfter whole passed cs
    | none =>
      if combiningClass c = 0 then letter :: (passed.reverse ++ composeAfter c [] cs)
      else composeAfter letter (c :: passed) cs

/-- Puts together what belongs together in a text that is taken apart. -/
def composeAll : List Char → List Char
  | [] => []
  | c :: cs => if combiningClass c = 0 then composeAfter c [] cs else c :: composeAll cs

/-- A text in composed form. -/
def compose (cs : List Char) : List Char := composeAll (orderMarks (cs.flatMap parts))

end CitedReport.Chars
