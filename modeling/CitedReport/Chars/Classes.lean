import CitedReport.Chars.Tables
import CitedReport.Chars.CaseTables

/-!
# Classes of characters

Blank, digit, word and letter characters in the sense of Unicode, and the two case rules that the
library uses: folding for patterns that ignore case, and lower-casing of whole texts.

Below 128 every class is decided by arithmetic; above it by a table of ranges.
-/

namespace CitedReport.Chars

/-- Whether a code point lies in one of the closed ranges. -/
def inRanges (ranges : List (Nat × Nat)) (n : Nat) : Bool :=
  ranges.any fun r => r.1 ≤ n && n ≤ r.2

/-- The image of a code point under runs of characters that are all moved by one distance: first,
last, step, and what to add. -/
def runImage? (runs : List (Nat × Nat × Nat × Int)) (n : Nat) : Option Char :=
  (runs.find? fun r => r.1 ≤ n && n ≤ r.2.1 && (n - r.1) % r.2.2.1 == 0).map fun r =>
    Char.ofNat ((n : Int) + r.2.2.2).toNat

/-- White space (property White_Space): the blanks of every script and the line separators. -/
def isBlank (c : Char) : Bool :=
  let n := c.toNat
  n == 0x20 || (0x9 ≤ n && n ≤ 0xD) || n == 0x85 || n == 0xA0 || n == 0x1680 ||
    (0x2000 ≤ n && n ≤ 0x200A) || n == 0x2028 || n == 0x2029 || n == 0x202F || n == 0x205F ||
    n == 0x3000

/-- The digits `0` to `9`. -/
def isAsciiDigit (c : Char) : Bool :=
  0x30 ≤ c.toNat && c.toNat ≤ 0x39

/-- The letters `a` to `z` and `A` to `Z`. -/
def isAsciiLetter (c : Char) : Bool :=
  (0x41 ≤ c.toNat && c.toNat ≤ 0x5A) || (0x61 ≤ c.toNat && c.toNat ≤ 0x7A)

/-- A decimal digit of any script. -/
def isDigit (c : Char) : Bool :=
  if c.toNat < 128 then isAsciiDigit c else inRanges Tables.decimalDigits c.toNat

/-- A letter or letter-like mark of any script. -/
def isAlphabetic (c : Char) : Bool :=
  if c.toNat < 128 then isAsciiLetter c else inRanges Tables.alphabetic c.toNat

/-- A letter or a number of any kind. -/
def isAlphanumeric (c : Char) : Bool :=
  isAlphabetic c || isDigit c || (128 ≤ c.toNat && inRanges Tables.otherNumbers c.toNat)

/-- A character that can stand inside a word: letters, decimal digits, marks and connectors. -/
def isWord (c : Char) : Bool :=
  isAlphabetic c || isDigit c || c == '_' ||
    (128 ≤ c.toNat && inRanges Tables.wordMarks c.toNat)

/-- The lower case of an ASCII letter; every other character stays. -/
def asciiLower (c : Char) : Char :=
  if 0x41 ≤ c.toNat && c.toNat ≤ 0x5A then Char.ofNat (c.toNat + 32) else c

/-- One representative of all characters that ASCII patterns identify when they ignore case. Besides
the two cases of a letter these are the long s, folded to `s`, and the Kelvin sign, folded to
`k`. -/
def fold (c : Char) : Char :=
  if c.toNat == 0x17F then 's' else if c.toNat == 0x212A then 'k' else asciiLower c

/-- A character that folds to one of `a` to `z`. -/
def isFoldedLetter (c : Char) : Bool :=
  isAsciiLetter (fold c)

/-- A letter that has case. -/
def isCased (c : Char) : Bool :=
  inRanges Tables.cased c.toNat

/-- A character that is looked through when the end of a word is sought. -/
def isCaseIgnorable (c : Char) : Bool :=
  inRanges Tables.caseIgnorable c.toNat

/-- The lower case of one character out of context. Only the capital I with a dot has a lower case
of two characters. -/
def lower (c : Char) : List Char :=
  if c.toNat < 128 then [asciiLower c]
  else if c.toNat == 0x130 then ['i', Char.ofNat 0x307]
  else [(runImage? Tables.lowerRuns c.toNat).getD c]

/-- Whether the first cased letter found by looking through ignorable characters exists at once. -/
def casedNext (cs : List Char) : Bool :=
  match cs.dropWhile isCaseIgnorable with
  | [] => false
  | c :: _ => isCased c

/-- Lower case of the characters after `before` (which is reversed). A capital sigma that ends a
word takes its final form. -/
def lowerAfter : List Char → List Char → List Char
  | _, [] => []
  | before, c :: cs =>
    (if c.toNat == 0x3A3 then
      [if casedNext before && !casedNext cs then Char.ofNat 0x3C2 else Char.ofNat 0x3C3]
    else lower c) ++ lowerAfter (c :: before) cs

/-- Lower case of a whole text. -/
def lowerAll (cs : List Char) : List Char :=
  lowerAfter [] cs

end CitedReport.Chars
