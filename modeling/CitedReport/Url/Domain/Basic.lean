import CitedReport.Chars.Composition
import CitedReport.Url.Domain.Direction
import CitedReport.Url.Domain.MappingTable
import CitedReport.Url.Punycode

/-!
# Domain names

A domain name of any script, and the form in ASCII in which it is used. Names that differ only in
case, in the width of letters or in how marks are written have the same form.
-/

namespace CitedReport.Url.Domain

/-!
## Characters

Before a domain name is looked at, its characters are mapped to plain ones: capital letters to small
ones, wide, small and encircled forms to the letters they are forms of, and some to nothing. Some
characters no name can hold. A name is settled when this changes nothing about it any more.
-/

/-- What a character of a domain name is mapped to, unless no name can hold it. -/
def mapChar? (c : Char) : Option (List Char) :=
  let n := c.toNat
  if n < 128 then some [Chars.asciiLower c]
  else if Chars.inRanges Tables.ignored n then some []
  else if Chars.inRanges Tables.forbidden n then none
  else
    match Chars.runImage? Tables.mappedRuns n with
    | some d => some [d]
    | none => some ((Chars.rowImage? Tables.mappedRows n).getD [c])

/-- A domain name in plain characters and in composed form. -/
def settle? (name : List Char) : Option (List Char) :=
  (name.mapM mapChar?).map fun images => Chars.compose images.flatten

/-- Whether a text is settled. -/
def isSettled (cs : List Char) : Bool :=
  cs.all (fun c => mapChar? c = some [c]) && Chars.compose cs = cs

/-- Whether an ASCII character has a meaning in a web address that keeps it out of domain names. -/
def isReserved (c : Char) : Bool :=
  c.toNat ≤ 32 || c.toNat = 127 || "#%/:<>?@[\\]^|".toList.contains c

/-!
## Labels

A label must not begin with a combining mark, and the two invisible joiners may stand only where
they change how a text is read: after a sign that takes the vowel from a consonant, and the one that
keeps letters apart also between two letters that would join. In ASCII a label with other characters
is written behind a marker; a label with that marker is one of those, in the only way it is written.
-/

/-- Whether a character is a combining mark. -/
def isMark (c : Char) : Bool :=
  Chars.inRanges Tables.nonspacingMarks c.toNat || Chars.inRanges Tables.spacingMarks c.toNat

/-- Marks and a letter that do not come between two letters that join, besides the marks that take
no place of their own. -/
def transparentToo : List Nat := [0xCBF, 0xCC6, 0x11A07, 0x11A08, 0x11C3F, 0x1E94B]

/-- Whether a character does not come between two letters that join. -/
def isTransparent (c : Char) : Bool :=
  Chars.inRanges Tables.nonspacingMarks c.toNat || transparentToo.contains c.toNat

/-- Whether the first character that counts is in a table. -/
def meets (table : List (Nat × Nat)) (cs : List Char) : Bool :=
  match cs.dropWhile isTransparent with
  | [] => false
  | c :: _ => Chars.inRanges table c.toNat

/-- Whether the character in front takes the vowel from a consonant; what stands in front is
reversed. -/
def followsVirama : List Char → Bool
  | [] => false
  | c :: _ => Chars.combiningClass c = 9

/-- Whether the joiners are where they may be, after what stands in front, which is reversed. -/
def joinersFit : List Char → List Char → Bool
  | _, [] => true
  | before, c :: cs =>
    (if c = '\u200d' then followsVirama before
    else if c = '\u200c' then
      followsVirama before || (meets Tables.joiningOnward before && meets Tables.joiningBack cs)
    else true) &&
      joinersFit (c :: before) cs

/-- Whether a text can be a label. -/
def isLabel (label : List Char) : Bool := !label.head?.any isMark && joinersFit [] label

/-- Whether a text is ASCII. -/
def isAscii (cs : List Char) : Bool := cs.all fun c => c.toNat < 128

/-- What comes before a label that is written in ASCII. -/
def marker : List Char := "xn--".toList

/-- The longest label that is written in ASCII. -/
def longestLabel : Nat := 1000

/-- The longest written form that is read. -/
def longestWritten : Nat := 2000

/-- The label that a settled text stands for. -/
def readLabel? (text : List Char) : Option (List Char) :=
  match Chars.after? marker text with
  | some written =>
    if longestWritten < written.length then none
    else
      (Punycode.decode? written).filter fun label =>
        !isAscii label && isSettled label && isLabel label
  | none => if isAscii text || isLabel text then some text else none

/-- A label in ASCII. -/
def writeLabel? (label : List Char) : Option (List Char) :=
  if isAscii label then some label
  else if longestLabel < label.length then none
  else some (marker ++ Punycode.encode label)

/-! ## Names -/

/-- A domain name in ASCII. -/
def toAscii? (name : List Char) : Option (List Char) := do
  let settled ← settle? name
  if settled.any isReserved then none
  else
    let labels ← (Chars.splitOn (· == '.') settled).mapM readLabel?
    if readsOneWay labels then return List.intercalate ['.'] (← labels.mapM writeLabel?)
    else none

end CitedReport.Url.Domain
