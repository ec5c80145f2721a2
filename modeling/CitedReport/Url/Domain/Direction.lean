import CitedReport.Chars.Basic
import CitedReport.Url.Domain.Tables

/-!
# Directions of domain names

In a domain name with letters from right to left, every label must run in one direction, or the name
could be read in more than one order. A label runs in the direction of its first character, which
must be a letter, and has at its end, marks aside, a letter of that direction or a digit.
-/

namespace CitedReport.Url.Domain

/-- What a character says about the direction of a text. -/
inductive Direction where
  /-- A letter that runs from left to right. -/
  | leftToRight
  /-- A letter that runs from right to left. -/
  | rightToLeft
  /-- A digit of the Arabic script. -/
  | arabicNumber
  /-- A digit that is used like the European ones. -/
  | europeanNumber
  /-- A mark on the character before it. -/
  | mark
  /-- A character that takes the direction of those around it. -/
  | neutral
deriving DecidableEq, Repr

namespace Direction

/-- The direction of a character. -/
def of (c : Char) : Direction :=
  let n := c.toNat
  if n < 128 then
    if Chars.isAsciiLetter c then leftToRight
    else if Chars.isAsciiDigit c then europeanNumber
    else neutral
  else if Chars.inRanges Tables.rightToLeft n then rightToLeft
  else if Chars.inRanges Tables.arabicNumbers n then arabicNumber
  else if Chars.inRanges Tables.europeanNumbers n then europeanNumber
  else if Chars.inRanges Tables.nonspacingMarks n then mark
  else if Chars.inRanges Tables.neutral n then neutral
  else leftToRight

/-- Whether a character makes the name one that is not simply read from left to right. -/
def isForeign (d : Direction) : Bool := d = rightToLeft || d = arabicNumber

end Direction

/-- Whether the characters of a label agree on a direction. -/
def runsOneWay (label : List Char) : Bool :=
  match label.map Direction.of with
  | [] => true
  | first :: rest =>
    let rest := Chars.dropEndWhile (· = .mark) rest
    match first with
    | .leftToRight =>
      rest.all (fun d => !d.isForeign) &&
        rest.getLast?.all (fun d => d = .leftToRight || d = .europeanNumber)
    | .rightToLeft =>
      rest.all (· ≠ .leftToRight) && rest.getLast?.all (fun d => d ≠ .neutral) &&
        -- digits of both kinds in one label would change places
        !(rest.contains .arabicNumber && rest.contains .europeanNumber)
    | _ => false

/-- Whether the labels of a name can be read in one order only. -/
def readsOneWay (labels : List (List Char)) : Bool :=
  if labels.any fun l => l.any fun c => (Direction.of c).isForeign then labels.all runsOneWay
  else true

end CitedReport.Url.Domain
