import CitedReport.Chars.Basic
import CitedReport.Number.Binary

/-!
# Citation markers

A citation marker is a bracketed list of numbers such as `[3]` or `[3, 4]`: digits of any script,
with a comma and blanks between two numbers. `pieces` cuts a text into its markers and the single
characters outside them, from left to right; everything that reads or renumbers citations goes
through these pieces.
-/

namespace CitedReport.Citation

/-- A citation marker as it is written. -/
structure Marker where
  /-- The digits of its first number. -/
  first : List Char
  /-- The further numbers, each with the separator written before it. -/
  more : List (List Char × List Char)
deriving DecidableEq, Repr

namespace Marker

/-- The numbers as they are written, each with the separator before it. -/
def tokens (m : Marker) : List (List Char × List Char) := ([], m.first) :: m.more

/-- The text between the brackets. -/
def inner (m : Marker) : List Char := m.tokens.flatMap fun t => t.1 ++ t.2

/-- What stands between the commas of the marker, without the blanks around it. -/
def items (m : Marker) : List (List Char) := (Chars.splitOn (· == ',') m.inner).map Chars.trim

/-- The text of the marker. -/
def text (m : Marker) : List Char := '[' :: (m.inner ++ [']'])

/-- The text of the marker with a backslash before each bracket, which is no marker. -/
def escaped (m : Marker) : List Char := '\\' :: '[' :: (m.inner ++ ['\\', ']'])

/-- A separator and the number after it, and what follows. -/
def readToken? (cs : List Char) : Option ((List Char × List Char) × List Char) :=
  match cs.dropWhile Chars.isBlank with
  | ',' :: rest =>
    let blanks := rest.takeWhile Chars.isBlank
    let digits := (rest.dropWhile Chars.isBlank).takeWhile Chars.isDigit
    if digits = [] then none
    else
      some ((cs.takeWhile Chars.isBlank ++ ',' :: blanks, digits),
        (rest.dropWhile Chars.isBlank).dropWhile Chars.isDigit)
  | _ => none

/-- As many further numbers as there are, at most `fuel`, and what follows them. -/
def readMore : Nat → List Char → List (List Char × List Char) × List Char
  | 0, cs => ([], cs)
  | fuel + 1, cs =>
    match readToken? cs with
    | none => ([], cs)
    | some (token, rest) =>
      let r := readMore fuel rest
      (token :: r.1, r.2)

/-- The marker that a text begins with. -/
def read? : List Char → Option Marker
  | '[' :: cs =>
    let digits := cs.takeWhile Chars.isDigit
    let rest := cs.dropWhile Chars.isDigit
    match readMore rest.length rest with
    | (more, ']' :: _) => if digits = [] then none else some ⟨digits, more⟩
    | _ => none
  | _ => none

end Marker

/-- A part of a text: a marker, or one character outside markers. -/
inductive Piece where
  /-- A character outside markers. -/
  | char (c : Char)
  /-- A marker. -/
  | marker (m : Marker)
deriving DecidableEq, Repr

namespace Piece

/-- The text of a part. -/
def text : Piece → List Char
  | .char c => [c]
  | .marker m => m.text

/-- The marker, if the part is one. -/
def marker? : Piece → Option Marker
  | .char _ => none
  | .marker m => some m

end Piece

/-- The parts of a text after the first `skip` characters, which belong to a marker already read. -/
def piecesFrom : Nat → List Char → List Piece
  | _, [] => []
  | skip + 1, _ :: cs => piecesFrom skip cs
  | 0, c :: cs =>
    match Marker.read? (c :: cs) with
    | some m => .marker m :: piecesFrom (m.text.length - 1) cs
    | none => .char c :: piecesFrom 0 cs

/-- The parts of a text. -/
def pieces (cs : List Char) : List Piece := piecesFrom 0 cs

/-- The markers of a text, in order. -/
def markers (cs : List Char) : List Marker := (pieces cs).filterMap Piece.marker?

/-- The number that a token's digits stand for. -/
def index? (digits : List Char) : Option Nat := Word.ofDigits? digits

/-- The decimal digits of a number. -/
def indexText (n : Nat) : List Char := Nat.toDigits 10 n

/-- The numbers that the markers of a text stand for, in order. -/
def indices (cs : List Char) : List Nat :=
  (markers cs).flatMap fun m => m.tokens.filterMap fun t => index? t.2

end CitedReport.Citation
