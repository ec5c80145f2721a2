import CitedReport.Chars.Classes

/-!
# Rules on lists of characters

Trimming, splitting into lines and at patterns, searching, replacing. The texts of the library are
strings; every rule about their characters is stated here, on lists, where it can be reasoned about
by induction.
-/

namespace CitedReport.Chars

/-- Drops the blanks in front. -/
def trimStart (cs : List Char) : List Char :=
  cs.dropWhile isBlank

/-- Drops, at the end, what satisfies `p`. -/
def dropEndWhile {α : Type} (p : α → Bool) (cs : List α) : List α :=
  (cs.reverse.dropWhile p).reverse

/-- Drops the blanks at the end. -/
def trimEnd (cs : List Char) : List Char :=
  dropEndWhile isBlank cs

/-- Drops the blanks at both ends. -/
def trim (cs : List Char) : List Char :=
  trimEnd (trimStart cs)

/-- Whether nothing but blanks is there. -/
def allBlank (cs : List Char) : Bool :=
  cs.all isBlank

/-- What follows `pattern` when the text begins with it. -/
def after? : List Char → List Char → Option (List Char)
  | [], cs => some cs
  | _ :: _, [] => none
  | p :: ps, c :: cs => if p = c then after? ps cs else none

/-- What stands before and after the first occurrence of `pattern`. -/
def splitFirst? (pattern : List Char) : List Char → Option (List Char × List Char)
  | [] => if pattern = [] then some ([], []) else none
  | c :: cs =>
    match after? pattern (c :: cs) with
    | some rest => some ([], rest)
    | none => (splitFirst? pattern cs).map fun r => (c :: r.1, r.2)

/-- What stands before and after the last occurrence of `pattern`. -/
def splitLast? (pattern : List Char) : List Char → Option (List Char × List Char)
  | [] => if pattern = [] then some ([], []) else none
  | c :: cs =>
    match splitLast? pattern cs with
    | some r => some (c :: r.1, r.2)
    | none => (after? pattern (c :: cs)).map fun rest => ([], rest)

/-- Whether `pattern` occurs somewhere. -/
def contains (pattern cs : List Char) : Bool :=
  (splitFirst? pattern cs).isSome

/-- Splits at the characters that satisfy `p`; there is always at least one piece. -/
def splitOn (p : Char → Bool) : List Char → List (List Char)
  | [] => [[]]
  | c :: cs =>
    if p c then [] :: splitOn p cs
    else
      match splitOn p cs with
      | [] => [[c]]
      | piece :: pieces => (c :: piece) :: pieces

/-- Drops one carriage return at the end. -/
def dropReturn (cs : List Char) : List Char :=
  match cs.reverse with
  | '\r' :: rest => rest.reverse
  | _ => cs

/-- The lines of the pieces between line feeds: a line that a line feed ends loses one carriage
return before it, and an empty piece after the last line feed is no line. -/
def linesOfPieces : List (List Char) → List (List Char)
  | [] => []
  | [last] => if last = [] then [] else [last]
  | piece :: pieces => dropReturn piece :: linesOfPieces pieces

/-- The lines of a text, without their ends. -/
def lines (cs : List Char) : List (List Char) :=
  linesOfPieces (splitOn (· == '\n') cs)

/-- The words of a text: its maximal pieces without blanks. -/
def words (cs : List Char) : List (List Char) :=
  (splitOn isBlank cs).filter (· ≠ [])

/-- Replaces every occurrence of `pattern`, left to right and without overlap. The number counts the
characters still to be passed over as part of an occurrence. -/
def replaceFrom (pattern replacement : List Char) : Nat → List Char → List Char
  | _, [] => []
  | skip + 1, _ :: cs => replaceFrom pattern replacement skip cs
  | 0, c :: cs =>
    match after? pattern (c :: cs) with
    | some _ => replacement ++ replaceFrom pattern replacement (pattern.length - 1) cs
    | none => c :: replaceFrom pattern replacement 0 cs

/-- Replaces every occurrence of a non-empty `pattern`. -/
def replace (pattern replacement cs : List Char) : List Char :=
  replaceFrom pattern replacement 0 cs

/-- ASCII letters in lower case. -/
def asciiLowerAll (cs : List Char) : List Char :=
  cs.map asciiLower

/-- What follows a pattern of lower-case ASCII characters when the text begins with it in any
case. -/
def afterFolded? : List Char → List Char → Option (List Char)
  | [], cs => some cs
  | _ :: _, [] => none
  | p :: ps, c :: cs => if p = fold c then afterFolded? ps cs else none

/-- Whether the next character, if there is one, can stand inside a word. -/
def wordNext : List Char → Bool
  | [] => false
  | c :: _ => isWord c

/-- The length of a text in UTF-8. -/
def utf8Length (cs : List Char) : Nat :=
  cs.foldr (fun c n => c.utf8Size + n) 0

end CitedReport.Chars
