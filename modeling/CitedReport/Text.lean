import CitedReport.Chars.Basic

/-!
# Rules on texts

The rules of `Chars` on strings, for the parts of the library that only pass texts on.
-/

namespace CitedReport.Text

/-- Drops the blanks at both ends. -/
def trim (s : String) : String :=
  String.ofList (Chars.trim s.toList)

/-- Drops the blanks in front. -/
def trimStart (s : String) : String :=
  String.ofList (Chars.trimStart s.toList)

/-- Drops the blanks at the end. -/
def trimEnd (s : String) : String :=
  String.ofList (Chars.trimEnd s.toList)

/-- Whether nothing but blanks is there. -/
def isBlank (s : String) : Bool :=
  Chars.allBlank s.toList

/-- The trimmed text, if anything is left of it. -/
def trimmed? (s : String) : Option String :=
  let t := trim s
  if t = "" then none else some t

/-- The lines of a text, without their ends. -/
def lines (s : String) : List String :=
  (Chars.lines s.toList).map String.ofList

/-- Whether `pattern` occurs somewhere in `s`. -/
def contains (pattern s : String) : Bool :=
  Chars.contains pattern.toList s.toList

/-- Whether `s` begins with `pattern`. -/
def startsWith (pattern s : String) : Bool :=
  (Chars.after? pattern.toList s.toList).isSome

/-- What follows `pattern` when `s` begins with it. -/
def after? (pattern s : String) : Option String :=
  (Chars.after? pattern.toList s.toList).map String.ofList

/-- Replaces every occurrence of a non-empty `pattern`. -/
def replace (pattern replacement s : String) : String :=
  String.ofList (Chars.replace pattern.toList replacement.toList s.toList)

/-- ASCII letters in lower case. -/
def asciiLower (s : String) : String :=
  String.ofList (Chars.asciiLowerAll s.toList)

/-- Lower case in the sense of Unicode. -/
def lower (s : String) : String :=
  String.ofList (Chars.lowerAll s.toList)

/-- At most the first `n` characters. -/
def take (n : Nat) (s : String) : String :=
  String.ofList (s.toList.take n)

/-- Drops every copy of `c` at the end. -/
def dropEnd (c : Char) (s : String) : String :=
  String.ofList (Chars.dropEndWhile (· == c) s.toList)

/-- The parts with `separator` between them. -/
def join (separator : String) (parts : List String) : String :=
  String.intercalate separator parts

end CitedReport.Text
