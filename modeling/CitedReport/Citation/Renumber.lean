import CitedReport.Citation.Marker

/-!
# Renumbering citations

Each number of a marker is kept, replaced or dropped; a number that stands for nothing is kept as
written. What is left of a marker keeps the separators written before the numbers that are left. A
marker can also be escaped, so that it is read as a marker no longer.
-/

namespace CitedReport.Citation

/-- What happens to a number of a marker. -/
inductive Resolution where
  /-- It stays as written. -/
  | keep
  /-- It is replaced by this number. -/
  | renumber (n : Nat)
  /-- It is taken out. -/
  | drop
deriving DecidableEq, Repr

/-- What becomes of a marker. -/
inductive Renumbered where
  /-- It stays as written. -/
  | unchanged
  /-- No number is left. -/
  | removed
  /-- It becomes this marker. -/
  | changed (m : Marker)
deriving DecidableEq, Repr

/-- The digits that replace those of a number, if it is not taken out. -/
def resolveDigits (resolve : Nat → Resolution) (digits : List Char) : Option (List Char) :=
  match index? digits with
  | none => some digits
  | some n =>
    match resolve n with
    | .keep => some digits
    | .renumber k => some (indexText k)
    | .drop => none

/-- The numbers that are left of a marker, each with the separator written before it. -/
def Marker.survivors (resolve : Nat → Resolution) (m : Marker) : List (List Char × List Char) :=
  m.tokens.filterMap fun t => (resolveDigits resolve t.2).map fun d => (t.1, d)

/-- What becomes of a marker when its numbers are resolved. -/
def Marker.renumber (resolve : Nat → Resolution) (m : Marker) : Renumbered :=
  let left := m.survivors resolve
  -- a marker whose digits all stay is left as written, blanks included
  if left.map Prod.snd = m.tokens.map Prod.snd then .unchanged
  else
    match left with
    | [] => .removed
    | (_, digits) :: more => .changed ⟨digits, more⟩

/-- Escapes every marker of a text. -/
def escapeChars (cs : List Char) : List Char :=
  (pieces cs).flatMap fun
    | .char c => [c]
    | .marker m => m.escaped

/-- Escapes every marker of a text whose bracketed numbers are not references, such as footnotes of
a page. -/
def escape (s : String) : String := String.ofList (escapeChars s.toList)

/-- Whether a removed marker takes the spaces before it along: at the end of a text, and before a
blank or a closing punctuation mark. -/
def closesUp : List Piece → Bool
  | [] => true
  | .char c :: _ => Chars.isBlank c || ".,;:!?)".toList.contains c
  | .marker _ :: _ => false

/-- The renumbered text of parts after the output so far, which is reversed. -/
def renumberFrom (resolve : Nat → Resolution) : List Char → List Piece → List Char
  | out, [] => out.reverse
  | out, .char c :: rest => renumberFrom resolve (c :: out) rest
  | out, .marker m :: rest =>
    match m.renumber resolve with
    | .unchanged => renumberFrom resolve (m.text.reverse ++ out) rest
    | .changed m' => renumberFrom resolve (m'.text.reverse ++ out) rest
    | .removed =>
      renumberFrom resolve
        (if closesUp rest then out.dropWhile fun c => c == ' ' || c == '\t' else out)
        rest

/-- Renumbers every marker of a text. A marker without numbers left disappears, together with the
spaces before it where the text closes up. -/
def renumber (resolve : Nat → Resolution) (cs : List Char) : List Char :=
  renumberFrom resolve [] (pieces cs)

end CitedReport.Citation
