import CitedReport.Citation.Marker

/-!
# Notes

A note is what research has found about one question group: a body, and below its last `### Sources`
heading a list of numbered sources that the body's citations refer to.
-/

namespace CitedReport

/-- An entry of a note's own list of sources. -/
structure NoteSource where
  /-- The number by which the body refers to it. -/
  number : Nat
  /-- Where the source is. -/
  url : String
  /-- What it is. -/
  description : Option String
deriving DecidableEq, Repr

/-- A note in its two parts. -/
structure Note where
  /-- The text. -/
  body : String
  /-- The list of sources. -/
  sources : List NoteSource
deriving DecidableEq, Repr

namespace Note

/-- The heading above a note's list of sources. -/
def sourcesHeading : String := "### Sources"

/-- A description without the dashes, colons and bars that separate it from what stands before. -/
def cleanDescription (cs : List Char) : List Char :=
  Chars.trim ((Chars.trim cs).dropWhile fun c =>
    c == '-' || c == ':' || c == '|' || c.toNat == 0x2013 || c.toNat == 0x2014)

/-- A text, if there is one. -/
def nonempty? (cs : List Char) : Option String :=
  if cs = [] then none else some (String.ofList cs)

/-- The number of a source line and what follows it: `[3]`, `3.` or `3)`, with a bullet before it or
without. -/
def readNumber? (line : List Char) : Option (List Char × List Char) :=
  let cs := line.dropWhile Chars.isBlank
  let cs :=
    match cs with
    | '-' :: rest => rest.dropWhile Chars.isBlank
    | '*' :: rest => rest.dropWhile Chars.isBlank
    | _ => cs
  match cs with
  | '[' :: rest =>
    match rest.takeWhile Chars.isDigit, rest.dropWhile Chars.isDigit with
    | [], _ => none
    | digits, ']' :: rest => some (digits, rest)
    | _, _ => none
  | _ =>
    match cs.takeWhile Chars.isDigit, cs.dropWhile Chars.isDigit with
    | [], _ => none
    | digits, '.' :: rest => some (digits, rest)
    | digits, ')' :: rest => some (digits, rest)
    | _, _ => none

/-- What a source line says after its number, without a colon before it; a colon that nothing
follows is itself what the line says. -/
def entryText (rest : List Char) : List Char :=
  match rest.dropWhile Chars.isBlank with
  | [':'] => [':']
  | ':' :: rest => Chars.trim rest
  | rest => Chars.trimEnd rest

/-- A link `[title](url)` at the beginning, with what follows it: title, URL, rest. -/
def readLink? (cs : List Char) : Option (List Char × List Char × List Char) :=
  match cs with
  | '[' :: rest =>
    let title := rest.takeWhile (· ≠ ']')
    match rest.dropWhile (· ≠ ']') with
    | ']' :: '(' :: rest =>
      let inUrl := fun c => c != ')' && !Chars.isBlank c
      match rest.takeWhile inUrl, rest.dropWhile inUrl with
      | [], _ => none
      | url, ')' :: rest => some (title, url, rest)
      | _, _ => none
    | _ => none
  | _ => none

/-- The URL and the description of an entry that is a link. -/
def linkEntry (title url trailing : List Char) : List Char × Option String :=
  let title := Chars.trim title
  (url, if title ≠ [] ∧ title ≠ url then nonempty? title else nonempty? (cleanDescription trailing))

/-- The URL and what stands after it: in angle brackets, or up to the first blank. -/
def splitUrl (cs : List Char) : List Char × List Char :=
  let plain :=
    (cs.takeWhile fun c => !Chars.isBlank c, (cs.dropWhile fun c => !Chars.isBlank c).drop 1)
  match cs with
  | '<' :: rest =>
    match rest.dropWhile (· ≠ '>') with
    | _ :: after => (rest.takeWhile (· ≠ '>'), after)
    | [] => plain
  | _ => plain

/-- Reads a line of a list of sources. -/
def readSource? (line : List Char) : Option NoteSource := do
  let (digits, rest) ← readNumber? line
  let text := entryText rest
  let number ← Citation.index? digits
  match readLink? text with
  | some (title, url, trailing) =>
    let entry := linkEntry title url trailing
    return ⟨number, String.ofList entry.1, entry.2⟩
  | none =>
    let parts := splitUrl text
    let url ← nonempty? (Chars.trim parts.1)
    return ⟨number, url, nonempty? (cleanDescription parts.2)⟩

/-- Takes a note apart at its last heading; without one it is all body. -/
def parse (note : String) : Note :=
  match Chars.splitLast? sourcesHeading.toList note.toList with
  | none => ⟨note, []⟩
  | some (body, block) =>
    ⟨String.ofList (Chars.trimEnd body), (Chars.lines block).filterMap readSource?⟩

/-- The entries that citations can refer to: of entries with one number the first counts. -/
def firstEntries : List NoteSource → List NoteSource
  | [] => []
  | e :: rest => e :: (firstEntries rest).filter (fun e' => e'.number ≠ e.number)

/-- The entry that a number refers to. -/
def entry? (n : Note) (number : Nat) : Option NoteSource :=
  n.sources.find? fun e => e.number = number

end Note

end CitedReport
