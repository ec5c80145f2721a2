import CitedReport.Toml.Scalar
import CitedReport.Toml.Table

/-!
# Reading TOML

A reader of whole documents. Inline tables are built by the same rules as a document's dotted keys.
Brackets nest at most 79 deep, and a dotted key has at most 79 parts.
-/

namespace CitedReport.Toml

/-! ## Keys -/

/-- Whether a character can stand in a key without quotes. -/
def isKeyPart (c : Char) : Bool := c.isAlphanum || c == '_' || c == '-'

/-- One part of a key. -/
def simpleKey? : List Char → Option (String × List Char)
  | '"' :: rest => (basicString rest).map fun r => (String.ofList r.1, r.2)
  | '\'' :: rest => (literalString rest).map fun r => (String.ofList r.1, r.2)
  | cs =>
    match cs.takeWhile isKeyPart with
    | [] => none
    | word => some (String.ofList word, cs.dropWhile isKeyPart)

/-- The parts of a key with points between them, and blanks around them. -/
def keyParts? : Nat → List Char → Option (List String × List Char)
  | 0, _ => none
  | fuel + 1, cs => do
    let (part, rest) ← simpleKey? (skipSpace cs)
    match skipSpace rest with
    | '.' :: rest => (keyParts? fuel rest).map fun r => (part :: r.1, r.2)
    | rest => some ([part], rest)

/-- A limit of nesting: neither brackets nor the parts of a key reach it. -/
def depthLimit : Nat := 80

/-- A key. -/
def key? (cs : List Char) : Option (List String × List Char) :=
  (keyParts? (cs.length + 1) cs).bind fun r => if r.1.length < depthLimit then some r else none

/-! ## Values -/

mutual

/-- A value inside which `depth` further brackets may open, and what follows it. -/
def readValue : Nat → Nat → List Char → Option (Json × List Char)
  | 0, _, _ => none
  | fuel + 1, depth, cs =>
    match cs with
    | '[' :: rest =>
      match depth with
      | 0 => none
      | depth + 1 => (readItems fuel depth rest).map fun r => (.array r.1, r.2)
    | '\x7b' :: rest =>
      match depth with
      | 0 => none
      | depth + 1 =>
        match skipSpace rest with
        | '\x7d' :: rest => some (.object [], rest)
        | rest => (readMembers fuel depth [] rest).map fun r => (r.1.toJson, r.2)
    | cs => scalar? cs

/-- The items of an array up to its closing bracket; a comma may follow the last. -/
def readItems : Nat → Nat → List Char → Option (List Json × List Char)
  | 0, _, _ => none
  | fuel + 1, depth, cs =>
    match skipLines false cs with
    | ']' :: rest => some ([], rest)
    | cs =>
      match readValue fuel depth cs with
      | none => none
      | some (v, rest) =>
        match skipLines false rest with
        | ',' :: rest => (readItems fuel depth rest).map fun r => (v :: r.1, r.2)
        | ']' :: rest => some ([v], rest)
        | _ => none

/-- The members of an inline table up to its closing bracket, put into the table that there is so
far. -/
def readMembers : Nat → Nat → Members → List Char → Option (Members × List Char)
  | 0, _, _, _ => none
  | fuel + 1, depth, m, cs =>
    match key? cs with
    | some (path, '=' :: rest) =>
      match readValue fuel depth (skipSpace rest) with
      | none => none
      | some (v, rest) =>
        match m.put path v with
        | none => none
        | some m =>
          match skipSpace rest with
          | ',' :: rest => readMembers fuel depth m rest
          | '\x7d' :: rest => some (m, rest)
          | _ => none
    | _ => none

end

/-- A value in a document. -/
def value? (cs : List Char) : Option (Json × List Char) :=
  readValue (2 * cs.length + 2) (depthLimit - 1) cs

/-! ## Documents -/

/-- A document as far as it is read. -/
structure Draft where
  /-- The keys of the last header. -/
  header : List String := []
  /-- The tables. -/
  tables : Members := []

namespace Draft

/-- Opens something under the last of a header's keys, and the lines that follow belong to it. -/
def opened (d : Draft) (path : List String) (enter : String → Members → Option Members) :
    Option Draft := do
  let key ← path.getLast?
  let tables ← d.tables.change path.dropLast (enter key)
  return { header := path, tables }

/-- Puts in a value under a key in the last header's table. -/
def put (d : Draft) (path : List String) (v : Json) : Option Draft :=
  (d.tables.change d.header fun m => m.put path v).map fun tables => { d with tables }

end Draft

/-- One line, which is not empty, and what follows it. -/
def readLine (d : Draft) (cs : List Char) : Option (Draft × List Char) :=
  match cs with
  | '[' :: '[' :: rest =>
    match key? rest with
    | some (path, ']' :: ']' :: rest) => do
      let rest ← lineEnd? rest
      let d ← d.opened path fun key m => m.openRow key
      return (d, rest)
    | _ => none
  | '[' :: rest =>
    match key? rest with
    | some (path, ']' :: rest) => do
      let rest ← lineEnd? rest
      let d ← d.opened path fun key m => m.openTable key
      return (d, rest)
    | _ => none
  | cs =>
    match key? cs with
    | some (path, '=' :: rest) => do
      let (v, rest) ← value? (skipSpace rest)
      let rest ← lineEnd? rest
      let d ← d.put path v
      return (d, rest)
    | _ => none

/-- All lines. -/
def readLines : Nat → Draft → List Char → Option Draft
  | 0, _, _ => none
  | fuel + 1, d, cs =>
    match skipSpace cs with
    | [] => some d
    | c :: rest =>
      if c = '#' ∨ c = '\n' ∨ c = '\r' then (lineEnd? (c :: rest)).bind (readLines fuel d)
      else (readLine d (c :: rest)).bind fun r => readLines fuel r.1 r.2

/-- Reads a whole document, before which a byte order mark may stand. -/
def parse? (s : String) : Option Json :=
  let cs :=
    match s.toList with
    | '\uFEFF' :: rest => rest
    | cs => cs
  (readLines (cs.length + 1) {} cs).map fun d => d.tables.toJson

end CitedReport.Toml
