import CitedReport.Config.Section
import CitedReport.Text
import CitedReport.Toml.Scalar

/-!
# The environment

Variables, and how they name settings: a variable whose name begins with `DOSSIER_` is a setting
under the path that the rest of its name spells, with two underscores between the parts. Upper and
lower case are one, and a name with an empty part names nothing. A value is a truth word, a number,
a text in quotes, or an array or table of values; what is none of these is a text as it stands.
-/

namespace CitedReport

/-- The variables of an environment with their values. -/
structure Environment where
  /-- The variables. -/
  bindings : List (String × String) := []

namespace Environment

/-- The value of a variable. -/
def get? (e : Environment) (name : String) : Option String := e.bindings.lookup name

/-- The key in a variable; one of blanks only is none. -/
def key? (e : Environment) (name : String) : Option String :=
  (e.get? name).bind fun key => if Text.isBlank key then none else some key

/-! ## Values -/

/-- The blanks around values. -/
def isSpace (c : Char) : Bool := c == ' ' || c == '\t' || c == '\n' || c == '\r' || c == '\x0c'

/-- Drops blanks. -/
def skipSpace (cs : List Char) : List Char := cs.dropWhile isSpace

/-- Whether a character ends a value that is not in quotes. -/
def isSeparator (c : Char) : Bool :=
  c == ',' || c == '\x7b' || c == '\x7d' || c == '[' || c == ']'

/-- A whole number of at most 64 bits with a sign. -/
def wholeNumber? : List Char → Option Json
  | '-' :: cs =>
    (Word.ofDigits? cs).bind fun n => if n ≤ Word.half then some (Json.int (-(n : Int))) else none
  | cs => (Word.unsigned? cs).map Json.nat

/-- A number with a point: digits on one side of it at least, and perhaps an exponent. -/
def pointed? (cs : List Char) : Option Json := do
  let (negative, cs) := Toml.takeSign cs
  let (mantissa, written) := Toml.splitExponent? cs
  let (whole, places) ← Chars.splitFirst? ['.'] mantissa
  let exponent : Int ←
    match written with
    | none => some 0
    | some cs =>
      let (negative, cs) := Toml.takeSign cs
      if Word.areDigits cs then
        let n : Int := Word.valueOf cs
        some (if negative then -n else n)
      else none
  if !Word.areDigits (whole ++ places) then none
  let value := Word.valueOf (whole ++ places)
  return .number (.double (Binary.ofDecimal negative value (exponent - (places.length : Int))))

/-- A value that is not in quotes. -/
def bare (cs : List Char) : Json :=
  let cs := Chars.trim cs
  ((pointed? cs).or (wholeNumber? cs)).getD (.string (String.ofList cs))

/-- The characters at the beginning of a text that fit into so many bytes. -/
def takeBytes : Nat → List Char → List Char
  | _, [] => []
  | n, c :: cs => if c.utf8Size ≤ n then c :: takeBytes (n - c.utf8Size) cs else []

/-- The rest of a text in quotes, and what follows it. What stands before the first backslash is cut
to as many bytes as it has characters. -/
def quoted? (cs : List Char) : Option (String × List Char) :=
  let front := cs.takeWhile fun c => c != '"' && c != '\\'
  let kept := if cs[front.length]? = some '\\' then takeBytes front.length front else front
  (Toml.basicString cs).map fun r => (String.ofList (kept ++ r.1.drop front.length), r.2)

/-- A key in a table. -/
def tableKey? : List Char → Option (String × List Char)
  | '"' :: rest => quoted? rest
  | cs =>
    match cs.takeWhile fun c => c.isAlphanum || c == '_' || c == '-' with
    | [] => none
    | word =>
      some (String.ofList word, cs.dropWhile fun c => c.isAlphanum || c == '_' || c == '-')

mutual

/-- A value, and what follows it and the blanks behind it. -/
def readValue : Nat → List Char → Option (Json × List Char)
  | 0, _ => none
  | fuel + 1, cs =>
    let read : Option (Json × List Char) :=
      match skipSpace cs with
      | 't' :: 'r' :: 'u' :: 'e' :: rest => some (.bool true, rest)
      | 'f' :: 'a' :: 'l' :: 's' :: 'e' :: rest => some (.bool false, rest)
      | '\x7b' :: rest => (readMembers fuel rest).map fun r => (.object r.1, r.2)
      | '[' :: rest => (readItems fuel rest).map fun r => (.array r.1, r.2)
      | '"' :: rest => (quoted? rest).map fun r => (.string r.1, r.2)
      | '\'' :: c :: '\'' :: rest => some (.string (String.ofList [c]), rest)
      | '\'' :: _ => none
      | cs =>
        some (bare (cs.takeWhile fun c => !isSeparator c), cs.dropWhile fun c => !isSeparator c)
    read.map fun r => (r.1, skipSpace r.2)

/-- The items of an array up to its closing bracket. -/
def readItems : Nat → List Char → Option (List Json × List Char)
  | 0, _ => none
  | fuel + 1, cs =>
    match cs with
    | ']' :: rest => some ([], rest)
    | cs =>
      match readValue fuel cs with
      | some (v, ',' :: rest) => (readItems fuel rest).map fun r => (v :: r.1, r.2)
      | some (v, ']' :: rest) => some ([v], rest)
      | _ => none

/-- The members of a table up to its closing bracket. -/
def readMembers : Nat → List Char → Option (List (String × Json) × List Char)
  | 0, _ => none
  | fuel + 1, cs =>
    match cs with
    | '\x7d' :: rest => some ([], rest)
    | cs =>
      match (tableKey? (skipSpace cs)).map fun r => (r.1, skipSpace r.2) with
      | some (key, '=' :: rest) =>
        match readValue fuel rest with
        | some (v, ',' :: rest) => (readMembers fuel rest).map fun r => ((key, v) :: r.1, r.2)
        | some (v, '\x7d' :: rest) => some ([(key, v)], rest)
        | _ => none
      | _ => none

end

/-- The value that a text stands for. -/
def value (s : String) : Json :=
  let cs := s.toList
  match readValue (2 * cs.length + 2) cs with
  | some (v, []) => v
  | _ => .string s

/-! ## Settings -/

/-- What the names of variables for settings begin with. -/
def marker : String := "dossier_"

/-- The path of the setting that a variable names. -/
def settingPath? (name : String) : Option (List String) := do
  let rest ← Text.after? marker (Text.asciiLower (Text.trim name))
  let parts := Chars.splitOn (· == '.') (Chars.replace ['_', '_'] ['.'] (Chars.trim rest.toList))
  if parts.any (· = []) then none else some (parts.map String.ofList)

/-- The settings of an environment as a tree. -/
def settings (e : Environment) : Json :=
  e.bindings.foldl
    (fun tree v =>
      match settingPath? v.1 with
      | some path => Tree.overlay tree (Tree.nest path (value v.2))
      | none => tree)
    (.object [])

end Environment

end CitedReport
