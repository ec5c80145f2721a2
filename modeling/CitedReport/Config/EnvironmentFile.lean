import CitedReport.Config.Environment

/-!
# Files of variables

A file of lines `NAME=value` that adds variables to an environment, up to the first line that makes
no sense; a variable that is there already keeps its value. A value in apostrophes stands as it is;
elsewhere a backslash takes the meaning from a sign, and `$NAME` or `${NAME}` stands for the value
of a variable. Quotes can run over several lines.
-/

namespace CitedReport.EnvironmentFile

/-! ## Lines -/

/-- Where a line is with respect to quotes. -/
inductive Quoting where
  /-- Outside of quotes. -/
  | outside
  /-- Outside, after a blank, where a comment can begin. -/
  | blank
  /-- Outside, after a backslash. -/
  | escaped
  /-- In quotes. -/
  | inside (mark : Char)
  /-- In quotes, after a backslash. -/
  | insideEscaped (mark : Char)
deriving DecidableEq, Repr

/-- Where a line is after one more character. -/
def Quoting.after (q : Quoting) (c : Char) : Quoting :=
  match q with
  | .escaped => .outside
  | .insideEscaped mark => .inside mark
  | .inside mark =>
    if c = '\\' then .insideEscaped mark else if c = mark then .outside else .inside mark
  | .outside | .blank =>
    if c = '\\' then .escaped
    else if c = '"' ∨ c = '\'' then .inside c
    else if q = .outside ∧ Chars.isBlank c ∧ c ≠ '\n' ∧ c ≠ '\r' then .blank
    else .outside

/-- Where a line ends with respect to quotes, and what stands before its comment if it has one. -/
def scanLine : Quoting → List Char → Quoting × Option (List Char)
  | q, [] => (q, none)
  | q, c :: cs =>
    if q = .blank ∧ c = '#' then (.outside, some [])
    else
      let r := scanLine (q.after c) cs
      (r.1, r.2.map (c :: ·))

/-- The lines of a file with their ends. -/
def physicalLines (cs : List Char) : List (List Char) :=
  let pieces := Chars.splitOn (· == '\n') cs
  (pieces.dropLast.map (· ++ ['\n'])) ++ (pieces.drop (pieces.length - 1)).filter (· ≠ [])

/-- Drops the end of a line. -/
def dropLineEnd (cs : List Char) : List Char :=
  match cs.reverse with
  | '\n' :: rest => Chars.dropReturn rest.reverse
  | _ => cs

/-- The lines of a file, joined where quotes run on, given what is read of the current one; `none`
where quotes stay open. -/
def joinedLines : Quoting → List Char → List (List Char) → List (Option (List Char))
  | q, _, [] => if q = .outside then [] else [none]
  | q, before, line :: rest =>
    let whole := before ++ line
    -- a comment on a line of its own; quotes in it do not count
    if (Chars.trimStart whole).head? = some '#' then some [] :: joinedLines .outside [] rest
    else
      match scanLine q line with
      | (_, some kept) => some (before ++ kept) :: joinedLines .outside [] rest
      | (.outside, none) => some (dropLineEnd whole) :: joinedLines .outside [] rest
      | (q, none) => joinedLines q whole rest

/-! ## Values -/

/-- Where a value is. -/
inductive Place where
  /-- Outside of quotes, or in quotes that interpret signs. -/
  | plain (isQuoted : Bool)
  /-- After a backslash there. -/
  | escaped (isQuoted : Bool)
  /-- In the name of a variable there. -/
  | name (isQuoted : Bool) (name : List Char)
  /-- In the name of a variable in braces there. -/
  | braced (isQuoted : Bool) (name : List Char)
  /-- Between apostrophes. -/
  | literal
  /-- Behind the value. -/
  | ended

/-- The value of a variable, empty when there is none. -/
def valueOf (e : Environment) (name : List Char) : List Char :=
  ((e.get? (String.ofList name)).getD "").toList

/-- Reads a value. -/
def readValue (e : Environment) : Place → List Char → Option (List Char)
  | .plain isQuoted, [] => if isQuoted then none else some []
  | .escaped isQuoted, [] => if isQuoted then none else some []
  | .name isQuoted name, [] => if isQuoted then none else some (valueOf e name)
  | .braced _ _, [] => none
  | .literal, [] => none
  | .ended, [] => some []
  | .plain isQuoted, c :: cs =>
    if c = '$' then readValue e (.name isQuoted []) cs
    else if c = '\\' then readValue e (.escaped isQuoted) cs
    else if c = '"' then readValue e (.plain !isQuoted) cs
    else if isQuoted then (readValue e (.plain isQuoted) cs).map (c :: ·)
    else if c = '\'' then readValue e .literal cs
    else if c = ' ' ∨ c = '\t' then readValue e .ended cs
    else (readValue e (.plain isQuoted) cs).map (c :: ·)
  | .escaped isQuoted, c :: cs =>
    if c = '\\' ∨ c = '\'' ∨ c = '"' ∨ c = '$' ∨ c = ' ' then
      (readValue e (.plain isQuoted) cs).map (c :: ·)
    else if c = 'n' then (readValue e (.plain isQuoted) cs).map ('\n' :: ·)
    else none
  | .name isQuoted name, c :: cs =>
    if Chars.isAlphanumeric c then readValue e (.name isQuoted (name ++ [c])) cs
    else if c = '\x7b' ∧ name = [] then readValue e (.braced isQuoted []) cs
    else if c = '$' then (readValue e (.name isQuoted []) cs).map (valueOf e name ++ ·)
    else (readValue e (.plain isQuoted) cs).map fun rest => valueOf e name ++ c :: rest
  | .braced isQuoted name, c :: cs =>
    if c = '\x7d' then (readValue e (.plain isQuoted) cs).map (valueOf e name ++ ·)
    else readValue e (.braced isQuoted (name ++ [c])) cs
  | .literal, c :: cs =>
    if c = '\'' then readValue e (.plain false) cs else (readValue e .literal cs).map (c :: ·)
  | .ended, c :: cs =>
    if c = ' ' ∨ c = '\t' then readValue e .ended cs else if c = '#' then some [] else none

/-! ## Files -/

/-- A name at the beginning of a line. -/
def name? (cs : List Char) : Option (List Char × List Char) :=
  match cs with
  | [] => none
  | c :: _ =>
    if c.isAlpha ∨ c = '_' then
      let part := fun c : Char => c.isAlphanum || c == '_' || c == '.'
      some (cs.takeWhile part, Chars.trimStart (cs.dropWhile part))
    else none

/-- The name in front of an equals sign, perhaps after the word `export`, and what follows the
sign. -/
def assigned? (cs : List Char) : Option (List Char × List Char) := do
  let (name, rest) ← name? cs
  match rest with
  | '=' :: rest => some (name, rest)
  | _ =>
    if name = "export".toList then
      let (name, rest) ← name? rest
      match rest with
      | '=' :: rest => some (name, rest)
      | _ => none
    else none

/-- Adds the variable of a line, if the line has one. -/
def readLine (e : Environment) (line : List Char) : Option Environment := do
  let cs := Chars.trim line
  if cs = [] ∨ cs.head? = some '#' then some e
  else
    let (name, rest) ← assigned? cs
    let rest := Chars.trimStart rest
    let value ← if rest.head? = some '#' then some [] else readValue e (.plain false) rest
    let name := String.ofList name
    some (match e.get? name with
      -- a variable that is there already keeps its value
      | some _ => e
      | none => ⟨e.bindings ++ [(name, String.ofList value)]⟩)

/-- Adds the variables of lines up to the first that makes no sense. -/
def readLines (e : Environment) : List (Option (List Char)) → Environment
  | [] => e
  | none :: _ => e
  | some line :: rest =>
    match readLine e line with
    | some e => readLines e rest
    | none => e

/-- A text without the mark of its byte order in front. -/
def dropMark (cs : List Char) : List Char := (Chars.after? ['\ufeff'] cs).getD cs

/-- An environment with the variables of a file. -/
def load (e : Environment) (text : String) : Environment :=
  readLines e (joinedLines .outside [] (physicalLines (dropMark text.toList)))

end CitedReport.EnvironmentFile
