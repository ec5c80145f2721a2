import CitedReport.Json.Printer
import CitedReport.Number.Binary
import CitedReport.Text

/-!
# TOML text

How a tree of tables is written: each table under its header, its values in lines of their own,
tables inside it after them, and an empty line between two tables. Keys are taken to need no quotes.
A string is written in the first of four ways that does without escapes, if there is one.
-/

namespace CitedReport.Toml

/-! ## Strings -/

/-- The length of the longest run of a character, given how many of them stand in front. -/
def longestRun (mark : Char) : Nat → List Char → Nat
  | run, [] => run
  | run, c :: cs =>
    if c = mark then longestRun mark (run + 1) cs else max run (longestRun mark 0 cs)

/-- Whether a character is a control character other than a tab and the end of a line. -/
def isControl (c : Char) : Bool :=
  (c.toNat < 32 && c ≠ '\t' && c ≠ '\n') || c.toNat = 127

/-- The ways to write a string. -/
inductive Quotation where
  /-- In quotes, with escapes. -/
  | basic
  /-- In apostrophes, as it stands. -/
  | literal
  /-- In three quotes, with escapes. -/
  | longBasic
  /-- In three apostrophes, as it stands. -/
  | longLiteral
deriving DecidableEq, Repr

namespace Quotation

/-- What stands on both sides of a string. -/
def delimiter : Quotation → List Char
  | .basic => ['"']
  | .literal => ['\'']
  | .longBasic => ['"', '"', '"']
  | .longLiteral => ['\'', '\'', '\'']

/-- How many quotes may stand side by side without an escape. -/
def quotesInside : Quotation → Nat
  | .longBasic => 2
  | _ => 0

/-- Whether a string can run over several lines. -/
def isLong : Quotation → Bool
  | .longBasic | .longLiteral => true
  | _ => false

/-- The way to write a string: the first one that needs no escapes, and if there is none, the one
with escapes for as many lines as there are. -/
def of (cs : List Char) : Quotation :=
  let lines := cs.contains '\n'
  let controls := cs.any isControl
  let escapes := controls || cs.contains '\\'
  let quotes := longestRun '"' 0 cs
  let apostrophes := longestRun '\'' 0 cs
  if !escapes && quotes = 0 && !lines then .basic
  else if !controls && apostrophes = 0 && !lines then .literal
  else if !escapes && quotes ≤ 2 then .longBasic
  else if !controls && apostrophes ≤ 2 then .longLiteral
  else if lines then .longBasic
  else .basic

end Quotation

/-- How a character that is no quote stands in a string with escapes; in one of several lines the
end of a line stands as it is. -/
def escapeChar (long : Bool) (c : Char) : List Char :=
  if c = '\n' then (if long then [c] else ['\\', 'n'])
  else if c = '\\' then ['\\', '\\']
  else if c = '\r' then ['\\', 'r']
  else if c = '\t' then ['\\', 't']
  else if c.toNat = 8 then ['\\', 'b']
  else if c.toNat = 12 then ['\\', 'f']
  else if isControl c then
    let digits := (Nat.toDigits 16 c.toNat).map Char.toUpper
    ['\\', 'u'] ++ List.replicate (4 - digits.length) '0' ++ digits
  else [c]

/-- The inside of a string with escapes, given how many quotes stand in front without one. Of quotes
side by side only those are escaped that would be too many. -/
def escaped (q : Quotation) : Nat → List Char → List Char
  | _, [] => []
  | run, c :: cs =>
    if c = '"' then
      if run < q.quotesInside then c :: escaped q (run + 1) cs
      else '\\' :: c :: escaped q 0 cs
    else escapeChar q.isLong c ++ escaped q 0 cs

/-- A string in quotes. -/
def quoted (s : String) : String :=
  let cs := s.toList
  let q := Quotation.of cs
  let inside :=
    match q with
    | .literal | .longLiteral => cs
    | .basic | .longBasic => escaped q 0 cs
  -- an end of a line right after the opening quotes does not count
  let opening := if q.isLong && cs.contains '\n' then ['\n'] else []
  String.ofList (q.delimiter ++ opening ++ inside ++ q.delimiter)

/-! ## Values -/

/-- A number of 64 bits. -/
def doubleText (x : Double) : String :=
  if x.isNaN then "nan"
  else if x.isFinite then x.render .pointedPlain
  else if x.negative then "-inf" else "inf"

/-- A value in a line; one of 32 bits is written as the one of 64 bits that it is. -/
def valueText : Json → String
  | .string s => quoted s
  | .number (.double x) => doubleText x
  | .number (.single x) => doubleText x.convert
  | v => v.compact

/-! ## Tables -/

/-- The lines of the members that are no tables. -/
def lines : List (String × Json) → List String
  | [] => []
  | (_, .object _) :: rest => lines rest
  | (key, v) :: rest => (key ++ " = " ++ valueText v) :: lines rest

/-- The header of a table. -/
def headerLine (path : List String) : String := "[" ++ Text.join "." path ++ "]"

mutual

/-- The tables of a value, as lists of lines: its own, which is left out if it holds only tables,
and those inside it. -/
def tablesOf (path : List String) : Json → List (List String)
  | .object members =>
    (if lines members = [] ∧ members ≠ [] then [] else [headerLine path :: lines members]) ++
      innerTables path members
  | _ => []

/-- The tables among members. -/
def innerTables (path : List String) : List (String × Json) → List (List String)
  | [] => []
  | (key, v) :: rest => tablesOf (path ++ [key]) v ++ innerTables path rest

end

/-- The text of some lines, each of them ended. -/
def endLines (ls : List String) : String := String.join (ls.map (· ++ "\n"))

mutual

/-- Whether a value can be written: a whole number must have a place among those of 64 bits with a
sign. -/
def isWritable : Json → Bool
  | .number (.natural n) => n < Word.half
  | .array items => areWritable items
  | .object members => membersWritable members
  | _ => true

/-- Whether all values of a list can be written. -/
def areWritable : List Json → Bool
  | [] => true
  | v :: rest => isWritable v && areWritable rest

/-- Whether the values of all members can be written. -/
def membersWritable : List (String × Json) → Bool
  | [] => true
  | (_, v) :: rest => isWritable v && membersWritable rest

end

/-- The text of a document that holds only tables. -/
def document? (tables : List (String × Json)) : Option String :=
  if membersWritable tables then some (Text.join "\n" ((innerTables [] tables).map endLines))
  else none

end CitedReport.Toml
