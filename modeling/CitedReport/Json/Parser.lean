import CitedReport.Chars.Basic
import CitedReport.Json.Basic
import CitedReport.Number.Binary

/-!
# Reading JSON

A reader of JSON text over lists of characters: each part takes the text in front of it and gives
the rest back. The text must be well-formed to its end. Some well-formed values cannot be had:
brackets that nest more than 127 deep, strings with half a surrogate pair, numbers that are too
large. They are read as `Json.unreadable`, so that a record can pass over them in members that it
does not declare.

A number with a fraction or an exponent is read from as many of its leading digits as fit into 64
bits, multiplied or divided by a rounded power of ten.
-/

namespace CitedReport.Json

/-- The four blanks of JSON. -/
def isSpace (c : Char) : Bool :=
  c == ' ' || c == '\n' || c == '\t' || c == '\r'

/-- Drops blanks. -/
def skipSpace (cs : List Char) : List Char := cs.dropWhile isSpace

/-- The value of a hexadecimal digit. -/
def hexDigit? (c : Char) : Option Nat :=
  if Chars.isAsciiDigit c then some (c.toNat - 48)
  else if 97 ≤ c.toNat && c.toNat ≤ 102 then some (c.toNat - 87)
  else if 65 ≤ c.toNat && c.toNat ≤ 70 then some (c.toNat - 55)
  else none

/-- The value of four hexadecimal digits. -/
def hexValue? (a b c d : Char) : Option Nat := do
  let a ← hexDigit? a
  let b ← hexDigit? b
  let c ← hexDigit? c
  let d ← hexDigit? d
  return ((a * 16 + b) * 16 + c) * 16 + d

/-- The character that a one-letter escape stands for. -/
def simpleEscape? (c : Char) : Option Char :=
  if c = '"' then some '"'
  else if c = '\\' then some '\\'
  else if c = '/' then some '/'
  else if c = 'b' then some (Char.ofNat 8)
  else if c = 'f' then some (Char.ofNat 12)
  else if c = 'n' then some '\n'
  else if c = 'r' then some '\r'
  else if c = 't' then some '\t'
  else none

/-- The rest of a string up to its closing quote, as it is written, and what follows it. Control
characters are refused, and escapes of no known form. -/
def scanString : List Char → Option (List Char × List Char)
  | [] => none
  | '"' :: rest => some ([], rest)
  | '\\' :: 'u' :: a :: b :: c :: d :: rest =>
    match hexValue? a b c d with
    | none => none
    | some _ => (scanString rest).map fun r => ('\\' :: 'u' :: a :: b :: c :: d :: r.1, r.2)
  | '\\' :: c :: rest =>
    match simpleEscape? c with
    | none => none
    | some _ => (scanString rest).map fun r => ('\\' :: c :: r.1, r.2)
  | c :: rest =>
    if c.toNat < 32 then none else (scanString rest).map fun r => (c :: r.1, r.2)

/-- What a written string stands for. Surrogates must come in pairs. -/
def unescape : List Char → Option (List Char)
  | [] => some []
  | '\\' :: 'u' :: a :: b :: c :: d :: rest =>
    match hexValue? a b c d with
    | none => none
    | some n =>
      if 0xD800 ≤ n ∧ n < 0xDC00 then
        match rest with
        | '\\' :: 'u' :: e :: f :: g :: h :: rest =>
          match hexValue? e f g h with
          | none => none
          | some m =>
            if 0xDC00 ≤ m ∧ m < 0xE000 then
              (unescape rest).map
                (Char.ofNat (0x10000 + (n - 0xD800) * 1024 + (m - 0xDC00)) :: ·)
            else none
        | _ => none
      else if 0xDC00 ≤ n ∧ n < 0xE000 then none
      else (unescape rest).map (Char.ofNat n :: ·)
  | '\\' :: c :: rest =>
    match simpleEscape? c with
    | none => none
    | some e => (unescape rest).map (e :: ·)
  | c :: rest => (unescape rest).map (c :: ·)

/-- The value of a written string. -/
def stringOf (written : List Char) : Json :=
  match unescape written with
  | some cs => .string (String.ofList cs)
  | none => .unreadable

/-- Takes in decimal digits as long as the value fits into 64 bits; gives the value, the digits
taken, and the digits left over. -/
def takeDigits : Nat → List Char → Nat × Nat × List Char
  | value, [] => (value, 0, [])
  | value, c :: cs =>
    let next := value * 10 + (c.toNat - 48)
    if Word.size ≤ next then (value, 0, c :: cs)
    else
      let r := takeDigits next cs
      (r.1, r.2.1 + 1, r.2.2)

/-- The rounded power of ten. -/
def tenPower (n : Nat) : Double := Binary.ofRatio false (Nat.pow 10 n) 1

/-- Multiplies or divides by a power of ten, in steps of 308 when it is divided by a larger one;
`none` when the result is too large. -/
def scaleByTen : Nat → Double → Int → Option Double
  | 0, x, _ => some x
  | steps + 1, x, e =>
    if e.natAbs ≤ 308 then
      if 0 ≤ e then
        let y := x.mul (tenPower e.toNat)
        if y.isFinite then some y else none
      else some (x.div (tenPower (-e).toNat))
    -- a zero stays a zero, however large the exponent is
    else if x.isZero then some x
    else if 0 ≤ e then none
    else scaleByTen steps (x.div (tenPower 308)) (e + 308)

/-- The number `significand * 10 ^ exponent` with a sign. -/
def decimalNumber (negative : Bool) (significand : Nat) (exponent : Int) : Json :=
  let start : Double := Binary.ofRatio false significand 1
  match scaleByTen (exponent.natAbs / 308 + 2) start exponent with
  | some x => .number (.double (if negative then ⟨BinaryFormat.double.signWord + x.bits⟩ else x))
  | none => .unreadable

/-- The exponent at the end of a number whose significand and point are known. -/
def readExponent (negative : Bool) (significand : Nat) (exponent : Int) (cs : List Char) :
    Option (Json × List Char) :=
  let (minus, cs) : Bool × List Char :=
    match cs with
    | '+' :: rest => (false, rest)
    | '-' :: rest => (true, rest)
    | _ => (false, cs)
  let digits := cs.takeWhile Chars.isAsciiDigit
  let rest := cs.dropWhile Chars.isAsciiDigit
  let value : Nat := digits.foldl (fun n c => n * 10 + (c.toNat - 48)) 0
  if digits = [] then none
  else if 0x80000000 ≤ value then
    -- an exponent of more than 31 bits leaves nothing but a zero or a number that is too large
    some (if significand ≠ 0 ∧ !minus then .unreadable else decimalNumber negative 0 0, rest)
  else
    let exponent := if minus then exponent - value else exponent + value
    some (decimalNumber negative significand exponent, rest)

/-- The fraction and the exponent of a number, after the digits before the point. -/
def readFraction (negative : Bool) (significand : Nat) (dropped : Nat) (cs : List Char) :
    Option (Json × List Char) :=
  match cs with
  | '.' :: rest =>
    let digits := rest.takeWhile Chars.isAsciiDigit
    let rest := rest.dropWhile Chars.isAsciiDigit
    let (value, taken, _) := takeDigits significand digits
    let exponent : Int := (dropped : Int) - (taken : Int)
    if digits = [] then none
    else
      match rest with
      | 'e' :: rest => readExponent negative value exponent rest
      | 'E' :: rest => readExponent negative value exponent rest
      | _ => some (decimalNumber negative value exponent, rest)
  | 'e' :: rest => readExponent negative significand dropped rest
  | 'E' :: rest => readExponent negative significand dropped rest
  | _ =>
    if dropped = 0 then
      if !negative then some (.number (.natural significand), cs)
      -- minus zero, and what is too large for a word with a sign
      else if significand = 0 ∨ Word.half < significand then
        some (decimalNumber true significand 0, cs)
      else some (.number (.negative significand), cs)
    else some (decimalNumber negative significand dropped, cs)

/-- A number: no zeros in front of other digits. -/
def readNumber (cs : List Char) : Option (Json × List Char) :=
  let (negative, cs) : Bool × List Char :=
    match cs with
    | '-' :: rest => (true, rest)
    | _ => (false, cs)
  let digits := cs.takeWhile Chars.isAsciiDigit
  let rest := cs.dropWhile Chars.isAsciiDigit
  match digits with
  | [] => none
  | '0' :: _ :: _ => none
  | _ =>
    let (value, _, left) := takeDigits 0 digits
    readFraction negative value left.length rest

/-- A value in brackets, inside which `depth` counts the brackets that may still open. -/
def bracketed : Nat → Json → Json
  | 0, _ => .unreadable
  | _ + 1, v => v

/-- The object of written keys and values. -/
def objectOf (members : List (List Char × Json)) : Json :=
  match members.mapM fun m => (unescape m.1).map fun k => (String.ofList k, m.2) with
  | some members => .object members
  | none => .unreadable

mutual

/-- A value inside which `depth` further brackets may open, and what follows it. -/
def readValue : Nat → Nat → List Char → Option (Json × List Char)
  | 0, _, _ => none
  | fuel + 1, depth, cs =>
    match skipSpace cs with
    | 'n' :: 'u' :: 'l' :: 'l' :: rest => some (.null, rest)
    | 't' :: 'r' :: 'u' :: 'e' :: rest => some (.bool true, rest)
    | 'f' :: 'a' :: 'l' :: 's' :: 'e' :: rest => some (.bool false, rest)
    | '"' :: rest => (scanString rest).map fun r => (stringOf r.1, r.2)
    | '[' :: rest =>
      match skipSpace rest with
      | ']' :: rest => some (bracketed depth (.array []), rest)
      | _ => (readItems fuel (depth - 1) rest).map fun r => (bracketed depth (.array r.1), r.2)
    | '{' :: rest =>
      match skipSpace rest with
      | '}' :: rest => some (bracketed depth (.object []), rest)
      | _ => (readMembers fuel (depth - 1) rest).map fun r => (bracketed depth (objectOf r.1), r.2)
    | cs => readNumber cs

/-- The items of an array up to its closing bracket. -/
def readItems : Nat → Nat → List Char → Option (List Json × List Char)
  | 0, _, _ => none
  | fuel + 1, depth, cs =>
    match readValue fuel depth cs with
    | none => none
    | some (v, rest) =>
      match skipSpace rest with
      | ',' :: rest => (readItems fuel depth rest).map fun r => (v :: r.1, r.2)
      | ']' :: rest => some ([v], rest)
      | _ => none

/-- The members of an object up to its closing bracket, with their keys as they are written. -/
def readMembers : Nat → Nat → List Char → Option (List (List Char × Json) × List Char)
  | 0, _, _ => none
  | fuel + 1, depth, cs =>
    match skipSpace cs with
    | '"' :: rest =>
      match scanString rest with
      | none => none
      | some (key, rest) =>
        match skipSpace rest with
        | ':' :: rest =>
          match readValue fuel depth rest with
          | none => none
          | some (v, rest) =>
            match skipSpace rest with
            | ',' :: rest => (readMembers fuel depth rest).map fun r => ((key, v) :: r.1, r.2)
            | '}' :: rest => some ([(key, v)], rest)
            | _ => none
        | _ => none
    | _ => none

end

/-- The deepest nesting of brackets that is read. -/
def maxDepth : Nat := 127

/-- Reads a whole text as one value. -/
def parse? (s : String) : Option Json :=
  let cs := s.toList
  match readValue (2 * cs.length + 2) maxDepth cs with
  | some (v, rest) => if skipSpace rest = [] then some v else none
  | none => none

/-- Reads a whole text as a value of no fixed form. -/
def Sorted.parse? (s : String) : Option Sorted :=
  (Json.parse? s).bind Sorted.of?

end CitedReport.Json
