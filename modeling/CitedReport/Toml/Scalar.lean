import CitedReport.Json.Parser

/-!
# Scalars in TOML

Strings, numbers, truth words and dates, and the blanks and comments between them. Each reader takes
the text in front of it and gives the rest back. Strings are read character by character; every
other scalar is one word, which is taken whole and then recognised.
-/

namespace CitedReport.Toml

/-! ## Blanks and comments -/

/-- The two blanks inside a line. -/
def isSpace (c : Char) : Bool := c == ' ' || c == '\t'

/-- Drops blanks inside a line. -/
def skipSpace (cs : List Char) : List Char := cs.dropWhile isSpace

/-- Whether a character may stand in a comment or between quotes. -/
def isPlain (c : Char) : Bool := c == '\t' || (32 ≤ c.toNat && c.toNat ≠ 127)

/-- What follows the end of a line. -/
def newLine? : List Char → Option (List Char)
  | '\n' :: rest => some rest
  | '\r' :: '\n' :: rest => some rest
  | _ => none

/-- What follows a line of which only blanks and a comment are left. -/
def lineEnd? (cs : List Char) : Option (List Char) :=
  let rest :=
    match skipSpace cs with
    | '#' :: rest => rest.dropWhile isPlain
    | rest => rest
  if rest = [] then some [] else newLine? rest

/-- Drops blanks, ends of lines and comments. In a comment, which the flag tells of, everything
goes up to the end of the line. -/
def skipLines : Bool → List Char → List Char
  | _, [] => []
  | inComment, c :: cs =>
    if c = '\n' then skipLines false cs
    else if c = '\r' then
      match cs with
      | '\n' :: _ => skipLines false cs
      | _ => c :: cs
    else if inComment then (if isPlain c then skipLines true cs else c :: cs)
    else if c = '#' then skipLines true cs
    else if isSpace c then skipLines false cs
    else c :: cs

/-! ## Strings -/

/-- The character that a one-letter escape stands for. -/
def simpleEscape? (c : Char) : Option Char := if c = '/' then none else Json.simpleEscape? c

/-- The character with a number, unless that is half a surrogate pair or beyond the last. -/
def character? (n : Nat) : Option Char :=
  if n < 0xD800 ∨ (0xE000 ≤ n ∧ n < 0x110000) then some (Char.ofNat n) else none

/-- The character of four hexadecimal digits. -/
def shortEscape? (a b c d : Char) : Option Char := (Json.hexValue? a b c d).bind character?

/-- The character of eight hexadecimal digits. -/
def longEscape? (a b c d e f g h : Char) : Option Char := do
  let high ← Json.hexValue? a b c d
  let low ← Json.hexValue? e f g h
  character? (high * 65536 + low)

/-- Puts a character before what a reader has read. -/
def cons (c : Char) (r : List Char × List Char) : List Char × List Char := (c :: r.1, r.2)

/-- The rest of a string with escapes, up to its closing quote. -/
def basicString : List Char → Option (List Char × List Char)
  | [] => none
  | '"' :: rest => some ([], rest)
  | '\\' :: 'u' :: a :: b :: c :: d :: rest =>
    match shortEscape? a b c d with
    | some x => (basicString rest).map (cons x)
    | none => none
  | '\\' :: 'U' :: a :: b :: c :: d :: e :: f :: g :: h :: rest =>
    match longEscape? a b c d e f g h with
    | some x => (basicString rest).map (cons x)
    | none => none
  | '\\' :: c :: rest =>
    match simpleEscape? c with
    | some x => (basicString rest).map (cons x)
    | none => none
  | c :: rest => if isPlain c then (basicString rest).map (cons c) else none

/-- The rest of a string without escapes, up to its closing apostrophe. -/
def literalString : List Char → Option (List Char × List Char)
  | [] => none
  | '\'' :: rest => some ([], rest)
  | c :: rest => if isPlain c then (literalString rest).map (cons c) else none

/-- The end of a string over several lines, after three quotes: up to two quotes before the closing
three belong to the string. -/
def closeLong (quote : Char) (rest : List Char) : List Char × List Char :=
  match rest with
  | c :: d :: more =>
    if c = quote ∧ d = quote then ([quote, quote], more)
    else if c = quote then ([quote], d :: more)
    else ([], c :: d :: more)
  | [c] => if c = quote then ([quote], []) else ([], [c])
  | [] => ([], [])

/-- The rest of a string with escapes over several lines. After a backslash at the end of a line,
which the flag tells of, blanks and ends of lines are dropped. -/
def longBasicString : Bool → List Char → Option (List Char × List Char)
  | _, [] => none
  | _, '"' :: '"' :: '"' :: rest => some (closeLong '"' rest)
  | _, '\\' :: 'u' :: a :: b :: c :: d :: rest =>
    match shortEscape? a b c d with
    | some x => (longBasicString false rest).map (cons x)
    | none => none
  | _, '\\' :: 'U' :: a :: b :: c :: d :: e :: f :: g :: h :: rest =>
    match longEscape? a b c d e f g h with
    | some x => (longBasicString false rest).map (cons x)
    | none => none
  | _, '\\' :: c :: rest =>
    match simpleEscape? c with
    | some x => (longBasicString false rest).map (cons x)
    | none => if (newLine? (skipSpace (c :: rest))).isSome then longBasicString true rest else none
  | skipping, '\r' :: '\n' :: rest =>
    if skipping then longBasicString true rest else (longBasicString false rest).map (cons '\n')
  | skipping, c :: rest =>
    if skipping ∧ (isSpace c ∨ c = '\n') then longBasicString true rest
    else if c = '\n' ∨ isPlain c then (longBasicString false rest).map (cons c)
    else none

/-- The rest of a string without escapes over several lines. -/
def longLiteralString : List Char → Option (List Char × List Char)
  | [] => none
  | '\'' :: '\'' :: '\'' :: rest => some (closeLong '\'' rest)
  | '\r' :: '\n' :: rest => (longLiteralString rest).map (cons '\n')
  | c :: rest =>
    if c = '\n' ∨ isPlain c then (longLiteralString rest).map (cons c) else none

/-- Drops the end of a line right after an opening quote. -/
def dropNewLine (cs : List Char) : List Char := (newLine? cs).getD cs

/-- A string of any of the four kinds. -/
def string? : List Char → Option (List Char × List Char)
  | '"' :: '"' :: '"' :: rest => longBasicString false (dropNewLine rest)
  | '"' :: rest => basicString rest
  | '\'' :: '\'' :: '\'' :: rest => longLiteralString (dropNewLine rest)
  | '\'' :: rest => literalString rest
  | _ => none

/-! ## Numbers -/

/-- Whether a text is digits, the first of them not missing, with at most one underscore between
two. -/
def isDigits (digit : Char → Bool) : List Char → Bool
  | [] => false
  | [c] => digit c
  | c :: '_' :: rest => digit c && isDigits digit rest
  | c :: rest => digit c && isDigits digit rest

/-- The value of digits in a base; underscores do not count. -/
def valueOf (base : Nat) (cs : List Char) : Nat :=
  (cs.filterMap Json.hexDigit?).foldl (fun n d => n * base + d) 0

/-- A sign in front of a number, and the rest. -/
def takeSign : List Char → Bool × List Char
  | '-' :: rest => (true, rest)
  | '+' :: rest => (false, rest)
  | cs => (false, cs)

/-- Whether a text is decimal digits with no zero in front of others. -/
def isWhole (cs : List Char) : Bool :=
  isDigits Chars.isAsciiDigit cs && (cs = ['0'] || cs.head? ≠ some '0')

/-- A whole number of 64 bits with a sign. -/
def wholeOf? (negative : Bool) (n : Nat) : Option Json :=
  if negative then (if n ≤ Word.half then some (Json.int (-(n : Int))) else none)
  else if n < Word.half then some (.nat n) else none

/-- A whole number in a base. -/
def basedNumber? (base : Nat) (digit : Char → Bool) (cs : List Char) : Option Json :=
  if isDigits digit cs then wholeOf? false (valueOf base cs) else none

/-- A whole number: in base ten with a sign, or in another base. -/
def wholeNumber? : List Char → Option Json
  | '0' :: 'x' :: cs => basedNumber? 16 (fun c => (Json.hexDigit? c).isSome) cs
  | '0' :: 'o' :: cs => basedNumber? 8 (fun c => '0' ≤ c && c ≤ '7') cs
  | '0' :: 'b' :: cs => basedNumber? 2 (fun c => c == '0' || c == '1') cs
  | cs =>
    let (negative, digits) := takeSign cs
    if isWhole digits then wholeOf? negative (valueOf 10 digits) else none

/-- What stands before and after the exponent sign of a number. -/
def splitExponent? (cs : List Char) : List Char × Option (List Char) :=
  match Chars.splitFirst? ['e'] cs, Chars.splitFirst? ['E'] cs with
  | some (before, after), _ => (before, some after)
  | none, some (before, after) => (before, some after)
  | none, none => (cs, none)

/-- The exponent that a text writes, zero if it is not there. -/
def exponent? : Option (List Char) → Option Int
  | none => some 0
  | some cs =>
    let (negative, digits) := takeSign cs
    if isDigits Chars.isAsciiDigit digits then
      some (if negative then -(valueOf 10 digits : Int) else valueOf 10 digits)
    else none

/-- A number with a fraction or an exponent; one that is too large is refused. -/
def fraction? (cs : List Char) : Option Json := do
  let (negative, cs) := takeSign cs
  let (mantissa, written) := splitExponent? cs
  let exponent ← exponent? written
  let x : Double ←
    match Chars.splitFirst? ['.'] mantissa with
    | some (whole, places) =>
      if isWhole whole ∧ isDigits Chars.isAsciiDigit places then
        some (Binary.ofDecimal negative (valueOf 10 (whole ++ places))
          (exponent - ((places.filter Chars.isAsciiDigit).length : Int)))
      else none
    | none =>
      if isWhole mantissa ∧ written.isSome then
        some (Binary.ofDecimal negative (valueOf 10 mantissa) exponent)
      else none
  if x = Binary.infinity false then none else some (.number (.double x))

/-- The words for numbers that are not finite. -/
def infinite? (cs : List Char) : Option Json :=
  let (negative, word) := takeSign cs
  if word = "inf".toList then some (.number (.double (Binary.infinity negative)))
  else if word = "nan".toList then some (.number (.double Binary.nan))
  else none

/-! ## Dates -/

/-- A number of so many digits within bounds, and the rest. -/
def field? (digits low high : Nat) (cs : List Char) : Option (Nat × List Char) :=
  let written := cs.take digits
  if written.length = digits ∧ written.all Chars.isAsciiDigit ∧ low ≤ valueOf 10 written ∧
      valueOf 10 written ≤ high then some (valueOf 10 written, cs.drop digits)
  else none

/-- The days of a month. -/
def daysIn (year month : Nat) : Nat :=
  if month = 2 then (if year % 4 = 0 ∧ (year % 100 ≠ 0 ∨ year % 400 = 0) then 29 else 28)
  else if month = 4 ∨ month = 6 ∨ month = 9 ∨ month = 11 then 30 else 31

/-- What follows a date. -/
def date? (cs : List Char) : Option (List Char) := do
  let (year, cs) ← field? 4 0 9999 cs
  let cs ← Chars.after? ['-'] cs
  let (month, cs) ← field? 2 1 12 cs
  let cs ← Chars.after? ['-'] cs
  let (_, cs) ← field? 2 1 (daysIn year month) cs
  return cs

/-- What follows a time of day. -/
def time? (cs : List Char) : Option (List Char) := do
  let (_, cs) ← field? 2 0 23 cs
  let cs ← Chars.after? [':'] cs
  let (_, cs) ← field? 2 0 59 cs
  let cs ← Chars.after? [':'] cs
  let (_, cs) ← field? 2 0 60 cs
  match cs with
  | '.' :: c :: rest =>
    if Chars.isAsciiDigit c then some (rest.dropWhile Chars.isAsciiDigit) else none
  | cs => some cs

/-- Whether a text is an offset from universal time. -/
def isOffset : List Char → Bool
  | ['Z'] => true
  | ['z'] => true
  | c :: cs =>
    (c = '+' || c = '-') &&
      ((do
        let (_, cs) ← field? 2 0 23 cs
        let cs ← Chars.after? [':'] cs
        let (_, cs) ← field? 2 0 59 cs
        return cs) = some [])
  | [] => false

/-- Whether a text is a time of day, perhaps with an offset. -/
def isOffsetTime (cs : List Char) : Bool :=
  match time? cs with
  | some rest => rest = [] || isOffset rest
  | none => false

/-- Whether a text is a date, a time, or both. -/
def isDate (cs : List Char) : Bool :=
  match date? cs with
  | some [] => true
  | some (c :: rest) => (c = 'T' || c = 't' || c = ' ') && isOffsetTime rest
  | none => time? cs = some []

/-- The name of the only member of a date. -/
def dateKey : String := "date"

/-! ## Words -/

/-- Whether a character can stand in a word. -/
def isWordPart (c : Char) : Bool :=
  c.isAlphanum || c == '_' || c == '+' || c == '-' || c == '.' || c == ':'

/-- A word, together with the one behind a blank if the two are a date and a time. -/
def takeWord (cs : List Char) : List Char × List Char :=
  let first := cs.takeWhile isWordPart
  let rest := cs.dropWhile isWordPart
  match rest with
  | ' ' :: more =>
    let both := first ++ ' ' :: more.takeWhile isWordPart
    if isDate both then (both, more.dropWhile isWordPart) else (first, rest)
  | _ => (first, rest)

/-- The value of a word. -/
def ofWord? (word : List Char) : Option Json :=
  if word = "true".toList then some (.bool true)
  else if word = "false".toList then some (.bool false)
  else if isDate word then some (.object [(dateKey, .string (String.ofList word))])
  else (wholeNumber? word).or ((fraction? word).or (infinite? word))

/-- A scalar. -/
def scalar? (cs : List Char) : Option (Json × List Char) :=
  match cs with
  | [] => none
  | c :: _ =>
    if c = '"' ∨ c = '\'' then (string? cs).map fun r => (.string (String.ofList r.1), r.2)
    else
      let (word, rest) := takeWord cs
      (ofWord? word).map fun v => (v, rest)

end CitedReport.Toml
