import CitedReport.Chars.Basic
import CitedReport.Json.Record

/-!
# Points in time and identifiers

A point in time counts seconds from the start of 1970 in universal time, and nanoseconds within the
second; a leap second is the second before it with a thousand million nanoseconds more. Its written
form is `2024-01-02T03:04:05.500Z`, with as many groups of three places as are needed; more is
accepted when it is read: other offsets, and blanks between the parts.

An identifier is a number of 128 bits written as 32 hexadecimal digits in five groups.
-/

namespace CitedReport

/-- A point in time. -/
structure Timestamp where
  /-- Whole seconds since the start of 1970. -/
  seconds : Int
  /-- Nanoseconds within the second; a leap second has more than a thousand million. -/
  nanos : Nat
deriving DecidableEq, Repr, Inhabited

namespace Timestamp

/-- The number of days from the start of 1970 to a date of the Gregorian calendar. -/
def daysOfDate (year : Int) (month day : Nat) : Int :=
  let y := if month ≤ 2 then year - 1 else year
  let era := Int.fdiv y 400
  let yoe := y - era * 400
  let mp : Int := (((month + 9) % 12 : Nat) : Int)
  let doy := (153 * mp + 2) / 5 + (day : Int) - 1
  let doe := yoe * 365 + yoe / 4 - yoe / 100 + doy
  era * 146097 + doe - 719468

/-- The date that lies a number of days after the start of 1970. -/
def dateOfDays (days : Int) : Int × Nat × Nat :=
  let z := days + 719468
  let era := Int.fdiv z 146097
  let doe := z - era * 146097
  let yoe := (doe - doe / 1460 + doe / 36524 - doe / 146096) / 365
  let doy := doe - (365 * yoe + yoe / 4 - yoe / 100)
  let mp := (5 * doy + 2) / 153
  let day := (doy - (153 * mp + 2) / 5 + 1).toNat
  let month := if mp < 10 then (mp + 3).toNat else (mp - 9).toNat
  (yoe + era * 400 + (if month ≤ 2 then 1 else 0), month, day)

/-- Whether a year has a leap day. -/
def isLeapYear (year : Int) : Bool :=
  year % 4 == 0 && (year % 100 != 0 || year % 400 == 0)

/-- The number of days of a month. -/
def daysInMonth (year : Int) (month : Nat) : Nat :=
  if month = 2 then (if isLeapYear year then 29 else 28)
  else if month = 4 ∨ month = 6 ∨ month = 9 ∨ month = 11 then 30
  else 31

/-- A number of one to `width` decimal digits. -/
def readDigits (width : Nat) (cs : List Char) : Option (Nat × List Char) :=
  let digits := (cs.take width).takeWhile Chars.isAsciiDigit
  if digits = [] then none
  else some (digits.foldl (fun n c => n * 10 + (c.toNat - 48)) 0, cs.drop digits.length)

/-- A number with blanks before it. -/
def readField (width : Nat) (cs : List Char) : Option (Nat × List Char) :=
  readDigits width (Chars.trimStart cs)

/-- A year: four digits at most, or any number of them after a sign. -/
def readYear (cs : List Char) : Option (Int × List Char) :=
  match Chars.trimStart cs with
  | '-' :: rest => (readDigits rest.length rest).map fun r => (-(r.1 : Int), r.2)
  | '+' :: rest => (readDigits rest.length rest).map fun r => ((r.1 : Int), r.2)
  | cs => (readDigits 4 cs).map fun r => ((r.1 : Int), r.2)

/-- A given character with blanks before it. -/
def readMark (mark : Char) (cs : List Char) : Option (List Char) :=
  Chars.after? [mark] (Chars.trimStart cs)

/-- A fraction of a second in nanoseconds; digits past the ninth are passed over. -/
def readNanos (cs : List Char) : Option (Nat × List Char) :=
  match cs with
  | '.' :: rest =>
    let digits := rest.takeWhile Chars.isAsciiDigit
    let kept := digits.take 9
    if digits = [] then none
    else
      some (kept.foldl (fun n c => n * 10 + (c.toNat - 48)) 0 * Nat.pow 10 (9 - kept.length),
        rest.drop digits.length)
  | _ => some (0, cs)

/-- Two decimal digits. -/
def readPair (cs : List Char) : Option (Nat × List Char) :=
  match cs with
  | a :: b :: rest =>
    if Chars.isAsciiDigit a && Chars.isAsciiDigit b then
      some ((a.toNat - 48) * 10 + (b.toNat - 48), rest)
    else none
  | _ => none

/-- An offset from universal time in seconds. -/
def readOffset (cs : List Char) : Option (Int × List Char) :=
  match Chars.afterFolded? ['u', 't', 'c'] cs with
  | some rest => some (0, rest)
  | none =>
    match cs with
    | 'z' :: rest => some (0, rest)
    | 'Z' :: rest => some (0, rest)
    | sign :: rest =>
      if sign = '+' ∨ sign = '-' ∨ sign.toNat = 0x2212 then do
        let (hours, rest) ← readPair rest
        let (minutes, rest) ← readPair (rest.dropWhile fun c => c == ':' || Chars.isBlank c)
        if 60 ≤ minutes then none
        else
          let offset : Int := ((hours * 60 + minutes) * 60 : Nat)
          some (if sign = '+' then offset else -offset, rest)
      else none
    | [] => none

/-- Whether a second is in the calendar, whose years are -262143 to 262142. -/
def inCalendar (second : Int) : Bool :=
  daysOfDate (-262143) 1 1 * 86400 ≤ second && second < daysOfDate 262143 1 1 * 86400

/-- Reads a point in time. -/
def parse? (s : String) : Option Timestamp := do
  let (year, rest) ← readYear s.toList
  let rest ← readMark '-' rest
  let (month, rest) ← readField 2 rest
  let rest ← readMark '-' rest
  let (day, rest) ← readField 2 rest
  let rest ← match rest with
    | 't' :: rest => some rest
    | 'T' :: rest => some rest
    | ' ' :: rest => some rest
    | _ => none
  let (hour, rest) ← readField 2 rest
  let rest ← readMark ':' rest
  let (minute, rest) ← readField 2 rest
  let rest ← readMark ':' rest
  let (second, rest) ← readField 2 rest
  let (nanos, rest) ← readNanos rest
  let (offset, rest) ← readOffset (Chars.trimStart rest)
  if !Chars.allBlank rest then none
  else if month = 0 ∨ 12 < month ∨ day = 0 ∨ daysInMonth year month < day then none
  else if 23 < hour ∨ 59 < minute ∨ 60 < second then none
  else if 86400 ≤ offset.natAbs then none
  else
    -- a leap second is kept as a second of twice the length
    let clock : Int := ((hour * 60 + minute) * 60 + min second 59 : Nat)
    let here := daysOfDate year month day * 86400 + clock
    -- neither the time at the place of the offset nor universal time may leave the calendar
    if inCalendar here ∧ inCalendar (here - offset) then
      some
        { seconds := here - offset
          nanos := if second = 60 then nanos + 1000000000 else nanos }
    else none

/-- A number with zeros in front up to a width. -/
def padded (width n : Nat) : String :=
  let digits := Nat.toDigits 10 n
  String.ofList (List.replicate (width - digits.length) '0' ++ digits)

/-- The places after the second, in groups of three. -/
def fractionText (nanos : Nat) : String :=
  if nanos = 0 then ""
  else if nanos % 1000000 = 0 then "." ++ padded 3 (nanos / 1000000)
  else if nanos % 1000 = 0 then "." ++ padded 6 (nanos / 1000)
  else "." ++ padded 9 nanos

/-- A year with at least four digits, and a sign outside `0000` to `9999`. -/
def yearText (year : Int) : String :=
  if 0 ≤ year ∧ year ≤ 9999 then padded 4 year.toNat
  else (if year < 0 then "-" else "+") ++ padded 4 year.natAbs

/-- The written form of a point in time. -/
def text (t : Timestamp) : String :=
  let (year, month, day) := dateOfDays (Int.fdiv t.seconds 86400)
  let clock := (Int.fmod t.seconds 86400).toNat
  let extra := t.nanos / 1000000000
  yearText year ++ "-" ++ padded 2 month ++ "-" ++ padded 2 day ++ "T" ++
    padded 2 (clock / 3600) ++ ":" ++ padded 2 (clock / 60 % 60) ++ ":" ++
    padded 2 (clock % 60 + extra) ++ fractionText (t.nanos % 1000000000) ++ "Z"

/-- The names of the months. -/
def monthNames : List String :=
  ["January", "February", "March", "April", "May", "June", "July", "August", "September", "October",
    "November", "December"]

/-- The date of a point in time in words, such as `January 2, 2024`. -/
def longDate (t : Timestamp) : String :=
  let (year, month, day) := dateOfDays (Int.fdiv t.seconds 86400)
  (monthNames[month - 1]?.getD "") ++ " " ++ toString day ++ ", " ++ yearText year

/-- Whole milliseconds from one point in time to another, rounded toward zero. -/
def millisSince (later earlier : Timestamp) : Int :=
  Int.tdiv ((later.seconds - earlier.seconds) * 1000000000 + ((later.nanos : Int) - earlier.nanos))
    1000000

/-- A point in time in JSON. -/
def toJson (t : Timestamp) : Json := .string t.text

/-- Reads a point in time. -/
def ofJson? (j : Json) : Option Timestamp := j.string?.bind parse?

end Timestamp

/-- An identifier of 128 bits. -/
structure Identifier where
  /-- Its value. -/
  value : Nat
deriving DecidableEq, Repr, Inhabited

namespace Identifier

/-- The value of a hexadecimal digit. -/
def digitValue? (c : Char) : Option Nat :=
  if Chars.isAsciiDigit c then some (c.toNat - 48)
  else
    let l := Chars.asciiLower c
    if 97 ≤ l.toNat && l.toNat ≤ 102 then some (l.toNat - 87) else none

/-- Reads 32 hexadecimal digits. -/
def ofDigits? (cs : List Char) : Option Identifier := do
  let digits ← cs.mapM digitValue?
  if digits.length = 32 then some ⟨digits.foldl (fun n d => n * 16 + d) 0⟩ else none

/-- Reads five groups of 8, 4, 4, 4 and 12 digits. -/
def ofGroups? (cs : List Char) : Option Identifier :=
  let groups := Chars.splitOn (· == '-') cs
  if groups.map List.length = [8, 4, 4, 4, 12] then ofDigits? groups.flatten else none

/-- Reads an identifier: the digits alone or in groups, the groups also in braces or after
`urn:uuid:`. -/
def parse? (s : String) : Option Identifier :=
  let cs := s.toList
  if cs.length = 32 then ofDigits? cs
  else if cs.length = 36 then ofGroups? cs
  else if cs.length = 38 then
    match cs with
    | '{' :: rest => if rest.getLast? = some '}' then ofGroups? rest.dropLast else none
    | _ => none
  else if cs.length = 45 then (Chars.after? "urn:uuid:".toList cs).bind ofGroups?
  else none

/-- The written form: five groups of lower-case digits. -/
def text (i : Identifier) : String :=
  let digits := Nat.toDigits 16 i.value
  let all := List.replicate (32 - digits.length) '0' ++ digits
  String.ofList
    (all.take 8 ++ '-' :: (all.drop 8).take 4 ++ '-' :: (all.drop 12).take 4 ++
      '-' :: (all.drop 16).take 4 ++ '-' :: all.drop 20)

/-- An identifier in JSON. -/
def toJson (i : Identifier) : Json := .string i.text

/-- Reads an identifier. -/
def ofJson? (j : Json) : Option Identifier := j.string?.bind parse?

end Identifier

end CitedReport
