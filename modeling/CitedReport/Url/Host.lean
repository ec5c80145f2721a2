import CitedReport.Url.Domain.Basic
import CitedReport.Url.Percent

/-!
# Hosts

What a web address names the host by: a domain name, an address of four bytes, or one of eight
16-bit pieces in brackets. A domain name whose last label is a number must be an address of four
bytes, in any of the ways to write one.
-/

namespace CitedReport

/-- Why a text is no web address. -/
inductive UrlError where
  /-- There is no scheme. -/
  | noScheme
  /-- There is no host. -/
  | emptyHost
  /-- The port is no number of 16 bits. -/
  | port
  /-- An address of four bytes is wrong. -/
  | ipv4
  /-- An address in brackets is wrong. -/
  | ipv6
  /-- A character cannot stand in the name of a host. -/
  | domainCharacter
  /-- A domain name is wrong. -/
  | domainName
deriving DecidableEq, Repr, Inhabited

/-- What the user is told. -/
def UrlError.message : UrlError → String
  | .noScheme => "relative URL without a base"
  | .emptyHost => "empty host"
  | .port => "invalid port number"
  | .ipv4 => "invalid IPv4 address"
  | .ipv6 => "invalid IPv6 address"
  | .domainCharacter => "invalid domain character"
  | .domainName => "invalid international domain name"

namespace Url

/-! ## Addresses of four bytes -/

/-- The value of digits in a base. -/
def digitsValue (base : Nat) (cs : List Char) : Nat :=
  cs.foldl (fun n c => n * base + (hexValue? c).getD 0) 0

/-- A number in one of three bases: after `0x` sixteen, after `0` eight, otherwise ten. -/
def addressNumber? (cs : List Char) : Option Nat :=
  let (base, digits) : Nat × List Char :=
    match cs with
    | '0' :: 'x' :: rest => (16, rest)
    | '0' :: 'X' :: rest => (16, rest)
    | '0' :: c :: rest => (8, c :: rest)
    | _ => (10, cs)
  if cs = [] then none
  else if digits.all fun c => (hexValue? c).any (· < base) then some (digitsValue base digits)
  else none

/-- The labels of a name, without an empty one at the end. -/
def labels (name : List Char) : List (List Char) :=
  let all := Chars.splitOn (· == '.') name
  if all.getLast? = some [] then all.dropLast else all

/-- Whether the last label of a name is a number. -/
def endsInNumber (name : List Char) : Bool :=
  match (labels name).getLast? with
  | none => false
  | some last => (last ≠ [] && last.all Chars.isAsciiDigit) || (addressNumber? last).isSome

/-- Reads an address of four bytes; the last number fills all bytes that the others leave. -/
def ipv4? (name : List Char) : Option Nat :=
  let parts := labels name
  if 4 < parts.length then none
  else
    match parts.mapM addressNumber? with
    | none => none
    | some numbers =>
      match numbers.getLast? with
      | none => none
      | some last =>
        let front := numbers.dropLast
        -- the last number stands for all the bytes that the numbers before it leave
        if Nat.pow 256 (4 - front.length) ≤ last ∨ front.any (255 < ·) then none
        else some (front.zipIdx.foldl (fun n p => n + p.1 * Nat.pow 256 (3 - p.2)) last)

/-- An address of four bytes in the usual form. -/
def ipv4Text (n : Nat) : List Char :=
  List.intercalate ['.'] ([24, 16, 8, 0].map fun s => Nat.toDigits 10 (n / Nat.pow 2 s % 256))

/-! ## Addresses of eight pieces -/

/-- A piece of one to four hexadecimal digits, and what follows it. -/
def piece? (cs : List Char) : Option (Nat × List Char) :=
  let digits := (cs.take 4).takeWhile fun c => (hexValue? c).isSome
  if digits = [] then none else some (digitsValue 16 digits, cs.drop digits.length)

/-- A number below 256 in the usual form. -/
def byte? (cs : List Char) : Option Nat :=
  match cs with
  | [] => none
  | '0' :: _ :: _ => none
  | _ =>
    if cs.all Chars.isAsciiDigit then
      let n := digitsValue 10 cs
      if n < 256 then some n else none
    else none

/-- The two pieces of an address of four bytes at the end. -/
def embedded? (cs : List Char) : Option (List Nat) :=
  match (Chars.splitOn (· == '.') cs).mapM byte? with
  | some [a, b, c, d] => some [a * 256 + b, c * 256 + d]
  | _ => none

/-- Pieces with colons between them. -/
def pieces? (cs : List Char) : Option (List Nat) :=
  let parts := Chars.splitOn (· == ':') cs
  match parts.getLast? with
  | none => none
  | some last =>
    let read := fun (p : List Char) =>
      match piece? p with
      | some (n, []) => some [n]
      | _ => none
    do
      let front ← parts.dropLast.mapM read
      let back ← (read last).or (embedded? last)
      return front.flatten ++ back

/-- Pieces, or nothing at all. -/
def piecesOrNone? (cs : List Char) : Option (List Nat) := if cs = [] then some [] else pieces? cs

/-- Reads an address of eight pieces, of which two colons leave out one or more zeros. -/
def ipv6? (cs : List Char) : Option (List Nat) :=
  match Chars.splitFirst? [':', ':'] cs with
  | none =>
    match pieces? cs with
    | some ps => if ps.length = 8 then some ps else none
    | none => none
  | some (before, after) => do
    let front ← piecesOrNone? before
    let back ← piecesOrNone? after
    if before.contains '.' ∨ 8 ≤ front.length + back.length then none
    else some (front ++ List.replicate (8 - front.length - back.length) 0 ++ back)

/-- How many zeros a list begins with. -/
def leadingZeros (ps : List Nat) : Nat := (ps.takeWhile (· == 0)).length

/-- The position and the length of the first of the longest runs of zeros; the first position is
`i`. -/
def longestZeros (i : Nat) : List Nat → Nat × Nat
  | [] => (i, 0)
  | p :: ps =>
    let here := leadingZeros (p :: ps)
    let later := longestZeros (i + 1) ps
    -- of runs of one length the first counts
    if later.2 ≤ here then (i, here) else later

/-- Pieces in hexadecimal digits with colons between them. -/
def piecesText (ps : List Nat) : List Char :=
  List.intercalate [':'] (ps.map (Nat.toDigits 16))

/-- An address of eight pieces; the longest run of two or more zeros is left out. -/
def ipv6Text (ps : List Nat) : List Char :=
  let (start, length) := longestZeros 0 ps
  if length < 2 then piecesText ps
  else piecesText (ps.take start) ++ [':', ':'] ++ piecesText (ps.drop (start + length))

/-! ## Hosts of addresses -/

/-- The host of an address whose scheme is known to the web, in the form it is written in. -/
def readHost (cs : List Char) : Except UrlError (List Char) :=
  match cs with
  | '[' :: rest =>
    if rest.getLast? = some ']' then
      match ipv6? rest.dropLast with
      | some ps => .ok ('[' :: (ipv6Text ps ++ [']']))
      | none => .error .ipv6
    else .error .ipv6
  | _ =>
    match (ofUtf8? (percentDecode cs)).bind Domain.toAscii? with
    | none => .error .domainName
    | some domain =>
      if domain = [] then .error .emptyHost
      else if endsInNumber domain then
        match ipv4? domain with
        | some n => .ok (ipv4Text n)
        | none => .error .ipv4
      else .ok domain

/-- The host of an address with any other scheme. -/
def readOpaqueHost (cs : List Char) : Except UrlError (List Char) :=
  match cs with
  | '[' :: _ => readHost cs
  | _ =>
    if cs.any fun c => c.toNat = 0 || " #/:<>?@[\\]^|".toList.contains c then
      .error .domainCharacter
    else
      .ok (cs.flatMap fun c =>
        if 32 ≤ c.toNat && c.toNat < 127 then [c] else (utf8Bytes c).flatMap percentByte)

end Url

end CitedReport
