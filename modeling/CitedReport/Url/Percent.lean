import CitedReport.Chars.Basic

/-!
# Percent coding

Bytes of a web address that may not stand for themselves are written as a percent sign and two
hexadecimal digits. Which characters may depends on the part of the address; the bytes of a
character outside ASCII never may.
-/

namespace CitedReport.Url

/-- The bytes of a character in UTF-8. -/
def utf8Bytes (c : Char) : List Nat :=
  (String.singleton c).toUTF8.toList.map UInt8.toNat

/-- A hexadecimal digit in upper case. -/
def upperHexDigit (n : Nat) : Char :=
  if n < 10 then Char.ofNat (48 + n) else Char.ofNat (55 + n)

/-- A byte as a percent sign and two digits. -/
def percentByte (n : Nat) : List Char := ['%', upperHexDigit (n / 16), upperHexDigit (n % 16)]

/-- The value of a hexadecimal digit. -/
def hexValue? (c : Char) : Option Nat :=
  if Chars.isAsciiDigit c then some (c.toNat - 48)
  else
    let l := (Chars.asciiLower c).toNat
    if 97 ≤ l && l ≤ 102 then some (l - 87) else none

/-- A part of a web address, as far as it decides what is written for a character. -/
inductive Part where
  /-- The name or the password of a user. -/
  | user
  /-- A segment of the path. -/
  | path
  /-- The query. -/
  | query
  /-- The query of an address of the web. -/
  | webQuery
  /-- The fragment. -/
  | fragment
  /-- A path without segments. -/
  | opaquePath
  /-- A value in a query. -/
  | component
deriving DecidableEq, Repr

/-- Whether an ASCII character that is no control character stands for itself in a part. -/
def Part.keeps (p : Part) (c : Char) : Bool :=
  match p with
  | .fragment => !" \"<>`".toList.contains c
  | .query => !" \"#<>".toList.contains c
  | .webQuery => !" \"#<>'".toList.contains c
  | .path => !" \"<>`#?\x7b\x7d".toList.contains c
  | .user => !" \"<>`#?\x7b\x7d/:;=@[\\]^|".toList.contains c
  | .opaquePath => true
  | .component => Chars.isAsciiLetter c || Chars.isAsciiDigit c || "-_.~".toList.contains c

/-- What is written for a character. -/
def Part.encodeChar (p : Part) (c : Char) : List Char :=
  if 32 ≤ c.toNat && c.toNat < 127 && p.keeps c then [c] else (utf8Bytes c).flatMap percentByte

/-- What is written for a text. -/
def Part.encode (p : Part) (cs : List Char) : List Char := cs.flatMap p.encodeChar

/-- The bytes that a text stands for; a percent sign without two digits stands for itself. -/
def percentDecode : List Char → List Nat
  | [] => []
  | '%' :: a :: b :: cs =>
    match hexValue? a, hexValue? b with
    | some x, some y => (16 * x + y) :: percentDecode cs
    | _, _ => 37 :: percentDecode (a :: b :: cs)
  | c :: cs => utf8Bytes c ++ percentDecode cs
termination_by cs => cs.length

/-- The text that bytes are in UTF-8. -/
def ofUtf8? (bytes : List Nat) : Option (List Char) :=
  (String.fromUTF8? ⟨(bytes.map Nat.toUInt8).toArray⟩).map String.toList

end CitedReport.Url
