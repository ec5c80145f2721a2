import CitedReport.Relationship

/-!
# Web addresses in a query

A query may name its subject by a web address. The scheme, `www.` and the path may all be missing,
but a bare host must end in a common top-level domain, so that `node.js` is not taken for an
address. Punctuation that ends a sentence is no part of an address.
-/

namespace CitedReport.WebAddress

/-- A character of a label of a host name. -/
def isLabelChar (c : Char) : Bool :=
  Chars.isFoldedLetter c || Chars.isAsciiDigit c || c == '-'

/-- What follows a label and its point. A label neither begins nor ends with a hyphen. -/
def afterLabel? (cs : List Char) : Option (List Char) :=
  let label := cs.takeWhile isLabelChar
  if label = [] ∨ label.head? = some '-' ∨ label.getLast? = some '-' then none
  else Chars.after? ['.'] (cs.dropWhile isLabelChar)

/-- What follows the last part of a host name: at least two letters, of which at most 24 are
taken. -/
def afterTopLevel? (cs : List Char) : Option (List Char) :=
  let letters := (cs.takeWhile Chars.isFoldedLetter).length
  if letters < 2 then none else some (cs.drop (min letters 24))

/-- What follows a host name of at least one label and a last part, with as many labels as
possible. -/
def afterHost? : Nat → List Char → Option (List Char)
  | 0, _ => none
  | fuel + 1, cs =>
    match afterLabel? cs with
    | none => none
    -- further labels have precedence over an end after this one
    | some rest => (afterHost? fuel rest).or (afterTopLevel? rest)

/-- What follows a port, if there is one. -/
def afterPort (cs : List Char) : List Char :=
  match cs with
  | ':' :: rest => if rest.takeWhile Chars.isDigit = [] then cs else rest.dropWhile Chars.isDigit
  | _ => cs

/-- What follows a path, if there is one. -/
def afterPath (cs : List Char) : List Char :=
  match cs with
  | '/' :: rest => rest.dropWhile fun c => !Chars.isBlank c
  | _ => cs

/-- What follows a scheme. -/
def afterScheme? (cs : List Char) : Option (List Char) :=
  (Chars.afterFolded? "https://".toList cs).or (Chars.afterFolded? "http://".toList cs)

/-- The places where the host name may begin, in the order in which they are tried. -/
def hostStarts (cs : List Char) : List (List Char) :=
  ((afterScheme? cs).toList ++ [cs]).flatMap fun rest =>
    (Chars.afterFolded? "www.".toList rest).toList ++ [rest]

/-- The address-like text at the beginning. -/
def read? (cs : List Char) : Option (List Char) :=
  ((hostStarts cs).findSome? fun start => afterHost? start.length start).map fun rest =>
    cs.take (cs.length - (afterPath (afterPort rest)).length)

/-- Top-level domains that make a bare name an address. -/
def commonTopLevels : List (List Char) :=
  ["com", "org", "net", "io", "co", "ai", "dev", "app", "biz", "info", "edu", "gov", "tech",
    "us", "uk", "de", "fr", "nl", "ch", "se", "es", "it", "ca", "au", "in", "jp", "sg", "eu"].map
    String.toList

/-- Names of techniques that look like bare hosts. -/
def techniqueNames : List (List Char) := ["asp.net", "ado.net", "vb.net"].map String.toList

/-- What stands after the last point, or everything if there is none. -/
def lastPart (cs : List Char) : List Char :=
  (cs.reverse.takeWhile (· ≠ '.')).reverse

/-- Whether an address-like text is taken for an address. -/
def isAddress (cs : List Char) : Bool :=
  let lower := Chars.asciiLowerAll cs
  if ["http://", "https://", "www."].any fun p => (Chars.after? p.toList lower).isSome then true
  else
    let host := lower.takeWhile fun c => c != '/' && c != ':'
    if techniqueNames.contains host then false else commonTopLevels.contains (lastPart host)

/-- Punctuation that does not end an address. -/
def isClosing (c : Char) : Bool := ".,;:!?)\"'".toList.contains c

/-- The address at the beginning. -/
def address? (cs : List Char) : Option (List Char) :=
  (read? cs).bind fun text =>
    let url := Chars.dropEndWhile isClosing text
    if url ≠ [] ∧ isAddress url then some url else none

/-- A query around an address. -/
structure Found where
  /-- What stands before the address. -/
  before : List Char
  /-- The address. -/
  url : List Char
  /-- What stands after it. -/
  after : List Char

/-- The first address of a text, with what stands around it. An address begins where a word can
begin. The number counts characters to be passed over; the character before is given. -/
def findFrom : Nat → Option Char → List Char → Option Found
  | _, _, [] => none
  | skip + 1, _, c :: cs =>
    (findFrom skip (some c) cs).map fun f => { f with before := c :: f.before }
  | 0, last, c :: cs =>
    match if Relationship.wordStart last then read? (c :: cs) else none with
    | none => (findFrom 0 (some c) cs).map fun f => { f with before := c :: f.before }
    | some text =>
      -- a text that only looks like an address is passed over as a whole
      match address? (c :: cs) with
      | some url => some ⟨[], url, (c :: cs).drop url.length⟩
      | none =>
        (findFrom (text.length - 1) (some c) cs).map fun f => { f with before := c :: f.before }

/-- The first address of a query. -/
def find? (query : String) : Option Found := findFrom 0 none query.toList

end CitedReport.WebAddress
