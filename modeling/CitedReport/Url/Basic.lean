import CitedReport.Text
import CitedReport.Url.Host

/-!
# Web addresses

A web address is taken apart into scheme, user, host, port, path, query and fragment, and written in
one form only: scheme and host in lower case, no port where the scheme implies it, no dots for
segments in the path, everything percent-coded that has to be. A segment that is the letter of a
drive is not left by dots; at the beginning of a local file's path it also takes the host's place.
-/

namespace CitedReport

/-- A web address in its only form. -/
structure Url where
  /-- The scheme, in lower case. -/
  scheme : String
  /-- The user's name, coded. -/
  user : List Char := []
  /-- The user's password, coded. -/
  password : List Char := []
  /-- The host; none for addresses without one. -/
  host : Option (List Char) := none
  /-- The port, unless the scheme implies it. -/
  port : Option Nat := none
  /-- The path, with the slash in front. -/
  path : List Char := []
  /-- The query, coded. -/
  query : Option (List Char) := none
  /-- The fragment, coded. -/
  fragment : Option (List Char) := none
deriving DecidableEq, Repr

namespace Url

/-- What comes after the name of the user and of the password, if they are there. -/
def userText (u : Url) : List Char :=
  if u.user = [] ∧ u.password = [] then []
  else u.user ++ (if u.password = [] then [] else ':' :: u.password) ++ ['@']

/-- What stands between the scheme and the port: the host, or without one a segment that changes
nothing if the path could be taken for a host. -/
def hostText (u : Url) : List Char :=
  match u.host, u.path with
  | some host, _ => '/' :: '/' :: (u.userText ++ host)
  | none, '/' :: '/' :: _ => ['/', '.']
  | none, _ => []

/-- The text of an address. -/
def text (u : Url) : String :=
  String.ofList
    (u.scheme.toList ++ [':'] ++ u.hostText ++
      (match u.port with
        | some port => ':' :: Nat.toDigits 10 port
        | none => []) ++
      u.path ++
      (match u.query with
        | some query => '?' :: query
        | none => []) ++
      (match u.fragment with
        | some fragment => '#' :: fragment
        | none => []))

/-- The address without user and password. -/
def withoutUser (u : Url) : Url := { u with user := [], password := [] }

/-- The schemes of the web with the ports that they imply. -/
def webSchemes : List (String × Nat) :=
  [("http", 80), ("https", 443), ("ws", 80), ("wss", 443), ("ftp", 21)]

/-- The scheme at the beginning, in lower case, and what follows its colon. -/
def scheme? (cs : List Char) : Option (String × List Char) :=
  let isSchemeChar := fun c =>
    Chars.isAsciiLetter c || Chars.isAsciiDigit c || c == '+' || c == '-' || c == '.'
  match cs with
  | [] => none
  | c :: _ =>
    if Chars.isAsciiLetter c then
      match cs.dropWhile isSchemeChar with
      | ':' :: rest => some (String.ofList (Chars.asciiLowerAll (cs.takeWhile isSchemeChar)), rest)
      | _ => none
    else none

/-- Whether a character separates the path from what is before it. -/
def isSlash (c : Char) : Bool := c == '/' || c == '\\'

/-- Whether a character ends the part with user, host and port. -/
def endsAuthority (web : Bool) (c : Char) : Bool :=
  c == '/' || c == '?' || c == '#' || (web && c == '\\')

/-- User and password in front of the last at sign, coded. -/
def readUser (cs : List Char) : List Char × List Char :=
  let name := cs.takeWhile (· ≠ ':')
  (Part.user.encode name, Part.user.encode (cs.drop (name.length + 1)))

/-- The part of a text that names the host, and what follows it: a colon outside of brackets ends
it. -/
def spanHost : Bool → List Char → List Char × List Char
  | _, [] => ([], [])
  | inBrackets, c :: cs =>
    if c = ':' ∧ !inBrackets then ([], c :: cs)
    else
      let inside := if c = '[' then true else if c = ']' then false else inBrackets
      let r := spanHost inside cs
      (c :: r.1, r.2)

/-- The port after a host, digits after a colon, and what follows it: a backslash ends the port of
any address. -/
def readPort (implied : Option Nat) : List Char → Except UrlError (Option Nat × List Char)
  | [] => .ok (none, [])
  | _ :: cs =>
    let digits := cs.takeWhile Chars.isAsciiDigit
    let rest := cs.drop digits.length
    if rest.head?.all (· == '\\') then
      let port := digitsValue 10 digits
      if 65535 < port then .error .port
      else .ok (if digits = [] ∨ implied = some port then none else some port, rest)
    else .error .port

/-- Whether a segment of a path stands for the segment that it is in. -/
def isHere (segment : List Char) : Bool :=
  Text.lower (String.ofList segment) ∈ [".", "%2e"]

/-- Whether a segment of a path stands for the segment above. -/
def isAbove (segment : List Char) : Bool :=
  Text.lower (String.ofList segment) ∈ ["..", ".%2e", "%2e.", "%2e%2e"]

/-- Whether a segment of a path is the letter of a drive with its mark. -/
def isDrive : List Char → Bool
  | [letter, mark] => Chars.isAsciiLetter letter && (mark == ':' || mark == '|')
  | _ => false

/-- The segments of a path in reverse without the last one; the letter of a drive stays. -/
def goUp : List (List Char) → List (List Char)
  | [] => []
  | segment :: reversed => if isDrive segment then segment :: reversed else reversed

/-- What becomes of the segments of a path, in reverse, at a segment of dots. At the end of a path
dots leave a slash behind. -/
def atDots? (reversed : List (List Char)) (segment : List Char) (isLast : Bool) :
    Option (List (List Char)) :=
  let slash : List (List Char) := if isLast then [[]] else []
  if isAbove segment then some (slash ++ goUp reversed)
  else if isHere segment then some (slash ++ reversed)
  else none

/-- The segments of a path in reverse, after more segments are read. -/
def walk : List (List Char) → List (List Char) → List (List Char)
  | reversed, [] => reversed
  | reversed, segment :: rest =>
    match atDots? reversed segment rest.isEmpty with
    | some reversed => walk reversed rest
    | none => walk (Part.path.encode segment :: reversed) rest

/-- The segments of a path as they are written, given what separates them; a separator at the
beginning is there for all paths. -/
def segments (isSlash : Char → Bool) (cs : List Char) : List (List Char) :=
  Chars.splitOn isSlash (if cs.head?.any isSlash then cs.drop 1 else cs)

/-- A path of segments, given what separates them. -/
def readPath (isSlash : Char → Bool) (cs : List Char) : List Char :=
  (walk [] (segments isSlash cs)).reverse.flatMap ('/' :: ·)

/-- Whether a character belongs to the path that it is found in. -/
def inPath (c : Char) : Bool := c != '?' && c != '#'

/-- Takes in path, query and fragment, given how the path is read and the query is coded. -/
def readRest (u : Url) (coding : Part) (path : List Char → List Char) (cs : List Char) : Url :=
  let (queryText, rest) : Option (List Char) × List Char :=
    match cs.dropWhile inPath with
    | '?' :: rest => (some (rest.takeWhile (· ≠ '#')), rest.dropWhile (· ≠ '#'))
    | rest => (none, rest)
  { u with
    path := path (cs.takeWhile inPath)
    query := queryText.map coding.encode
    fragment :=
      match rest with
      | _ :: fragment => some (Part.fragment.encode fragment)
      | [] => none }

/-- User, host and port, and what follows them. -/
def readAuthority (scheme : String) (web : Bool) (cs : List Char) :
    Except UrlError (Url × List Char) := do
  let authority := cs.takeWhile fun c => !endsAuthority web c
  let rest := cs.dropWhile fun c => !endsAuthority web c
  let (user, place) : Option (List Char) × List Char :=
    match Chars.splitLast? ['@'] authority with
    | some (user, place) => (some user, place)
    | none => (none, authority)
  let (name, password) := readUser (user.getD [])
  let (hostText, portText) := spanHost false place
  let isNamed := name ≠ [] ∨ password ≠ [] ∨ (user = some [] ∧ rest ≠ [])
  -- an address of the web needs a host, and so do a port, a user, and an at sign in front of a path
  if hostText = [] ∧ (web ∨ portText ≠ [] ∨ isNamed) then .error .emptyHost
  else
    let host ← if web then readHost hostText else readOpaqueHost hostText
    let (port, leftover) ← readPort (webSchemes.lookup scheme) portText
    return ({ scheme, user := name, password, host := some host, port }, leftover ++ rest)

/-- The inside of a text: without blanks and control characters at its ends, and without tabs and
line ends. -/
def tidy (s : String) : List Char :=
  let outer := fun (c : Char) => c.toNat ≤ 32
  (Chars.dropEndWhile outer (s.toList.dropWhile outer)).filter fun c =>
    c != '\t' && c != '\n' && c != '\r'

/-! ## Local files -/

/-- The letter of a drive that a segment begins with, and what follows its mark. -/
def drive? : List Char → Option (Char × List Char)
  | letter :: mark :: more =>
    if Chars.isAsciiLetter letter ∧ (mark = ':' ∨ (mark = '|' ∧ more = [])) then some (letter, more)
    else none
  | _ => none

/-- The segments of a local file's path in reverse, after more segments are read, and whether the
path begins with a segment for a drive. What follows a drive in one segment becomes the next one,
in which dots have no meaning. -/
def walkFile : List (List Char) → List (List Char) → List (List Char) × Bool
  | reversed, [] => (reversed, false)
  | reversed, segment :: rest =>
    match atDots? reversed segment rest.isEmpty, reversed, drive? segment with
    | some reversed, _, _ => walkFile reversed rest
    | none, [], some (letter, []) => (walk [[letter, ':']] rest, true)
    | none, [], some (letter, more) => (walk [Part.path.encode more, [letter, ':']] rest, false)
    | none, _, _ => walkFile (Part.path.encode segment :: reversed) rest

/-- The path of a local file, without empty segments at its beginning, and whether it begins with a
segment for a drive. -/
def readFilePath (cs : List Char) : List Char × Bool :=
  let (reversed, hasDrive) := walkFile [] (segments isSlash cs)
  match reversed.reverse.dropWhile (· = []) with
  | [] => (['/'], hasDrive)
  | kept => (kept.flatMap ('/' :: ·), hasDrive)

/-- The host of a local file and what follows it: a drive is no host. -/
def splitFileHost (cs : List Char) : List Char × List Char :=
  match cs with
  | a :: b :: rest =>
    if isSlash a && isSlash b then
      let place := rest.takeWhile fun c => !endsAuthority true c
      if isDrive place then ([], rest) else (place, rest.drop place.length)
    else ([], cs)
  | _ => ([], cs)

/-- The address of a local file after its scheme. The host is left out where it is the one that the
file is on, or the path says so with a drive. -/
def readFile (cs : List Char) : Except UrlError Url :=
  let (place, path) := splitFileHost cs
  do
    let host ← if place = [] then pure [] else readHost place
    let u := readRest { scheme := "file" } .webQuery (fun path => (readFilePath path).1) path
    let isLocal := host = "localhost".toList || (readFilePath (path.takeWhile inPath)).2
    return { u with host := some (if isLocal then [] else host) }

/-- The address with a scheme that nothing is known of, after that scheme. -/
def readOther (scheme : String) (cs : List Char) : Except UrlError Url :=
  let read := readPath (· == '/')
  match Chars.after? ['/', '/'] cs with
  | some rest => do
    let (u, rest) ← readAuthority scheme false rest
    return u.readRest .query (fun path => if path = [] then [] else read path) rest
  | none =>
    let path := if cs.head? = some '/' then read else Part.opaquePath.encode
    return readRest { scheme } .query path cs

/-- Reads a web address. -/
def parse (s : String) : Except UrlError Url :=
  match scheme? (tidy s) with
  | none => .error .noScheme
  | some (scheme, rest) =>
    if (webSchemes.lookup scheme).isSome then do
      let (u, rest) ← readAuthority scheme true (rest.dropWhile isSlash)
      return u.readRest .webQuery (readPath isSlash) rest
    else if scheme = "file" then readFile rest
    else readOther scheme rest

/-- The address that a text without a scheme may stand for, which must be one of pages. -/
def ofLoose? (s : String) : Option Url :=
  let raw := Text.trim s
  match parse (if Text.contains "://" raw then raw else "https://" ++ raw) with
  | .ok u => if (u.scheme = "http" ∨ u.scheme = "https") ∧ u.host.isSome then some u else none
  | .error _ => none

end Url

end CitedReport
