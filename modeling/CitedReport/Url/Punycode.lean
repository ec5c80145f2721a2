import CitedReport.Chars.Basic

/-!
# Names in ASCII

A label of a domain name that is not in ASCII is written with ASCII characters alone: first those it
has, then, after a hyphen, the others in increasing order, each as the distance from the one before
in a number system whose digits end themselves. A bias that follows the distances keeps them short.
-/

namespace CitedReport.Url.Punycode

/-- A digit: letters for 0 to 25, then `0` to `9`. -/
def digit (d : Nat) : Char := if d < 26 then Char.ofNat (97 + d) else Char.ofNat (22 + d)

/-- The value of a digit in either case. -/
def digitValue? (c : Char) : Option Nat :=
  let n := (Chars.asciiLower c).toNat
  if 97 ≤ n && n ≤ 122 then some (n - 97)
  else if Chars.isAsciiDigit c then some (n - 22)
  else none

/-- Below which digit a number ends at a place. -/
def threshold (place bias : Nat) : Nat := max 1 (min 26 (place - bias))

/-- Divides a distance by 35 until it is at most 455, and counts 36 for each division. -/
def settle : Nat → Nat → Nat → Nat × Nat
  | 0, delta, k => (delta, k)
  | fuel + 1, delta, k => if 455 < delta then settle fuel (delta / 35) (k + 36) else (delta, k)

/-- The bias after a distance, when `count` characters are in place. -/
def adapt (delta count : Nat) (first : Bool) : Nat :=
  let delta := if first then delta / 700 else delta / 2
  let (delta, k) := settle 64 (delta + delta / count) 0
  k + 36 * delta / (delta + 38)

/-- The digits of a distance from a place on. -/
def writeNumber (bias : Nat) : Nat → Nat → Nat → List Char
  | 0, _, _ => []
  | fuel + 1, place, q =>
    let t := threshold place bias
    if q < t then [digit q]
    else digit (t + (q - t) % (36 - t)) :: writeNumber bias fuel (place + 36) ((q - t) / (36 - t))

/-- A writer's state. -/
structure Writer where
  /-- The distance so far. -/
  delta : Nat
  /-- The bias. -/
  bias : Nat
  /-- How many characters are in place. -/
  count : Nat
  /-- The digits so far. -/
  digits : List Char

/-- Takes a character into account while the characters with code point `n` are put in place. -/
def Writer.step (ascii n : Nat) (w : Writer) (c : Char) : Writer :=
  if c.toNat < n then { w with delta := w.delta + 1 }
  else if c.toNat = n then
    { delta := 0
      bias := adapt w.delta (w.count + 1) (w.count = ascii)
      count := w.count + 1
      digits := w.digits ++ writeNumber w.bias 64 36 w.delta }
  else w

/-- Puts all characters in place, code point by code point. -/
def writeAll (label : List Char) (ascii : Nat) : Nat → List Nat → Writer → Writer
  | _, [], w => w
  | n, m :: rest, w =>
    let w := { w with delta := w.delta + (m - n) * (w.count + 1) }
    let w := label.foldl (Writer.step ascii m) w
    writeAll label ascii (m + 1) rest { w with delta := w.delta + 1 }

/-- The written form of a label. -/
def encode (label : List Char) : List Char :=
  let ascii := label.filter fun c => c.toNat < 128
  let others := ((label.filter fun c => 128 ≤ c.toNat).map Char.toNat).mergeSort.eraseDups
  let w := writeAll label ascii.length 128 others ⟨0, 72, ascii.length, []⟩
  ascii ++ (if ascii = [] then [] else ['-']) ++ w.digits

/-- A number at the beginning, and what follows it. -/
def readNumber (bias : Nat) : Nat → Nat → Nat → List Char → Option (Nat × List Char)
  | _, _, _, [] => none
  | place, weight, value, c :: cs =>
    match digitValue? c with
    | none => none
    | some d =>
      let t := threshold place bias
      let value := value + d * weight
      if d < t then some (value, cs) else readNumber bias (place + 36) (weight * (36 - t)) value cs

/-- Puts the characters that are written as distances in place. The number bounds the reader's
steps. -/
def readAll : Nat → Nat → Nat → Nat → List Char → List Char → Option (List Char)
  | _, _, _, _, label, [] => some label
  | 0, _, _, _, _, _ => none
  | fuel + 1, bias, n, i, label, cs =>
    match readNumber bias 36 1 i cs with
    | none => none
    | some (j, rest) =>
      let count := label.length + 1
      let n := n + j / count
      -- halves of surrogate pairs are no characters
      if n < 0xD800 ∨ (0xDFFF < n ∧ n < 0x110000) then
        readAll fuel (adapt (j - i) count (i = 0)) n (j % count + 1)
          (label.insertIdx (j % count) (Char.ofNat n)) rest
      else none

/-- The label of a written form. A hyphen that nothing comes before does not set anything apart. -/
def decode? (cs : List Char) : Option (List Char) :=
  let (ascii, digits) :=
    match Chars.splitLast? ['-'] cs with
    | some (c :: before, after) => (c :: before, after)
    | _ => ([], cs)
  if ascii.all fun c => c.toNat < 128 then readAll digits.length 72 128 0 ascii digits else none

end CitedReport.Url.Punycode
