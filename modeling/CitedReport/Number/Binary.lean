import CitedReport.Chars.Classes

/-!
# Binary numbers, exactly

Whole numbers that are kept in words of 64 bits, and numbers in binary floating point. Counts are
added in words, where a sum that does not fit starts again from zero.

A floating-point number is a word of bits in some format; everything about it is computed on natural
numbers, with no rounding but the one that is asked for: `ofRatio` takes the nearest representable
number of a fraction (a tie goes to the even word), and `shortest` finds the fewest decimal
digits that read back as the same number.
-/

namespace CitedReport

namespace Word

/-! ## Words of 64 bits -/

/-- The number of words: the first whole number that is too large for one. -/
def size : Nat := 0x10000000000000000

/-- The first whole number that is too large for a word with a sign. -/
def half : Nat := 0x8000000000000000

/-- The value of decimal digits. -/
def valueOf (digits : List Char) : Nat := digits.foldl (fun n c => n * 10 + (c.toNat - 48)) 0

/-- Whether a text is ASCII digits and nothing else. -/
def areDigits (cs : List Char) : Bool := cs ≠ [] && cs.all Chars.isAsciiDigit

/-- The number that digits stand for, if it fits. Digits of other scripts stand for no number. -/
def ofDigits? (cs : List Char) : Option Nat :=
  if areDigits cs ∧ valueOf cs < size then some (valueOf cs) else none

/-- The number that digits stand for, a plus sign in front allowed. -/
def unsigned? : List Char → Option Nat
  | '+' :: cs => ofDigits? cs
  | cs => ofDigits? cs

/-- A word stands for a number. -/
instance numberOfWord : Coe UInt64 Nat := ⟨UInt64.toNat⟩

/-- A number is kept in a word as what it leaves on division by the number of words. -/
instance wordOfNumber : Coe Nat UInt64 := ⟨UInt64.ofNat⟩

end Word

/-! ## Floating point -/

/-- How the bits of a word are divided: fraction bits below, exponent bits above them, then the
sign. -/
structure BinaryFormat where
  /-- Bits of the fraction. -/
  fraction : Nat
  /-- Bits of the exponent. -/
  exponent : Nat
deriving DecidableEq, Repr

/-- The 64-bit format. -/
def BinaryFormat.double : BinaryFormat := ⟨52, 11⟩

/-- The 32-bit format. -/
def BinaryFormat.single : BinaryFormat := ⟨23, 8⟩

/-- A number in a binary format, given by its word. -/
structure Binary (f : BinaryFormat) where
  /-- The word. -/
  bits : Nat
deriving DecidableEq, Repr

/-- A 64-bit floating-point number. -/
abbrev Double := Binary .double

/-- A 32-bit floating-point number. -/
abbrev Single := Binary .single

namespace BinaryFormat

/-- The word of the sign bit alone. -/
def signWord (f : BinaryFormat) : Nat := Nat.pow 2 (f.fraction + f.exponent)

/-- The word of positive infinity; larger magnitudes are not numbers. -/
def infinityWord (f : BinaryFormat) : Nat := (Nat.pow 2 f.exponent - 1) * Nat.pow 2 f.fraction

/-- The exponent of the last place of the smallest numbers. -/
def lowest (f : BinaryFormat) : Int :=
  1 - ((Nat.pow 2 (f.exponent - 1) - 1 : Nat) : Int) - (f.fraction : Int)

end BinaryFormat

/-- Multiplies a fraction, given as numerator and denominator, by a power of a base. -/
def scaleRatio (base : Nat) (power : Int) (r : Nat × Nat) : Nat × Nat :=
  if 0 ≤ power then (r.1 * Nat.pow base power.toNat, r.2)
  else (r.1, r.2 * Nat.pow base (-power).toNat)

/-- The nearest whole number of a fraction; a half goes to the even neighbour. -/
def roundHalfEven (num den : Nat) : Nat :=
  let q := num / den
  let r := num % den
  if 2 * r < den then q
  else if den < 2 * r then q + 1
  else if q % 2 = 0 then q else q + 1

/-- The largest power of two that is at most a positive fraction. -/
def floorLog2 (num den : Nat) : Int :=
  let e : Int := (Nat.log2 num : Int) - (Nat.log2 den : Int)
  let s := scaleRatio 2 (-e) (num, den)
  if s.2 ≤ s.1 then e else e - 1

/-- The number of decimal digits of a natural number. -/
def decimalLength (n : Nat) : Nat := (Nat.toDigits 10 n).length

/-- The largest power of ten that is at most a positive fraction. -/
def floorLog10 (num den : Nat) : Int :=
  let e : Int := (decimalLength num : Int) - (decimalLength den : Int)
  let s := scaleRatio 10 (-e) (num, den)
  if s.2 ≤ s.1 then e else e - 1

namespace Binary

variable {f : BinaryFormat}

/-- The word nearest to a fraction, infinity when the fraction is too large. -/
def wordOfRatio (f : BinaryFormat) (num den : Nat) : Nat :=
  if num = 0 then 0
  else
    -- the last place of the nearest numbers, which is never finer than the finest
    let q := max (floorLog2 num den - (f.fraction : Int)) f.lowest
    let s := scaleRatio 2 (-q) (num, den)
    -- a carry runs from the fraction into the exponent, and from the largest number to infinity
    min ((q - f.lowest).toNat * Nat.pow 2 f.fraction + roundHalfEven s.1 s.2) f.infinityWord

/-- The number nearest to a fraction with a sign. -/
def ofRatio (negative : Bool) (num den : Nat) : Binary f :=
  ⟨(if negative then f.signWord else 0) + wordOfRatio f num den⟩

/-- Whether the sign bit is set. -/
def negative (x : Binary f) : Bool := f.signWord ≤ x.bits

/-- The word without its sign. -/
def magnitude (x : Binary f) : Nat := if x.negative then x.bits - f.signWord else x.bits

/-- Whether this is a number and not an infinity or a not-a-number. -/
def isFinite (x : Binary f) : Bool := x.magnitude < f.infinityWord

/-- Whether this is a zero of either sign. -/
def isZero (x : Binary f) : Bool := x.magnitude == 0

/-- The magnitude as a whole number of units `2 ^ q`, together with `q`. -/
def parts (x : Binary f) : Nat × Int :=
  let field := x.magnitude / Nat.pow 2 f.fraction
  let fraction := x.magnitude % Nat.pow 2 f.fraction
  if field = 0 then (fraction, f.lowest)
  else (fraction + Nat.pow 2 f.fraction, f.lowest + (field - 1 : Nat))

/-- The magnitude as a fraction. -/
def ratio (x : Binary f) : Nat × Nat := scaleRatio 2 x.parts.2 (x.parts.1, 1)

/-- Whether this is a not-a-number. -/
def isNaN (x : Binary f) : Bool := f.infinityWord < x.magnitude

/-- Infinity with a sign. -/
def infinity (negative : Bool) : Binary f :=
  ⟨(if negative then f.signWord else 0) + f.infinityWord⟩

/-- A not-a-number. -/
def nan : Binary f := ⟨f.infinityWord + Nat.pow 2 (f.fraction - 1)⟩

/-- The nearest number in another format. -/
def convert {g : BinaryFormat} (x : Binary f) : Binary g :=
  if x.isFinite then ofRatio x.negative x.ratio.1 x.ratio.2
  else if x.isNaN then nan
  else infinity x.negative

/-- The number nearest to `d * 10 ^ k` with a sign. Far outside the range no power of ten is
taken. -/
def ofDecimal (negative : Bool) (d : Nat) (k : Int) : Binary f :=
  let top := (decimalLength d : Int) + k
  if d = 0 ∨ top < -400 then ofRatio negative 0 1
  else if 400 < top then infinity negative
  else
    let s := scaleRatio 10 k (d, 1)
    ofRatio negative s.1 s.2

/-- The rounded product of two magnitudes, with the sign of the first. -/
def mul (x y : Binary f) : Binary f :=
  ofRatio x.negative (x.ratio.1 * y.ratio.1) (x.ratio.2 * y.ratio.2)

/-- The rounded quotient of two magnitudes, with the sign of the first. -/
def div (x y : Binary f) : Binary f :=
  ofRatio x.negative (x.ratio.1 * y.ratio.2) (x.ratio.2 * y.ratio.1)

/-- The ends of the interval of fractions that round to this number, over four times the unit: twice
the unit above, and as much below unless the number is a power of two with a nearer neighbour
below. -/
def interval (x : Binary f) : Nat × Nat :=
  let (m, q) := x.parts
  -- below a power of two the neighbours are half as far apart as above it
  let nearer := m = Nat.pow 2 f.fraction ∧ f.lowest < q
  (if nearer then 4 * m - 1 else 4 * m - 2, 4 * m + 2)

/-- Whether `d * 10 ^ k` rounds to this number. The ends belong to the interval of an even word. -/
def reads (x : Binary f) (d : Nat) (k : Int) : Bool :=
  let (m, q) := x.parts
  let ends := x.interval
  let s := scaleRatio 2 (2 - q) (scaleRatio 10 k (d, 1))
  if m % 2 = 0 then ends.1 * s.2 ≤ s.1 && s.1 ≤ ends.2 * s.2
  else ends.1 * s.2 < s.1 && s.1 < ends.2 * s.2

/-- The neighbour of this number on the grid of multiples of `10 ^ k` that rounds to it, the nearer
one if both do and the even one if they are equally near. -/
def onGrid? (x : Binary f) (k : Int) : Option Nat :=
  let s := scaleRatio 10 (-k) x.ratio
  let d := s.1 / s.2
  match x.reads d k, x.reads (d + 1) k with
  | true, true => some (roundHalfEven s.1 s.2)
  | true, false => some d
  | false, true => some (d + 1)
  | false, false => none

/-- Searches the grids of `n`, `n + 1`, … digits. -/
def searchGrids (x : Binary f) (top : Int) : Nat → Nat → Nat × Int
  -- seventeen digits always suffice, so this is not reached
  | 0, n => (x.ratio.1 / x.ratio.2, top - n)
  | tries + 1, n =>
    match x.onGrid? (top - n) with
    | some d => (d, top - n)
    | none => searchGrids x top tries (n + 1)

/-- Moves the zeros at the end of a decimal into its exponent. -/
def dropZeros : Nat → Nat → Int → Nat × Int
  | 0, d, k => (d, k)
  | fuel + 1, d, k => if d % 10 = 0 ∧ d ≠ 0 then dropZeros fuel (d / 10) (k + 1) else (d, k)

/-- The fewest decimal digits that read back as this number, as `digits * 10 ^ exponent`. -/
def shortest (x : Binary f) : Nat × Int :=
  if x.isZero then (0, 0)
  else
    let r := x.searchGrids (floorLog10 x.ratio.1 x.ratio.2) 17 0
    dropZeros 20 r.1 r.2

end Binary

/-- When a decimal is written without an exponent, and how. -/
structure DecimalStyle where
  /-- The most digits before the point. -/
  widest : Int
  /-- The fewest places that the point may stand before the first digit, as a negative number. -/
  deepest : Int
  /-- Whether whole numbers end in `.0`. -/
  pointed : Bool

/-- Numbers of 64 bits in JSON: positional up to sixteen digits and down to five places. -/
def DecimalStyle.jsonDouble : DecimalStyle := ⟨16, -5, true⟩

/-- Numbers of 32 bits in JSON: positional up to thirteen digits and down to six places. -/
def DecimalStyle.jsonSingle : DecimalStyle := ⟨13, -6, true⟩

/-- Always positional, and whole numbers without a point. -/
def DecimalStyle.plain : DecimalStyle := ⟨10000, -10000, false⟩

/-- Always positional, and whole numbers with a point. -/
def DecimalStyle.pointedPlain : DecimalStyle := ⟨10000, -10000, true⟩

/-- The text of `d * 10 ^ k`. -/
def DecimalStyle.render (style : DecimalStyle) (d : Nat) (k : Int) : String :=
  let digits := Nat.toDigits 10 d
  let n : Int := digits.length
  let point := n + k
  if d = 0 then (if style.pointed then "0.0" else "0")
  else if 0 ≤ k ∧ point ≤ style.widest then
    String.ofList (digits ++ List.replicate k.toNat '0') ++ (if style.pointed then ".0" else "")
  else if 0 < point ∧ point ≤ style.widest then
    String.ofList (digits.take point.toNat ++ '.' :: digits.drop point.toNat)
  else if style.deepest < point ∧ point ≤ 0 then
    "0." ++ String.ofList (List.replicate (-point).toNat '0' ++ digits)
  else
    String.ofList (digits.take 1) ++
      (if n = 1 then "" else "." ++ String.ofList (digits.drop 1)) ++
      (if 0 < point then "e+" else "e-") ++ toString (point - 1).natAbs

namespace Binary

variable {f : BinaryFormat}

/-- The text of a finite number: its sign and its fewest digits. -/
def render (style : DecimalStyle) (x : Binary f) : String :=
  (if x.negative then "-" else "") ++ style.render x.shortest.1 x.shortest.2

/-- The plain text of a number, with words for what is not finite. -/
def text (x : Binary f) : String :=
  if x.isNaN then "NaN"
  else if x.isFinite then x.render .plain
  else if x.negative then "-inf" else "inf"

end Binary

end CitedReport
