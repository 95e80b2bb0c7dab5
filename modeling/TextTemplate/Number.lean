import TextTemplate.Text

/-!
# Numbers and their text

A finite double is an integer times a power of two. All number text is made from that pair in exact
arithmetic, so what a digit is can be argued about without any floating-point operation. The text has
a fixed count of decimals (`Fixed.text`), or as few digits as read back as the same double
(`Shortest.text`).
-/

namespace TextTemplate

/-! ## Double-precision numbers, exactly -/

/-- What a double is: no number, an infinity, or `± mantissa · 2 ^ exponent`. Zero keeps its sign. -/
inductive Binary64 where
  | nan
  | infinite (negative : Bool)
  | finite (negative : Bool) (mantissa : Nat) (exponent : Int)
  deriving DecidableEq, Repr

namespace Binary64

/-- The weight of the bit above the 52 bits of a fraction, which a number of full precision has
without its being written. -/
def hiddenBit : Nat := 0x10000000000000

/-- The number that 64 bits stand for. -/
def ofBits (bits : UInt64) : Binary64 :=
  let n : Nat := bits.toNat
  let negative := n / 0x8000000000000000 == 1
  let biased : Nat := n / hiddenBit % 2048
  let fraction : Nat := n % hiddenBit
  if biased = 2047 then if fraction = 0 then .infinite negative else .nan
  else if biased = 0 then .finite negative fraction (-1074)
  else .finite negative (hiddenBit + fraction) (Int.ofNat biased - 1075)

/-- The number that a double is. -/
def ofFloat (x : Float) : Binary64 := ofBits x.toBits

/-- The quotient rounded to the nearest integer, and a half to the even one. -/
def roundDiv (n d : Nat) : Nat :=
  let q := n / d
  let twice := 2 * (n % d)
  if d < twice || (twice == d && q % 2 == 1) then q + 1 else q

/-- The double nearest to an integer; of two that are equally near, the one with even mantissa. -/
def ofInt (n : Int) : Binary64 :=
  let magnitude := n.natAbs
  let excess := magnitude.log2 - 52
  .finite (n < 0) (roundDiv magnitude (Nat.pow 2 excess)) excess

/-- The numerator and the denominator of `mantissa · 2 ^ exponent`. -/
def ratio (mantissa : Nat) (exponent : Int) : Nat × Nat :=
  match exponent with
  | .ofNat e => (mantissa * Nat.pow 2 e, 1)
  | .negSucc e => (mantissa, Nat.pow 2 (e + 1))

end Binary64

/-! ## Text without exponents

However large or small a number is, it is written out digit by digit around a decimal point. The
shapes shared by all number text are here: digits times a power of ten, the sign, and the texts of
what is no number. -/

namespace Positional

/-- Digits with a point so many places from their end, and zeros where there are too few. -/
def withPoint (places : Nat) (digits : List Char) : List Char :=
  if places = 0 then digits
  else
    let padded := Numeral.zeroPadded (places + 1) digits
    let whole := padded.length - places
    padded.take whole ++ '.' :: padded.drop whole

/-- The text of `digits · 10 ^ exponent`. -/
def scaled (digits : Nat) (exponent : Int) : List Char :=
  match exponent with
  | .ofNat e => Numeral.zeroPadded 1 (Nat.toDigits 10 (digits * Nat.pow 10 e))
  | .negSucc e => withPoint (e + 1) (Nat.toDigits 10 digits)

/-- The text of a double, given the text of the magnitude of a finite one. -/
def signed (magnitude : Nat → Int → List Char) (x : Binary64) : String :=
  let sign := fun negative ↦ if negative then ['-'] else []
  match x with
  | .nan => "NaN"
  | .infinite negative => String.ofList (sign negative ++ ['i', 'n', 'f'])
  | .finite negative m q => String.ofList (sign negative ++ magnitude m q)

end Positional

/-! ## A fixed count of decimals

The exact value is rounded once, to the nearest decimal with so many places; a half goes to the even
neighbour. -/

namespace Fixed

/-- The text of `m · 2 ^ q` with so many decimals. -/
def magnitude (places m : Nat) (q : Int) : List Char :=
  let (numerator, denominator) := Binary64.ratio m q
  Positional.withPoint places
    (Nat.toDigits 10 (Binary64.roundDiv (numerator * Nat.pow 10 places) denominator))

/-- The text of a number with so many decimals. -/
def text (places : Nat) (x : Binary64) : String := Positional.signed (magnitude places) x

end Fixed

/-! ## The shortest text

A double is written with the fewest digits that read back as the same double, and among those with
the digits nearest to its exact value. The numbers that read back as `m · 2 ^ q` form an interval
around it. Decimal grids are tried from coarse to fine; the first grid with a point in the interval
has one next to the exact value, so only two points of each grid are looked at. -/

namespace Shortest

/-- The numbers that are read as one double, over a common denominator: the double itself, the ends
of the interval, and whether the ends belong to it. -/
structure Rounding where
  low : Nat
  exact : Nat
  high : Nat
  denominator : Nat
  closed : Bool

/-- The numbers that are read as `m · 2 ^ q`. The gap below a power of two is half of the gap above
it, and a number halfway between two doubles is read as the one with even mantissa. -/
def Rounding.of (m : Nat) (q : Int) : Rounding :=
  let (unit, denominator) := Binary64.ratio 1 (q - 2)
  let below := if m = Binary64.hiddenBit then 1 else 2
  { low := (4 * m - below) * unit
    exact := 4 * m * unit
    high := (4 * m + 2) * unit
    denominator
    closed := m % 2 == 0 }

/-- Whether a fraction lies in the interval. -/
def Rounding.contains (r : Rounding) (numerator denominator : Nat) : Bool :=
  let n := numerator * r.denominator
  if r.closed then r.low * denominator ≤ n && n ≤ r.high * denominator
  else r.low * denominator < n && n < r.high * denominator

/-- The point of the grid of multiples of `10 ^ exponent` that lies in the interval and is nearest to
the exact value; of two that are equally near, the upper one. -/
def gridPoint? (r : Rounding) (exponent : Int) : Option Nat :=
  let (step, den) : Nat × Nat := match exponent with
    | .ofNat e => (Nat.pow 10 e, 1)
    | .negSucc e => (1, Nat.pow 10 (e + 1))
  let lower := r.exact * den / (r.denominator * step)
  let upper := lower + 1
  let lowerIn := r.contains (lower * step) den
  let upperIn := r.contains (upper * step) den
  let distanceBelow := r.exact * den - lower * step * r.denominator
  let distanceAbove := upper * step * r.denominator - r.exact * den
  if upperIn && (!lowerIn || distanceAbove ≤ distanceBelow) then some upper
  else if lowerIn then some lower
  else none

/-- The first grid with a point in the interval, going down from an exponent, and that point. -/
def search (r : Rounding) : Nat → Int → Option (Nat × Int)
  | 0, _ => none
  | grids + 1, exponent =>
    match gridPoint? r exponent with
    | some digits => some (digits, exponent)
    | none => search r grids (exponent - 1)

/-- An exponent of ten whose power is above `m · 2 ^ q`. -/
def startExponent (m : Nat) (q : Int) : Int := (q + m.log2 + 1) * 30103 / 100000 + 1

/-- The shortest text of `m · 2 ^ q`. -/
def magnitude (m : Nat) (q : Int) : List Char :=
  if m = 0 then ['0']
  else match search (.of m q) 20 (startExponent m q) with
    | some (digits, exponent) => Positional.scaled digits exponent
    | none => []

/-- The shortest text of a double that reads back as the same double. -/
def text (x : Float) : String := Positional.signed magnitude (.ofFloat x)

end Shortest

end TextTemplate
