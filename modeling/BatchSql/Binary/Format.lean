import BatchSql.Power

namespace BatchSql

/-- A binary interchange format. Its finite values are `m · 2 ^ e` with `m < 2 ^ precision`
and `e` from a lowest value on. -/
structure BinaryFormat where
  precision : Nat
  exponentBits : Nat
deriving DecidableEq

namespace BinaryFormat

def double : BinaryFormat := ⟨53, 11⟩

def single : BinaryFormat := ⟨24, 8⟩

/-- One sign bit, the exponent field, and the significand without its leading one. -/
def width (f : BinaryFormat) : Nat :=
  f.exponentBits + f.precision

/-- The smallest positive value is `2 ^ -depth`. -/
def depth (f : BinaryFormat) : Nat :=
  2 ^ (f.exponentBits - 1) + f.precision - 3

/-- The magnitude of infinity; what lies above it is not a number. -/
def infinity (f : BinaryFormat) : Nat :=
  (2 ^ f.exponentBits - 1) * 2 ^ (f.precision - 1)

/-- The value `m · 2 ^ shift / 2 ^ depth`. A significand with its leading one present adds
one to the exponent field, so that fields and value are one sum. -/
def pack (f : BinaryFormat) (shift m : Nat) : Nat :=
  shift * 2 ^ (f.precision - 1) + m

/-- The pair `(shift, m)` that `pack` brings back to a finite magnitude. -/
def unpack (f : BinaryFormat) (magnitude : Nat) : Nat × Nat :=
  let field := magnitude / 2 ^ (f.precision - 1)
  if field = 0 then (0, magnitude)
  else (field - 1, magnitude % 2 ^ (f.precision - 1) + 2 ^ (f.precision - 1))

/-- The quotient rounded to a whole number, a half to the even neighbour. -/
def divEven (num den : Nat) : Nat :=
  let q := num / den
  let r := num % den
  if 2 * r < den then q
  else if den < 2 * r then q + 1
  else q + q % 2

/-- The exponent of the largest power of two that is not above a positive quotient. -/
def log2Floor (num den : Nat) : Int :=
  let e : Int := (num.log2 : Int) - den.log2
  let below :=
    if 0 ≤ e then num < den * 2 ^ e.toNat else num * 2 ^ (-e).toNat < den
  if below then e - 1 else e

/-- The magnitude nearest to a quotient: the unit is chosen so that the significand has all
its digits or is subnormal, and rounding up past the last digit carries into the exponent. -/
def round (f : BinaryFormat) (num den : Nat) : Nat :=
  if num = 0 then 0
  else
    let shift := (log2Floor num den + f.depth - (f.precision - 1)).toNat
    min (f.pack shift (divEven (num * 2 ^ f.depth) (den * 2 ^ shift))) f.infinity

end BinaryFormat

/-- A value of a format, by its bits. -/
structure Binary (f : BinaryFormat) where
  bits : BitVec f.width
deriving DecidableEq

abbrev Binary64 := Binary .double

abbrev Binary32 := Binary .single

namespace Binary

variable {f : BinaryFormat}

def negative (x : Binary f) : Bool :=
  x.bits.msb

/-- All bits but the sign. -/
def magnitude (x : Binary f) : Nat :=
  x.bits.toNat % 2 ^ (f.width - 1)

def ofMagnitude (negative : Bool) (magnitude : Nat) : Binary f :=
  ⟨BitVec.ofNat f.width ((if negative then 2 ^ (f.width - 1) else 0) + magnitude)⟩

def isNaN (x : Binary f) : Bool :=
  f.infinity < x.magnitude

def isInfinite (x : Binary f) : Bool :=
  x.magnitude == f.infinity

def isFinite (x : Binary f) : Bool :=
  x.magnitude < f.infinity

def isZero (x : Binary f) : Bool :=
  x.magnitude == 0

def zero (negative : Bool) : Binary f :=
  ofMagnitude negative 0

def infinite (negative : Bool) : Binary f :=
  ofMagnitude negative f.infinity

/-- The quiet value with no further payload. -/
def nan (negative : Bool) : Binary f :=
  ofMagnitude negative (f.infinity + 2 ^ (f.precision - 2))

/-- Numeric equality: the two zeros are equal, and a value that is not a number differs from
every value. -/
def numEq (x y : Binary f) : Bool :=
  !x.isNaN && (x == y || (x.isZero && y.isZero))

def neg (x : Binary f) : Binary f :=
  ofMagnitude (!x.negative) x.magnitude

/-- The absolute value of a finite value, as numerator and denominator. -/
def ratio (x : Binary f) : Nat × Nat :=
  let (shift, m) := f.unpack x.magnitude
  (m * 2 ^ shift, 2 ^ f.depth)

def ofRatio (negative : Bool) (num den : Nat) : Binary f :=
  ofMagnitude negative (f.round num den)

def ofInt (v : Int) : Binary f :=
  ofRatio (v < 0) v.natAbs 1

/-- The product of two finite values. -/
def mul (x y : Binary f) : Binary f :=
  let (a, b) := x.ratio
  let (c, d) := y.ratio
  ofRatio (x.negative != y.negative) (a * c) (b * d)

/-- The quotient of two finite values, the divisor not zero. -/
def div (x y : Binary f) : Binary f :=
  let (a, b) := x.ratio
  let (c, d) := y.ratio
  ofRatio (x.negative != y.negative) (a * d) (b * c)

/-- The nearest value of another format. -/
def convert {g : BinaryFormat} (x : Binary f) : Binary g :=
  if x.isNaN then nan x.negative
  else if x.isInfinite then infinite x.negative
  else ofRatio x.negative x.ratio.1 x.ratio.2

end Binary

end BatchSql
