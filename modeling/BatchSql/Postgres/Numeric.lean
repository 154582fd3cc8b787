import BatchSql.Decimal
import BatchSql.Octets

namespace BatchSql.Postgres

/-- A number in the base ten thousand: the first digit counts `10000 ^ weight`, and `scale`
decimal places are meant to be shown. -/
structure Numeric where
  weight : Int
  negative : Bool
  scale : Nat
  digits : List Nat
deriving DecidableEq, Repr

namespace Numeric

def base : Nat := 10000

/-- A decimal place has four digits of its own in each digit of the base. -/
def placesPerDigit : Nat := 4

/-- So many numbers of two octets, if there are as many octets. -/
def words? : Nat → Octets → Option (List Nat)
  | 0, _ => some []
  | n + 1, a :: b :: r => (words? n r).map (Octets.toNat [a, b] :: ·)
  | _ + 1, _ => none

/-- Count of digits, weight, sign, scale, then the digits. What comes after them does not count;
a sign of `C000` or more is that of a value which is no number. -/
def ofOctets? (bs : Octets) : Option Numeric := do
  let header ← words? 4 bs
  match header with
  | [count, _, sign, scale] =>
    if 0xC000 ≤ sign then none
    let digits ← words? count (bs.drop 8)
    pure ⟨Octets.toInt ((bs.drop 2).take 2), sign == 0x4000, scale, digits⟩
  | _ => none

def octets (n : Numeric) : Octets :=
  Octets.ofNat 2 n.digits.length ++ Octets.ofInt 2 n.weight ++
    Octets.ofNat 2 (if n.negative then 0x4000 else 0) ++ Octets.ofNat 2 n.scale ++
    n.digits.flatMap (Octets.ofNat 2)

/-- The value `mantissa / 10 ^ scale`, of either sign. -/
structure Magnitude where
  mantissa : Nat
  scale : Nat

namespace Magnitude

def bound : Nat := 2 ^ 96

/-- Gives up as few places as it takes to fit, rounding a half to even. -/
def fitted (m : Magnitude) : Option Magnitude :=
  ((List.range (m.scale + 1)).map fun k =>
    Magnitude.mk (BinaryFormat.divEven m.mantissa (10 ^ k)) (m.scale - k)).find?
      (·.mantissa < bound)

/-- The sum, as exact as it fits. -/
def add (a b : Magnitude) : Option Magnitude :=
  let scale := max a.scale b.scale
  fitted ⟨a.mantissa * 10 ^ (scale - a.scale) + b.mantissa * 10 ^ (scale - b.scale), scale⟩

/-- Appends zeros up to a number of places, as long as they fit. -/
def extend : Nat → Magnitude → Magnitude
  | 0, m => m
  | n + 1, m =>
    if m.mantissa * 10 < bound then extend n ⟨m.mantissa * 10, m.scale + 1⟩ else m

/-- So many places, where a half rounds up; fewer if no more fit. -/
def rescaled (m : Magnitude) (places : Nat) : Magnitude :=
  if places ≤ m.scale then ⟨Decimal.roundedQuotient m.mantissa (m.scale - places), places⟩
  else extend (places - m.scale) m

end Magnitude

/-- The digits before the point. Their last unit has to fit as well as their value. -/
def whole? (n : Numeric) : Option Nat :=
  let count := (n.weight + 1).toNat
  let value := (n.digits.take count).foldl (fun v d => v * base + d) 0
  let unit := base ^ (count - n.digits.length)
  if unit < Magnitude.bound ∧ value * unit < Magnitude.bound then some (value * unit) else none

/-- A digit with its decimal places: what lies beyond the last place counts by its first digit. -/
def fraction (d places : Nat) : Option Magnitude :=
  if places ≤ 28 then some ⟨d, places⟩
  else if places = 28 + placesPerDigit ∧ base ≤ 2 * d then some ⟨1, 28⟩
  else none

/-- Adds the digits after the point one by one; `places` are those of the first. -/
def addFractions (places : Nat) : Magnitude → List Nat → Option Magnitude
  | m, [] => some m
  | m, d :: ds =>
    match fraction d places with
    | some f => (m.add f).bind fun sum => addFractions (places + placesPerDigit) sum ds
    | none => addFractions (places + placesPerDigit) m ds

/-- The number with the places that are meant, 28 at most, if it fits a decimal. -/
def toDecimal? (n : Numeric) : Option Decimal := do
  let whole ← n.whole?
  let places := placesPerDigit * max 1 (-n.weight).toNat
  let sum ← addFractions places ⟨whole, 0⟩ (n.digits.drop (n.weight + 1).toNat)
  let m := sum.rescaled (min n.scale 28)
  Decimal.ofParts? n.negative m.mantissa m.scale

/-- The digits of a number, the first one not zero. -/
def digitsOf (n : Nat) : List Nat :=
  if n = 0 then [] else digitsOf (n / base) ++ [n % base]
termination_by n
decreasing_by exact Nat.div_lt_self (Nat.pos_of_ne_zero ‹_›) (by decide)

def dropTrailingZeros (ds : List Nat) : List Nat :=
  (ds.reverse.dropWhile (· == 0)).reverse

/-- The mantissa is aligned so that the point stands between two digits. Zeros after the point
are dropped from the end, unless the number is less than one. -/
def ofDecimal (d : Decimal) : Numeric :=
  if d.digits = 0 then ⟨0, false, 0, []⟩
  else
    let after := (d.scale + placesPerDigit - 1) / placesPerDigit
    let digits := digitsOf (d.digits * 10 ^ (after * placesPerDigit - d.scale))
    let weight : Int := digits.length - after - 1
    let kept :=
      if 0 ≤ weight then
        digits.take (weight + 1).toNat ++ dropTrailingZeros (digits.drop (weight + 1).toNat)
      else digits
    ⟨weight, d.negative, d.scale, kept⟩

end Numeric

end BatchSql.Postgres
