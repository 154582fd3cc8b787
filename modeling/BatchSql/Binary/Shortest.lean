import BatchSql.Binary.Format

namespace BatchSql

/-- The number `digits · 10 ^ exponent`. -/
structure Scientific where
  digits : Nat
  exponent : Int
deriving DecidableEq, Repr

namespace Scientific

/-- Zeros at the end move into the exponent. -/
def trim (digits : Nat) (exponent : Int) : Scientific :=
  if h : digits ≠ 0 ∧ digits % 10 = 0 then trim (digits / 10) (exponent + 1)
  else ⟨digits, exponent⟩
termination_by digits
decreasing_by omega

def digitText (s : Scientific) : List Char :=
  Nat.toDigits 10 s.digits

/-- How many digits stand before the decimal point in positional notation; negative for
zeros after the point. -/
def point (s : Scientific) : Int :=
  s.digitText.length + s.exponent

/-- The digits without an exponent, with a point only where a digit follows it. -/
def positional (s : Scientific) : List Char :=
  let ds := s.digitText
  if 0 ≤ s.exponent then ds ++ List.replicate s.exponent.toNat '0'
  else if 0 < s.point then ds.take s.point.toNat ++ '.' :: ds.drop s.point.toNat
  else '0' :: '.' :: List.replicate (-s.point).toNat '0' ++ ds

end Scientific

namespace Binary

/-- The power of ten of the leading digit of a positive quotient. -/
def log10Floor (num den : Nat) : Int :=
  if den ≤ num then (Nat.toDigits 10 (num / den)).length - 1
  else
    let d := (Nat.toDigits 10 (den / num)).length
    if den ≤ num * 10 ^ (d - 1) then -(d - 1 : Nat) else -d

/-- Four times the bounds of the reals that round to a magnitude, and four times the value,
over `2 ^ depth`. Below a power of two the neighbour is half as far away. -/
structure Interval where
  low : Nat
  value : Nat
  high : Nat
  closed : Bool

def interval (f : BinaryFormat) (magnitude : Nat) : Interval :=
  let (shift, m) := f.unpack magnitude
  let below := if m = 2 ^ (f.precision - 1) ∧ 0 < shift then 1 else 2
  ⟨(4 * m - below) * 2 ^ shift, 4 * m * 2 ^ shift, (4 * m + 2) * 2 ^ shift, m % 2 == 0⟩

/-- Of the two neighbours of the value on the grid of multiples of `10 ^ exponent`, the nearer
one that reads back; a tie goes to the even one. -/
def onGrid? (f : BinaryFormat) (i : Interval) (exponent : Int) : Option Scientific :=
  let up := 10 ^ exponent.toNat * 4 * 2 ^ f.depth
  let down := 10 ^ (-exponent).toNat
  let low := i.low * down
  let value := i.value * down
  let high := i.high * down
  let within (n : Nat) : Bool :=
    if i.closed then low ≤ n * up && n * up ≤ high else low < n * up && n * up < high
  let a := value / up
  let rest := value - a * up
  let aFirst := 2 * rest < up || (2 * rest == up && a % 2 == 0)
  let (first, second) := if aFirst then (a, a + 1) else (a + 1, a)
  if within first then some (.trim first exponent)
  else if within second then some (.trim second exponent)
  else none

/-- The fewest digits that read back as a finite positive magnitude, and of those the nearest.
A format of `precision` bits never needs more than `precision` digits. -/
def shortest (f : BinaryFormat) (magnitude : Nat) : Scientific :=
  let i := interval f magnitude
  let top := log10Floor i.value (4 * 2 ^ f.depth)
  ((List.range f.precision).findSome? fun (n : Nat) => onGrid? f i (top - n)).getD ⟨0, 0⟩

end Binary

end BatchSql
