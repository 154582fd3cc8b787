import BatchSql.Binary.Text

namespace BatchSql

/-- The number `digits / 10 ^ scale` with a sign, which a zero can have too. Numbers that are equal
with different scales differ in their text. -/
structure Decimal where
  negative : Bool
  digits : Nat
  scale : Nat
  digits_lt : digits < 2 ^ 96
  scale_le : scale ≤ 28
deriving DecidableEq

namespace Decimal

open Text

def maxScale : Nat := 28

def ofParts? (negative : Bool) (digits scale : Nat) : Option Decimal :=
  if h : digits < 2 ^ 96 ∧ scale ≤ 28 then some ⟨negative, digits, scale, h.1, h.2⟩ else none

/-- A zero made of an integer has no sign. -/
def of? (mantissa : Int) (scale : Nat) : Option Decimal :=
  ofParts? (mantissa < 0) mantissa.natAbs scale

def mantissa (d : Decimal) : Int :=
  if d.negative then -(d.digits : Int) else d.digits

def numEq (a b : Decimal) : Bool :=
  a.mantissa * 10 ^ b.scale == b.mantissa * 10 ^ a.scale

/-- As many digits after the point as the scale says, and at least one before it. -/
def text (d : Decimal) : List Char :=
  let ds := padded (d.scale + 1) d.digits
  let whole := ds.take (ds.length - d.scale)
  let unsigned := if d.scale = 0 then whole else whole ++ '.' :: ds.drop (ds.length - d.scale)
  if d.negative then '-' :: unsigned else unsigned

/-- The quotient by a power of ten, where a half rounds up. -/
def roundedQuotient (n places : Nat) : Nat :=
  (n + 10 ^ places / 2) / 10 ^ places

/-- What has been read of a decimal text: the digits so far, how many of them stand after the
point, and whether the point and any digit were seen. -/
structure Reading where
  digits : Nat
  scale : Nat
  pointed : Bool
  started : Bool

namespace Reading

def bound : Nat := 2 ^ 96

/-- A zero that is read has no sign. -/
def finish (negative : Bool) (digits scale : Nat) : Option Decimal :=
  ofParts? (negative && digits != 0) digits scale

/-- Ends at a full mantissa, rounding by the next digit. A mantissa that overflows in rounding
gives up its last digit. -/
def roundBy (negative : Bool) (s : Reading) (d : Nat) : Option Decimal :=
  if d < 5 then finish negative s.digits s.scale
  else if s.digits + 1 < bound then finish negative (s.digits + 1) s.scale
  else if s.scale = 0 then none
  else finish negative ((s.digits + 5) / 10) (s.scale - 1)

/-- Whether a character may follow the digits that count. -/
def isSurplus (c : Char) : Bool :=
  isDigit c || c == '_'

/-- Digits around at most one point, grouped by underscores after the first digit. -/
def run (negative : Bool) : Reading → List Char → Option Decimal
  | s, [] => if s.started then finish negative s.digits s.scale else none
  | s, c :: cs =>
    match digit? c with
    | some d =>
      if (s.pointed ∧ maxScale ≤ s.scale) ∨ bound ≤ s.digits * 10 + d then
        if s.pointed ∧ cs.all isSurplus then s.roundBy negative d else none
      else
        let scale := if s.pointed then s.scale + 1 else 0
        run negative ⟨s.digits * 10 + d, scale, s.pointed, true⟩ cs
    | none =>
      if c = '.' ∧ !s.pointed then run negative ⟨s.digits, s.scale, true, s.started⟩ cs
      else if c = '_' ∧ s.started then run negative s cs
      else none

end Reading

/-- Positional notation, rounded to 28 places and to 96 bits. -/
def ofPositional? (cs : List Char) : Option Decimal :=
  match cs with
  | '-' :: r => Reading.run true ⟨0, 0, false, false⟩ r
  | '+' :: r => Reading.run false ⟨0, 0, false, false⟩ r
  | r => Reading.run false ⟨0, 0, false, false⟩ r

/-- The number times a power of ten: places after the point are used up first. -/
def raise (d : Decimal) (exponent : Nat) : Option Decimal :=
  if exponent ≤ d.scale then ofParts? d.negative d.digits (d.scale - exponent)
  else ofParts? d.negative (d.digits * 10 ^ (exponent - d.scale)) 0

/-- The number divided by a power of ten, rounded to 28 places. -/
def lower (d : Decimal) (exponent : Nat) : Option Decimal :=
  let excess := d.scale + exponent - maxScale
  ofParts? d.negative (roundedQuotient d.digits excess) (d.scale + exponent - excess)

def isExponentMark (c : Char) : Bool :=
  c == 'e' || c == 'E'

/-- An exponent, up to the greatest number of places. -/
def exponent? (cs : List Char) : Option Nat :=
  unsigned? maxScale cs

/-- Positional notation with an exponent after it. -/
def ofScientific? (cs : List Char) : Option Decimal :=
  (ofPositional? (cs.takeWhile (!isExponentMark ·))).bind fun d =>
    match cs.dropWhile (!isExponentMark ·) with
    | [] => none
    | _ :: '-' :: r => (exponent? r).bind d.lower
    | _ :: r => (exponent? r).bind d.raise

def ofText? (s : String) : Option Decimal :=
  (ofPositional? s.toList).orElse fun _ => ofScientific? s.toList

def ofInt? (v : Int) : Option Decimal :=
  of? v 0

/-- A finite float by its fewest digits. -/
def ofBinary? (x : Binary64) : Option Decimal :=
  let unsigned := if x.isZero then ['0'] else (Binary.shortest .double x.magnitude).positional
  ofPositional? (if x.negative then '-' :: unsigned else unsigned)

/-- Only a number without a point is read as an integer. -/
def toInt? (d : Decimal) : Option Int :=
  signed? 64 d.text

/-- The value nearest to the text. -/
def toBinary? (d : Decimal) : Option Binary64 :=
  Binary.ofText? (String.ofList d.text)

end Decimal

end BatchSql
