import BatchSql.Binary.Shortest
import BatchSql.Text.Digits

namespace BatchSql.Binary

variable {f : BinaryFormat}

open Text

/-- The value nearest to `digits · 10 ^ exponent`. Beyond a thousand places before or after the
point no digit string that matters is left, and the powers stay small. -/
def ofScientific (negative : Bool) (digits : Nat) (exponent : Int) : Binary f :=
  let places : Int := (Nat.toDigits 10 digits).length + exponent
  if digits = 0 then zero negative
  else if 1000 < places then infinite negative
  else if places < -1000 then zero negative
  else ofRatio negative (digits * 10 ^ exponent.toNat) (10 ^ (-exponent).toNat)

/-- An exponent after its letter: a sign at most, then digits. -/
def exponent? : List Char → Option Int
  | '-' :: cs => (nat? cs).map fun n => -(n : Int)
  | '+' :: cs => (nat? cs).map Int.ofNat
  | cs => (nat? cs).map Int.ofNat

/-- Digits around at most one point, at least one of them, then perhaps an exponent. -/
def unsigned? (negative : Bool) (cs : List Char) : Option (Binary f) :=
  let whole := cs.takeWhile isDigit
  let rest := cs.dropWhile isDigit
  let (fraction, rest) := match rest with
    | '.' :: r => (r.takeWhile isDigit, r.dropWhile isDigit)
    | r => ([], r)
  if whole.isEmpty ∧ fraction.isEmpty then none
  else
    let exponent := match rest with
      | [] => some 0
      | c :: r => if c = 'e' ∨ c = 'E' then exponent? r else none
    exponent.bind fun e =>
      (digitsFrom 0 (whole ++ fraction)).map fun ds =>
        ofScientific negative ds (e - fraction.length)

/-- A sign at most, then digits or the name of a special value in any case. -/
def ofText? (s : String) : Option (Binary f) :=
  let (negative, cs) := match s.toList with
    | '-' :: r => (true, r)
    | '+' :: r => (false, r)
    | r => (false, r)
  let name := String.ofList (cs.map Char.toLower)
  if name = "nan" then some (nan negative)
  else if name = "inf" ∨ name = "infinity" then some (infinite negative)
  else unsigned? negative cs

end BatchSql.Binary
