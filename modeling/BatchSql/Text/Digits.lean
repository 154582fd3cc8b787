import BatchSql.Power

namespace BatchSql.Text

def digit? (c : Char) : Option Nat :=
  if '0' ≤ c ∧ c ≤ '9' then some (c.toNat - '0'.toNat) else none

def isDigit (c : Char) : Bool :=
  (digit? c).isSome

def hexDigit? (c : Char) : Option Nat :=
  if '0' ≤ c ∧ c ≤ '9' then some (c.toNat - '0'.toNat)
  else if 'a' ≤ c ∧ c ≤ 'f' then some (c.toNat - 'a'.toNat + 10)
  else if 'A' ≤ c ∧ c ≤ 'F' then some (c.toNat - 'A'.toNat + 10)
  else none

def hexChar (n : Nat) : Char :=
  if n < 10 then Char.ofNat ('0'.toNat + n) else Char.ofNat ('a'.toNat + (n - 10))

/-- Hexadecimal in small letters, without leading zeros. -/
def hex (n : Nat) : String :=
  String.ofList (Nat.toDigits 16 n)

/-- The value of hexadecimal digits. -/
def hexValue (cs : List Char) : Nat :=
  cs.foldl (fun n c => n * 16 + (hexDigit? c).getD 0) 0

/-- The value of a run of digits, continuing from `acc`. -/
def digitsFrom (acc : Nat) : List Char → Option Nat
  | [] => some acc
  | c :: cs => (digit? c).bind fun d => digitsFrom (acc * 10 + d) cs

/-- One digit or more and nothing else. -/
def nat? : List Char → Option Nat
  | [] => none
  | cs => digitsFrom 0 cs

/-- A natural number, perhaps after a plus sign. -/
def unsigned? (bound : Nat) (cs : List Char) : Option Nat :=
  let digits := match cs with
    | '+' :: r => r
    | r => r
  (nat? digits).filter (· ≤ bound)

/-- An integer with at most one sign, in the range of `bits`-bit two's complement. -/
def signed? (bits : Nat) (cs : List Char) : Option Int :=
  let value := match cs with
    | '-' :: r => (nat? r).map fun n => -(n : Int)
    | '+' :: r => (nat? r).map Int.ofNat
    | r => (nat? r).map Int.ofNat
  value.filter fun v => -(2 ^ (bits - 1) : Int) ≤ v ∧ v < 2 ^ (bits - 1)

/-- Decimal digits, filled up with zeros on the left to a width. -/
def padded (width n : Nat) : List Char :=
  let ds := Nat.toDigits 10 n
  List.replicate (width - ds.length) '0' ++ ds

end BatchSql.Text
