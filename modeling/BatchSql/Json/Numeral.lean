import BatchSql.Json.Basic
import BatchSql.Text.Digits

namespace BatchSql.Json

open Text

/-- A written number, by the digits of its parts. -/
structure Numeral where
  negative : Bool
  whole : List Nat
  fraction : List Nat
  /-- The sign of the exponent and its digits. -/
  exponent : Option (Bool × List Nat)

namespace Numeral

/-- The digits at the front, and the rest. -/
def digits : List Char → List Nat × List Char
  | [] => ([], [])
  | c :: cs =>
    match digit? c with
    | none => ([], c :: cs)
    | some d => let (ds, r) := digits cs; (d :: ds, r)

/-- A zero stands alone before the point. -/
def whole? (cs : List Char) : Option (List Nat × List Char) :=
  match digits cs with
  | ([], _) => none
  | (0 :: _ :: _, _) => none
  | p => some p

/-- A point is followed by a digit. -/
def fraction? : List Char → Option (List Nat × List Char)
  | '.' :: cs =>
    match digits cs with
    | ([], _) => none
    | p => some p
  | cs => some ([], cs)

def signed : List Char → Bool × List Char
  | '-' :: cs => (true, cs)
  | '+' :: cs => (false, cs)
  | cs => (false, cs)

def exponent? : List Char → Option (Option (Bool × List Nat) × List Char)
  | [] => some (none, [])
  | c :: cs =>
    if c = 'e' ∨ c = 'E' then
      let (negative, r) := signed cs
      match digits r with
      | ([], _) => none
      | (ds, r) => some (some (negative, ds), r)
    else some (none, c :: cs)

def read (cs : List Char) : Option (Numeral × List Char) := do
  let (negative, r) := match cs with
    | '-' :: r => (true, r)
    | r => (false, r)
  let (whole, r) ← whole? r
  let (fraction, r) ← fraction? r
  let (exponent, r) ← exponent? r
  pure (⟨negative, whole, fraction, exponent⟩, r)

/-- Takes digits into a number while it stays within a bound; the digits left over follow. -/
def absorb (bound : Nat) : Nat → List Nat → Nat × List Nat
  | n, [] => (n, [])
  | n, d :: ds => if n * 10 + d ≤ bound then absorb bound (n * 10 + d) ds else (n, d :: ds)

def powerOfTen (n : Nat) : Binary64 :=
  .ofInt (10 ^ n)

/-- The significand times a power of ten in at most three rounded steps; none for a value that
is too large. Two quotients by the largest power leave nothing of a 64-bit significand. -/
def scaled? (significand : Nat) (exponent : Int) : Option Binary64 :=
  let x : Binary64 := .ofInt significand
  if significand = 0 then some (.zero false)
  else if 308 < exponent then none
  else if 0 ≤ exponent then
    let y := x.mul (powerOfTen exponent.toNat)
    if y.isInfinite then none else some y
  else if -308 ≤ exponent then some (x.div (powerOfTen (-exponent).toNat))
  else if -616 ≤ exponent then
    some ((x.div (powerOfTen 308)).div (powerOfTen (-exponent - 308).toNat))
  else some (.zero false)

/-- The float of a significand, of which `dropped` digits before the point found no room, with
a written exponent. An exponent that does not fit 32 bits leaves zero or nothing. -/
def float? (significand : Nat) (dropped : Int) : Option (Bool × List Nat) → Option Binary64
  | none => scaled? significand dropped
  | some (negative, ds) =>
    match absorb (2 ^ 31 - 1) 0 ds with
    | (e, []) => scaled? significand (if negative then dropped - e else dropped + e)
    | _ => if significand ≠ 0 ∧ !negative then none else some (.zero false)

/-- Only digits make an integer, if they fit; a negative zero is a float. The significand has
64 bits, and digits after the point that find no room in it are skipped. -/
def number? (n : Numeral) : Option Number :=
  let (whole, wholeLeft) := absorb (2 ^ 64 - 1) 0 n.whole
  let integer := if n.negative then -(whole : Int) else whole
  let plain := wholeLeft.isEmpty && n.fraction.isEmpty && n.exponent.isNone
  if plain ∧ ¬(n.negative ∧ (whole = 0 ∨ 2 ^ 63 < whole)) then Number.ofInt? integer
  else
    let (significand, fractionLeft) := absorb (2 ^ 64 - 1) whole n.fraction
    let dropped : Int := wholeLeft.length - (n.fraction.length - fractionLeft.length : Nat)
    (float? significand dropped n.exponent).bind fun x =>
      Number.ofBinary? (if n.negative then x.neg else x)

end Numeral

end BatchSql.Json
