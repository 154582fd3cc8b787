import BatchSql.Power

namespace BatchSql

/-- A string of octets. -/
abbrev Octets := List UInt8

namespace Octets

/-- The last `n` octets of a number, most significant first. -/
def ofNat : Nat → Nat → Octets
  | 0, _ => []
  | n + 1, v => UInt8.ofNat (v / 256 ^ n) :: ofNat n v

/-- The number that octets spell, most significant first. -/
def toNat (bs : Octets) : Nat :=
  bs.foldl (fun v b => v * 256 + b.toNat) 0

/-- The two's complement reading of octets. -/
def toInt (bs : Octets) : Int :=
  Int.bmod bs.toNat (256 ^ bs.length)

/-- Two's complement: `Int.emod` picks the representative below `256 ^ n`. -/
def ofInt (n : Nat) (v : Int) : Octets :=
  ofNat n (v.emod (256 ^ n : Nat)).toNat

theorem length_ofNat (n v : Nat) : (ofNat n v).length = n := by
  induction n with
  | zero => rfl
  | succ n ih => simp [ofNat, ih]

theorem length_ofInt (n : Nat) (v : Int) : (ofInt n v).length = n :=
  length_ofNat n _

end Octets

end BatchSql
