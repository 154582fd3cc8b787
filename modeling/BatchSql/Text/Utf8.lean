import BatchSql.Octets

namespace BatchSql.Utf8

/-- A scalar value in one to four octets, the fewest that hold it. -/
def encodeChar (c : Char) : Octets :=
  let n := c.toNat
  if n < 0x80 then [UInt8.ofNat n]
  else if n < 0x800 then [UInt8.ofNat (0xC0 + n / 64), UInt8.ofNat (0x80 + n % 64)]
  else if n < 0x10000 then
    [UInt8.ofNat (0xE0 + n / 4096), UInt8.ofNat (0x80 + n / 64 % 64), UInt8.ofNat (0x80 + n % 64)]
  else
    [UInt8.ofNat (0xF0 + n / 262144), UInt8.ofNat (0x80 + n / 4096 % 64),
      UInt8.ofNat (0x80 + n / 64 % 64), UInt8.ofNat (0x80 + n % 64)]

def encode (cs : List Char) : Octets :=
  cs.flatMap encodeChar

/-- What may follow a lead octet: how many octets, the range of the next one, and the
bits of the scalar value gathered so far. The narrowed ranges exclude overlong forms,
surrogates and values past the last scalar value. -/
structure Tail where
  count : Nat
  low : UInt8
  high : UInt8
  bits : Nat
deriving DecidableEq

def lead? (b : UInt8) : Option Tail :=
  let n := b.toNat
  if n < 0xC2 then none
  else if n < 0xE0 then some ⟨1, 0x80, 0xBF, n - 0xC0⟩
  else if n = 0xE0 then some ⟨2, 0xA0, 0xBF, 0⟩
  else if n = 0xED then some ⟨2, 0x80, 0x9F, 0xD⟩
  else if n < 0xF0 then some ⟨2, 0x80, 0xBF, n - 0xE0⟩
  else if n = 0xF0 then some ⟨3, 0x90, 0xBF, 0⟩
  else if n < 0xF4 then some ⟨3, 0x80, 0xBF, n - 0xF0⟩
  else if n = 0xF4 then some ⟨3, 0x80, 0x8F, 4⟩
  else none

/-- Where well-formed text ends, and how many octets after that point are the start of no
scalar value; none when the text merely stops too early. -/
structure Fault where
  validUpTo : Nat
  badLength : Option Nat
deriving DecidableEq, Repr

def Fault.message (f : Fault) : String :=
  match f.badLength with
  | some n => s!"invalid utf-8 sequence of {n} bytes from index {f.validUpTo}"
  | none => s!"incomplete utf-8 byte sequence from index {f.validUpTo}"

/-- Between two scalar values, or after `seen` octets of one. -/
inductive State where
  | boundary
  | inside (tail : Tail) (seen : Nat)
deriving DecidableEq

/-- `start` is the index of the last boundary. -/
def run : State → Nat → Octets → Except Fault (List Char)
  | .boundary, _, [] => .ok []
  | .inside _ _, start, [] => .error ⟨start, none⟩
  | .boundary, start, b :: bs =>
    if b < 0x80 then (run .boundary (start + 1) bs).map (Char.ofNat b.toNat :: ·)
    else
      match lead? b with
      | none => .error ⟨start, some 1⟩
      | some tail => run (.inside tail 1) start bs
  | .inside tail seen, start, b :: bs =>
    if tail.low ≤ b ∧ b ≤ tail.high then
      let bits := tail.bits * 64 + (b.toNat - 0x80)
      if tail.count ≤ 1 then
        (run .boundary (start + seen + 1) bs).map (Char.ofNat bits :: ·)
      else run (.inside ⟨tail.count - 1, 0x80, 0xBF, bits⟩ (seen + 1)) start bs
    else .error ⟨start, some seen⟩

def decode (bs : Octets) : Except Fault (List Char) :=
  run .boundary 0 bs

def ofString (s : String) : Octets :=
  encode s.toList

def toString? (bs : Octets) : Option String :=
  (decode bs).toOption.map String.ofList

end BatchSql.Utf8
