import BatchSql.Error
import BatchSql.Octets

namespace BatchSql.Varint

/-- Seven bits an octet, the lowest first; all octets but the last have their top bit set. -/
def encode (v : Nat) : Octets :=
  if v < 128 then [UInt8.ofNat v] else UInt8.ofNat (v % 128 + 128) :: encode (v / 128)
termination_by v
decreasing_by omega

/-- The place of the octet that holds bit 63 and no other. -/
def lastPlace : Nat := 9

/-- The number whose octets begin at a place, and what follows it. The octet at the last place
has room for one bit, so it always ends the number. -/
def decodeFrom (place : Nat) : Octets → Except Error Nat × Octets
  | [] => (.error (.decode "truncated varint"), [])
  | b :: bs =>
    if place = lastPlace ∧ 1 < b then (.error (.decode "varint overflows u64"), bs)
    else if b < 128 then (.ok b.toNat, bs)
    else
      let (high, rest) := decodeFrom (place + 1) bs
      (high.map fun v => b.toNat - 128 + 128 * v, rest)

def decode (bs : Octets) : Except Error Nat × Octets :=
  decodeFrom 0 bs

end BatchSql.Varint
