import BatchSql.Octets
import BatchSql.Text.Digits

namespace BatchSql

/-- Sixteen octets. -/
structure Uuid where
  octets : Octets
  length_eq : octets.length = 16
deriving DecidableEq

/-- Two hexadecimal digits an octet. -/
def Octets.ofHex? : List Char → Option Octets
  | [] => some []
  | a :: b :: r => do
    let high ← Text.hexDigit? a
    let low ← Text.hexDigit? b
    let rest ← ofHex? r
    pure (UInt8.ofNat (high * 16 + low) :: rest)
  | [_] => none

def Octets.hexText (bs : Octets) : List Char :=
  bs.flatMap fun b => [Text.hexChar (b.toNat / 16), Text.hexChar (b.toNat % 16)]

namespace Uuid

def ofOctets? (bs : Octets) : Option Uuid :=
  if h : bs.length = 16 then some ⟨bs, h⟩ else none

/-- Groups of eight, four, four, four and twelve digits. -/
def text (u : Uuid) : List Char :=
  let ds := u.octets.hexText
  ds.take 8 ++ '-' :: (ds.drop 8).take 4 ++ '-' :: (ds.drop 12).take 4 ++
    '-' :: (ds.drop 16).take 4 ++ '-' :: ds.drop 20

def ofDigits? (cs : List Char) : Option Uuid :=
  (Octets.ofHex? cs).bind ofOctets?

/-- Digits with a hyphen between the groups. -/
def ofGroups? (cs : List Char) : Option Uuid :=
  if cs.length = 36 ∧ cs[8]? = some '-' ∧ cs[13]? = some '-' ∧ cs[18]? = some '-' ∧
      cs[23]? = some '-' then
    ofDigits? (cs.take 8 ++ (cs.drop 9).take 4 ++ (cs.drop 14).take 4 ++ (cs.drop 19).take 4 ++
      cs.drop 24)
  else none

/-- What a URN begins with, in letters of any case. -/
def urn : List Char :=
  "urn:uuid:".toList

/-- Plain digits or groups; the groups may stand in braces or after a URN's beginning. -/
def ofText? (s : String) : Option Uuid :=
  let cs := s.toList
  if cs.length = 32 then ofDigits? cs
  else if cs.length = 36 then ofGroups? cs
  else if cs.length = 38 ∧ cs.head? = some '\x7b' ∧ cs.getLast? = some '\x7d' then
    ofGroups? (cs.drop 1).dropLast
  else if cs.length = 45 ∧ (cs.take 9).map Char.toLower = urn then ofGroups? (cs.drop 9)
  else none

end Uuid

end BatchSql
