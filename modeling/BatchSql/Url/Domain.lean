import BatchSql.Text.Direction
import BatchSql.Text.Joining
import BatchSql.Text.Mark
import BatchSql.Url.Address
import BatchSql.Url.Domain.Mapping
import BatchSql.Url.Percent
import BatchSql.Url.Punycode

namespace BatchSql.Url.Domain

open Text

/-- No control, blank or delimiter may stand in a domain. -/
def isForbidden (c : Char) : Bool :=
  c.toNat ≤ 0x20 || c.toNat == 0x7F || "%#/:<>?@[\\]^|".toList.contains c

/-- The domain with every character treated, in composed form. -/
def normalized? (cs : List Char) : Option (List Char) := do
  let points ← cs.mapM fun c => mapped? c.toNat
  let composed := composed (points.flatten.map Char.ofNat)
  if composed.any isForbidden then none else some composed

/-- Whether nothing is left to normalize. -/
def isNormal (cs : List Char) : Bool :=
  cs.all (fun c => mapped? c.toNat == some [c.toNat]) && composed cs == cs

/-- What an encoded label begins with. -/
def mark : List Char :=
  "xn--".toList

/-- The greatest length of a label that is encoded. -/
def maxPlain : Nat := 1000

/-- The greatest length of what is decoded. -/
def maxEncoded : Nat := 2000

/-- An encoded label, which has to encode a label that is not basic and is normal already. -/
def decoded? (encoded : List Char) : Option (List Char) := do
  if encoded.getLast? = some '-' ∨ !encoded.all Punycode.isBasic ∨ maxEncoded < encoded.length then
    none
  let label ← Punycode.decode? encoded
  if !label.isEmpty && isNormal label then some label else none

/-- A label in its own characters. -/
def plain? (label : List Char) : Option (List Char) :=
  if mark.isPrefixOf label then decoded? (label.drop mark.length) else some label

/-- A label does not begin with a mark, and joiners stand where they show. -/
def isWellFormed (label : List Char) : Bool :=
  !label.head?.any isMark && Joining.joinersFit [] label

def ascii? (label : List Char) : Option (List Char) :=
  if label.all Punycode.isBasic then some label
  else if maxPlain < label.length then none
  else some (mark ++ Punycode.encode label)

/-- A domain in ASCII: capitals become small, and labels of other scripts are encoded. -/
def ofText? (cs : List Char) : Option (List Char) := do
  let decoded ← (Utf8.decode (unescape cs)).toOption
  let domain ← normalized? decoded
  let labels ← (splitOn '.' domain).mapM plain?
  if !labels.all isWellFormed || !Direction.agree labels then none
  let encoded ← labels.mapM ascii?
  let domain := ['.'].intercalate encoded
  if domain.isEmpty then none else some domain

end BatchSql.Url.Domain
