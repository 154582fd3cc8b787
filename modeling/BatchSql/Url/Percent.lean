import BatchSql.Text.Digits
import BatchSql.Text.Utf8

namespace BatchSql.Url

/-- Characters that a part of a URL holds only as the escapes of their octets. -/
abbrev EscapeSet := Char → Bool

def controls : EscapeSet := fun c =>
  c.toNat < 0x20 || 0x7F ≤ c.toNat

def fragmentSet : EscapeSet := fun c =>
  controls c || c == ' ' || c == '"' || c == '<' || c == '>' || c.toNat == 0x60

def querySet : EscapeSet := fun c =>
  controls c || c == ' ' || c == '"' || c == '#' || c == '<' || c == '>'

def specialQuerySet : EscapeSet := fun c =>
  querySet c || c == '\''

def pathSet : EscapeSet := fun c =>
  fragmentSet c || c == '#' || c == '?' || c == '\x7b' || c == '\x7d'

def credentialSet : EscapeSet := fun c =>
  pathSet c || "/:;=@[\\]^|".toList.contains c

def upperHex (n : Nat) : Char :=
  (Text.hexChar n).toUpper

def escapeOctet (b : UInt8) : List Char :=
  ['%', upperHex (b.toNat / 16), upperHex (b.toNat % 16)]

def escape (set : EscapeSet) (cs : List Char) : List Char :=
  cs.flatMap fun c => if set c then (Utf8.encodeChar c).flatMap escapeOctet else [c]

/-- The octets of a text whose escapes are undone; a percent sign without two hexadecimal
digits after it stands for itself. -/
def unescape : List Char → Octets
  | [] => []
  | '%' :: a :: b :: r =>
    match Text.hexDigit? a, Text.hexDigit? b with
    | some high, some low => UInt8.ofNat (high * 16 + low) :: unescape r
    | _, _ => UInt8.ofNat 0x25 :: unescape (a :: b :: r)
  | c :: r => Utf8.encodeChar c ++ unescape r

end BatchSql.Url
