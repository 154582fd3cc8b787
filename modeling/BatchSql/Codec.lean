import BatchSql.Text.Utf8
import BatchSql.Varint

namespace BatchSql

/-- Whether more data may follow a value, so that its encoding must show its end, or the value
has the rest of the buffer for itself. -/
inductive Context where
  | nested
  | outer
deriving DecidableEq, Repr

/-- Work on a buffer of octets. A failure keeps what was done to the buffer before it. -/
abbrev Buffered := ExceptT Error (StateM Octets)

namespace Buffered

def put (bs : Octets) : Buffered Unit :=
  modify (· ++ bs)

def fail (e : Error) : Buffered α :=
  throw e

/-- The front of the buffer, which must be that long. -/
def take (n : Nat) : Buffered Octets := do
  let bs ← get
  if bs.length < n then
    fail (.decode s!"need {n} bytes, only {bs.length} remaining")
  else
    set (bs.drop n)
    pure (bs.take n)

def rest : Buffered Octets := do
  let bs ← get
  set ([] : Octets)
  pure bs

def ofExcept : Except Error α → Buffered α
  | .ok a => pure a
  | .error e => fail e

def varint : Buffered Nat := do
  let (v, left) := Varint.decode (← get)
  set left
  ofExcept v

/-- Octets whose end is known: by their number in front of them, or as the end of the buffer. -/
def putFrame (bs : Octets) (context : Context) : Buffered Unit :=
  match context with
  | .nested => do
    put (Varint.encode bs.length)
    put bs
  | .outer => put bs

def frame : Context → Buffered Octets
  | .nested => do take (← varint)
  | .outer => rest

end Buffered

/-- Writes values at the end of a buffer and reads them from its front. -/
structure Codec (α : Type) where
  name : String
  encode : Context → α → Buffered Unit
  decode : Context → Buffered α

namespace Codec

open Buffered

/-- The encoding of a value that stands alone. -/
def encodeAlone (c : Codec α) (a : α) : Except Error Octets :=
  match (c.encode .outer a).run.run [] with
  | (.ok _, bs) => .ok bs
  | (.error e, _) => .error e

/-- The value of an encoding that stands alone; nothing may be left of it. -/
def decodeAlone (c : Codec α) (bs : Octets) : Except Error α :=
  match (c.decode .outer).run.run bs with
  | (.ok a, []) => .ok a
  | (.ok _, left) => .error (.decode s!"{left.length} trailing bytes after value")
  | (.error e, _) => .error e

/-- Eight octets, most significant first. -/
def int64 : Codec Int64 where
  name := "I64Codec"
  encode _ v := put (Octets.ofInt 8 v.toInt)
  decode _ := do
    let bs ← take 8
    pure (Int64.ofInt (Octets.toInt bs))

def varUInt64 : Codec UInt64 where
  name := "VarU64Codec"
  encode _ v := put (Varint.encode v.toNat)
  decode _ := do
    let v ← varint
    pure (UInt64.ofNat v)

def string : Codec String where
  name := "StringCodec"
  encode context s := putFrame (Utf8.ofString s) context
  decode context := do
    let bs ← frame context
    match Utf8.decode bs with
    | .ok cs => pure (String.ofList cs)
    | .error fault => fail (.decode ("invalid UTF-8: " ++ fault.message))

def bytes : Codec Octets where
  name := "BytesCodec"
  encode context bs := putFrame bs context
  decode context := frame context

end Codec

/-- An element with the part of it that remains to be processed. -/
structure Restricted (ε ρ : Type) where
  element : ε
  restriction : ρ

namespace Codec

/-- The element always shows its end; the restriction stands where the pair stands. -/
def pair (element : Codec ε) (restriction : Codec ρ) : Codec (Restricted ε ρ) where
  name := s!"PairCodec({element.name}, {restriction.name})"
  encode context p := do
    element.encode .nested p.element
    restriction.encode context p.restriction
  decode context := do
    let e ← element.decode .nested
    let r ← restriction.decode context
    pure ⟨e, r⟩

/-- Nothing is not encoded as a pair. -/
def nullable (c : Codec (Restricted ε ρ)) : Codec (Option (Restricted ε ρ)) where
  name := c.name
  encode context
    | some p => c.encode context p
    | none => Buffered.fail (.encode "cannot encode a null RestrictionPair")
  decode context := do
    let p ← c.decode context
    pure (some p)

end Codec

end BatchSql
