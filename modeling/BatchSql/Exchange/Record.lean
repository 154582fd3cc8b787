import BatchSql.Codec.Layout
import BatchSql.Exchange.Value

namespace BatchSql.Exchange

open Json (digits chars ofInt ofOption)

def toInt64 (j : Json) : Int64 :=
  Int64.ofInt j.toInt

def toPairEntry (e : Json) : (Int64 × Int64) × Int64 :=
  match e.items with
  | [a, b, v] => ((toInt64 a, toInt64 b), toInt64 v)
  | _ => ((0, 0), 0)

def toIntMap [DecidableEq κ] (key : Json → κ) (entries : List Json) : JsonForm.IntMap κ :=
  entries.foldl (fun m e =>
    match e.items with
    | [k, v] => m.put (key k) (toInt64 v)
    | _ => m) .empty

/-- A record of a kind, by the one field that is named for it. -/
def toKindRecord (kind : JsonKind) (j : Json) : kind.Carrier :=
  match kind with
  | .document => (j.field "json").document
  | .tuple =>
    match (j.field "tup").items with
    | [n, s] => (toInt64 n, s.toText)
    | _ => (0, "")
  | .double => (binaryOf (j.field "f64") : Binary64)
  | .bool => (j.field "bool").isTrue
  | .optionalText => (j.field "opt").text?
  | .value => toValue (j.field "val")
  | .unsignedItems => (j.field "u32s").items.map fun n => UInt32.ofNat n.toNat
  | .textMap => toIntMap Json.toText (j.field "map").items
  | .intMap => toIntMap toInt64 (j.field "map").items
  | .pairMap => (j.field "map").items.map toPairEntry

def toRecord (l : Layout) (j : Json) : l.Carrier :=
  match l with
  | .int64 => toInt64 (j.field "i64")
  | .varUInt64 => UInt64.ofNat (j.field "u64").toNat
  | .string => (j.field "str").toText
  | .bytes => octetsOf (j.field "bytes")
  | .json kind => toKindRecord kind j
  | .pair a b =>
    match (j.field "pair").items with
    | [x, y] => ⟨toRecord a x, toRecord b y⟩
    | _ => ⟨toRecord a .null, toRecord b .null⟩
  | .optionalPair a b =>
    match (j.field "pair").items with
    | [x, y] => some ⟨toRecord a x, toRecord b y⟩
    | _ => none

def named (name : String) (j : Json) : Json :=
  .object [(name, j)]

def ofIntMap (key : κ → Json) (m : JsonForm.IntMap κ) : Json :=
  named "map" (.array (m.entries.map fun e => .array [key e.1, digits e.2.toInt]))

def ofKindRecord (kind : JsonKind) (a : kind.Carrier) : Json :=
  match kind with
  | .document => named "json" a.content
  | .tuple => named "tup" (.array [digits a.1.toInt, .string a.2])
  | .double => named "f64" (bits a)
  | .bool => named "bool" (.bool a)
  | .optionalText => named "opt" (ofOption Json.string a)
  | .value => named "val" (ofValue a)
  | .unsignedItems => named "u32s" (.array (a.map fun n => ofInt n.toNat))
  | .textMap => ofIntMap Json.string a
  | .intMap => ofIntMap (fun n => digits n.toInt) a
  | .pairMap => named "map" (.array (a.map fun e =>
      .array [digits e.1.1.toInt, digits e.1.2.toInt, digits e.2.toInt]))

def ofRecord (l : Layout) (a : l.Carrier) : Json :=
  match l with
  | .int64 => named "i64" (digits a.toInt)
  | .varUInt64 => named "u64" (digits a.toNat)
  | .string => named "str" (.string a)
  | .bytes => named "bytes" (hex a)
  | .json kind => ofKindRecord kind a
  | .pair x y => named "pair" (.array [ofRecord x a.element, ofRecord y a.restriction])
  | .optionalPair x y =>
    match a with
    | some p => named "pair" (.array [ofRecord x p.element, ofRecord y p.restriction])
    | none => .null

end BatchSql.Exchange
