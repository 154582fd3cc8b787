import BatchSql.Codec.Json
import BatchSql.Text.Quoted

namespace BatchSql

/-- The kinds of records that have a JSON form. -/
inductive JsonKind where
  | document
  | tuple
  | double
  | bool
  | optionalText
  | value
  | unsignedItems
  | textMap
  | intMap
  | pairMap
deriving DecidableEq, Repr

namespace JsonKind

abbrev Carrier : JsonKind → Type
  | document => Document
  | tuple => Int64 × String
  | double => Binary64
  | bool => Bool
  | optionalText => Option String
  | value => Value
  | unsignedItems => List UInt32
  | textMap => JsonForm.IntMap String
  | intMap => JsonForm.IntMap Int64
  | pairMap => List ((Int64 × Int64) × Int64)

def form : (k : JsonKind) → JsonForm k.Carrier
  | document => .document
  | tuple => .tuple
  | double => .double
  | bool => .bool
  | optionalText => .optionalText
  | value => .value
  | unsignedItems => .unsignedItems
  | textMap => .map .text
  | intMap => .map .integer
  | pairMap => .pairMap

/-- Equality of records, numbers taken as numbers. -/
def same : (k : JsonKind) → k.Carrier → k.Carrier → Bool
  | document, a, b => a.content.numEq b.content
  | tuple, a, b => a == b
  | double, a, b => a.numEq b
  | bool, a, b => a == b
  | optionalText, a, b => a == b
  | value, a, b => a == b
  | unsignedItems, a, b => a == b
  | textMap, a, b => a.same b
  | intMap, a, b => a.same b
  | pairMap, a, b => a == b

end JsonKind

/-- A codec by its parts. The pair of `optionalPair` may be absent. -/
inductive Layout where
  | int64
  | varUInt64
  | string
  | bytes
  | json (kind : JsonKind)
  | pair (element restriction : Layout)
  | optionalPair (element restriction : Layout)
deriving DecidableEq, Repr, Inhabited

namespace Layout

/-- The type of the records that a layout writes. -/
abbrev Carrier : Layout → Type
  | int64 => Int64
  | varUInt64 => UInt64
  | string => String
  | bytes => Octets
  | json kind => kind.Carrier
  | pair a b => Restricted a.Carrier b.Carrier
  | optionalPair a b => Option (Restricted a.Carrier b.Carrier)

def codec : (l : Layout) → Codec l.Carrier
  | int64 => .int64
  | varUInt64 => .varUInt64
  | string => .string
  | bytes => .bytes
  | json kind => .json kind.form
  | pair a b => .pair a.codec b.codec
  | optionalPair a b => .nullable (.pair a.codec b.codec)

def same : (l : Layout) → l.Carrier → l.Carrier → Bool
  | int64, a, b => a == b
  | varUInt64, a, b => a == b
  | string, a, b => a == b
  | bytes, a, b => a == b
  | json kind, a, b => kind.same a b
  | pair a b, p, q => same a p.element q.element && same b p.restriction q.restriction
  | optionalPair a b, some p, some q =>
    same a p.element q.element && same b p.restriction q.restriction
  | optionalPair _ _, none, none => true
  | optionalPair _ _, _, _ => false

def pairText (a b : Layout) : String :=
  "PairCodec \x7b element: " ++ Text.quoted a.codec.name ++ ", restriction: " ++
    Text.quoted b.codec.name ++ " \x7d"

/-- What a codec shows of itself. -/
def text : Layout → String
  | json kind => "JsonCodec<" ++ kind.form.typeName ++ ">"
  | pair a b => pairText a b
  | optionalPair a b => pairText a b
  | l => l.codec.name

end Layout

end BatchSql
