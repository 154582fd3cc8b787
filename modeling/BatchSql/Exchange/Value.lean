import BatchSql.Json.Access
import BatchSql.Value

namespace BatchSql.Exchange

open Json (digits chars ofInt)

def hex (bs : Octets) : Json :=
  chars bs.hexText

def octetsOf (j : Json) : Octets :=
  (Octets.ofHex? j.toText.toList).getD []

/-- A float by its bits in hexadecimal; values that are not numbers are not told apart. -/
def bits {f : BinaryFormat} (x : Binary f) : Json :=
  if x.isNaN then .string "nan" else hex (Octets.ofNat (f.width / 8) x.bits.toNat)

def binaryOf {f : BinaryFormat} (j : Json) : Binary f :=
  if j.toText = "nan" then .nan false
  else ⟨BitVec.ofNat f.width (octetsOf j).toNat⟩

def kinded (kind : String) (v : Json) : Json :=
  .object [("t", .string kind), ("v", v)]

/-- A value with its kind, exact to the bit. -/
def ofValue : Value → Json
  | .null => .object [("t", .string "Null")]
  | .bool b => kinded "Bool" (.bool b)
  | .int16 n => kinded "Int16" (ofInt n.toInt)
  | .int32 n => kinded "Int32" (ofInt n.toInt)
  | .int64 n => kinded "Int64" (digits n.toInt)
  | .float32 x => kinded "Float32" (bits x)
  | .float64 x => kinded "Float64" (bits x)
  | .decimal d => kinded "Decimal" (.array [digits d.mantissa, ofInt d.scale])
  | .string s => kinded "String" (.string s)
  | .bytes bs => kinded "Bytes" (hex bs)
  | .date d => kinded "Date" (chars d.text)
  | .time t => kinded "Time" (chars t.text)
  | .dateTime t => kinded "DateTime" (chars t.text)
  | .instant t => kinded "DateTimeTz" (chars t.text)
  | .uuid u => kinded "Uuid" (hex u.octets)
  | .json j => kinded "Json" j.content

def decimalOf (v : Json) : Value :=
  match v.items with
  | [m, s] => ((Decimal.of? m.toInt s.toNat).map Value.decimal).getD .null
  | _ => .null

/-- The value of a kind; null for a kind that is not known. -/
def payload (kind : String) (v : Json) : Value :=
  match kind with
  | "Bool" => .bool v.isTrue
  | "Int16" => .int16 (Int16.ofInt v.toInt)
  | "Int32" => .int32 (Int32.ofInt v.toInt)
  | "Int64" => .int64 (Int64.ofInt v.toInt)
  | "Float32" => .float32 (binaryOf v)
  | "Float64" => .float64 (binaryOf v)
  | "Decimal" => decimalOf v
  | "String" => .string v.toText
  | "Str" => .string v.toText
  | "Bytes" => .bytes (octetsOf v)
  | "Date" => ((Date.ofText? v.toText).map Value.date).getD .null
  | "Time" => ((Time.ofText? v.toText).map Value.time).getD .null
  | "DateTime" => ((DateTime.ofText? v.toText).map Value.dateTime).getD .null
  | "DateTimeTz" => ((Instant.ofText? v.toText).map Value.instant).getD .null
  | "Uuid" => ((Uuid.ofText? v.toText).map Value.uuid).getD .null
  | "Json" => .json v.document
  | _ => .null

/-- The value within `depth` wrappings at most. -/
def unwrapped : Nat → Json → Value
  | 0, _ => .null
  | depth + 1, j =>
    let kind := (j.field "t").toText
    if kind = "Some" then unwrapped depth (j.field "v") else payload kind (j.field "v")

def toValue (j : Json) : Value :=
  unwrapped (j.depth + 1) j

end BatchSql.Exchange
