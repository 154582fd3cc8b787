import BatchSql.Postgres.ColumnType
import BatchSql.Postgres.Numeric
import BatchSql.Postgres.Timestamp
import BatchSql.Json.Printer
import BatchSql.Json.Reader
import BatchSql.Value

namespace BatchSql.Postgres

/-- A number of two's complement with exactly so many octets. -/
def intOf? (size : Nat) (bs : Octets) : Option Int :=
  if bs.length = size then some bs.toInt else none

def floatOf? (f : BinaryFormat) (bs : Octets) : Option (Binary f) :=
  if bs.length * 8 = f.width then some ⟨BitVec.ofNat f.width bs.toNat⟩ else none

def floatOctets {f : BinaryFormat} (x : Binary f) : Octets :=
  Octets.ofNat (f.width / 8) x.bits.toNat

def documentOf? (bs : Octets) : Option Value :=
  (Json.ofOctets? bs).map fun j => .json j.document

/-- The text in the octets of a column of a type, behind what stands before it. -/
def ColumnType.textOf? (t : ColumnType) (bs : Octets) : Option String :=
  if t.isText ∧ t.textFront.isPrefixOf bs then Utf8.toString? (bs.drop t.textFront.length)
  else none

/-- The octets of a column as a value of the type. -/
def ColumnType.read? (t : ColumnType) (bs : Octets) : Option Value :=
  match t with
  | .bool =>
    match bs with
    | [b] => some (.bool (b != 0))
    | _ => none
  | .int2 => (intOf? 2 bs).map fun n => .int16 (Int16.ofInt n)
  | .int4 => (intOf? 4 bs).map fun n => .int32 (Int32.ofInt n)
  | .int8 => (intOf? 8 bs).map fun n => .int64 (Int64.ofInt n)
  | .float4 => (floatOf? .single bs).map .float32
  | .float8 => (floatOf? .double bs).map .float64
  | .numeric => ((Numeric.ofOctets? bs).bind Numeric.toDecimal?).map .decimal
  | .bytea => some (.bytes bs)
  | .date => ((intOf? 4 bs).bind dateOf?).map .date
  | .time => ((intOf? 8 bs).bind timeOf?).map .time
  | .timestamp => ((intOf? 8 bs).bind dateTimeOf?).map .dateTime
  | .timestamptz => ((intOf? 8 bs).bind dateTimeOf?).map fun t => .instant ⟨t⟩
  | .uuid => (Uuid.ofOctets? bs).map .uuid
  | .json => documentOf? bs
  | .jsonb =>
    match bs with
    | 1 :: r => documentOf? r
    | _ => none
  | t => (t.textOf? bs).map .string

/-- NULL and what cannot be read are both null. -/
def ColumnType.read (t : ColumnType) (column : Option Octets) : Value :=
  (column.bind t.read?).getD .null

/-- The octets of a parameter, or no octets for NULL, if its kind belongs to the type. -/
def ColumnType.write? (t : ColumnType) (v : Value) : Option (Option Octets) :=
  match v, t with
  | .null, .int4 => some none
  | .bool b, .bool => some (some [if b then 1 else 0])
  | .int16 n, .int2 => some (some (Octets.ofInt 2 n.toInt))
  | .int32 n, .int4 => some (some (Octets.ofInt 4 n.toInt))
  | .int64 n, .int8 => some (some (Octets.ofInt 8 n.toInt))
  | .float32 x, .float4 => some (some (floatOctets x))
  | .float64 x, .float8 => some (some (floatOctets x))
  | .decimal d, .numeric => some (some (Numeric.ofDecimal d).octets)
  | .bytes bs, .bytea => some (some bs)
  | .date d, .date => some (some (dayOctets d))
  | .time x, .time => some (some (timeOctets x))
  | .dateTime x, .timestamp => some (some (timestampOctets x))
  | .instant x, .timestamptz => some (some (timestampOctets x.utc))
  | .uuid u, .uuid => some (some u.octets)
  | .json j, .json => some (some (Utf8.encode j.content.text))
  | .json j, .jsonb => some (some (1 :: Utf8.encode j.content.text))
  | .string s, t => if t.isText then some (some (t.textFront ++ Utf8.ofString s)) else none
  | _, _ => none

/-- The name under which the kind of a value is reported when it does not belong to a type. -/
def carrierName : Value → String
  | .null => "core::option::Option<i32>"
  | .bool _ => "bool"
  | .int16 _ => "i16"
  | .int32 _ => "i32"
  | .int64 _ => "i64"
  | .float32 _ => "f32"
  | .float64 _ => "f64"
  | .decimal _ => "rust_decimal::decimal::Decimal"
  | .string _ => "alloc::string::String"
  | .bytes _ => "alloc::vec::Vec<u8>"
  | .date _ => "chrono::naive::date::NaiveDate"
  | .time _ => "chrono::naive::time::NaiveTime"
  | .dateTime _ => "chrono::naive::datetime::NaiveDateTime"
  | .instant _ => "chrono::datetime::DateTime<chrono::offset::utc::Utc>"
  | .uuid _ => "uuid::Uuid"
  | .json _ => "serde_json::value::Value"

end BatchSql.Postgres
