import BatchSql.Calendar.Reader
import BatchSql.Decimal
import BatchSql.Json.Basic
import BatchSql.Text.Utf8
import BatchSql.Uuid

namespace BatchSql

/-- A value of a database column, or of a parameter of a statement. -/
inductive Value where
  | null
  | bool (b : Bool)
  | int16 (n : Int16)
  | int32 (n : Int32)
  | int64 (n : Int64)
  | float32 (x : Binary32)
  | float64 (x : Binary64)
  | decimal (d : Decimal)
  | string (s : String)
  | bytes (bs : Octets)
  | date (d : Date)
  | time (t : Time)
  | dateTime (t : DateTime)
  | instant (t : Instant)
  | uuid (u : Uuid)
  | json (j : Document)

namespace Value

instance : Inhabited Value := ⟨.null⟩

/-- Values of one kind that mean the same: numbers compare as numbers. -/
def same : Value → Value → Bool
  | null, null => true
  | bool a, bool b => a == b
  | int16 a, int16 b => a == b
  | int32 a, int32 b => a == b
  | int64 a, int64 b => a == b
  | float32 a, float32 b => a.numEq b
  | float64 a, float64 b => a.numEq b
  | decimal a, decimal b => a.numEq b
  | string a, string b => a == b
  | bytes a, bytes b => a == b
  | date a, date b => a == b
  | time a, time b => a == b
  | dateTime a, dateTime b => a == b
  | instant a, instant b => a == b
  | uuid a, uuid b => a == b
  | json a, json b => a.content.numEq b.content
  | _, _ => false

instance : BEq Value := ⟨same⟩

def isNull : Value → Bool
  | null => true
  | _ => false

def sqlType : Value → String
  | null => "NULL"
  | bool _ => "BOOLEAN"
  | int16 _ => "SMALLINT"
  | int32 _ => "INTEGER"
  | int64 _ => "BIGINT"
  | float32 _ => "REAL"
  | float64 _ => "DOUBLE PRECISION"
  | decimal _ => "DECIMAL"
  | string _ => "VARCHAR"
  | bytes _ => "BYTEA"
  | date _ => "DATE"
  | time _ => "TIME"
  | dateTime _ => "TIMESTAMP"
  | instant _ => "TIMESTAMPTZ"
  | uuid _ => "UUID"
  | json _ => "JSONB"

/-- The words for true and false, letters in any case. -/
def boolOfText? (s : String) : Option Bool :=
  let word := String.ofList (s.toList.map Char.toLower)
  if ["true", "t", "yes", "y", "1"].contains word then some true
  else if ["false", "f", "no", "n", "0"].contains word then some false
  else none

def toBool? : Value → Option Bool
  | bool b => some b
  | int16 n => some (n != 0)
  | int32 n => some (n != 0)
  | int64 n => some (n != 0)
  | string s => boolOfText? s
  | _ => none

def intOfText? (s : String) : Option Int64 :=
  (Text.signed? 64 s.toList).map Int64.ofInt

def toInt64? : Value → Option Int64
  | int16 n => some n.toInt64
  | int32 n => some n.toInt64
  | int64 n => some n
  | decimal d => d.toInt?.map Int64.ofInt
  | string s => intOfText? s
  | _ => none

def toBinary64? : Value → Option Binary64
  | int16 n => some (.ofInt n.toInt)
  | int32 n => some (.ofInt n.toInt)
  | int64 n => some (.ofInt n.toInt)
  | float32 x => some x.convert
  | float64 x => some x
  | decimal d => d.toBinary?
  | string s => Binary.ofText? s
  | _ => none

def toText? : Value → Option String
  | string s => some s
  | _ => none

def toOctets? : Value → Option Octets
  | bytes bs => some bs
  | string s => some (Utf8.ofString s)
  | _ => none

def toUuid? : Value → Option Uuid
  | uuid u => some u
  | string s => Uuid.ofText? s
  | bytes bs => Uuid.ofOctets? bs
  | _ => none

def toDocument? : Value → Option Document
  | json j => some j
  | _ => none

end Value

end BatchSql
