import BatchSql.Octets

namespace BatchSql.Postgres

/-- The type of a column or of a parameter, as the server names it. -/
inductive ColumnType where
  | bool
  | int2
  | int4
  | int8
  | float4
  | float8
  | numeric
  | bytea
  | date
  | time
  | timestamp
  | timestamptz
  | uuid
  | json
  | jsonb
  | text
  | varchar
  | bpchar
  | name
  | unknown
  | citext
  | ltree
  | lquery
  | ltxtquery
  | other (name : String)
deriving DecidableEq, Repr

namespace ColumnType

/-- The types that have a name of their own here. -/
def named : List (String × ColumnType) := [
  ("bool", bool), ("int2", int2), ("int4", int4), ("int8", int8), ("float4", float4),
  ("float8", float8), ("numeric", numeric), ("bytea", bytea), ("date", date), ("time", time),
  ("timestamp", timestamp), ("timestamptz", timestamptz), ("uuid", uuid), ("json", json),
  ("jsonb", jsonb), ("text", text), ("varchar", varchar), ("bpchar", bpchar), ("name", name),
  ("unknown", unknown), ("citext", citext), ("ltree", ltree), ("lquery", lquery),
  ("ltxtquery", ltxtquery)]

/-- An array is named for its elements, with an underscore before their name. -/
def arrayName (s : String) : String :=
  if s.endsWith "[]" then "_" ++ (s.dropEnd 2).toString else s

def ofName (s : String) : ColumnType :=
  match named.find? (·.1 == s) with
  | some (_, t) => t
  | none => other (arrayName s)

def typeName : ColumnType → String
  | other s => s
  | t => ((named.find? (·.2 == t)).map Prod.fst).getD ""

def isText : ColumnType → Bool
  | text => true
  | varchar => true
  | bpchar => true
  | name => true
  | unknown => true
  | citext => true
  | ltree => true
  | lquery => true
  | ltxtquery => true
  | _ => false

/-- The octets that stand before each text of a type: a version, where the type has one. -/
def textFront : ColumnType → Octets
  | ltree => [1]
  | lquery => [1]
  | ltxtquery => [1]
  | _ => []

end ColumnType

end BatchSql.Postgres
