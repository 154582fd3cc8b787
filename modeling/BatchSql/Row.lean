import BatchSql.Assoc
import BatchSql.Error
import BatchSql.Text.Blank
import BatchSql.Value

namespace BatchSql

/-- A row of a result: columns in order, each with its value. -/
structure Row where
  cells : List (String × Value)

namespace Row

def ofColumns (columns : List String) (values : List Value) : Row :=
  ⟨columns.zip values⟩

def size (r : Row) : Nat :=
  r.cells.length

def columns (r : Row) : List String :=
  r.cells.map Prod.fst

def values (r : Row) : List Value :=
  r.cells.map Prod.snd

instance : BEq Row where
  beq r s := r.columns == s.columns && r.values == s.values

def get? (r : Row) (i : Nat) : Option Value :=
  r.values[i]?

/-- The first column of a name, letters in any case. -/
def getByName? (r : Row) (name : String) : Option Value :=
  (r.cells.find? fun (column, _) => Text.eqIgnoreCase column name).map Prod.snd

/-- Under each column name the value of its last column. -/
def toMap (r : Row) : List (String × Value) :=
  r.cells.foldl (fun entries (column, value) => Assoc.put column value entries) []

def outOfRange (i size : Nat) : Error :=
  .typeConversion s!"column index {i} out of range ({size} columns)"

def mismatch (i : Nat) (expected : String) (actual : Value) : Error :=
  .typeConversion s!"column {i} expected {expected}, found {actual.sqlType}"

/-- The value of a column, which must be there and not null. -/
def require (r : Row) (i : Nat) : Except Error Value :=
  match r.cells[i]? with
  | none => .error (outOfRange i r.size)
  | some (column, value) =>
    if value.isNull then .error (.typeConversion s!"column {i} ({column}) is NULL")
    else .ok value

def typed (r : Row) (i : Nat) (expected : String) (convert : Value → Option α) :
    Except Error α :=
  (r.require i).bind fun v =>
    match convert v with
    | some a => .ok a
    | none => .error (mismatch i expected v)

def int64 (r : Row) (i : Nat) : Except Error Int64 :=
  r.typed i "BIGINT" Value.toInt64?

def binary64 (r : Row) (i : Nat) : Except Error Binary64 :=
  r.typed i "DOUBLE PRECISION" Value.toBinary64?

def bool (r : Row) (i : Nat) : Except Error Bool :=
  r.typed i "BOOLEAN" Value.toBool?

def string (r : Row) (i : Nat) : Except Error String :=
  r.typed i "VARCHAR" Value.toText?

/-- A text, or nothing for null. -/
def optString (r : Row) (i : Nat) : Except Error (Option String) :=
  match r.get? i with
  | some .null => .ok none
  | some _ => (r.string i).map some
  | none => .error (outOfRange i r.size)

end Row

end BatchSql
