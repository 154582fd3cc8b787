import BatchSql.ConnectOptions
import BatchSql.Journal
import BatchSql.Row

namespace BatchSql

/-- The rows of a result, to be read one after the other: the answers to come, and the one that
is given for ever after them. -/
structure Cursor where
  coming : List (Except Error (Option Row))
  last : Except Error (Option Row)

namespace Cursor

def ofRows (rows : List Row) : Cursor :=
  ⟨rows.map fun r => .ok (some r), .ok none⟩

def next (c : Cursor) : Except Error (Option Row) × Cursor :=
  match c.coming with
  | [] => (c.last, c)
  | r :: rest => (r, { c with coming := rest })

def collectFrom (last : Except Error (Option Row)) :
    List (Except Error (Option Row)) → Except Error (List Row)
  | [] => last.map fun _ => []
  | .ok (some r) :: rest => (collectFrom last rest).map (r :: ·)
  | .ok none :: _ => .ok []
  | .error e :: _ => .error e

/-- All rows, or the first error before their end. -/
def collect (c : Cursor) : Except Error (List Row) :=
  collectFrom c.last c.coming

end Cursor

/-- A statement that the database knows, to be run many times. -/
structure Statement (σ : Type) where
  sql : String
  execute : List Value → Task σ Nat
  executeBatch : List (List Value) → Task σ (List Nat)
  close : Task σ Unit

/-- Runs the sets of parameters one by one and stops at the first that fails. -/
def Statement.executeEach (s : Statement σ) : List (List Value) → Task σ (List Nat)
  | [] => pure []
  | params :: rest => do
    let n ← s.execute params
    let ns ← s.executeEach rest
    pure (n :: ns)

/-- An open session with a database. -/
structure Connection (σ : Type) where
  queryStream : String → List Value → Task σ Cursor
  execute : String → List Value → Task σ Nat
  prepare : String → Task σ (Statement σ)
  setAutoCommit : Bool → Task σ Unit
  isAutoCommit : Step σ Bool
  commit : Task σ Unit
  rollback : Task σ Unit
  isValid : Step σ Bool
  close : Task σ Unit

/-- All rows of a result. -/
def Connection.query (c : Connection σ) (sql : String) (params : List Value) :
    Task σ (List Row) := do
  let cursor ← c.queryStream sql params
  Task.ofExcept cursor.collect

/-- Opens connections for a driver. -/
structure ConnectionFactory (σ : Type) where
  name : String
  connect : ConnectOptions → Task σ (Connection σ)

/-- Gives connections to those who ask, by itself or in someone's name. -/
structure DataSource (σ : Type) where
  name : String
  connection : Task σ (Connection σ)
  connectionAs : String → Option Secret → Task σ (Connection σ)

/-- Opens every connection through a driver with the same options. -/
structure DriverDataSource (σ : Type) where
  factory : ConnectionFactory σ
  options : ConnectOptions

namespace DriverDataSource

def openWith (d : DriverDataSource σ) (options : ConnectOptions) : Task σ (Connection σ) := do
  Task.log .debug "Opening connection" [
    ("driver", d.factory.name),
    ("url", Url.redacted options.url),
    ("username", options.username.getD "")]
  d.factory.connect options

def dataSource (d : DriverDataSource σ) : DataSource σ where
  name := d.factory.name
  connection := d.openWith d.options
  connectionAs username password := d.openWith (d.options.withCredentials username password)

def text (d : DriverDataSource σ) : String :=
  "DriverDataSource \x7b driver: " ++ Text.quoted d.factory.name ++ ", options: " ++
    d.options.text ++ " \x7d"

end DriverDataSource

/-- The drivers by their names. -/
abbrev Registry (σ : Type) := List (String × ConnectionFactory σ)

namespace Registry

/-- A driver takes the place of the one registered under its name. -/
def register (r : Registry σ) (name : String) (factory : ConnectionFactory σ) :
    Step σ (Registry σ) := do
  Step.log .debug "Registering driver" [("driver", name), ("factory", factory.name)]
  pure (Assoc.put name factory r)

def lookup (r : Registry σ) (name : String) : Except Error (ConnectionFactory σ) :=
  match Assoc.get? name r with
  | some factory => .ok factory
  | none => .error (.configuration ("no driver registered under '" ++ name ++ "'"))

def contains (r : Registry σ) (name : String) : Bool :=
  (Assoc.get? name r).isSome

def deregister (r : Registry σ) (name : String) : Registry σ :=
  Assoc.erase name r

def insertName (name : String) : List String → List String
  | [] => [name]
  | n :: rest => if name < n then name :: n :: rest else n :: insertName name rest

/-- All names in ascending order. -/
def names (r : Registry σ) : List String :=
  (r.map Prod.fst).foldr insertName []

end Registry

end BatchSql
