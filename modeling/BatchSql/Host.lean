import BatchSql.Assoc
import BatchSql.Journal
import BatchSql.Octets

namespace BatchSql

/-- An encoded record under its key. -/
abbrev Keyed := UInt32 × Octets

/-- The encoded records of one key. -/
abbrev Group := UInt32 × List Octets

/-- What the engine that runs a connector offers, with a state of its own: it groups keyed
records and takes the records that are ready. -/
structure Host (η τ : Type) where
  group : List Keyed → Task η (List Group)
  emit : τ → Task η Unit

/-- A record joins the group of its key; a new group comes last. -/
def addToGroup (groups : List Group) (record : Keyed) : List Group :=
  Assoc.put record.1 ((Assoc.get? record.1 groups).getD [] ++ [record.2]) groups

/-- Groups by key within one process, records in the order of arrival. -/
def groupByKey (records : List Keyed) : List Group :=
  records.foldl addToGroup []

/-- A queue of records, whose receiver may be gone. -/
structure Channel (τ : Type) where
  received : List τ
  closed : Bool

namespace Channel

def fresh : Channel τ := ⟨[], false⟩

def send (c : Channel τ) (record : τ) : Except Error (Channel τ) :=
  if c.closed then .error (.emit "downstream receiver is closed")
  else .ok { c with received := c.received ++ [record] }

end Channel

/-- A host that keeps every record it takes. -/
def Host.collecting (group : List Keyed → Task η (List Group)) : Host (η × List τ) τ where
  group records := Task.within .first (group records)
  emit record := modify fun t => { t with world := (t.world.1, t.world.2 ++ [record]) }

end BatchSql
