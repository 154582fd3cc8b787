import BatchSql.Host

namespace BatchSql

/-- Ways to group records other than by their keys, for trials. -/
inductive Regrouping where
  | byKey
  | whole
  | reversed
  | twice
  | each
  | nothing
  | lengthened
  | shortened
  | failing
deriving DecidableEq, Repr

namespace Regrouping

def groups (g : Regrouping) (records : List Keyed) : Except Error (List Group) :=
  let values := records.map Prod.snd
  match g with
  | byKey => .ok (groupByKey records)
  | whole => .ok [(0, values)]
  | reversed => .ok [(0, values.reverse)]
  | twice => .ok [(0, values ++ values)]
  | each => .ok (records.map (fun (k, v) => (k, [v])) ++ [(0, [])])
  | nothing => .ok []
  | lengthened => .ok [(0, values.map (· ++ [0x21]))]
  | shortened => .ok [(0, values.map List.dropLast)]
  | failing => .error (.unsupported "grouping failed")

end Regrouping

/-- A host for trials: what it took, how many records it still takes, and how many it was given
to group. -/
structure Trial (τ : Type) where
  channel : Channel τ
  limit : Option Nat
  grouped : Nat

namespace Trial

def fresh : Trial τ := ⟨.fresh, none, 0⟩

def regroup (g : Regrouping) (records : List Keyed) : Task (Trial τ) (List Group) := do
  modify fun t => { t with world := { t.world with grouped := t.world.grouped + records.length } }
  Task.ofExcept (g.groups records)

def take (record : τ) : Task (Trial τ) Unit := do
  let t ← get
  if t.world.limit = some 0 then throw (.emit "limit reached")
  let channel ← Task.ofExcept (t.world.channel.send record)
  modify fun t => { t with world := { t.world with
    channel := channel
    limit := t.world.limit.map (· - 1) } }

def host (g : Regrouping) : Host (Trial τ) τ where
  group := regroup g
  emit := take

end Trial

end BatchSql
