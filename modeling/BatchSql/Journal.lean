import BatchSql.Error

namespace BatchSql

inductive Level where
  | trace
  | debug
  | info
  | warn
deriving DecidableEq, Repr

/-- One entry of the journal. -/
structure Event where
  level : Level
  message : String
  fields : List (String × String)
deriving DecidableEq, Repr

/-- A world with the journal of what was done in it. -/
structure Traced (σ : Type) where
  world : σ
  events : Array Event

/-- Work that changes a world of type `σ` and cannot fail. -/
abbrev Step (σ : Type) := StateM (Traced σ)

/-- Work that may fail; what it did to the world before stays done. -/
abbrev Task (σ : Type) := ExceptT Error (Step σ)

/-- A part of a larger state. -/
structure Focus (σ τ : Type) where
  get : σ → τ
  set : τ → σ → σ

namespace Focus

def self : Focus σ σ := ⟨id, fun t _ => t⟩

def first : Focus (σ × τ) σ := ⟨Prod.fst, fun a p => (a, p.2)⟩

def second : Focus (σ × τ) τ := ⟨Prod.snd, fun b p => (p.1, b)⟩

end Focus

namespace Step

def log (level : Level) (message : String) (fields : List (String × String)) : Step σ Unit :=
  modify fun t => { t with events := t.events.push ⟨level, message, fields⟩ }

/-- A change of a part of the world. -/
def ofState (f : Focus σ τ) (m : StateM τ α) : Step σ α := do
  let t ← get
  let (a, part) := m (f.get t.world)
  set { t with world := f.set part t.world }
  pure a

/-- Work on a part of the world. -/
def within (f : Focus σ τ) (m : Step τ α) : Step σ α := do
  let t ← get
  let (a, part) := m ⟨f.get t.world, t.events⟩
  set (Traced.mk (f.set part.world t.world) part.events)
  pure a

end Step

namespace Task

def log (level : Level) (message : String) (fields : List (String × String)) : Task σ Unit :=
  ExceptT.lift (Step.log level message fields)

def ofState (f : Focus σ τ) (m : ExceptT Error (StateM τ) α) : Task σ α :=
  ExceptT.mk (Step.ofState f m.run)

def within (f : Focus σ τ) (m : Task τ α) : Task σ α :=
  ExceptT.mk (Step.within f m.run)

def ofExcept : Except Error α → Task σ α
  | .ok a => pure a
  | .error e => throw e

end Task

end BatchSql
