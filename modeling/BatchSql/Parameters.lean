import BatchSql.Error
import BatchSql.Value

namespace BatchSql

/-- The values for the placeholders of a statement, the first placeholder first. Those that are
not bound yet hold none. -/
structure Parameters where
  slots : List (Option Value)

namespace Parameters

def empty : Parameters := ⟨[]⟩

instance : EmptyCollection Parameters := ⟨empty⟩

/-- Alike where the same placeholders are bound to values that mean the same. -/
instance : BEq Parameters := ⟨fun p q => p.slots == q.slots⟩

/-- Binds the placeholder at an index; the first has the index one. -/
def set (p : Parameters) (index : Nat) (v : Value) : Except Error Parameters :=
  match index with
  | 0 => .error (.query "parameter indexes start at 1" none)
  | i + 1 =>
    let room := p.slots ++ List.replicate (i + 1 - p.slots.length) none
    .ok ⟨room.set i (some v)⟩

/-- Unbinds all placeholders. -/
def clear (p : Parameters) : Parameters :=
  { p with slots := [] }

/-- The highest bound index. -/
def size (p : Parameters) : Nat :=
  p.slots.length

def isEmpty (p : Parameters) : Bool :=
  p.slots.isEmpty

/-- The values from placeholder `index` on. -/
def valuesFrom (index : Nat) : List (Option Value) → Except Error (List Value)
  | [] => .ok []
  | none :: _ => .error (.query s!"parameter {index} is not bound" none)
  | some v :: rest => (valuesFrom (index + 1) rest).map (v :: ·)

/-- All values in order, if none is missing. -/
def values (p : Parameters) : Except Error (List Value) :=
  valuesFrom 1 p.slots

end Parameters

end BatchSql
