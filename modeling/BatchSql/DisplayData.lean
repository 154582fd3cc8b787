import BatchSql.Assoc

namespace BatchSql

/-- What a connector tells about itself: values under keys, in the order of first mention. -/
structure DisplayData where
  items : List (String × String)

namespace DisplayData

def empty : DisplayData := ⟨[]⟩

def get? (d : DisplayData) (key : String) : Option String :=
  Assoc.get? key d.items

/-- Adds a value, which replaces the one under its key. -/
def add (d : DisplayData) (key value : String) : DisplayData :=
  ⟨Assoc.put key value d.items⟩

def addIfSome (d : DisplayData) (key : String) : Option String → DisplayData
  | some value => d.add key value
  | none => d

def size (d : DisplayData) : Nat :=
  d.items.length

def text (d : DisplayData) : String :=
  ", ".intercalate (d.items.map fun (key, value) => key ++ "=" ++ value)

end DisplayData

end BatchSql
