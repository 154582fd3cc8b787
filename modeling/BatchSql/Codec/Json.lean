import BatchSql.Assoc
import BatchSql.Codec
import BatchSql.Json.Access
import BatchSql.Json.Reader
import BatchSql.Value.Tagged

namespace BatchSql

/-- The JSON form of values of a type. `typeName` is what its codec shows of the type. -/
structure JsonForm (α : Type) where
  typeName : String
  text : α → Except Error (List Char)
  read : Json → Option α

namespace JsonForm

def document : JsonForm Document where
  typeName := "Document"
  text j := .ok j.content.text
  read j := some j.document

def readInt64 (j : Json) : Option Int64 :=
  (Value.intWithin? (-2 ^ 63) (2 ^ 63 - 1) j).map Int64.ofInt

/-- An array of two. -/
def tuple : JsonForm (Int64 × String) where
  typeName := "(Int64, String)"
  text p := .ok ('[' :: Value.intText p.1.toInt ++ ',' :: Json.quotedText p.2 ++ [']'])
  read
    | .array [n, s] => do
      let n ← readInt64 n
      let s ← Value.textOf? s
      pure (n, s)
    | _ => none

def double : JsonForm Binary64 where
  typeName := "f64"
  text x := .ok (Json.floatText Json.doubleStyle x)
  read := Value.binary64Of?

def bool : JsonForm Bool where
  typeName := "bool"
  text b := .ok (Json.bool b).text
  read
    | .bool b => some b
    | _ => none

/-- Nothing is null. -/
def optionalText : JsonForm (Option String) where
  typeName := "Option String"
  text
    | none => .ok Json.null.text
    | some s => .ok (Json.quotedText s)
  read
    | .null => some none
    | .string s => some (some s)
    | _ => none

def value : JsonForm Value where
  typeName := "Value"
  text v := .ok v.text
  read := Value.ofJson?

def readUInt32 (j : Json) : Option UInt32 :=
  (Value.intWithin? 0 (2 ^ 32 - 1) j).map fun v => UInt32.ofNat v.toNat

theorem low_unsigned (n : UInt32) : (-2 ^ 63 : Int) ≤ n.toNat := by
  omega

theorem high_unsigned (n : UInt32) : (n.toNat : Int) < 2 ^ 64 := by
  have := n.toNat_lt
  omega

def unsignedNumber (n : UInt32) : Json.Number :=
  .integer n.toNat (low_unsigned n) (high_unsigned n)

def unsignedItems : JsonForm (List UInt32) where
  typeName := "List UInt32"
  text ns := .ok ('[' :: Json.itemsText (ns.map fun n => .number (unsignedNumber n)))
  read
    | .array items => items.mapM readUInt32
    | _ => none

/-- A map of integers, its entries in the order in which they are gone through. -/
structure IntMap (κ : Type) where
  entries : List (κ × Int64)
  distinct : (entries.map Prod.fst).Nodup

namespace IntMap

variable {κ : Type} [DecidableEq κ]

def empty : IntMap κ :=
  ⟨[], List.nodup_nil⟩

def put (m : IntMap κ) (key : κ) (value : Int64) : IntMap κ :=
  ⟨Assoc.put key value m.entries, Assoc.nodup_put m.distinct key value⟩

/-- Equality of maps, which have no order. -/
def same (a b : IntMap κ) : Bool :=
  a.entries.length == b.entries.length &&
    a.entries.all fun e => Assoc.get? e.1 b.entries == some e.2

end IntMap

/-- How keys are names of fields. -/
structure KeyForm (κ : Type) where
  typeName : String
  name : κ → String
  read : String → Option κ

namespace KeyForm

def text : KeyForm String :=
  ⟨"String", id, some⟩

/-- The name of an integer is the text of the number. -/
def integer : KeyForm Int64 where
  typeName := "Int64"
  name n := String.ofList (Value.intText n.toInt)
  read s :=
    match Json.Reader.number? s.toList with
    | some (j, []) => readInt64 j
    | _ => none

end KeyForm

def mapFields (key : KeyForm κ) (m : IntMap κ) : List (String × Json) :=
  m.entries.map fun e => (key.name e.1, Json.ofInt e.2.toInt)

/-- Fields are put into a map one after the other, so that the last of one key counts. -/
def readEntries [DecidableEq κ] (key : KeyForm κ) :
    IntMap κ → List (String × Json) → Option (IntMap κ)
  | m, [] => some m
  | m, (name, j) :: rest => do
    let k ← key.read name
    let v ← readInt64 j
    readEntries key (m.put k v) rest

def map [DecidableEq κ] (key : KeyForm κ) : JsonForm (IntMap κ) where
  typeName := "Map " ++ key.typeName ++ " Int64"
  text m := .ok (Json.object (mapFields key m)).text
  read
    | .object fields => readEntries key .empty fields
    | _ => none

/-- An object cannot have pairs as names, so only the empty map has a form. -/
def pairMap : JsonForm (List ((Int64 × Int64) × Int64)) where
  typeName := "Map (Int64, Int64) Int64"
  text
    | [] => .ok (Json.object []).text
    | _ => .error (.encode "key must be a string")
  read
    | .object [] => some []
    | _ => none

end JsonForm

/-- The JSON text of a value in UTF-8. -/
def Codec.json (form : JsonForm α) : Codec α where
  name := "JsonCodec"
  encode context a := do
    let text ← Buffered.ofExcept (form.text a)
    Buffered.putFrame (Utf8.encode text) context
  decode context := do
    let bs ← Buffered.frame context
    match (Json.ofOctets? bs).bind form.read with
    | some a => pure a
    | none => Buffered.fail (.decode "<json>")

end BatchSql
