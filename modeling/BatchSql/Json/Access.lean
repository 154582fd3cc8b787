import BatchSql.Json.Basic
import BatchSql.Text.Digits

namespace BatchSql.Json

/-- The first field of a name; null if there is none. -/
def field (j : Json) (name : String) : Json :=
  match j with
  | object fields => ((fields.find? (·.1 == name)).map Prod.snd).getD null
  | _ => null

def has (j : Json) (name : String) : Bool :=
  match j with
  | object fields => fields.any (·.1 == name)
  | _ => false

def isNull : Json → Bool
  | null => true
  | _ => false

def items : Json → List Json
  | array js => js
  | _ => []

def text? : Json → Option String
  | string s => some s
  | _ => none

def isTrue : Json → Bool
  | bool b => b
  | _ => false

/-- An integer, as a number or as its digits in a text. -/
def int? : Json → Option Int
  | number (.integer v _ _) => some v
  | string s => Text.signed? 128 s.toList
  | _ => none

/-- The readings with the neutral value for what is not there. -/
def toText (j : Json) : String := j.text?.getD ""

def toInt (j : Json) : Int := j.int?.getD 0

def toNat (j : Json) : Nat := j.toInt.toNat

/-- An integer of 64 bits as a number. -/
def ofInt (v : Int) : Json :=
  ((Number.ofInt? v).map number).getD null

/-- An integer of any size as its digits. -/
def digits (v : Int) : Json :=
  string (toString v)

def chars (cs : List Char) : Json :=
  string (String.ofList cs)

def ofOption (f : α → Json) : Option α → Json
  | some a => f a
  | none => null

end BatchSql.Json
