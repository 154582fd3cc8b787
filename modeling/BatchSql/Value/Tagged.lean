import BatchSql.Json.Printer
import BatchSql.Value

namespace BatchSql.Value

/-- An object whose one field is named for the kind of the value. -/
def tagged (kind : String) (text : List Char) : List Char :=
  '\x7b' :: Json.quotedText kind ++ ':' :: text ++ ['\x7d']

def octetsText (bs : Octets) : List Char :=
  Json.itemsText (bs.map fun b =>
    .number (.integer b.toNat (by omega) (by have := b.toNat_lt; omega)))

def quotedChars (cs : List Char) : List Char :=
  Json.quotedText (String.ofList cs)

def intText (v : Int) : List Char :=
  (toString v).toList

/-- The JSON text of a value, which names its kind. -/
def text : Value → List Char
  | null => Json.quotedText "Null"
  | bool b => tagged "Bool" (Json.bool b).text
  | int16 n => tagged "Int16" (intText n.toInt)
  | int32 n => tagged "Int32" (intText n.toInt)
  | int64 n => tagged "Int64" (intText n.toInt)
  | float32 x => tagged "Float32" (Json.floatText Json.singleStyle x)
  | float64 x => tagged "Float64" (Json.floatText Json.doubleStyle x)
  | decimal d => tagged "Decimal" (quotedChars d.text)
  | string s => tagged "String" (Json.quotedText s)
  | bytes bs => tagged "Bytes" ('[' :: octetsText bs)
  | date d => tagged "Date" (quotedChars d.text)
  | time t => tagged "Time" (quotedChars t.text)
  | dateTime t => tagged "DateTime" (quotedChars t.text)
  | instant t => tagged "DateTimeTz" (quotedChars t.text)
  | uuid u => tagged "Uuid" (quotedChars u.text)
  | json j => tagged "Json" j.content.text

def intWithin? (low high : Int) : Json → Option Int
  | .number (.integer v _ _) => if low ≤ v ∧ v ≤ high then some v else none
  | _ => none

def textOf? : Json → Option String
  | .string s => some s
  | _ => none

/-- The float nearest to a number. -/
def binary64Of? : Json → Option Binary64
  | .number (.integer v _ _) => some (.ofInt v)
  | .number (.float x _) => some x
  | _ => none

def binary32Of? : Json → Option Binary32
  | .number (.integer v _ _) => some (.ofInt v)
  | .number (.float x _) => some x.convert
  | _ => none

/-- A decimal is written as a text or as a number. -/
def decimalOf? : Json → Option Decimal
  | .string s => Decimal.ofText? s
  | .number (.integer v _ _) => Decimal.ofInt? v
  | .number (.float x _) => Decimal.ofBinary? x
  | _ => none

def octetsOf? : List Json → Option Octets
  | [] => some []
  | j :: rest => do
    let v ← intWithin? 0 255 j
    let bs ← octetsOf? rest
    pure (UInt8.ofNat v.toNat :: bs)

def payload? (kind : String) (j : Json) : Option Value :=
  match kind with
  | "Null" => match j with
    | .null => some null
    | _ => none
  | "Bool" => match j with
    | .bool b => some (bool b)
    | _ => none
  | "Int16" => (intWithin? (-2 ^ 15) (2 ^ 15 - 1) j).map fun v => int16 (Int16.ofInt v)
  | "Int32" => (intWithin? (-2 ^ 31) (2 ^ 31 - 1) j).map fun v => int32 (Int32.ofInt v)
  | "Int64" => (intWithin? (-2 ^ 63) (2 ^ 63 - 1) j).map fun v => int64 (Int64.ofInt v)
  | "Float32" => (binary32Of? j).map float32
  | "Float64" => (binary64Of? j).map float64
  | "Decimal" => (decimalOf? j).map decimal
  | "String" => (textOf? j).map string
  | "Bytes" => match j with
    | .array items => (octetsOf? items).map bytes
    | _ => none
  | "Date" => ((textOf? j).bind Date.ofText?).map date
  | "Time" => ((textOf? j).bind Time.ofText?).map time
  | "DateTime" => ((textOf? j).bind DateTime.ofText?).map dateTime
  | "DateTimeTz" => ((textOf? j).bind Instant.ofText?).map instant
  | "Uuid" => ((textOf? j).bind Uuid.ofText?).map uuid
  | "Json" => some (json j.document)
  | _ => none

/-- A value from its JSON form. The null value also stands alone by its name. -/
def ofJson? : Json → Option Value
  | .string "Null" => some null
  | .object [(kind, j)] => payload? kind j
  | _ => none

end BatchSql.Value
