import BatchSql.Json.Numeral
import BatchSql.Text.Utf8

namespace BatchSql.Json

open Text

namespace Reader

/-- What is being read inside a string: plain characters, the character after a backslash, or
the digits of a UTF-16 unit. After the first half of a pair the second must follow. -/
inductive Quoted where
  | plain
  | escape (high : Option Nat)
  | hexDigits (high : Option Nat) (count : Nat) (value : Nat)
  | half (high : Nat)

def escaped? : Char → Option Char
  | '"' => some '"'
  | '\\' => some '\\'
  | '/' => some '/'
  | 'b' => some '\x08'
  | 'f' => some '\x0C'
  | 'n' => some '\n'
  | 'r' => some '\r'
  | 't' => some '\t'
  | _ => none

/-- What a UTF-16 unit gives after the first half of a pair or without one: a character, or
for a first half none yet. -/
inductive UnitMeaning where
  | char (c : Char)
  | high (unit : Nat)
  | invalid

def unitMeaning (high : Option Nat) (unit : Nat) : UnitMeaning :=
  match high with
  | none =>
    if 0xD800 ≤ unit ∧ unit < 0xDC00 then .high unit
    else if 0xDC00 ≤ unit ∧ unit < 0xE000 then .invalid
    else .char (Char.ofNat unit)
  | some h =>
    if 0xDC00 ≤ unit ∧ unit < 0xE000 then
      .char (Char.ofNat (0x10000 + (h - 0xD800) * 0x400 + (unit - 0xDC00)))
    else .invalid

/-- The rest of a string, after its opening quote. -/
def quoted : Quoted → List Char → Option (List Char × List Char)
  | _, [] => none
  | .plain, c :: cs =>
    if c = '"' then some ([], cs)
    else if c = '\\' then quoted (.escape none) cs
    else if c < ' ' then none
    else (quoted .plain cs).map fun (s, r) => (c :: s, r)
  | .escape high, c :: cs =>
    if c = 'u' then quoted (.hexDigits high 4 0) cs
    else if high.isSome then none
    else
      (escaped? c).bind fun e => (quoted .plain cs).map fun (s, r) => (e :: s, r)
  | .half high, c :: cs => if c = '\\' then quoted (.escape (some high)) cs else none
  | .hexDigits high count value, c :: cs =>
    (hexDigit? c).bind fun d =>
      let value := value * 16 + d
      if 1 < count then quoted (.hexDigits high (count - 1) value) cs
      else
        match unitMeaning high value with
        | .char e => (quoted .plain cs).map fun (s, r) => (e :: s, r)
        | .high unit => quoted (.half unit) cs
        | .invalid => none

def isSpace (c : Char) : Bool :=
  c == ' ' || c == '\t' || c == '\n' || c == '\r'

def skipSpace (cs : List Char) : List Char :=
  cs.dropWhile isSpace

/-- A word that has no variation. -/
def word? (word : List Char) (j : Json) (cs : List Char) : Option (Json × List Char) :=
  if word.isPrefixOf cs then some (j, cs.drop word.length) else none

def string? : List Char → Option (String × List Char)
  | '"' :: cs => (quoted .plain cs).map fun (s, r) => (String.ofList s, r)
  | _ => none

def number? (cs : List Char) : Option (Json × List Char) := do
  let (n, r) ← Numeral.read cs
  let value ← n.number?
  pure (.number value, r)

mutual

/-- One value at the front. `levels` counts the arrays and objects that may still open, and
`fuel` the calls. -/
def value : Nat → Nat → List Char → Option (Json × List Char)
  | 0, _, _ => none
  | fuel + 1, levels, cs =>
    match skipSpace cs with
    | [] => none
    | '"' :: r => (string? ('"' :: r)).map fun (s, r) => (.string s, r)
    | '[' :: r =>
      if levels = 0 then none
      else
        match skipSpace r with
        | ']' :: r => some (.array [], r)
        | r => (items fuel (levels - 1) r).map fun (js, r) => (.array js, r)
    | '\x7b' :: r =>
      if levels = 0 then none
      else
        match skipSpace r with
        | '\x7d' :: r => some (.object [], r)
        | r => (fields fuel (levels - 1) r).map fun (fs, r) => (.object fs, r)
    | 'n' :: r => word? ['u', 'l', 'l'] .null r
    | 't' :: r => word? ['r', 'u', 'e'] (.bool true) r
    | 'f' :: r => word? ['a', 'l', 's', 'e'] (.bool false) r
    | r => number? r

/-- One value or more, to the closing bracket. -/
def items : Nat → Nat → List Char → Option (List Json × List Char)
  | 0, _, _ => none
  | fuel + 1, levels, cs => do
    let (j, r) ← value fuel levels cs
    match skipSpace r with
    | ',' :: r => let (js, r) ← items fuel levels r; pure (j :: js, r)
    | ']' :: r => pure ([j], r)
    | _ => none

/-- One field or more, to the closing brace. -/
def fields : Nat → Nat → List Char → Option (List (String × Json) × List Char)
  | 0, _, _ => none
  | fuel + 1, levels, cs => do
    let (name, r) ← string? (skipSpace cs)
    match skipSpace r with
    | ':' :: r =>
      let (j, r) ← value fuel levels r
      match skipSpace r with
      | ',' :: r => let (fs, r) ← fields fuel levels r; pure ((name, j) :: fs, r)
      | '\x7d' :: r => pure ([(name, j)], r)
      | _ => none
    | _ => none

end

end Reader

/-- How many arrays and objects a text may open around a value. -/
def maxLevels : Nat := 127

/-- The value of a whole text. Every call but one in two takes a character, so the fuel
suffices. -/
def readWithin (levels : Nat) (cs : List Char) : Option Json :=
  match Reader.value (2 * cs.length + 2) levels cs with
  | some (j, r) => if (Reader.skipSpace r).isEmpty then some j else none
  | none => none

def read? (s : String) : Option Json :=
  readWithin maxLevels s.toList

def ofOctets? (bs : Octets) : Option Json :=
  (Utf8.decode bs).toOption.bind (readWithin maxLevels)

end BatchSql.Json
