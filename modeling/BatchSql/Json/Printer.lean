import BatchSql.Json.Basic
import BatchSql.Binary.Shortest
import BatchSql.Text.Digits

namespace BatchSql.Json

/-- Where positional notation ends: digits before the point at most, and zeros after it fewer
than. -/
structure FloatStyle where
  whole : Int
  zeros : Int

def doubleStyle : FloatStyle := ⟨16, 5⟩

def singleStyle : FloatStyle := ⟨13, 6⟩

/-- A point always stands in positional notation; an exponent has a sign. -/
def FloatStyle.text (style : FloatStyle) (s : Scientific) : List Char :=
  let ds := s.digitText
  let point := s.point
  if 0 ≤ s.exponent ∧ point ≤ style.whole then s.positional ++ ['.', '0']
  else if -style.zeros < point ∧ point ≤ style.whole then s.positional
  else
    let mantissa := match ds with
      | [d] => [d]
      | d :: r => d :: '.' :: r
      | [] => []
    let exponent := point - 1
    mantissa ++ 'e' :: (if exponent < 0 then '-' else '+') :: Nat.toDigits 10 exponent.natAbs

/-- The fewest digits that read back. -/
def finiteText {f : BinaryFormat} (style : FloatStyle) (x : Binary f) : List Char :=
  let unsigned := if x.isZero then ['0', '.', '0'] else style.text (Binary.shortest f x.magnitude)
  if x.negative then '-' :: unsigned else unsigned

/-- A value that is not finite has no text of its own. -/
def floatText {f : BinaryFormat} (style : FloatStyle) (x : Binary f) : List Char :=
  if x.isFinite then finiteText style x else ['n', 'u', 'l', 'l']

def Number.text : Number → List Char
  | .integer v _ _ => (toString v).toList
  | .float x _ => finiteText doubleStyle x

/-- Quotes, backslashes and controls are escaped, and nothing else. -/
def escape (c : Char) : List Char :=
  if c = '"' then ['\\', '"']
  else if c = '\\' then ['\\', '\\']
  else if c = '\x08' then ['\\', 'b']
  else if c = '\x0C' then ['\\', 'f']
  else if c = '\n' then ['\\', 'n']
  else if c = '\r' then ['\\', 'r']
  else if c = '\t' then ['\\', 't']
  else if c < ' ' then
    ['\\', 'u', '0', '0', Text.hexChar (c.toNat / 16), Text.hexChar (c.toNat % 16)]
  else [c]

def quotedText (s : String) : List Char :=
  '"' :: s.toList.flatMap escape ++ ['"']

mutual

/-- The text without blanks. -/
def text : Json → List Char
  | null => ['n', 'u', 'l', 'l']
  | bool b => if b then ['t', 'r', 'u', 'e'] else ['f', 'a', 'l', 's', 'e']
  | number n => n.text
  | string s => quotedText s
  | array items => '[' :: itemsText items
  | object fields => '\x7b' :: fieldsText fields

def itemsText : List Json → List Char
  | [] => [']']
  | [j] => text j ++ [']']
  | j :: k :: rest => text j ++ ',' :: itemsText (k :: rest)

def fieldsText : List (String × Json) → List Char
  | [] => ['\x7d']
  | [(name, j)] => quotedText name ++ ':' :: text j ++ ['\x7d']
  | (name, j) :: f :: rest => quotedText name ++ ':' :: text j ++ ',' :: fieldsText (f :: rest)

end

def print (j : Json) : String :=
  String.ofList j.text

/-- A UTF-16 unit as an escape. -/
def unitEscape (unit : Nat) : List Char :=
  ['\\', 'u', Text.hexChar (unit / 4096), Text.hexChar (unit / 256 % 16),
    Text.hexChar (unit / 16 % 16), Text.hexChar (unit % 16)]

/-- Characters past ASCII become the escapes of their UTF-16 units. -/
def asciiChar (c : Char) : List Char :=
  let n := c.toNat
  if n < 0x7F then [c]
  else if n < 0x10000 then unitEscape n
  else unitEscape (0xD800 + (n - 0x10000) / 0x400) ++ unitEscape (0xDC00 + (n - 0x10000) % 0x400)

/-- The text in ASCII. -/
def printAscii (j : Json) : String :=
  String.ofList (j.text.flatMap asciiChar)

end BatchSql.Json
