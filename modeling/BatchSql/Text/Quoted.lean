import BatchSql.Text.Unprintable
import BatchSql.Text.Digits

namespace BatchSql.Text

/-- A character of a quoted text: short escapes for a few, the code point in braces for others
that do not print. -/
def escapeChar (c : Char) : List Char :=
  if c = '"' then ['\\', '"']
  else if c = '\\' then ['\\', '\\']
  else if c = '\n' then ['\\', 'n']
  else if c = '\r' then ['\\', 'r']
  else if c = '\t' then ['\\', 't']
  else if c = Char.ofNat 0 then ['\\', '0']
  else if isUnprintable c then '\\' :: 'u' :: '\x7b' :: (hex c.toNat).toList ++ ['\x7d']
  else [c]

/-- Text between double quotes, so that it shows what it holds. -/
def quoted (s : String) : String :=
  String.ofList ('"' :: s.toList.flatMap escapeChar ++ ['"'])

def quotedOption : Option String → String
  | none => "None"
  | some s => "Some(" ++ quoted s ++ ")"

end BatchSql.Text
