import BatchSql.Url.Parser

namespace BatchSql.Url

def mask : List Char :=
  ['*', '*', '*']

def occursIn (word : List Char) : List Char → Bool
  | [] => word.isEmpty
  | c :: cs => word.isPrefixOf (c :: cs) || occursIn word cs

/-- The URL with its password hidden. One that may have none stays as it is. -/
def masked (u : Url) : Url :=
  if u.password?.isSome then (u.withPassword? mask).getD u else u

/-- A text for display. A URL shows no password; of another text that speaks of one nothing
is shown. -/
def redacted (s : String) : String :=
  match parse? s with
  | some u => String.ofList u.masked.text
  | none => if occursIn "password".toList s.toList then String.ofList mask else s

end BatchSql.Url
