namespace BatchSql

/-- A text that is never shown. -/
structure Secret where
  content : String
deriving DecidableEq

namespace Secret

/-- What stands for a secret in a text for people. -/
def shown (_ : Secret) : String :=
  "[REDACTED]"

/-- What stands for a secret in data. -/
def written (_ : Secret) : String :=
  "***REDACTED***"

def shownOption : Option Secret → String
  | some s => "Some(" ++ s.shown ++ ")"
  | none => "None"

end Secret

end BatchSql
