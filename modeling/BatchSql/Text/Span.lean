import BatchSql.Text.Digits
import BatchSql.Text.Split

namespace BatchSql.Text

/-- The code points from a first to a last one. -/
structure Span where
  first : Nat
  last : Nat

namespace Span

def holds (s : Span) (n : Nat) : Bool :=
  s.first ≤ n && n ≤ s.last

/-- One hexadecimal number, or two with a hyphen between them. -/
def ofText (cs : List Char) : Span :=
  match cut (· == '-') cs with
  | some (first, last) => ⟨hexValue first, hexValue last⟩
  | none => ⟨hexValue cs, hexValue cs⟩

end Span

/-- The parts of the rows of a table, with one space between two. -/
def cells (rows : List String) : List (List Char) :=
  rows.flatMap fun row => splitOn ' ' row.toList

def spans (rows : List String) : List Span :=
  (cells rows).map Span.ofText

def Span.anyHolds (table : List Span) (c : Char) : Bool :=
  table.any (·.holds c.toNat)

end BatchSql.Text
