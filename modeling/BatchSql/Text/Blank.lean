namespace BatchSql.Text

/-- The code points with the property White_Space. -/
def isBlank (c : Char) : Bool :=
  let n := c.toNat
  (9 ≤ n && n ≤ 13) || n == 0x20 || n == 0x85 || n == 0xA0 || n == 0x1680 ||
    (0x2000 ≤ n && n ≤ 0x200A) || n == 0x2028 || n == 0x2029 || n == 0x202F || n == 0x205F ||
    n == 0x3000

def trimStart (cs : List Char) : List Char :=
  cs.dropWhile isBlank

def isBlankText (s : String) : Bool :=
  s.toList.all isBlank

/-- The maximal runs without blanks; `word` is the one being read. -/
def wordsFrom (word : List Char) : List Char → List (List Char)
  | [] => if word.isEmpty then [] else [word]
  | c :: cs =>
    if isBlank c then
      if word.isEmpty then wordsFrom [] cs else word :: wordsFrom [] cs
    else wordsFrom (word ++ [c]) cs

def words (s : String) : List String :=
  (wordsFrom [] s.toList).map String.ofList

/-- Runs of blanks become one space, and none stands at either end. -/
def squeeze (s : String) : String :=
  " ".intercalate (words s)

/-- Letters of ASCII match without case, all else exactly. -/
def eqIgnoreCase (a b : String) : Bool :=
  a.toList.map Char.toLower == b.toList.map Char.toLower

end BatchSql.Text
