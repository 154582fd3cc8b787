import BatchSql.Binary.Format

namespace BatchSql

namespace Json

/-- A number is an integer that fits 64 bits, signed or unsigned, or a finite float. -/
inductive Number where
  | integer (value : Int) (low : -2 ^ 63 ≤ value) (high : value < 2 ^ 64)
  | float (value : Binary64) (finite : value.isFinite = true)
deriving DecidableEq

namespace Number

def ofInt? (v : Int) : Option Number :=
  if h : -2 ^ 63 ≤ v ∧ v < 2 ^ 64 then some (.integer v h.1 h.2) else none

def ofBinary? (x : Binary64) : Option Number :=
  if h : x.isFinite = true then some (.float x h) else none

/-- An integer never equals a float, and floats compare as numbers. -/
def numEq : Number → Number → Bool
  | .integer a _ _, .integer b _ _ => a == b
  | .float x _, .float y _ => x.numEq y
  | _, _ => false

end Number

end Json

/-- A JSON text, the fields of an object in the order written. -/
inductive Json where
  | null
  | bool (b : Bool)
  | number (n : Json.Number)
  | string (s : String)
  | array (items : List Json)
  | object (fields : List (String × Json))

namespace Json

instance : Inhabited Json := ⟨.null⟩

/-- Adds a field where its name belongs in fields sorted by name, unless the name is there. -/
def insertField (name : String) (value : Json) : List (String × Json) → List (String × Json)
  | [] => [(name, value)]
  | (n, v) :: rest =>
    if name < n then (name, value) :: (n, v) :: rest
    else if name = n then (n, v) :: rest
    else (n, v) :: insertField name value rest

mutual

/-- Fields sorted by name, of several with one name the last. -/
def canonical : Json → Json
  | array items => array (canonicalItems items)
  | object fields => object (canonicalFields fields)
  | null => null
  | bool b => bool b
  | number n => number n
  | string s => string s

def canonicalItems : List Json → List Json
  | [] => []
  | j :: rest => canonical j :: canonicalItems rest

def canonicalFields : List (String × Json) → List (String × Json)
  | [] => []
  | (name, j) :: rest => insertField name (canonical j) (canonicalFields rest)

end

/-- Every name is less than the next one. -/
def ascending : List String → Bool
  | a :: b :: rest => a < b && ascending (b :: rest)
  | _ => true

mutual

def isCanonical : Json → Bool
  | array items => areCanonical items
  | object fields => ascending (fields.map Prod.fst) && haveCanonical fields
  | _ => true

def areCanonical : List Json → Bool
  | [] => true
  | j :: rest => isCanonical j && areCanonical rest

def haveCanonical : List (String × Json) → Bool
  | [] => true
  | (_, j) :: rest => isCanonical j && haveCanonical rest

end

mutual

/-- Equality of texts, numbers taken as numbers. -/
def numEq : Json → Json → Bool
  | null, null => true
  | bool a, bool b => a == b
  | number a, number b => a.numEq b
  | string a, string b => a == b
  | array as, array bs => itemsEq as bs
  | object as, object bs => fieldsEq as bs
  | _, _ => false

def itemsEq : List Json → List Json → Bool
  | [], [] => true
  | a :: as, b :: bs => numEq a b && itemsEq as bs
  | _, _ => false

def fieldsEq : List (String × Json) → List (String × Json) → Bool
  | [], [] => true
  | (n, a) :: as, (m, b) :: bs => n == m && numEq a b && fieldsEq as bs
  | _, _ => false

end

mutual

/-- The number of arrays and objects around the innermost value. -/
def depth : Json → Nat
  | array items => itemsDepth items + 1
  | object fields => fieldsDepth fields + 1
  | _ => 0

def itemsDepth : List Json → Nat
  | [] => 0
  | j :: rest => max (depth j) (itemsDepth rest)

def fieldsDepth : List (String × Json) → Nat
  | [] => 0
  | (_, j) :: rest => max (depth j) (fieldsDepth rest)

end

theorem ascending_cons_iff {a : String} {names : List String} :
    ascending (a :: names) = true ↔ (∀ b ∈ names.head?, a < b) ∧ ascending names = true := by
  cases names <;> simp [ascending]

theorem ascending_insertField {name : String} {value : Json} {fields : List (String × Json)}
    (h : ascending (fields.map Prod.fst) = true) :
    ascending ((insertField name value fields).map Prod.fst) = true := by
  fun_induction insertField name value fields with
  | case1 => rfl
  | case2 n v rest lt => simp_all [ascending]
  | case3 => exact h
  | case4 n v rest lt ne ih =>
    have gt : n < name := by
      rcases Std.lt_trichotomy n name with h | h | h
      · exact h
      · exact absurd h.symm ne
      · exact absurd h lt
    obtain ⟨hd, tl⟩ := ascending_cons_iff.1 h
    refine ascending_cons_iff.2 ⟨?_, ih tl⟩
    intro b hb
    cases rest with
    | nil => simp_all [insertField]
    | cons p rest =>
      obtain ⟨m, w⟩ := p
      simp only [insertField] at hb
      split at hb
      · simp_all
      · split at hb <;> simp_all

theorem haveCanonical_insertField {name : String} {value : Json} {fields : List (String × Json)}
    (hv : isCanonical value = true) (h : haveCanonical fields = true) :
    haveCanonical (insertField name value fields) = true := by
  fun_induction insertField name value fields <;> simp_all [haveCanonical]

mutual

theorem isCanonical_canonical (j : Json) : isCanonical (canonical j) = true := by
  cases j with
  | array items => simpa [canonical, isCanonical] using areCanonical_canonicalItems items
  | object fields =>
    obtain ⟨h₁, h₂⟩ := ascending_canonicalFields fields
    simp [canonical, isCanonical, h₁, h₂]
  | _ => rfl

theorem areCanonical_canonicalItems (items : List Json) :
    areCanonical (canonicalItems items) = true := by
  cases items with
  | nil => rfl
  | cons j rest =>
    simp [canonicalItems, areCanonical, isCanonical_canonical j, areCanonical_canonicalItems rest]

theorem ascending_canonicalFields (fields : List (String × Json)) :
    ascending ((canonicalFields fields).map Prod.fst) = true ∧
      haveCanonical (canonicalFields fields) = true := by
  match fields with
  | [] => exact ⟨rfl, rfl⟩
  | (name, j) :: rest =>
    obtain ⟨h₁, h₂⟩ := ascending_canonicalFields rest
    exact ⟨ascending_insertField h₁, haveCanonical_insertField (isCanonical_canonical j) h₂⟩

end

end Json

/-- A JSON value whose objects hold each name once, in ascending order. -/
structure Document where
  content : Json
  canonical : content.isCanonical = true

/-- The value that a text stands for. -/
def Json.document (j : Json) : Document :=
  ⟨j.canonical, j.isCanonical_canonical⟩

end BatchSql
