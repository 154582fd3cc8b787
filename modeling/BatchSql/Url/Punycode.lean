import BatchSql.Power
import BatchSql.Text.Split

namespace BatchSql.Url.Punycode

def digit (n : Nat) : Char :=
  if n < 26 then Char.ofNat ('a'.toNat + n) else Char.ofNat ('0'.toNat + (n - 26))

/-- Letters of either case, and then digits. -/
def digit? (c : Char) : Option Nat :=
  if 'a' ≤ c ∧ c ≤ 'z' then some (c.toNat - 'a'.toNat)
  else if 'A' ≤ c ∧ c ≤ 'Z' then some (c.toNat - 'A'.toNat)
  else if '0' ≤ c ∧ c ≤ '9' then some (c.toNat - '0'.toNat + 26)
  else none

/-- Divides by 35 until the quotient is small enough. -/
def reduce (k delta : Nat) : Nat :=
  if 455 < delta then reduce (k + 36) (delta / 35) else k + 36 * delta / (delta + 38)
termination_by delta
decreasing_by exact Nat.div_lt_self (by omega) (by decide)

def adapt (delta points : Nat) (first : Bool) : Nat :=
  let delta := if first then delta / 700 else delta / 2
  reduce 0 (delta + delta / points)

/-- The least digit after which another one follows. -/
def threshold (k bias : Nat) : Nat :=
  min 26 (max 1 (k - bias))

theorem threshold_pos (k bias : Nat) : 0 < threshold k bias := by
  unfold threshold
  omega

def startPoint : Nat := 0x80

def startBias : Nat := 72

def isBasic (c : Char) : Bool :=
  c.toNat < startPoint

/-- A number with digits of growing weight. -/
def weighted (bias k q : Nat) : List Char :=
  let t := threshold k bias
  if q < t then [digit q]
  else digit (t + (q - t) % (36 - t)) :: weighted bias (k + 36) ((q - t) / (36 - t))
termination_by q
decreasing_by
  have := threshold_pos k bias
  have := Nat.div_le_self (q - threshold k bias) (36 - threshold k bias)
  omega

/-- What has been written, and the point from which the next ones are counted. -/
structure Writing where
  point : Nat
  delta : Nat
  bias : Nat
  handled : Nat
  output : List Char

/-- Writes the positions of one code point. -/
def pass (basic : Nat) (s : Writing) (points : List Nat) : Writing :=
  points.foldl (fun s c =>
    if c < s.point then { s with delta := s.delta + 1 }
    else if c = s.point then
      { s with
        delta := 0
        bias := adapt s.delta (s.handled + 1) (s.handled == basic)
        handled := s.handled + 1
        output := s.output ++ weighted s.bias 36 s.delta }
    else s) s

/-- Goes to a code point, writes its positions and steps past it. -/
def advance (basic : Nat) (points : List Nat) (s : Writing) (m : Nat) : Writing :=
  let delta := s.delta + (m - s.point) * (s.handled + 1)
  let s := pass basic { s with delta := delta, point := m } points
  { s with delta := s.delta + 1, point := s.point + 1 }

/-- The basic characters come first, and then the others by their code points in ascending
order. -/
def encode (label : List Char) : List Char :=
  let points := label.map Char.toNat
  let basic := label.filter isBasic
  let others := (points.filter (startPoint ≤ ·)).mergeSort.eraseDups
  let s := others.foldl (advance basic.length points)
    ⟨startPoint, 0, startBias, basic.length, []⟩
  basic ++ (if basic.isEmpty then [] else ['-']) ++ s.output

/-- Numbers that do not fit are refused. -/
def bound : Nat := 2 ^ 32

/-- A number at the front: its value added to `i`, and the rest. -/
def number? (bias k weight i : Nat) : List Char → Option (Nat × List Char)
  | [] => none
  | c :: cs => do
    let d ← digit? c
    let t := threshold k bias
    let i := i + d * weight
    if bound ≤ i then none
    else if d < t then some (i, cs)
    else if bound ≤ weight * (36 - t) then none
    else number? bias (k + 36) (weight * (36 - t)) i cs

theorem length_number? {bias k weight i j : Nat} {cs rest : List Char}
    (h : number? bias k weight i cs = some (j, rest)) : rest.length < cs.length := by
  induction cs generalizing k weight i with
  | nil => simp [number?] at h
  | cons c cs ih =>
    simp only [number?, Option.bind_eq_bind, Option.bind_eq_some_iff] at h
    obtain ⟨d, _, h⟩ := h
    split at h
    · simp at h
    · split at h
      · simp only [Option.some.injEq, Prod.mk.injEq] at h
        obtain ⟨_, rfl⟩ := h
        simp
      · split at h
        · simp at h
        · have := ih h
          simp only [List.length_cons]
          omega

/-- A scalar value of the character set. -/
def scalar? (n : Nat) : Option Char :=
  if n < 0xD800 ∨ (0xE000 ≤ n ∧ n < 0x110000) then some (Char.ofNat n) else none

/-- Inserts a character for each number. -/
def decodeFrom (bias point i : Nat) (output : List Char) (cs : List Char) : Option (List Char) :=
  match cs with
  | [] => some output
  | c :: r =>
    match h : number? bias 36 1 i (c :: r) with
    | none => none
    | some (j, rest) => do
      have := length_number? h
      let count := output.length + 1
      let point := point + j / count
      let c ← scalar? point
      let place := j % count
      decodeFrom (adapt (j - i) count (i == 0)) point (place + 1)
        (output.take place ++ c :: output.drop place) rest
termination_by cs.length
decreasing_by simp only [List.length_cons] at *; omega

/-- What stands before the last hyphen is kept, in small letters, and the rest tells what to
insert. -/
def decode? (cs : List Char) : Option (List Char) :=
  let digits := (cs.reverse.takeWhile (· != '-')).reverse
  let basic := cs.take (cs.length - digits.length - 1)
  if digits.length = cs.length then decodeFrom startBias startPoint 0 [] digits
  else if basic.isEmpty ∨ !basic.all isBasic then none
  else decodeFrom startBias startPoint 0 (basic.map Char.toLower) digits

end BatchSql.Url.Punycode
