import BatchSql.Text.Composition.Table

namespace BatchSql.Text

/-- The place of a mark among the marks of one character. Marks of different classes have an
order; 0 is the class of what is no mark of that kind. -/
def combiningClass (c : Char) : Nat :=
  ((Composition.classes.find? fun (_, table) => Span.anyHolds table c).map Prod.fst).getD 0

namespace Composition

/-! Syllables of Hangul are made of a consonant, a vowel and perhaps a consonant at the end. -/

def leadBase : Nat := 0x1100
def leadCount : Nat := 19
def vowelBase : Nat := 0x1161
def vowelCount : Nat := 21
def tailBase : Nat := 0x11A7
def tailCount : Nat := 28
def syllableBase : Nat := 0xAC00

/-- The last part of a syllable and what stands before it. -/
def syllableParts? (n : Nat) : Option (Nat × Nat) :=
  let i := n - syllableBase
  if n < syllableBase ∨ leadCount * vowelCount * tailCount ≤ i then none
  else if i % tailCount = 0 then
    let j := i / tailCount
    some (leadBase + j / vowelCount, vowelBase + j % vowelCount)
  else some (n - i % tailCount, tailBase + i % tailCount)

def syllable? (a b : Nat) : Option Nat :=
  let lead := a - leadBase
  let vowel := b - vowelBase
  let vowelled := a - syllableBase
  let tail := b - tailBase
  if leadBase ≤ a ∧ lead < leadCount ∧ vowelBase ≤ b ∧ vowel < vowelCount then
    some (syllableBase + (lead * vowelCount + vowel) * tailCount)
  else if syllableBase ≤ a ∧ vowelled < leadCount * vowelCount * tailCount ∧
      vowelled % tailCount = 0 ∧ tailBase < b ∧ tail < tailCount then some (a + tail)
  else none

/-- The two characters that one is made of. -/
def parts? (c : Char) : Option (Char × Char) :=
  let found := (syllableParts? c.toNat).orElse fun _ =>
    (pairs.find? (·.whole == c.toNat)).map fun p => (p.first, p.second)
  found.map fun (a, b) => (Char.ofNat a, Char.ofNat b)

/-- The character that two make. -/
def whole? (a b : Char) : Option Char :=
  let found := (syllable? a.toNat b.toNat).orElse fun _ =>
    (pairs.find? fun p => p.first == a.toNat && p.second == b.toNat).map Pair.whole
  found.map Char.ofNat

/-- A character in its smallest parts: only the first of two has parts again, three times at
most. -/
def decomposed : Nat → Char → List Char
  | 0, c => [c]
  | depth + 1, c =>
    match parts? c with
    | some (a, b) => decomposed depth a ++ [b]
    | none => [c]

/-- Puts a mark behind those of a lower or the same class; `before` is what stands before it, the
last character first. -/
def insertMark (c : Char) : List Char → List Char
  | [] => [c]
  | p :: before =>
    if combiningClass c ≠ 0 ∧ combiningClass c < combiningClass p then p :: insertMark c before
    else c :: p :: before

/-- Marks in the order of their classes. -/
def ordered (cs : List Char) : List Char :=
  (cs.foldl (fun before c => insertMark c before) []).reverse

/-- The character that marks join, and those behind it that did not. -/
structure Cluster where
  base : Char
  marks : List Char

namespace Cluster

def chars (k : Cluster) : List Char :=
  k.base :: k.marks

/-- Nothing of the same or a higher class stands between a character and the base. -/
def reaches (k : Cluster) (c : Char) : Bool :=
  match k.marks.getLast? with
  | none => true
  | some m => combiningClass m < combiningClass c

def joined? (k : Cluster) (c : Char) : Option Cluster :=
  if k.reaches c then (whole? k.base c).map fun w => { k with base := w } else none

end Cluster

/-- Joins characters from left to right; `k` is the cluster being made. -/
def recomposedFrom (k : Cluster) : List Char → List Char
  | [] => k.chars
  | c :: cs =>
    match k.joined? c with
    | some k => recomposedFrom k cs
    | none =>
      if combiningClass c = 0 then k.chars ++ recomposedFrom ⟨c, []⟩ cs
      else recomposedFrom { k with marks := k.marks ++ [c] } cs

def recomposed : List Char → List Char
  | [] => []
  | c :: cs =>
    if combiningClass c = 0 then recomposedFrom ⟨c, []⟩ cs else c :: recomposed cs

end Composition

/-- The composed form: characters are taken apart, their marks put in order, and what makes a
character joined again. -/
def composed (cs : List Char) : List Char :=
  Composition.recomposed (Composition.ordered (cs.flatMap (Composition.decomposed 3)))

end BatchSql.Text
