import BatchSql.Text.Digits
import BatchSql.Text.Split

namespace BatchSql.Url

open Text

namespace Ipv4

/-- A number of an address: hexadecimal after `0x`, octal after another leading zero. -/
def number? (cs : List Char) : Option Nat :=
  let inBase (base : Nat) (ds : List Char) : Option Nat :=
    ds.foldl (fun acc c => do
      let n ← acc
      let d ← hexDigit? c
      if d < base then some (n * base + d) else none) (some 0)
  match cs with
  | [] => none
  | '0' :: 'x' :: r => inBase 16 r
  | '0' :: 'X' :: r => inBase 16 r
  | '0' :: c :: r => inBase 8 (c :: r)
  | ds => inBase 10 ds

def parts (cs : List Char) : List (List Char) :=
  let ps := splitOn '.' cs
  if 1 < ps.length ∧ ps.getLast? = some [] then ps.dropLast else ps

/-- A host whose last part is a number can only be an address. -/
def looksLike (cs : List Char) : Bool :=
  match (parts cs).getLast? with
  | some last => (!last.isEmpty && last.all isDigit) || (number? last).isSome
  | none => false

/-- All numbers but the last take one octet, the last one the rest. -/
def parse? (cs : List Char) : Option Nat := do
  let numbers ← (parts cs).mapM number?
  let last ← numbers.getLast?
  let front := numbers.dropLast
  if 3 < front.length ∨ front.any (255 < ·) ∨ 256 ^ (4 - front.length) ≤ last then none
  else
    pure ((front.zipIdx.map fun (n, i) => n * 256 ^ (3 - i)).foldr (· + ·) last)

def text (address : Nat) : List Char :=
  let part (i : Nat) := Nat.toDigits 10 (address / 256 ^ i % 256)
  part 3 ++ '.' :: part 2 ++ '.' :: part 1 ++ '.' :: part 0

end Ipv4

namespace Ipv6

/-- At most four hexadecimal digits, and the rest. -/
def piece (cs : List Char) : List Char × List Char :=
  let ds := (cs.take 4).takeWhile fun c => (hexDigit? c).isSome
  (ds, cs.drop ds.length)

/-- An octet in decimal, without a leading zero. -/
def octet? (ds : List Char) : Option Nat :=
  match ds with
  | '0' :: _ :: _ => none
  | _ => (nat? ds).filter (· ≤ 255)

/-- The last two pieces as four octets. -/
def dotted? (cs : List Char) : Option (List Nat) :=
  match (splitOn '.' cs).mapM octet? with
  | some [a, b, c, d] => some [a * 256 + b, c * 256 + d]
  | _ => none

/-- Pieces with colons between them. Two colons in a row may stand once, for the missing zeros:
what comes after them is kept apart. `fuel` bounds the number of pieces. -/
def pieces? : Nat → Bool → List Char → Option (List Nat × Option (List Nat))
  | 0, _, cs => if cs.isEmpty then some ([], none) else none
  | _, _, [] => some ([], none)
  | fuel + 1, gapSeen, ':' :: r =>
    if gapSeen then none
    else (pieces? fuel true r).map fun (after, _) => ([], some after)
  | fuel + 1, gapSeen, cs =>
    let (ds, r) := piece cs
    match r with
    | [] => some ([hexValue ds], none)
    | ':' :: r =>
      if r.isEmpty then none
      else (pieces? fuel gapSeen r).map fun (ps, gap) => (hexValue ds :: ps, gap)
    | '.' :: _ => if ds.isEmpty then none else (dotted? cs).map fun ps => (ps, none)
    | _ => none

/-- Eight pieces, or fewer around a gap. -/
def parse? (cs : List Char) : Option (List Nat) :=
  let read : Option (List Nat × Option (List Nat)) := match cs with
    | ':' :: ':' :: r => (pieces? 8 true r).map fun (after, _) => ([], some after)
    | ':' :: _ => none
    | [] => none
    | [_] => none
    | cs => pieces? 9 false cs
  match read with
  | some (before, some after) =>
    let size := before.length + after.length
    if size ≤ 7 then some (before ++ List.replicate (8 - size) 0 ++ after) else none
  | some (ps, none) => if ps.length = 8 then some ps else none
  | none => none

/-- The number of zeros at the front. -/
def zeros (ps : List Nat) : Nat :=
  (ps.takeWhile (· == 0)).length

/-- Where the longest run of zeros stands and how long it is, if it has two pieces or more. Of
several the first counts. -/
def gap? (ps : List Nat) : Option (Nat × Nat) :=
  let runs := (List.range ps.length).map fun i => (i, zeros (ps.drop i))
  let longest := runs.foldl (fun best r => if best.2 < r.2 then r else best) (0, 0)
  if longest.2 < 2 then none else some longest

def joined (ps : List Nat) : List Char :=
  (":".intercalate (ps.map hex)).toList

def text (ps : List Nat) : List Char :=
  match gap? ps with
  | none => joined ps
  | some (start, length) => joined (ps.take start) ++ ':' :: ':' :: joined (ps.drop (start + length))

end Ipv6

end BatchSql.Url
