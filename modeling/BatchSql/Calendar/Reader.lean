import BatchSql.Calendar

namespace BatchSql.Calendar

open Text

/-- A part of a text that gives a value and leaves a rest. -/
abbrev Reader (α : Type) := List Char → Option (α × List Char)

/-- Digits after blanks, at most `width` of them. -/
def number (width : Nat) : Reader Nat := fun cs =>
  let cs := trimStart cs
  let ds := (cs.take width).takeWhile isDigit
  (nat? ds).map fun n => (n, cs.drop ds.length)

/-- Any number of digits in the range of 64 bits. -/
def longNumber : Reader Nat := fun cs =>
  let ds := cs.takeWhile isDigit
  (nat? ds).bind fun n => if n < 2 ^ 63 then some (n, cs.drop ds.length) else none

/-- A year has four digits at most, or a sign and any number of digits. -/
def year : Reader Int := fun cs =>
  match trimStart cs with
  | '-' :: r => (longNumber r).map fun (n, r) => (-(n : Int), r)
  | '+' :: r => (longNumber r).map fun (n, r) => ((n : Int), r)
  | r => (number 4 r).map fun (n, r) => ((n : Int), r)

/-- A character that blanks may precede. -/
def mark (c : Char) : Reader Unit := fun cs =>
  match trimStart cs with
  | [] => none
  | d :: r => if d = c then some ((), r) else none

def date : Reader Date := fun cs => do
  let (year, r) ← year cs
  let (_, r) ← mark '-' r
  let (month, r) ← number 2 r
  let (_, r) ← mark '-' r
  let (day, r) ← number 2 r
  let date ← Date.of? year month day
  pure (date, r)

/-- Digits after a point, in nanoseconds; those past the ninth do not count. -/
def fraction : Reader Nat := fun cs =>
  match cs with
  | '.' :: r =>
    let ds := (r.takeWhile isDigit)
    (nat? (ds.take 9)).map fun n => (n * 10 ^ (9 - ds.length), r.drop ds.length)
  | r => some (0, r)

def seconds : Reader (Nat × Nat) := fun cs => do
  let (_, r) ← mark ':' cs
  let (second, r) ← number 2 r
  let (nano, r) ← fraction r
  pure ((second, nano), r)

def hourMinute : Reader (Nat × Nat) := fun cs => do
  let (hour, r) ← number 2 cs
  let (_, r) ← mark ':' r
  let (minute, r) ← number 2 r
  pure ((hour, minute), r)

def clock : Reader Time := fun cs => do
  let ((hour, minute), r) ← hourMinute cs
  let ((second, nano), r) ← seconds r
  let time ← Time.ofClock? hour minute second nano
  pure (time, r)

/-- A time whose seconds may be missing. -/
def shortClock : Reader Time := fun cs =>
  (clock cs).orElse fun _ => do
    let ((hour, minute), r) ← hourMinute cs
    let time ← Time.of? hour minute 0 0
    pure (time, r)

/-- A two-digit number below a bound, with nothing before it. -/
def pair (bound : Nat) : Reader Nat := fun cs =>
  match cs with
  | a :: b :: r => (nat? [a, b]).bind fun n => if n < bound then some (n, r) else none
  | _ => none

def isOffsetMark (c : Char) : Bool :=
  c == ':' || isBlank c

/-- Seconds east of UTC: a letter, or a sign with hours and minutes. -/
def offset : Reader Int := fun cs =>
  match cs with
  | [] => none
  | c :: r =>
    if eqIgnoreCase (String.ofList (cs.take 3)) "UTC" then some (0, cs.drop 3)
    else if c = 'Z' ∨ c = 'z' then some (0, r)
    else if c = '+' ∨ c = '-' ∨ c = '\u2212' then do
      let (hours, r) ← pair 100 r
      let (minutes, r) ← pair 60 (r.dropWhile isOffsetMark)
      let seconds : Int := hours * 3600 + minutes * 60
      pure (if c = '+' then seconds else -seconds, r)
    else none

/-- The value of a whole text, blanks at its end apart. -/
def whole (read : Reader α) (s : String) : Option α :=
  match read s.toList with
  | some (a, r) => if (trimStart r).isEmpty then some a else none
  | none => none

end Calendar

open Calendar (whole shortClock)

def Date.ofText? : String → Option Date :=
  whole Calendar.date

def Time.ofText? : String → Option Time :=
  whole shortClock

/-- A `T` stands before the time. -/
def DateTime.ofText? : String → Option DateTime :=
  whole fun cs => do
    let (date, r) ← Calendar.date cs
    let (_, r) ← Calendar.mark 'T' r
    let (time, r) ← Calendar.clock r
    pure (⟨date, time⟩, r)

/-- A date and time with its offset from UTC, which is less than a day. -/
def Instant.ofText? : String → Option Instant :=
  whole fun cs => do
    let (date, r) ← Calendar.date cs
    let r ← match r with
      | 'T' :: r => some r
      | 't' :: r => some r
      | ' ' :: r => some r
      | _ => none
    let (time, r) ← Calendar.clock r
    let (offset, r) ← Calendar.offset (Text.trimStart r)
    if offset.natAbs < 86400 then
      let utc ← DateTime.earlier? ⟨date, time⟩ offset
      pure (⟨utc⟩, r)
    else none

end BatchSql
