import BatchSql.Text.Blank
import BatchSql.Text.Digits

namespace BatchSql

open Text

def isLeapYear (year : Int) : Bool :=
  year % 4 == 0 && (year % 100 != 0 || year % 400 == 0)

def daysInMonth (year : Int) (month : Nat) : Nat :=
  if month = 2 then (if isLeapYear year then 29 else 28)
  else if month = 4 ∨ month = 6 ∨ month = 9 ∨ month = 11 then 30
  else 31

/-- A day of the proleptic Gregorian calendar. -/
structure Date where
  year : Int
  month : Nat
  day : Nat
  valid : -262143 ≤ year ∧ year ≤ 262142 ∧ 1 ≤ month ∧ month ≤ 12 ∧ 1 ≤ day ∧
    day ≤ daysInMonth year month
deriving DecidableEq

namespace Date

def of? (year : Int) (month day : Nat) : Option Date :=
  if h : -262143 ≤ year ∧ year ≤ 262142 ∧ 1 ≤ month ∧ month ≤ 12 ∧ 1 ≤ day ∧
      day ≤ daysInMonth year month then
    some ⟨year, month, day, h⟩
  else none

/-- Years of five digits or more and those before the year zero have a sign. -/
def yearText (year : Int) : List Char :=
  if 0 ≤ year ∧ year ≤ 9999 then padded 4 year.toNat
  else (if year < 0 then '-' else '+') :: padded 4 year.natAbs

def text (d : Date) : List Char :=
  yearText d.year ++ '-' :: padded 2 d.month ++ '-' :: padded 2 d.day

/-- Days since the first of March of the year zero. Years are counted from March, so that the
leap day comes last, and months have the lengths of a pattern of five. -/
def dayNumber (d : Date) : Int :=
  let year := if d.month ≤ 2 then d.year - 1 else d.year
  let month : Int := if d.month ≤ 2 then d.month + 9 else d.month - 3
  let ofYear := (153 * month + 2) / 5 + d.day - 1
  year * 365 + year.fdiv 4 - year.fdiv 100 + year.fdiv 400 + ofYear

/-- The day that `dayNumber` counts, by cycles of four hundred years. -/
def ofDayNumber? (n : Int) : Option Date :=
  let cycle := n.fdiv 146097
  let day := n.fmod 146097
  let year := (day - day / 1460 + day / 36524 - day / 146096) / 365
  let ofYear := day - (365 * year + year / 4 - year / 100)
  let month := (5 * ofYear + 2) / 153
  let dayOfMonth := ofYear - (153 * month + 2) / 5 + 1
  let civilMonth := if month < 10 then month + 3 else month - 9
  let civilYear := year + cycle * 400 + (if civilMonth ≤ 2 then 1 else 0)
  of? civilYear civilMonth.toNat dayOfMonth.toNat

end Date

/-- A time of day. From a thousand million nanoseconds on it is in the leap second after its
second. Clocks show one after the second 59 alone, but any second may have one. -/
structure Time where
  hour : Nat
  minute : Nat
  second : Nat
  nano : Nat
  valid : hour < 24 ∧ minute < 60 ∧ second < 60 ∧ nano < 2000000000
deriving DecidableEq

namespace Time

def of? (hour minute second nano : Nat) : Option Time :=
  if h : hour < 24 ∧ minute < 60 ∧ second < 60 ∧ nano < 2000000000 then
    some ⟨hour, minute, second, nano, h⟩
  else none

def midnight : Time :=
  ⟨0, 0, 0, 0, by decide⟩

/-- What a clock shows has less than a second of nanoseconds, and its second 60 is the leap second
after 59. -/
def ofClock? (hour minute second nano : Nat) : Option Time :=
  if 1000000000 ≤ nano then none
  else if second = 60 then of? hour minute 59 (nano + 1000000000)
  else of? hour minute second nano

/-- No fraction, or one of three, six or nine digits. -/
def fractionText (nano : Nat) : List Char :=
  if nano = 0 then []
  else if nano % 1000000 = 0 then '.' :: padded 3 (nano / 1000000)
  else if nano % 1000 = 0 then '.' :: padded 6 (nano / 1000)
  else '.' :: padded 9 nano

def text (t : Time) : List Char :=
  let leap := if 1000000000 ≤ t.nano then 1 else 0
  padded 2 t.hour ++ ':' :: padded 2 t.minute ++ ':' :: padded 2 (t.second + leap) ++
    fractionText (t.nano - leap * 1000000000)

/-- Seconds since midnight; a leap second counts as the one before it. -/
def seconds (t : Time) : Nat :=
  t.hour * 3600 + t.minute * 60 + t.second

/-- The time at some nanoseconds after midnight. -/
def ofNanos? (n : Nat) : Option Time :=
  let s := n / 1000000000
  of? (s / 3600) (s / 60 % 60) (s % 60) (n % 1000000000)

end Time

/-- A date and a time of day, in no particular zone. -/
structure DateTime where
  date : Date
  time : Time
deriving DecidableEq

namespace DateTime

def text (t : DateTime) : List Char :=
  t.date.text ++ 'T' :: t.time.text

/-- The date and time some seconds earlier. -/
def earlier? (t : DateTime) (seconds : Int) : Option DateTime :=
  let total := t.time.seconds - seconds
  let ofDay := (total.fmod 86400).toNat
  (Date.ofDayNumber? (t.date.dayNumber + total.fdiv 86400)).bind fun date =>
    (Time.of? (ofDay / 3600) (ofDay / 60 % 60) (ofDay % 60) t.time.nano).map fun time =>
      ⟨date, time⟩

end DateTime

/-- A point in time, by its date and time in UTC. -/
structure Instant where
  utc : DateTime
deriving DecidableEq

def Instant.text (t : Instant) : List Char :=
  t.utc.text ++ ['Z']

end BatchSql
