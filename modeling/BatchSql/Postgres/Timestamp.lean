import BatchSql.Calendar
import BatchSql.Octets

namespace BatchSql.Postgres

/-- The day that dates and timestamps are counted from. -/
def epoch : Date :=
  ⟨2000, 1, 1, by decide⟩

def microsPerDay : Int := 86400000000

def dayOctets (d : Date) : Octets :=
  Octets.ofInt 4 (d.dayNumber - epoch.dayNumber)

def dateOf? (days : Int) : Option Date :=
  Date.ofDayNumber? (epoch.dayNumber + days)

/-- Nanoseconds since midnight; those of a leap second come after the second before it. -/
def nanosOfDay (t : Time) : Int :=
  t.seconds * 1000000000 + t.nano

def timeOctets (t : Time) : Octets :=
  Octets.ofInt 8 (nanosOfDay t / 1000)

/-- The time some microseconds after midnight, of whatever day that is. -/
def timeOf? (micros : Int) : Option Time :=
  Time.ofNanos? ((micros.fmod microsPerDay).toNat * 1000)

/-- The microseconds since the epoch, cut toward it. -/
def micros (t : DateTime) : Int :=
  ((t.date.dayNumber - epoch.dayNumber) * 86400000000000 + nanosOfDay t.time).tdiv 1000

def timestampOctets (t : DateTime) : Octets :=
  Octets.ofInt 8 (micros t)

def dateTimeOf? (micros : Int) : Option DateTime := do
  let date ← dateOf? (micros.fdiv microsPerDay)
  let time ← timeOf? micros
  pure ⟨date, time⟩

end BatchSql.Postgres
