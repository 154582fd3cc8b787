import BatchSql.Calendar.Reader
import BatchSql.Proofs.Calendar.DayNumber
import BatchSql.Proofs.Text.Digits

namespace BatchSql

open Text

namespace Time

/-- A leap second stands where a clock shows one, after the second 59. -/
def OnClock (t : Time) : Prop :=
  1000000000 ≤ t.nano → t.second = 59

instance (t : Time) : Decidable t.OnClock :=
  inferInstanceAs (Decidable (1000000000 ≤ t.nano → t.second = 59))

theorem shown_valid {t : Time} (h : 1000000000 ≤ t.nano ∧ t.second ≠ 59) :
    t.hour < 24 ∧ t.minute < 60 ∧ t.second + 1 < 60 ∧ t.nano - 1000000000 < 2000000000 := by
  obtain ⟨hhour, hminute, hsecond, hnano⟩ := t.valid
  exact ⟨hhour, hminute, by omega, by omega⟩

/-- The time that a text shows. A leap second that is on no clock looks like the second after it. -/
def shown (t : Time) : Time :=
  if h : 1000000000 ≤ t.nano ∧ t.second ≠ 59 then
    ⟨t.hour, t.minute, t.second + 1, t.nano - 1000000000, shown_valid h⟩
  else t

theorem shown_eq_iff (t : Time) : t.shown = t ↔ t.OnClock := by
  rw [shown, OnClock]
  split
  · rename_i h
    constructor
    · intro he
      have hsecond : t.second + 1 = t.second := congrArg Time.second he
      omega
    · intro hclock
      exact absurd (hclock h.1) h.2
  · rename_i h
    exact iff_of_true rfl fun hleap => Decidable.not_not.mp fun hsecond => h ⟨hleap, hsecond⟩

end Time

namespace Calendar

variable {width n : Nat} {rest : List Char}

theorem trimStart_padded (width n : Nat) (rest : List Char) :
    trimStart (padded width n ++ rest) = padded width n ++ rest := by
  obtain ⟨c, cs, hpadded, hc⟩ := exists_padded width n
  rw [hpadded, List.cons_append, trimStart_cons (not_isBlank_of_isDigit hc)]

/-- A number that fills its width ends there, whatever follows. -/
theorem number_padded (hw : 0 < width) (h : n < 10 ^ width) (rest : List Char) :
    number width (padded width n ++ rest) = some (n, rest) := by
  have hdigits := takeWhile_padded width n apart_nil
  rw [List.append_nil] at hdigits
  rw [number, trimStart_padded, List.take_left' (length_padded hw h), hdigits, nat_padded,
    List.drop_left]
  rfl

theorem longNumber_padded (width : Nat) (h : n < 2 ^ 63) (hr : Apart rest) :
    longNumber (padded width n ++ rest) = some (n, rest) := by
  rw [longNumber, takeWhile_padded width n hr, nat_padded, Option.bind_some, if_pos h,
    List.drop_left]

theorem mark_cons {c : Char} (h : isBlank c = false) (rest : List Char) :
    mark c (c :: rest) = some ((), rest) := by
  rw [mark, trimStart_cons h]
  exact if_pos rfl

/-- A year that begins with a digit has four of them at most. -/
theorem year_digit {c : Char} (h : isDigit c = true) (cs : List Char) :
    year (c :: cs) = (number 4 (c :: cs)).map fun (n, r) => ((n : Int), r) := by
  rw [year, trimStart_cons (not_isBlank_of_isDigit h)]
  split
  · rename_i he
    rw [(List.cons.inj he).1] at h
    exact absurd h (by decide)
  · rename_i he
    rw [(List.cons.inj he).1] at h
    exact absurd h (by decide)
  · rfl

/-- A year has a sign unless it has four digits. -/
theorem year_yearText {y : Int} (hlow : -262143 ≤ y) (hhigh : y ≤ 262142) (hr : Apart rest) :
    year (Date.yearText y ++ rest) = some (y, rest) := by
  have hlong := longNumber_padded 4 (show y.natAbs < 2 ^ 63 by omega) hr
  rw [Date.yearText]
  split
  · rename_i hshort
    have hnumber := number_padded (show 0 < 4 by decide) (show y.toNat < 10 ^ 4 by omega) rest
    obtain ⟨c, cs, hpadded, hc⟩ := exists_padded 4 y.toNat
    rw [hpadded, List.cons_append] at hnumber ⊢
    rw [year_digit hc, hnumber, Option.map_some]
    dsimp only
    rw [Int.toNat_of_nonneg hshort.1]
  · rename_i hsigned
    by_cases hneg : y < 0
    · have hvalue : -(y.natAbs : Int) = y := by omega
      rw [if_pos hneg, List.cons_append, year, trimStart_cons (by decide)]
      change (longNumber _).map (fun p => (-(p.1 : Int), p.2)) = _
      rw [hlong]
      change some (_, rest) = _
      rw [hvalue]
    · have hvalue : (y.natAbs : Int) = y := by omega
      rw [if_neg hneg, List.cons_append, year, trimStart_cons (by decide)]
      change (longNumber _).map (fun p => ((p.1 : Int), p.2)) = _
      rw [hlong]
      change some (_, rest) = _
      rw [hvalue]

/-- A date is read from its text, whatever follows. -/
theorem date_text (d : Date) (rest : List Char) : date (d.text ++ rest) = some (d, rest) := by
  obtain ⟨hlow, hhigh, hmonth, hmonth', hday, hday'⟩ := d.valid
  have htext : d.text ++ rest =
      Date.yearText d.year ++ ('-' :: (padded 2 d.month ++ ('-' :: (padded 2 d.day ++ rest)))) := by
    simp [Date.text]
  have happart : Apart ('-' :: (padded 2 d.month ++ ('-' :: (padded 2 d.day ++ rest)))) :=
    apart_cons (by decide)
  have hyear := year_yearText hlow hhigh happart
  have hmonth := number_padded (show 0 < 2 by decide) (show d.month < 10 ^ 2 by omega)
    ('-' :: (padded 2 d.day ++ rest))
  have hlength : daysInMonth d.year d.month ≤ 31 := by
    rw [daysInMonth]
    split
    · split
      · decide
      · decide
    · split
      · decide
      · decide
  have hday := number_padded (show 0 < 2 by decide) (show d.day < 10 ^ 2 by omega) rest
  have hof : Date.of? d.year d.month d.day = some d := dif_pos d.valid
  rw [htext, date]
  simp only [hyear, hmonth, hday, hof, mark_cons (show isBlank '-' = false by decide),
    Option.bind_eq_bind, Option.bind_some]
  rfl

/-- What may follow a time: no more digits, and no point. -/
def After (rest : List Char) : Prop :=
  ∀ c ∈ rest.head?, isDigit c = false ∧ c ≠ '.'

theorem fraction_padded {k : Nat} (hk : 0 < k) (hk' : k ≤ 9) (h : n < 10 ^ k) (hr : Apart rest) :
    fraction ('.' :: padded k n ++ rest) = some (n * 10 ^ (9 - k), rest) := by
  have hlength := length_padded hk h
  have htake : (padded k n).take 9 = padded k n := List.take_of_length_le (by omega)
  rw [List.cons_append, fraction, takeWhile_padded k n hr, htake, nat_padded, List.drop_left,
    hlength]
  rfl

/-- Nanoseconds are read from the digits that show them. -/
theorem fraction_fractionText {nano : Nat} (h : nano < 1000000000) (hr : After rest) :
    fraction (Time.fractionText nano ++ rest) = some (nano, rest) := by
  have happart : Apart rest := fun c hc => (hr c hc).1
  rw [Time.fractionText]
  split
  · rename_i hzero
    rw [hzero, List.nil_append, fraction.eq_def]
    split
    · exact absurd rfl (hr '.' rfl).2
    · rfl
  · split
    · rename_i hmillis
      rw [fraction_padded (by decide) (by decide) (by omega) happart]
      simp only [Option.some.injEq, Prod.mk.injEq, and_true]
      omega
    · split
      · rename_i hmicros
        rw [fraction_padded (by decide) (by decide) (by omega) happart]
        simp only [Option.some.injEq, Prod.mk.injEq, and_true]
        omega
      · rw [fraction_padded (by decide) (by decide) (by omega) happart]
        simp

/-- The parts of a clock, each from its digits. -/
theorem clock_parts {hour minute second nano : Nat} (hhour : hour < 100) (hminute : minute < 100)
    (hsecond : second < 100) (hnano : nano < 1000000000) (hr : After rest) :
    clock (padded 2 hour ++ ':' :: padded 2 minute ++ ':' :: padded 2 second ++
        Time.fractionText nano ++ rest) =
      (Time.ofClock? hour minute second nano).map fun t => (t, rest) := by
  have hseconds := number_padded (show 0 < 2 by decide) hsecond (Time.fractionText nano ++ rest)
  have hminutes := number_padded (show 0 < 2 by decide) hminute
    (':' :: (padded 2 second ++ (Time.fractionText nano ++ rest)))
  have hhours := number_padded (show 0 < 2 by decide) hhour
    (':' :: (padded 2 minute ++ (':' :: (padded 2 second ++ (Time.fractionText nano ++ rest)))))
  have hfraction := fraction_fractionText hnano hr
  simp only [clock, hourMinute, seconds, List.append_assoc, List.cons_append, hhours, hminutes,
    hseconds, hfraction, mark_cons (show isBlank ':' = false by decide), Option.bind_eq_bind,
    Option.bind_some, pure]
  rw [Option.map_eq_bind]
  rfl

/-- A text is read as the time that it shows; the leap second of a clock is its second 60. -/
theorem clock_text (t : Time) (hr : After rest) :
    clock (t.text ++ rest) = some (t.shown, rest) := by
  obtain ⟨hhour, hminute, hsecond, hnano⟩ := t.valid
  by_cases h : 1000000000 ≤ t.nano
  · have htext : t.text = padded 2 t.hour ++ ':' :: padded 2 t.minute ++ ':' ::
        padded 2 (t.second + 1) ++ Time.fractionText (t.nano - 1000000000) := by
      rw [Time.text]
      simp only [if_pos h, Nat.one_mul]
    rw [htext, clock_parts (by omega) (by omega) (by omega) (by omega) hr]
    by_cases hlast : t.second = 59
    · have hclock :
          Time.ofClock? t.hour t.minute (t.second + 1) (t.nano - 1000000000) = some t := by
        rw [Time.ofClock?, if_neg (by omega), if_pos (by omega), ← hlast, Nat.sub_add_cancel h]
        exact dif_pos t.valid
      rw [hclock, Time.shown, dif_neg (by simp [hlast])]
      rfl
    · have hshown := Time.shown_valid ⟨h, hlast⟩
      have hclock : Time.ofClock? t.hour t.minute (t.second + 1) (t.nano - 1000000000) =
          some t.shown := by
        rw [Time.ofClock?, if_neg (by omega), if_neg (by omega), Time.shown, dif_pos ⟨h, hlast⟩]
        exact dif_pos hshown
      rw [hclock]
      rfl
  · have htext : t.text = padded 2 t.hour ++ ':' :: padded 2 t.minute ++ ':' :: padded 2 t.second ++
        Time.fractionText t.nano := by
      rw [Time.text]
      simp only [if_neg h, Nat.zero_mul, Nat.add_zero, Nat.sub_zero]
    have hclock : Time.ofClock? t.hour t.minute t.second t.nano = some t := by
      rw [Time.ofClock?, if_neg h, if_neg (by omega)]
      exact dif_pos t.valid
    rw [htext, clock_parts (by omega) (by omega) (by omega) (by omega) hr, hclock, Time.shown,
      dif_neg (by simp [h])]
    rfl

theorem after_nil : After [] :=
  nofun

theorem whole_text {α : Type} {read : Reader α} {cs : List Char} {a : α}
    (h : read cs = some (a, [])) : whole read (String.ofList cs) = some a := by
  rw [whole, String.toList_ofList, h]
  rfl

end Calendar

/-- A date is read back from its text. -/
theorem Date.ofText_text (d : Date) : Date.ofText? (String.ofList d.text) = some d := by
  have hread := Calendar.date_text d []
  rw [List.append_nil] at hread
  exact Calendar.whole_text hread

/-- A text is read back as the time that it shows. -/
theorem Time.ofText_text (t : Time) : Time.ofText? (String.ofList t.text) = some t.shown := by
  have hread := Calendar.clock_text t Calendar.after_nil
  rw [List.append_nil] at hread
  apply Calendar.whole_text
  rw [Calendar.shortClock, hread]
  rfl

/-- The date and the time that a text shows. -/
def DateTime.shown (t : DateTime) : DateTime :=
  ⟨t.date, t.time.shown⟩

theorem DateTime.shown_eq_iff (t : DateTime) : t.shown = t ↔ t.time.OnClock := by
  rw [← t.time.shown_eq_iff]
  exact ⟨congrArg DateTime.time, congrArg (DateTime.mk t.date)⟩

/-- A date with a time is read back as its text shows them. -/
theorem DateTime.ofText_text (t : DateTime) :
    DateTime.ofText? (String.ofList t.text) = some t.shown := by
  have hclock := Calendar.clock_text t.time Calendar.after_nil
  rw [List.append_nil] at hclock
  apply Calendar.whole_text
  rw [DateTime.text, Calendar.date_text]
  simp only [Calendar.mark_cons (show isBlank 'T' = false by decide), hclock, Option.bind_eq_bind,
    Option.bind_some]
  rfl

/-- No seconds earlier is the same time. -/
theorem DateTime.earlier_zero (t : DateTime) : t.earlier? 0 = some t := by
  obtain ⟨hhour, hminute, hsecond, -⟩ := t.time.valid
  have hof : Time.of? t.time.hour t.time.minute t.time.second t.time.nano = some t.time :=
    dif_pos t.time.valid
  have hseconds : (t.time.seconds : Int) - 0 = t.time.seconds := Int.sub_zero _
  have hbound : t.time.seconds < 86400 := by
    rw [Time.seconds]
    omega
  have hday : (t.time.seconds : Int).fdiv 86400 = 0 := by
    rw [Int.fdiv_eq_ediv_of_nonneg _ (by decide)]
    omega
  have hclock : (t.time.seconds : Int).fmod 86400 = t.time.seconds := by
    rw [Int.fmod_eq_emod_of_nonneg _ (by decide)]
    omega
  have hhours : t.time.seconds / 3600 = t.time.hour := by
    rw [Time.seconds]
    omega
  have hminutes : t.time.seconds / 60 % 60 = t.time.minute := by
    rw [Time.seconds]
    omega
  have hrest : t.time.seconds % 60 = t.time.second := by
    rw [Time.seconds]
    omega
  rw [DateTime.earlier?, hseconds, hday, hclock, Int.add_zero, Date.ofDayNumber_dayNumber,
    Int.toNat_natCast, hhours, hminutes, hrest, hof]
  rfl

/-- The point in time that a text shows. -/
def Instant.shown (t : Instant) : Instant :=
  ⟨t.utc.shown⟩

theorem Instant.shown_eq_iff (t : Instant) : t.shown = t ↔ t.utc.time.OnClock := by
  rw [← t.utc.shown_eq_iff]
  exact ⟨congrArg Instant.utc, congrArg Instant.mk⟩

/-- A point in time is read back as its text shows it. -/
theorem Instant.ofText_text (t : Instant) :
    Instant.ofText? (String.ofList t.text) = some t.shown := by
  have hafter : Calendar.After ['Z'] := by
    rintro _ ⟨rfl⟩
    decide
  have hclock := Calendar.clock_text t.utc.time hafter
  have hoffset : Calendar.offset (trimStart ['Z']) = some (0, []) := by decide
  apply Calendar.whole_text
  have htext : t.text = t.utc.date.text ++ 'T' :: (t.utc.time.text ++ ['Z']) := by
    simp [Instant.text, DateTime.text]
  rw [htext, Calendar.date_text]
  simp only [hclock, hoffset, Option.bind_eq_bind, Option.bind_some]
  rw [if_pos (by decide), DateTime.earlier_zero]
  rfl

end BatchSql
