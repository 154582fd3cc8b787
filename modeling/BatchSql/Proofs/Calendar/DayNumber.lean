import BatchSql.Calendar
import Mathlib.Tactic.Ring

namespace BatchSql.Date

/-- Days of an era of four hundred years: `a` centuries, `b` times four years and `c` years before
`day`. The last day of a leap year would begin another year if all years were of one length. -/
theorem year_of_era {a b c day : Int} (ha : 0 ≤ a ∧ a ≤ 3) (hb : 0 ≤ b ∧ b ≤ 24)
    (hc : 0 ≤ c ∧ c ≤ 3) (hday : 0 ≤ day ∧ day ≤ 365)
    (hleap : day = 365 → c = 3 ∧ (b = 24 → a = 3)) :
    let era := 36524 * a + 1461 * b + 365 * c + day
    (era - era / 1460 + era / 36524 - era / 146096) / 365 = 100 * a + 4 * b + c := by
  intro era
  have hera : era = 36524 * a + 1461 * b + 365 * c + day := rfl
  have hquads : era / 1460 = 25 * a + b + (24 * a + b + 365 * c + day) / 1460 := by
    have hsplit : era = 1460 * (25 * a + b) + (24 * a + b + 365 * c + day) := by omega
    rw [hsplit]
    omega
  have hcentury : 1461 * b + 365 * c + day < 36524 ∨ 1461 * b + 365 * c + day = 36524 ∧ a = 3 := by
    omega
  have hcenturies : era / 36524 - era / 146096 = a := by
    rcases hcentury with hlt | ⟨hlast, rfl⟩
    · have hquot : era / 36524 = a := by omega
      have hnone : era / 146096 = 0 := by omega
      omega
    · omega
  have hday' : era - era / 1460 + era / 36524 - era / 146096 =
      365 * (100 * a + 4 * b + c) + (day - (24 * a + b + 365 * c + day) / 1460) := by omega
  have hrest : 0 ≤ day - (24 * a + b + 365 * c + day) / 1460 ∧
      day - (24 * a + b + 365 * c + day) / 1460 < 365 := by omega
  rw [hday']
  omega

/-- The year that a date belongs to when years begin with March. -/
def marchYear (d : Date) : Int :=
  if d.month ≤ 2 then d.year - 1 else d.year

/-- Months since March. -/
def marchMonth (d : Date) : Int :=
  if d.month ≤ 2 then d.month + 9 else d.month - 3

/-- Days since the first of March. -/
def marchDay (d : Date) : Int :=
  (153 * d.marchMonth + 2) / 5 + d.day - 1

theorem dayNumber_eq (d : Date) :
    d.dayNumber = d.marchYear * 365 + d.marchYear / 4 - d.marchYear / 100 + d.marchYear / 400 +
      d.marchDay := by
  have hmonth : ∀ k : Int, 0 ≤ k → d.marchYear.fdiv k = d.marchYear / k := fun k hk =>
    Int.fdiv_eq_ediv_of_nonneg _ hk
  rw [← hmonth 4 (by decide), ← hmonth 100 (by decide), ← hmonth 400 (by decide)]
  rfl

/-- The month is known from the days since March, which are 365 only at the end of a leap year. -/
theorem marchDay_spec (d : Date) :
    0 ≤ d.marchDay ∧ d.marchDay ≤ 365 ∧ (5 * d.marchDay + 2) / 153 = d.marchMonth ∧
      (d.marchDay = 365 → d.month = 2 ∧ isLeapYear d.year = true) := by
  obtain ⟨year, month, day, hlow, hhigh, hmonth, hmonth', hday, hday'⟩ := d
  have hcases : month = 1 ∨ month = 2 ∨ month = 3 ∨ month = 4 ∨ month = 5 ∨ month = 6 ∨ month = 7 ∨
      month = 8 ∨ month = 9 ∨ month = 10 ∨ month = 11 ∨ month = 12 := by omega
  have hfebruary : month = 2 → (day = 29 → isLeapYear year = true) ∧ day ≤ 29 := by
    rintro rfl
    rw [daysInMonth, if_pos rfl] at hday'
    split at hday'
    · rename_i hleap
      exact ⟨fun _ => hleap, hday'⟩
    · exact ⟨fun h => by omega, by omega⟩
  simp only [marchDay, marchMonth]
  rcases hcases with rfl | rfl | rfl | rfl | rfl | rfl | rfl | rfl | rfl | rfl | rfl | rfl
  case inr.inl =>
    obtain ⟨hleap, hle⟩ := hfebruary rfl
    refine ⟨by simp only [Nat.reduceLeDiff, if_true]; omega, by simp; omega, by simp; omega, ?_⟩
    intro hlast
    exact ⟨rfl, hleap (by simp at hlast; omega)⟩
  all_goals
    simp [daysInMonth] at hday' ⊢
    omega

/-- A year by its era, its century there, the four years it is of, and its place among these. -/
theorem exists_yearParts (year : Int) :
    ∃ q a b c : Int, year = 400 * q + 100 * a + 4 * b + c ∧ (0 ≤ a ∧ a ≤ 3) ∧ (0 ≤ b ∧ b ≤ 24) ∧
      (0 ≤ c ∧ c ≤ 3) := by
  refine ⟨year / 400, year % 400 / 100, year % 100 / 4, year % 4, ?_⟩
  omega

theorem yearParts_quotients {year q a b c : Int} (hyear : year = 400 * q + 100 * a + 4 * b + c)
    (ha : 0 ≤ a ∧ a ≤ 3) (hb : 0 ≤ b ∧ b ≤ 24) (hc : 0 ≤ c ∧ c ≤ 3) :
    year / 4 = 100 * q + 25 * a + b ∧ year / 100 = 4 * q + a ∧ year / 400 = q := by
  refine ⟨?_, ?_, ?_⟩
  · omega
  · omega
  · omega

/-- The leap day ends its year, which is the last of four, and the last of a century only at the
end of an era. -/
theorem yearParts_of_leap {year q a b c : Int} (hleap : isLeapYear (year + 1) = true)
    (hyear : year = 400 * q + 100 * a + 4 * b + c) (ha : 0 ≤ a ∧ a ≤ 3) (hc : 0 ≤ c ∧ c ≤ 3) :
    c = 3 ∧ (b = 24 → a = 3) := by
  simp only [isLeapYear, Bool.and_eq_true, Bool.or_eq_true, beq_iff_eq, bne_iff_ne] at hleap
  obtain ⟨hfour, hcentury⟩ := hleap
  have hlast : c = 3 := by omega
  refine ⟨hlast, ?_⟩
  rintro rfl
  omega

/-- The month and the day of the month, from the days since the first of March. -/
theorem of_marchDay (d : Date) :
    let month := (5 * d.marchDay + 2) / 153
    let civilMonth := if month < 10 then month + 3 else month - 9
    of? (d.marchYear + if civilMonth ≤ 2 then 1 else 0) civilMonth.toNat
      (d.marchDay - (153 * month + 2) / 5 + 1).toNat = some d := by
  intro month civilMonth
  have hmonth : month = d.marchMonth := d.marchDay_spec.2.2.1
  obtain ⟨-, -, hlow, hhigh, -⟩ := d.valid
  have hcivil : civilMonth = d.month := by
    simp only [civilMonth, hmonth, marchMonth]
    split
    · split
      · omega
      · omega
    · split
      · omega
      · omega
  have hyear : d.marchYear + (if civilMonth ≤ 2 then 1 else 0) = d.year := by
    rw [hcivil, marchYear]
    by_cases h : d.month ≤ 2
    · rw [if_pos h, if_pos (by omega)]
      omega
    · rw [if_neg h, if_neg (by omega)]
      omega
  have hday : d.marchDay - (153 * month + 2) / 5 + 1 = d.day := by
    rw [hmonth, marchDay]
    omega
  rw [hyear, hcivil, hday, Int.toNat_natCast, Int.toNat_natCast, of?, dif_pos d.valid]

/-- The day with a number is the one that has it. -/
theorem ofDayNumber_dayNumber (d : Date) : ofDayNumber? d.dayNumber = some d := by
  obtain ⟨hday, hday', -, hlast⟩ := d.marchDay_spec
  obtain ⟨q, a, b, c, hparts, ha, hb, hc⟩ := exists_yearParts d.marchYear
  have hleap : d.marchDay = 365 → c = 3 ∧ (b = 24 → a = 3) := by
    intro h
    obtain ⟨hfebruary, hleap⟩ := hlast h
    have hyear : d.marchYear + 1 = d.year := by
      rw [marchYear, hfebruary, if_pos (by decide), Int.sub_add_cancel]
    rw [← hyear] at hleap
    exact yearParts_of_leap hleap hparts ha hc
  have hera : 0 ≤ 36524 * a + 1461 * b + 365 * c + d.marchDay := by omega
  have hera' : 36524 * a + 1461 * b + 365 * c + d.marchDay < 146097 := by
    by_cases h : d.marchDay = 365
    · obtain ⟨rfl, hcentury⟩ := hleap h
      omega
    · omega
  have hyear := year_of_era ha hb hc ⟨hday, hday'⟩ hleap
  dsimp only at hyear
  have hnumber : 36524 * a + 1461 * b + 365 * c + d.marchDay + 146097 * q = d.dayNumber := by
    obtain ⟨hfour, hcentury, hera⟩ := yearParts_quotients hparts ha hb hc
    rw [dayNumber_eq, hfour, hcentury, hera, hparts]
    ring
  have hofYear : 36524 * a + 1461 * b + 365 * c + d.marchDay -
      (365 * (100 * a + 4 * b + c) + (100 * a + 4 * b + c) / 4 - (100 * a + 4 * b + c) / 100) =
      d.marchDay := by
    have hyear : 100 * a + 4 * b + c = 400 * 0 + 100 * a + 4 * b + c := by ring
    obtain ⟨hfour, hcentury, -⟩ := yearParts_quotients hyear ha hb hc
    rw [hfour, hcentury]
    ring
  have hcivil : 100 * a + 4 * b + c + q * 400 = d.marchYear := by
    rw [hparts]
    ring
  obtain ⟨hcycle, hrest⟩ := (Int.ediv_emod_unique (by decide)).mpr ⟨hnumber, hera, hera'⟩
  have hof := d.of_marchDay
  rw [ofDayNumber?, Int.fdiv_eq_ediv_of_nonneg _ (by decide),
    Int.fmod_eq_emod_of_nonneg _ (by decide), hcycle, hrest]
  dsimp only at hof ⊢
  rw [hyear, hofYear, hcivil]
  exact hof

end BatchSql.Date
