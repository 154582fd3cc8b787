import BatchSql.Decimal
import BatchSql.Proofs.Text.Digits

namespace BatchSql.Decimal

open Text

namespace Reading

variable {negative pointed started : Bool} {n k : Nat} {ds : List Nat}

/-- A digit that finds room is taken. -/
theorem run_digit {d : Nat} (hd : d < 10) (hroom : n * 10 + d < bound)
    (hplaces : pointed = true → k < maxScale) (rest : List Char) :
    run negative ⟨n, k, pointed, started⟩ (d.digitChar :: rest) =
      run negative ⟨n * 10 + d, if pointed then k + 1 else 0, pointed, true⟩ rest := by
  rw [run, digit_digitChar hd]
  refine if_neg ?_
  rintro (⟨hpointed, hfull⟩ | hfull)
  · exact absurd (hplaces hpointed) (Nat.not_lt.mpr hfull)
  · exact absurd hroom (Nat.not_lt.mpr hfull)

/-- Digits before the point. -/
theorem run_whole (h : AreDigits ds) (hroom : valueFrom n ds < bound) (hne : ds ≠ [])
    (rest : List Char) :
    run negative ⟨n, 0, false, started⟩ (digitChars ds ++ rest) =
      run negative ⟨valueFrom n ds, 0, false, true⟩ rest := by
  induction ds generalizing n started with
  | nil => exact absurd rfl hne
  | cons d ds ih =>
    rw [AreDigits, List.forall_mem_cons] at h
    have hlow : n * 10 + d < bound := Nat.lt_of_le_of_lt (le_valueFrom _ ds) hroom
    have hplaces : false = true → 0 < maxScale := fun hpointed => absurd hpointed Bool.false_ne_true
    rw [digitChars_cons, List.cons_append, run_digit h.1 hlow hplaces, if_neg Bool.false_ne_true]
    cases ds with
    | nil => rfl
    | cons e es => exact ih h.2 hroom (List.cons_ne_nil e es)

/-- Digits after the point, as many as places are left. -/
theorem run_places (h : AreDigits ds) (hroom : valueFrom n ds < bound)
    (hplaces : k + ds.length ≤ maxScale) :
    run negative ⟨n, k, true, true⟩ (digitChars ds) =
      finish negative (valueFrom n ds) (k + ds.length) := by
  induction ds generalizing n k with
  | nil => rfl
  | cons d ds ih =>
    rw [AreDigits, List.forall_mem_cons] at h
    rw [List.length_cons] at hplaces
    have hlow : n * 10 + d < bound := Nat.lt_of_le_of_lt (le_valueFrom _ ds) hroom
    have hplace : k < maxScale := by omega
    rw [digitChars_cons, run_digit h.1 hlow fun _ => hplace, if_pos rfl,
      ih h.2 hroom (by omega), List.length_cons, Nat.add_right_comm, Nat.add_assoc]
    rfl

end Reading

/-- The decimal as its text is read: a zero loses its sign. -/
def reread (d : Decimal) : Decimal :=
  { d with negative := d.negative && d.digits != 0 }

theorem numEq_reread (d : Decimal) : d.numEq d.reread = true := by
  have hmantissa : d.reread.mantissa = d.mantissa := by
    rw [mantissa, mantissa, reread]
    by_cases hzero : d.digits = 0
    · simp [hzero]
    · simp [hzero]
  rw [numEq, hmantissa, beq_iff_eq]
  rfl

/-- The digits of a text, with those that fill it up to the point. -/
def digitList (d : Decimal) : List Nat :=
  List.replicate (d.scale + 1 - (digitsOf d.digits).length) 0 ++ digitsOf d.digits

theorem areDigits_digitList (d : Decimal) : AreDigits d.digitList :=
  areDigits_padded _ _

theorem valueFrom_digitList (d : Decimal) : valueFrom 0 d.digitList = d.digits := by
  rw [digitList, valueFrom_append, valueFrom_replicate_zero, valueFrom_digitsOf]

theorem scale_lt_length (d : Decimal) : d.scale < d.digitList.length := by
  rw [digitList, List.length_append, List.length_replicate]
  omega

/-- The text without the sign. -/
def unsignedText (d : Decimal) : List Char :=
  let places := d.digitList.length - d.scale
  if d.scale = 0 then digitChars d.digitList
  else digitChars (d.digitList.take places) ++ '.' :: digitChars (d.digitList.drop places)

theorem text_eq (d : Decimal) :
    d.text = if d.negative then '-' :: d.unsignedText else d.unsignedText := by
  have hpadded : padded (d.scale + 1) d.digits = digitChars d.digitList := padded_eq _ _
  have hlength : (digitChars d.digitList).length = d.digitList.length := List.length_map _
  have hunsigned : (if d.scale = 0 then
      (digitChars d.digitList).take (d.digitList.length - d.scale)
      else (digitChars d.digitList).take (d.digitList.length - d.scale) ++
        '.' :: (digitChars d.digitList).drop (d.digitList.length - d.scale)) = d.unsignedText := by
    rw [unsignedText]
    split
    · rename_i hscale
      rw [hscale, Nat.sub_zero, List.take_of_length_le (Nat.le_of_eq hlength)]
    · rw [digitChars_take, digitChars_drop]
  rw [text, hpadded, hlength, hunsigned]

/-- A text begins with a digit after its sign. -/
theorem exists_unsignedText (d : Decimal) :
    ∃ c cs, d.unsignedText = c :: cs ∧ isDigit c = true := by
  have hdigits := d.areDigits_digitList
  have hlength := d.scale_lt_length
  rw [unsignedText]
  obtain ⟨places, hplaces⟩ : ∃ k, d.digitList.length - d.scale = k + 1 :=
    ⟨d.digitList.length - d.scale - 1, by omega⟩
  rw [hplaces]
  cases hlist : d.digitList with
  | nil =>
    rw [hlist] at hlength
    exact absurd hlength (Nat.not_lt_zero _)
  | cons e es =>
    rw [hlist, AreDigits, List.forall_mem_cons] at hdigits
    split
    · exact ⟨_, _, rfl, isDigit_digitChar hdigits.1⟩
    · exact ⟨_, _, rfl, isDigit_digitChar hdigits.1⟩

/-- A text with a point has as many digits behind it as the scale says. -/
theorem unsignedText_cut (d : Decimal) (h : d.scale ≠ 0) : ∃ whole fraction,
    d.unsignedText = digitChars whole ++ '.' :: digitChars fraction ∧ AreDigits whole ∧
      AreDigits fraction ∧ whole ≠ [] ∧ fraction.length = d.scale ∧
      valueFrom 0 (whole ++ fraction) = d.digits := by
  have hdigits := d.areDigits_digitList
  have hvalue := d.valueFrom_digitList
  have hlength := d.scale_lt_length
  obtain ⟨places, hplaces⟩ : ∃ k, k = d.digitList.length - d.scale := ⟨_, rfl⟩
  have hcut : d.digitList.take places ++ d.digitList.drop places = d.digitList :=
    List.take_append_drop places d.digitList
  rw [← hcut, areDigits_append] at hdigits
  rw [← hcut] at hvalue
  refine ⟨d.digitList.take places, d.digitList.drop places, ?_, hdigits.1, hdigits.2, ?_, ?_,
    hvalue⟩
  · rw [unsignedText, ← hplaces]
    exact if_neg h
  · apply List.ne_nil_of_length_pos
    rw [List.length_take]
    omega
  · rw [List.length_drop]
    omega

theorem unsignedText_whole (d : Decimal) (h : d.scale = 0) :
    d.unsignedText = digitChars d.digitList :=
  if_pos h

theorem digitList_ne_nil (d : Decimal) : d.digitList ≠ [] :=
  List.ne_nil_of_length_pos (Nat.zero_lt_of_lt d.scale_lt_length)

/-- All digits are read, and those after the point give the scale. -/
theorem run_unsignedText (negative : Bool) (d : Decimal) :
    Reading.run negative ⟨0, 0, false, false⟩ d.unsignedText =
      Reading.finish negative d.digits d.scale := by
  have hbound : d.digits < Reading.bound := d.digits_lt
  by_cases hscale : d.scale = 0
  · have hvalue := d.valueFrom_digitList
    have hrun : Reading.run negative ⟨0, 0, false, false⟩ (digitChars d.digitList ++ []) = _ :=
      Reading.run_whole d.areDigits_digitList (by rw [hvalue]; exact hbound) d.digitList_ne_nil []
    rw [List.append_nil, hvalue] at hrun
    rw [d.unsignedText_whole hscale, hrun, hscale]
    rfl
  · obtain ⟨whole, fraction, htext, hwhole, hfraction, hne, hlength, hvalue⟩ :=
      d.unsignedText_cut hscale
    have hplaces : d.scale ≤ maxScale := d.scale_le
    rw [valueFrom_append] at hvalue
    have hlow : valueFrom 0 whole < Reading.bound :=
      Nat.lt_of_le_of_lt (Nat.le_trans (le_valueFrom _ _) (Nat.le_of_eq hvalue)) hbound
    have hrun : Reading.run negative ⟨0, 0, false, false⟩ (_ ++ _) = _ :=
      Reading.run_whole hwhole hlow hne ('.' :: digitChars fraction)
    have hpoint : digit? '.' = none := by decide
    have hrest : Reading.run negative ⟨_, 0, true, true⟩ _ = _ :=
      Reading.run_places hfraction (by rw [hvalue]; exact hbound) (by omega)
    rw [hvalue, hlength, Nat.zero_add] at hrest
    rw [htext, hrun, Reading.run, hpoint, ← hrest]
    exact if_pos ⟨rfl, rfl⟩

/-- A text is read back as its decimal. -/
theorem ofText_text (d : Decimal) : ofText? (String.ofList d.text) = some d.reread := by
  have hof (negative : Bool) (hnegative : negative = d.negative) :
      Reading.finish negative d.digits d.scale = some d.reread := by
    rw [Reading.finish, ofParts?, dif_pos ⟨d.digits_lt, d.scale_le⟩, hnegative]
    rfl
  have hpositional : ofPositional? d.text = some d.reread := by
    rw [text_eq]
    by_cases hsign : d.negative = true
    · rw [if_pos hsign, ← hof true hsign.symm]
      exact run_unsignedText true d
    · rw [if_neg hsign, ← hof false ((Bool.not_eq_true _).mp hsign).symm,
        ← run_unsignedText false d]
      obtain ⟨c, cs, htext, hc⟩ := d.exists_unsignedText
      rw [htext, ofPositional?.eq_def]
      split
      · rename_i he
        exact absurd he (cons_ne_of_isDigit hc (by decide) _ _)
      · rename_i he
        exact absurd he (cons_ne_of_isDigit hc (by decide) _ _)
      · rfl
  rw [ofText?, String.toList_ofList, hpositional]
  rfl

end BatchSql.Decimal
