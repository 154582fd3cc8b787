import BatchSql.Proofs.Binary.Rounding
import BatchSql.Proofs.Value.Decimal
import BatchSql.Row

namespace BatchSql

open Text

namespace Binary

variable {f : BinaryFormat}

/-- Floats that are told apart by no comparison: one float, or two zeros. -/
inductive Alike : Option (Binary f) → Option (Binary f) → Prop where
  | refl (x : Option (Binary f)) : Alike x x
  | zeros {x y : Binary f} (hx : x.isZero = true) (hy : y.isZero = true) : Alike (some x) (some y)

theorem isZero_ofRatio_zero (negative : Bool) (den : Nat) :
    (ofRatio negative 0 den : Binary f).isZero = true := by
  have hdvd : 2 ^ (f.width - 1) ∣ 2 ^ f.width := Nat.pow_dvd_pow 2 (Nat.sub_le _ _)
  rw [isZero, beq_iff_eq, magnitude, ofRatio, BinaryFormat.round, if_pos rfl, ofMagnitude,
    BitVec.toNat_ofNat, Nat.mod_mod_of_dvd _ hdvd]
  cases negative with
  | true => exact Nat.mod_self _
  | false => exact Nat.zero_mod _

theorem ofRatio_of_cross (negative : Bool) {num den num' den' : Nat} (hden : 0 < den)
    (hden' : 0 < den') (h : num * den' = num' * den) :
    (ofRatio negative num den : Binary f) = ofRatio negative num' den' := by
  rw [ofRatio, ofRatio, f.round_of_cross hden hden' h]

theorem isZero_convert {x : Binary32} (h : x.isZero = true) :
    (x.convert : Binary64).isZero = true := by
  rw [isZero, beq_iff_eq] at h
  have hratio : x.ratio.1 = 0 := by
    rw [ratio, h]
    rfl
  have hnumber : ¬x.isNaN = true := by
    rw [isNaN, h]
    decide
  have hfinite : ¬x.isInfinite = true := by
    rw [isInfinite, h]
    decide
  rw [convert, if_neg hnumber, if_neg hfinite, hratio]
  exact isZero_ofRatio_zero _ _

theorem name_ne {c : Char} (hc : isDigit c = true) (cs : List Char) (word : String)
    (hw : (word.toList.head?.any fun c => !isDigit c) = true) :
    String.ofList ((c :: cs).map Char.toLower) ≠ word := by
  rintro rfl
  rw [String.toList_ofList, List.map_cons, toLower_of_isDigit hc] at hw
  simp [hc] at hw

theorem named_of_isDigit {c : Char} (hc : isDigit c = true) (cs : List Char)
    (nan infinite number : Option (Binary f)) :
    (if String.ofList ((c :: cs).map Char.toLower) = "nan" then nan
      else if String.ofList ((c :: cs).map Char.toLower) = "inf" ∨
        String.ofList ((c :: cs).map Char.toLower) = "infinity" then infinite
      else number) = number := by
  have hinf := name_ne hc cs "inf" (by decide)
  have hinfinity := name_ne hc cs "infinity" (by decide)
  rw [if_neg (name_ne hc cs "nan" (by decide)), if_neg (not_or.mpr ⟨hinf, hinfinity⟩)]

/-- A text that begins with a digit after its sign names no special value. -/
theorem ofText_of_isDigit {c : Char} (hc : isDigit c = true) (cs : List Char) (negative : Bool) :
    (ofText? (String.ofList (if negative then '-' :: c :: cs else c :: cs)) : Option (Binary f)) =
      unsigned? negative (c :: cs) := by
  rw [ofText?, String.toList_ofList]
  cases negative with
  | true => exact named_of_isDigit hc cs _ _ _
  | false =>
    rw [if_neg Bool.false_ne_true]
    split
    rename_i sign rest hsign
    split at hsign
    · rename_i he
      exact absurd he (cons_ne_of_isDigit hc (by decide) _ _)
    · rename_i he
      exact absurd he (cons_ne_of_isDigit hc (by decide) _ _)
    · obtain ⟨rfl, rfl⟩ := Prod.mk.inj hsign
      exact named_of_isDigit hc cs _ _ _

/-- Digits that end the text are read as the number they spell. -/
theorem unsigned_whole (negative : Bool) {ds : List Nat} (h : AreDigits ds) (hne : ds ≠ []) :
    (unsigned? negative (digitChars ds) : Option (Binary f)) =
      some (ofScientific negative (valueFrom 0 ds) 0) := by
  have hdigits := fun c (hc : c ∈ digitChars ds) => isDigit_of_mem h hc
  have htake := takeWhile_isDigit hdigits apart_nil
  have hdrop := dropWhile_isDigit hdigits apart_nil
  rw [List.append_nil] at htake hdrop
  have hsome : ¬((digitChars ds).isEmpty = true ∧ ([] : List Char).isEmpty = true) := by
    simp [digitChars, hne]
  rw [unsigned?, htake, hdrop]
  dsimp only
  rw [if_neg hsome, Option.bind_some, List.append_nil, digitsFrom_digitChars h]
  rfl

/-- Digits around a point are read as one number, and those behind the point as its places. -/
theorem unsigned_fraction (negative : Bool) {ds es : List Nat} (h : AreDigits ds)
    (he : AreDigits es) (hne : ds ≠ []) :
    (unsigned? negative (digitChars ds ++ '.' :: digitChars es) : Option (Binary f)) =
      some (ofScientific negative (valueFrom 0 (ds ++ es)) (-es.length)) := by
  have hdigits := fun c (hc : c ∈ digitChars ds) => isDigit_of_mem h hc
  have hplaces := fun c (hc : c ∈ digitChars es) => isDigit_of_mem he hc
  have hpoint : Apart ('.' :: digitChars es) := apart_cons (by decide)
  have htake := takeWhile_isDigit hplaces apart_nil
  have hdrop := dropWhile_isDigit hplaces apart_nil
  rw [List.append_nil] at htake hdrop
  have hsome : ¬((digitChars ds).isEmpty = true ∧ (digitChars es).isEmpty = true) := by
    simp [digitChars, hne]
  have hboth : digitsFrom 0 (digitChars ds ++ digitChars es) = some (valueFrom 0 (ds ++ es)) := by
    rw [← digitChars_append]
    exact digitsFrom_digitChars (areDigits_append.mpr ⟨h, he⟩) 0
  rw [unsigned?, takeWhile_isDigit hdigits hpoint, dropWhile_isDigit hdigits hpoint]
  split
  next _ fraction left heq =>
    split at heq
    · next r hr =>
      obtain rfl := (List.cons.inj hr).2
      obtain ⟨rfl, rfl⟩ := Prod.mk.inj heq
      rw [htake, hdrop, if_neg hsome]
      dsimp only
      rw [Option.bind_some, hboth, Option.map_some, digitChars, List.length_map, zero_sub]
    · next hne => exact absurd rfl (hne _)

/-- The digits of a decimal are far from the ends of the range. -/
theorem ofScientific_places (negative : Bool) {digits places : Nat} (hdigits : digits < 2 ^ 96)
    (hplaces : places ≤ 28) : (ofScientific negative digits (-places) : Binary f) =
      ofRatio negative digits (10 ^ places) := by
  have hlength : (Nat.toDigits 10 digits).length ≤ 29 := by
    rw [toDigits_eq, digitChars, List.length_map]
    exact length_digitsOf_le (by decide) (Nat.lt_trans hdigits (by decide))
  rw [ofScientific]
  by_cases hzero : digits = 0
  · rw [if_pos hzero, hzero]
    rfl
  · rw [if_neg hzero, if_neg (by omega), if_neg (by omega), neg_neg, Int.toNat_natCast,
      Int.toNat_neg_natCast, Nat.pow_zero, Nat.mul_one]

end Binary

namespace Decimal

/-- A decimal is rounded as the quotient it is. -/
theorem toBinary_eq (d : Decimal) :
    d.toBinary? = some (.ofRatio d.negative d.digits (10 ^ d.scale)) := by
  have hread : (Binary.unsigned? d.negative d.unsignedText : Option Binary64) =
      some (.ofScientific d.negative d.digits (-d.scale)) := by
    by_cases hscale : d.scale = 0
    · rw [d.unsignedText_whole hscale, hscale,
        Binary.unsigned_whole _ d.areDigits_digitList d.digitList_ne_nil, valueFrom_digitList]
      rfl
    · obtain ⟨whole, fraction, htext, hwhole, hfraction, hne, hlength, hvalue⟩ :=
        d.unsignedText_cut hscale
      rw [htext, Binary.unsigned_fraction _ hwhole hfraction hne, hvalue, hlength]
  obtain ⟨c, cs, htext, hc⟩ := d.exists_unsignedText
  rw [htext] at hread
  rw [toBinary?, text_eq, htext, Binary.ofText_of_isDigit hc, hread,
    Binary.ofScientific_places _ d.digits_lt d.scale_le]

theorem natAbs_mantissa (d : Decimal) : d.mantissa.natAbs = d.digits := by
  rw [mantissa]
  split
  · rw [Int.natAbs_neg, Int.natAbs_natCast]
  · rw [Int.natAbs_natCast]

theorem mantissa_neg_iff (d : Decimal) (h : 0 < d.digits) : d.mantissa < 0 ↔ d.negative = true := by
  rw [mantissa]
  split
  · rename_i hsign
    exact ⟨fun _ => hsign, fun _ => by omega⟩
  · rename_i hsign
    exact ⟨fun hneg => by omega, fun hneg => absurd hneg hsign⟩

variable {d e : Decimal}

theorem digits_cross (h : d.mantissa * 10 ^ e.scale = e.mantissa * 10 ^ d.scale) :
    d.digits * 10 ^ e.scale = e.digits * 10 ^ d.scale := by
  have habs := congrArg Int.natAbs h
  rwa [Int.natAbs_mul, Int.natAbs_mul, natAbs_mantissa, natAbs_mantissa, Int.natAbs_pow,
    Int.natAbs_pow] at habs

/-- Equal decimals are the same float, but for the sign of a zero. -/
theorem alike_toBinary (h : d.mantissa * 10 ^ e.scale = e.mantissa * 10 ^ d.scale) :
    Binary.Alike d.toBinary? e.toBinary? := by
  have hcross := digits_cross h
  have hpow (k : Nat) : 0 < 10 ^ k := Nat.pow_pos (by decide)
  rw [toBinary_eq, toBinary_eq]
  rcases Nat.eq_zero_or_pos d.digits with hd | hd
  · have he : e.digits = 0 := by
      rw [hd, Nat.zero_mul] at hcross
      exact (Nat.mul_eq_zero.mp hcross.symm).resolve_right (Nat.ne_of_gt (hpow _))
    rw [hd, he]
    exact .zeros (Binary.isZero_ofRatio_zero _ _) (Binary.isZero_ofRatio_zero _ _)
  · have he : 0 < e.digits :=
      Nat.pos_of_mul_pos_right (hcross ▸ Nat.mul_pos hd (hpow _))
    have hsign : d.negative = e.negative := by
      have hscaled (m : Int) (k : Nat) : m * 10 ^ k < 0 ↔ m < 0 := by
        have hten : (0 : Int) < 10 ^ k := by positivity
        simp [Int.mul_neg_iff, hten, hten.le]
      have hneg : d.mantissa < 0 ↔ e.mantissa < 0 := by
        rw [← hscaled d.mantissa e.scale, h, hscaled]
      rw [d.mantissa_neg_iff hd, e.mantissa_neg_iff he] at hneg
      exact Bool.eq_iff_iff.mpr hneg
    rw [hsign, Binary.ofRatio_of_cross _ (hpow _) (hpow _) hcross]
    exact .refl _

/-- A point is no digit of an integer. -/
theorem nat_unsignedText (d : Decimal) :
    nat? d.unsignedText = if d.scale = 0 then some d.digits else none := by
  split
  · rename_i hscale
    rw [d.unsignedText_whole hscale, nat_digitChars d.areDigits_digitList d.digitList_ne_nil,
      valueFrom_digitList]
  · rename_i hscale
    obtain ⟨whole, fraction, htext, hwhole, -, hne, -, -⟩ := d.unsignedText_cut hscale
    have hstop : digitsFrom 0 (digitChars whole ++ '.' :: digitChars fraction) = none := by
      rw [digitsFrom_append hwhole]
      rfl
    rw [htext]
    cases whole with
    | nil => exact absurd rfl hne
    | cons d ds => exact hstop

/-- The integers that have 64 bits. -/
def Fits (n : Int) : Prop :=
  -(2 ^ 63 : Int) ≤ n ∧ n < 2 ^ 63

instance (n : Int) : Decidable (Fits n) :=
  inferInstanceAs (Decidable (_ ∧ _))

/-- The text as an integer is read: a minus sign at most, and digits to its end. -/
theorem signed_text (d : Decimal) : signed? 64 d.text =
    ((nat? d.unsignedText).map fun (n : Nat) => if d.negative then -(n : Int) else n).filter
      fun v => Fits v := by
  rw [text_eq]
  cases d.negative with
  | true =>
    rw [if_pos rfl, signed?]
    cases nat? d.unsignedText with
    | none => rfl
    | some n => rfl
  | false =>
    obtain ⟨c, cs, htext, hc⟩ := d.exists_unsignedText
    rw [if_neg Bool.false_ne_true, htext, signed?.eq_def]
    split
    · rename_i he
      exact absurd he (cons_ne_of_isDigit hc (by decide) _ _)
    · rename_i he
      exact absurd he (cons_ne_of_isDigit hc (by decide) _ _)
    · rfl

/-- A decimal is read as an integer only if its scale is zero. -/
theorem toInt_eq (d : Decimal) :
    d.toInt? = if d.scale = 0 ∧ Fits d.mantissa then some d.mantissa else none := by
  rw [toInt?, signed_text, nat_unsignedText]
  by_cases hscale : d.scale = 0
  · rw [if_pos hscale, Option.map_some, Option.filter_some, ← mantissa]
    simp [hscale]
  · rw [if_neg hscale, if_neg fun h => hscale h.1]
    rfl

end Decimal

namespace Value

/-- What it is that equal values share. -/
inductive Equal : Value → Value → Prop where
  | refl (v : Value) : Equal v v
  | zeros32 {x y : Binary32} (hx : x.isZero = true) (hy : y.isZero = true) :
      Equal (.float32 x) (.float32 y)
  | zeros64 {x y : Binary64} (hx : x.isZero = true) (hy : y.isZero = true) :
      Equal (.float64 x) (.float64 y)
  | decimal {d e : Decimal} (cross : d.mantissa * 10 ^ e.scale = e.mantissa * 10 ^ d.scale) :
      Equal (.decimal d) (.decimal e)
  | json (j k : Document) : Equal (.json j) (.json k)

theorem eq_or_zeros {f : BinaryFormat} {x y : Binary f} (h : x.numEq y = true) :
    x = y ∨ x.isZero = true ∧ y.isZero = true := by
  rw [Binary.numEq, Bool.and_eq_true, Bool.or_eq_true, beq_iff_eq, Bool.and_eq_true] at h
  exact h.2

theorem equal_of_same {a b : Value} (h : (a == b) = true) : Equal a b := by
  change a.same b = true at h
  cases a <;> cases b <;> try cases h
  case null => exact .refl _
  case float32 x y =>
    rcases eq_or_zeros h with rfl | ⟨hx, hy⟩
    · exact .refl _
    · exact .zeros32 hx hy
  case float64 x y =>
    rcases eq_or_zeros h with rfl | ⟨hx, hy⟩
    · exact .refl _
    · exact .zeros64 hx hy
  case decimal d e => exact .decimal (beq_iff_eq.mp h)
  case json j k => exact .json j k
  all_goals
    obtain rfl := beq_iff_eq.mp h
    exact .refl _

theorem toInt64_decimal (d : Decimal) : (decimal d).toInt64? =
    if d.scale = 0 ∧ Decimal.Fits d.mantissa then some (Int64.ofInt d.mantissa) else none := by
  rw [toInt64?, Decimal.toInt_eq]
  split
  · rfl
  · rfl

/-- A decimal with places after its point, beside an integer of 64 bits without any. -/
inductive Pointed : Value → Value → Prop where
  | beside {d e : Decimal} (pointed : d.scale ≠ 0) (whole : e.scale = 0)
      (fits : Decimal.Fits e.mantissa) : Pointed (.decimal d) (.decimal e)

theorem Pointed.apart {a b : Value} (h : Pointed a b) : a.toInt64? ≠ b.toInt64? := by
  cases h with
  | beside pointed whole fits =>
    rw [toInt64_decimal, toInt64_decimal, if_neg fun h => pointed h.1, if_pos ⟨whole, fits⟩]
    nofun

theorem not_pointed_self (v : Value) : ¬Pointed v v := by
  rintro (⟨pointed, whole, -⟩)
  exact pointed whole

/-- Equal decimals are read as integers alike, unless only one of them has a point. -/
theorem toInt64_decimal_eq_iff {d e : Decimal}
    (h : d.mantissa * 10 ^ e.scale = e.mantissa * 10 ^ d.scale) :
    (decimal d).toInt64? = (decimal e).toInt64? ↔
      ¬Pointed (decimal d) (decimal e) ∧ ¬Pointed (decimal e) (decimal d) := by
  refine ⟨fun heq => ⟨fun hp => hp.apart heq, fun hp => hp.apart heq.symm⟩, ?_⟩
  rintro ⟨hleft, hright⟩
  rw [toInt64_decimal, toInt64_decimal]
  by_cases hd : d.scale = 0
  · by_cases he : e.scale = 0
    · rw [hd, he, Int.pow_zero, Int.mul_one, Int.mul_one] at h
      rw [hd, he, h]
    · rw [if_neg fun hfits => hright (.beside he hd hfits.2), if_neg fun hfits => he hfits.1]
  · by_cases he : e.scale = 0
    · rw [if_neg fun hfits => hd hfits.1, if_neg fun hfits => hleft (.beside hd he hfits.2)]
    · rw [if_neg fun hfits => hd hfits.1, if_neg fun hfits => he hfits.1]

/-- An integer written with places after its point is not read as an integer. -/
theorem toInt64_of_integer {d : Decimal} {n : Int} (h : d.mantissa = n * 10 ^ d.scale)
    (hn : Decimal.Fits n) :
    (decimal d).toInt64? = if d.scale = 0 then some (Int64.ofInt n) else none := by
  rw [toInt64_decimal]
  by_cases hscale : d.scale = 0
  · rw [hscale, Int.pow_zero, Int.mul_one] at h
    rw [if_pos ⟨hscale, h ▸ hn⟩, if_pos hscale, h]
  · rw [if_neg fun hfits => hscale hfits.1, if_neg hscale]

theorem int64_of_integer {r : Row} {i : Nat} {column : String} {d : Decimal} {n : Int}
    (hcell : r.cells[i]? = some (column, decimal d)) (h : d.mantissa = n * 10 ^ d.scale)
    (hn : Decimal.Fits n) : r.int64 i =
      if d.scale = 0 then .ok (Int64.ofInt n)
      else .error (Row.mismatch i "BIGINT" (decimal d)) := by
  have hrequired : r.require i = .ok (decimal d) := by
    rw [Row.require, hcell]
    rfl
  rw [Row.int64, Row.typed, hrequired, Except.bind, toInt64_of_integer h hn]
  by_cases hscale : d.scale = 0
  · rw [if_pos hscale, if_pos hscale]
  · rw [if_neg hscale, if_neg hscale]

namespace Equal

variable {a b : Value}

/-- What is no number shows nothing of how a number is written. -/
theorem converts (h : Equal a b) : a.toBool? = b.toBool? ∧ a.toText? = b.toText? ∧
    a.toOctets? = b.toOctets? ∧ a.toUuid? = b.toUuid? := by
  cases h with
  | _ => exact ⟨rfl, rfl, rfl, rfl⟩

theorem toBinary64_alike (h : Equal a b) : Binary.Alike a.toBinary64? b.toBinary64? := by
  cases h with
  | refl => exact .refl _
  | zeros32 hx hy => exact .zeros (Binary.isZero_convert hx) (Binary.isZero_convert hy)
  | zeros64 hx hy => exact .zeros hx hy
  | decimal cross => exact Decimal.alike_toBinary cross
  | json j k => exact .refl _

theorem toInt64_eq_iff (h : Equal a b) :
    a.toInt64? = b.toInt64? ↔ ¬Pointed a b ∧ ¬Pointed b a := by
  cases h with
  | refl => exact ⟨fun _ => ⟨not_pointed_self a, not_pointed_self a⟩, fun _ => rfl⟩
  | decimal cross => exact toInt64_decimal_eq_iff cross
  | _ => exact ⟨fun _ => ⟨nofun, nofun⟩, fun _ => rfl⟩

end Equal

/-- Equal values convert alike, but for decimals that are to be integers: one with places after its
point is not read as the integer that it is, neither by itself nor in a column of a row. All other
conversions of equal values give the same, and floats the same but for the sign of a zero. -/
theorem equal_values_convert_alike {a b : Value} (h : (a == b) = true) :
    a.toBool? = b.toBool? ∧ a.toText? = b.toText? ∧ a.toOctets? = b.toOctets? ∧
      a.toUuid? = b.toUuid? ∧ Binary.Alike a.toBinary64? b.toBinary64? ∧
      (a.toInt64? = b.toInt64? ↔ ¬Pointed a b ∧ ¬Pointed b a) ∧
      ∀ (d : Decimal) (n : Int), a = decimal d → d.mantissa = n * 10 ^ d.scale → Decimal.Fits n →
        a.toInt64? = (if d.scale = 0 then some (Int64.ofInt n) else none) ∧
        ∀ (r : Row) (i : Nat) (column : String), r.cells[i]? = some (column, a) →
          r.int64 i = if d.scale = 0 then .ok (Int64.ofInt n)
            else .error (Row.mismatch i "BIGINT" a) := by
  have hequal := equal_of_same h
  obtain ⟨hbool, htext, hoctets, huuid⟩ := hequal.converts
  refine ⟨hbool, htext, hoctets, huuid, hequal.toBinary64_alike, hequal.toInt64_eq_iff, ?_⟩
  rintro d n rfl hd hn
  exact ⟨toInt64_of_integer hd hn, fun r i column hcell => int64_of_integer hcell hd hn⟩

/-- The number one with a place after its point and without one. -/
theorem equal_values_convert_alike_one :
    let d : Decimal := ⟨false, 10, 1, by decide, by decide⟩
    let e : Decimal := ⟨false, 1, 0, by decide, by decide⟩
    (decimal d == decimal e) = true ∧ d.mantissa = 1 * 10 ^ d.scale ∧ Decimal.Fits 1 ∧
      Binary.Alike (decimal d).toBinary64? (decimal e).toBinary64? ∧
      (decimal d).toInt64? ≠ (decimal e).toInt64? ∧ (decimal d).toInt64? = none := by
  intro d e
  have hsame : (decimal d == decimal e) = true := by decide
  have hone : d.mantissa = 1 * 10 ^ d.scale := by decide
  have hfits : Decimal.Fits 1 := by decide
  obtain ⟨-, -, -, -, hfloat, hint, hdecimal⟩ := equal_values_convert_alike hsame
  exact ⟨hsame, hone, hfits, hfloat,
    fun heq => (hint.mp heq).1 (.beside (by decide) rfl (by decide)),
    (hdecimal d 1 rfl hone hfits).1⟩

/-- The integer one is not read as an integer where its column has a place after the point. -/
theorem equal_decimals_convert_apart :
    let d : Decimal := ⟨false, 10, 1, by decide, by decide⟩
    let e : Decimal := ⟨false, 1, 0, by decide, by decide⟩
    (decimal d == decimal e) = true ∧ (decimal d).toInt64? = none ∧
      (decimal e).toInt64? = some 1 ∧
      (decimal d).toBinary64? = (decimal e).toBinary64? := by
  intro d e
  exact ⟨by decide, by decide +kernel, by decide +kernel, by decide +kernel⟩

end Value

end BatchSql
