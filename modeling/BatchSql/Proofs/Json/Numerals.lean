import BatchSql.Json.Printer
import BatchSql.Json.Reader
import BatchSql.Proofs.Text.Digits

namespace BatchSql

/-- Zero is written with no exponent. -/
def Scientific.Proper (s : Scientific) : Prop :=
  s.digits = 0 → s.exponent = 0

namespace Binary

theorem trim_digits_ne_zero {digits : Nat} (h : digits ≠ 0) (exponent : Int) :
    (Scientific.trim digits exponent).digits ≠ 0 := by
  fun_induction Scientific.trim digits exponent with
  | case1 digits exponent hd ih => exact ih (by omega)
  | case2 digits exponent hd => exact h

theorem interval_low_pos {f : BinaryFormat} {magnitude : Nat} (h : magnitude ≠ 0) :
    0 < (interval f magnitude).low := by
  have hm : 0 < (f.unpack magnitude).2 := by
    rw [BinaryFormat.unpack]
    split
    · exact Nat.pos_of_ne_zero h
    · exact Nat.add_pos_right _ (Nat.pow_pos (by decide))
  rw [interval]
  dsimp only
  apply Nat.mul_pos
  · split
    · omega
    · omega
  · exact Nat.pow_pos (by decide)

/-- What reads back as a positive value is not zero. -/
theorem onGrid_digits_ne_zero {f : BinaryFormat} {i : Interval} {exponent : Int} {s : Scientific}
    (hi : 0 < i.low) (h : onGrid? f i exponent = some s) : s.digits ≠ 0 := by
  unfold onGrid? at h
  extract_lets up down low value high within a rest aFirst at h
  have hlow : 0 < low := Nat.mul_pos hi (Nat.pow_pos (by decide))
  have hwithin {n : Nat} (hn : within n = true) : n ≠ 0 := by
    rintro rfl
    simp only [within, Nat.zero_mul] at hn
    split at hn
    · simp only [Bool.and_eq_true, decide_eq_true_eq] at hn
      omega
    · simp at hn
  cases hpair : if aFirst then (a, a + 1) else (a + 1, a) with
  | mk first second =>
    rw [hpair] at h
    dsimp only at h
    split at h
    · rename_i hfirst
      obtain rfl := Option.some.inj h
      exact trim_digits_ne_zero (hwithin hfirst) _
    · split at h
      · rename_i hsecond
        obtain rfl := Option.some.inj h
        exact trim_digits_ne_zero (hwithin hsecond) _
      · cases h

theorem shortest_proper (f : BinaryFormat) {magnitude : Nat} (h : magnitude ≠ 0) :
    (shortest f magnitude).Proper := by
  rw [shortest]
  cases hfound : (List.range f.precision).findSome? _ with
  | none =>
    intro _
    rfl
  | some s =>
    obtain ⟨n, -, hgrid⟩ := List.exists_of_findSome?_eq_some hfound
    intro hzero
    exact absurd hzero (onGrid_digits_ne_zero (interval_low_pos h) hgrid)

end Binary

namespace Json

open Text

namespace Numeral

def fractionChars : List Nat → List Char
  | [] => []
  | d :: ds => '.' :: digitChars (d :: ds)

def exponentChars : Option (Bool × List Nat) → List Char
  | none => []
  | some (negative, ds) => 'e' :: (if negative then '-' else '+') :: digitChars ds

/-- A numeral as it is printed. -/
def chars (n : Numeral) : List Char :=
  (if n.negative then ['-'] else []) ++
    (digitChars n.whole ++ (fractionChars n.fraction ++ exponentChars n.exponent))

/-- A numeral that can be read: it has digits wherever they are needed, and no zero leads others. -/
structure Proper (n : Numeral) : Prop where
  whole : AreDigits n.whole
  started : n.whole ≠ []
  lead : ∀ ds, n.whole = 0 :: ds → ds = []
  fraction : AreDigits n.fraction
  exponent : ∀ negative ds, n.exponent = some (negative, ds) → AreDigits ds ∧ ds ≠ []

theorem unexponented {n : Numeral} (h : n.exponent = none) :
    ∀ negative ds, n.exponent = some (negative, ds) → AreDigits ds ∧ ds ≠ [] := by
  intro negative ds hsome
  rw [h] at hsome
  cases hsome

end Numeral

/-- What may follow a number: the end, or what ends an item or a field. -/
def Ends (rest : List Char) : Prop :=
  ∀ c ∈ rest.head?, c = ',' ∨ c = ']' ∨ c = '\x7d'

theorem ends_nil : Ends [] :=
  nofun

theorem ends_cons {c : Char} {rest : List Char} (h : c = ',' ∨ c = ']' ∨ c = '\x7d') :
    Ends (c :: rest) := by
  rintro _ ⟨rfl⟩
  exact h

theorem Ends.apart {rest : List Char} (h : Ends rest) : Apart rest := by
  intro c hc
  rcases h c hc with rfl | rfl | rfl
  · decide
  · decide
  · decide

namespace Numeral

variable {n : Numeral} {ds : List Nat} {rest : List Char}

theorem digits_digitChars (h : AreDigits ds) (hr : Apart rest) :
    digits (digitChars ds ++ rest) = (ds, rest) := by
  induction ds with
  | nil =>
    cases rest with
    | nil => rfl
    | cons c rest =>
      have hc : digit? c = none := by
        have hfalse := hr c rfl
        rw [isDigit] at hfalse
        exact Option.isSome_eq_false_iff.mp hfalse |> Option.isNone_iff_eq_none.mp
      change digits (c :: rest) = _
      rw [digits, hc]
  | cons d ds ih =>
    rw [AreDigits, List.forall_mem_cons] at h
    have hrest := ih h.2
    rw [digitChars] at hrest
    rw [digitChars, List.map_cons, List.cons_append, digits, digit_digitChar h.1, hrest]

theorem whole_digitChars (h : n.Proper) (hr : Apart rest) :
    whole? (digitChars n.whole ++ rest) = some (n.whole, rest) := by
  rw [whole?, digits_digitChars h.whole hr]
  cases hw : n.whole with
  | nil => exact absurd hw h.started
  | cons d ds =>
    cases d with
    | succ d => rfl
    | zero =>
      obtain rfl := h.lead ds hw
      rfl

theorem fraction_fractionChars (h : AreDigits ds) (hr : Apart rest)
    (hpoint : ∀ c ∈ rest.head?, c ≠ '.') :
    fraction? (fractionChars ds ++ rest) = some (ds, rest) := by
  cases ds with
  | nil =>
    change fraction? rest = _
    rw [fraction?.eq_def]
    split
    · rename_i cs
      exact absurd rfl (hpoint '.' rfl)
    · rfl
  | cons d ds =>
    change fraction? ('.' :: (digitChars (d :: ds) ++ rest)) = _
    rw [fraction?, digits_digitChars h hr]

theorem exponent_exponentChars {exponent : Option (Bool × List Nat)}
    (h : ∀ negative ds, exponent = some (negative, ds) → AreDigits ds ∧ ds ≠ [])
    (hr : Ends rest) :
    exponent? (exponentChars exponent ++ rest) = some (exponent, rest) := by
  cases exponent with
  | none =>
    cases rest with
    | nil => rfl
    | cons c rest =>
      have hc : ¬(c = 'e' ∨ c = 'E') := by
        rcases hr c rfl with rfl | rfl | rfl
        · decide
        · decide
        · decide
      change exponent? (c :: rest) = _
      rw [exponent?, if_neg hc]
  | some e =>
    obtain ⟨negative, ds⟩ := e
    obtain ⟨hds, hne⟩ := h negative ds rfl
    have hsign : signed ((if negative then '-' else '+') :: (digitChars ds ++ rest)) =
        (negative, digitChars ds ++ rest) := by
      cases negative with
      | true => rfl
      | false => rfl
    change exponent? ('e' :: (if negative then '-' else '+') :: (digitChars ds ++ rest)) = _
    rw [exponent?, if_pos (Or.inl rfl), hsign]
    dsimp only
    rw [digits_digitChars hds hr.apart]
    cases ds with
    | nil => exact absurd rfl hne
    | cons d ds => rfl

theorem apart_exponentChars (exponent : Option (Bool × List Nat)) (hr : Ends rest) :
    Apart (exponentChars exponent ++ rest) ∧
      ∀ c ∈ (exponentChars exponent ++ rest).head?, c ≠ '.' := by
  cases exponent with
  | none =>
    refine ⟨hr.apart, ?_⟩
    intro c hc
    rcases hr c hc with rfl | rfl | rfl
    · decide
    · decide
    · decide
  | some e =>
    refine ⟨apart_cons (by decide), ?_⟩
    rintro _ ⟨rfl⟩
    decide

theorem apart_fractionChars (ds : List Nat) (hr : Apart rest) :
    Apart (fractionChars ds ++ rest) := by
  cases ds with
  | nil => exact hr
  | cons d ds => exact apart_cons (by decide)

/-- A number begins with a sign or a digit. -/
theorem chars_head (h : n.Proper) :
    ∃ c cs, n.chars = c :: cs ∧ (c = '-' ∨ isDigit c = true) := by
  rw [chars]
  cases n.negative with
  | true => exact ⟨'-', _, rfl, .inl rfl⟩
  | false =>
    cases hw : n.whole with
    | nil => exact absurd hw h.started
    | cons d ds =>
      refine ⟨d.digitChar, _, rfl, .inr (isDigit_digitChar (h.whole d ?_))⟩
      rw [hw]
      exact List.mem_cons_self

/-- A numeral is read back from its characters. -/
theorem read_chars (h : n.Proper) (hr : Ends rest) : read (n.chars ++ rest) = some (n, rest) := by
  obtain ⟨hexponent, hpoint⟩ := apart_exponentChars n.exponent hr
  have hwhole := whole_digitChars h (apart_fractionChars n.fraction hexponent)
  have hfraction := fraction_fractionChars h.fraction hexponent hpoint
  have hend := exponent_exponentChars h.exponent hr
  cases hn : n.negative with
  | true =>
    have hchars : n.chars ++ rest = '-' :: (digitChars n.whole ++ (fractionChars n.fraction ++
        (exponentChars n.exponent ++ rest))) := by
      simp [chars, hn]
    rw [hchars, read]
    simp only [hwhole, hfraction, hend, Option.bind_eq_bind, Option.bind_some, ← hn]
    rfl
  | false =>
    have hchars : n.chars ++ rest = digitChars n.whole ++ (fractionChars n.fraction ++
        (exponentChars n.exponent ++ rest)) := by
      simp [chars, hn]
    have hsign : ∀ r, n.chars ++ rest = '-' :: r → False := by
      intro r he
      cases hw : n.whole with
      | nil => exact h.started hw
      | cons d ds =>
        have hd : d < 10 := h.whole d (by simp [hw])
        have hdigit := isDigit_digitChar hd
        rw [hchars, hw] at he
        rw [(List.cons.inj he).1] at hdigit
        exact absurd hdigit (by decide)
    rw [read, hchars]
    · simp only [hwhole, hfraction, hend, Option.bind_eq_bind, Option.bind_some, ← hn]
      rfl
    · exact hsign

/-- An integer by its digits. -/
def ofInt (v : Int) : Numeral :=
  ⟨decide (v < 0), digitsOf v.natAbs, [], none⟩

theorem chars_ofInt (v : Int) : (ofInt v).chars = (toString v).toList := by
  cases v with
  | ofNat m =>
    have htext : (toString (Int.ofNat m)).toList = Nat.toDigits 10 m := Nat.toList_repr
    rw [htext, toDigits_eq]
    simp [chars, ofInt, fractionChars, exponentChars]
  | negSucc m =>
    have htext : (toString (Int.negSucc m)).toList = '-' :: Nat.toDigits 10 (m + 1) := by
      change ("-" ++ (m + 1).repr).toList = _
      rw [String.toList_append, Nat.toList_repr]
      rfl
    have hsign : Int.negSucc m < 0 := Int.negSucc_lt_zero m
    rw [htext, toDigits_eq]
    simp [chars, ofInt, fractionChars, exponentChars, hsign]

theorem proper_ofInt (v : Int) : (ofInt v).Proper where
  whole := areDigits_digitsOf _
  started := digitsOf_ne_nil _
  lead _ h := (head_digitsOf h rfl).2
  fraction := nofun
  exponent := nofun

theorem absorb_value {bound start : Nat} {ds : List Nat} (h : valueFrom start ds ≤ bound) :
    absorb bound start ds = (valueFrom start ds, []) := by
  induction ds generalizing start with
  | nil => rfl
  | cons d ds ih =>
    rw [valueFrom_cons] at h
    have hroom : start * 10 + d ≤ bound := Nat.le_trans (le_valueFrom _ ds) h
    rw [absorb, if_pos hroom, ih h, valueFrom_cons]

/-- An integer of 64 bits is read as it is. -/
theorem number_ofInt {v : Int} (low : -2 ^ 63 ≤ v) (high : v < 2 ^ 64) :
    (ofInt v).number? = some (.integer v low high) := by
  have hvalue : valueFrom 0 (digitsOf v.natAbs) = v.natAbs := valueFrom_digitsOf _
  have habsorb : absorb (2 ^ 64 - 1) 0 (digitsOf v.natAbs) = (v.natAbs, []) := by
    rw [absorb_value (by rw [hvalue]; omega), hvalue]
  have hsign : (ofInt v).negative = true ↔ v < 0 := decide_eq_true_iff
  have hplain : ¬((ofInt v).negative = true ∧ (v.natAbs = 0 ∨ 2 ^ 63 < v.natAbs)) := by
    rintro ⟨hnegative, hrange⟩
    have hlt := hsign.mp hnegative
    omega
  have hinteger : (if (ofInt v).negative = true then -(v.natAbs : Int) else v.natAbs) = v := by
    by_cases hlt : v < 0
    · rw [if_pos (hsign.mpr hlt)]
      omega
    · rw [if_neg (mt hsign.mp hlt)]
      omega
  have hwhole : (ofInt v).whole = digitsOf v.natAbs := rfl
  rw [number?, hwhole, habsorb]
  dsimp only
  rw [if_pos ⟨rfl, hplain⟩, hinteger, Number.ofInt?, dif_pos ⟨low, high⟩]

/-- Only digits alone make an integer. -/
theorem number_float {m : Number} (h : n.fraction ≠ [] ∨ n.exponent ≠ none)
    (hm : n.number? = some m) : ∃ x finite, m = .float x finite := by
  have hpoint : (n.fraction.isEmpty && n.exponent.isNone) = false := by
    rcases h with hfraction | hexponent
    · simp [hfraction]
    · obtain ⟨e, he⟩ := Option.ne_none_iff_exists.mp hexponent
      simp [← he]
  rw [number?] at hm
  simp only [Bool.and_assoc, hpoint, Bool.and_false] at hm
  obtain ⟨x, -, hx⟩ := Option.bind_eq_some_iff.mp hm
  generalize (if n.negative = true then x.neg else x) = y at hx
  rw [Number.ofBinary?] at hx
  by_cases hy : y.isFinite = true
  · rw [dif_pos hy] at hx
    exact ⟨y, hy, (Option.some.inj hx).symm⟩
  · rw [dif_neg hy] at hx
    cases hx

end Numeral

namespace FloatStyle

/-- The numeral of a positive number in a style. -/
def numeral (style : FloatStyle) (s : Scientific) : Numeral :=
  if 0 ≤ s.exponent ∧ s.point ≤ style.whole then
    ⟨false, digitsOf s.digits ++ List.replicate s.exponent.toNat 0, [0], none⟩
  else if -style.zeros < s.point ∧ s.point ≤ style.whole then
    if 0 < s.point then
      ⟨false, (digitsOf s.digits).take s.point.toNat, (digitsOf s.digits).drop s.point.toNat, none⟩
    else ⟨false, [0], List.replicate (-s.point).toNat 0 ++ digitsOf s.digits, none⟩
  else
    ⟨false, (digitsOf s.digits).take 1, (digitsOf s.digits).drop 1,
      some (decide (s.point - 1 < 0), digitsOf (s.point - 1).natAbs)⟩

theorem point_eq (s : Scientific) : s.point = (digitsOf s.digits).length + s.exponent := by
  rw [Scientific.point, Scientific.digitText, toDigits_eq, digitChars, List.length_map]

variable {style : FloatStyle} {s : Scientific}

/-- The four ways to write a positive number: digits and zeros before the point, the point among the
digits, zeros after the point and then the digits, and the point after the first digit with an
exponent. -/
theorem numeral_cases (style : FloatStyle) (s : Scientific) :
    (0 ≤ s.exponent ∧ style.numeral s =
      ⟨false, digitsOf s.digits ++ List.replicate s.exponent.toNat 0, [0], none⟩) ∨
    (s.exponent < 0 ∧ 0 < s.point ∧ style.numeral s = ⟨false,
      (digitsOf s.digits).take s.point.toNat, (digitsOf s.digits).drop s.point.toNat, none⟩) ∨
    style.numeral s =
      ⟨false, [0], List.replicate (-s.point).toNat 0 ++ digitsOf s.digits, none⟩ ∨
    style.numeral s = ⟨false, (digitsOf s.digits).take 1, (digitsOf s.digits).drop 1,
      some (decide (s.point - 1 < 0), digitsOf (s.point - 1).natAbs)⟩ := by
  by_cases hwhole : 0 ≤ s.exponent ∧ s.point ≤ style.whole
  · exact .inl ⟨hwhole.1, if_pos hwhole⟩
  · rw [numeral, if_neg hwhole]
    by_cases hplace : -style.zeros < s.point ∧ s.point ≤ style.whole
    · rw [if_pos hplace]
      by_cases hpositive : 0 < s.point
      · have hexponent : s.exponent < 0 := Int.not_le.mp fun h => hwhole ⟨h, hplace.2⟩
        exact .inr (.inl ⟨hexponent, hpositive, if_pos hpositive⟩)
      · exact .inr (.inr (.inl (if_neg hpositive)))
    · exact .inr (.inr (.inr (if_neg hplace)))

theorem numeral_positive (style : FloatStyle) (s : Scientific) :
    (style.numeral s).negative = false := by
  rcases style.numeral_cases s with ⟨-, h⟩ | ⟨-, -, h⟩ | h | h
  · rw [h]
  · rw [h]
  · rw [h]
  · rw [h]

theorem proper_numeral (h : s.Proper) : (style.numeral s).Proper := by
  have hdigits := areDigits_digitsOf s.digits
  have hlead {d : Nat} {ds : List Nat} (he : digitsOf s.digits = d :: ds) (hd : d = 0) :
      s.exponent = 0 ∧ ds = [] := by
    obtain ⟨hzero, hnil⟩ := head_digitsOf he hd
    exact ⟨h hzero, hnil⟩
  cases hs : digitsOf s.digits with
  | nil => exact absurd hs (digitsOf_ne_nil _)
  | cons d ds =>
    rw [hs, AreDigits, List.forall_mem_cons] at hdigits
    obtain ⟨hd, hds⟩ := hdigits
    rcases style.numeral_cases s with ⟨-, hnumeral⟩ | ⟨hexponent, hpositive, hnumeral⟩ |
      hnumeral | hnumeral
    · rw [hnumeral, hs]
      refine ⟨?_, List.cons_ne_nil _ _, ?_, ?_, Numeral.unexponented rfl⟩
      · exact areDigits_append.mpr ⟨List.forall_mem_cons.mpr ⟨hd, hds⟩, areDigits_replicate_zero _⟩
      · intro es he
        obtain ⟨rfl, rfl⟩ := List.cons.inj he
        obtain ⟨hexponent, rfl⟩ := hlead hs rfl
        rw [hexponent]
        rfl
      · simp [AreDigits]
    · obtain ⟨k, hk⟩ : ∃ k, s.point.toNat = k + 1 := ⟨s.point.toNat - 1, by omega⟩
      rw [hnumeral, hs, hk, List.take_succ_cons, List.drop_succ_cons]
      refine ⟨?_, List.cons_ne_nil _ _, ?_, ?_, Numeral.unexponented rfl⟩
      · exact List.forall_mem_cons.mpr ⟨hd, fun e he => hds e (List.mem_of_mem_take he)⟩
      · intro es he
        obtain ⟨rfl, -⟩ := List.cons.inj he
        obtain ⟨hzero, -⟩ := hlead hs rfl
        omega
      · exact fun e he => hds e (List.mem_of_mem_drop he)
    · rw [hnumeral, hs]
      refine ⟨by simp [AreDigits], List.cons_ne_nil _ _, ?_, ?_, Numeral.unexponented rfl⟩
      · intro es he
        exact (List.cons.inj he).2.symm
      · exact areDigits_append.mpr
          ⟨areDigits_replicate_zero _, List.forall_mem_cons.mpr ⟨hd, hds⟩⟩
    · rw [hnumeral, hs]
      refine ⟨?_, List.cons_ne_nil _ _, ?_, hds, ?_⟩
      · exact List.forall_mem_singleton.mpr hd
      · intro es he
        exact (List.cons.inj he).2.symm
      · rintro negative es ⟨⟩
        exact ⟨areDigits_digitsOf _, digitsOf_ne_nil _⟩

/-- A point or an exponent stands in every style. -/
theorem numeral_pointed (style : FloatStyle) (s : Scientific) :
    (style.numeral s).fraction ≠ [] ∨ (style.numeral s).exponent ≠ none := by
  have hpoint := point_eq s
  rcases style.numeral_cases s with ⟨-, h⟩ | ⟨hexponent, hpositive, h⟩ | h | h
  · rw [h]
    exact .inl nofun
  · rw [h]
    refine .inl (List.ne_nil_of_length_pos ?_)
    rw [List.length_drop]
    omega
  · rw [h]
    exact .inl (by simp [digitsOf_ne_nil])
  · rw [h]
    exact .inr nofun

/-- The text of a positive number is that of its numeral. -/
theorem text_eq (style : FloatStyle) (s : Scientific) : style.text s = (style.numeral s).chars := by
  cases hs : digitsOf s.digits with
  | nil => exact absurd hs (digitsOf_ne_nil _)
  | cons d ds =>
    have hpoint := point_eq s
    rw [hs, List.length_cons] at hpoint
    have htext : s.digitText = digitChars (d :: ds) := by
      rw [Scientific.digitText, toDigits_eq, hs]
    rw [text, numeral, hs]
    dsimp only
    split
    · rename_i hwhole
      rw [Scientific.positional, htext, if_pos hwhole.1]
      simp [Numeral.chars, Numeral.fractionChars, Numeral.exponentChars]
    · rename_i hshort
      split
      · rename_i hplace
        have hnegative : ¬0 ≤ s.exponent := fun hexponent => hshort ⟨hexponent, hplace.2⟩
        rw [Scientific.positional, htext, if_neg hnegative]
        split
        · rename_i hpositive
          have hrest : (d :: ds).drop s.point.toNat ≠ [] := by
            rw [ne_eq, List.drop_eq_nil_iff, List.length_cons]
            omega
          rw [← digitChars_take, ← digitChars_drop]
          cases hdrop : (d :: ds).drop s.point.toNat with
          | nil => exact absurd hdrop hrest
          | cons e es => simp [Numeral.chars, Numeral.fractionChars, Numeral.exponentChars]
        · cases hzeros : List.replicate (-s.point).toNat 0 ++ d :: ds with
          | nil => simp at hzeros
          | cons e es =>
            have hchars : List.replicate (-s.point).toNat '0' ++ digitChars (d :: ds) =
                digitChars (e :: es) := by
              rw [← hzeros, digitChars_append, digitChars_replicate_zero]
            have hzero : digitChars [0] = ['0'] := rfl
            simp only [Numeral.chars, Numeral.fractionChars, Numeral.exponentChars, hzero]
            rw [List.cons_append, List.cons_append, hchars]
            simp
      · rw [htext, toDigits_eq]
        cases ds with
        | nil => simp [Numeral.chars, Numeral.fractionChars, Numeral.exponentChars]
        | cons e es => simp [Numeral.chars, Numeral.fractionChars, Numeral.exponentChars]

end FloatStyle

/-- The numeral of a finite float, by its fewest digits. -/
def floatNumeral {f : BinaryFormat} (style : FloatStyle) (x : Binary f) : Numeral :=
  let unsigned := if x.isZero then ⟨false, [0], [0], none⟩
    else style.numeral (Binary.shortest f x.magnitude)
  { unsigned with negative := x.negative }

theorem proper_floatNumeral {f : BinaryFormat} (style : FloatStyle) (x : Binary f) :
    (floatNumeral style x).Proper := by
  rw [floatNumeral]
  by_cases hx : x.isZero = true
  · rw [if_pos hx]
    refine ⟨by simp [AreDigits], nofun, ?_, by simp [AreDigits], nofun⟩
    intro ds he
    exact (List.cons.inj he).2.symm
  · rw [if_neg hx]
    have hmagnitude : x.magnitude ≠ 0 := by
      intro he
      exact hx (by rw [Binary.isZero, he]; rfl)
    have hproper : (style.numeral (Binary.shortest f x.magnitude)).Proper :=
      FloatStyle.proper_numeral (Binary.shortest_proper f hmagnitude)
    obtain ⟨hwhole, hstarted, hlead, hfraction, hexponent⟩ := hproper
    exact ⟨hwhole, hstarted, hlead, hfraction, hexponent⟩

theorem floatNumeral_pointed {f : BinaryFormat} (style : FloatStyle) (x : Binary f) :
    (floatNumeral style x).fraction ≠ [] ∨ (floatNumeral style x).exponent ≠ none := by
  rw [floatNumeral]
  by_cases hx : x.isZero = true
  · rw [if_pos hx]
    exact .inl nofun
  · rw [if_neg hx]
    exact FloatStyle.numeral_pointed style _

theorem finiteText_eq {f : BinaryFormat} (style : FloatStyle) (x : Binary f) :
    finiteText style x = (floatNumeral style x).chars := by
  have hsign {n : Numeral} {negative : Bool} (hn : n.negative = false) :
      (if negative then '-' :: n.chars else n.chars) = { n with negative := negative }.chars := by
    cases negative with
    | true => simp [Numeral.chars, hn]
    | false => simp [Numeral.chars, hn]
  rw [finiteText, floatNumeral]
  by_cases hx : x.isZero = true
  · rw [if_pos hx, if_pos hx]
    exact hsign (n := ⟨false, [0], [0], none⟩) rfl
  · rw [if_neg hx, if_neg hx, FloatStyle.text_eq]
    exact hsign (FloatStyle.numeral_positive style _)

namespace Number

/-- The numeral that a number is printed as. -/
def numeral : Number → Numeral
  | integer v _ _ => .ofInt v
  | float x _ => floatNumeral doubleStyle x

/-- The number that is read back from the text of a number: there may be none if it is a float. -/
def reread (n : Number) : Option Number :=
  n.numeral.number?

theorem text_eq (n : Number) : n.text = n.numeral.chars := by
  cases n with
  | integer v low high => exact (Numeral.chars_ofInt v).symm
  | float x finite => exact finiteText_eq doubleStyle x

theorem proper_numeral (n : Number) : n.numeral.Proper := by
  cases n with
  | integer v low high => exact Numeral.proper_ofInt v
  | float x finite => exact proper_floatNumeral doubleStyle x

theorem reread_integer {v : Int} (low : -2 ^ 63 ≤ v) (high : v < 2 ^ 64) :
    (integer v low high).reread = some (integer v low high) :=
  Numeral.number_ofInt low high

end Number

end Json

end BatchSql
