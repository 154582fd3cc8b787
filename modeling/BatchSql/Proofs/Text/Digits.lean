import BatchSql.Text.Blank
import BatchSql.Text.Digits

namespace BatchSql.Text

/-- The digits of a number, the most significant first. -/
def digitsOf (n : Nat) : List Nat :=
  if n < 10 then [n] else digitsOf (n / 10) ++ [n % 10]

/-- The number that digits spell, continuing from `acc`. -/
def valueFrom (acc : Nat) (ds : List Nat) : Nat :=
  ds.foldl (fun n d => n * 10 + d) acc

def digitChars (ds : List Nat) : List Char :=
  ds.map Nat.digitChar

def AreDigits (ds : List Nat) : Prop :=
  ∀ d ∈ ds, d < 10

@[simp] theorem digitChars_nil : digitChars [] = [] := rfl

@[simp] theorem digitChars_cons (d : Nat) (ds : List Nat) :
    digitChars (d :: ds) = d.digitChar :: digitChars ds := rfl

@[simp] theorem digitChars_append (ds es : List Nat) :
    digitChars (ds ++ es) = digitChars ds ++ digitChars es :=
  List.map_append

@[simp] theorem digitChars_replicate_zero (n : Nat) :
    digitChars (List.replicate n 0) = List.replicate n '0' :=
  List.map_replicate

theorem digitChars_take (n : Nat) (ds : List Nat) :
    digitChars (ds.take n) = (digitChars ds).take n :=
  List.map_take

theorem digitChars_drop (n : Nat) (ds : List Nat) :
    digitChars (ds.drop n) = (digitChars ds).drop n :=
  List.map_drop

theorem areDigits_append {ds es : List Nat} :
    AreDigits (ds ++ es) ↔ AreDigits ds ∧ AreDigits es :=
  List.forall_mem_append

theorem areDigits_replicate_zero (n : Nat) : AreDigits (List.replicate n 0) := by
  intro d hd
  rw [(List.mem_replicate.mp hd).2]
  decide

theorem digitsOf_small {n : Nat} (h : n < 10) : digitsOf n = [n] := by
  rw [digitsOf, if_pos h]

theorem digitsOf_large {n : Nat} (h : ¬n < 10) :
    digitsOf n = digitsOf (n / 10) ++ [n % 10] := by
  rw [digitsOf, if_neg h]

theorem areDigits_digitsOf (n : Nat) : AreDigits (digitsOf n) := by
  fun_induction digitsOf n with
  | case1 n h => simpa [AreDigits] using h
  | case2 n h ih =>
    refine areDigits_append.mpr ⟨ih, ?_⟩
    simp only [AreDigits, List.mem_singleton, forall_eq]
    omega

theorem digitsOf_ne_nil (n : Nat) : digitsOf n ≠ [] := by
  rw [digitsOf]
  split
  · simp
  · simp

/-- Only the number zero begins with a zero. -/
theorem head_digitsOf {n d : Nat} {ds : List Nat} (h : digitsOf n = d :: ds) (hd : d = 0) :
    n = 0 ∧ ds = [] := by
  induction n using Nat.strongRecOn generalizing d ds with
  | ind n ih =>
    by_cases hn : n < 10
    · rw [digitsOf_small hn] at h
      obtain ⟨rfl, rfl⟩ := List.cons.inj h
      exact ⟨hd, rfl⟩
    · rw [digitsOf_large hn] at h
      cases hfront : digitsOf (n / 10) with
      | nil => exact absurd hfront (digitsOf_ne_nil _)
      | cons e es =>
        rw [hfront, List.cons_append] at h
        obtain ⟨hzero, -⟩ := ih (n / 10) (by omega) hfront ((List.cons.inj h).1.trans hd)
        omega

@[simp] theorem valueFrom_nil (acc : Nat) : valueFrom acc [] = acc := rfl

@[simp] theorem valueFrom_cons (acc d : Nat) (ds : List Nat) :
    valueFrom acc (d :: ds) = valueFrom (acc * 10 + d) ds := rfl

theorem valueFrom_append (acc : Nat) (ds es : List Nat) :
    valueFrom acc (ds ++ es) = valueFrom (valueFrom acc ds) es :=
  List.foldl_append

/-- What has been read is shifted by the digits that follow. -/
theorem valueFrom_eq (acc : Nat) (ds : List Nat) :
    valueFrom acc ds = acc * 10 ^ ds.length + valueFrom 0 ds := by
  induction ds generalizing acc with
  | nil => simp
  | cons d ds ih =>
    rw [valueFrom_cons, valueFrom_cons, ih, ih (0 * 10 + d), List.length_cons, Nat.pow_succ]
    grind

theorem le_valueFrom (acc : Nat) (ds : List Nat) : acc ≤ valueFrom acc ds := by
  rw [valueFrom_eq]
  exact Nat.le_add_right_of_le (Nat.le_mul_of_pos_right acc (Nat.pow_pos (by decide)))

theorem valueFrom_replicate_zero (n : Nat) : valueFrom 0 (List.replicate n 0) = 0 := by
  induction n with
  | zero => rfl
  | succ n ih => rw [List.replicate_succ, valueFrom_cons, ih]

theorem valueFrom_digitsOf (n : Nat) : valueFrom 0 (digitsOf n) = n := by
  fun_induction digitsOf n with
  | case1 n h => simp
  | case2 n h ih =>
    rw [valueFrom_append, ih, valueFrom_cons, valueFrom_nil]
    omega

theorem length_digitsOf_le {n k : Nat} (hk : 0 < k) (h : n < 10 ^ k) :
    (digitsOf n).length ≤ k := by
  induction k generalizing n with
  | zero => omega
  | succ k ih =>
    by_cases hn : n < 10
    · rw [digitsOf_small hn]
      exact Nat.succ_le_succ (Nat.zero_le k)
    · have hpos : 0 < k := by
        apply Nat.pos_of_ne_zero
        rintro rfl
        omega
      have hlt : n / 10 < 10 ^ k := by
        rw [Nat.pow_succ] at h
        omega
      rw [digitsOf_large hn, List.length_append]
      exact Nat.succ_le_succ (ih hpos hlt)

theorem toDigits_eq (n : Nat) : Nat.toDigits 10 n = digitChars (digitsOf n) := by
  fun_induction digitsOf n with
  | case1 n h => rw [Nat.toDigits_of_lt_base h, digitChars, List.map_singleton]
  | case2 n h ih =>
    rw [Nat.toDigits_eq_if (by decide), if_neg h, ih, digitChars, digitChars, List.map_append,
      List.map_singleton]

theorem padded_eq (width n : Nat) :
    padded width n =
      digitChars (List.replicate (width - (digitsOf n).length) 0 ++ digitsOf n) := by
  rw [padded, toDigits_eq, digitChars, digitChars, List.map_append, List.map_replicate,
    List.length_map]
  rfl

theorem areDigits_padded (width n : Nat) :
    AreDigits (List.replicate (width - (digitsOf n).length) 0 ++ digitsOf n) :=
  areDigits_append.mpr ⟨areDigits_replicate_zero _, areDigits_digitsOf n⟩

theorem length_padded {width n : Nat} (hw : 0 < width) (h : n < 10 ^ width) :
    (padded width n).length = width := by
  have hle := length_digitsOf_le hw h
  rw [padded_eq, digitChars, List.length_map, List.length_append, List.length_replicate]
  omega

theorem digit_digitChar {d : Nat} (h : d < 10) : digit? d.digitChar = some d := by
  revert d
  decide

theorem isDigit_digitChar {d : Nat} (h : d < 10) : isDigit d.digitChar = true := by
  rw [isDigit, digit_digitChar h]
  rfl

theorem isDigit_of_mem {ds : List Nat} (h : AreDigits ds) {c : Char} (hc : c ∈ digitChars ds) :
    isDigit c = true := by
  obtain ⟨d, hd, rfl⟩ := List.mem_map.mp hc
  exact isDigit_digitChar (h d hd)

theorem not_isBlank_of_isDigit {c : Char} (h : isDigit c = true) : isBlank c = false := by
  rw [isDigit, digit?] at h
  split at h
  · rename_i hc
    have hlow : 48 ≤ c.toNat := hc.1
    have hhigh : c.toNat ≤ 57 := hc.2
    simp only [isBlank]
    grind
  · cases h

theorem cons_ne_of_isDigit {c x : Char} (hc : isDigit c = true) (hx : isDigit x = false)
    (cs rest : List Char) : c :: cs ≠ x :: rest := by
  rintro ⟨⟩
  rw [hx] at hc
  cases hc

theorem toLower_of_isDigit {c : Char} (h : isDigit c = true) : c.toLower = c := by
  rw [isDigit, digit?] at h
  split at h
  · rename_i hc
    refine dif_neg fun hupper => ?_
    exact absurd (Nat.le_trans (UInt32.le_iff_toNat_le.mp hupper.1) hc.2) (by decide)
  · cases h

theorem trimStart_cons {c : Char} (h : isBlank c = false) (cs : List Char) :
    trimStart (c :: cs) = c :: cs := by
  rw [trimStart, List.dropWhile_cons, h, if_neg Bool.false_ne_true]

/-- Digits are read, and what follows them is read on from their number. -/
theorem digitsFrom_append {ds : List Nat} (h : AreDigits ds) (acc : Nat) (rest : List Char) :
    digitsFrom acc (digitChars ds ++ rest) = digitsFrom (valueFrom acc ds) rest := by
  induction ds generalizing acc with
  | nil => rfl
  | cons d ds ih =>
    rw [AreDigits, List.forall_mem_cons] at h
    rw [digitChars_cons, List.cons_append, digitsFrom, digit_digitChar h.1, Option.bind_some]
    exact ih h.2 _

theorem digitsFrom_digitChars {ds : List Nat} (h : AreDigits ds) (acc : Nat) :
    digitsFrom acc (digitChars ds) = some (valueFrom acc ds) := by
  have happend := digitsFrom_append h acc []
  rwa [List.append_nil] at happend

theorem nat_digitChars {ds : List Nat} (h : AreDigits ds) (hne : ds ≠ []) :
    nat? (digitChars ds) = some (valueFrom 0 ds) := by
  cases ds with
  | nil => exact absurd rfl hne
  | cons d ds => exact digitsFrom_digitChars h 0

theorem nat_padded (width n : Nat) : nat? (padded width n) = some n := by
  have hne : List.replicate (width - (digitsOf n).length) 0 ++ digitsOf n ≠ [] := by
    simp [digitsOf_ne_nil]
  rw [padded_eq, nat_digitChars (areDigits_padded width n) hne, valueFrom_append,
    valueFrom_replicate_zero, valueFrom_digitsOf]

/-- The text does not go on with a digit. -/
def Apart (rest : List Char) : Prop :=
  ∀ c ∈ rest.head?, isDigit c = false

theorem apart_nil : Apart [] :=
  nofun

theorem apart_cons {c : Char} {rest : List Char} (h : isDigit c = false) : Apart (c :: rest) := by
  rintro _ ⟨rfl⟩
  exact h

theorem takeWhile_isDigit {cs rest : List Char} (h : ∀ c ∈ cs, isDigit c = true)
    (hr : Apart rest) : (cs ++ rest).takeWhile isDigit = cs := by
  have hrest : rest.takeWhile isDigit = [] := by
    cases rest with
    | nil => rfl
    | cons c rest => rw [List.takeWhile_cons, hr c rfl, if_neg Bool.false_ne_true]
  rw [List.takeWhile_append_of_pos h, hrest, List.append_nil]

theorem dropWhile_isDigit {cs rest : List Char} (h : ∀ c ∈ cs, isDigit c = true)
    (hr : Apart rest) : (cs ++ rest).dropWhile isDigit = rest := by
  have hcut := List.takeWhile_append_dropWhile (p := isDigit) (l := cs ++ rest)
  rw [takeWhile_isDigit h hr] at hcut
  exact List.append_cancel_left hcut

theorem isDigit_of_mem_padded {width n : Nat} {c : Char} (h : c ∈ padded width n) :
    isDigit c = true := by
  rw [padded_eq] at h
  exact isDigit_of_mem (areDigits_padded width n) h

theorem takeWhile_padded (width n : Nat) {rest : List Char} (hr : Apart rest) :
    (padded width n ++ rest).takeWhile isDigit = padded width n :=
  takeWhile_isDigit (fun _ hc => isDigit_of_mem_padded hc) hr

theorem padded_ne_nil (width n : Nat) : padded width n ≠ [] := by
  rw [padded_eq, digitChars]
  simp [digitsOf_ne_nil]

/-- A padded number begins with a digit. -/
theorem exists_padded (width n : Nat) :
    ∃ c cs, padded width n = c :: cs ∧ isDigit c = true := by
  cases h : padded width n with
  | nil => exact absurd h (padded_ne_nil width n)
  | cons c cs =>
    have hc : c ∈ padded width n := by
      rw [h]
      exact List.mem_cons_self
    exact ⟨c, cs, rfl, isDigit_of_mem_padded hc⟩

theorem hexDigit_hexChar {n : Nat} (h : n < 16) : hexDigit? (hexChar n) = some n := by
  revert n
  decide

end BatchSql.Text
