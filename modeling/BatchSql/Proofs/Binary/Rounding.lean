import BatchSql.Binary.Format
import Mathlib.Data.Int.Log
import Mathlib.Data.Rat.Floor
import Mathlib.Tactic.Positivity

namespace BatchSql.BinaryFormat

variable {num den num' den' : Nat}

/-- A power of two and a quotient compare as whole numbers do, on the side where the power is
whole. -/
theorem lt_two_zpow_iff (num : Nat) (hden : 0 < den) (e : Int) : (num : ℚ) / den < 2 ^ e ↔
    if 0 ≤ e then num < den * 2 ^ e.toNat else num * 2 ^ (-e).toNat < den := by
  have hpos : (0 : ℚ) < den := by exact_mod_cast hden
  rw [div_lt_iff₀ hpos]
  split
  · rename_i he
    obtain ⟨n, rfl⟩ := Int.eq_ofNat_of_zero_le he
    rw [zpow_natCast, Int.toNat_natCast, mul_comm]
    exact_mod_cast Iff.rfl
  · rename_i he
    obtain ⟨n, rfl⟩ : ∃ n : ℕ, e = -n := ⟨(-e).toNat, by omega⟩
    have htwo : (0 : ℚ) < 2 ^ n := by positivity
    rw [zpow_neg, zpow_natCast, neg_neg, Int.toNat_natCast, inv_mul_eq_div, lt_div_iff₀ htwo]
    exact_mod_cast Iff.rfl

/-- A quotient lies within a power of two of that of the leading bits. -/
theorem two_zpow_bounds (hnum : 0 < num) (hden : 0 < den) :
    (2 : ℚ) ^ ((num.log2 : ℤ) - den.log2 - 1) ≤ (num : ℚ) / den ∧
      (num : ℚ) / den < 2 ^ ((num.log2 : ℤ) - den.log2 + 1) := by
  have hnumLow : (2 : ℚ) ^ num.log2 ≤ num := by
    exact_mod_cast Nat.log2_self_le (Nat.ne_of_gt hnum)
  have hdenLow : (2 : ℚ) ^ den.log2 ≤ den := by
    exact_mod_cast Nat.log2_self_le (Nat.ne_of_gt hden)
  have hnumHigh : (num : ℚ) < 2 ^ (num.log2 + 1) := by exact_mod_cast Nat.lt_log2_self
  have hdenHigh : (den : ℚ) < 2 ^ (den.log2 + 1) := by exact_mod_cast Nat.lt_log2_self
  have hpos : (0 : ℚ) < den := by exact_mod_cast hden
  constructor
  · have hexponent : (num.log2 : ℤ) - den.log2 - 1 = num.log2 - (den.log2 + 1 : ℕ) := by omega
    rw [hexponent, zpow_sub₀ two_ne_zero, zpow_natCast, zpow_natCast]
    exact div_le_div₀ (by positivity) hnumLow hpos hdenHigh.le
  · have hexponent : (num.log2 : ℤ) - den.log2 + 1 = (num.log2 + 1 : ℕ) - den.log2 := by omega
    rw [hexponent, zpow_sub₀ two_ne_zero, zpow_natCast, zpow_natCast]
    exact div_lt_div₀ hnumHigh hdenLow (by positivity) (by positivity)

theorem log2_unique {q : ℚ} (hq : 0 < q) {e : Int} (hlow : (2 : ℚ) ^ e ≤ q)
    (hhigh : q < 2 ^ (e + 1)) : e = Int.log 2 q := by
  have hle : e ≤ Int.log 2 q :=
    (Int.zpow_le_iff_le_log (by decide) hq).mp (by exact_mod_cast hlow)
  have hlt : Int.log 2 q < e + 1 :=
    (Int.lt_zpow_iff_log_lt (by decide) hq).mp (by exact_mod_cast hhigh)
  omega

/-- The exponent is that of the quotient, however it is written. -/
theorem log2Floor_eq (hnum : 0 < num) (hden : 0 < den) :
    log2Floor num den = Int.log 2 ((num : ℚ) / den) := by
  have hpos : (0 : ℚ) < (num : ℚ) / den := by positivity
  obtain ⟨hlow, hhigh⟩ := two_zpow_bounds hnum hden
  have hbelow := lt_two_zpow_iff num hden ((num.log2 : ℤ) - den.log2)
  rw [log2Floor]
  generalize (num.log2 : ℤ) - den.log2 = e at hlow hhigh hbelow ⊢
  by_cases hlt : (num : ℚ) / den < 2 ^ e
  · rw [if_pos (hbelow.mp hlt)]
    refine log2_unique hpos hlow ?_
    rw [sub_add_cancel]
    exact hlt
  · rw [if_neg fun h => hlt (hbelow.mpr h)]
    exact log2_unique hpos (not_lt.mp hlt) hhigh

/-- A quotient is rounded as it is, however it is written. -/
theorem divEven_mul_right (num den : Nat) {c : Nat} (hc : 0 < c) :
    divEven (num * c) (den * c) = divEven num den := by
  have hlt (a b : Nat) : (2 * (a * c) < b * c ↔ 2 * a < b) := by
    rw [← Nat.mul_assoc, Nat.mul_lt_mul_right hc]
  have hgt (a b : Nat) : (b * c < 2 * (a * c) ↔ b < 2 * a) := by
    rw [← Nat.mul_assoc, Nat.mul_lt_mul_right hc]
  rw [divEven, divEven, Nat.mul_div_mul_right _ _ hc, Nat.mul_mod_mul_right]
  simp only [hlt, hgt]

theorem divEven_of_cross (hden : 0 < den) (hden' : 0 < den') (h : num * den' = num' * den) :
    divEven num den = divEven num' den' := by
  rw [← divEven_mul_right num den hden', h, ← divEven_mul_right num' den' hden,
    Nat.mul_comm den den']

/-- Equal quotients are rounded to one magnitude. -/
theorem round_of_cross (f : BinaryFormat) (hden : 0 < den) (hden' : 0 < den')
    (h : num * den' = num' * den) : f.round num den = f.round num' den' := by
  rw [round, round]
  rcases Nat.eq_zero_or_pos num with rfl | hnum
  · obtain rfl : num' = 0 := by
      rw [Nat.zero_mul] at h
      exact (Nat.mul_eq_zero.mp h.symm).resolve_right (Nat.ne_of_gt hden)
    rfl
  · have hnum' : 0 < num' := Nat.pos_of_mul_pos_right (h ▸ Nat.mul_pos hnum hden')
    have hquotient : (num : ℚ) / den = (num' : ℚ) / den' := by
      rw [div_eq_div_iff (by positivity) (by positivity)]
      exact_mod_cast h
    rw [if_neg (Nat.ne_of_gt hnum), if_neg (Nat.ne_of_gt hnum'), log2Floor_eq hnum hden,
      log2Floor_eq hnum' hden', hquotient]
    generalize (Int.log 2 ((num' : ℚ) / den') + f.depth - (f.precision - 1)).toNat = shift
    have hrounded : divEven (num * 2 ^ f.depth) (den * 2 ^ shift) =
        divEven (num' * 2 ^ f.depth) (den' * 2 ^ shift) := by
      refine divEven_of_cross (by positivity) (by positivity) ?_
      calc num * 2 ^ f.depth * (den' * 2 ^ shift)
        _ = num * den' * (2 ^ f.depth * 2 ^ shift) := Nat.mul_mul_mul_comm _ _ _ _
        _ = num' * den * (2 ^ f.depth * 2 ^ shift) := by rw [h]
        _ = num' * 2 ^ f.depth * (den * 2 ^ shift) := Nat.mul_mul_mul_comm _ _ _ _
    dsimp only
    rw [hrounded]

end BatchSql.BinaryFormat
