import BatchSql.Varint

namespace BatchSql

namespace Octets

/-- Reading on from a number shifts it by the octets that follow. -/
theorem foldl_ofNat (n v start : Nat) :
    (ofNat n v).foldl (fun w b => w * 256 + b.toNat) start = start * 256 ^ n + v % 256 ^ n := by
  induction n generalizing start with
  | zero => simp [ofNat, Nat.mod_one]
  | succ n ih =>
    have hsplit : v % 256 ^ (n + 1) = v % 256 ^ n + 256 ^ n * (v / 256 ^ n % 256) := by
      rw [Nat.pow_succ, Nat.mod_mul]
    have hbyte : (UInt8.ofNat (v / 256 ^ n)).toNat = v / 256 ^ n % 256 := by
      simp
    simp only [ofNat, List.foldl_cons, ih, hbyte]
    rw [hsplit, Nat.pow_succ]
    grind

theorem toNat_ofNat (n v : Nat) : toNat (ofNat n v) = v % 256 ^ n := by
  rw [toNat, foldl_ofNat]
  simp

theorem toNat_octet {n : Nat} (h : n < 256) : (UInt8.ofNat n).toNat = n := by
  simp [Nat.mod_eq_of_lt h]

/-- Octets of two's complement give back what they had room for. -/
theorem toInt_ofInt (n : Nat) (v : Int) : toInt (ofInt n v) = Int.bmod v (256 ^ n) := by
  have hpos : (0 : Int) < (256 ^ n : Nat) := by
    exact_mod_cast Nat.pow_pos (by decide : 0 < 256)
  have hnonneg : 0 ≤ v % (256 ^ n : Nat) := Int.emod_nonneg _ (Int.ne_of_gt hpos)
  have hlt : v % (256 ^ n : Nat) < (256 ^ n : Nat) := Int.emod_lt_of_pos _ hpos
  have hnat : (v % (256 ^ n : Nat)).toNat % 256 ^ n = (v % (256 ^ n : Nat)).toNat :=
    Nat.mod_eq_of_lt (by omega)
  change Int.bmod (toNat (ofNat n (v % (256 ^ n : Nat)).toNat)) (256 ^ (ofNat n _).length) = _
  rw [toNat_ofNat, length_ofNat, hnat, Int.toNat_of_nonneg hnonneg, Int.emod_bmod]

/-- Eight octets have room for every number of 64 bits. -/
theorem toInt_ofInt64 (v : Int64) : toInt (ofInt 8 v.toInt) = v.toInt := by
  have hlow := v.le_toInt
  have hhigh := v.toInt_lt
  rw [toInt_ofInt]
  exact Int.bmod_eq_of_le (by omega) (by omega)

/-- Octets that follow others add to them as digits do. -/
theorem foldl_toNat (bs : Octets) (start : Nat) :
    bs.foldl (fun v b => v * 256 + b.toNat) start = start * 256 ^ bs.length + bs.toNat := by
  induction bs generalizing start with
  | nil => simp [toNat]
  | cons b bs ih =>
    simp only [toNat, List.foldl_cons, List.length_cons] at ih ⊢
    rw [ih, ih (0 * 256 + b.toNat), Nat.pow_succ]
    grind

theorem toNat_cons (b : UInt8) (bs : Octets) :
    toNat (b :: bs) = b.toNat * 256 ^ bs.length + bs.toNat := by
  have h := foldl_toNat bs (0 * 256 + b.toNat)
  rw [Nat.zero_mul, Nat.zero_add] at h
  rw [← h, toNat, List.foldl_cons, Nat.zero_mul, Nat.zero_add]

theorem toNat_lt (bs : Octets) : bs.toNat < 256 ^ bs.length := by
  induction bs with
  | nil => simp [toNat]
  | cons b bs ih =>
    have hb := b.toNat_lt
    rw [toNat_cons, List.length_cons, Nat.pow_succ]
    calc b.toNat * 256 ^ bs.length + toNat bs
        < b.toNat * 256 ^ bs.length + 256 ^ bs.length := Nat.add_lt_add_left ih _
      _ = (b.toNat + 1) * 256 ^ bs.length := (Nat.succ_mul _ _).symm
      _ ≤ 256 * 256 ^ bs.length := Nat.mul_le_mul_right _ hb
      _ = 256 ^ bs.length * 256 := Nat.mul_comm _ _

/-- What is above the octets that are written does not matter. -/
theorem ofNat_add_mul (n v k : Nat) : ofNat n (k * 256 ^ n + v) = ofNat n v := by
  induction n generalizing k with
  | zero => rfl
  | succ n ih =>
    have hpos : 0 < 256 ^ n := Nat.pow_pos (by decide)
    have hshift : k * 256 ^ (n + 1) = (k * 256) * 256 ^ n := by
      rw [Nat.pow_succ]
      grind
    rw [ofNat, ofNat, hshift, ih, Nat.add_comm, Nat.add_mul_div_right _ _ hpos]
    congr 1
    rw [UInt8.ofNat_add, UInt8.ofNat_mul]
    simp

theorem ofNat_toNat (bs : Octets) : ofNat bs.length bs.toNat = bs := by
  induction bs with
  | nil => rfl
  | cons b bs ih =>
    have hpos : 0 < 256 ^ bs.length := Nat.pow_pos (by decide)
    rw [List.length_cons, ofNat, toNat_cons, ofNat_add_mul, ih, Nat.add_comm,
      Nat.add_mul_div_right _ _ hpos, Nat.div_eq_of_lt (toNat_lt bs), Nat.zero_add,
      UInt8.ofNat_toNat]

/-- Eight octets are what is written of the number that they are read as. -/
theorem ofInt_toInt64 {bs : Octets} (h : bs.length = 8) :
    ofInt 8 (Int64.ofInt bs.toInt).toInt = bs := by
  have hlt := toNat_lt bs
  have hback := ofNat_toNat bs
  rw [h] at hlt hback
  have hint : (Int64.ofInt bs.toInt).toInt = Int.bmod bs.toNat (256 ^ 8) := by
    rw [Int64.toInt_ofInt, toInt, h]
    exact Int.bmod_bmod
  have hmod : Int.bmod bs.toNat (256 ^ 8) % (256 ^ 8 : Nat) = bs.toNat := by
    rw [Int.bmod_emod]
    exact Int.emod_eq_of_lt (Int.natCast_nonneg _) (by exact_mod_cast hlt)
  change ofNat 8 ((Int64.ofInt bs.toInt).toInt % (256 ^ 8 : Nat)).toNat = bs
  rw [hint, hmod, Int.toNat_natCast, hback]

end Octets

namespace Varint

theorem octet_last {v : Nat} (hv : v < 128) :
    (UInt8.ofNat v).toNat = v ∧ UInt8.ofNat v < 128 := by
  have hb : (UInt8.ofNat v).toNat = v := Octets.toNat_octet (by omega)
  refine ⟨hb, ?_⟩
  rw [UInt8.lt_iff_toNat_lt, hb]
  exact hv

theorem octet_more (v : Nat) :
    (UInt8.ofNat (v % 128 + 128)).toNat = v % 128 + 128 ∧ ¬UInt8.ofNat (v % 128 + 128) < 128 := by
  have hb : (UInt8.ofNat (v % 128 + 128)).toNat = v % 128 + 128 := Octets.toNat_octet (by omega)
  refine ⟨hb, ?_⟩
  rw [UInt8.lt_iff_toNat_lt, hb]
  exact Nat.not_lt.mpr (Nat.le_add_left 128 _)

/-- A number that fits below the places left is read back, and what follows it stays. -/
theorem decodeFrom_encode (v place : Nat) (rest : Octets) (hp : place ≤ lastPlace)
    (hv : v * 128 ^ place < 2 ^ 64) :
    decodeFrom place (encode v ++ rest) = (.ok v, rest) := by
  induction v using Nat.strongRecOn generalizing place with
  | ind v ih =>
    rw [encode]
    split
    · rename_i hsmall
      obtain ⟨hb, hend⟩ := octet_last hsmall
      have hroom : ¬(place = lastPlace ∧ 1 < UInt8.ofNat v) := by
        rintro ⟨rfl, hlt⟩
        rw [UInt8.lt_iff_toNat_lt, hb] at hlt
        simp only [lastPlace, UInt8.toNat_one] at hv hlt
        omega
      simp only [List.cons_append, List.nil_append, decodeFrom, if_neg hroom, if_pos hend, hb]
    · rename_i hbig
      obtain ⟨hb, hmore⟩ := octet_more v
      have hlt : place < lastPlace := by
        apply Nat.lt_of_le_of_ne hp
        rintro rfl
        simp only [lastPlace] at hv
        omega
      have hroom : ¬(place = lastPlace ∧ 1 < UInt8.ofNat (v % 128 + 128)) := by
        rintro ⟨he, _⟩
        omega
      have hfit : v / 128 * 128 ^ (place + 1) < 2 ^ 64 := by
        calc v / 128 * 128 ^ (place + 1) = v / 128 * 128 * 128 ^ place := by
              rw [Nat.pow_succ]
              grind
          _ ≤ v * 128 ^ place := Nat.mul_le_mul_right _ (Nat.div_mul_le_self v 128)
          _ < 2 ^ 64 := hv
      have hhigh := ih (v / 128) (by omega) (place + 1) hlt hfit
      simp only [List.cons_append, decodeFrom, if_neg hroom, if_neg hmore, hhigh, hb, Except.map]
      congr 2
      omega

/-- Every number of 64 bits is read back from its octets, whatever follows them. -/
theorem decode_encode {v : Nat} (hv : v < 2 ^ 64) (rest : Octets) :
    decode (encode v ++ rest) = (.ok v, rest) :=
  decodeFrom_encode v 0 rest (by decide) (by simpa using hv)

end Varint

end BatchSql
