import BatchSql.Proofs.Encoding.Canonical
import Mathlib.Algebra.BigOperators.Ring.Finset
import Mathlib.Data.List.GetD
import Mathlib.Data.Nat.Size
import Mathlib.Tactic.Ring

namespace BatchSql

namespace Varint

/-- The number that octets spell with seven bits each, the lowest first. -/
def total (c : Octets) : Nat :=
  ∑ i ∈ Finset.range c.length, (c.getD i 0).toNat % 128 * 128 ^ i

theorem total_nil : total [] = 0 := rfl

theorem total_cons (b : UInt8) (c : Octets) : total (b :: c) = b.toNat % 128 + 128 * total c := by
  unfold total
  rw [List.length_cons, Finset.sum_range_succ', Finset.mul_sum, Nat.add_comm]
  simp only [List.getD_cons_zero, List.getD_cons_succ, Nat.pow_zero, Nat.mul_one, Nat.pow_succ]
  congr 1
  apply Finset.sum_congr rfl
  intro i _
  ring

/-- Octets that all go on, and one that ends the number. There is one for each place from the first
on, and the last place has room for one bit. -/
structure Ends (place : Nat) (front : Octets) (last : UInt8) : Prop where
  more : ∀ b ∈ front, 128 ≤ b
  ends : last < 128
  fits : place + front.length ≤ lastPlace
  room : place + front.length = lastPlace → last ≤ 1

section Front

variable {place : Nat} {front rest : Octets} {last : UInt8}

theorem goes_on {b : UInt8} (h : 128 ≤ b) : ¬b < 128 :=
  UInt8.not_lt.mpr h

/-- Before the last place an octet that goes on adds seven bits. -/
theorem decodeFrom_cons {b : UInt8} {c : Octets} (hb : 128 ≤ b) (hp : place < lastPlace) :
    decodeFrom place (b :: c) =
      ((decodeFrom (place + 1) c).1.map fun v => b.toNat - 128 + 128 * v,
        (decodeFrom (place + 1) c).2) := by
  have hroom : ¬(place = lastPlace ∧ 1 < b) := by
    intro h
    omega
  rw [decodeFrom, if_neg hroom, if_neg (goes_on hb)]

theorem decodeFrom_ends (h : Ends place front last) (rest : Octets) :
    decodeFrom place (front ++ last :: rest) = (.ok (total (front ++ [last])), rest) := by
  induction front generalizing place with
  | nil =>
    have hlast := last_iff.mp h.ends
    have hroom : ¬(place = lastPlace ∧ 1 < last) := by
      rintro ⟨hp, hlt⟩
      exact UInt8.not_lt.mpr (h.room hp) hlt
    rw [List.nil_append, decodeFrom, if_neg hroom, if_pos h.ends]
    simp [total_cons, total_nil, Nat.mod_eq_of_lt hlast]
  | cons b front ih =>
    obtain ⟨hmore, hends, hfits, hroom⟩ := h
    rw [List.forall_mem_cons] at hmore
    rw [List.length_cons] at hfits hroom
    have hrest : Ends (place + 1) front last :=
      ⟨hmore.2, hends, by omega, fun hp => hroom (by omega)⟩
    have hb := b.toNat_lt
    have hbig : 128 ≤ b.toNat := UInt8.le_iff_toNat_le.mp hmore.1
    have hseven : b.toNat - 128 = b.toNat % 128 := by omega
    rw [List.cons_append, decodeFrom_cons hmore.1 (by omega), ih hrest, List.cons_append,
      total_cons, hseven]
    rfl

theorem decodeFrom_truncated {b : Octets} (hmore : ∀ c ∈ b, 128 ≤ c)
    (hshort : place + b.length ≤ lastPlace) :
    decodeFrom place b = (.error (.decode "truncated varint"), []) := by
  induction b generalizing place with
  | nil => rfl
  | cons c b ih =>
    rw [List.forall_mem_cons] at hmore
    rw [List.length_cons] at hshort
    rw [decodeFrom_cons hmore.1 (by omega), ih hmore.2 (by omega)]
    rfl

theorem decodeFrom_over (hmore : ∀ b ∈ front, 128 ≤ b) (hfull : place + front.length = lastPlace)
    (hover : 1 < last) :
    decodeFrom place (front ++ last :: rest) =
      (.error (.decode "varint overflows u64"), rest) := by
  induction front generalizing place with
  | nil => rw [List.nil_append, decodeFrom, if_pos ⟨hfull, hover⟩]
  | cons b front ih =>
    rw [List.forall_mem_cons] at hmore
    rw [List.length_cons] at hfull
    rw [List.cons_append, decodeFrom_cons hmore.1 (by omega), ih hmore.2 (by omega)]
    rfl

/-- All octets go on, or there is a first that does not, or the one at a given place is reached. -/
theorem exists_front (b : Octets) (n : Nat) :
    ((∀ c ∈ b, 128 ≤ c) ∧ b.length ≤ n) ∨ ∃ front last rest, b = front ++ last :: rest ∧
      (∀ c ∈ front, 128 ≤ c) ∧ front.length ≤ n ∧ (front.length < n → last < 128) := by
  induction b generalizing n with
  | nil => exact .inl ⟨nofun, Nat.zero_le n⟩
  | cons c b ih =>
    by_cases hc : n = 0 ∨ c < 128
    · right
      refine ⟨[], c, b, rfl, nofun, Nat.zero_le n, ?_⟩
      intro hn
      exact hc.resolve_left (Nat.ne_of_gt hn)
    · rw [not_or] at hc
      have hgoes : 128 ≤ c := UInt8.not_lt.mp hc.2
      obtain ⟨m, rfl⟩ := Nat.exists_eq_succ_of_ne_zero hc.1
      rcases ih m with ⟨hmore, hshort⟩ | ⟨front, last, rest, rfl, hmore, hlength, hlast⟩
      · exact .inl ⟨List.forall_mem_cons.mpr ⟨hgoes, hmore⟩, Nat.succ_le_succ hshort⟩
      · right
        refine ⟨c :: front, last, rest, rfl, List.forall_mem_cons.mpr ⟨hgoes, hmore⟩,
          Nat.succ_le_succ hlength, ?_⟩
        intro hlt
        exact hlast (Nat.lt_of_succ_lt_succ hlt)

end Front

/-- The first octet without its top bit stands at the place `k`, which is one of ten, and is one bit
at the last of them. -/
def EndsAt (b : Octets) (k : Nat) : Prop :=
  b.findIdx? (· < 128) = some k ∧ k ≤ lastPlace ∧ (k = lastPlace → b.getD k 0 ≤ 1)

theorem endsAt_iff {b : Octets} {k : Nat} :
    EndsAt b k ↔ ∃ front last rest, b = front ++ last :: rest ∧ front.length = k ∧
      Ends 0 front last := by
  constructor
  · rintro ⟨hfind, hfits, hroom⟩
    obtain ⟨hlt, hends, hmore⟩ := List.findIdx?_eq_some_iff_getElem.mp hfind
    have hlength : (b.take k).length = k := List.length_take_of_le (Nat.le_of_lt hlt)
    refine ⟨b.take k, b[k], b.drop (k + 1), ?_, hlength, ?_, by simpa using hends, ?_, ?_⟩
    · rw [List.getElem_cons_drop, List.take_append_drop]
    · intro c hc
      obtain ⟨j, hj, rfl⟩ := List.getElem_of_mem hc
      rw [List.getElem_take]
      rw [hlength] at hj
      simpa using hmore j hj
    · rw [hlength, Nat.zero_add]
      exact hfits
    · rw [hlength, Nat.zero_add]
      intro hk
      have hlast := hroom hk
      rwa [List.getD_eq_getElem b 0 hlt] at hlast
  · rintro ⟨front, last, rest, rfl, rfl, hmore, hends, hfits, hroom⟩
    rw [Nat.zero_add] at hfits hroom
    have hnone : front.findIdx? (· < 128) = none := by
      rw [List.findIdx?_eq_none_iff]
      intro c hc
      simpa using hmore c hc
    refine ⟨?_, hfits, ?_⟩
    · rw [List.findIdx?_append, hnone, List.findIdx?_cons, if_pos (by simpa using hends)]
      simp
    · simpa using hroom

/-- The low seven bits of each octet, put at their place in a word of 64 bits. -/
def gatherFrom (place : Nat) (word : UInt64) : Octets → UInt64
  | [] => word
  | b :: c =>
    gatherFrom (place + 1) (word ||| (b &&& 0x7F).toUInt64 <<< UInt64.ofNat (7 * place)) c

/-- The bits below a place and those put there do not meet. -/
theorem toNat_put {place : Nat} {word : UInt64} {b : UInt8} (hp : place ≤ lastPlace)
    (hword : word.toNat < 128 ^ place) (hfits : b.toNat % 128 * 128 ^ place < 2 ^ 64) :
    (word ||| (b &&& 0x7F).toUInt64 <<< UInt64.ofNat (7 * place)).toNat =
      word.toNat + b.toNat % 128 * 128 ^ place := by
  have hpow : 128 ^ place = 2 ^ (7 * place) := by rw [Nat.pow_mul]
  have hlow : (b &&& 0x7F).toNat = b.toNat % 128 := Nat.and_two_pow_sub_one_eq_mod b.toNat 7
  have hshift : (UInt64.ofNat (7 * place)).toNat % 64 = 7 * place := by
    simp only [lastPlace] at hp
    rw [UInt64.toNat_ofNat']
    omega
  rw [hpow] at hword hfits ⊢
  rw [UInt64.toNat_or, UInt64.toNat_shiftLeft, UInt8.toNat_toUInt64, hlow, hshift,
    Nat.shiftLeft_eq, Nat.mod_eq_of_lt hfits, Nat.or_comm, Nat.mul_comm (b.toNat % 128),
    ← Nat.two_pow_add_eq_or_of_lt hword, Nat.add_comm]

/-- A number that fits in the word is gathered without loss. -/
theorem toNat_gatherFrom {place : Nat} {word : UInt64} {c : Octets}
    (hp : place + c.length ≤ lastPlace + 1) (hword : word.toNat < 128 ^ place)
    (hfits : word.toNat + 128 ^ place * total c < 2 ^ 64) :
    (gatherFrom place word c).toNat = word.toNat + 128 ^ place * total c := by
  induction c generalizing place word with
  | nil => simp [gatherFrom, total_nil]
  | cons b c ih =>
    have hsum : word.toNat + 128 ^ place * total (b :: c) =
        word.toNat + b.toNat % 128 * 128 ^ place + 128 ^ (place + 1) * total c := by
      rw [total_cons]
      ring
    have hplace : place ≤ lastPlace := by
      rw [List.length_cons] at hp
      omega
    have hput := toNat_put (b := b) hplace hword (by omega)
    rw [gatherFrom, hsum, ← hput]
    apply ih
    · rw [List.length_cons] at hp
      omega
    · have hdigit : b.toNat % 128 < 128 := Nat.mod_lt _ (by decide)
      rw [hput, Nat.pow_succ]
      calc word.toNat + b.toNat % 128 * 128 ^ place
          < 128 ^ place + b.toNat % 128 * 128 ^ place := Nat.add_lt_add_right hword _
        _ = (b.toNat % 128 + 1) * 128 ^ place := by ring
        _ ≤ 128 * 128 ^ place := Nat.mul_le_mul_right _ hdigit
        _ = 128 ^ place * 128 := Nat.mul_comm _ _
    · rw [hput, ← hsum]
      exact hfits

/-- Seven bits an octet, and an octet at least. -/
theorem length_encode (v : Nat) : (encode v).length = max 1 ((v.size + 6) / 7) := by
  fun_induction encode v with
  | case1 v hv =>
    have hsize : v.size ≤ 7 := Nat.size_le.mpr hv
    rw [List.length_singleton]
    omega
  | case2 v hv ih =>
    have hsize : v.size = (v / 128).size + 7 := by
      apply eq_of_forall_ge_iff
      intro n
      rw [Nat.size_le]
      by_cases hn : n < 7
      · have hpow : 2 ^ n ≤ 2 ^ 7 := Nat.pow_le_pow_right (by decide) (Nat.le_of_lt hn)
        omega
      · obtain ⟨m, rfl⟩ := Nat.exists_eq_add_of_le' (Nat.not_lt.mp hn)
        rw [Nat.add_le_add_iff_right, Nat.size_le, Nat.pow_add,
          Nat.div_lt_iff_lt_mul (by decide)]
    have hpos : 0 < (v / 128).size := Nat.size_pos.mpr (by omega)
    rw [List.length_cons, ih, hsize]
    omega

/-- Whatever follows it, no number takes fewer octets than are written of it. -/
theorem encode_shortest {v : Nat} {c rest : Octets} (h : decode c = (.ok v, rest)) :
    (encode v).length ≤ c.length ∧ (c.length ≤ (encode v).length → c = encode v) := by
  obtain ⟨hc, hfront⟩ := front_of_decode h
  obtain ⟨hfew, honly⟩ := encode_fewest hfront
  have hlength := congrArg List.length hc
  rw [List.length_append] at hlength
  refine ⟨by omega, ?_⟩
  intro hle
  obtain rfl : rest = [] := List.eq_nil_of_length_eq_zero (by omega)
  rw [List.append_nil] at hc
  rw [honly (by omega), ← hc]

section Decode

variable {b : Octets}

theorem decode_of_ends {front rest : Octets} {last : UInt8} (h : Ends 0 front last)
    (hb : b = front ++ last :: rest) :
    decode b = (.ok (total (b.take (front.length + 1))), b.drop (front.length + 1)) := by
  have htake : b.take (front.length + 1) = front ++ [last] := by
    simp [hb, List.take_append]
  have hdrop : b.drop (front.length + 1) = rest := by
    simp [hb, List.drop_append]
  rw [htake, hdrop, hb]
  exact decodeFrom_ends h rest

/-- What a buffer without a number at its front is read as. -/
theorem decode_of_unended (h : ∀ k, ¬EndsAt b k) :
    (b.length < 10 → decode b = (.error (.decode "truncated varint"), [])) ∧
      (10 ≤ b.length → decode b = (.error (.decode "varint overflows u64"), b.drop 10)) := by
  rcases exists_front b lastPlace with ⟨hmore, hshort⟩ |
    ⟨front, last, rest, hb, hmore, hlength, hlast⟩
  · have hten : b.length < 10 := Nat.lt_succ_of_le hshort
    refine ⟨fun _ => decodeFrom_truncated hmore (by omega), ?_⟩
    intro hle
    omega
  · -- The octet behind the front is at the last place, or else it would end a number.
    have hover : front.length = lastPlace ∧ 1 < last := by
      by_contra hnot
      apply h front.length
      rw [endsAt_iff]
      have hends : last < 128 := by
        by_contra hge
        have hfull : ¬front.length < lastPlace := fun hlt => hge (hlast hlt)
        refine hnot ⟨by omega, ?_⟩
        rw [over_iff]
        rw [last_iff] at hge
        omega
      refine ⟨front, last, rest, hb, rfl, hmore, hends, by omega, ?_⟩
      intro hfull
      rw [Nat.zero_add] at hfull
      exact UInt8.not_lt.mp fun hlt => hnot ⟨hfull, hlt⟩
    obtain ⟨hfull, hover⟩ := hover
    have hdrop : b.drop 10 = rest := by
      have hten : 10 = front.length + 1 := by rw [hfull]; rfl
      simp [hb, hten, List.drop_append]
    constructor
    · intro hlt
      rw [hb, List.length_append, List.length_cons, hfull, lastPlace] at hlt
      omega
    · intro _
      rw [hdrop, hb]
      exact decodeFrom_over hmore (by omega) hover

theorem decode_eq_ok_iff {v : Nat} {rest : Octets} : decode b = (.ok v, rest) ↔
    ∃ k, EndsAt b k ∧ rest = b.drop (k + 1) ∧ v = total (b.take (k + 1)) := by
  constructor
  · intro h
    by_contra hnone
    have hunended : ∀ k, ¬EndsAt b k := by
      intro k hk
      obtain ⟨front, last, rest', hb, rfl, hends⟩ := endsAt_iff.mp hk
      cases h.symm.trans (decode_of_ends hends hb)
      exact hnone ⟨front.length, hk, rfl, rfl⟩
    obtain ⟨hshort, hlong⟩ := decode_of_unended hunended
    rcases Nat.lt_or_ge b.length 10 with hlt | hge
    · cases h.symm.trans (hshort hlt)
    · cases h.symm.trans (hlong hge)
  · rintro ⟨k, hk, rfl, rfl⟩
    obtain ⟨front, last, rest, hb, rfl, hends⟩ := endsAt_iff.mp hk
    exact decode_of_ends hends hb

/-- A number that ends in time fits in a word, and the word gathers it. -/
theorem toNat_gather {k : Nat} (h : EndsAt b k) :
    total (b.take (k + 1)) < 2 ^ 64 ∧
      (gatherFrom 0 0 (b.take (k + 1))).toNat = total (b.take (k + 1)) := by
  have hread := decode_eq_ok_iff.mpr ⟨k, h, rfl, rfl⟩
  have hlt := decode_lt hread
  have hlength : 0 + (b.take (k + 1)).length ≤ lastPlace + 1 := by
    rw [Nat.zero_add]
    exact Nat.le_trans (List.length_take_le (k + 1) b) (Nat.succ_le_succ h.2.1)
  have hgather := toNat_gatherFrom hlength (by decide : (0 : UInt64).toNat < 128 ^ 0)
    (by simpa using hlt)
  refine ⟨hlt, ?_⟩
  simpa using hgather

end Decode

end Varint

open Varint

/-- A number is read from the octets up to the first without its top bit, if this is one of ten,
and is one bit if it is the tenth. It is the sum of what they spell, which fits in a word of 64 bits
with nothing lost. All else fails: at the end of the buffer where fewer than ten octets are there,
else after ten. Of all octets that a number is read from, those that are written of it are the
fewest, and no others are so few. -/
theorem varints_lose_no_bit :
    (∀ b : Octets,
      (∀ v rest, decode b = (.ok v, rest) ↔
        ∃ k, EndsAt b k ∧ rest = b.drop (k + 1) ∧ v = total (b.take (k + 1))) ∧
      (∀ k, EndsAt b k → total (b.take (k + 1)) < 2 ^ 64 ∧
        (gatherFrom 0 0 (b.take (k + 1))).toNat = total (b.take (k + 1))) ∧
      ((∀ k, ¬EndsAt b k) →
        (b.length < 10 → decode b = (.error (.decode "truncated varint"), [])) ∧
        (10 ≤ b.length → decode b = (.error (.decode "varint overflows u64"), b.drop 10)))) ∧
    ∀ v : UInt64,
      decode (encode v.toNat) = (.ok v.toNat, []) ∧
      (encode v.toNat).length = max 1 ((v.toNat.size + 6) / 7) ∧
      ∀ c rest, decode c = (.ok v.toNat, rest) → (encode v.toNat).length ≤ c.length ∧
        (c.length ≤ (encode v.toNat).length → c = encode v.toNat) := by
  constructor
  · intro b
    exact ⟨fun _ _ => decode_eq_ok_iff, fun _ => toNat_gather, decode_of_unended⟩
  · intro v
    have hback := decode_encode v.toNat_lt []
    rw [List.append_nil] at hback
    exact ⟨hback, length_encode v.toNat, fun _ _ => encode_shortest⟩

/-- The greatest number, in ten octets, with one behind them. -/
theorem varints_lose_no_bit_greatest :
    let b : Octets := List.replicate 9 0xFF ++ [1, 7]
    let larger : Octets := List.replicate 9 0xFF ++ [2, 7]
    EndsAt b 9 ∧ (∀ k, ¬EndsAt larger k) ∧ 10 ≤ larger.length ∧
    decode b = (.ok (2 ^ 64 - 1), [7]) ∧
    (gatherFrom 0 0 (b.take 10)).toNat = 2 ^ 64 - 1 ∧
    decode larger = (.error (.decode "varint overflows u64"), [7]) ∧
    (encode (2 ^ 64 - 1)).length = 10 := by
  intro b larger
  have hb : EndsAt b 9 := ⟨by decide, by decide, by decide⟩
  have hover : ∀ k, ¬EndsAt larger k := by
    rintro k ⟨hfind, -, hroom⟩
    have hk : larger.findIdx? (· < 128) = some 9 := by decide
    cases hk.symm.trans hfind
    exact absurd (hroom rfl) (by decide)
  have htotal : total (b.take 10) = 2 ^ 64 - 1 := by decide +kernel
  obtain ⟨hread, hgather, -⟩ := varints_lose_no_bit.1 b
  obtain ⟨-, -, hfail⟩ := varints_lose_no_bit.1 larger
  obtain ⟨-, hlength, -⟩ := varints_lose_no_bit.2 (UInt64.ofNat (2 ^ 64 - 1))
  refine ⟨hb, hover, by decide, ?_, ?_, (hfail hover).2 (by decide), ?_⟩
  · exact (hread _ _).mpr ⟨9, hb, rfl, htotal.symm⟩
  · rw [(hgather 9 hb).2, htotal]
  · change (encode (2 ^ 64 - 1)).length = _ at hlength
    rw [hlength]
    decide +kernel

end BatchSql
