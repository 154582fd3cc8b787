import BatchSql.Proofs.Encoding.Numbers
import BatchSql.Proofs.Work
import BatchSql.Text.Utf8

namespace BatchSql.Utf8
open Octets (toNat_octet)

theorem not_ascii {n : Nat} (hlow : 0x80 ≤ n) (hn : n < 256) : ¬UInt8.ofNat n < 0x80 := by
  rw [UInt8.lt_iff_toNat_lt, toNat_octet hn]
  exact Nat.not_lt.mpr hlow

theorem run_lead {n start : Nat} {tail : Tail} {bs : Octets} (hlow : 0x80 ≤ n) (hn : n < 256)
    (hl : lead? (UInt8.ofNat n) = some tail) :
    run .boundary start (UInt8.ofNat n :: bs) = run (.inside tail 1) start bs := by
  rw [run, if_neg (not_ascii hlow hn), hl]

/-- The octet `0x80 + m` is one that may follow, and carries the bits `m`. -/
def Admits (tail : Tail) (m : Nat) : Prop :=
  m < 64 ∧ tail.low.toNat ≤ 0x80 + m ∧ 0x80 + m ≤ tail.high.toNat

theorem admits_plain {count bits m : Nat} (h : m < 64) : Admits ⟨count, 0x80, 0xBF, bits⟩ m :=
  ⟨h, Nat.le_add_right 0x80 m, Nat.add_le_add_left (Nat.le_of_lt_succ h) 0x80⟩

theorem Admits.range {tail : Tail} {m : Nat} (h : Admits tail m) :
    tail.low ≤ UInt8.ofNat (0x80 + m) ∧ UInt8.ofNat (0x80 + m) ≤ tail.high := by
  have hb : (UInt8.ofNat (0x80 + m)).toNat = 0x80 + m := toNat_octet (by have := h.1; omega)
  rw [UInt8.le_iff_toNat_le, UInt8.le_iff_toNat_le, hb]
  exact h.2

/-- An octet inside a scalar value adds six bits to those gathered. -/
theorem run_inside {tail : Tail} {m seen start : Nat} {bs : Octets} (h : Admits tail m)
    (hcount : ¬tail.count ≤ 1) :
    run (.inside tail seen) start (UInt8.ofNat (0x80 + m) :: bs) =
      run (.inside ⟨tail.count - 1, 0x80, 0xBF, tail.bits * 64 + m⟩ (seen + 1)) start bs := by
  have hb : (UInt8.ofNat (0x80 + m)).toNat = 0x80 + m := toNat_octet (by have := h.1; omega)
  simp only [run, if_pos h.range, if_neg hcount, hb, Nat.add_sub_cancel_left]

/-- The last octet of a scalar value completes it. -/
theorem run_last {tail : Tail} {m seen start : Nat} {bs : Octets} (h : Admits tail m)
    (hcount : tail.count ≤ 1) :
    run (.inside tail seen) start (UInt8.ofNat (0x80 + m) :: bs) =
      (run .boundary (start + seen + 1) bs).map (Char.ofNat (tail.bits * 64 + m) :: ·) := by
  have hb : (UInt8.ofNat (0x80 + m)).toNat = 0x80 + m := toNat_octet (by have := h.1; omega)
  simp only [run, if_pos h.range, if_pos hcount, hb, Nat.add_sub_cancel_left]

theorem lead_two {n : Nat} (hlow : 2 ≤ n) (hhigh : n < 32) :
    lead? (UInt8.ofNat (0xC0 + n)) = some ⟨1, 0x80, 0xBF, n⟩ := by
  simp only [lead?, toNat_octet (by omega : 0xC0 + n < 256)]
  rw [if_neg (by omega), if_pos (by omega), Nat.add_sub_cancel_left]

/-- Three octets: the narrowed second octet rules out overlong forms and surrogates. -/
theorem lead_three {n : Nat} (hlow : 0x800 ≤ n) (hhigh : n < 0x10000)
    (hvalid : n < 0xD800 ∨ 0xDFFF < n) :
    ∃ tail, lead? (UInt8.ofNat (0xE0 + n / 4096)) = some tail ∧ tail.count = 2 ∧
      tail.bits = n / 4096 ∧ Admits tail (n / 64 % 64) := by
  simp only [lead?, toNat_octet (by omega : 0xE0 + n / 4096 < 256)]
  rw [if_neg (by omega), if_neg (by omega)]
  by_cases hfirst : n / 4096 = 0
  · rw [if_pos (by omega)]
    refine ⟨_, rfl, rfl, hfirst.symm, by omega, ?_, ?_⟩
    · change 0xA0 ≤ _
      omega
    · change _ ≤ 0xBF
      omega
  · rw [if_neg (by omega)]
    by_cases hsurrogate : n / 4096 = 0xD
    · rw [if_pos (by omega)]
      refine ⟨_, rfl, rfl, hsurrogate.symm, by omega, Nat.le_add_right 0x80 _, ?_⟩
      change _ ≤ 0x9F
      omega
    · rw [if_neg (by omega), if_pos (by omega), Nat.add_sub_cancel_left]
      exact ⟨_, rfl, rfl, rfl, admits_plain (by omega)⟩

/-- Four octets: the narrowed second octet rules out overlong forms and values past the last. -/
theorem lead_four {n : Nat} (hlow : 0x10000 ≤ n) (hhigh : n < 0x110000) :
    ∃ tail, lead? (UInt8.ofNat (0xF0 + n / 262144)) = some tail ∧ tail.count = 3 ∧
      tail.bits = n / 262144 ∧ Admits tail (n / 4096 % 64) := by
  simp only [lead?, toNat_octet (by omega : 0xF0 + n / 262144 < 256)]
  rw [if_neg (by omega), if_neg (by omega), if_neg (by omega), if_neg (by omega),
    if_neg (by omega)]
  by_cases hfirst : n / 262144 = 0
  · rw [if_pos (by omega)]
    refine ⟨_, rfl, rfl, hfirst.symm, by omega, ?_, ?_⟩
    · change 0x90 ≤ _
      omega
    · change _ ≤ 0xBF
      omega
  · rw [if_neg (by omega)]
    by_cases hlast : n / 262144 = 4
    · rw [if_neg (by omega), if_pos (by omega)]
      refine ⟨_, rfl, rfl, hlast.symm, by omega, Nat.le_add_right 0x80 _, ?_⟩
      change _ ≤ 0x8F
      omega
    · rw [if_pos (by omega), Nat.add_sub_cancel_left]
      exact ⟨_, rfl, rfl, rfl, admits_plain (by omega)⟩

/-- A scalar value is read back from its octets, and reading goes on after them. -/
theorem run_encodeChar (c : Char) (start : Nat) (bs : Octets) :
    run .boundary start (encodeChar c ++ bs) =
      (run .boundary (start + (encodeChar c).length) bs).map (c :: ·) := by
  have hvalid : c.toNat < 0xD800 ∨ 0xDFFF < c.toNat ∧ c.toNat < 0x110000 := c.valid
  have hback {n : Nat} (h : n = c.toNat) : Char.ofNat n = c := h ▸ Char.ofNat_toNat c
  simp only [encodeChar]
  split
  · rename_i h
    have hb : (UInt8.ofNat c.toNat).toNat = c.toNat := toNat_octet (by omega)
    have hascii : UInt8.ofNat c.toNat < 0x80 := by
      rw [UInt8.lt_iff_toNat_lt, hb]
      exact h
    simp only [List.cons_append, List.nil_append, run, if_pos hascii, hb, hback rfl,
      List.length_cons, List.length_nil]
  · split
    · rename_i _ h
      simp only [List.cons_append, List.nil_append]
      rw [run_lead (by omega) (by omega) (lead_two (by omega) (by omega)),
        run_last (admits_plain (by omega)) (Nat.le_refl 1), hback (by dsimp only; omega)]
      rfl
    · split
      · rename_i _ _ h
        obtain ⟨tail, hl, hcount, hbits, hadmits⟩ :=
          lead_three (n := c.toNat) (by omega) h (by omega)
        simp only [List.cons_append, List.nil_append]
        rw [run_lead (by omega) (by omega) hl, run_inside hadmits (by omega),
          run_last (admits_plain (by omega)) (by dsimp only; omega),
          hback (by dsimp only; omega)]
        rfl
      · obtain ⟨tail, hl, hcount, hbits, hadmits⟩ :=
          lead_four (n := c.toNat) (by omega) (by omega)
        simp only [List.cons_append, List.nil_append]
        rw [run_lead (by omega) (by omega) hl, run_inside hadmits (by omega),
          run_inside (admits_plain (by omega)) (by dsimp only; omega),
          run_last (admits_plain (by omega)) (by dsimp only; omega),
          hback (by dsimp only; omega)]
        rfl

theorem run_encode (cs : List Char) (start : Nat) : run .boundary start (encode cs) = .ok cs := by
  induction cs generalizing start with
  | nil => simp [encode, run]
  | cons c cs ih =>
    have hcons : encode (c :: cs) = encodeChar c ++ encode cs := rfl
    rw [hcons, run_encodeChar, ih]
    rfl

/-- Every text is read back from its octets. -/
theorem decode_ofString (s : String) : decode (ofString s) = .ok s.toList :=
  run_encode s.toList 0

theorem toNat_ofNat {n : Nat} (h : n.isValidChar) : (Char.ofNat n).toNat = n := by
  rw [Char.ofNat, dif_pos h]
  rfl

theorem octet_eq {b : UInt8} {n : Nat} (h : b.toNat = n) : UInt8.ofNat n = b := by
  rw [← h, UInt8.ofNat_toNat]

/-- The leads of two, three and four octets, and what may follow them: bits of a scalar value that
has no shorter form and is no surrogate. -/
inductive Leads (b : UInt8) : Tail → Prop where
  | two {bits : Nat} (lead : b.toNat = 0xC0 + bits) (low : 2 ≤ bits) (high : bits < 32) :
      Leads b ⟨1, 0x80, 0xBF, bits⟩
  | three {bits : Nat} {low high : UInt8} (lead : b.toNat = 0xE0 + bits) (small : bits < 16)
      (range : 0x80 ≤ low.toNat ∧ high.toNat ≤ 0xBF) (long : bits = 0 → 0xA0 ≤ low.toNat)
      (scalar : bits = 0xD → high.toNat ≤ 0x9F) : Leads b ⟨2, low, high, bits⟩
  | four {bits : Nat} {low high : UInt8} (lead : b.toNat = 0xF0 + bits) (small : bits ≤ 4)
      (range : 0x80 ≤ low.toNat ∧ high.toNat ≤ 0xBF) (long : bits = 0 → 0x90 ≤ low.toNat)
      (scalar : bits = 4 → high.toNat ≤ 0x8F) : Leads b ⟨3, low, high, bits⟩

theorem leads_of_lead {b : UInt8} {tail : Tail} (h : lead? b = some tail) : Leads b tail := by
  simp only [lead?] at h
  repeat' split at h
  all_goals cases h
  -- Besides the plain ranges, 0xE0, 0xED, 0xF0 and 0xF4 narrow the octet that follows them.
  · exact .two (by omega) (by omega) (by omega)
  · exact .three (by omega) (by omega) (by decide) (by decide) (by omega)
  · exact .three (by omega) (by omega) (by decide) (by omega) (by decide)
  · exact .three (by omega) (by omega) (by decide) (by omega) (by omega)
  · exact .four (by omega) (by omega) (by decide) (by decide) (by omega)
  · exact .four (by omega) (by omega) (by decide) (by omega) (by omega)
  · exact .four (by omega) (by omega) (by decide) (by omega) (by decide)

theorem range_plain : 0x80 ≤ (0x80 : UInt8).toNat ∧ (0xBF : UInt8).toNat ≤ 0xBF := by
  decide

/-- Inside a scalar value, text goes on with an octet that may follow. -/
theorem admits_of_run {tail : Tail} {seen start : Nat} {bs : Octets} {cs : List Char}
    (hrange : 0x80 ≤ tail.low.toNat ∧ tail.high.toNat ≤ 0xBF)
    (h : run (.inside tail seen) start bs = .ok cs) :
    ∃ m rest, bs = UInt8.ofNat (0x80 + m) :: rest ∧ Admits tail m := by
  cases bs with
  | nil => cases h
  | cons b rest =>
    rw [run] at h
    split at h
    · rename_i hb
      rw [UInt8.le_iff_toNat_le, UInt8.le_iff_toNat_le] at hb
      have hm : b.toNat = 0x80 + (b.toNat - 0x80) := by omega
      refine ⟨b.toNat - 0x80, rest, ?_, by omega, by omega, by omega⟩
      rw [octet_eq hm]
    · cases h

theorem encodeChar_two {bits m : Nat} (hlow : 2 ≤ bits) (hhigh : bits < 32) (hm : m < 64) :
    encodeChar (Char.ofNat (bits * 64 + m)) =
      [UInt8.ofNat (0xC0 + bits), UInt8.ofNat (0x80 + m)] := by
  have hvalid : (bits * 64 + m).isValidChar := .inl (by omega)
  simp only [encodeChar, toNat_ofNat hvalid]
  rw [if_neg (by omega), if_pos (by omega), (by omega : (bits * 64 + m) / 64 = bits),
    (by omega : (bits * 64 + m) % 64 = m)]

theorem encodeChar_three {bits m k : Nat} (hlong : 0x800 ≤ (bits * 64 + m) * 64 + k)
    (hhigh : bits < 16) (hscalar : ((bits * 64 + m) * 64 + k).isValidChar) (hm : m < 64)
    (hk : k < 64) :
    encodeChar (Char.ofNat ((bits * 64 + m) * 64 + k)) =
      [UInt8.ofNat (0xE0 + bits), UInt8.ofNat (0x80 + m), UInt8.ofNat (0x80 + k)] := by
  simp only [encodeChar, toNat_ofNat hscalar]
  rw [if_neg (by omega), if_neg (by omega), if_pos (by omega),
    (by omega : ((bits * 64 + m) * 64 + k) / 4096 = bits),
    (by omega : ((bits * 64 + m) * 64 + k) / 64 % 64 = m),
    (by omega : ((bits * 64 + m) * 64 + k) % 64 = k)]

theorem encodeChar_four {bits m k j : Nat} (hlong : 0x10000 ≤ ((bits * 64 + m) * 64 + k) * 64 + j)
    (hscalar : (((bits * 64 + m) * 64 + k) * 64 + j).isValidChar) (hm : m < 64)
    (hk : k < 64) (hj : j < 64) :
    encodeChar (Char.ofNat (((bits * 64 + m) * 64 + k) * 64 + j)) =
      [UInt8.ofNat (0xF0 + bits), UInt8.ofNat (0x80 + m), UInt8.ofNat (0x80 + k),
        UInt8.ofNat (0x80 + j)] := by
  simp only [encodeChar, toNat_ofNat hscalar]
  rw [if_neg (by omega), if_neg (by omega), if_neg (by omega),
    (by omega : (((bits * 64 + m) * 64 + k) * 64 + j) / 262144 = bits),
    (by omega : (((bits * 64 + m) * 64 + k) * 64 + j) / 4096 % 64 = m),
    (by omega : (((bits * 64 + m) * 64 + k) * 64 + j) / 64 % 64 = k),
    (by omega : (((bits * 64 + m) * 64 + k) * 64 + j) % 64 = j)]

/-- Text that is well formed begins with the octets of a scalar value. -/
theorem encodeChar_of_run {start : Nat} {b : UInt8} {bs : Octets} {cs : List Char}
    (h : run .boundary start (b :: bs) = .ok cs) : ∃ c rest, b :: bs = encodeChar c ++ rest := by
  by_cases hascii : b < 0x80
  · rw [UInt8.lt_iff_toNat_lt] at hascii
    change b.toNat < 0x80 at hascii
    refine ⟨Char.ofNat b.toNat, bs, ?_⟩
    simp only [encodeChar, toNat_ofNat (.inl (by omega) : b.toNat.isValidChar), if_pos hascii,
      UInt8.ofNat_toNat, List.singleton_append]
  · rw [run, if_neg hascii] at h
    cases hlead : lead? b with
    | none =>
      simp only [hlead] at h
      cases h
    | some tail =>
      simp only [hlead] at h
      cases leads_of_lead hlead with
      | @two bits lead low high =>
        obtain ⟨m, rest, rfl, hm⟩ := admits_of_run range_plain h
        have hchar := encodeChar_two low high hm.1
        rw [octet_eq lead] at hchar
        exact ⟨_, rest, (congrArg (· ++ rest) hchar).symm⟩
      | @three bits low high lead small range long scalar =>
        obtain ⟨m, rest, rfl, hm⟩ := admits_of_run range h
        rw [run_inside hm (by dsimp only; omega)] at h
        obtain ⟨k, rest, rfl, hk⟩ := admits_of_run range_plain h
        obtain ⟨hm, hlow, hhigh⟩ := hm
        dsimp only at hlow hhigh
        have hk := hk.1
        have hscalar : ((bits * 64 + m) * 64 + k).isValidChar := by
          unfold Nat.isValidChar
          omega
        have hchar := encodeChar_three (by omega) small hscalar hm hk
        rw [octet_eq lead] at hchar
        exact ⟨_, rest, (congrArg (· ++ rest) hchar).symm⟩
      | @four bits low high lead small range long scalar =>
        obtain ⟨m, rest, rfl, hm⟩ := admits_of_run range h
        rw [run_inside hm (by dsimp only; omega)] at h
        obtain ⟨k, rest, rfl, hk⟩ := admits_of_run range_plain h
        rw [run_inside hk (by dsimp only; omega)] at h
        obtain ⟨j, rest, rfl, hj⟩ := admits_of_run range_plain h
        obtain ⟨hm, hlow, hhigh⟩ := hm
        dsimp only at hlow hhigh
        have hk := hk.1
        have hj := hj.1
        have hscalar : (((bits * 64 + m) * 64 + k) * 64 + j).isValidChar := by
          unfold Nat.isValidChar
          omega
        have hchar := encodeChar_four (by omega) hscalar hm hk hj
        rw [octet_eq lead] at hchar
        exact ⟨_, rest, (congrArg (· ++ rest) hchar).symm⟩

/-- A text that is well formed is empty, or begins with the octets of a scalar value and goes on
with a text that is well formed. -/
theorem of_run_ok {start : Nat} {bs : Octets} {cs : List Char}
    (h : run .boundary start bs = .ok cs) :
    (bs = [] ∧ cs = []) ∨ ∃ c rest more next, bs = encodeChar c ++ rest ∧
      run .boundary next rest = .ok more ∧ cs = c :: more := by
  cases bs with
  | nil =>
    cases h
    exact .inl ⟨rfl, rfl⟩
  | cons b bs =>
    obtain ⟨c, rest, hc⟩ := encodeChar_of_run h
    rw [hc, run_encodeChar] at h
    obtain ⟨more, hrest, hmore⟩ := of_map_ok h
    exact .inr ⟨c, rest, more, _, hc, hrest, hmore.symm⟩

/-- What is read as a text is what is written of it. -/
theorem encode_of_run {start : Nat} {bs : Octets} {cs : List Char}
    (h : run .boundary start bs = .ok cs) : encode cs = bs := by
  induction cs generalizing start bs with
  | nil =>
    rcases of_run_ok h with ⟨rfl, _⟩ | ⟨c, rest, more, next, _, _, hmore⟩
    · rfl
    · cases hmore
  | cons d cs ih =>
    rcases of_run_ok h with ⟨_, hnil⟩ | ⟨c, rest, more, next, rfl, hrest, hmore⟩
    · cases hnil
    · cases hmore
      rw [← ih hrest]
      rfl

/-- A text that begins with the octets of another begins with its characters. -/
theorem prefix_of_run {start : Nat} {cs ds : List Char} {more : Octets}
    (h : run .boundary start (encode cs ++ more) = .ok ds) : cs <+: ds := by
  induction cs generalizing start ds with
  | nil => exact List.nil_prefix
  | cons c cs ih =>
    have hcons : encode (c :: cs) = encodeChar c ++ encode cs := rfl
    rw [hcons, List.append_assoc, run_encodeChar] at h
    obtain ⟨rest, hrest, rfl⟩ := of_map_ok h
    rw [List.prefix_cons_inj]
    exact ih hrest

end BatchSql.Utf8
