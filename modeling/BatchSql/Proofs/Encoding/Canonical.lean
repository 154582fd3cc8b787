import BatchSql.Proofs.Encoding.Bracketing
import BatchSql.Proofs.Encoding.Locality
import BatchSql.Proofs.Encoding.RoundTrip

namespace BatchSql

namespace Varint

theorem last_iff {b : UInt8} : b < 128 ↔ b.toNat < 128 :=
  UInt8.lt_iff_toNat_lt

theorem over_iff {b : UInt8} : 1 < b ↔ 1 < b.toNat :=
  UInt8.lt_iff_toNat_lt

/-- A number has no more bits than are left at its place. -/
theorem decodeFrom_lt {place v : Nat} {bs rest : Octets}
    (h : decodeFrom place bs = (.ok v, rest)) (hp : place ≤ lastPlace) :
    v < 2 ^ (64 - 7 * place) := by
  fun_induction decodeFrom place bs generalizing v with
  | case1 place => cases h
  | case2 place b bs hover => cases h
  | case3 place b bs hover hlast =>
    cases h
    rw [last_iff] at hlast
    by_cases hplace : place = lastPlace
    · have hone : ¬1 < b.toNat := fun hlt => hover ⟨hplace, over_iff.mpr hlt⟩
      subst hplace
      change b.toNat < 2
      omega
    · have hroom : 7 ≤ 64 - 7 * place := by
        simp only [lastPlace] at hp hplace
        omega
      exact Nat.lt_of_lt_of_le hlast (Nat.pow_le_pow_right Nat.zero_lt_two hroom)
  | case4 place b bs hover hlast high left hd ih =>
    cases high with
    | error e => cases h
    | ok w =>
      cases h
      have hb := b.toNat_lt
      rw [last_iff] at hlast
      have hplace : place ≠ lastPlace := by
        intro hplace
        apply hover
        rw [over_iff]
        omega
      have hw := ih hd (by omega)
      have hroom : 64 - 7 * place = (64 - 7 * (place + 1)) + 7 := by
        simp only [lastPlace] at hp hplace
        omega
      rw [hroom, Nat.pow_add]
      change b.toNat - 128 + 128 * w < _
      omega

theorem decode_lt {v : Nat} {bs rest : Octets} (h : decode bs = (.ok v, rest)) : v < 2 ^ 64 :=
  decodeFrom_lt h (Nat.zero_le _)

/-- A number is written by the fewest octets that it is read from, and no others are so few. -/
theorem encode_fewest {place v : Nat} {c : Octets} (h : decodeFrom place c = (.ok v, [])) :
    (encode v).length ≤ c.length ∧ (c.length ≤ (encode v).length → encode v = c) := by
  fun_induction decodeFrom place c generalizing v with
  | case1 place => cases h
  | case2 place b bs hover => cases h
  | case3 place b bs hover hlast =>
    cases h
    rw [last_iff] at hlast
    rw [encode, if_pos hlast, UInt8.ofNat_toNat]
    exact ⟨Nat.le_refl _, fun _ => rfl⟩
  | case4 place b bs hover hlast high left hd ih =>
    cases high with
    | error e => cases h
    | ok w =>
      obtain ⟨hv, rfl⟩ := Prod.mk.inj h
      have hv : b.toNat - 128 + 128 * w = v := Except.ok.inj hv
      have hb := b.toNat_lt
      rw [last_iff] at hlast
      obtain ⟨hfew, honly⟩ := ih hd
      have hmore : 0 < bs.length := by
        apply List.length_pos_of_ne_nil
        rintro rfl
        cases hd
      rw [encode, List.length_cons]
      split
      · -- The number fits in one octet, so those behind the first are zeros.
        simp only [List.length_singleton]
        exact ⟨by omega, fun hle => by omega⟩
      · have hlow : v % 128 + 128 = b.toNat := by omega
        have hhigh : v / 128 = w := by omega
        rw [hlow, hhigh, UInt8.ofNat_toNat, List.length_cons]
        refine ⟨by omega, fun hle => ?_⟩
        rw [honly (by omega)]

/-- The same number is not read from fewer octets. -/
def Shortest (c : Octets) : Prop :=
  ∀ v c', decode c = (.ok v, []) → decode c' = (.ok v, []) → c.length ≤ c'.length

theorem shortest_iff {v : Nat} {c : Octets} (h : decode c = (.ok v, [])) :
    Shortest c ↔ encode v = c := by
  constructor
  · intro hshort
    have hback := decode_encode (decode_lt h) []
    rw [List.append_nil] at hback
    exact (encode_fewest h).2 (hshort v _ h hback)
  · rintro rfl w c' hw hc'
    cases hw.symm.trans h
    exact (encode_fewest hc').1

/-- The octets of the number that a buffer begins with. -/
def front (b : Octets) : Octets :=
  b.take (b.length - (decode b).2.length)

theorem front_of_decode {v : Nat} {b rest : Octets} (h : decode b = (.ok v, rest)) :
    b = front b ++ rest ∧ decode (front b) = (.ok v, []) := by
  obtain ⟨c, rfl, hc⟩ := decodeFrom_front h
  have hfront : front (c ++ rest) = c := by
    rw [front, h, List.length_append, Nat.add_sub_cancel, List.take_left]
  have halone := hc []
  rw [List.append_nil] at halone
  rw [hfront]
  exact ⟨rfl, halone⟩

end Varint

namespace Buffered

theorem of_take {n : Nat} {b bs rest : Octets} (h : (take n).run.run b = (.ok bs, rest)) :
    b = bs ++ rest ∧ bs.length = n := by
  rw [take, run_bind_ok run_get] at h
  split at h
  · cases h
  · rename_i hlen
    cases h
    refine ⟨(List.take_append_drop n b).symm, ?_⟩
    rw [List.length_take]
    omega

/-- The octets of the length in front of a frame, where it has one. -/
def lengths : Context → Octets → List Octets
  | .nested, b => [Varint.front b]
  | .outer, _ => []

/-- A frame that shows its end is its content behind the number of its octets. -/
theorem of_frame {b content rest : Octets}
    (h : (frame .nested).run.run b = (.ok content, rest)) :
    b = Varint.front b ++ content ++ rest ∧
      Varint.decode (Varint.front b) = (.ok content.length, []) := by
  obtain ⟨n, mid, hlength, htake⟩ := of_run_bind_ok h
  rw [varint_run] at hlength
  obtain ⟨hb, halone⟩ := Varint.front_of_decode hlength
  obtain ⟨rfl, rfl⟩ := of_take htake
  rw [List.append_assoc]
  exact ⟨hb, halone⟩

theorem frame_outer (b : Octets) : (frame .outer).run.run b = (.ok b, []) := rfl

end Buffered

namespace Codec

open Buffered

variable {α ε ρ : Type}

/-- A value that was read from some octets, with these numbers among them, is written by no more
octets, and read back from those. They are the same octets only where every number was as short as
it can be. -/
structure Rewrites (c : Codec α) (context : Context) (a : α) (taken written : Octets)
    (numbers : List Octets) : Prop where
  spells : c.Spells context a written
  length_le : written.length ≤ taken.length
  reads : ∀ t, context.Allows t → (c.decode context).run.run (written ++ t) = (.ok a, t)
  among : ∀ n ∈ numbers, n <:+: taken ∧ ∃ v, Varint.decode n = (.ok v, [])
  same_iff : written = taken ↔ ∀ n ∈ numbers, Varint.Shortest n

theorem RoundTrips.of_spells {c : Codec α} {context : Context} {a : α} {bs : Octets}
    (h : c.RoundTrips context a) (hbs : c.Spells context a bs) :
    ∀ t, context.Allows t → (c.decode context).run.run (bs ++ t) = (.ok a, t) := by
  obtain ⟨written, hwrite, hread⟩ := h
  obtain rfl : written = bs := (Prod.mk.inj ((hwrite []).symm.trans (hbs []))).2
  exact hread

theorem int64_rewrites {context : Context} {b rest : Octets} {v : Int64}
    (h : (int64.decode context).run.run b = (.ok v, rest)) :
    ∃ taken written, b = taken ++ rest ∧ int64.Rewrites context v taken written [] := by
  obtain ⟨bs, mid, htake, hpure⟩ := of_run_bind_ok h
  obtain ⟨rfl, hlength⟩ := of_take htake
  cases hpure
  have hspells : int64.Spells context (Int64.ofInt (Octets.toInt bs)) bs := by
    intro b
    have hput : (int64.encode context (Int64.ofInt (Octets.toInt bs))).run.run b =
        (.ok (), b ++ Octets.ofInt 8 (Int64.ofInt (Octets.toInt bs)).toInt) := run_put _ b
    rwa [Octets.ofInt_toInt64 hlength] at hput
  refine ⟨bs, bs, rfl, hspells, Nat.le_refl _, ?_, by simp, by simp⟩
  exact (int64_round_trips context _).of_spells hspells

theorem varUInt64_rewrites {context : Context} {b rest : Octets} {v : UInt64}
    (h : (varUInt64.decode context).run.run b = (.ok v, rest)) :
    ∃ taken written, b = taken ++ rest ∧
      varUInt64.Rewrites context v taken written [Varint.front b] := by
  obtain ⟨n, mid, hread, hpure⟩ := of_run_bind_ok h
  rw [varint_run] at hread
  cases hpure
  obtain ⟨hb, halone⟩ := Varint.front_of_decode hread
  have hn : (UInt64.ofNat n).toNat = n := by
    rw [UInt64.toNat_ofNat']
    exact Nat.mod_eq_of_lt (Varint.decode_lt halone)
  have hspells : varUInt64.Spells context (UInt64.ofNat n) (Varint.encode n) := by
    intro b
    have hput : (varUInt64.encode context (UInt64.ofNat n)).run.run b =
        (.ok (), b ++ Varint.encode (UInt64.ofNat n).toNat) := run_put _ b
    rwa [hn] at hput
  refine ⟨Varint.front b, Varint.encode n, hb, hspells, (Varint.encode_fewest halone).1,
    (varUInt64_round_trips context _).of_spells hspells, ?_, ?_⟩
  · rw [List.forall_mem_singleton]
    exact ⟨List.infix_rfl, n, halone⟩
  · rw [List.forall_mem_singleton, Varint.shortest_iff halone]

/-- A codec that writes a frame of the content that it reads from one. -/
theorem rewrites_frame {c : Codec α} {context : Context} {a : α} {b content rest : Octets}
    (hframe : (frame context).run.run b = (.ok content, rest))
    (hspells : c.Spells context a (framed context content))
    (hreads : ∀ b t, (frame context).run.run b = (.ok content, t) →
      (c.decode context).run.run b = (.ok a, t)) :
    ∃ taken written, b = taken ++ rest ∧
      c.Rewrites context a taken written (lengths context b) := by
  cases context with
  | outer =>
    cases hframe
    refine ⟨b, b, (List.append_nil b).symm, hspells, Nat.le_refl _, ?_, by simp [lengths],
      by simp [lengths]⟩
    rintro t rfl
    rw [List.append_nil]
    exact hreads b [] rfl
  | nested =>
    obtain ⟨hb, hlength⟩ := of_frame hframe
    obtain ⟨hfew, -⟩ := Varint.encode_fewest hlength
    refine ⟨Varint.front b ++ content, Varint.encode content.length ++ content, hb, hspells, ?_,
      fun t _ => hreads _ t (run_frame (Varint.decode_lt hlength) trivial), ?_, ?_⟩
    · rw [List.length_append, List.length_append]
      exact Nat.add_le_add_right hfew _
    · rw [lengths, List.forall_mem_singleton]
      exact ⟨(List.prefix_append _ _).isInfix, _, hlength⟩
    · rw [lengths, List.forall_mem_singleton, Varint.shortest_iff hlength, List.append_left_inj]

theorem string_rewrites {context : Context} {b rest : Octets} {s : String}
    (h : (string.decode context).run.run b = (.ok s, rest)) :
    ∃ taken written, b = taken ++ rest ∧
      string.Rewrites context s taken written (lengths context b) := by
  obtain ⟨content, mid, hframe, hdecode⟩ := of_run_bind_ok h
  cases hutf : Utf8.decode content with
  | error fault =>
    rw [hutf] at hdecode
    cases hdecode
  | ok cs =>
    rw [hutf] at hdecode
    cases hdecode
    have hcontent : Utf8.ofString (String.ofList cs) = content := by
      rw [Utf8.ofString, String.toList_ofList]
      exact Utf8.encode_of_run hutf
    apply rewrites_frame hframe
    · intro b
      rw [← hcontent]
      exact run_putFrame context _ b
    · intro b t hb
      rw [run_decode_string hb, readText, hutf]

theorem bytes_rewrites {context : Context} {b rest content : Octets}
    (h : (bytes.decode context).run.run b = (.ok content, rest)) :
    ∃ taken written, b = taken ++ rest ∧
      bytes.Rewrites context content taken written (lengths context b) :=
  rewrites_frame h (run_putFrame context content) fun _ _ hb => hb

/-- Neither part of a pair gets longer, so neither makes up for the other. -/
theorem pair_rewrites {element : Codec ε} {restriction : Codec ρ} {context : Context}
    {p : Restricted ε ρ} {front front' back back' : Octets} {ns ms : List Octets}
    (he : element.Rewrites .nested p.element front front' ns)
    (hr : restriction.Rewrites context p.restriction back back' ms) :
    (pair element restriction).Rewrites context p (front ++ back) (front' ++ back') (ns ++ ms) where
  spells := by
    intro b
    rw [run_encode_pair (he.spells b), hr.spells, List.append_assoc]
  length_le := by
    rw [List.length_append, List.length_append]
    exact Nat.add_le_add he.length_le hr.length_le
  reads := by
    intro t ht
    rw [List.append_assoc]
    exact run_decode_pair (he.reads _ trivial) (hr.reads t ht)
  among := by
    intro n hn
    rcases List.mem_append.mp hn with hn | hn
    · obtain ⟨hinside, hread⟩ := he.among n hn
      exact ⟨hinside.trans (List.prefix_append _ _).isInfix, hread⟩
    · obtain ⟨hinside, hread⟩ := hr.among n hn
      exact ⟨hinside.trans (List.suffix_append _ _).isInfix, hread⟩
  same_iff := by
    rw [List.forall_mem_append, ← he.same_iff, ← hr.same_iff]
    constructor
    · intro hsame
      have hlength := congrArg List.length hsame
      have hfront := he.length_le
      have hback := hr.length_le
      rw [List.length_append, List.length_append] at hlength
      exact List.append_inj hsame (by omega)
    · rintro ⟨rfl, rfl⟩
      rfl

end Codec

namespace Layout

/-- The octets of all numbers that are read on the way: of those that are values and of those
that are lengths. -/
def numbers : (l : Layout) → Context → Octets → List Octets
  | int64, _, _ => []
  | varUInt64, _, b => [Varint.front b]
  | string, context, b => Buffered.lengths context b
  | bytes, context, b => Buffered.lengths context b
  | json _, context, b => Buffered.lengths context b
  | pair e r, context, b =>
    e.numbers .nested b ++ r.numbers context ((e.codec.decode .nested).run.run b).2
  | optionalPair e r, context, b =>
    e.numbers .nested b ++ r.numbers context ((e.codec.decode .nested).run.run b).2

theorem Plain.rewrites {l : Layout} (hl : l.Plain) {context : Context} {b rest : Octets}
    {record : l.Carrier} (h : (l.codec.decode context).run.run b = (.ok record, rest)) :
    ∃ taken written, b = taken ++ rest ∧
      l.codec.Rewrites context record taken written (l.numbers context b) := by
  induction hl generalizing context b rest with
  | int64 => exact Codec.int64_rewrites h
  | varUInt64 => exact Codec.varUInt64_rewrites h
  | string => exact Codec.string_rewrites h
  | bytes => exact Codec.bytes_rewrites h
  | @pair e r _ _ ihe ihr =>
    obtain ⟨first, mid, hfirst, h⟩ := of_run_bind_ok h
    obtain ⟨second, last, hsecond, hpure⟩ := of_run_bind_ok h
    cases hpure
    have hmid : ((e.codec.decode .nested).run.run b).2 = mid := congrArg Prod.snd hfirst
    obtain ⟨front, front', rfl, he⟩ := ihe hfirst
    obtain ⟨back, back', rfl, hr⟩ := ihr hsecond
    refine ⟨front ++ back, front' ++ back', (List.append_assoc front back _).symm, ?_⟩
    rw [numbers, hmid]
    exact Codec.pair_rewrites he hr

end Layout

/-- Whatever a record was read from, it is written again in the shortest form: by no more octets,
which are read back as the record, and by the same octets exactly where every number that was read
on the way, as a value or as a length, was in its shortest form. -/
theorem records_are_rewritten_shortest {l : Layout} (hl : l.Plain) {context : Context}
    {b rest : Octets} {record : l.Carrier}
    (h : (l.codec.decode context).run.run b = (.ok record, rest)) :
    ∃ taken written, b = taken ++ rest ∧
      (∀ front, (l.codec.encode context record).run.run front = (.ok (), front ++ written)) ∧
      written.length ≤ taken.length ∧
      (∀ t, context.Allows t →
        (l.codec.decode context).run.run (written ++ t) = (.ok record, t)) ∧
      (∀ n ∈ l.numbers context b, n <:+: taken ∧ ∃ v, Varint.decode n = (.ok v, [])) ∧
      (written = taken ↔ ∀ n ∈ l.numbers context b, Varint.Shortest n) := by
  obtain ⟨taken, written, hb, hrewrites⟩ := hl.rewrites h
  exact ⟨taken, written, hb, hrewrites.spells, hrewrites.length_le, hrewrites.reads,
    hrewrites.among, hrewrites.same_iff⟩

/-- A length of one with an octet more than it needs, and a number with two more: three octets are
saved. -/
theorem records_are_rewritten_shortest_overlong :
    let l : Layout := .pair .string (.pair .varUInt64 .bytes)
    let record : l.Carrier := ⟨"a", 300, [7]⟩
    let b : Octets := [0x81, 0, 0x61, 0xAC, 0x82, 0x80, 0, 7]
    (l.Plain ∧ (l.codec.decode .outer).run.run b = (.ok record, [])) ∧
    ∃ written, (∀ front, (l.codec.encode .outer record).run.run front =
        (.ok (), front ++ written)) ∧
      written.length ≤ b.length ∧ (l.codec.decode .outer).run.run written = (.ok record, []) ∧
      written = [1, 0x61, 0xAC, 2, 7] ∧ ¬∀ n ∈ l.numbers .outer b, Varint.Shortest n := by
  intro l record b
  have hl : l.Plain := .pair .string (.pair .varUInt64 .bytes)
  have hread : (l.codec.decode .outer).run.run b = (.ok record, []) := rfl
  obtain ⟨taken, written, hb, hspells, hlength, hback, -, hsame⟩ :=
    records_are_rewritten_shortest hl hread
  rw [List.append_nil] at hb
  subst hb
  have hwritten : written = [1, 0x61, 0xAC, 2, 7] := by
    have hoctets : ((l.codec.encode .outer record).run.run []).2 = [1, 0x61, 0xAC, 2, 7] := by
      decide +kernel
    rw [hspells []] at hoctets
    exact hoctets
  have hagain := hback [] rfl
  rw [List.append_nil] at hagain
  refine ⟨⟨hl, hread⟩, written, hspells, hlength, hagain, hwritten, ?_⟩
  rw [← hsame, hwritten]
  decide

end BatchSql
