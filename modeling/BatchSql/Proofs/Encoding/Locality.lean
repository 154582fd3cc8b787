import BatchSql.Codec.Json
import BatchSql.Proofs.Encoding.Buffered

namespace BatchSql

namespace Varint

/-- A number ends with its first octet that has no top bit, so what follows it does not matter. -/
theorem decodeFrom_front {place v : Nat} {bs rest : Octets}
    (h : decodeFrom place bs = (.ok v, rest)) :
    ∃ c, bs = c ++ rest ∧ ∀ t, decodeFrom place (c ++ t) = (.ok v, t) := by
  fun_induction decodeFrom place bs generalizing v with
  | case1 place => cases h
  | case2 place b bs hover => cases h
  | case3 place b bs hover hlast =>
    cases h
    refine ⟨[b], rfl, fun t => ?_⟩
    rw [List.singleton_append, decodeFrom, if_neg hover, if_pos hlast]
  | case4 place b bs hover hlast high left hd ih =>
    cases high with
    | error e => cases h
    | ok w =>
      cases h
      obtain ⟨c, rfl, hc⟩ := ih hd
      refine ⟨b :: c, rfl, fun t => ?_⟩
      rw [List.cons_append, decodeFrom, if_neg hover, if_neg hlast, hc]
      rfl

theorem decodeFrom_suffix (place : Nat) (bs : Octets) : (decodeFrom place bs).2 <:+ bs := by
  fun_induction decodeFrom place bs with
  | case1 place => exact List.suffix_rfl
  | case2 place b bs hover => exact List.suffix_cons b bs
  | case3 place b bs hover hlast => exact List.suffix_cons b bs
  | case4 place b bs hover hlast high left hd ih =>
    rw [hd] at ih
    exact ih.trans (List.suffix_cons b bs)

theorem decodeFrom_fails {place : Nat} {bs rest : Octets} {e : Error}
    (h : decodeFrom place bs = (.error e, rest)) : ∃ message, e = .decode message := by
  fun_induction decodeFrom place bs generalizing e with
  | case1 place => cases h; exact ⟨_, rfl⟩
  | case2 place b bs hover => cases h; exact ⟨_, rfl⟩
  | case3 place b bs hover hlast => cases h
  | case4 place b bs hover hlast high left hd ih =>
    cases high with
    | error e' =>
      cases h
      exact ih hd
    | ok w => cases h

/-- A number is read as no other one, also where there may be no room for it. -/
theorem eq_of_decodeFrom_encode {place v w : Nat} {t rest : Octets}
    (h : decodeFrom place (encode v ++ t) = (.ok w, rest)) : w = v ∧ rest = t := by
  fun_induction encode v generalizing place w rest with
  | case1 v hv =>
    rw [List.singleton_append, decodeFrom] at h
    split at h
    · cases h
    · rw [if_pos (octet_last hv).2] at h
      cases h
      exact ⟨(octet_last hv).1, rfl⟩
  | case2 v hv ih =>
    rw [List.cons_append, decodeFrom] at h
    split at h
    · cases h
    · rw [if_neg (octet_more v).2] at h
      cases hd : decodeFrom (place + 1) (encode (v / 128) ++ t) with
      | mk high left =>
        rw [hd] at h
        cases high with
        | error e => cases h
        | ok high =>
          obtain ⟨rfl, rfl⟩ := ih hd
          cases h
          refine ⟨?_, rfl⟩
          change (UInt8.ofNat (v % 128 + 128)).toNat - 128 + 128 * (v / 128) = v
          rw [(octet_more v).1]
          omega

/-- Past the last place there is room for all numbers. -/
theorem decodeFrom_encode_past {place : Nat} (hp : lastPlace < place) (v : Nat) (t : Octets) :
    decodeFrom place (encode v ++ t) = (.ok v, t) := by
  have hroom : ∀ {place : Nat} {b : UInt8}, lastPlace < place → ¬(place = lastPlace ∧ 1 < b) :=
    fun hp h => (Nat.ne_of_gt hp) h.1
  fun_induction encode v generalizing place with
  | case1 v hv =>
    rw [List.singleton_append, decodeFrom, if_neg (hroom hp), if_pos (octet_last hv).2,
      (octet_last hv).1]
  | case2 v hv ih =>
    rw [List.cons_append, decodeFrom, if_neg (hroom hp), if_neg (octet_more v).2,
      ih (Nat.lt_succ_of_lt hp), (octet_more v).1]
    have hsum : v % 128 + 128 - 128 + 128 * (v / 128) = v := by omega
    simp only [Except.map, hsum]

/-- The octets of a number show where it ends. -/
theorem encode_append_inj {v w : Nat} {t s : Octets} (h : encode v ++ t = encode w ++ s) :
    v = w ∧ t = s := by
  have hv := decodeFrom_encode_past (Nat.lt_succ_self lastPlace) v t
  rw [h, decodeFrom_encode_past (Nat.lt_succ_self lastPlace) w s] at hv
  cases hv
  exact ⟨rfl, rfl⟩

end Varint

namespace Buffered

variable {α β : Type}

/-- A reader that takes octets from the front of the buffer, and reads the same whatever stands
behind those it takes. It fails as decoding does. -/
structure Local (m : Buffered α) : Prop where
  suffix : ∀ {b rest r}, m.run.run b = (r, rest) → rest <:+ b
  fails : ∀ {b rest e}, m.run.run b = (.error e, rest) → ∃ message, e = .decode message
  reads : ∀ {c rest a}, m.run.run (c ++ rest) = (.ok a, rest) → ∀ t, m.run.run (c ++ t) = (.ok a, t)

theorem local_pure (a : α) : Local (pure a : Buffered α) where
  suffix h := by
    cases h
    exact List.suffix_rfl
  fails h := nomatch h
  reads {c rest _} h t := by
    obtain ⟨hr, hrest⟩ := Prod.mk.inj h
    obtain rfl : c = [] := List.append_left_eq_self.mp hrest
    exact Prod.ext hr rfl

theorem local_fail (message : String) : Local (fail (.decode message) : Buffered α) where
  suffix h := by
    cases h
    exact List.suffix_rfl
  fails h := by
    cases h
    exact ⟨message, rfl⟩
  reads h := nomatch h

/-- What the second reader takes stands behind what the first took. -/
theorem Local.bind {m : Buffered α} {k : α → Buffered β} (hm : Local m) (hk : ∀ a, Local (k a)) :
    Local (m >>= k) where
  suffix h := by
    rcases of_run_bind h with ⟨e, hfirst, _⟩ | ⟨a, mid, hfirst, hsecond⟩
    · exact hm.suffix hfirst
    · exact ((hk a).suffix hsecond).trans (hm.suffix hfirst)
  fails h := by
    rcases of_run_bind h with ⟨e, hfirst, he⟩ | ⟨a, mid, hfirst, hsecond⟩
    · cases he
      exact hm.fails hfirst
    · exact (hk a).fails hsecond
  reads {c rest b} h t := by
    obtain ⟨a, mid, hfirst, hsecond⟩ := of_run_bind_ok h
    obtain ⟨back, rfl⟩ := (hk a).suffix hsecond
    obtain ⟨front, hfront⟩ := hm.suffix hfirst
    rw [← List.append_assoc] at hfront
    obtain rfl : c = front ++ back := (List.append_cancel_right hfront).symm
    rw [List.append_assoc] at hfirst ⊢
    rw [run_bind_ok (hm.reads hfirst (back ++ t)), (hk a).reads hsecond t]

theorem local_take (n : Nat) : Local (take n) where
  suffix {b rest r} h := by
    rw [take, run_bind_ok run_get] at h
    split at h
    · cases h
      exact List.suffix_rfl
    · cases h
      exact List.drop_suffix n b
  fails {b rest e} h := by
    rw [take, run_bind_ok run_get] at h
    split at h
    · cases h
      exact ⟨_, rfl⟩
    · cases h
  reads {c rest a} h t := by
    rw [take, run_bind_ok run_get] at h
    split at h
    · cases h
    · rename_i hlen
      obtain ⟨ha, hrest⟩ := Prod.mk.inj h
      cases ha
      have hc : c.length = n := by
        have hcount := congrArg List.length hrest
        simp only [List.length_drop, List.length_append] at hcount hlen
        omega
      subst hc
      rw [List.take_left, run_take]

theorem varint_run (b : Octets) : varint.run.run b = Varint.decode b := by
  rw [varint, run_bind_ok run_get]
  cases Varint.decode b with
  | mk v left =>
    cases v with
    | ok v => rfl
    | error e => rfl

theorem local_varint : Local varint where
  suffix {b rest r} h := by
    rw [varint_run] at h
    have hsuffix := Varint.decodeFrom_suffix 0 b
    rwa [← Varint.decode, h] at hsuffix
  fails {b rest e} h := by
    rw [varint_run] at h
    exact Varint.decodeFrom_fails h
  reads {c rest a} h t := by
    rw [varint_run] at h ⊢
    obtain ⟨c', hc, hreads⟩ := Varint.decodeFrom_front h
    obtain rfl : c = c' := List.append_cancel_right hc
    exact hreads t

theorem local_frame : Local (frame .nested) :=
  local_varint.bind local_take

/-- A frame takes no more and no less than was written of it, if it is read at all. -/
theorem rest_of_frame {bs t rest content : Octets}
    (h : (frame .nested).run.run (framed .nested bs ++ t) = (.ok content, rest)) : rest = t := by
  rw [framed, List.append_assoc] at h
  obtain ⟨n, left, hlength, htake⟩ := of_run_bind_ok h
  rw [varint_run] at hlength
  obtain ⟨rfl, rfl⟩ := Varint.eq_of_decodeFrom_encode hlength
  rw [run_take] at htake
  cases htake
  rfl

/-- The octets of a frame show where it ends. -/
theorem framed_append_inj {bs bs' t t' : Octets}
    (h : framed .nested bs ++ t = framed .nested bs' ++ t') : bs = bs' := by
  rw [framed, framed, List.append_assoc, List.append_assoc] at h
  obtain ⟨hlen, hrest⟩ := Varint.encode_append_inj h
  exact (List.append_inj hrest hlen).1

/-- A writer that puts octets behind those of the buffer, whatever these are. -/
def Appends (m : Buffered α) : Prop :=
  ∃ r bs, ∀ b, m.run.run b = (r, b ++ bs)

theorem appends_put (bs : Octets) : Appends (put bs) :=
  ⟨_, bs, run_put bs⟩

theorem appends_putFrame (context : Context) (bs : Octets) : Appends (putFrame bs context) :=
  ⟨_, _, run_putFrame context bs⟩

theorem appends_fail (e : Error) : Appends (fail e : Buffered α) :=
  ⟨.error e, [], fun b => by rw [List.append_nil]; rfl⟩

theorem Appends.bind {m : Buffered α} {k : α → Buffered β} (hm : Appends m)
    (hk : ∀ a, Appends (k a)) : Appends (m >>= k) := by
  obtain ⟨r, bs, hm⟩ := hm
  cases r with
  | error e => exact ⟨.error e, bs, fun b => run_bind_error (hm b)⟩
  | ok a =>
    obtain ⟨r, cs, hk⟩ := hk a
    refine ⟨r, bs ++ cs, fun b => ?_⟩
    rw [run_bind_ok (hm b), hk, List.append_assoc]

end Buffered

namespace Codec

variable {α ε ρ : Type}

/-- Codecs of numbers, texts, strings of octets and JSON, and pairs of these. -/
inductive Built : {α : Type} → Codec α → Prop where
  | int64 : Built int64
  | varUInt64 : Built varUInt64
  | string : Built string
  | bytes : Built bytes
  | json {α : Type} (form : JsonForm α) : Built (json form)
  | pair {ε ρ : Type} {element : Codec ε} {restriction : Codec ρ} (elements : Built element)
      (restrictions : Built restriction) : Built (pair element restriction)
  | nullable {ε ρ : Type} {c : Codec (Restricted ε ρ)} (pairs : Built c) : Built (nullable c)

/-- The octets of a value behind which more may follow. -/
def Writes (c : Codec α) (a : α) (e : Octets) : Prop :=
  (c.encode .nested a).run.run [] = (.ok (), e)

open Buffered

theorem Built.decodes {c : Codec α} (h : c.Built) : Local (c.decode .nested) := by
  induction h with
  | int64 => exact (local_take 8).bind fun _ => local_pure _
  | varUInt64 => exact local_varint.bind fun _ => local_pure _
  | string =>
    refine local_frame.bind fun bs => ?_
    split
    · exact local_pure _
    · exact local_fail _
  | bytes => exact local_frame
  | json form =>
    refine local_frame.bind fun bs => ?_
    split
    · exact local_pure _
    · exact local_fail _
  | pair _ _ ihe ihr => exact ihe.bind fun _ => ihr.bind fun _ => local_pure _
  | nullable _ ih => exact ih.bind fun _ => local_pure _

theorem Built.encodes {c : Codec α} (h : c.Built) (context : Context) (a : α) :
    Appends (c.encode context a) := by
  induction h generalizing context with
  | int64 => exact appends_put _
  | varUInt64 => exact appends_put _
  | string => exact appends_putFrame context _
  | bytes => exact appends_putFrame context _
  | json form =>
    change Appends (Buffered.ofExcept (form.text a) >>= _)
    cases form.text a with
    | error e => exact appends_fail e
    | ok text => exact appends_putFrame context _
  | pair _ _ ihe ihr => exact (ihe .nested a.element).bind fun _ => ihr context a.restriction
  | nullable _ ih =>
    cases a with
    | none => exact appends_fail _
    | some p => exact ih context p

theorem Writes.eq {c : Codec α} {a : α} {e bs : Octets} (h : c.Writes a e)
    (hw : ∀ b, (c.encode .nested a).run.run b = (.ok (), b ++ bs)) : e = bs :=
  (Prod.mk.inj (h.symm.trans (hw []))).2

/-- The octets that a codec writes for its values show where they end: what is read from them is
read to their end, and no others begin with them. -/
structure Delimited (c : Codec α) : Prop where
  whole : ∀ {a a' e t rest}, c.Writes a e →
    (c.decode .nested).run.run (e ++ t) = (.ok a', rest) → rest = t
  apart : ∀ {a a' e e' t t'}, c.Writes a e → c.Writes a' e' → e ++ t = e' ++ t' → e = e'

theorem int64_delimited : int64.Delimited where
  whole {a a' e t rest} hw h := by
    obtain rfl := hw.eq (run_put _)
    obtain ⟨bs, mid, htake, hpure⟩ := of_run_bind_ok h
    have hrun := run_take (Octets.ofInt 8 a.toInt) t
    rw [Octets.length_ofInt] at hrun
    cases hrun.symm.trans htake
    cases hpure
    rfl
  apart {a a' e e' t t'} hw hw' h := by
    obtain rfl := hw.eq (run_put _)
    obtain rfl := hw'.eq (run_put _)
    exact (List.append_inj h (by rw [Octets.length_ofInt, Octets.length_ofInt])).1

theorem varUInt64_delimited : varUInt64.Delimited where
  whole hw h := by
    obtain rfl := hw.eq (run_put _)
    obtain ⟨n, mid, hread, hpure⟩ := of_run_bind_ok h
    rw [varint_run] at hread
    obtain ⟨_, rfl⟩ := Varint.eq_of_decodeFrom_encode hread
    cases hpure
    rfl
  apart hw hw' h := by
    obtain rfl := hw.eq (run_put _)
    obtain rfl := hw'.eq (run_put _)
    rw [(Varint.encode_append_inj h).1]

/-- A codec that writes a frame and reads one, whatever it makes of the octets in it. -/
theorem delimited_of_frame {c : Codec α}
    (hwrites : ∀ {a e}, c.Writes a e → ∃ bs, e = framed .nested bs)
    (hreads : ∀ {b a rest}, (c.decode .nested).run.run b = (.ok a, rest) →
      ∃ bs, (frame .nested).run.run b = (.ok bs, rest)) : c.Delimited where
  whole hw h := by
    obtain ⟨bs, rfl⟩ := hwrites hw
    obtain ⟨content, hframe⟩ := hreads h
    exact rest_of_frame hframe
  apart hw hw' h := by
    obtain ⟨bs, rfl⟩ := hwrites hw
    obtain ⟨bs', rfl⟩ := hwrites hw'
    rw [framed_append_inj h]

theorem string_delimited : string.Delimited := by
  refine delimited_of_frame (fun hw => ⟨_, hw.eq (run_putFrame .nested _)⟩) fun h => ?_
  obtain ⟨bs, mid, hframe, hdecode⟩ := of_run_bind_ok h
  refine ⟨bs, ?_⟩
  split at hdecode
  · cases hdecode
    exact hframe
  · cases hdecode

theorem bytes_delimited : bytes.Delimited :=
  delimited_of_frame (fun hw => ⟨_, hw.eq (run_putFrame .nested _)⟩) fun h => ⟨_, h⟩

theorem json_delimited (form : JsonForm α) : (json form).Delimited := by
  refine delimited_of_frame (fun {a e} hw => ?_) fun h => ?_
  · obtain ⟨text, mid, htext, hput⟩ := of_run_bind_ok hw
    cases hform : form.text a with
    | error e =>
      rw [hform] at htext
      cases htext
    | ok text' =>
      rw [hform] at htext
      cases htext
      exact ⟨_, (Prod.mk.inj (hput.symm.trans (run_putFrame .nested _ []))).2⟩
  · obtain ⟨bs, mid, hframe, hdecode⟩ := of_run_bind_ok h
    refine ⟨bs, ?_⟩
    split at hdecode
    · cases hdecode
      exact hframe
    · cases hdecode

/-- The octets of a pair are those of its parts, one after the other. -/
theorem parts_of_writes {element : Codec ε} {restriction : Codec ρ} {p : Restricted ε ρ}
    {e : Octets} (hr : Appends (restriction.encode .nested p.restriction))
    (hw : (pair element restriction).Writes p e) :
    ∃ front back, element.Writes p.element front ∧ restriction.Writes p.restriction back ∧
      e = front ++ back := by
  obtain ⟨u, front, hfront, hback⟩ := of_run_bind_ok hw
  obtain ⟨r, back, happends⟩ := hr
  obtain ⟨rfl, rfl⟩ := Prod.mk.inj (hback.symm.trans (happends front))
  exact ⟨front, back, hfront, happends [], rfl⟩

theorem pair_delimited {element : Codec ε} {restriction : Codec ρ} (he : element.Delimited)
    (hr : restriction.Delimited)
    (happends : ∀ r, Appends (restriction.encode .nested r)) :
    (pair element restriction).Delimited where
  whole hw h := by
    obtain ⟨front, back, hfront, hback, rfl⟩ := parts_of_writes (happends _) hw
    rw [List.append_assoc] at h
    obtain ⟨e, mid, hfirst, h⟩ := of_run_bind_ok h
    obtain rfl := he.whole hfront hfirst
    obtain ⟨r, rest, hsecond, hpure⟩ := of_run_bind_ok h
    cases hpure
    exact hr.whole hback hsecond
  apart hw hw' h := by
    obtain ⟨front, back, hfront, hback, rfl⟩ := parts_of_writes (happends _) hw
    obtain ⟨front', back', hfront', hback', rfl⟩ := parts_of_writes (happends _) hw'
    rw [List.append_assoc, List.append_assoc] at h
    obtain rfl := he.apart hfront hfront' h
    rw [hr.apart hback hback' (List.append_cancel_left h)]

theorem nullable_delimited {c : Codec (Restricted ε ρ)} (hc : c.Delimited) :
    (nullable c).Delimited where
  whole {p p' e t rest} hw h := by
    obtain ⟨q, mid, hread, hpure⟩ := of_run_bind_ok h
    cases hpure
    cases p with
    | none => cases hw
    | some p => exact hc.whole hw hread
  apart {p p' e e' t t'} hw hw' h := by
    cases p with
    | none => cases hw
    | some p =>
      cases p' with
      | none => cases hw'
      | some p' => exact hc.apart hw hw' h

theorem Built.delimited {c : Codec α} (h : c.Built) : c.Delimited := by
  induction h with
  | int64 => exact int64_delimited
  | varUInt64 => exact varUInt64_delimited
  | string => exact string_delimited
  | bytes => exact bytes_delimited
  | json form => exact json_delimited form
  | pair _ hr ihe ihr => exact pair_delimited ihe ihr (hr.encodes .nested)
  | nullable _ ih => exact nullable_delimited ih

/-- Of a part of what was written of a value nothing is read but a failure to decode. -/
theorem Built.cut_off {c : Codec α} (h : c.Built) {a : α} {e cut : Octets} (hw : c.Writes a e)
    (hcut : cut <+: e) (hne : cut ≠ e) :
    ∃ message rest, (c.decode .nested).run.run cut = (.error (.decode message), rest) := by
  obtain ⟨missing, rfl⟩ := hcut
  cases hread : (c.decode .nested).run.run cut with
  | mk r rest =>
    cases r with
    | error err =>
      obtain ⟨message, rfl⟩ := h.decodes.fails hread
      exact ⟨message, rest, rfl⟩
    | ok a' =>
      -- A reader that was content with the part would leave something of the whole.
      obtain ⟨taken, rfl⟩ := h.decodes.suffix hread
      have hwhole := h.decodes.reads hread (rest ++ missing)
      rw [← List.append_assoc, ← List.append_nil (taken ++ rest ++ missing)] at hwhole
      have hnil := h.delimited.whole hw hwhole
      rw [(List.append_eq_nil_iff.mp hnil).2, List.append_nil] at hne
      exact absurd rfl hne

end Codec

/-- A reader of codecs that are built of one another leaves the end of the buffer, and reads the
same whatever that is. So nothing is read from a part of what was written of a value, and what was
written of one value is no such part of what was written of another. -/
theorem nested_decoding_is_local {α : Type} (c : Codec α) (hc : c.Built) :
    (∀ b r rest, (c.decode .nested).run.run b = (r, rest) → rest <:+ b ∧
      ∀ taken a, b = taken ++ rest → r = .ok a →
        ∀ t, (c.decode .nested).run.run (taken ++ t) = (.ok a, t)) ∧
    (∀ a e cut, c.Writes a e → cut <+: e → cut ≠ e →
      ∃ message rest, (c.decode .nested).run.run cut = (.error (.decode message), rest)) ∧
    ∀ a a' e e', c.Writes a e → c.Writes a' e' → e <+: e' → e = e' := by
  refine ⟨fun b r rest h => ⟨hc.decodes.suffix h, ?_⟩, fun a e cut => hc.cut_off, ?_⟩
  · rintro taken a rfl rfl t
    exact hc.decodes.reads h t
  · rintro a a' e _ hw hw' ⟨more, rfl⟩
    exact hc.delimited.apart hw hw' (List.append_nil (e ++ more)).symm

/-- A length that is written with an octet more than it needs, and a record that is cut off. -/
theorem nested_decoding_is_local_overlong :
    let c : Codec (Restricted String (Restricted Bool UInt64)) :=
      .pair .string (.pair (.json .bool) .varUInt64)
    let record : Restricted String (Restricted Bool UInt64) := ⟨"a", ⟨true, 300⟩⟩
    let taken : Octets := [0x81, 0, 0x61, 4, 0x74, 0x72, 0x75, 0x65, 0xAC, 2]
    let written : Octets := [1, 0x61, 4, 0x74, 0x72, 0x75, 0x65, 0xAC, 2]
    (c.Built ∧ (c.decode .nested).run.run (taken ++ [9]) = (.ok record, [9]) ∧
      c.Writes record written ∧ written.take 3 <+: written ∧ written.take 3 ≠ written) ∧
    (∀ t, (c.decode .nested).run.run (taken ++ t) = (.ok record, t)) ∧
    (∃ message rest,
      (c.decode .nested).run.run (written.take 3) = (.error (.decode message), rest)) ∧
    ∀ other octets, c.Writes other octets → written <+: octets → written = octets := by
  intro c record taken written
  have hbuilt : c.Built := .pair .string (.pair (.json .bool) .varUInt64)
  have hread : (c.decode .nested).run.run (taken ++ [9]) = (.ok record, [9]) := rfl
  have hoctets : ((c.encode .nested record).run.run []).2 = written := by
    decide +kernel
  have hwrites : c.Writes record written := Prod.ext rfl hoctets
  have hfront : written.take 3 <+: written := List.take_prefix 3 written
  have hpart : written.take 3 ≠ written := by decide
  obtain ⟨hlocal, hcut, hapart⟩ := nested_decoding_is_local c hbuilt
  exact ⟨⟨hbuilt, hread, hwrites, hfront, hpart⟩, (hlocal _ _ _ hread).2 taken record rfl rfl,
    hcut record written _ hwrites hfront hpart,
    fun other octets hother hmore => hapart record other written octets hwrites hother hmore⟩

end BatchSql
