import BatchSql.Proofs.Encoding.Canonical

namespace BatchSql

open Buffered

namespace Layout

/-- The parts of a record that are no pairs, from left to right, each in the context of its
place. -/
def leaves (context : Context) : (l : Layout) → l.Carrier → List Piece
  | pair a b, p => a.leaves .nested p.element ++ b.leaves context p.restriction
  | l, record => [⟨l, context, record⟩]

/-- The last part of a record that stands alone, which has the rest of the buffer for itself. -/
def last : (l : Layout) → l.Carrier → Piece
  | pair _ b, p => b.last p.restriction
  | l, record => ⟨l, .outer, record⟩

/-- All parts of a record but the last. -/
def others : (l : Layout) → l.Carrier → List Piece
  | pair a b, p => a.leaves .nested p.element ++ b.others p.restriction
  | _, _ => []

theorem leaves_eq (l : Layout) (record : l.Carrier) :
    l.leaves .outer record = l.others record ++ [l.last record] := by
  induction l with
  | pair a b _ ihb => rw [leaves, others, last, ihb, List.append_assoc]
  | int64 | varUInt64 | string | bytes | json | optionalPair => rfl

theorem leaves_nested (l : Layout) (record : l.Carrier) :
    ∀ p ∈ l.leaves .nested record, p.context = .nested := by
  induction l with
  | pair a b iha ihb =>
    intro p hp
    rcases List.mem_append.mp hp with hp | hp
    · exact iha record.element p hp
    · exact ihb record.restriction p hp
  | int64 | varUInt64 | string | bytes | json | optionalPair =>
    intro p hp
    rw [List.mem_singleton.mp hp]

/-- More follows all parts but the last. -/
theorem others_nested (l : Layout) (record : l.Carrier) :
    ∀ p ∈ l.others record, p.context = .nested := by
  induction l with
  | pair a b _ ihb =>
    intro p hp
    rcases List.mem_append.mp hp with hp | hp
    · exact a.leaves_nested record.element p hp
    · exact ihb record.restriction p hp
  | int64 | varUInt64 | string | bytes | json | optionalPair => exact nofun

theorem length_leaves (l : Layout) (context : Context) (record record' : l.Carrier) :
    (l.leaves context record).length = (l.leaves context record').length := by
  induction l generalizing context with
  | pair a b iha ihb =>
    rw [leaves, leaves, List.length_append, List.length_append,
      iha .nested record.element record'.element,
      ihb context record.restriction record'.restriction]
  | int64 | varUInt64 | string | bytes | json | optionalPair => rfl

/-- A record is known by its parts. -/
theorem leaves_inj {l : Layout} {context : Context} {record record' : l.Carrier}
    (hl : l.Plain) (h : l.leaves context record = l.leaves context record') :
    record = record' := by
  induction hl generalizing context with
  | @pair a b _ _ iha ihb =>
    obtain ⟨e, r⟩ := record
    obtain ⟨e', r'⟩ := record'
    obtain ⟨hfront, hback⟩ := List.append_inj h (a.length_leaves .nested e e')
    have he : e = e' := iha hfront
    have hr : r = r' := ihb hback
    rw [he, hr]
  | int64 | varUInt64 | string | bytes =>
    simpa [leaves] using h

theorem Plain.built {l : Layout} (hl : l.Plain) : l.codec.Built := by
  induction hl with
  | int64 => exact .int64
  | varUInt64 => exact .varUInt64
  | string => exact .string
  | bytes => exact .bytes
  | pair _ _ ihe ihr => exact .pair ihe ihr

end Layout

namespace Piece

theorem writeAll_append (front back : List Piece) :
    writeAll (front ++ back) = (do
      writeAll front
      writeAll back) := by
  induction front with
  | nil => rw [List.nil_append, writeAll.eq_1, pure_bind]
  | cons p rest ih => rw [List.cons_append, writeAll, writeAll, ih, bind_assoc]

/-- These octets are what is written of some pieces. -/
def Spell (pieces : List Piece) (octets : Octets) : Prop :=
  ∀ b, (writeAll pieces).run.run b = (.ok (), b ++ octets)

theorem Spell.append {front back : List Piece} {bs cs : Octets} (hf : Spell front bs)
    (hb : Spell back cs) : Spell (front ++ back) (bs ++ cs) := by
  intro b
  rw [writeAll_append, run_bind_ok (hf b), hb, List.append_assoc]

theorem spell_nil : Spell [] [] := by
  intro b
  rw [List.append_nil]
  rfl

/-- What the last part of a record is read as when only these octets of it are there: octets are
read as those, and so is a text that is cut between two characters. -/
inductive CutTo : Piece → Octets → Piece → Prop where
  | bytes {bs cut : Octets} (part : cut <+: bs) :
      CutTo ⟨.bytes, .outer, bs⟩ cut ⟨.bytes, .outer, cut⟩
  | string {s : String} {cs : List Char} (part : cs <+: s.toList) :
      CutTo ⟨.string, .outer, s⟩ (Utf8.encode cs) ⟨.string, .outer, String.ofList cs⟩

end Piece

namespace Layout

theorem encode_eq_writeAll (l : Layout) (context : Context) (record : l.Carrier) :
    l.codec.encode context record = Piece.writeAll (l.leaves context record) := by
  induction l generalizing context with
  | pair a b iha ihb =>
    rw [leaves, Piece.writeAll_append, ← iha, ← ihb]
    rfl
  | int64 | varUInt64 | string | bytes | json | optionalPair => exact bind_pure_unit.symm

variable {l : Layout} {record : l.Carrier}

theorem Plain.others_spell (hl : l.Plain) (hf : l.Fits record) :
    ∃ octets, Piece.Spell (l.others record) octets := by
  induction hl with
  | @pair a b ha hb _ ihb =>
    obtain ⟨es, hwrite, -⟩ := ha.round_trips hf.1 .nested
    obtain ⟨octets, hothers⟩ := ihb hf.2
    rw [encode_eq_writeAll] at hwrite
    exact ⟨es ++ octets, .append hwrite hothers⟩
  | int64 | varUInt64 | string | bytes => exact ⟨[], Piece.spell_nil⟩

/-- What comes of a record that is cut off, where `octets` are those of all its parts but the
last: the last part is shortened, or nothing is read. -/
inductive CutOff (l : Layout) (record : l.Carrier) (octets cut : Octets) :
    Except Error l.Carrier → Prop where
  | shortened {part : Octets} {left : Piece} {record' : l.Carrier} (rest : cut = octets ++ part)
      (last : (l.last record).CutTo part left)
      (others : l.leaves .outer record' = l.others record ++ [left]) :
      CutOff l record octets cut (.ok record')
  | lost (message : String)
      (none : ∀ part left, cut = octets ++ part → ¬(l.last record).CutTo part left) :
      CutOff l record octets cut (.error (.decode message))

/-- A part that no more follows, and that knows its end all the same, is not read when octets of
it are missing. -/
theorem Plain.lost (hl : l.Plain) {cut e : Octets} (hw : l.codec.Writes record e)
    (hcut : cut <+: e) (hne : cut ≠ e) (hsame : l.codec.decode .outer = l.codec.decode .nested)
    (hnone : ∀ part left, ¬(l.last record).CutTo part left) (octets : Octets) :
    ∃ answer rest, (l.codec.decode .outer).run.run cut = (answer, rest) ∧
      (∀ r, answer = .ok r → rest = []) ∧ l.CutOff record octets cut answer := by
  obtain ⟨message, rest, hread⟩ := hl.built.cut_off hw hcut hne
  rw [hsame]
  exact ⟨_, rest, hread, nofun, .lost message fun part left _ => hnone part left⟩

theorem string_cut_off {s : String} {cut : Octets} (hcut : cut <+: Utf8.ofString s) :
    ∃ answer rest, (string.codec.decode .outer).run.run cut = (answer, rest) ∧
      (∀ r, answer = .ok r → rest = []) ∧ string.CutOff s [] cut answer := by
  cases hutf : Utf8.decode cut with
  | ok cs =>
    obtain rfl := Utf8.encode_of_run hutf
    obtain ⟨more, hmore⟩ := hcut
    have hprefix : cs <+: s.toList := by
      apply Utf8.prefix_of_run
      rw [hmore]
      exact Utf8.decode_ofString s
    refine ⟨.ok (String.ofList cs), [], ?_, fun _ _ => rfl, .shortened rfl (.string hprefix) rfl⟩
    rw [codec, Codec.run_decode_string (frame_outer _), Codec.readText, hutf]
  | error fault =>
    refine ⟨.error (.decode ("invalid UTF-8: " ++ fault.message)), [], ?_, ?_, .lost _ ?_⟩
    · rw [codec, Codec.run_decode_string (frame_outer _), Codec.readText, hutf]
    · intro r hr
      cases hr
    · rintro part left rfl hpart
      cases hpart with
      | @string _ cs _ =>
        have hread : Utf8.decode (Utf8.encode cs) = .ok cs := Utf8.run_encode cs 0
        cases hread.symm.trans hutf

/-- What is cut off of a pair whose element is whole is cut off of its restriction. -/
theorem CutOff.pair {a b : Layout} {element : a.Carrier} {restriction : b.Carrier}
    {es octets cut : Octets} {answer : Except Error b.Carrier}
    (h : b.CutOff restriction octets cut answer) :
    (Layout.pair a b).CutOff ⟨element, restriction⟩ (es ++ octets) (es ++ cut)
      (answer.map fun r => ⟨element, r⟩) := by
  cases h with
  | shortened hrest hlast hothers =>
    refine .shortened ?_ hlast ?_
    · rw [hrest, List.append_assoc]
    · rw [leaves, others, hothers, List.append_assoc]
  | lost message hnone =>
    refine .lost message fun part left hpart => ?_
    rw [List.append_assoc, List.append_right_inj] at hpart
    exact hnone part left hpart

/-- The octets of the others come first, so either they are cut, or the last part is. -/
theorem Plain.cut_off (hl : l.Plain) (hf : l.Fits record) {e cut : Octets}
    (he : ∀ b, (l.codec.encode .outer record).run.run b = (.ok (), b ++ e)) (hcut : cut <+: e)
    (hne : cut ≠ e) :
    ∃ octets, Piece.Spell (l.others record) octets ∧ ∃ answer rest,
      (l.codec.decode .outer).run.run cut = (answer, rest) ∧
      (∀ r, answer = .ok r → rest = []) ∧ l.CutOff record octets cut answer := by
  induction hl generalizing e cut with
  | int64 => exact ⟨[], Piece.spell_nil, Plain.lost .int64 (he []) hcut hne rfl nofun []⟩
  | varUInt64 => exact ⟨[], Piece.spell_nil, Plain.lost .varUInt64 (he []) hcut hne rfl nofun []⟩
  | string =>
    obtain rfl := (Prod.mk.inj ((he []).symm.trans (run_putFrame .outer _ []))).2
    exact ⟨[], Piece.spell_nil, string_cut_off hcut⟩
  | bytes =>
    obtain rfl := (Prod.mk.inj ((he []).symm.trans (run_putFrame .outer _ []))).2
    have hread : (Layout.bytes.codec.decode .outer).run.run cut = (.ok cut, []) := frame_outer cut
    exact ⟨[], Piece.spell_nil, _, [], hread, fun _ _ => rfl, .shortened rfl (.bytes hcut) rfl⟩
  | @pair a b ha hb _ ihb =>
    obtain ⟨es, hewrite, heread⟩ := ha.round_trips hf.1 .nested
    obtain ⟨rs, hrwrite, -⟩ := hb.round_trips hf.2 .outer
    have hfirst : Piece.Spell (a.leaves .nested record.element) es := by
      rwa [encode_eq_writeAll] at hewrite
    have hpair : e = es ++ rs := by
      have hboth :
          ((Layout.pair a b).codec.encode .outer record).run.run [] = (.ok (), es ++ rs) := by
        rw [codec, Codec.run_encode_pair (hewrite []), hrwrite]
        rfl
      exact (Prod.mk.inj ((he []).symm.trans hboth)).2
    subst hpair
    by_cases hwhole : es <+: cut
    · obtain ⟨cut, rfl⟩ := hwhole
      rw [List.prefix_append_right_inj] at hcut
      obtain ⟨octets, hothers, answer, rest, hread, hrest, hcutoff⟩ :=
        ihb hf.2 hrwrite hcut fun hsame => hne (congrArg (es ++ ·) hsame)
      refine ⟨es ++ octets, hfirst.append hothers, _, rest,
        Codec.run_decode_pair (heread cut trivial) hread, ?_, hcutoff.pair⟩
      cases answer with
      | ok r => exact fun _ _ => hrest r rfl
      | error e => exact nofun
    · have hpart : cut <+: es :=
        (List.prefix_or_prefix_of_prefix hcut (List.prefix_append es rs)).resolve_right hwhole
      have hcutne : cut ≠ es := by
        rintro rfl
        exact hwhole List.prefix_rfl
      obtain ⟨message, rest, hread⟩ := ha.built.cut_off (hewrite []) hpart hcutne
      obtain ⟨octets, hothers⟩ := hb.others_spell hf.2
      refine ⟨es ++ octets, hfirst.append hothers, .error (.decode message), rest,
        run_bind_error hread, nofun, .lost message ?_⟩
      rintro part left rfl
      rw [List.append_assoc] at hwhole
      exact absurd (List.prefix_append es _) hwhole

end Layout

/-- A record that stands alone and is cut off is noticed, except in its last part. Where the octets
of all other parts are there, and the last part is a string of octets, or a text that is cut
between two characters, the record is read with its last part shortened to what is there; else it
is an error to decode. -/
theorem cut_off_records_are_noticed {l : Layout} (hl : l.Plain) {record : l.Carrier}
    (hf : l.Fits record) {e cut : Octets} (he : l.codec.encodeAlone record = .ok e)
    (hcut : cut <+: e) (hne : cut ≠ e) :
    l.leaves .outer record = l.others record ++ [l.last record] ∧
    (∀ p ∈ l.others record, p.context = .nested) ∧
    ∃ octets, (∀ b, (Piece.writeAll (l.others record)).run.run b = (.ok (), b ++ octets)) ∧
      ((∃ part left record', cut = octets ++ part ∧ (l.last record).CutTo part left ∧
          (∀ r, l.leaves .outer r = l.others record ++ [left] ↔ r = record') ∧
          l.codec.decodeAlone cut = .ok record') ∨
        (∀ part left, cut = octets ++ part → ¬(l.last record).CutTo part left) ∧
          ∃ message, l.codec.decodeAlone cut = .error (.decode message)) := by
  obtain ⟨bs, hwrite, -⟩ := hl.round_trips hf .outer
  have hbs : e = bs := by
    rw [Codec.encodeAlone, hwrite []] at he
    exact (Except.ok.inj he).symm
  subst hbs
  obtain ⟨octets, hothers, answer, rest, hread, hrest, hcutoff⟩ := hl.cut_off hf hwrite hcut hne
  refine ⟨l.leaves_eq record, l.others_nested record, octets, hothers, ?_⟩
  cases hcutoff with
  | @shortened part left record' hpart hlast hleaves =>
    obtain rfl := hrest record' rfl
    refine .inl ⟨part, left, record', hpart, hlast, fun r => ?_, ?_⟩
    · constructor
      · intro hr
        exact Layout.leaves_inj hl (hr.trans hleaves.symm)
      · rintro rfl
        exact hleaves
    · rw [Codec.decodeAlone, hread]
  | lost message hnone =>
    refine .inr ⟨hnone, message, ?_⟩
    rw [Codec.decodeAlone, hread]

/-- The text in the last place is cut after its first character, and within its second. -/
theorem cut_off_records_are_noticed_in_text :
    let l : Layout := .pair .string (.pair .varUInt64 .string)
    let record : l.Carrier := ⟨"k", 300, "né"⟩
    let e : Octets := [1, 0x6B, 0xAC, 2, 0x6E, 0xC3, 0xA9]
    (l.Plain ∧ l.Fits record ∧ l.codec.encodeAlone record = .ok e ∧ e.take 5 <+: e ∧
      e.take 5 ≠ e ∧ e.take 6 <+: e ∧ e.take 6 ≠ e) ∧
    (l.codec.decodeAlone (e.take 5) = .ok ⟨"k", 300, "n"⟩ ∧
      ∃ octets part left, Piece.Spell (l.others record) octets ∧ e.take 5 = octets ++ part ∧
        (l.last record).CutTo part left ∧
        l.leaves .outer ⟨"k", 300, "n"⟩ = l.others record ++ [left]) ∧
    ∃ message octets, l.codec.decodeAlone (e.take 6) = .error (.decode message) ∧
      Piece.Spell (l.others record) octets ∧
      ∀ part left, e.take 6 = octets ++ part → ¬(l.last record).CutTo part left := by
  intro l record e
  have hl : l.Plain := .pair .string (.pair .varUInt64 .string)
  have hf : l.Fits record := ⟨(by decide : (Utf8.ofString "k").length < 2 ^ 64), trivial,
    (by decide : (Utf8.ofString "né").length < 2 ^ 64)⟩
  have he : l.codec.encodeAlone record = .ok e := by decide +kernel
  have hfive : e.take 5 <+: e := List.take_prefix 5 e
  have hsix : e.take 6 <+: e := List.take_prefix 6 e
  have hfive' : e.take 5 ≠ e := by decide
  have hsix' : e.take 6 ≠ e := by decide
  have hshort : l.codec.decodeAlone (e.take 5) = .ok ⟨"k", 300, "n"⟩ := rfl
  have hbroken : ∃ message, l.codec.decodeAlone (e.take 6) = .error (.decode message) := ⟨_, rfl⟩
  refine ⟨⟨hl, hf, he, hfive, hfive', hsix, hsix'⟩, ⟨hshort, ?_⟩, ?_⟩
  · obtain ⟨-, -, octets, hspell, hread | ⟨-, message, hread⟩⟩ :=
      cut_off_records_are_noticed hl hf he hfive hfive'
    · obtain ⟨part, left, record', hpart, hleft, hrecord, hread⟩ := hread
      obtain rfl := Except.ok.inj (hshort.symm.trans hread)
      exact ⟨octets, part, left, hspell, hpart, hleft, (hrecord _).mpr rfl⟩
    · cases hshort.symm.trans hread
  · obtain ⟨-, -, octets, hspell, hread | ⟨hnone, message, hread⟩⟩ :=
      cut_off_records_are_noticed hl hf he hsix hsix'
    · obtain ⟨part, left, record', -, -, -, hread⟩ := hread
      obtain ⟨message, hbroken⟩ := hbroken
      cases hbroken.symm.trans hread
    · exact ⟨message, octets, hread, hspell, hnone⟩

end BatchSql
