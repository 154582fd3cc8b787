import BatchSql.Proofs.Encoding.Framing

namespace BatchSql

namespace Utf8

/-- The octets of a scalar value are those of its standard encoding, where the bits above those that
a lead octet has room for are cut off. There are none. -/
theorem encodeChar_eq (c : Char) : encodeChar c = String.utf8EncodeChar c := by
  have hlt : c.toNat < 0x110000 := by
    have hvalid : c.toNat < 0xD800 ∨ 0xDFFF < c.toNat ∧ c.toNat < 0x110000 := c.valid
    omega
  have hval : c.val.toNat = c.toNat := rfl
  simp only [encodeChar, String.utf8EncodeChar, hval]
  generalize c.toNat = n at hlt
  by_cases hone : n < 0x80
  · rw [if_pos hone, if_pos (by omega : n ≤ 0x7F)]
  · rw [if_neg hone, if_neg (by omega : ¬n ≤ 0x7F)]
    by_cases htwo : n < 0x800
    · rw [if_pos htwo, if_pos (by omega : n ≤ 0x7FF),
        Nat.mod_eq_of_lt (by omega : n / 64 < 0x20), Nat.add_comm 0xC0, Nat.add_comm 0x80]
    · rw [if_neg htwo, if_neg (by omega : ¬n ≤ 0x7FF)]
      by_cases hthree : n < 0x10000
      · rw [if_pos hthree, if_pos (by omega : n ≤ 0xFFFF),
          Nat.mod_eq_of_lt (by omega : n / 4096 < 0x10), Nat.add_comm 0xE0, Nat.add_comm 0x80,
          Nat.add_comm 0x80]
      · rw [if_neg hthree, if_neg (by omega : ¬n ≤ 0xFFFF),
          Nat.mod_eq_of_lt (by omega : n / 262144 < 0x08), Nat.add_comm 0xF0, Nat.add_comm 0x80,
          Nat.add_comm 0x80, Nat.add_comm 0x80]

theorem ofString_eq (s : String) : ofString s = s.toUTF8.data.toList := by
  have hs : s.toUTF8 = s.toList.utf8Encode := by
    rw [String.toUTF8_eq_toByteArray, ← String.toByteArray_ofList, String.ofList_toList]
  have hchars : encodeChar = String.utf8EncodeChar := funext encodeChar_eq
  rw [hs, List.utf8Encode, List.toList_data_toByteArray, ofString, encode, hchars]

/-- Octets that are those of a text. -/
def IsText (bs : Octets) : Prop :=
  ∃ s : String, s.toUTF8.data.toList = bs

theorem isText_iff {bs : Octets} : IsText bs ↔ ∃ cs, decode bs = .ok cs := by
  constructor
  · rintro ⟨s, rfl⟩
    exact ⟨s.toList, by rw [← ofString_eq, decode_ofString]⟩
  · rintro ⟨cs, hcs⟩
    refine ⟨String.ofList cs, ?_⟩
    rw [← ofString_eq, ofString, String.toList_ofList]
    exact encode_of_run hcs

theorem of_map_error {α β : Type} {x : Except Fault α} {g : α → β} {f : Fault}
    (h : x.map g = .error f) : x = .error f := by
  cases x with
  | error e => exact congrArg _ (Except.error.inj h)
  | ok a => cases h

/-- How many octets of a scalar value have been read. -/
def State.seen : State → Nat
  | .boundary => 0
  | .inside _ seen => seen

/-- Between two scalar values, or inside one that can still be completed, which takes four octets
at most. -/
inductive State.Sound : State → Prop where
  | boundary : Sound .boundary
  | inside {tail : Tail} {seen : Nat} (range : tail.low ≤ tail.high) (more : 1 ≤ tail.count)
      (begun : 1 ≤ seen) (short : seen + tail.count ≤ 4) : Sound (.inside tail seen)

theorem sound_lead {b : UInt8} {tail : Tail} (h : lead? b = some tail) :
    (State.inside tail 1).Sound := by
  simp only [lead?] at h
  repeat' split at h
  all_goals cases h
  all_goals exact .inside (by simp) (by simp) (Nat.le_refl 1) (by simp)

theorem State.Sound.next {tail : Tail} {seen : Nat} (h : (State.inside tail seen).Sound)
    (hcount : ¬tail.count ≤ 1) (bits : Nat) :
    (State.inside ⟨tail.count - 1, 0x80, 0xBF, bits⟩ (seen + 1)).Sound := by
  cases h with
  | inside range more begun short =>
    refine .inside (by simp) ?_ (Nat.succ_pos seen) ?_
    · dsimp only
      omega
    · dsimp only
      omega

/-- The lowest octets that may follow complete a scalar value. -/
theorem completes {tail : Tail} {seen : Nat} (h : (State.inside tail seen).Sound) (start : Nat) :
    ∃ more cs, run (.inside tail seen) start more = .ok cs := by
  generalize hn : tail.count = n
  induction n generalizing tail seen with
  | zero =>
    cases h with
    | inside range more begun short => omega
  | succ n ih =>
    have hlow : tail.low ≤ tail.low ∧ tail.low ≤ tail.high := by
      cases h with
      | inside range more begun short => exact ⟨UInt8.le_refl _, range⟩
    by_cases hcount : tail.count ≤ 1
    · refine ⟨[tail.low], [Char.ofNat (tail.bits * 64 + (tail.low.toNat - 0x80))], ?_⟩
      simp only [run, if_pos hlow, if_pos hcount]
      rfl
    · have hless : tail.count - 1 = n := by omega
      obtain ⟨more, cs, hmore⟩ :=
        ih (h.next hcount (tail.bits * 64 + (tail.low.toNat - 0x80))) hless
      refine ⟨tail.low :: more, cs, ?_⟩
      simp only [run, if_pos hlow, if_neg hcount]
      exact hmore

/-- An octet that is taken leads to another state, where `g` has yet to be done to what is read from
there on. -/
structure Takes (st : State) (start : Nat) (b : UInt8) (next : State) (start' : Nat)
    (g : List Char → List Char) : Prop where
  runs : ∀ more, run st start (b :: more) = (run next start' more).map g
  seen : start' + next.seen = start + st.seen + 1
  place : start' = start ∨ next = .boundary
  sound : st.Sound → next.Sound

/-- All that one octet can do. -/
theorem takes_or_refuses (st : State) (start : Nat) (b : UInt8) :
    (∃ next start' g, Takes st start b next start' g) ∨
      ∃ n, (∀ more, run st start (b :: more) = .error ⟨start, some n⟩) ∧
        (st.Sound → 1 ≤ n ∧ n ≤ 3) := by
  cases st with
  | boundary =>
    by_cases hb : b < 0x80
    · refine .inl ⟨.boundary, start + 1, (Char.ofNat b.toNat :: ·), ?_, rfl, .inr rfl, id⟩
      intro more
      rw [run, if_pos hb]
    · cases hlead : lead? b with
      | none =>
        refine .inr ⟨1, ?_, fun _ => by decide⟩
        intro more
        rw [run, if_neg hb, hlead]
      | some tail =>
        refine .inl ⟨.inside tail 1, start, id, ?_, rfl, .inl rfl, fun _ => sound_lead hlead⟩
        intro more
        rw [run, if_neg hb, hlead, Except.map_id]
        rfl
  | inside tail seen =>
    by_cases hrange : tail.low ≤ b ∧ b ≤ tail.high
    · by_cases hcount : tail.count ≤ 1
      · refine .inl ⟨.boundary, start + seen + 1,
          (Char.ofNat (tail.bits * 64 + (b.toNat - 0x80)) :: ·), ?_, rfl, .inr rfl,
          fun _ => .boundary⟩
        intro more
        simp only [run, if_pos hrange, if_pos hcount]
      · refine .inl ⟨_, start, id, ?_, rfl, .inl rfl,
          fun hst => hst.next hcount (tail.bits * 64 + (b.toNat - 0x80))⟩
        intro more
        simp only [run, if_pos hrange, if_neg hcount, Except.map_id]
        rfl
    · refine .inr ⟨seen, ?_, ?_⟩
      · intro more
        simp only [run, if_neg hrange]
      · intro hst
        cases hst with
        | inside range more begun short => exact ⟨begun, by omega⟩

variable {st : State} {start : Nat} {bs : Octets} {f : Fault}

theorem start_le_of_run (h : run st start bs = .error f) : start ≤ f.validUpTo := by
  induction bs generalizing st start with
  | nil =>
    cases st with
    | boundary => cases h
    | inside tail seen => cases h; exact Nat.le_refl start
  | cons b bs ih =>
    rcases takes_or_refuses st start b with ⟨next, start', g, htakes⟩ | ⟨n, hrefuses, -⟩
    · rw [htakes.runs] at h
      have hle := ih (of_map_error h)
      rcases htakes.place with rfl | rfl
      · exact hle
      · have hseen := htakes.seen
        simp only [State.seen] at hseen
        omega
    · rw [hrefuses] at h
      cases h
      exact Nat.le_refl start

/-- The index of a fault is where reading began, or the end of a text. -/
theorem exists_front_of_run (h : run st start bs = .error f) :
    f.validUpTo = start ∨ ∃ front rest cs, bs = front ++ rest ∧ run st start front = .ok cs ∧
      f.validUpTo = start + st.seen + front.length := by
  induction bs generalizing st start with
  | nil =>
    cases st with
    | boundary => cases h
    | inside tail seen => cases h; exact .inl rfl
  | cons b bs ih =>
    rcases takes_or_refuses st start b with ⟨next, start', g, htakes⟩ | ⟨n, hrefuses, -⟩
    · rw [htakes.runs] at h
      have hseen := htakes.seen
      rcases ih (of_map_error h) with hindex | ⟨front, rest, cs, rfl, hfront, hindex⟩
      · rcases htakes.place with rfl | rfl
        · exact .inl hindex
        · refine .inr ⟨[b], bs, g [], rfl, ?_, ?_⟩
          · rw [htakes.runs]
            rfl
          · rw [hindex]
            exact hseen
      · refine .inr ⟨b :: front, rest, g cs, rfl, ?_, ?_⟩
        · rw [htakes.runs, hfront]
          rfl
        · rw [hindex, List.length_cons]
          omega
    · rw [hrefuses] at h
      cases h
      exact .inl rfl

/-- What a fault says of octets that may follow: with no count of bad octets some complete the text,
and else none do. -/
def Fault.Tells (f : Fault) (st : State) (start : Nat) (bs : Octets) : Prop :=
  (f.badLength = none ∧ ∃ more cs, run st start (bs ++ more) = .ok cs) ∨
    ∃ n, f.badLength = some n ∧ 1 ≤ n ∧ n ≤ 3 ∧ ∀ more cs, run st start (bs ++ more) ≠ .ok cs

theorem tells_of_run (hst : st.Sound) (h : run st start bs = .error f) : f.Tells st start bs := by
  induction bs generalizing st start with
  | nil =>
    cases st with
    | boundary => cases h
    | inside tail seen =>
      cases h
      exact .inl ⟨rfl, completes hst start⟩
  | cons b bs ih =>
    rcases takes_or_refuses st start b with ⟨next, start', g, htakes⟩ | ⟨n, hrefuses, hcount⟩
    · have hruns : ∀ more, run st start (b :: bs ++ more) =
          (run next start' (bs ++ more)).map g := fun more => htakes.runs (bs ++ more)
      rw [htakes.runs] at h
      rcases ih (htakes.sound hst) (of_map_error h) with ⟨hnone, more, cs, hmore⟩ |
        ⟨n, hsome, hpos, hle, hnever⟩
      · refine .inl ⟨hnone, more, g cs, ?_⟩
        rw [hruns, hmore]
        rfl
      · refine .inr ⟨n, hsome, hpos, hle, ?_⟩
        intro more cs hok
        rw [hruns] at hok
        obtain ⟨cs', hcs', -⟩ := of_map_ok hok
        exact hnever more cs' hcs'
    · rw [hrefuses] at h
      cases h
      obtain ⟨hpos, hle⟩ := hcount hst
      refine .inr ⟨n, rfl, hpos, hle, ?_⟩
      intro more cs hok
      rw [List.cons_append, hrefuses] at hok
      cases hok

/-- Reading goes on behind a text. -/
theorem run_encode_append (cs : List Char) (start : Nat) (bs : Octets) :
    run .boundary start (encode cs ++ bs) =
      (run .boundary (start + (encode cs).length) bs).map (cs ++ ·) := by
  induction cs generalizing start with
  | nil =>
    change run .boundary start bs = (run .boundary start bs).map id
    rw [Except.map_id, id]
  | cons c cs ih =>
    have hcons : encode (c :: cs) = encodeChar c ++ encode cs := rfl
    rw [hcons, List.append_assoc, run_encodeChar, ih, List.length_append, ← Nat.add_assoc]
    cases run .boundary (start + (encodeChar c).length + (encode cs).length) bs with
    | error e => rfl
    | ok ds => rfl

/-- The index of a fault is the length of the longest text at the front. -/
theorem longest_of_fault (h : decode bs = .error f) :
    f.validUpTo ≤ bs.length ∧ IsText (bs.take f.validUpTo) ∧
      ∀ n ≤ bs.length, IsText (bs.take n) → n ≤ f.validUpTo := by
  have hfront : ∃ front rest cs, bs = front ++ rest ∧ decode front = .ok cs ∧
      f.validUpTo = front.length := by
    rcases exists_front_of_run h with hindex | ⟨front, rest, cs, hbs, hfront, hindex⟩
    · exact ⟨[], bs, [], rfl, rfl, hindex⟩
    · exact ⟨front, rest, cs, hbs, hfront, by simpa [State.seen] using hindex⟩
  obtain ⟨front, rest, cs, rfl, hcs, hindex⟩ := hfront
  refine ⟨?_, ?_, ?_⟩
  · rw [hindex, List.length_append]
    exact Nat.le_add_right _ _
  · rw [hindex, List.take_left, isText_iff]
    exact ⟨cs, hcs⟩
  · intro n hn htext
    rw [isText_iff] at htext
    obtain ⟨ds, hds⟩ := htext
    have hencode := encode_of_run hds
    rw [← List.take_append_drop n (front ++ rest), ← hencode, decode, run_encode_append] at h
    have hle := start_le_of_run (of_map_error h)
    rw [hencode, List.length_take_of_le hn, Nat.zero_add] at hle
    exact hle

end Utf8

namespace Codec
open Utf8

variable {content : Octets}

theorem readText_ok_iff {s : String} :
    readText content = .ok s ↔ s.toUTF8.data.toList = content := by
  rw [← ofString_eq]
  constructor
  · intro h
    unfold readText at h
    split at h
    · rename_i cs hcs
      cases h
      rw [ofString, String.toList_ofList]
      exact encode_of_run hcs
    · cases h
  · rintro rfl
    rw [readText, decode_ofString]
    exact congrArg Except.ok String.ofList_toList

/-- How octets that are no text are told so, from the index where they cease to be one. -/
theorem readText_of_not_isText (h : ¬IsText content) : ∃ index,
    (index ≤ content.length ∧ IsText (content.take index) ∧
      ∀ n ≤ content.length, IsText (content.take n) → n ≤ index) ∧
    ((∃ more, IsText (content ++ more)) ∧ readText content = .error (.decode
        ("invalid UTF-8: " ++ s!"incomplete utf-8 byte sequence from index {index}")) ∨
      (∀ more, ¬IsText (content ++ more)) ∧ ∃ n, 1 ≤ n ∧ n ≤ 3 ∧
        readText content = .error (.decode
          ("invalid UTF-8: " ++ s!"invalid utf-8 sequence of {n} bytes from index {index}"))) := by
  cases hread : Utf8.decode content with
  | ok cs => exact absurd (isText_iff.mpr ⟨cs, hread⟩) h
  | error f =>
    refine ⟨f.validUpTo, longest_of_fault hread, ?_⟩
    rcases tells_of_run .boundary hread with ⟨hnone, more, cs, hmore⟩ |
      ⟨n, hsome, hpos, hle, hnever⟩
    · refine .inl ⟨⟨more, isText_iff.mpr ⟨cs, hmore⟩⟩, ?_⟩
      simp only [readText, hread, Fault.message, hnone]
    · refine .inr ⟨?_, n, hpos, hle, ?_⟩
      · intro more htext
        obtain ⟨cs, hcs⟩ := isText_iff.mp htext
        exact hnever more cs hcs
      · simp only [readText, hread, Fault.message, hsome]

/-- The two ways of telling cannot be taken for each other. -/
theorem incomplete_ne_invalid (i n j : Nat) :
    "invalid UTF-8: " ++ s!"incomplete utf-8 byte sequence from index {i}" ≠
      "invalid UTF-8: " ++ s!"invalid utf-8 sequence of {n} bytes from index {j}" := by
  intro h
  have hthird := congrArg (fun s : String => s.toList[17]?) h
  simp [toString] at hthird

end Codec

open Buffered Codec Utf8

/-- A text is read from its octets, and from no others. These stand in a frame or have the rest of
the buffer for themselves. Octets that are no text are told to be incomplete if others behind them
would make them one, and else one to three of them are told to be invalid, from the end of the
longest text at their front. -/
theorem texts_are_told_from_all_else (content : Octets) :
    ((string.decode .outer).run.run content = (readText content, []) ∧
      ∀ number rest, Varint.decode number = (.ok content.length, []) →
        (string.decode .nested).run.run (number ++ content ++ rest) =
          (readText content, rest)) ∧
    (∀ s : String, readText content = .ok s ↔ s.toUTF8.data.toList = content) ∧
    (¬IsText content → ∃ index,
      (index ≤ content.length ∧ IsText (content.take index) ∧
        ∀ n ≤ content.length, IsText (content.take n) → n ≤ index) ∧
      ((∃ more, IsText (content ++ more)) ∧ readText content = .error (.decode
          ("invalid UTF-8: " ++ s!"incomplete utf-8 byte sequence from index {index}")) ∨
        (∀ more, ¬IsText (content ++ more)) ∧ ∃ n, 1 ≤ n ∧ n ≤ 3 ∧
          readText content = .error (.decode
            ("invalid UTF-8: " ++ s!"invalid utf-8 sequence of {n} bytes from index {index}")))) := by
  refine ⟨⟨run_decode_string (frame_outer content), ?_⟩, fun s => readText_ok_iff,
    readText_of_not_isText⟩
  intro number rest hlength
  exact run_decode_string (run_frame_complete hlength rest)

/-- A letter before half of a character, and before a surrogate, which nothing completes. Neither
is a text, and the letter is where the fault begins. -/
theorem texts_are_told_from_all_else_halved :
    let half : Octets := [0x6E, 0xF0, 0x9F]
    let surrogate : Octets := [0x6E, 0xED, 0xA0, 0x80]
    (¬IsText half ∧ ¬IsText surrogate ∧ Varint.decode [3] = (.ok half.length, [])) ∧
    (string.decode .nested).run.run ([3] ++ half ++ [7]) =
      (.error (.decode "invalid UTF-8: incomplete utf-8 byte sequence from index 1"), [7]) ∧
    (∃ more, IsText (half ++ more)) ∧
    (string.decode .outer).run.run surrogate =
      (.error (.decode "invalid UTF-8: invalid utf-8 sequence of 1 bytes from index 1"), []) ∧
    ∀ more, ¬IsText (surrogate ++ more) := by
  intro half surrogate
  have hhalf : readText half =
      .error (.decode "invalid UTF-8: incomplete utf-8 byte sequence from index 1") := by
    decide +kernel
  have hsurrogate : readText surrogate =
      .error (.decode "invalid UTF-8: invalid utf-8 sequence of 1 bytes from index 1") := by
    decide +kernel
  have hnone : ∀ {content : Octets} {e : Error}, readText content = .error e →
      ¬IsText content := by
    rintro content e he ⟨s, hs⟩
    cases he.symm.trans (readText_ok_iff.mpr hs)
  have hthree : Varint.decode [3] = (.ok half.length, []) := rfl
  obtain ⟨⟨-, hframed⟩, -, hrefused⟩ := texts_are_told_from_all_else half
  obtain ⟨⟨halone, -⟩, -, hrefused'⟩ := texts_are_told_from_all_else surrogate
  have hnested := hframed [3] [7] hthree
  rw [hhalf] at hnested
  rw [hsurrogate] at halone
  refine ⟨⟨hnone hhalf, hnone hsurrogate, hthree⟩, hnested, ?_, halone, ?_⟩
  · obtain ⟨index, -, ⟨hmore, -⟩ | ⟨-, n, -, -, htold⟩⟩ := hrefused (hnone hhalf)
    · exact hmore
    · rw [hhalf] at htold
      injection htold with htold
      injection htold with htold
      exact absurd htold (incomplete_ne_invalid 1 n index)
  · obtain ⟨index, -, ⟨-, htold⟩ | ⟨hnever, -⟩⟩ := hrefused' (hnone hsurrogate)
    · rw [hsurrogate] at htold
      injection htold with htold
      injection htold with htold
      exact absurd htold.symm (incomplete_ne_invalid index 1 1)
    · exact hnever

end BatchSql
