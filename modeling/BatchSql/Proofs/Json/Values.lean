import BatchSql.Proofs.Encoding.RoundTrip
import BatchSql.Proofs.Json.Records

namespace BatchSql

namespace Codec

variable {α : Type} {a : α} {cs : List Char}

theorem run_encode_json {form : JsonForm α} (h : form.text a = .ok cs) (context : Context)
    (b : Octets) :
    ((json form).encode context a).run.run b =
      (.ok (), b ++ Buffered.framed context (Utf8.encode cs)) := by
  change (Buffered.ofExcept (form.text a) >>= _).run.run b = _
  rw [h]
  exact Buffered.run_putFrame context (Utf8.encode cs) b

/-- What a frame holds is decoded as it would be alone. -/
theorem run_decode_json (form : JsonForm α) {context : Context} {bs b rest : Octets}
    (hframe : (Buffered.frame context).run.run b = (.ok bs, rest)) :
    ((json form).decode context).run.run b = ((json form).decodeAlone bs, rest) := by
  rw [decodeAlone_json]
  change (Buffered.frame context >>= _).run.run b = _
  rw [run_bind_ok hframe]
  cases (Json.ofOctets? bs).bind form.read with
  | none => rfl
  | some a => rfl

end Codec

namespace Value

/-- How deep the document in a value is nested. -/
def documentDepth : Value → Nat
  | json j => j.content.depth
  | _ => 0

/-- The name of its kind is one level more around the document of a value. -/
theorem levels_le {v : Value} (h : v.documentDepth ≤ 126) : v.levels ≤ Json.maxLevels := by
  cases v with
  | json j => exact Nat.succ_le_succ h
  | _ => simp [levels, Json.maxLevels]

/-- What reading gives of a value: an equal one exactly if the texts of its parts give them back,
and without floats what its text says. -/
structure GivenBack (v : Value) (r : Except Error Value) : Prop where
  equal_iff : (∃ w, r = .ok w ∧ (v == w) = true) ↔ v.TextKept
  floatFree : v.FloatFree → r = .ok v.reread

theorem givenBack_text {v : Value} (hdepth : v.documentDepth ≤ 126) :
    v.GivenBack ((Codec.json .value).decodeAlone (Utf8.encode v.text)) where
  equal_iff := by
    have hiff := JsonKind.comes_back_iff (k := .value) (a := v) rfl
    have hlevels : JsonKind.value.levels v ≤ Json.maxLevels := levels_le hdepth
    rwa [and_iff_right hlevels] at hiff
  floatFree hfree := by
    obtain ⟨j, hform, hread⟩ := Option.bind_eq_some_iff.mp (form_reread hfree)
    have hjson : Json.ofOctets? (Utf8.encode v.text) = some j := by
      rw [v.reads_text.octets, if_pos (levels_le hdepth), hform]
    rw [Codec.decodeAlone_json, hjson, Option.bind_some, show JsonForm.value.read j = _ from hread]

/-- A number that is a document by itself is read as its digits are. -/
theorem decodeAlone_number {n m : Json.Number} (h : n.reread = some m) :
    (Codec.json .value).decodeAlone (Utf8.encode (json ⟨.number n, rfl⟩).text) =
      .ok (json ⟨.number m, rfl⟩) := by
  have hform : (json ⟨.number n, rfl⟩).form = some (tag "Json" (.number m)) := by
    rw [form, Json.reread, h]
    rfl
  have hlevels : (json ⟨.number n, rfl⟩).levels ≤ Json.maxLevels := levels_le (Nat.zero_le _)
  have hread := (json ⟨.number n, rfl⟩).reads_text.octets
  rw [hform, if_pos hlevels] at hread
  rw [Codec.decodeAlone_json, hread]
  rfl

/-- Only a decimal zero, which loses its sign, is not the same when it is read. -/
theorem reread_eq {v : Value} (hclock : v.OnClock) (hdecimal : ∀ d, v ≠ .decimal d) :
    v.reread = v := by
  cases v with
  | decimal d => exact absurd rfl (hdecimal d)
  | time t => rw [reread, t.shown_eq_iff.mpr hclock]
  | dateTime t => rw [reread, t.shown_eq_iff.mpr hclock]
  | instant t => rw [reread, t.shown_eq_iff.mpr hclock]
  | _ => rfl

end Value

/-- Any value whose document is nested 126 levels at most is written as JSON, in every context, and
reading what was written takes that and nothing else, whatever the context lets follow. It gives an
equal value exactly if the texts of the parts of the value give them back. Without floats this means
that a leap second is one that a clock shows, and nothing else is lost but the sign of a decimal
zero. -/
theorem values_lose_nothing_as_json {v : Value} (hdepth : v.documentDepth ≤ 126) :
    (v.FloatFree → (v.TextKept ↔ v.OnClock)) ∧
    (v.OnClock → (∀ d, v ≠ .decimal d) → v.reread = v) ∧
    (∃ bs, (Codec.json .value).encodeAlone v = .ok bs ∧
      v.GivenBack ((Codec.json .value).decodeAlone bs)) ∧
    ∀ context : Context, ∃ bs,
      (∀ b, ((Codec.json .value).encode context v).run.run b = (.ok (), b ++ bs)) ∧
      ((context = .nested → (Layout.json .value).Fits v) → ∀ rest, context.Allows rest →
        ∃ r, ((Codec.json .value).decode context).run.run (bs ++ rest) = (r, rest) ∧
          v.GivenBack r) := by
  have htext : JsonForm.value.text v = .ok v.text := rfl
  have halone := Codec.encodeAlone_json JsonForm.value v
  have hback := Value.givenBack_text hdepth
  refine ⟨Value.textKept_iff, Value.reread_eq, ⟨_, halone, hback⟩, fun context => ?_⟩
  refine ⟨_, Codec.run_encode_json htext context, fun hfits rest hrest => ?_⟩
  refine ⟨_, Codec.run_decode_json .value ?_, hback⟩
  cases context with
  | nested => exact Buffered.run_frame (hfits rfl _ halone) trivial
  | outer =>
    obtain rfl : rest = [] := hrest
    rw [List.append_nil]
    rfl

/-- The greatest unsigned number and an escape inside a document, before other octets. -/
theorem values_lose_nothing_as_json_document :
    let n : Json.Number := .integer (2 ^ 64 - 1) (by decide) (by decide)
    let j : Json := .object [("a\n", .array [.number n, .string "né\"", .null])]
    let v : Value := .json ⟨j, by decide⟩
    (v.FloatFree ∧ v.OnClock ∧ v.documentDepth ≤ 126 ∧ (Layout.json .value).Fits v) ∧
    ∃ bs, (∀ b, ((Codec.json .value).encode .nested v).run.run b = (.ok (), b ++ bs)) ∧
      ∀ rest, ((Codec.json .value).decode .nested).run.run (bs ++ rest) = (.ok v, rest) := by
  intro n j v
  have hfree : v.FloatFree := ⟨⟨trivial, trivial, trivial, trivial⟩, trivial⟩
  have hdepth : v.documentDepth ≤ 126 := by decide
  have hfits : (Layout.json .value).Fits v := by
    intro bs hbs
    obtain rfl := Except.ok.inj ((Codec.encodeAlone_json JsonForm.value v).symm.trans hbs)
    decide +kernel
  obtain ⟨-, -, -, hcontexts⟩ := values_lose_nothing_as_json hdepth
  obtain ⟨bs, hwrite, hread⟩ := hcontexts .nested
  refine ⟨⟨hfree, trivial, hdepth, hfits⟩, bs, hwrite, fun rest => ?_⟩
  obtain ⟨r, hr, hback⟩ := hread (fun _ => hfits) rest trivial
  rw [hr, hback.floatFree hfree]
  rfl

/-- A leap second that no clock shows is read as the second after it, and an integer that has no
room in 64 bits as its neighbour among the floats. -/
theorem values_come_back_as_others :
    let t : Time := ⟨23, 56, 4, 1333333333, by decide⟩
    let u : Time := ⟨23, 56, 5, 333333333, by decide⟩
    let x : Binary64 := ⟨0x44ef8d2fa3ee2aeb#64⟩
    let y : Binary64 := ⟨0x44ef8d2fa3ee2aec#64⟩
    let d : Document := ⟨.number (.float x (by decide)), rfl⟩
    let e : Document := ⟨.number (.float y (by decide)), rfl⟩
    (∃ bs, (Codec.json .value).encodeAlone (.time t) = .ok bs ∧
      (Codec.json .value).decodeAlone bs = .ok (.time u) ∧ (Value.time t == .time u) = false) ∧
    x = .ofInt 1191982277860489068281856 ∧
    ∃ bs, (Codec.json .value).encodeAlone (.json d) = .ok bs ∧
      (Codec.json .value).decodeAlone bs = .ok (.json e) ∧ (Value.json d == .json e) = false := by
  intro t u x y d e
  have hshown : t.shown = u := by decide
  have htime := (Value.givenBack_text (v := .time t) (by decide)).floatFree trivial
  have hnumber : (Json.Number.float x (by decide)).reread = some (.float y (by decide)) := by
    decide +kernel
  have hother : (Value.json d == .json e) = false := by decide +kernel
  refine ⟨⟨_, Codec.encodeAlone_json JsonForm.value _, ?_, ?_⟩, by decide +kernel, _,
    Codec.encodeAlone_json JsonForm.value _, Value.decodeAlone_number hnumber, hother⟩
  · rw [← hshown]
    exact htime
  · decide

end BatchSql
