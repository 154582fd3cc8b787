import BatchSql.Codec.Layout
import BatchSql.Proofs.Encoding.Buffered
import BatchSql.Proofs.Json.Maps

namespace BatchSql

namespace Codec

variable {α : Type}

theorem encodeAlone_json (form : JsonForm α) (a : α) :
    (json form).encodeAlone a = (form.text a).map Utf8.encode := by
  simp only [encodeAlone, json]
  cases form.text a with
  | ok cs => rfl
  | error e => rfl

theorem decodeAlone_json (form : JsonForm α) (bs : Octets) :
    (json form).decodeAlone bs =
      match (Json.ofOctets? bs).bind form.read with
      | some a => .ok a
      | none => .error (.decode "<json>") := by
  have hrest : (Buffered.frame .outer).run.run bs = (.ok bs, []) := rfl
  simp only [decodeAlone, json]
  rw [run_bind_ok hrest]
  cases (Json.ofOctets? bs).bind form.read with
  | some a => rfl
  | none => rfl

end Codec

namespace JsonKind

/-- How deep the text of a record is nested. -/
def levels : (k : JsonKind) → k.Carrier → Nat
  | document, d => d.content.depth
  | tuple, _ => 1
  | double, _ => 0
  | bool, _ => 0
  | optionalText, _ => 0
  | value, v => v.levels
  | unsignedItems, _ => 1
  | textMap, m => (Json.object (JsonForm.mapFields .text m)).depth
  | intMap, m => (Json.object (JsonForm.mapFields .integer m)).depth
  | pairMap, _ => 1

/-- What the text of a record is read as. -/
def content : (k : JsonKind) → k.Carrier → Option Json
  | document, d => d.content.reread
  | tuple, (n, s) => some (.array [Json.ofInt n.toInt, .string s])
  | double, x => Json.floatForm Json.doubleStyle x
  | bool, b => some (.bool b)
  | optionalText, none => some .null
  | optionalText, some s => some (.string s)
  | value, v => v.form
  | unsignedItems, ns => some (.array ((ns.map JsonForm.unsignedNumber).map Json.number))
  | textMap, m => some (.object (JsonForm.mapFields .text m))
  | intMap, m => some (.object (JsonForm.mapFields .integer m))
  | pairMap, _ => some (.object [])

theorem reads_tuple (n : Int64) (s : String) :
    Json.Reads ('[' :: Value.intText n.toInt ++ ',' :: Json.quotedText s ++ [']']) 1
      (some (.array [Json.ofInt n.toInt, .string s])) := by
  have low : -2 ^ 63 ≤ n.toInt := n.le_toInt
  have high : n.toInt < 2 ^ 64 := by
    have := n.toInt_lt
    omega
  have hitems := Json.reads_item (Json.reads_integer low high)
    (Json.reads_lastItem (Json.reads_string s))
  rw [Json.ofInt_eq low high, List.append_assoc]
  exact Json.reads_array hitems

/-- Every record that has a text has one that is read. -/
theorem reads_text {k : JsonKind} {a : k.Carrier} {cs : List Char} (h : k.form.text a = .ok cs) :
    Json.Reads cs (k.levels a) (k.content a) := by
  cases k with
  | document =>
    obtain rfl := Except.ok.inj h
    exact Json.reads_text _
  | tuple =>
    obtain rfl := Except.ok.inj h
    exact reads_tuple a.1 a.2
  | double =>
    obtain rfl := Except.ok.inj h
    exact Json.reads_floatText Json.doubleStyle a
  | bool =>
    obtain rfl := Except.ok.inj h
    exact Json.reads_bool a
  | optionalText =>
    cases a with
    | none =>
      obtain rfl := Except.ok.inj h
      exact Json.reads_null
    | some s =>
      obtain rfl := Except.ok.inj h
      exact Json.reads_string s
  | value =>
    obtain rfl := Except.ok.inj h
    exact Value.reads_text a
  | unsignedItems =>
    obtain rfl := Except.ok.inj h
    have hintegers : ∀ n ∈ List.map JsonForm.unsignedNumber a, n.IsInteger := by
      intro n hn
      obtain ⟨b, -, rfl⟩ := List.mem_map.mp hn
      trivial
    have hreads := Json.reads_integers hintegers
    rw [List.map_map] at hreads
    rw [content, List.map_map]
    exact hreads
  | textMap =>
    obtain rfl := Except.ok.inj h
    exact JsonForm.reads_map .text a
  | intMap =>
    obtain rfl := Except.ok.inj h
    exact JsonForm.reads_map .integer a
  | pairMap =>
    cases a with
    | nil =>
      obtain rfl := Except.ok.inj h
      exact Json.reads_emptyObject
    | cons e rest => cases h

/-- The texts of the parts of a record give them back. -/
def TextKept : (k : JsonKind) → k.Carrier → Prop
  | document, d => d.content.Numbers Json.Number.Kept
  | double, x => Json.DoubleKept x
  | value, v => v.TextKept
  | _, _ => True

theorem readUInt32_unsignedNumber (n : UInt32) :
    JsonForm.readUInt32 (.number (JsonForm.unsignedNumber n)) = some n := by
  have hn := n.toNat_lt
  have hwithin : Value.intWithin? 0 (2 ^ 32 - 1) (.number (JsonForm.unsignedNumber n)) =
      some (n.toNat : Int) := if_pos ⟨by omega, by omega⟩
  rw [JsonForm.readUInt32, hwithin, Option.map_some, Int.toNat_natCast, UInt32.ofNat_toNat]

theorem readUInt32_items (ns : List UInt32) :
    ((ns.map JsonForm.unsignedNumber).map Json.number).mapM JsonForm.readUInt32 = some ns := by
  induction ns with
  | nil => rfl
  | cons n ns ih =>
    rw [List.map_cons, List.map_cons, List.mapM_cons, readUInt32_unsignedNumber, ih]
    rfl

/-- A record is read back as an equal one exactly if its parts are. -/
theorem content_same_iff {k : JsonKind} {a : k.Carrier} {cs : List Char}
    (h : k.form.text a = .ok cs) :
    (∃ b, (k.content a).bind k.form.read = some b ∧ k.same a b = true) ↔ k.TextKept a := by
  cases k with
  | document =>
    refine Iff.trans ?_ (Json.reread_numEq_iff (Document.content a))
    constructor
    · rintro ⟨b, hb, hsame⟩
      obtain ⟨j, hj, hb⟩ := Option.bind_eq_some_iff.mp hb
      obtain rfl := Option.some.inj hb
      rw [same, Json.content_document_reread a hj] at hsame
      exact ⟨j, hj, hsame⟩
    · rintro ⟨j, hj, hsame⟩
      refine ⟨j.document, Option.bind_eq_some_iff.mpr ⟨j, hj, rfl⟩, ?_⟩
      rw [same, Json.content_document_reread a hj]
      exact hsame
  | tuple =>
    refine iff_true_intro ⟨a, ?_, by simp [same]⟩
    obtain ⟨n, s⟩ := a
    change (do
      let n ← JsonForm.readInt64 (Json.ofInt n.toInt)
      let s ← Value.textOf? (.string s)
      pure (n, s)) = _
    rw [JsonForm.readInt64_ofInt]
    rfl
  | double => exact Json.floatForm_double_iff a
  | bool => exact iff_true_intro ⟨a, rfl, by simp [same]⟩
  | optionalText =>
    cases a with
    | none => exact iff_true_intro ⟨none, rfl, rfl⟩
    | some s => exact iff_true_intro ⟨some s, rfl, by simp [same]⟩
  | value => exact Value.form_same_iff a
  | unsignedItems => exact iff_true_intro ⟨a, readUInt32_items a, by simp [same]⟩
  | textMap =>
    exact iff_true_intro
      ⟨a, JsonForm.read_mapFields JsonForm.KeyForm.faithful_text a, JsonForm.IntMap.same_self a⟩
  | intMap =>
    exact iff_true_intro
      ⟨a, JsonForm.read_mapFields JsonForm.KeyForm.faithful_integer a, JsonForm.IntMap.same_self a⟩
  | pairMap =>
    cases a with
    | nil => exact iff_true_intro ⟨[], rfl, rfl⟩
    | cons e rest => cases h

end JsonKind

/-- What was written is read as an equal record exactly if it is nested no deeper than a reader
follows and its parts are given back. -/
theorem JsonKind.comes_back_iff {k : JsonKind} {a : k.Carrier} {cs : List Char}
    (h : k.form.text a = .ok cs) :
    (∃ b, (Codec.json k.form).decodeAlone (Utf8.encode cs) = .ok b ∧ k.same a b = true) ↔
      k.levels a ≤ Json.maxLevels ∧ k.TextKept a := by
  rw [Codec.decodeAlone_json, (reads_text h).octets, ← content_same_iff h]
  by_cases hlevels : k.levels a ≤ Json.maxLevels
  · rw [if_pos hlevels]
    cases (k.content a).bind k.form.read with
    | none => simp
    | some b => simp [hlevels]
  · rw [if_neg hlevels]
    simp [hlevels]

/-- A record that has been encoded comes back equal to what it was exactly if it is nested no deeper
than a reader follows, the digits of its floats give them back, and a leap second in it is one that
a clock shows. Nothing of this is looked at when it is encoded. -/
theorem json_record_comes_back_iff {k : JsonKind} {a : k.Carrier} {bs : Octets}
    (h : (Codec.json k.form).encodeAlone a = .ok bs) :
    (∃ b, (Codec.json k.form).decodeAlone bs = .ok b ∧ k.same a b = true) ↔
      k.levels a ≤ Json.maxLevels ∧ k.TextKept a := by
  rw [Codec.encodeAlone_json] at h
  cases htext : k.form.text a with
  | error e =>
    rw [htext] at h
    cases h
  | ok cs =>
    rw [htext] at h
    obtain rfl := Except.ok.inj h
    exact JsonKind.comes_back_iff htext

/-- One and a half comes back, and what is written of infinity is not read. -/
theorem json_record_comes_back_one_and_a_half :
    let x : Binary64 := ⟨0x3ff8000000000000#64⟩
    let y : Binary64 := ⟨0x7ff0000000000000#64⟩
    (∃ bs, (Codec.json JsonKind.double.form).encodeAlone x = .ok bs ∧
      ∃ b, (Codec.json JsonKind.double.form).decodeAlone bs = .ok b ∧
        JsonKind.double.same x b = true) ∧
    ∃ bs, (Codec.json JsonKind.double.form).encodeAlone y = .ok bs ∧
      ¬∃ b, (Codec.json JsonKind.double.form).decodeAlone bs = .ok b ∧
        JsonKind.double.same y b = true := by
  intro x y
  have hx := Codec.encodeAlone_json JsonForm.double x
  have hy := Codec.encodeAlone_json JsonForm.double y
  have hfinite : x.isFinite = true := by decide
  have hreread : (Json.floatNumeral Json.doubleStyle x).number? =
      some (.float x (show x.isFinite = true by decide)) := by decide +kernel
  have hinfinite : ¬y.isFinite = true := by decide
  refine ⟨⟨_, hx, (json_record_comes_back_iff (k := .double) hx).mpr ?_⟩, _, hy, ?_⟩
  · exact ⟨Nat.zero_le _, hfinite, x, hfinite, hreread, show x.numEq x = true by decide⟩
  · intro h
    obtain ⟨-, hfinite, -⟩ := (json_record_comes_back_iff (k := .double) hy).mp h
    exact hinfinite hfinite

/-- The shortest digits of a double can be read as its neighbour. -/
theorem json_double_comes_back_as_its_neighbour :
    let x : Binary64 := ⟨0x3ff14d723aa29381#64⟩
    let y : Binary64 := ⟨0x3ff14d723aa29380#64⟩
    ∃ bs, (Codec.json JsonKind.double.form).encodeAlone x = .ok bs ∧
      (Codec.json JsonKind.double.form).decodeAlone bs = .ok y ∧
      JsonKind.double.same x y = false ∧ x.isNaN = false := by
  intro x y
  have hread : (Json.ofOctets? (Utf8.encode (Json.floatText Json.doubleStyle x))).bind
      Value.binary64Of? = some y := by decide +kernel
  refine ⟨_, Codec.encodeAlone_json JsonForm.double x, ?_, ?_⟩
  · have hdecode := Codec.decodeAlone_json JsonForm.double
      (Utf8.encode (Json.floatText Json.doubleStyle x))
    rw [show JsonForm.double.read = Value.binary64Of? from rfl, hread] at hdecode
    exact hdecode
  · decide +kernel

end BatchSql
