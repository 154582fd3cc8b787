import BatchSql.Json.Access
import BatchSql.Value.Tagged
import BatchSql.Proofs.Calendar.Texts
import BatchSql.Proofs.Json.Documents
import BatchSql.Proofs.Value.Decimal
import BatchSql.Proofs.Value.Identifiers

namespace BatchSql

namespace Json

/-- The digits of a double are read as a double equal to it. -/
def DoubleKept (x : Binary64) : Prop :=
  x.isFinite = true ∧ ∃ y finite, (floatNumeral doubleStyle x).number? = some (.float y finite) ∧
    x.numEq y = true

/-- The digits of a single are read as a double whose nearest single is equal to it. -/
def SingleKept (x : Binary32) : Prop :=
  x.isFinite = true ∧ ∃ y finite, (floatNumeral singleStyle x).number? = some (.float y finite) ∧
    x.numEq y.convert = true

theorem ofInt_eq {v : Int} (low : -2 ^ 63 ≤ v) (high : v < 2 ^ 64) :
    ofInt v = number (.integer v low high) := by
  rw [ofInt, Number.ofInt?, dif_pos ⟨low, high⟩]
  rfl

/-- A reader of floats, to which null is none, reads those that are finite from their digits. -/
theorem floatForm_iff {f g : BinaryFormat} {style : FloatStyle} {read : Json → Option (Binary g)}
    {nearest : Binary64 → Binary g} (hnull : read null = none)
    (hfloat : ∀ z finite, read (number (.float z finite)) = some (nearest z)) (x : Binary f)
    (p : Binary g → Prop) :
    (∃ y, (floatForm style x).bind read = some y ∧ p y) ↔
      x.isFinite = true ∧ ∃ z finite, (floatNumeral style x).number? = some (.float z finite) ∧
        p (nearest z) := by
  rw [floatForm]
  by_cases hx : x.isFinite = true
  · rw [if_pos hx]
    constructor
    · rintro ⟨y, hy, hp⟩
      obtain ⟨j, hj, hy⟩ := Option.bind_eq_some_iff.mp hy
      obtain ⟨m, hm, rfl⟩ := Option.map_eq_some_iff.mp hj
      obtain ⟨z, hz, rfl⟩ := Numeral.number_float (floatNumeral_pointed style x) hm
      rw [hfloat] at hy
      obtain rfl := Option.some.inj hy
      exact ⟨hx, z, hz, hm, hp⟩
    · rintro ⟨-, z, hz, hm, hp⟩
      refine ⟨nearest z, ?_, hp⟩
      rw [hm, Option.map_some, Option.bind_some, hfloat]
  · rw [if_neg hx, Option.bind_some, hnull]
    constructor
    · rintro ⟨y, hy, -⟩
      cases hy
    · rintro ⟨hfinite, -⟩
      exact absurd hfinite hx

theorem floatForm_double_iff (x : Binary64) :
    (∃ y, (floatForm doubleStyle x).bind Value.binary64Of? = some y ∧ x.numEq y = true) ↔
      DoubleKept x :=
  floatForm_iff rfl (fun z _ => show some z = some (id z) from rfl) x fun y => x.numEq y = true

theorem floatForm_single_iff (x : Binary32) :
    (∃ y, (floatForm singleStyle x).bind Value.binary32Of? = some y ∧ x.numEq y = true) ↔
      SingleKept x :=
  floatForm_iff rfl (fun _ _ => rfl) x fun y => x.numEq y = true

end Json

namespace Value

open Json (Reads)

/-- An object that names the kind of a value. -/
def tag (kind : String) (j : Json) : Json :=
  .object [(kind, j)]

theorem reads_tagged {cs : List Char} {depth : Nat} {result : Option Json} (kind : String)
    (h : Reads cs depth result) :
    Reads (tagged kind cs) (depth + 1) (result.map (tag kind)) := by
  have hreads := Json.reads_object (Json.reads_lastField kind h)
  rw [Option.map_map] at hreads
  exact hreads

theorem reads_intText (kind : String) {v : Int} (low : -2 ^ 63 ≤ v) (high : v < 2 ^ 64) :
    Reads (tagged kind (intText v)) 1 (some (tag kind (Json.ofInt v))) := by
  rw [Json.ofInt_eq low high]
  exact reads_tagged kind (Json.reads_integer low high)

theorem reads_quotedChars (kind : String) (cs : List Char) :
    Reads (tagged kind (quotedChars cs)) 1 (some (tag kind (Json.chars cs))) :=
  reads_tagged kind (Json.reads_string (String.ofList cs))

theorem low_octet (b : UInt8) : (-2 ^ 63 : Int) ≤ b.toNat := by
  omega

theorem high_octet (b : UInt8) : (b.toNat : Int) < 2 ^ 64 := by
  have := b.toNat_lt
  omega

def octetNumber (b : UInt8) : Json.Number :=
  .integer b.toNat (low_octet b) (high_octet b)

def octetItems (bs : Octets) : List Json :=
  (bs.map octetNumber).map Json.number

/-- What the text of a value is read as. -/
def form : Value → Option Json
  | null => some (.string "Null")
  | bool b => some (tag "Bool" (.bool b))
  | int16 n => some (tag "Int16" (Json.ofInt n.toInt))
  | int32 n => some (tag "Int32" (Json.ofInt n.toInt))
  | int64 n => some (tag "Int64" (Json.ofInt n.toInt))
  | float32 x => (Json.floatForm Json.singleStyle x).map (tag "Float32")
  | float64 x => (Json.floatForm Json.doubleStyle x).map (tag "Float64")
  | decimal d => some (tag "Decimal" (Json.chars d.text))
  | string s => some (tag "String" (.string s))
  | bytes bs => some (tag "Bytes" (.array (octetItems bs)))
  | date d => some (tag "Date" (Json.chars d.text))
  | time t => some (tag "Time" (Json.chars t.text))
  | dateTime t => some (tag "DateTime" (Json.chars t.text))
  | instant t => some (tag "DateTimeTz" (Json.chars t.text))
  | uuid u => some (tag "Uuid" (Json.chars u.text))
  | json j => j.content.reread.map (tag "Json")

/-- How deep the text of a value is nested. -/
def levels : Value → Nat
  | null => 0
  | bytes _ => 2
  | json j => j.content.depth + 1
  | _ => 1

theorem reads_text (v : Value) : Reads v.text v.levels v.form := by
  cases v with
  | null => exact Json.reads_string "Null"
  | bool b => exact reads_tagged "Bool" (Json.reads_bool b)
  | int16 n =>
    exact reads_intText "Int16" (by have := n.le_toInt; omega) (by have := n.toInt_lt; omega)
  | int32 n =>
    exact reads_intText "Int32" (by have := n.le_toInt; omega) (by have := n.toInt_lt; omega)
  | int64 n => exact reads_intText "Int64" n.le_toInt (by have := n.toInt_lt; omega)
  | float32 x => exact reads_tagged "Float32" (Json.reads_floatText Json.singleStyle x)
  | float64 x => exact reads_tagged "Float64" (Json.reads_floatText Json.doubleStyle x)
  | decimal d => exact reads_quotedChars "Decimal" d.text
  | string s => exact reads_tagged "String" (Json.reads_string s)
  | bytes bs =>
    have hintegers : ∀ n ∈ bs.map octetNumber, n.IsInteger := by
      intro n hn
      obtain ⟨b, -, rfl⟩ := List.mem_map.mp hn
      trivial
    have hreads := reads_tagged "Bytes" (Json.reads_integers hintegers)
    rw [List.map_map] at hreads
    have hitems : octetItems bs = bs.map (Json.number ∘ octetNumber) := List.map_map
    rw [form, hitems]
    exact hreads
  | date d => exact reads_quotedChars "Date" d.text
  | time t => exact reads_quotedChars "Time" t.text
  | dateTime t => exact reads_quotedChars "DateTime" t.text
  | instant t => exact reads_quotedChars "DateTimeTz" t.text
  | uuid u => exact reads_quotedChars "Uuid" u.text
  | json j => exact reads_tagged "Json" (Json.reads_text j.content)

theorem intWithin_ofInt {low high v : Int} (hlow : low ≤ v) (hhigh : v ≤ high)
    (hlow' : -2 ^ 63 ≤ low) (hhigh' : high < 2 ^ 64) :
    intWithin? low high (Json.ofInt v) = some v := by
  rw [Json.ofInt_eq (by omega) (by omega), intWithin?, if_pos ⟨hlow, hhigh⟩]

theorem octetsOf_octetItems (bs : Octets) : octetsOf? (octetItems bs) = some bs := by
  induction bs with
  | nil => rfl
  | cons b bs ih =>
    have hb : b.toNat < 256 := b.toNat_lt
    have hwithin : intWithin? 0 255 (Json.number (octetNumber b)) = some (b.toNat : Int) :=
      if_pos ⟨by omega, by omega⟩
    change octetsOf? (Json.number (octetNumber b) :: octetItems bs) = _
    rw [octetsOf?, hwithin, ih]
    simp only [Option.bind_eq_bind, Option.bind_some, Int.toNat_natCast, UInt8.ofNat_toNat]
    rfl

/-- A leap second in a value is one that a clock shows. -/
def OnClock : Value → Prop
  | time t => t.OnClock
  | dateTime t => t.time.OnClock
  | instant t => t.utc.time.OnClock
  | _ => True

/-- The texts of the parts of a value give them back: the digits of its floats, and of those in its
document, and the clock of its time. -/
def TextKept : Value → Prop
  | float32 x => Json.SingleKept x
  | float64 x => Json.DoubleKept x
  | json j => j.content.Numbers Json.Number.Kept
  | v => v.OnClock

theorem ofJson_tag (kind : String) (j : Json) : ofJson? (tag kind j) = payload? kind j := rfl

theorem textOf_chars (cs : List Char) : textOf? (Json.chars cs) = some (String.ofList cs) := rfl

/-- No part of a value is a float. -/
def FloatFree : Value → Prop
  | float32 _ => False
  | float64 _ => False
  | json j => j.content.Numbers Json.Number.IsInteger
  | _ => True

/-- The value as its text is read: a decimal zero loses its sign, and a time is what its text
shows. -/
def reread : Value → Value
  | decimal d => decimal d.reread
  | time t => time t.shown
  | dateTime t => dateTime t.shown
  | instant t => instant t.shown
  | v => v

theorem same_reread_iff {v : Value} (h : v.FloatFree) : v.same v.reread = true ↔ v.OnClock := by
  cases v with
  | float32 x => cases h
  | float64 x => cases h
  | decimal d => exact iff_true_intro d.numEq_reread
  | time t =>
    rw [reread, same, beq_iff_eq, OnClock, ← t.shown_eq_iff]
    exact eq_comm
  | dateTime t =>
    rw [reread, same, beq_iff_eq, OnClock, ← t.shown_eq_iff]
    exact eq_comm
  | instant t =>
    rw [reread, same, beq_iff_eq, OnClock, ← t.shown_eq_iff]
    exact eq_comm
  | json j => exact iff_true_intro (j.content.numEq_self_of_integers h)
  | _ => simp [reread, same, OnClock]

/-- Without floats, only a leap second can be lost. -/
theorem textKept_iff {v : Value} (h : v.FloatFree) : v.TextKept ↔ v.OnClock := by
  cases v with
  | float32 x => cases h
  | float64 x => cases h
  | json j => exact iff_true_intro (h.mono fun _ hn => hn.kept)
  | _ => exact Iff.rfl

/-- A value without floats is read back as its text says it. -/
theorem form_reread {v : Value} (h : v.FloatFree) : v.form.bind ofJson? = some v.reread := by
  cases v with
  | null => rfl
  | bool b =>
    rw [form, Option.bind_some, ofJson_tag, payload?]
    rfl
  | int16 n =>
    have hlow : -2 ^ 15 ≤ n.toInt := n.le_toInt
    have hhigh : n.toInt < 2 ^ 15 := n.toInt_lt
    rw [form, Option.bind_some, ofJson_tag, payload?,
      intWithin_ofInt hlow (by omega) (by decide) (by decide), Option.map_some, Int16.ofInt_toInt]
    rfl
  | int32 n =>
    have hlow : -2 ^ 31 ≤ n.toInt := n.le_toInt
    have hhigh : n.toInt < 2 ^ 31 := n.toInt_lt
    rw [form, Option.bind_some, ofJson_tag, payload?,
      intWithin_ofInt hlow (by omega) (by decide) (by decide), Option.map_some, Int32.ofInt_toInt]
    rfl
  | int64 n =>
    have hlow : -2 ^ 63 ≤ n.toInt := n.le_toInt
    have hhigh : n.toInt < 2 ^ 63 := n.toInt_lt
    rw [form, Option.bind_some, ofJson_tag, payload?,
      intWithin_ofInt hlow (by omega) (by decide) (by decide), Option.map_some, Int64.ofInt_toInt]
    rfl
  | float32 x => cases h
  | float64 x => cases h
  | decimal d =>
    rw [form, Option.bind_some, ofJson_tag, payload?, Json.chars, decimalOf?, Decimal.ofText_text,
      Option.map_some]
    rfl
  | string s =>
    rw [form, Option.bind_some, ofJson_tag, payload?, textOf?, Option.map_some]
    rfl
  | bytes bs =>
    rw [form, Option.bind_some, ofJson_tag, payload?, octetsOf_octetItems, Option.map_some]
    rfl
  | date d =>
    rw [form, Option.bind_some, ofJson_tag, payload?, textOf_chars, Option.bind_some,
      Date.ofText_text, Option.map_some]
    rfl
  | time t =>
    rw [form, Option.bind_some, ofJson_tag, payload?, textOf_chars, Option.bind_some,
      Time.ofText_text, Option.map_some]
    rfl
  | dateTime t =>
    rw [form, Option.bind_some, ofJson_tag, payload?, textOf_chars, Option.bind_some,
      DateTime.ofText_text, Option.map_some]
    rfl
  | instant t =>
    rw [form, Option.bind_some, ofJson_tag, payload?, textOf_chars, Option.bind_some,
      Instant.ofText_text, Option.map_some]
    rfl
  | uuid u =>
    rw [form, Option.bind_some, ofJson_tag, payload?, textOf_chars, Option.bind_some,
      Uuid.ofText_text, Option.map_some]
    rfl
  | json j =>
    rw [form, j.content.reread_of_integers h, Option.map_some, Option.bind_some, ofJson_tag,
      payload?, Json.document_content j]
    rfl

/-- A document in a value is read as a document is. -/
theorem form_json_iff (d : Document) :
    (∃ w, (json d).form.bind ofJson? = some w ∧ (json d).same w = true) ↔
      d.content.Numbers Json.Number.Kept := by
  rw [← Json.reread_numEq_iff]
  constructor
  · rintro ⟨w, hw, hsame⟩
    obtain ⟨j, hj, hw⟩ := Option.bind_eq_some_iff.mp hw
    obtain ⟨k, hk, rfl⟩ := Option.map_eq_some_iff.mp hj
    rw [ofJson_tag, payload?] at hw
    obtain rfl := Option.some.inj hw
    rw [same, Json.content_document_reread d hk] at hsame
    exact ⟨k, hk, hsame⟩
  · rintro ⟨k, hk, hsame⟩
    refine ⟨json k.document, ?_, ?_⟩
    · rw [form, hk, Option.map_some, Option.bind_some, ofJson_tag, payload?]
    · rw [same, Json.content_document_reread d hk]
      exact hsame

theorem form_tag_iff {α : Type} {kind : String} {read : Json → Option α} {wrap : α → Value}
    (hread : ∀ j, payload? kind j = (read j).map wrap) (form : Option Json) (p : Value → Prop) :
    (∃ w, (form.map (tag kind)).bind ofJson? = some w ∧ p w) ↔
      ∃ a, form.bind read = some a ∧ p (wrap a) := by
  cases form with
  | none => simp
  | some j =>
    rw [Option.map_some, Option.bind_some, Option.bind_some, ofJson_tag, hread]
    cases read j with
    | none => simp
    | some a => simp

/-- A value is read back as an equal one exactly if its parts are. -/
theorem form_same_iff (v : Value) :
    (∃ w, v.form.bind ofJson? = some w ∧ v.same w = true) ↔ v.TextKept := by
  have hfree (h : v.FloatFree) :
      (∃ w, v.form.bind ofJson? = some w ∧ v.same w = true) ↔ v.TextKept := by
    rw [form_reread h, textKept_iff h, ← same_reread_iff h]
    simp
  cases v with
  | float32 x =>
    have hread (j : Json) : payload? "Float32" j = (binary32Of? j).map float32 := by rw [payload?]
    rw [TextKept, ← Json.floatForm_single_iff]
    exact form_tag_iff hread (Json.floatForm Json.singleStyle x) fun w => (float32 x).same w = true
  | float64 x =>
    have hread (j : Json) : payload? "Float64" j = (binary64Of? j).map float64 := by rw [payload?]
    rw [TextKept, ← Json.floatForm_double_iff]
    exact form_tag_iff hread (Json.floatForm Json.doubleStyle x) fun w => (float64 x).same w = true
  | json d => exact form_json_iff d
  | _ => exact hfree trivial

end Value

end BatchSql
