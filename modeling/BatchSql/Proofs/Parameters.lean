import BatchSql.Parameters
import BatchSql.Proofs.Latest
import Mathlib.Data.List.Induction

namespace BatchSql.Parameters

/-- What is done to parameters while values are bound. -/
inductive Call where
  | set (index : Nat) (v : Value)
  | clear

/-- The answer of a call and the parameters after it, which a call that fails leaves alone. -/
def call (p : Parameters) : Call → Except Error Unit × Parameters
  | .set index v =>
    match p.set index v with
    | .ok p' => (.ok (), p')
    | .error e => (.error e, p)
  | .clear => (.ok (), p.clear)

def callAll (p : Parameters) (calls : List Call) : Parameters :=
  calls.foldl (fun p c => (p.call c).2) p

/-- The call neither sets a value at the index nor unbinds all. -/
def Call.Leaves (index : Nat) (c : Call) : Prop :=
  c ≠ .clear ∧ ∀ w, c ≠ .set index w

/-- The value was set at the index, and since then neither was another one nor was all unbound. -/
structure LastSet (calls : List Call) (index : Nat) (v : Value) : Prop where
  placed : 0 < index
  latest : Latest (Call.Leaves index) calls (.set index v)

def Bound (calls : List Call) (index : Nat) : Prop :=
  ∃ v, LastSet calls index v

/-- The smallest index that was left out below a bound one. -/
structure FirstGap (calls : List Call) (index : Nat) : Prop where
  placed : 0 < index
  unbound : ¬Bound calls index
  first : ∀ i, 0 < i → i < index → Bound calls i
  below : ∃ i, index < i ∧ Bound calls i

/-- The value at an index. -/
def bound? (p : Parameters) : Nat → Option Value
  | 0 => none
  | i + 1 => p.slots[i]?.join

/-- The highest index has a value. -/
def Trimmed (p : Parameters) : Prop :=
  0 < p.size → ∃ v, p.bound? p.size = some v

/-- Values without a gap. -/
def ofValues (values : List Value) : Parameters :=
  ⟨values.map some⟩

variable {p q : Parameters} {calls : List Call} {index : Nat} {v : Value}

theorem call_set (p : Parameters) (i : Nat) (v : Value) :
    p.call (.set (i + 1) v) =
      (.ok (), ⟨(p.slots ++ List.replicate (i + 1 - p.slots.length) none).set i (some v)⟩) := rfl

theorem call_set_zero (p : Parameters) (v : Value) :
    p.call (.set 0 v) = (.error (.query "parameter indexes start at 1" none), p) := rfl

theorem answer_set (p : Parameters) (index : Nat) (v : Value) :
    (p.call (.set index v)).1 =
      if index = 0 then .error (.query "parameter indexes start at 1" none) else .ok () := by
  cases index with
  | zero => rfl
  | succ i => rfl

theorem size_set (p : Parameters) (i : Nat) (v : Value) :
    (p.call (.set (i + 1) v)).2.size = max p.size (i + 1) := by
  rw [call_set]
  simp only [size, List.length_set, List.length_append, List.length_replicate]
  omega

theorem bound?_set (p : Parameters) (i : Nat) (v : Value) (index : Nat) :
    (p.call (.set i v)).2.bound? index =
      if i = index ∧ 0 < i then some v else p.bound? index := by
  cases i with
  | zero =>
    rw [if_neg (fun h => absurd h.2 (Nat.lt_irrefl 0)), call_set_zero]
  | succ i =>
    cases index with
    | zero => simp [bound?]
    | succ j =>
      rw [call_set]
      simp only [bound?, Nat.add_right_cancel_iff, Nat.zero_lt_succ, and_true]
      rw [List.getElem?_set, List.getElem?_append, List.getElem?_replicate]
      by_cases hij : i = j
      · subst hij
        simp only [List.length_append, List.length_replicate, if_true]
        rw [if_pos (by omega)]
        rfl
      · rw [if_neg hij, if_neg hij]
        by_cases hj : j < p.slots.length
        · rw [if_pos hj]
        · -- a slot that is grown is as unbound as one that is not there
          rw [if_neg hj, List.getElem?_eq_none (Nat.le_of_not_lt hj)]
          split
          · rfl
          · rfl

theorem le_size_of_bound (h : p.bound? index = some v) : 0 < index ∧ index ≤ p.size := by
  cases index with
  | zero => cases h
  | succ i =>
    refine ⟨Nat.zero_lt_succ i, Nat.succ_le_of_lt ?_⟩
    apply Nat.lt_of_not_le
    intro hle
    rw [bound?, List.getElem?_eq_none hle] at h
    cases h

theorem Trimmed.call (h : p.Trimmed) (c : Call) : (p.call c).2.Trimmed := by
  cases c with
  | clear =>
    intro hpos
    cases hpos
  | set index v =>
    cases index with
    | zero => exact h
    | succ i =>
      intro _
      rw [size_set, bound?_set]
      by_cases hi : p.size ≤ i + 1
      · exact ⟨v, if_pos ⟨(Nat.max_eq_right hi).symm, Nat.zero_lt_succ i⟩⟩
      · rw [Nat.max_eq_left (by omega), if_neg (by omega)]
        exact h (by omega)

theorem Trimmed.callAll (h : p.Trimmed) (calls : List Call) : (p.callAll calls).Trimmed := by
  induction calls generalizing p with
  | nil => exact h
  | cons c calls ih => exact ih (h.call c)

theorem trimmed_empty : empty.Trimmed := by
  intro hpos
  cases hpos

theorem bound?_ofValues (values : List Value) (i : Nat) :
    (ofValues values).bound? (i + 1) = values[i]? := by
  rw [ofValues, bound?, List.getElem?_map]
  cases values[i]? with
  | none => rfl
  | some v => rfl

theorem trimmed_ofValues (values : List Value) : (ofValues values).Trimmed := by
  intro hpos
  have hsize : (ofValues values).size = values.length := List.length_map some
  rw [hsize] at hpos ⊢
  obtain ⟨i, hi⟩ : ∃ i, values.length = i + 1 := ⟨values.length - 1, by omega⟩
  rw [hi, bound?_ofValues]
  exact ⟨values[i], List.getElem?_eq_getElem _⟩

theorem size_le_of_bound (hp : p.Trimmed) (h : ∀ index, p.bound? index = q.bound? index) :
    p.size ≤ q.size := by
  by_cases hpos : 0 < p.size
  · obtain ⟨v, hv⟩ := hp hpos
    rw [h] at hv
    exact (le_size_of_bound hv).2
  · omega

/-- Nothing but the values at the indexes can be told of parameters. -/
theorem Trimmed.eq_of_bound (hp : p.Trimmed) (hq : q.Trimmed)
    (h : ∀ index, p.bound? index = q.bound? index) : p = q := by
  have hsize : p.slots.length = q.slots.length :=
    Nat.le_antisymm (size_le_of_bound hp h) (size_le_of_bound hq fun index => (h index).symm)
  have hslots : p.slots = q.slots := by
    apply List.ext_getElem hsize
    intro i hi hi'
    have hsame := h (i + 1)
    simp only [bound?, List.getElem?_eq_getElem hi, List.getElem?_eq_getElem hi'] at hsame
    exact hsame
  cases p
  cases q
  exact congrArg Parameters.mk hslots

section LastSet

theorem not_leaves_clear (index : Nat) : ¬Call.Leaves index .clear :=
  fun h => h.1 rfl

theorem leaves_set_iff (index i : Nat) (w : Value) : Call.Leaves index (.set i w) ↔ i ≠ index := by
  constructor
  · rintro ⟨-, hset⟩ rfl
    exact hset w rfl
  · intro hi
    exact ⟨nofun, fun w' h => hi (Call.set.inj h).1⟩

theorem lastSet_append (calls : List Call) (c : Call) (index : Nat) (v : Value) :
    LastSet (calls ++ [c]) index v ↔
      (0 < index ∧ c = .set index v) ∨ (c.Leaves index ∧ LastSet calls index v) := by
  constructor
  · intro h
    rcases (latest_append calls _ c).mp h.latest with rfl | ⟨hleaves, hlatest⟩
    · exact .inl ⟨h.placed, rfl⟩
    · exact .inr ⟨hleaves, h.placed, hlatest⟩
  · rintro (⟨hplaced, rfl⟩ | ⟨hleaves, hplaced, hlatest⟩)
    · exact ⟨hplaced, (latest_append calls _ _).mpr (.inl rfl)⟩
    · exact ⟨hplaced, (latest_append calls _ c).mpr (.inr ⟨hleaves, hlatest⟩)⟩

/-- After every call the value at an index is the one that was last set there. -/
theorem bound?_callAll (calls : List Call) (index : Nat) (v : Value) :
    (empty.callAll calls).bound? index = some v ↔ LastSet calls index v := by
  induction calls using List.reverseRecOn with
  | nil =>
    constructor
    · intro h
      cases index with
      | zero => cases h
      | succ i => cases h
    · intro h
      exact absurd h.latest (not_latest_nil _)
  | append_singleton calls c ih =>
    rw [lastSet_append, ← ih, callAll, List.foldl_append]
    change ((empty.callAll calls).call c).2.bound? index = some v ↔ _
    cases c with
    | clear =>
      cases index with
      | zero => simp [bound?, not_leaves_clear]
      | succ i => simp [call, clear, bound?, not_leaves_clear]
    | set i w =>
      rw [bound?_set]
      by_cases hi : i = index
      · subst hi
        by_cases hpos : 0 < i
        · simp [hpos, leaves_set_iff]
        · obtain rfl : i = 0 := by omega
          simp [bound?]
      · simp [hi, leaves_set_iff]

theorem bound_iff (calls : List Call) (index : Nat) :
    Bound calls index ↔ ∃ v, (empty.callAll calls).bound? index = some v :=
  exists_congr fun v => (bound?_callAll calls index v).symm

theorem FirstGap.unique {i j : Nat} (hi : FirstGap calls i) (hj : FirstGap calls j) : i = j := by
  rcases Nat.lt_trichotomy i j with hlt | rfl | hlt
  · exact absurd (hj.first i hi.placed hlt) hi.unbound
  · rfl
  · exact absurd (hi.first j hj.placed hlt) hj.unbound

end LastSet

section Values

/-- All slots have values, or there is a first that has none. -/
theorem valuesFrom_cases (index : Nat) (slots : List (Option Value)) :
    (∃ values : List Value, slots = values.map some ∧ valuesFrom index slots = .ok values) ∨
      ∃ (values : List Value) (back : List (Option Value)),
        slots = values.map some ++ none :: back ∧ valuesFrom index slots =
          .error (.query s!"parameter {index + values.length} is not bound" none) := by
  induction slots generalizing index with
  | nil => exact .inl ⟨[], rfl, rfl⟩
  | cons slot slots ih =>
    cases slot with
    | none => exact .inr ⟨[], slots, rfl, rfl⟩
    | some v =>
      rcases ih (index + 1) with ⟨values, rfl, hvalues⟩ | ⟨values, back, rfl, hvalues⟩
      · refine .inl ⟨v :: values, rfl, ?_⟩
        rw [valuesFrom, hvalues]
        rfl
      · refine .inr ⟨v :: values, back, rfl, ?_⟩
        rw [valuesFrom, hvalues, List.length_cons, Nat.add_right_comm, Nat.add_assoc]
        rfl

theorem values_ofValues (values : List Value) : (ofValues values).values = .ok values := by
  have hfrom : ∀ index, valuesFrom index (values.map some) = .ok values := by
    induction values with
    | nil => exact fun index => rfl
    | cons v values ih =>
      intro index
      rw [List.map_cons, valuesFrom, ih]
      rfl
  exact hfrom 1

theorem values_eq_ok_iff (p : Parameters) (values : List Value) :
    p.values = .ok values ↔ p = ofValues values := by
  constructor
  · intro h
    rcases valuesFrom_cases 1 p.slots with ⟨values', hslots, hvalues⟩ | ⟨values', back, -, hvalues⟩
    · obtain rfl := Except.ok.inj (hvalues.symm.trans h)
      exact congrArg Parameters.mk hslots
    · cases hvalues.symm.trans h
  · rintro rfl
    exact values_ofValues values

/-- The values are given, or the first gap is named. -/
theorem values_cases (calls : List Call) :
    (∃ values, empty.callAll calls = ofValues values) ∨
      ∃ gap, FirstGap calls gap ∧ (empty.callAll calls).values =
        .error (.query s!"parameter {gap} is not bound" none) := by
  have htrimmed : (empty.callAll calls).Trimmed := trimmed_empty.callAll calls
  have hbound := bound_iff calls
  generalize empty.callAll calls = p at htrimmed hbound ⊢
  rcases valuesFrom_cases 1 p.slots with ⟨values, hslots, -⟩ | ⟨values, back, hslots, hvalues⟩
  · exact .inl ⟨values, congrArg Parameters.mk hslots⟩
  · refine .inr ⟨1 + values.length, ?_, hvalues⟩
    have hgap : p.bound? (1 + values.length) = none := by
      rw [Nat.add_comm, bound?, hslots, List.getElem?_append_right (by simp)]
      simp
    have hsize : 1 + values.length ≤ p.size := by
      rw [size, hslots, List.length_append, List.length_map, List.length_cons]
      omega
    refine ⟨by omega, ?_, ?_, p.size, ?_, (hbound p.size).mpr (htrimmed (by omega))⟩
    · rintro hv
      obtain ⟨v, hv⟩ := (hbound _).mp hv
      cases hgap.symm.trans hv
    · intro i hpos hi
      obtain ⟨i, rfl⟩ : ∃ k, i = k + 1 := ⟨i - 1, by omega⟩
      have hlt : i < values.length := by omega
      refine (hbound _).mpr ⟨values[i], ?_⟩
      rw [bound?, hslots, List.getElem?_append_left (by simpa using hlt)]
      simp [hlt]
    · -- the last slot has a value, so the gap is not there
      apply Nat.lt_of_le_of_ne hsize
      intro hlast
      obtain ⟨v, hv⟩ := htrimmed (by omega)
      rw [← hlast, hgap] at hv
      cases hv

theorem bound_ofValues {values : List Value} (h : empty.callAll calls = ofValues values)
    (index : Nat) : Bound calls index ↔ 0 < index ∧ index ≤ values.length := by
  rw [bound_iff, h]
  cases index with
  | zero => simp [bound?]
  | succ i =>
    rw [bound?_ofValues]
    constructor
    · rintro ⟨v, hv⟩
      exact ⟨Nat.zero_lt_succ i, (List.getElem?_eq_some_iff.mp hv).1⟩
    · rintro ⟨-, hi⟩
      exact ⟨values[i], List.getElem?_eq_getElem hi⟩

theorem not_firstGap_ofValues {values : List Value} (h : empty.callAll calls = ofValues values)
    (gap : Nat) : ¬FirstGap calls gap := by
  rintro ⟨hplaced, hunbound, -, i, hi, hbound⟩
  have hlast := ((bound_ofValues h i).mp hbound).2
  exact hunbound ((bound_ofValues h gap).mpr ⟨hplaced, by omega⟩)

theorem values_ok_iff (calls : List Call) (values : List Value) :
    (empty.callAll calls).values = .ok values ↔
      ∀ index v, LastSet calls index v ↔ 0 < index ∧ values[index - 1]? = some v := by
  have hplaced : ∀ index v, (ofValues values).bound? index = some v ↔
      0 < index ∧ values[index - 1]? = some v := by
    intro index v
    cases index with
    | zero => simp [bound?]
    | succ i => simp [bound?_ofValues]
  rw [values_eq_ok_iff]
  constructor
  · intro hall index v
    rw [← bound?_callAll, hall, hplaced]
  · intro h
    apply (trimmed_empty.callAll calls).eq_of_bound (trimmed_ofValues values)
    intro index
    apply Option.ext
    intro v
    rw [bound?_callAll, h, hplaced]

theorem values_error_iff (calls : List Call) (e : Error) :
    (empty.callAll calls).values = .error e ↔
      ∃ gap, FirstGap calls gap ∧ e = .query s!"parameter {gap} is not bound" none := by
  rcases values_cases calls with ⟨values, hall⟩ | ⟨gap, hfirst, hgap⟩
  · constructor
    · intro h
      rw [hall, values_ofValues] at h
      cases h
    · rintro ⟨gap, hfirst, -⟩
      exact absurd hfirst (not_firstGap_ofValues hall gap)
  · constructor
    · intro h
      exact ⟨gap, hfirst, Except.error.inj (h.symm.trans hgap)⟩
    · rintro ⟨gap', hfirst', rfl⟩
      rw [hfirst'.unique hfirst, hgap]

theorem values_isOk_iff (calls : List Call) :
    (∃ values, (empty.callAll calls).values = .ok values) ↔
      ∃ n, ∀ index, Bound calls index ↔ 0 < index ∧ index ≤ n := by
  constructor
  · rintro ⟨values, h⟩
    exact ⟨values.length, bound_ofValues ((values_eq_ok_iff _ _).mp h)⟩
  · rintro ⟨n, hn⟩
    rcases values_cases calls with ⟨values, hall⟩ | ⟨gap, hfirst, -⟩
    · exact ⟨values, by rw [hall, values_ofValues]⟩
    · obtain ⟨hplaced, hunbound, -, i, hi, hbound⟩ := hfirst
      have hlast := ((hn i).mp hbound).2
      exact absurd ((hn gap).mpr ⟨hplaced, by omega⟩) hunbound

end Values

theorem beq_empty_iff (p : Parameters) : (p == empty) = true ↔ p.size = 0 := by
  obtain ⟨slots⟩ := p
  cases slots with
  | nil => exact ⟨fun _ => rfl, fun _ => rfl⟩
  | cons slot slots => exact ⟨nofun, nofun⟩

theorem size_eq_zero_iff (calls : List Call) :
    (empty.callAll calls).size = 0 ↔ ∀ index, ¬Bound calls index := by
  constructor
  · intro hsize index hbound
    obtain ⟨v, hv⟩ := (bound_iff calls index).mp hbound
    have hle := le_size_of_bound hv
    omega
  · intro hnone
    apply Nat.eq_zero_of_not_pos
    intro hpos
    exact hnone _ ((bound_iff calls _).mpr (trimmed_empty.callAll calls hpos))

/-- The order of two values matters only where they are set at one index. -/
theorem Trimmed.set_comm (h : p.Trimmed) {i j : Nat} (hij : i ≠ j) (v w : Value) :
    ((p.call (.set i v)).2.call (.set j w)).2 = ((p.call (.set j w)).2.call (.set i v)).2 := by
  apply ((h.call _).call _).eq_of_bound ((h.call _).call _)
  intro index
  rw [bound?_set, bound?_set, bound?_set, bound?_set]
  by_cases hi : i = index
  · subst hi
    simp [Ne.symm hij]
  · simp [hi]

/-- After any calls, the values are given if and only if the bound indexes are those from one up to
some number, each value at the index where it was set last; else the smallest index that was left
out is named. The size is the highest bound index, parameters without any are as new, and values
for different placeholders may be set in any order. -/
theorem last_values_are_given_in_order (calls : List Call) :
    let p := empty.callAll calls
    ((∃ values, p.values = .ok values) ↔
        ∃ n, ∀ index, Bound calls index ↔ 0 < index ∧ index ≤ n) ∧
      (∀ values, p.values = .ok values ↔
        ∀ index v, LastSet calls index v ↔ 0 < index ∧ values[index - 1]? = some v) ∧
      (∀ e, p.values = .error e ↔
        ∃ gap, FirstGap calls gap ∧ e = .query s!"parameter {gap} is not bound" none) ∧
      ((∀ index, Bound calls index → index ≤ p.size) ∧ (0 < p.size → Bound calls p.size)) ∧
      (p.isEmpty = true ↔ ∀ index, ¬Bound calls index) ∧
      ((p == empty) = true ↔ ∀ index, ¬Bound calls index) ∧
      (p = empty ↔ ∀ index, ¬Bound calls index) ∧
      (∀ index v, (p.call (.set index v)).1 =
        if index = 0 then .error (.query "parameter indexes start at 1" none) else .ok ()) ∧
      (∀ v, (p.call (.set 0 v)).2 = p) ∧
      ∀ i j v w, i ≠ j →
        ((p.call (.set i v)).2.call (.set j w)).2 = ((p.call (.set j w)).2.call (.set i v)).2 := by
  intro p
  have htrimmed : p.Trimmed := trimmed_empty.callAll calls
  have hnone : p.size = 0 ↔ ∀ index, ¬Bound calls index := size_eq_zero_iff calls
  refine ⟨values_isOk_iff calls, values_ok_iff calls, values_error_iff calls, ⟨?_, ?_⟩, ?_, ?_, ?_,
    answer_set p, fun v => rfl, fun i j v w hij => htrimmed.set_comm hij v w⟩
  · intro index hbound
    obtain ⟨v, hv⟩ := (bound_iff calls index).mp hbound
    exact (le_size_of_bound hv).2
  · intro hpos
    exact (bound_iff calls _).mpr (htrimmed hpos)
  · rw [← hnone, isEmpty, List.isEmpty_iff_length_eq_zero, size]
  · rw [beq_empty_iff, hnone]
  · rw [← hnone]
    constructor
    · intro hempty
      rw [hempty]
      rfl
    · intro hsize
      exact congrArg Parameters.mk (List.eq_nil_of_length_eq_zero hsize)

/-- Values that are set again and out of order, after some that were unbound. -/
theorem last_values_are_given_in_order_refilled :
    let calls : List Call := [.set 4 (.bool true), .set 1 .null, .clear, .set 2 (.int32 7),
      .set 0 .null, .set 1 (.int32 1), .set 2 (.int32 2)]
    let p := empty.callAll calls
    p.values = .ok [.int32 1, .int32 2] ∧ LastSet calls 2 (.int32 2) ∧ ¬Bound calls 4 := by
  intro calls p
  have hvalues : p.values = .ok [.int32 1, .int32 2] := rfl
  obtain ⟨-, hok, -, hsize, -⟩ := last_values_are_given_in_order calls
  have hlast := (hok _).mp hvalues
  refine ⟨hvalues, (hlast _ _).mpr ⟨Nat.zero_lt_two, rfl⟩, fun hbound => ?_⟩
  exact absurd (hsize.1 4 hbound) (by decide)

end BatchSql.Parameters
