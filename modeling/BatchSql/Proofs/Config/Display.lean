import BatchSql.DisplayData
import BatchSql.Proofs.Latest
import Mathlib.Data.Finset.Card
import Mathlib.Data.List.Induction

namespace BatchSql.DisplayData

/-- A value to be shown under a key, or one that may be missing. -/
inductive Call where
  | add (key value : String)
  | addIfSome (key : String) (value : Option String)

/-- The key and the value that a call adds. -/
def Call.added? : Call → Option (String × String)
  | .add key value => some (key, value)
  | .addIfSome key value => value.map (Prod.mk key)

def call (d : DisplayData) : Call → DisplayData
  | .add key value => d.add key value
  | .addIfSome key value => d.addIfSome key value

def callAll (d : DisplayData) (calls : List Call) : DisplayData :=
  calls.foldl call d

def keys (d : DisplayData) : List String :=
  d.items.map Prod.fst

/-- The value was added under the key, and no other one after it. -/
def LastAdded (added : List (String × String)) (key value : String) : Prop :=
  Latest (fun e => e.1 ≠ key) added (key, value)

/-- One key stands before another where it was added first. -/
def Sooner (added : List (String × String)) (a b : String) : Prop :=
  (added.map Prod.fst).idxOf a < (added.map Prod.fst).idxOf b

/-- All that was added and nothing else is shown. -/
structure Shows (d : DisplayData) (added : List (String × String)) : Prop where
  keys : ∀ key, key ∈ d.keys ↔ key ∈ added.map Prod.fst
  ordered : d.keys.Pairwise (Sooner added)
  last : ∀ key value, d.get? key = some value ↔ LastAdded added key value

variable {d : DisplayData} {added : List (String × String)} {key value : String}

theorem get?_add (d : DisplayData) (key value other : String) :
    (d.add key value).get? other = if key = other then some value else d.get? other :=
  Assoc.get?_put key other value d.items

theorem keys_add_of_mem (h : key ∈ d.keys) (value : String) : (d.add key value).keys = d.keys :=
  Assoc.keys_put_of_mem value h

theorem keys_add_of_notMem (h : key ∉ d.keys) (value : String) :
    (d.add key value).keys = d.keys ++ [key] := by
  rw [keys, add, Assoc.put_of_notMem value h, List.map_append]
  rfl

/-- No key moves. -/
theorem keys_prefix_add (d : DisplayData) (key value : String) :
    d.keys <+: (d.add key value).keys := by
  by_cases h : key ∈ d.keys
  · rw [keys_add_of_mem h]
  · rw [keys_add_of_notMem h]
    exact List.prefix_append _ _

theorem call_eq (d : DisplayData) (c : Call) :
    d.call c = match c.added? with
      | some (key, value) => d.add key value
      | none => d := by
  cases c with
  | add key value => rfl
  | addIfSome key value =>
    cases value with
    | none => rfl
    | some value => rfl

theorem lastAdded_append (added : List (String × String)) (k v key value : String) :
    LastAdded (added ++ [(k, v)]) key value ↔
      if k = key then v = value else LastAdded added key value := by
  rw [LastAdded, latest_append]
  by_cases hk : k = key
  · simp [hk]
  · simp [hk, LastAdded]

/-- What was added before keeps its place. -/
theorem Sooner.append {a b : String} (h : Sooner added a b) (hb : b ∈ added.map Prod.fst)
    (e : String × String) : Sooner (added ++ [e]) a b := by
  have ha : a ∈ added.map Prod.fst :=
    List.idxOf_lt_length_iff.mp (Nat.lt_trans h (List.idxOf_lt_length_of_mem hb))
  rw [Sooner, List.map_append, List.idxOf_append_of_mem ha, List.idxOf_append_of_mem hb]
  exact h

theorem sooner_new {a : String} (ha : a ∈ added.map Prod.fst) (hk : key ∉ added.map Prod.fst)
    (value : String) : Sooner (added ++ [(key, value)]) a key := by
  rw [Sooner, List.map_append, List.idxOf_append_of_mem ha, List.idxOf_append_of_notMem hk]
  exact Nat.lt_add_right _ (List.idxOf_lt_length_of_mem ha)

theorem shows_empty : empty.Shows [] := by
  refine ⟨fun key => Iff.rfl, List.Pairwise.nil, fun key value => ⟨nofun, fun h => ?_⟩⟩
  exact absurd h (not_latest_nil _)

theorem Shows.add (h : d.Shows added) (key value : String) :
    (d.add key value).Shows (added ++ [(key, value)]) := by
  have hordered : d.keys.Pairwise (Sooner (added ++ [(key, value)])) :=
    h.ordered.imp_of_mem fun _ hb hs => hs.append ((h.keys _).mp hb) _
  refine ⟨fun other => ?_, ?_, fun other v => ?_⟩
  · rw [List.map_append, List.mem_append, ← h.keys]
    exact (Assoc.mem_keys_put key other value d.items).trans
      (or_congr_right List.mem_singleton.symm)
  · by_cases hk : key ∈ d.keys
    · rw [keys_add_of_mem hk]
      exact hordered
    · have hnew : key ∉ added.map Prod.fst := fun hmem => hk ((h.keys key).mpr hmem)
      rw [keys_add_of_notMem hk, List.pairwise_append]
      refine ⟨hordered, List.pairwise_singleton _ _, fun a ha b hb => ?_⟩
      rw [List.mem_singleton.mp hb]
      exact sooner_new ((h.keys a).mp ha) hnew value
  · rw [get?_add, lastAdded_append, ← h.last]
    split
    · exact Option.some_inj
    · exact Iff.rfl

/-- What is shown after any calls is what they added. -/
theorem shows_callAll (calls : List Call) :
    (empty.callAll calls).Shows (calls.filterMap Call.added?) := by
  induction calls using List.reverseRecOn with
  | nil => exact shows_empty
  | append_singleton calls c ih =>
    rw [callAll, List.foldl_append, List.filterMap_append]
    change ((empty.callAll calls).call c).Shows _
    rw [call_eq]
    cases hc : c.added? with
    | none => simpa [hc] using ih
    | some e =>
      obtain ⟨key, value⟩ := e
      simpa [hc] using ih.add key value

theorem Shows.nodup (h : d.Shows added) : d.keys.Nodup :=
  h.ordered.imp fun hs heq => absurd hs (by rw [heq]; exact Nat.lt_irrefl _)

theorem Shows.get?_eq_none_iff (h : d.Shows added) (key : String) :
    d.get? key = none ↔ key ∉ added.map Prod.fst := by
  rw [← h.keys]
  exact Assoc.get?_eq_none_iff key d.items

theorem Shows.size_eq (h : d.Shows added) : d.size = (added.map Prod.fst).toFinset.card := by
  have hkeys : d.keys.toFinset = (added.map Prod.fst).toFinset := by
    ext key
    rw [List.mem_toFinset, List.mem_toFinset, h.keys]
  rw [← hkeys, List.toFinset_card_of_nodup h.nodup, DisplayData.keys, List.length_map, size]

/-- The text tells every key in its place, with the value added last under it. -/
theorem Shows.text_eq (h : d.Shows added) : ∃ value : String → String,
    (∀ key ∈ d.keys, LastAdded added key (value key)) ∧
      d.text = ", ".intercalate (d.keys.map fun key => key ++ "=" ++ value key) := by
  have hitem : ∀ item ∈ d.items, d.get? item.1 = some item.2 := fun item hitem =>
    (Assoc.mem_iff_get? h.nodup item.1 item.2).mp hitem
  refine ⟨fun key => (d.get? key).getD "", fun key hkey => ?_, ?_⟩
  · obtain ⟨item, hmem, rfl⟩ := List.mem_map.mp hkey
    have hfound := hitem item hmem
    simp only [hfound]
    exact (h.last _ _).mp hfound
  · rw [text, DisplayData.keys, List.map_map]
    apply congrArg
    apply List.map_congr_left
    intro item hmem
    simp [hitem item hmem]

/-- Display data are what was added to them: every key once, in the order in which the keys came
first, with the value that came last. Adding a value changes no other one and moves no key. -/
theorem display_shows_what_was_added (calls : List Call) :
    let d := empty.callAll calls
    let added := calls.filterMap Call.added?
    d.keys.Nodup ∧
      (∀ key, key ∈ d.keys ↔ key ∈ added.map Prod.fst) ∧
      d.keys.Pairwise (Sooner added) ∧
      (∀ key value, d.get? key = some value ↔ LastAdded added key value) ∧
      (∀ key, d.get? key = none ↔ key ∉ added.map Prod.fst) ∧
      d.size = (added.map Prod.fst).toFinset.card ∧
      (∃ value : String → String, (∀ key ∈ d.keys, LastAdded added key (value key)) ∧
        d.text = ", ".intercalate (d.keys.map fun key => key ++ "=" ++ value key)) ∧
      ∀ key value, d.keys <+: (d.add key value).keys ∧
        ∀ other, other ≠ key → (d.add key value).get? other = d.get? other := by
  intro d added
  have h : d.Shows added := shows_callAll calls
  refine ⟨h.nodup, h.keys, h.ordered, h.last, h.get?_eq_none_iff, h.size_eq, h.text_eq, ?_⟩
  intro key value
  refine ⟨d.keys_prefix_add key value, fun other hother => ?_⟩
  rw [get?_add, if_neg (Ne.symm hother)]

/-- A key that is added again stays first, and one without a value is not shown. -/
example : ((((empty.add "query" "SELECT 1").add "batch_size" "1000").addIfSome "username" none).add
    "query" "SELECT 2").text = "query=SELECT 2, batch_size=1000" := by
  decide

end BatchSql.DisplayData
