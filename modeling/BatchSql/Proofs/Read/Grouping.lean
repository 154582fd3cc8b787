import BatchSql.Proofs.Read.Passage
import Mathlib.Data.List.Induction

namespace BatchSql

/-- The encodings under a key, in the order in which they came. -/
def valuesOf (records : List Keyed) (key : UInt32) : List Octets :=
  (records.filter fun record => record.1 = key).map Prod.snd

/-- The records of groups, each under its key. -/
def ungroup (groups : List Group) : List Keyed :=
  groups.flatMap fun g => g.2.map (Prod.mk g.1)

/-- Every key of the records once, and with it all that came under it. -/
structure Grouped (groups : List Group) (records : List Keyed) : Prop where
  nodup : (groups.map Prod.fst).Nodup
  keys : ∀ key, key ∈ groups.map Prod.fst ↔ key ∈ records.map Prod.fst
  values : ∀ g ∈ groups, g.2 = valuesOf records g.1

variable {groups : List Group} {records : List Keyed} {key : UInt32}

theorem valuesOf_append (records more : List Keyed) (key : UInt32) :
    valuesOf (records ++ more) key = valuesOf records key ++ valuesOf more key := by
  rw [valuesOf, List.filter_append, List.map_append]
  rfl

theorem valuesOf_eq_nil_iff (records : List Keyed) (key : UInt32) :
    valuesOf records key = [] ↔ key ∉ records.map Prod.fst := by
  rw [valuesOf, List.map_eq_nil_iff, List.filter_eq_nil_iff]
  simp only [decide_eq_true_eq, List.mem_map, not_exists, not_and]

/-- The encodings under a key, each with the key again. -/
theorem map_valuesOf (records : List Keyed) (key : UInt32) :
    (valuesOf records key).map (Prod.mk key) = records.filter fun record => record.1 = key := by
  rw [valuesOf, List.map_map]
  conv_rhs => rw [← List.map_id (records.filter _)]
  apply List.map_congr_left
  intro record hrecord
  have hkey : record.1 = key := by simpa using (List.mem_filter.mp hrecord).2
  simp [← hkey]

/-- Records under other keys do not count. -/
theorem valuesOf_filter_ne {k : UInt32} (h : k ≠ key) (records : List Keyed) :
    valuesOf (records.filter fun record => !decide (record.1 = key)) k = valuesOf records k := by
  rw [valuesOf, valuesOf, List.filter_filter]
  congr 1
  apply List.filter_congr
  intro record _
  by_cases hk : record.1 = k
  · simp [hk, h]
  · simp [hk]

/-- What is under a key is all that came under it, or nothing is. -/
theorem Grouped.get?_eq (h : Grouped groups records) (key : UInt32) :
    (Assoc.get? key groups).getD [] = valuesOf records key := by
  cases hfound : Assoc.get? key groups with
  | none =>
    rw [Assoc.get?_eq_none_iff, h.keys, ← valuesOf_eq_nil_iff] at hfound
    exact hfound.symm
  | some values => exact h.values _ ((Assoc.mem_iff_get? h.nodup key values).mpr hfound)

theorem grouped_nil : Grouped [] [] :=
  ⟨List.nodup_nil, fun _ => Iff.rfl, fun _ hg => absurd hg List.not_mem_nil⟩

theorem Grouped.add (h : Grouped groups records) (record : Keyed) :
    Grouped (addToGroup groups record) (records ++ [record]) := by
  have hnodup := Assoc.nodup_put h.nodup record.1
    ((Assoc.get? record.1 groups).getD [] ++ [record.2])
  refine ⟨hnodup, fun key => ?_, ?_⟩
  · rw [List.map_append, List.mem_append, ← h.keys]
    exact (Assoc.mem_keys_put _ _ _ _).trans (or_congr_right List.mem_singleton.symm)
  · intro ⟨key, values⟩ hg
    have hfound := (Assoc.mem_iff_get? hnodup key values).mp hg
    rw [Assoc.get?_put, h.get?_eq] at hfound
    rw [valuesOf_append]
    by_cases hk : record.1 = key
    · rw [if_pos hk, hk] at hfound
      rw [← Option.some.inj hfound]
      simp [valuesOf, hk]
    · rw [if_neg hk, ← Assoc.mem_iff_get? h.nodup] at hfound
      rw [h.values _ hfound]
      simp [valuesOf, hk]

/-- Records that are grouped one by one are grouped. -/
theorem grouped_groupByKey (records : List Keyed) : Grouped (groupByKey records) records := by
  induction records using List.reverseRecOn with
  | nil => exact grouped_nil
  | append_singleton records record ih =>
    rw [groupByKey, List.foldl_append]
    exact ih.add record

theorem Grouped.perm {groups' : List Group} (h : Grouped groups records)
    (hperm : groups'.Perm groups) : Grouped groups' records where
  nodup := (hperm.map Prod.fst).nodup_iff.mpr h.nodup
  keys key := (hperm.map Prod.fst).mem_iff.trans (h.keys key)
  values g hg := h.values g (hperm.mem_iff.mp hg)

/-- Without the records of its first group, records are grouped by the others. -/
theorem Grouped.tail {g : Group} (h : Grouped (g :: groups) records) :
    Grouped groups (records.filter fun record => !decide (record.1 = g.1)) := by
  obtain ⟨hg, hnodup⟩ := List.nodup_cons.mp h.nodup
  refine ⟨hnodup, fun key => ?_, fun g' hg' => ?_⟩
  · have hkeys : key = g.1 ∨ key ∈ groups.map Prod.fst ↔ key ∈ records.map Prod.fst := by
      rw [← h.keys, List.map_cons, List.mem_cons]
    constructor
    · intro hkey
      have hne : key ≠ g.1 := fun he => hg (he ▸ hkey)
      obtain ⟨record, hrecord, rfl⟩ := List.mem_map.mp (hkeys.mp (Or.inr hkey))
      exact List.mem_map_of_mem (List.mem_filter.mpr ⟨hrecord, by simp [hne]⟩)
    · intro hkey
      obtain ⟨record, hrecord, rfl⟩ := List.mem_map.mp hkey
      obtain ⟨hmem, hne⟩ := List.mem_filter.mp hrecord
      exact (hkeys.mpr (List.mem_map_of_mem hmem)).resolve_left (by simpa using hne)
  · have hne : g'.1 ≠ g.1 := fun he => hg (he ▸ List.mem_map_of_mem hg')
    rw [valuesOf_filter_ne hne]
    exact h.values g' (List.mem_cons_of_mem g hg')

/-- No record is lost, comes twice or changes its key. -/
theorem Grouped.ungroup_perm (h : Grouped groups records) : (ungroup groups).Perm records := by
  -- the records of the first key are split off, and the other groups hold those that are left
  induction groups generalizing records with
  | nil =>
    have hnone : records.map Prod.fst = [] :=
      List.eq_nil_iff_forall_not_mem.mpr fun key hkey => absurd ((h.keys key).mpr hkey) nofun
    rw [List.map_eq_nil_iff.mp hnone]
    exact List.Perm.refl _
  | cons g groups ih =>
    have hfirst : g.2.map (Prod.mk g.1) = records.filter fun record => record.1 = g.1 := by
      rw [h.values g List.mem_cons_self, map_valuesOf]
    rw [ungroup, List.flatMap_cons, hfirst]
    exact ((ih h.tail).append_left _).trans (List.filter_append_perm _ records)

theorem Grouped.flatMap_snd_perm (h : Grouped groups records) :
    (groups.flatMap Prod.snd).Perm (records.map Prod.snd) := by
  have hvalues : groups.flatMap Prod.snd = (ungroup groups).map Prod.snd := by
    simp [ungroup, List.map_flatMap, Function.comp_def]
  rw [hvalues]
  exact h.ungroup_perm.map Prod.snd

/-- A host that groups by key, in whatever order, gives back the records that it groups. -/
theorem Host.permuting_of_groupByKey {η τ : Type} {host : Host η τ}
    (hgroup : ∀ records t groups t', (host.group records).run.run t = (.ok groups, t') →
      groups.Perm (groupByKey records))
    (hemit : ∀ record t e t', (host.emit record).run.run t ≠ (.error e, t')) :
    host.Permuting where
  group records t groups t' h :=
    ((grouped_groupByKey records).perm (hgroup records t groups t' h)).flatMap_snd_perm
  emit := hemit

/-- In whatever order the groups come, each key of the records comes once and no other key does,
its group is all that came under it, in the order in which it came, and the groups together hold
the records, each under its key. -/
theorem groups_hold_the_records_of_their_keys (records : List Keyed) (groups : List Group)
    (h : groups.Perm (groupByKey records)) :
    (groups.map Prod.fst).Nodup ∧
      (∀ key, key ∈ groups.map Prod.fst ↔ key ∈ records.map Prod.fst) ∧
      (∀ g ∈ groups, g.2 ≠ [] ∧ g.2 = valuesOf records g.1) ∧
      (ungroup groups).Perm records ∧
      (groups.flatMap Prod.snd).Perm (records.map Prod.snd) := by
  have hgrouped : Grouped groups records := (grouped_groupByKey records).perm h
  refine ⟨hgrouped.nodup, hgrouped.keys, fun g hg => ⟨fun hnil => ?_, hgrouped.values g hg⟩,
    hgrouped.ungroup_perm, hgrouped.flatMap_snd_perm⟩
  rw [hgrouped.values g hg, valuesOf_eq_nil_iff, ← hgrouped.keys] at hnil
  exact hnil (List.mem_map_of_mem hg)

/-- Three records under two keys, whose groups come the other way round. -/
theorem groups_hold_the_records_of_their_keys_reversed :
    let records : List Keyed := [(1, [10]), (2, [20]), (1, [30])]
    let groups : List Group := [(2, [[20]]), (1, [[10], [30]])]
    groups.Perm (groupByKey records) ∧
      (∀ g ∈ groups, g.2 ≠ [] ∧ g.2 = valuesOf records g.1) ∧
      (ungroup groups).Perm records := by
  intro records groups
  have hperm : groups.Perm (groupByKey records) := by decide
  obtain ⟨-, -, hvalues, hungroup, -⟩ := groups_hold_the_records_of_their_keys records groups hperm
  exact ⟨hperm, hvalues, hungroup⟩

end BatchSql
