import BatchSql.Row

namespace BatchSql.Row

open Text

/-- The first column that bears a name in letters of any case, and what stands before it. -/
structure FirstAlike (r : Row) (name : String) (front : List (String × Value)) (column : String)
    (v : Value) : Prop where
  cut : ∃ back, r.cells = front ++ (column, v) :: back
  alike : eqIgnoreCase column name = true
  first : ∀ cell ∈ front, eqIgnoreCase cell.1 name = false

/-- The last column of exactly this name, and what stands before it. -/
structure LastNamed (r : Row) (name : String) (front : List (String × Value)) (v : Value) :
    Prop where
  cut : ∃ back, r.cells = front ++ (name, v) :: back ∧ name ∉ back.map Prod.fst

variable {r : Row} {name column : String} {front front' : List (String × Value)} {v v' : Value}

theorem eqIgnoreCase_self (name : String) : eqIgnoreCase name name = true :=
  beq_self_eq_true _

theorem exists_firstAlike (h : name ∈ r.columns) :
    ∃ front column v, r.FirstAlike name front column v ∧ r.getByName? name = some v := by
  obtain ⟨cell, hcell, rfl⟩ := List.mem_map.mp h
  have hget : r.getByName? cell.1 =
    (r.cells.find? fun c => eqIgnoreCase c.1 cell.1).map Prod.snd := rfl
  have hfound : (r.cells.find? fun c => eqIgnoreCase c.1 cell.1).isSome = true :=
    List.find?_isSome.mpr ⟨cell, hcell, eqIgnoreCase_self _⟩
  obtain ⟨⟨column, v⟩, hfind⟩ := Option.isSome_iff_exists.mp hfound
  obtain ⟨halike, front, back, hcut, hfirst⟩ := List.find?_eq_some_iff_append.mp hfind
  refine ⟨front, column, v, ⟨⟨back, hcut⟩, halike, fun c hc => by simpa using hfirst c hc⟩, ?_⟩
  rw [hget, hfind]
  rfl

theorem exists_lastNamed (h : name ∈ r.columns) : ∃ front v, r.LastNamed name front v := by
  obtain ⟨cells⟩ := r
  change name ∈ cells.map Prod.fst at h
  induction cells with
  | nil => cases h
  | cons cell cells ih =>
    by_cases hlater : name ∈ cells.map Prod.fst
    · obtain ⟨front, v, back, hcut, hlast⟩ := ih hlater
      exact ⟨cell :: front, v, ⟨back, congrArg (cell :: ·) hcut, hlast⟩⟩
    · obtain rfl : name = cell.1 := (List.mem_cons.mp h).resolve_right hlater
      exact ⟨[], cell.2, ⟨cells, rfl, hlater⟩⟩

theorem LastNamed.get?_toMap (h : r.LastNamed name front v) :
    Assoc.get? name r.toMap = some v := by
  obtain ⟨back, hcut, hlast⟩ := h.cut
  have hmap : r.toMap =
      r.cells.foldl (fun entries cell => Assoc.put cell.1 cell.2 entries) [] := rfl
  rw [hmap, hcut, List.foldl_append, List.foldl_cons, Assoc.get?_foldl_put_of_notMem hlast,
    Assoc.get?_put, if_pos rfl]

/-- What stands before the first column that bears the name is all that does not bear it. -/
theorem FirstAlike.front_eq (h : r.FirstAlike name front column v) :
    front = r.cells.takeWhile fun cell => !eqIgnoreCase cell.1 name := by
  obtain ⟨⟨back, hcut⟩, halike, hfirst⟩ := h
  have hfront : ∀ cell ∈ front, (!eqIgnoreCase cell.1 name) = true := by
    intro cell hcell
    rw [hfirst cell hcell]
    rfl
  rw [hcut, List.takeWhile_append_of_pos hfront, List.takeWhile_cons, halike, Bool.not_true,
    if_neg Bool.false_ne_true, List.append_nil]

/-- The last column of a name is the first that bears it if none before it does. -/
theorem LastNamed.front_eq_iff (h : r.LastNamed name front' v')
    (hfirst : r.FirstAlike name front column v) :
    front = front' ↔ ∀ cell ∈ front', eqIgnoreCase cell.1 name = false := by
  constructor
  · rintro rfl
    exact hfirst.first
  · intro hbefore
    obtain ⟨back, hcut, -⟩ := h.cut
    have hlast : r.FirstAlike name front' name v' := ⟨⟨back, hcut⟩, eqIgnoreCase_self name, hbefore⟩
    exact hfirst.front_eq.trans hlast.front_eq.symm

/-- Columns that come after the same ones are the same. -/
theorem LastNamed.same (h : r.LastNamed name front v') (hfirst : r.FirstAlike name front column v) :
    v = v' := by
  obtain ⟨back, hcut, -⟩ := h.cut
  obtain ⟨back', hcut'⟩ := hfirst.cut
  rw [hcut', List.append_cancel_left_eq] at hcut
  exact (Prod.mk.inj (List.cons.inj hcut).1).2

/-- A name finds the first column that bears it in letters of any case, and the entry under it is
the last column of exactly this name. Both are one column if and only if no column before the last
one bears the name, and then the two agree. -/
theorem columns_are_found_by_name (r : Row) {name : String} (h : name ∈ r.columns) :
    ∃ front column first front' last,
      r.FirstAlike name front column first ∧ r.getByName? name = some first ∧
      r.LastNamed name front' last ∧ Assoc.get? name r.toMap = some last ∧
      (front = front' ↔ ∀ cell ∈ front', eqIgnoreCase cell.1 name = false) ∧
      (front = front' → Assoc.get? name r.toMap = r.getByName? name) := by
  obtain ⟨front, column, first, hfirst, hfound⟩ := exists_firstAlike h
  obtain ⟨front', last, hlast⟩ := exists_lastNamed h
  refine ⟨front, column, first, front', last, hfirst, hfound, hlast, hlast.get?_toMap,
    hlast.front_eq_iff hfirst, ?_⟩
  rintro rfl
  rw [hfound, hlast.get?_toMap, hlast.same hfirst]

/-- A name that an earlier column bears in other letters: the two find different columns. -/
theorem columns_are_found_by_name_in_other_letters :
    let r : Row := .ofColumns ["id", "ID", "name"] [.int32 1, .int32 2, .string "Alice"]
    "ID" ∈ r.columns ∧ ∃ front column front',
      r.FirstAlike "ID" front column (.int32 1) ∧ r.LastNamed "ID" front' (.int32 2) ∧
        front ≠ front' := by
  intro r
  have hmem : "ID" ∈ r.columns := by decide
  have hvalues : r.getByName? "ID" = some (.int32 1) ∧
      Assoc.get? "ID" r.toMap = some (.int32 2) := ⟨rfl, rfl⟩
  obtain ⟨front, column, first, front', last, hfirst, hfound, hlast, hentry, -, hagree⟩ :=
    columns_are_found_by_name r hmem
  rw [hvalues.1, hvalues.2] at hagree
  obtain rfl := Option.some.inj (hvalues.1.symm.trans hfound)
  obtain rfl := Option.some.inj (hvalues.2.symm.trans hentry)
  refine ⟨hmem, front, column, front', hfirst, hlast, fun hsame => ?_⟩
  cases hagree hsame

/-- A column whose name is borne by an earlier one is not found by it, but has its entry. -/
theorem repeated_columns_are_found_apart :
    let variants : Row := .ofColumns ["id", "ID"] [.int32 1, .int32 2]
    let repeated : Row := .ofColumns ["id", "id"] [.int32 1, .int32 2]
    "ID" ∈ variants.columns ∧ Assoc.get? "ID" variants.toMap ≠ variants.getByName? "ID" ∧
      "id" ∈ repeated.columns ∧ Assoc.get? "id" repeated.toMap ≠ repeated.getByName? "id" := by
  intro variants repeated
  have hvariants : Assoc.get? "ID" variants.toMap = some (.int32 2) ∧
      variants.getByName? "ID" = some (.int32 1) := ⟨rfl, rfl⟩
  have hrepeated : Assoc.get? "id" repeated.toMap = some (.int32 2) ∧
      repeated.getByName? "id" = some (.int32 1) := ⟨rfl, rfl⟩
  refine ⟨by decide, ?_, by decide, ?_⟩
  · rw [hvariants.1, hvariants.2]
    intro h
    cases h
  · rw [hrepeated.1, hrepeated.2]
    intro h
    cases h

end BatchSql.Row
