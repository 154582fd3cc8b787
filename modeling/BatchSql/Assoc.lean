namespace BatchSql.Assoc

variable {κ α : Type} [DecidableEq κ]

/-- The first value under a key. -/
def get? (key : κ) : List (κ × α) → Option α
  | [] => none
  | (k, a) :: rest => if k = key then some a else get? key rest

/-- A value takes the place of the one under its key, or else comes last. -/
def put (key : κ) (value : α) : List (κ × α) → List (κ × α)
  | [] => [(key, value)]
  | (k, a) :: rest => if k = key then (key, value) :: rest else (k, a) :: put key value rest

def erase (key : κ) (entries : List (κ × α)) : List (κ × α) :=
  entries.filter fun e => e.1 ≠ key

theorem get?_put (key k : κ) (value : α) (entries : List (κ × α)) :
    get? k (put key value entries) = if key = k then some value else get? k entries := by
  induction entries with
  | nil => simp [put, get?]
  | cons e rest ih =>
    obtain ⟨j, a⟩ := e
    by_cases h : j = key
    · subst h
      by_cases hk : j = k <;> simp [put, get?, hk]
    · by_cases hk : j = k
      · subst hk
        simp [put, get?, h, Ne.symm h]
      · simp [put, get?, h, hk, ih]

theorem get?_erase (key k : κ) (entries : List (κ × α)) :
    get? k (erase key entries) = if key = k then none else get? k entries := by
  induction entries with
  | nil => simp [erase, get?]
  | cons e rest ih =>
    obtain ⟨j, a⟩ := e
    unfold erase at ih ⊢
    by_cases hj : j = key
    · subst hj
      rw [List.filter_cons_of_neg (by simp), ih]
      by_cases hk : j = k
      · rw [if_pos hk, if_pos hk]
      · rw [if_neg hk, if_neg hk, get?, if_neg hk]
    · rw [List.filter_cons_of_pos (by simpa using hj), get?, get?, ih]
      by_cases hk : j = k
      · subst hk
        rw [if_pos rfl, if_pos rfl, if_neg (Ne.symm hj)]
      · rw [if_neg hk, if_neg hk]

theorem get?_eq_none_iff (key : κ) (entries : List (κ × α)) :
    get? key entries = none ↔ key ∉ entries.map Prod.fst := by
  induction entries with
  | nil => simp [get?]
  | cons e rest ih =>
    obtain ⟨j, a⟩ := e
    by_cases h : j = key
    · simp [get?, h]
    · simp [get?, h, ih, Ne.symm h]

/-- A new key comes last. -/
theorem put_of_notMem {key : κ} (value : α) {entries : List (κ × α)}
    (h : key ∉ entries.map Prod.fst) : put key value entries = entries ++ [(key, value)] := by
  induction entries with
  | nil => rfl
  | cons e rest ih =>
    rw [List.map_cons, List.mem_cons, not_or] at h
    rw [put, if_neg (Ne.symm h.1), ih h.2, List.cons_append]

/-- A key that is there stays where it is. -/
theorem keys_put_of_mem {key : κ} (value : α) {entries : List (κ × α)}
    (h : key ∈ entries.map Prod.fst) :
    (put key value entries).map Prod.fst = entries.map Prod.fst := by
  induction entries with
  | nil => cases h
  | cons e rest ih =>
    by_cases he : e.1 = key
    · rw [put, if_pos he, List.map_cons, List.map_cons, he]
    · have hrest : key ∈ rest.map Prod.fst := (List.mem_cons.mp h).resolve_left (Ne.symm he)
      rw [put, if_neg he, List.map_cons, List.map_cons, ih hrest]

theorem mem_keys_put (key k : κ) (value : α) (entries : List (κ × α)) :
    k ∈ (put key value entries).map Prod.fst ↔ k ∈ entries.map Prod.fst ∨ k = key := by
  by_cases h : key ∈ entries.map Prod.fst
  · rw [keys_put_of_mem value h]
    constructor
    · exact Or.inl
    · rintro (hk | rfl)
      · exact hk
      · exact h
  · rw [put_of_notMem value h, List.map_append, List.mem_append]
    simp

theorem nodup_put {entries : List (κ × α)} (h : (entries.map Prod.fst).Nodup) (key : κ)
    (value : α) : ((put key value entries).map Prod.fst).Nodup := by
  by_cases hk : key ∈ entries.map Prod.fst
  · rw [keys_put_of_mem value hk]
    exact h
  · rw [put_of_notMem value hk, List.map_append, List.nodup_append]
    refine ⟨h, by simp, fun a ha b hb hab => ?_⟩
    obtain rfl : b = key := List.mem_singleton.mp hb
    exact hk (hab ▸ ha)

/-- Where no key comes twice, the entries are what is found under their keys. -/
theorem mem_iff_get? {entries : List (κ × α)} (h : (entries.map Prod.fst).Nodup) (key : κ)
    (value : α) : (key, value) ∈ entries ↔ get? key entries = some value := by
  induction entries with
  | nil => simp [get?]
  | cons e rest ih =>
    obtain ⟨j, a⟩ := e
    obtain ⟨hj, hrest⟩ := List.nodup_cons.mp h
    rw [List.mem_cons, ih hrest, get?]
    by_cases hk : j = key
    · subst hk
      have hnone : get? j rest = none := (get?_eq_none_iff j rest).mpr hj
      simp [hnone, eq_comm]
    · simp [hk, Ne.symm hk]

/-- Values that are put under other keys leave an entry as it is. -/
theorem get?_foldl_put_of_notMem {key : κ} {added entries : List (κ × α)}
    (h : key ∉ added.map Prod.fst) :
    get? key (added.foldl (fun entries e => put e.1 e.2 entries) entries) = get? key entries := by
  induction added generalizing entries with
  | nil => rfl
  | cons e added ih =>
    rw [List.map_cons, List.mem_cons, not_or] at h
    rw [List.foldl_cons, ih h.2, get?_put, if_neg (Ne.symm h.1)]

end BatchSql.Assoc
