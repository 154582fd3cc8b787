namespace BatchSql.Text

/-- The parts between separators; there is always one. -/
def splitOn [DecidableEq α] (mark : α) : List α → List (List α)
  | [] => [[]]
  | a :: r =>
    if a = mark then [] :: splitOn mark r
    else
      match splitOn mark r with
      | [] => [[a]]
      | part :: rest => (a :: part) :: rest

/-- What stands before the first mark and what stands after it. -/
def cut (isMark : α → Bool) : List α → Option (List α × List α)
  | [] => none
  | a :: r =>
    if isMark a then some ([], r)
    else (cut isMark r).map fun (before, after) => (a :: before, after)

theorem length_after_cut {isMark : α → Bool} {s before after : List α}
    (h : cut isMark s = some (before, after)) : after.length < s.length := by
  induction s generalizing before with
  | nil => cases h
  | cons a r ih =>
    rw [cut] at h
    split at h
    · obtain ⟨rfl, rfl⟩ := Prod.mk.inj (Option.some.inj h)
      exact Nat.lt_succ_self _
    · obtain ⟨⟨first, rest⟩, hrest, he⟩ := Option.map_eq_some_iff.mp h
      obtain ⟨rfl, rfl⟩ := Prod.mk.inj he
      exact Nat.lt_succ_of_lt (ih hrest)

end BatchSql.Text
