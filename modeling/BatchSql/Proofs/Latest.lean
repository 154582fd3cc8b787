namespace BatchSql

variable {α : Type} {leaves : α → Prop}

/-- The element is in the list, and all that comes after it leaves it in force. -/
def Latest (leaves : α → Prop) (l : List α) (x : α) : Prop :=
  ∃ front back, l = front ++ x :: back ∧ ∀ y ∈ back, leaves y

theorem not_latest_nil (x : α) : ¬Latest leaves [] x := by
  rintro ⟨front, back, hcut, -⟩
  simp at hcut

theorem latest_append (l : List α) (x y : α) :
    Latest leaves (l ++ [y]) x ↔ y = x ∨ (leaves y ∧ Latest leaves l x) := by
  constructor
  · rintro ⟨front, back, hcut, hleaves⟩
    rcases List.eq_nil_or_concat back with rfl | ⟨back', z, rfl⟩
    · obtain ⟨-, hlast⟩ := List.append_inj' hcut rfl
      exact .inl (List.cons.inj hlast).1
    · rw [List.concat_eq_append] at hcut hleaves
      rw [← List.cons_append, ← List.append_assoc] at hcut
      obtain ⟨hl, hlast⟩ := List.append_inj' hcut rfl
      obtain rfl : y = z := (List.cons.inj hlast).1
      exact .inr ⟨hleaves y (by simp), front, back', hl, fun x hx =>
        hleaves x (List.mem_append_left _ hx)⟩
  · rintro (rfl | ⟨hy, front, back, rfl, hleaves⟩)
    · exact ⟨l, [], rfl, fun z hz => absurd hz List.not_mem_nil⟩
    · refine ⟨front, back ++ [y], by simp, fun z hz => ?_⟩
      rcases List.mem_append.mp hz with hz | hz
      · exact hleaves z hz
      · rw [List.mem_singleton.mp hz]
        exact hy

end BatchSql
