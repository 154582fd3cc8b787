import Mathlib.Data.List.Basic
import Mathlib.Data.List.Induction
import BatchSql.Proofs.Work

namespace BatchSql

namespace Step

variable {σ ω ι ν : Type}

/-- Takes up items in turn, whatever comes of each, and keeps what is noted of them. -/
def inTurn (act : ω → ι → Step σ (ν × ω)) (w : ω) : List ι → Step σ (List ν × ω)
  | [] => pure ([], w)
  | item :: rest => do
    let (note, w) ← act w item
    let (notes, w) ← inTurn act w rest
    pure (note :: notes, w)

variable {act : ω → ι → Step σ (ν × ω)} {w : ω}

theorem inTurn_concat (items : List ι) (item : ι) :
    inTurn act w (items ++ [item]) = (do
      let (notes, w) ← inTurn act w items
      let (note, w) ← act w item
      pure (notes ++ [note], w)) := by
  induction items generalizing w with
  | nil => rfl
  | cons first rest ih =>
    rw [List.cons_append, inTurn, inTurn]
    simp only [ih, bind_assoc, pure_bind, List.cons_append]

/-- Two ways to note the same items agree where they do on each of them. -/
theorem map_inTurn {ν' : Type} {act' : ω → ι → Step σ (ν' × ω)} (g : ν → ν')
    (h : ∀ w item, (fun p => (g p.1, p.2)) <$> act w item = act' w item) (items : List ι) :
    (fun p => (p.1.map g, p.2)) <$> inTurn act w items = inTurn act' w items := by
  induction items generalizing w with
  | nil => rfl
  | cons item rest ih =>
    rw [inTurn, inTurn, ← h]
    simp only [← ih, map_bind, map_pure, bind_map_left, List.map_cons]

end Step

/-- A way to say what work comes to that goes along with the order of the work. -/
structure Sequential {σ S : Type} (R : {α : Type} → Step σ α → S → α → S → Prop) : Prop where
  pure : ∀ {α : Type} (a : α) (s : S), R (Pure.pure a) s a s
  bind : ∀ {α β : Type} {m : Step σ α} {k : α → Step σ β} {a : α} {b : β} {s s' s'' : S},
    R m s a s' → R (k a) s' b s'' → R (m >>= k) s b s''

theorem sequential_does {σ : Type} : Sequential fun {α} (m : Step σ α) s a s' => Does m s a s' :=
  ⟨Does.pure, Does.bind⟩

theorem sequential_run {σ : Type} :
    Sequential fun {α} (m : Step σ α) t a t' => m.run t = (a, t') :=
  ⟨fun _ _ => rfl, fun hm hk => (run_step_bind hm).trans hk⟩

namespace Sequential

variable {σ S ω ι ν : Type} {R : {α : Type} → Step σ α → S → α → S → Prop}
  {act : ω → ι → Step σ (ν × ω)} {w w' w'' : ω} {s s' s'' : S}

theorem inTurn_concat (hR : Sequential R) {items : List ι} {item : ι} {notes : List ν} {note : ν}
    (h : R (Step.inTurn act w items) s (notes, w') s')
    (hlast : R (act w' item) s' (note, w'') s'') :
    R (Step.inTurn act w (items ++ [item])) s (notes ++ [note], w'') s'' := by
  rw [Step.inTurn_concat]
  exact hR.bind h (hR.bind hlast (hR.pure _ _))

/-- What holds before the first item, and after each if before it, holds after all of them, and
what it says may tell what was done and what was noted so far. -/
theorem inTurn (hR : Sequential R) (holds : List ι → List ν → ω → S → Prop) {items : List ι}
    (hstep : ∀ item ∈ items, ∀ done noted w s, holds done noted w s →
      ∃ note w' s', R (act w item) s (note, w') s' ∧ holds (done ++ [item]) (noted ++ [note]) w' s')
    (h : holds [] [] w s) :
    ∃ notes w' s', R (Step.inTurn act w items) s (notes, w') s' ∧ holds items notes w' s' := by
  induction items using List.reverseRecOn with
  | nil => exact ⟨[], w, s, hR.pure _ _, h⟩
  | append_singleton items item ih =>
    obtain ⟨notes, w', s', hnotes, hholds⟩ :=
      ih fun item' hitem => hstep item' (List.mem_append_left _ hitem)
    obtain ⟨note, w'', s'', hnote, hlast⟩ :=
      hstep item List.mem_concat_self items notes w' s' hholds
    exact ⟨notes ++ [note], w'', s'', hR.inTurn_concat hnotes hnote, hlast⟩

end Sequential

/-- What holds at each place of a list and at one more that is put behind it holds at each place of
the longer list. -/
theorem forall_cut_concat {ν : Type} {p : List ν → ν → Prop} {noted : List ν} {note : ν}
    (h : ∀ front n back, noted = front ++ n :: back → p front n) (hlast : p noted note)
    (front : List ν) (n : ν) (back : List ν) (he : noted ++ [note] = front ++ n :: back) :
    p front n := by
  rcases List.eq_nil_or_concat' back with rfl | ⟨back, last, rfl⟩
  · obtain ⟨rfl, hn⟩ := List.append_inj' he rfl
    obtain rfl := List.singleton_inj.mp hn
    exact hlast
  · rw [← List.cons_append, ← List.append_assoc] at he
    exact h front n back (List.append_inj' he rfl).1

end BatchSql
