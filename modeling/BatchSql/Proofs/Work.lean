import BatchSql.Journal

namespace BatchSql

section Run

variable {ε S α β : Type} {s s' : S}

theorem run_bind_ok {x : ExceptT ε (StateM S) α} {k : α → ExceptT ε (StateM S) β} {a : α}
    (h : x.run.run s = (.ok a, s')) : (x >>= k).run.run s = (k a).run.run s' := by
  simp only [ExceptT.run_bind, StateT.run_bind, h]
  rfl

theorem run_bind_error {x : ExceptT ε (StateM S) α} {k : α → ExceptT ε (StateM S) β}
    {e : ε} (h : x.run.run s = (.error e, s')) : (x >>= k).run.run s = (.error e, s') := by
  simp only [ExceptT.run_bind, StateT.run_bind, h]
  rfl

/-- Work in two parts either fails in the first, or goes on with the second. -/
theorem of_run_bind {x : ExceptT ε (StateM S) α} {k : α → ExceptT ε (StateM S) β}
    {r : Except ε β} (h : (x >>= k).run.run s = (r, s')) :
    (∃ e, x.run.run s = (.error e, s') ∧ r = .error e) ∨
      ∃ a mid, x.run.run s = (.ok a, mid) ∧ (k a).run.run mid = (r, s') := by
  cases hx : x.run.run s with
  | mk first mid =>
    cases first with
    | error e =>
      rw [run_bind_error hx] at h
      cases h
      exact .inl ⟨e, rfl, rfl⟩
    | ok a =>
      rw [run_bind_ok hx] at h
      exact .inr ⟨a, mid, rfl, h⟩

theorem of_run_bind_ok {x : ExceptT ε (StateM S) α} {k : α → ExceptT ε (StateM S) β} {b : β}
    (h : (x >>= k).run.run s = (.ok b, s')) :
    ∃ a mid, x.run.run s = (.ok a, mid) ∧ (k a).run.run mid = (.ok b, s') :=
  (of_run_bind h).resolve_left fun ⟨_, _, he⟩ => nomatch he

theorem run_get : (get : ExceptT ε (StateM S) S).run.run s = (.ok s, s) := rfl

end Run

theorem run_step_bind {S α β : Type} {s s' : S} {m : StateM S α} {k : α → StateM S β} {a : α}
    (h : m.run s = (a, s')) : (m >>= k).run s = (k a).run s' := by
  rw [StateT.run_bind, h]
  rfl

section Catch

variable {ε S α : Type} {s s' : S} {x : ExceptT ε (StateM S) α} {h : ε → ExceptT ε (StateM S) α}

theorem run_catch_ok {a : α} (hx : x.run.run s = (.ok a, s')) :
    (tryCatch x h).run.run s = (.ok a, s') := by
  change (ExceptT.tryCatch x h : StateM S (Except ε α)).run s = _
  rw [ExceptT.tryCatch]
  exact run_step_bind hx

theorem run_catch_error {e : ε} (hx : x.run.run s = (.error e, s')) :
    (tryCatch x h).run.run s = (h e).run.run s' := by
  change (ExceptT.tryCatch x h : StateM S (Except ε α)).run s = _
  rw [ExceptT.tryCatch]
  exact run_step_bind hx

end Catch

theorem run_step_get {S : Type} {s : S} : (get : StateM S S).run s = (s, s) := rfl

theorem run_step_log {σ : Type} (level : Level) (message : String) (fields : List (String × String))
    (t : Traced σ) : (Step.log level message fields).run t =
      ((), { t with events := t.events.push ⟨level, message, fields⟩ }) := rfl

theorem run_task_log {σ : Type} (level : Level) (message : String) (fields : List (String × String))
    (t : Traced σ) : (Task.log level message fields).run.run t =
      (.ok (), { t with events := t.events.push ⟨level, message, fields⟩ }) := rfl

theorem run_ofExcept {σ α : Type} (r : Except Error α) (t : Traced σ) :
    (Task.ofExcept r : Task σ α).run.run t = (r, t) := by
  cases r with
  | ok a => rfl
  | error e => rfl

theorem of_map_ok {ε α β : Type} {x : Except ε α} {f : α → β} {b : β} (h : x.map f = .ok b) :
    ∃ a, x = .ok a ∧ f a = b := by
  cases x with
  | error e => cases h
  | ok a => exact ⟨a, rfl, Except.ok.inj h⟩

/-- Where every call succeeds, the answers can be listed. -/
theorem exists_map_ok {α β : Type} {g : α → Except Error β} {p : β → Prop} {xs : List α}
    (h : ∀ x ∈ xs, ∃ y, g x = .ok y ∧ p y) :
    ∃ ys : List β, xs.map g = ys.map .ok ∧ ∀ y ∈ ys, p y := by
  induction xs with
  | nil => exact ⟨[], rfl, by simp⟩
  | cons x xs ih =>
    rw [List.forall_mem_cons] at h
    obtain ⟨⟨y, hx, hy⟩, hrest⟩ := h
    obtain ⟨ys, hxs, hys⟩ := ih hrest
    refine ⟨y :: ys, ?_, List.forall_mem_cons.mpr ⟨hy, hys⟩⟩
    rw [List.map_cons, List.map_cons, hx, hxs]

theorem length_of_map_ok {α β : Type} {g : α → Except Error β} {xs : List α} {ys : List β}
    (h : xs.map g = ys.map .ok) : xs.length = ys.length := by
  simpa only [List.length_map] using congrArg List.length h

theorem mem_of_map_ok {α β : Type} {g : α → Except Error β} {xs : List α} {ys : List β}
    (h : xs.map g = ys.map .ok) {y : β} (hy : y ∈ ys) : ∃ x ∈ xs, g x = .ok y := by
  have hmem : .ok y ∈ xs.map g := by
    rw [h]
    exact List.mem_map_of_mem hy
  exact List.mem_map.mp hmem

/-- A part of the world that is read as it was written and leaves the rest alone. -/
class Focus.Lawful (f : Focus σ τ) : Prop where
  get_set : ∀ part world, f.get (f.set part world) = part
  set_set : ∀ part other world, f.set part (f.set other world) = f.set part world

instance : (Focus.self : Focus σ σ).Lawful :=
  ⟨fun _ _ => rfl, fun _ _ _ => rfl⟩

instance : (Focus.first : Focus (σ × τ) σ).Lawful :=
  ⟨fun _ _ => rfl, fun _ _ _ => rfl⟩

instance : (Focus.second : Focus (σ × τ) τ).Lawful :=
  ⟨fun _ _ => rfl, fun _ _ _ => rfl⟩

/-- Work begun in the world `s` ends with the answer `a` in the world `s'`, whatever the journal
holds. -/
def Does (m : Step σ α) (s : σ) (a : α) (s' : σ) : Prop :=
  ∀ events, ∃ events', m.run ⟨s, events⟩ = (a, ⟨s', events'⟩)

namespace Does

variable {σ α β : Type} {s s' s'' : σ}

theorem run {m : Step σ α} {a : α} (h : Does m s a s') (events : Array Event) :
    (m.run ⟨s, events⟩).1 = a ∧ (m.run ⟨s, events⟩).2.world = s' := by
  obtain ⟨events', he⟩ := h events
  rw [he]
  exact ⟨rfl, rfl⟩

/-- Work has one outcome. -/
theorem unique {m : Step σ α} {a b : α} (ha : Does m s a s') (hb : Does m s b s'') :
    a = b ∧ s' = s'' := by
  obtain ⟨hr, hw⟩ := ha.run #[]
  obtain ⟨hr', hw'⟩ := hb.run #[]
  exact ⟨hr.symm.trans hr', hw.symm.trans hw'⟩

theorem pure (a : α) (s : σ) : Does (pure a) s a s :=
  fun events => ⟨events, rfl⟩

theorem bind {m : Step σ α} {k : α → Step σ β} {a : α} {b : β} (hm : Does m s a s')
    (hk : Does (k a) s' b s'') : Does (m >>= k) s b s'' := by
  intro events
  obtain ⟨events', hm⟩ := hm events
  obtain ⟨events'', hk⟩ := hk events'
  refine ⟨events'', ?_⟩
  rw [StateT.run_bind, hm]
  exact hk

theorem log (level : Level) (message : String) (fields : List (String × String)) (s : σ) :
    Does (Step.log level message fields) s () s :=
  fun events => ⟨events.push ⟨level, message, fields⟩, rfl⟩

/-- What is noted in the journal changes nothing else. -/
theorem after_log {level : Level} {message : String} {fields : List (String × String)}
    {m : Step σ α} {a : α} (h : Does m s a s') :
    Does (Step.log level message fields >>= fun _ => m) s a s' :=
  (log level message fields s).bind h

theorem map {m : Step σ α} {a : α} (g : α → β) (h : Does m s a s') :
    Does (g <$> m) s (g a) s' := by
  intro events
  obtain ⟨events', he⟩ := h events
  refine ⟨events', ?_⟩
  rw [StateT.run_map, he]
  rfl

theorem task_bind {x : Task σ α} {k : α → Task σ β} {a : α} {r : Except Error β}
    (hx : Does x.run s (.ok a) s') (hk : Does (k a).run s' r s'') :
    Does (x >>= k).run s r s'' := by
  rw [ExceptT.run_bind]
  exact hx.bind hk

theorem task_bind_error {x : Task σ α} {k : α → Task σ β} {e : Error}
    (hx : Does x.run s (.error e) s') : Does (x >>= k).run s (.error e) s' := by
  rw [ExceptT.run_bind]
  exact hx.bind (pure _ s')

theorem lift {m : Step σ α} {a : α} (h : Does m s a s') :
    Does (ExceptT.lift m : Task σ α).run s (.ok a) s' :=
  h.map Except.ok

theorem after_task_log {level : Level} {message : String} {fields : List (String × String)}
    {x : Task σ α} {r : Except Error α} (h : Does x.run s r s') :
    Does (Task.log level message fields >>= fun _ => x).run s r s' :=
  task_bind (lift (log level message fields s)) h

theorem ofExcept (r : Except Error α) (s : σ) : Does (Task.ofExcept r).run s r s := by
  cases r with
  | ok a => exact pure _ s
  | error e => exact pure _ s

theorem catch_ok {x : Task σ α} {h : Error → Task σ α} {a : α} (hx : Does x.run s (.ok a) s') :
    Does (tryCatch x h).run s (.ok a) s' := by
  change Does (ExceptT.tryCatch x h) s _ s'
  rw [ExceptT.tryCatch]
  exact hx.bind (pure _ s')

theorem catch_error {x : Task σ α} {h : Error → Task σ α} {e : Error} {r : Except Error α}
    (hx : Does x.run s (.error e) s') (hh : Does (h e).run s' r s'') :
    Does (tryCatch x h).run s r s'' := by
  change Does (ExceptT.tryCatch x h) s _ s''
  rw [ExceptT.tryCatch]
  exact hx.bind hh

end Does

theorem run_ofState {σ τ α : Type} (f : Focus σ τ) (m : StateM τ α) (t : Traced σ) :
    (Step.ofState f m).run t =
      ((m (f.get t.world)).1, ⟨f.set (m (f.get t.world)).2 t.world, t.events⟩) := rfl

theorem run_within {σ τ α : Type} (f : Focus σ τ) (m : Step τ α) (t : Traced σ) :
    (Step.within f m).run t = ((m ⟨f.get t.world, t.events⟩).1,
      ⟨f.set (m ⟨f.get t.world, t.events⟩).2.world t.world, (m ⟨f.get t.world, t.events⟩).2.events⟩)
      := rfl

theorem run_within_of {σ τ α : Type} {f : Focus σ τ} {m : Step τ α} (world : σ) {part : τ}
    {events events' : Array Event} {a : α}
    (h : m.run ⟨f.get world, events⟩ = (a, ⟨part, events'⟩)) :
    (Step.within f m).run ⟨world, events⟩ = (a, ⟨f.set part world, events'⟩) :=
  congrArg (fun r : α × Traced τ => (r.1, Traced.mk (f.set r.2.world world) r.2.events)) h

/-- A change of a part of the world, begun with the part as it is. -/
theorem does_ofState_get {σ τ α : Type} {f : Focus σ τ} {m : StateM τ α} {s : σ} {a : α} {part : τ}
    (h : m.run (f.get s) = (a, part)) : Does (Step.ofState f m) s a (f.set part s) := by
  intro events
  have hget : m (f.get s) = (a, part) := h
  refine ⟨events, ?_⟩
  rw [run_ofState, hget]

section Part

variable {σ τ α : Type} {f : Focus σ τ} [f.Lawful] {part part' : τ} (world : σ)

/-- A change of a part of the world leaves the rest of it as it was. -/
theorem does_ofState {m : StateM τ α} {a : α} (h : m.run part = (a, part')) :
    Does (Step.ofState f m) (f.set part world) a (f.set part' world) := by
  have hpart : m.run (f.get (f.set part world)) = (a, part') := by
    rw [Focus.Lawful.get_set]
    exact h
  have hdoes := does_ofState_get hpart
  rwa [Focus.Lawful.set_set] at hdoes

theorem does_get : Does (Step.ofState f get) (f.set part world) part (f.set part world) :=
  does_ofState world rfl

theorem does_task_ofState {m : ExceptT Error (StateM τ) α} {r : Except Error α}
    (h : m.run.run part = (r, part')) :
    Does (Task.ofState f m).run (f.set part world) r (f.set part' world) :=
  does_ofState world h

theorem does_within {m : Step τ α} {a : α} (h : Does m part a part') :
    Does (Step.within f m) (f.set part world) a (f.set part' world) := by
  intro events
  obtain ⟨events', he⟩ := h events
  have hpart : m ⟨f.get (f.set part world), events⟩ = (a, ⟨part', events'⟩) := by
    rw [Focus.Lawful.get_set]
    exact he
  refine ⟨events', ?_⟩
  rw [run_within, hpart, Focus.Lawful.set_set]

theorem does_task_within {x : Task τ α} {r : Except Error α} (h : Does x.run part r part') :
    Does (Task.within f x).run (f.set part world) r (f.set part' world) :=
  does_within world h

end Part

end BatchSql
