import BatchSql.Proofs.Read.Barrier

namespace BatchSql

/-- What a host was asked to do: the records that it was given to group, with its answers, and
those that it was handed. -/
structure Asked (τ : Type) where
  grouped : List (List Keyed × Except Error (List Group))
  emitted : List τ

def Asked.nothing {τ : Type} : Asked τ :=
  ⟨[], []⟩

/-- A host that does as another does, and keeps what it is asked. -/
def Host.noting {η τ : Type} (host : Host η τ) : Host (η × Asked τ) τ where
  group keyed := do
    let r ← ExceptT.lift (Task.within .first (host.group keyed)).run
    modify fun t => { t with world :=
      (t.world.1, { t.world.2 with grouped := t.world.2.grouped ++ [(keyed, r)] }) }
    Task.ofExcept r
  emit record := do
    modify fun t => { t with world :=
      (t.world.1, { t.world.2 with emitted := t.world.2.emitted ++ [record] }) }
    Task.within .first (host.emit record)

/-- Work does the same as other work, which keeps more: `forget` leaves out what only it keeps. -/
def Shadowed (forget : σ' → σ) (m : Step σ α) (more : Step σ' α) : Prop :=
  ∀ t, m.run ⟨forget t.world, t.events⟩ =
    ((more.run t).1, ⟨forget (more.run t).2.world, (more.run t).2.events⟩)

namespace Shadowed

variable {σ σ' τ τ' α β : Type} {forget : σ' → σ}

theorem pure (a : α) : Shadowed forget (pure a) (pure a) :=
  fun _ => rfl

theorem log (level : Level) (message : String) (fields : List (String × String)) :
    Shadowed forget (Step.log level message fields) (Step.log level message fields) :=
  fun _ => rfl

theorem bind {m : Step σ α} {more : Step σ' α} {k : α → Step σ β} {kmore : α → Step σ' β}
    (hm : Shadowed forget m more) (hk : ∀ a, Shadowed forget (k a) (kmore a)) :
    Shadowed forget (m >>= k) (more >>= kmore) := by
  intro t
  rw [StateT.run_bind, StateT.run_bind, hm t]
  exact hk _ _

theorem task_bind {x : Task σ α} {more : Task σ' α} {k : α → Task σ β} {kmore : α → Task σ' β}
    (hx : Shadowed forget x.run more.run) (hk : ∀ a, Shadowed forget (k a).run (kmore a).run) :
    Shadowed forget (x >>= k).run (more >>= kmore).run := by
  rw [ExceptT.run_bind, ExceptT.run_bind]
  refine hx.bind fun r => ?_
  cases r with
  | ok a => exact hk a
  | error e => exact pure _

/-- Work in a part of the world, where the part may keep more as well. -/
theorem within {f : Focus σ τ} {f' : Focus σ' τ'} {part : τ' → τ} {m : Step τ α}
    {more : Step τ' α} (h : Shadowed part m more)
    (hget : ∀ world, f.get (forget world) = part (f'.get world))
    (hset : ∀ p world, f.set (part p) (forget world) = forget (f'.set p world)) :
    Shadowed forget (Step.within f m) (Step.within f' more) := by
  intro t
  have hpart : m ⟨f.get (forget t.world), t.events⟩ = _ :=
    (congrArg (fun p => m ⟨p, t.events⟩) (hget t.world)).trans (h ⟨f'.get t.world, t.events⟩)
  rw [run_within, run_within, hpart, hset]
  rfl

end Shadowed

/-- A host does the same as another, which keeps more. -/
structure Host.Shadows {η η' τ : Type} (host : Host η τ) (forget : η' → η) (more : Host η' τ) :
    Prop where
  group : ∀ keyed, Shadowed forget (host.group keyed).run (more.group keyed).run
  emit : ∀ record, Shadowed forget (host.emit record).run (more.emit record).run

namespace Host.Shadows

variable {η η' τ : Type} {host : Host η τ} {forget : η' → η} {more : Host η' τ}

theorem release (h : host.Shadows forget more) (codec : Codec τ) (n : Nat) (bss : List Octets) :
    Shadowed forget (FusionBarrier.release codec host n bss).run
      (FusionBarrier.release codec more n bss).run := by
  induction bss generalizing n with
  | nil => exact .pure _
  | cons bs rest ih =>
    rw [FusionBarrier.release, FusionBarrier.release]
    refine .task_bind ?_ fun record => .task_bind (h.emit record) fun _ => ih (n + 1)
    cases codec.decodeAlone bs with
    | ok record => exact .pure _
    | error e => exact .pure _

/-- A flush is the same whether or not the host keeps more. -/
theorem flush (h : host.Shadows forget more) (b : FusionBarrier τ) :
    Shadowed forget (b.flush host) (b.flush more) :=
  .bind (.task_bind (h.group b.keyed) fun _ =>
    .task_bind (.bind (.log _ _ _) fun _ => .pure _) fun _ => h.release _ _ _)
    fun _ => .pure _

end Host.Shadows

section Noting

variable {η τ : Type} (host : Host η τ) (world : η) (asked : Asked τ) (events : Array Event)

/-- The host is handed the record, whatever it makes of it. -/
theorem emit_noting (record : τ) : ∃ answer world' events',
    (host.noting.emit record).run.run ⟨(world, asked), events⟩ =
      (answer, ⟨(world', { asked with emitted := asked.emitted ++ [record] }), events'⟩) :=
  ⟨_, _, _, rfl⟩

theorem group_noting (keyed : List Keyed) : ∃ answer world' events',
    (host.group keyed).run.run ⟨world, events⟩ = (answer, ⟨world', events'⟩) ∧
      (host.noting.group keyed).run.run ⟨(world, asked), events⟩ =
        (answer, ⟨(world', { asked with grouped := asked.grouped ++ [(keyed, answer)] }),
          events'⟩) := by
  rcases hgroup : (host.group keyed).run.run ⟨world, events⟩ with ⟨answer, world', events'⟩
  have hlift : (ExceptT.lift (Task.within .first (host.group keyed)).run :
      Task (η × Asked τ) _).run.run ⟨(world, asked), events⟩ =
        (.ok answer, ⟨(world', asked), events'⟩) :=
    congrArg (fun p : Except Error (List Group) × Traced η =>
      (Except.ok p.1, Traced.mk (p.2.world, asked) p.2.events)) hgroup
  refine ⟨answer, world', events', rfl, ?_⟩
  rw [Host.noting]
  refine (run_bind_ok hlift).trans ?_
  cases answer with
  | ok groups => rfl
  | error e => rfl

/-- What a barrier has handed to a host of these encodings: their decodings in order, and all of
them where this went well. -/
structure Released (codec : Codec τ) (bss : List Octets) (records : List τ)
    (answer : Except Error Nat) : Prop where
  decoded : (bss.take records.length).map codec.decodeAlone = records.map .ok
  whole : ∀ n, answer = .ok n → n = bss.length ∧ n = records.length

theorem release_noting (codec : Codec τ) (n : Nat) (bss : List Octets) :
    ∃ records answer world' events',
      (FusionBarrier.release codec host.noting n bss).run.run ⟨(world, asked), events⟩ =
        (answer, ⟨(world', { asked with emitted := asked.emitted ++ records }), events'⟩) ∧
      (bss.take records.length).map codec.decodeAlone = records.map .ok ∧
      ∀ k, answer = .ok k → k = n + bss.length ∧ k = n + records.length := by
  induction bss generalizing n world asked events with
  | nil =>
    refine ⟨[], .ok n, world, events, ?_, rfl, fun k hk => ?_⟩
    · rw [List.append_nil]
      rfl
    · obtain rfl := Except.ok.inj hk
      exact ⟨rfl, rfl⟩
  | cons bs rest ih =>
    rw [FusionBarrier.release]
    cases hdecode : codec.decodeAlone bs with
    | error e =>
      refine ⟨[], .error e, world, events, ?_, rfl, fun k hk => by cases hk⟩
      rw [List.append_nil]
      rfl
    | ok record =>
      obtain ⟨answer, world₁, events₁, hemit⟩ := emit_noting host world asked events record
      cases answer with
      | error e =>
        refine ⟨[record], .error e, world₁, events₁, ?_, by simp [hdecode],
          fun k hk => by cases hk⟩
        exact (run_bind_ok (a := record) rfl).trans (run_bind_error hemit)
      | ok u =>
        obtain ⟨records, answer, world₂, events₂, hrest, hdecoded, hwhole⟩ :=
          ih world₁ { asked with emitted := asked.emitted ++ [record] } events₁ (n + 1)
        rw [List.append_assoc] at hrest
        refine ⟨record :: records, answer, world₂, events₂, ?_, ?_, fun k hk => ?_⟩
        · exact (run_bind_ok (a := record) rfl).trans ((run_bind_ok hemit).trans hrest)
        · simp [hdecode, hdecoded]
        · obtain ⟨hall, hout⟩ := hwhole k hk
          rw [List.length_cons, List.length_cons]
          omega

/-- What can be seen of a flush: the barrier gives the host its records to group, and hands it the
decodings of what comes back. -/
inductive Flushed (codec : Codec τ) (keyed : List Keyed) :
    Except Error Nat → Asked τ → Prop where
  | ungrouped (e : Error) : Flushed codec keyed (.error e) ⟨[(keyed, .error e)], []⟩
  | grouped (groups : List Group) {records : List τ} {answer : Except Error Nat}
      (released : Released codec (groups.flatMap Prod.snd) records answer) :
      Flushed codec keyed answer ⟨[(keyed, .ok groups)], records⟩

theorem flush_noting (b : FusionBarrier τ) :
    ∃ answer asked world' events',
      (b.flush host.noting).run ⟨(world, .nothing), events⟩ =
        ((answer, b.clear), ⟨(world', asked), events'⟩) ∧ Flushed b.codec b.keyed answer asked := by
  obtain ⟨grouped, world₁, events₁, -, hgroup⟩ := group_noting host world .nothing events b.keyed
  cases grouped with
  | error e =>
    refine ⟨.error e, _, world₁, events₁, ?_, .ungrouped e⟩
    rw [FusionBarrier.flush, StateT.run_bind, run_bind_error hgroup]
    rfl
  | ok groups =>
    change _ = (_, Traced.mk (world₁, Asked.mk [(b.keyed, .ok groups)] []) events₁) at hgroup
    obtain ⟨records, answer, world₂, events₂, hrelease, hdecoded, hwhole⟩ :=
      release_noting host world₁ ⟨[(b.keyed, .ok groups)], []⟩ _ b.codec 0
        (groups.flatMap Prod.snd)
    simp only [Nat.zero_add] at hwhole
    refine ⟨answer, _, world₂, events₂, ?_, .grouped groups ⟨hdecoded, hwhole⟩⟩
    rw [FusionBarrier.flush, StateT.run_bind, run_bind_ok hgroup,
      run_bind_ok (run_task_log _ _ _ _), hrelease]
    rfl

theorem group_shadowed (keyed : List Keyed) :
    Shadowed Prod.fst (host.group keyed).run (host.noting.group keyed).run := by
  rintro ⟨⟨world, asked⟩, events⟩
  obtain ⟨answer, world', events', hgroup, hnoting⟩ := group_noting host world asked events keyed
  rw [hnoting]
  exact hgroup

/-- A host keeps notes of what it does, and does the same. -/
theorem noting_shadows : host.Shadows Prod.fst host.noting :=
  ⟨group_shadowed host, fun _ _ => rfl⟩

end Noting

end BatchSql
