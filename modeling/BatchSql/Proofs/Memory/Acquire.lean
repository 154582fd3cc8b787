import BatchSql.ConnectionConfig
import BatchSql.Memory.Connection
import BatchSql.Proofs.Memory.Actions

namespace BatchSql

namespace ConnectionConfig

variable {σ : Type}

theorem category_of_invalid (c : ConnectionConfig σ) {e : Error} (h : c.validate = .error e) :
    e.category = .configuration := by
  rw [validate] at h
  split at h
  · cases h
  · split at h
    · cases h; rfl
    · split at h
      · cases h; rfl
      · cases h

theorem category_asConnectionError (e : Error) :
    (asConnectionError e).category = .connection := by
  rw [asConnectionError]
  split
  · assumption
  · rfl

end ConnectionConfig

namespace Memory

variable {σ : Type} {f : Focus σ Database} {registry : Registry σ} {c : ConnectionConfig σ}

/-- The ways in which a configuration leads to the database in focus: by the database itself, by
a source over it as a driver, or by the name of a driver registered for it. -/
inductive Reaches (f : Focus σ Database) (registry : Registry σ) (c : ConnectionConfig σ) :
    Prop where
  | source (origin : c.origin = .source (dataSource f))
  | wrapped (options : ConnectOptions)
      (origin : c.origin = .source (DriverDataSource.dataSource ⟨factory f, options⟩))
  | driver (name url : String) (origin : c.origin = .driver name url)
      (registered : registry.lookup name = .ok (factory f))

/-- A valid configuration connects to the database and does nothing else to the world. -/
theorem Reaches.connects (hc : Reaches f registry c) (hv : c.validate = .ok ()) :
    ∃ username, ∀ {s r s'}, Does (connect f username).run s r s' →
      Does (c.tryAcquire registry).run s r s' := by
  cases hc with
  | source horigin =>
    refine ⟨c.username, fun h => ?_⟩
    rw [ConnectionConfig.tryAcquire]
    simp only [horigin]
    apply Does.after_task_log
    cases hu : c.username with
    | none =>
      rw [hu] at h
      exact h
    | some u =>
      rw [hu] at h
      exact h
  | wrapped options horigin =>
    cases hu : c.username with
    | none =>
      refine ⟨options.username, fun h => ?_⟩
      rw [ConnectionConfig.tryAcquire]
      simp only [horigin, hu]
      exact Does.after_task_log (Does.after_task_log h)
    | some u =>
      refine ⟨some u, fun h => ?_⟩
      rw [ConnectionConfig.tryAcquire]
      simp only [horigin, hu]
      exact Does.after_task_log (Does.after_task_log h)
  | driver name url horigin hregistered =>
    obtain ⟨options, hoptions⟩ :
        ∃ options, c.driverSource registry name url = .ok ⟨factory f, options⟩ := by
      simp only [ConnectionConfig.driverSource, hv, hregistered]
      exact ⟨_, rfl⟩
    refine ⟨options.username, fun h => ?_⟩
    rw [ConnectionConfig.tryAcquire]
    simp only [horigin, hoptions]
    exact Does.task_bind (Does.ofExcept _ _) (Does.after_task_log (Does.after_task_log h))

variable [f.Lawful] {db : Database} (world : σ)

theorem Reaches.acquire (hc : Reaches f registry c) (hv : c.validate = .ok ())
    (h : .connect ∉ db.failures) :
    ∃ username, Does (c.acquire registry).run (f.set db world)
      (.ok (connection f db.sessions.length)) (f.set (db.opened username) world) := by
  obtain ⟨username, hconnects⟩ := hc.connects hv
  have hopen := does_task_ofState (f := f) world (Action.run_connect username h)
  exact ⟨username, Does.catch_ok (hconnects (Does.task_bind hopen (Does.pure _ _)))⟩

/-- What the database answers when it takes no connection is a connection error already. -/
theorem Reaches.acquire_failing (hc : Reaches f registry c) (hv : c.validate = .ok ())
    (h : .connect ∈ db.failures) :
    Does (c.acquire registry).run (f.set db world) (.error FailurePoint.connect.error)
      (f.set db world) := by
  obtain ⟨username, hconnects⟩ := hc.connects hv
  have hopen := does_task_ofState (f := f) world (Action.run_connect_failing username h)
  exact Does.catch_error (hconnects (Does.task_bind_error hopen)) (Does.pure _ _)

/-- A configuration leads to the database in focus, or to no connection: its driver is not
registered, or its source refuses all of them. -/
inductive Leads (f : Focus σ Database) (registry : Registry σ) (c : ConnectionConfig σ) :
    Prop where
  | reaches (reaches : Reaches f registry c)
  | unregistered {e : Error} (name url : String) (origin : c.origin = .driver name url)
      (missing : registry.lookup name = .error e)
  | refused {e : Error} (refuses : ∀ s, Does (c.tryAcquire registry).run s (.error e) s)

omit [f.Lawful] in
/-- Where no connection is made, this is a connection error and nothing is done. -/
theorem Leads.acquire (h : Leads f registry c) (hv : c.validate = .ok ()) :
    Reaches f registry c ∨ ∃ e : Error, e.category = .connection ∧
      ∀ s, Does (c.acquire registry).run s (.error e) s := by
  have hcaught : ∀ {e : Error}, (∀ s, Does (c.tryAcquire registry).run s (.error e) s) →
      ∀ s, Does (c.acquire registry).run s (.error (ConnectionConfig.asConnectionError e)) s :=
    fun h s => Does.catch_error (h s) (Does.pure _ _)
  cases h with
  | reaches hreaches => exact .inl hreaches
  | @unregistered e name url horigin hmissing =>
    refine .inr ⟨_, ConnectionConfig.category_asConnectionError e, hcaught fun s => ?_⟩
    have hsource : c.driverSource registry name url = .error e := by
      simp only [ConnectionConfig.driverSource, hv, hmissing]
      rfl
    rw [ConnectionConfig.tryAcquire]
    simp only [horigin, hsource]
    exact Does.task_bind_error (Does.ofExcept _ _)
  | @refused e hrefuses =>
    exact .inr ⟨_, ConnectionConfig.category_asConnectionError e, hcaught hrefuses⟩

end Memory

end BatchSql
