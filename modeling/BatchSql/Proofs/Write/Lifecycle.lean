import BatchSql.Proofs.Memory.Acquire
import BatchSql.Proofs.Write.Calls

namespace BatchSql
open Memory

namespace Memory.Database

/-- The seat that the next worker gets. -/
def nextSeat (db : Database) (sql : String) : Seat :=
  ⟨sql, db.sessions.length, db.statements.length⟩

/-- A worker was set up: it has a session whose writes wait, and a statement in it. -/
def engaged (db : Database) (username : Option String) (sql : String) : Database :=
  ((db.opened username).stage db.sessions.length []).prepared db.sessions.length sql

/-- A worker was torn down: its statement is closed and then its session. -/
def released (db : Database) (seat : Seat) (staged : List Entry) : Database :=
  (db.closeStatement seat.statement ⟨seat.session, seat.sql, false⟩).closeSession seat.session
    (.staging staged)

@[simp] theorem sessions_engaged (db : Database) (username : Option String) (sql : String) :
    (db.engaged username sql).sessions = db.sessions ++ [.staging []] := by
  simp [engaged, prepared, stage, opened, tally]

@[simp] theorem statements_engaged (db : Database) (username : Option String) (sql : String) :
    (db.engaged username sql).statements =
      db.statements ++ [⟨db.sessions.length, sql, false⟩] := rfl

theorem open_engaged (db : Database) (username : Option String) (sql : String) :
    (db.nextSeat sql).Open (db.engaged username sql) [] := by
  constructor
  · rw [sessions_engaged]
    exact List.getElem?_concat_length
  · exact List.getElem?_concat_length

end Memory.Database

namespace WriteConnector

variable {σ τ : Type} {f : Focus σ Database} {registry : Registry σ} {c : WriteConnector σ τ}

/-- A connector that does not pass its check is told so as a configuration error. -/
theorem category_of_invalid {e : Error} (h : c.validate = .error e) :
    e.category = .configuration := by
  obtain ⟨config, statement, setter, size⟩ := c
  rw [validate] at h
  cases statement with
  | none => cases h; rfl
  | some sql =>
    dsimp only at h
    split at h
    · cases h; rfl
    · cases setter with
      | none => cases h; rfl
      | some setter =>
        rw [if_neg (by simp)] at h
        split at h
        · cases h; rfl
        · cases config with
          | none => cases h; rfl
          | some config => exact config.category_of_invalid h

/-- A connector that passes its check has all its parts. -/
theorem parts_of_valid (h : c.validate = .ok ()) :
    ∃ config sql setter, c.config = some config ∧ c.statement = some sql ∧
      c.setter = some setter ∧ 0 < c.batchSize ∧ config.validate = .ok () := by
  obtain ⟨config, statement, setter, size⟩ := c
  rw [validate] at h
  cases statement with
  | none => cases h
  | some sql =>
    dsimp only at h
    split at h
    · cases h
    · cases setter with
      | none => cases h
      | some setter =>
        rw [if_neg (by simp)] at h
        split at h
        · cases h
        · cases config with
          | none => cases h
          | some config =>
            rename_i hsize
            exact ⟨config, sql, setter, rfl, rfl, rfl, Nat.pos_of_ne_zero hsize, h⟩

end WriteConnector

namespace WriteWorker

variable {σ τ : Type} {f : Focus σ Database} [f.Lawful] {s s' : σ} {db : Database}
  {seat : Seat} {staged : List Entry} {w : WriteWorker σ τ}

/-- A worker as it is set up. -/
def fresh (f : Focus σ Database) (seat : Seat) (setter : ParameterSetter τ) (size : Nat) :
    WriteWorker σ τ :=
  ⟨some (seat.hold f), setter, size, [], 0, false, .ready, ⟨0, 0, 0, 0, 0⟩⟩

/-- A worker as it is torn down. -/
def released (w : WriteWorker σ τ) : WriteWorker σ τ :=
  { w with hold := none, pending := [], state := .closed }

theorem closing_does {x : Task σ Unit} {warning : String} {r : Except Error Unit}
    (h : Does x.run s r s') : Does (closing x warning) s r s' := by
  rw [closing]
  refine Does.bind h ?_
  cases r with
  | ok u => exact Does.pure _ s'
  | error e => exact Does.after_log (Does.pure _ s')

/-- Both closing steps are tried, and the first failure is the answer. -/
theorem teardown_open (world : σ) (hw : w.hold = some (seat.hold f)) (hopen : w.state ≠ .closed)
    (ho : seat.Open db staged) :
    Does w.teardown (f.set db world)
      ((db.verdict .statementClose).bind fun _ => db.verdict .connectionClose, w.released)
      (f.set (db.released seat staged) world) := by
  have hfirst := does_task_ofState (f := f) world
    (Action.run_statementClose ho.statement rfl)
  have hsession : (db.closeStatement seat.statement ⟨seat.session, seat.sql, false⟩).sessions[
      seat.session]? = _ := ho.session
  have hsecond := does_task_ofState (f := f) world
    (Action.run_close hsession rfl)
  obtain ⟨hold, setter, size, pending, count, needs, state, stats⟩ := w
  obtain rfl : hold = some (seat.hold f) := hw
  rw [teardown, if_neg hopen]
  dsimp only
  split
  · apply Does.after_log
    exact Does.bind (closing_does hfirst) (Does.bind (closing_does hsecond)
      (Does.bind (Does.pure _ _) (Does.after_log (Does.pure _ _))))
  · exact Does.bind (closing_does hfirst) (Does.bind (closing_does hsecond)
      (Does.bind (Does.pure _ _) (Does.after_log (Does.pure _ _))))

end WriteWorker

namespace WriteConnector

variable {σ τ : Type} {f : Focus σ Database} [f.Lawful] {registry : Registry σ}
  {c : WriteConnector σ τ} {config : ConnectionConfig σ} {db : Database} (world : σ)

theorem staged_opened (db : Database) (username : Option String) :
    ((db.opened username).stage db.sessions.length []).sessions[db.sessions.length]? =
      some (.staging []) :=
  List.getElem?_set_self (by simp [Database.opened])

theorem setAutoCommit_off (db : Database) (username : Option String) :
    Does ((connection f db.sessions.length).setAutoCommit false).run
      (f.set (db.opened username) world) (.ok ())
      (f.set ((db.opened username).stage db.sessions.length []) world) := by
  have hlast : (db.opened username).sessions[db.sessions.length]? = some .fresh :=
    List.getElem?_concat_length
  have hoff : false = true → Session.fresh.autoCommit = true := nofun
  exact does_task_ofState world (Action.run_setAutoCommit hlast rfl hoff)

theorem prepare_ok {username : Option String} {sql : String} (hp : .prepare ∉ db.failures) :
    Does (prepare (connection f db.sessions.length) sql).run (f.set (db.opened username) world)
      (.ok ((db.nextSeat sql).hold f).statement) (f.set (db.engaged username sql) world) := by
  have hprepare := does_task_ofState (f := f) world
    (Action.run_prepare sql (staged_opened db username) rfl hp)
  exact Does.task_bind (setAutoCommit_off world db username)
    (Does.task_bind hprepare (Does.pure _ _))

theorem prepare_failing {username : Option String} {sql : String} (hp : .prepare ∈ db.failures) :
    Does (prepare (connection f db.sessions.length) sql).run (f.set (db.opened username) world)
      (.error FailurePoint.prepare.error)
      (f.set ((db.opened username).stage db.sessions.length []) world) := by
  have hprepare := does_task_ofState (f := f) world
    (Action.run_prepare_failing sql (staged_opened db username) rfl hp)
  exact Does.task_bind (setAutoCommit_off world db username) (Does.task_bind_error hprepare)

theorem setup_ok (hv : c.validate = .ok ()) (hc : c.config = some config)
    (hr : Reaches f registry config) {sql : String} (hs : c.statement = some sql)
    {setter : ParameterSetter τ} (ht : c.setter = some setter)
    (hconnect : .connect ∉ db.failures) (hp : .prepare ∉ db.failures) :
    ∃ username, Does (c.setup registry).run (f.set db world)
      (.ok (.fresh f (db.nextSeat sql) setter c.batchSize))
      (f.set (db.engaged username sql) world) := by
  obtain ⟨config', _, _, hc', _, _, _, hvalid⟩ := parts_of_valid hv
  obtain rfl : config = config' := Option.some.inj (hc.symm.trans hc')
  obtain ⟨username, hacquire⟩ := hr.acquire world hvalid hconnect
  refine ⟨username, ?_⟩
  rw [setup, hv]
  refine Does.task_bind (Does.ofExcept _ _) ?_
  simp only [hc, hs, ht]
  refine Does.task_bind hacquire (Does.task_bind (Does.lift (prepare_ok world hp)) ?_)
  exact Does.after_task_log (Does.pure _ _)

theorem setup_invalid {e : Error} (hv : c.validate = .error e) (s : σ) :
    Does (c.setup registry).run s (.error e) s := by
  rw [setup, hv]
  exact Does.task_bind_error (Does.ofExcept _ _)

omit [f.Lawful] in
theorem setup_refused (hv : c.validate = .ok ()) (hc : c.config = some config) {e : Error}
    {s : σ} (he : Does (config.acquire registry).run s (.error e) s) :
    Does (c.setup registry).run s (.error e) s := by
  obtain ⟨config', sql, setter, hc', hs, ht, _, _⟩ := parts_of_valid hv
  obtain rfl : config = config' := Option.some.inj (hc.symm.trans hc')
  rw [setup, hv]
  refine Does.task_bind (Does.ofExcept _ _) ?_
  simp only [hc, hs, ht]
  exact Does.task_bind_error he

theorem setup_unconnected (hv : c.validate = .ok ()) (hc : c.config = some config)
    (hr : Reaches f registry config) (hconnect : .connect ∈ db.failures) :
    Does (c.setup registry).run (f.set db world) (.error FailurePoint.connect.error)
      (f.set db world) := by
  obtain ⟨config', _, _, hc', _, _, _, hvalid⟩ := parts_of_valid hv
  obtain rfl : config = config' := Option.some.inj (hc.symm.trans hc')
  exact setup_refused hv hc (hr.acquire_failing world hvalid hconnect)

/-- A connection that is of no use is closed again. -/
theorem setup_unprepared (hv : c.validate = .ok ()) (hc : c.config = some config)
    (hr : Reaches f registry config) (hconnect : .connect ∉ db.failures)
    (hp : .prepare ∈ db.failures) :
    ∃ username, Does (c.setup registry).run (f.set db world)
      (.error (.connectionFrom "write worker setup failed" FailurePoint.prepare.error))
      (f.set (((db.opened username).stage db.sessions.length []).closeSession db.sessions.length
        (.staging [])) world) := by
  obtain ⟨config', sql, setter, hc', hs, ht, _, hvalid⟩ := parts_of_valid hv
  obtain rfl : config = config' := Option.some.inj (hc.symm.trans hc')
  obtain ⟨username, hacquire⟩ := hr.acquire world hvalid hconnect
  have hstaged := staged_opened db username
  have hclose := does_task_ofState (f := f) world (Action.run_close hstaged rfl)
  refine ⟨username, ?_⟩
  rw [setup, hv]
  refine Does.task_bind (Does.ofExcept _ _) ?_
  simp only [hc, hs, ht]
  refine Does.task_bind hacquire (Does.task_bind (Does.lift (prepare_failing world hp)) ?_)
  exact Does.task_bind (Does.lift (WriteWorker.closing_does hclose)) (Does.pure _ _)

/-- A worker that was set up is a fresh one, at a seat of its own. -/
theorem of_setup_ok {w : WriteWorker σ τ} {s : σ} (hc : c.config = some config)
    (hr : Reaches f registry config) (h : Does (c.setup registry).run (f.set db world) (.ok w) s) :
    ∃ sql setter username, c.statement = some sql ∧ c.setter = some setter ∧ 0 < c.batchSize ∧
      w = .fresh f (db.nextSeat sql) setter c.batchSize ∧
      s = f.set (db.engaged username sql) world := by
  cases hv : c.validate with
  | error e => cases (h.unique (setup_invalid hv _)).1
  | ok u =>
    by_cases hconnect : .connect ∈ db.failures
    · cases (h.unique (setup_unconnected world hv hc hr hconnect)).1
    · by_cases hp : .prepare ∈ db.failures
      · obtain ⟨_, hfail⟩ := setup_unprepared world hv hc hr hconnect hp
        cases (h.unique hfail).1
      · obtain ⟨_, sql, setter, _, hs, ht, hsize, _⟩ := parts_of_valid hv
        obtain ⟨username, hok⟩ := setup_ok world hv hc hr hs ht hconnect hp
        obtain ⟨hw, hworld⟩ := h.unique hok
        exact ⟨sql, setter, username, hs, ht, hsize, Except.ok.inj hw, hworld⟩

end WriteConnector

end BatchSql
