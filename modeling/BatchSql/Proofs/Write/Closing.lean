import BatchSql.Proofs.Write.Deeds

namespace BatchSql
open Memory

/-- One more connection and one more statement are open than there were. -/
structure Memory.Stats.OneOpen (s₀ s : Stats) : Prop where
  connections : s.openConnections = s₀.openConnections + 1
  prepared : s.statementsPrepared = s₀.statementsPrepared + 1
  closed : s.statementsClosed = s₀.statementsClosed

/-- All that was opened in between is closed again. -/
structure Memory.Database.Settled (db db' : Database) : Prop where
  connections : db'.stats.openConnections = db.stats.openConnections
  sessions : ∃ more, db'.sessions = db.sessions ++ more ∧ ∀ s ∈ more, s.closed = true
  statements : ∃ more, db'.statements = db.statements ++ more ∧ (∀ p ∈ more, p.closed = true) ∧
    db'.stats.statementsPrepared = db.stats.statementsPrepared + more.length ∧
    db'.stats.statementsClosed = db.stats.statementsClosed + more.length

theorem Memory.Database.Settled.refl (db : Database) : db.Settled db :=
  ⟨rfl, ⟨[], (List.append_nil _).symm, nofun⟩, ⟨[], (List.append_nil _).symm, nofun, rfl, rfl⟩⟩

namespace WriteWorker

variable {σ τ : Type} {f : Focus σ Database} {db₀ db : Database} {sql : String}
  {staged : List Entry} {w : WriteWorker σ τ}

section Happens

variable {failures : List FailurePoint} {c : Call τ} {o : Outcome σ τ} {s₀ s : Stats}

theorem Flushes.oneOpen (h : Flushes failures sql staged w o) (hs : s₀.OneOpen s) :
    s₀.OneOpen (o.tally s) := by
  obtain ⟨hconnections, hprepared, hclosed⟩ := hs
  cases h with
  | idle hp => exact ⟨hconnections, hprepared, hclosed⟩
  | through hp hv => exact ⟨hconnections, hprepared, hclosed⟩
  | failed hp hv hpart => exact ⟨hconnections, hprepared, hclosed⟩

/-- Only a teardown closes what a worker has open. -/
theorem Happens.oneOpen (h : Happens failures sql staged w c o) (hs : s₀.OneOpen s) :
    s₀.OneOpen (o.tally s) := by
  cases h with
  | begun hr hp => exact hs
  | rolledBack hleft => exact ⟨hs.connections, hs.prepared, hs.closed⟩
  | refused hx => exact hs
  | taken hx hroom => exact hs
  | filled hx hfull hflush => exact hflush.oneOpen hs
  | flush hflush => exact hflush.oneOpen hs
  | finishBundle hflush => exact hflush.oneOpen hs

end Happens

/-- A worker that was set up when `db₀` was there is open, and nothing else was opened since. -/
structure Engaged (f : Focus σ Database) (db₀ : Database) (sql : String) (w : WriteWorker σ τ)
    (db : Database) (staged : List Entry) : Prop where
  hold : w.hold = some ((db₀.nextSeat sql).hold f)
  isOpen : w.state ≠ .closed
  sessions : db.sessions = db₀.sessions ++ [.staging staged]
  statements : db.statements = db₀.statements ++ [⟨db₀.sessions.length, sql, false⟩]
  counted : db₀.stats.OneOpen db.stats

theorem engaged_fresh (f : Focus σ Database) (db : Database) (username : Option String)
    (sql : String) (setter : ParameterSetter τ) (size : Nat) :
    Engaged f db sql (fresh f (db.nextSeat sql) setter size) (db.engaged username sql) [] where
  hold := rfl
  isOpen := by simp [fresh]
  sessions := Database.sessions_engaged db username sql
  statements := Database.statements_engaged db username sql
  counted := ⟨rfl, rfl, rfl⟩

theorem Engaged.place (h : Engaged f db₀ sql w db staged) : (db₀.nextSeat sql).Open db staged where
  session := by
    rw [h.sessions]
    exact List.getElem?_concat_length
  statement := by
    rw [h.statements]
    exact List.getElem?_concat_length

theorem Engaged.turn (h : Engaged f db₀ sql w db staged) (switches : List Switch) :
    Engaged f db₀ sql w (switches.foldl Switch.turn db) staged := by
  obtain ⟨failures, he⟩ := Switch.foldl_turn switches db
  rw [he]
  exact ⟨h.hold, h.isOpen, h.sessions, h.statements, h.counted⟩

/-- What is released was opened since. -/
theorem Engaged.settled (h : Engaged f db₀ sql w db staged) :
    db₀.Settled (db.released (db₀.nextSeat sql) staged) := by
  obtain ⟨hconnections, hprepared, hclosed⟩ := h.counted
  refine ⟨?_, ⟨[{ Session.staging staged with closed := true, staged := [] }], ?_, by simp⟩,
    ⟨[⟨db₀.sessions.length, sql, true⟩], ?_, by simp, hprepared, congrArg (· + 1) hclosed⟩⟩
  · change db.stats.openConnections - 1 = db₀.stats.openConnections
    rw [hconnections, Nat.add_sub_cancel]
  · simp [Database.released, Database.closeSession, Database.closeStatement, Database.tally,
      Database.nextSeat, h.sessions]
  · simp [Database.released, Database.closeSession, Database.closeStatement, Database.tally,
      Database.nextSeat, h.statements]

/-- Bundles are written up to the first that fails, and those after it do not matter. -/
inductive Writes (f : Focus σ Database) (world : σ) (w : WriteWorker σ τ) (db : Database)
    (bundles : List (List τ)) : Except Error Unit → WriteWorker σ τ → Database → Prop where
  | all {w' : WriteWorker σ τ} {db' : Database}
      (written : Does (w.writeBundles bundles) (f.set db world) (.ok (), w') (f.set db' world)) :
      Writes f world w db bundles (.ok ()) w' db'
  | stopped {e : Error} {w₁ w' : WriteWorker σ τ} {db₁ db' : Database} (front : List (List τ))
      (bad : List τ) (rest : List (List τ)) (split : bundles = front ++ bad :: rest)
      (before : Does (w.writeBundles front) (f.set db world) (.ok (), w₁) (f.set db₁ world))
      (failure : Does (w₁.writeBundle bad) (f.set db₁ world) (.error e, w') (f.set db' world))
      (others : ∀ others, Does (w.writeBundles (front ++ bad :: others)) (f.set db world)
        (.error e, w') (f.set db' world)) :
      Writes f world w db bundles (.error e) w' db'

theorem Writes.does {world : σ} {bundles : List (List τ)} {r : Except Error Unit}
    {w' : WriteWorker σ τ} {db' : Database} (h : Writes f world w db bundles r w' db') :
    Does (w.writeBundles bundles) (f.set db world) (r, w') (f.set db' world) := by
  cases h with
  | all hwritten => exact hwritten
  | stopped front bad rest hsplit hbefore hfailure hothers =>
    rw [hsplit]
    exact hothers rest

theorem Writes.after {world : σ} {bundle : List τ} {rest : List (List τ)} {r : Except Error Unit}
    {w₁ w' : WriteWorker σ τ} {db₁ db' : Database} (h : Writes f world w₁ db₁ rest r w' db')
    (hbundle : Does (w.writeBundle bundle) (f.set db world) (.ok (), w₁) (f.set db₁ world)) :
    Writes f world w db (bundle :: rest) r w' db' := by
  cases h with
  | all hwritten => exact .all (hbundle.bind hwritten)
  | stopped front bad rest hsplit hbefore hfailure hothers =>
    refine .stopped (bundle :: front) bad rest ?_ (hbundle.bind hbefore) hfailure
      fun others => hbundle.bind (hothers others)
    rw [hsplit, List.cons_append]

variable [f.Lawful] (world : σ)

/-- A call that is no teardown leaves the worker engaged. -/
theorem Engaged.call (h : Engaged f db₀ sql w db staged) {c : Call τ} (hc : c ≠ .teardown) :
    let o := w.openOutcome db.failures sql staged c
    Does (w.call c) (f.set db world) (o.answer, o.worker)
        (f.set (db.after (db₀.nextSeat sql) o) world) ∧
      Engaged f db₀ sql o.worker (db.after (db₀.nextSeat sql) o) o.staged := by
  intro o
  have hhappens := openOutcome_happens db.failures sql staged w hc
  obtain ⟨hhold, _, _, hopen⟩ := hhappens.keeps
  refine ⟨call_does world h.hold h.isOpen h.place hc, ?_⟩
  refine ⟨hhold.trans h.hold, hopen h.isOpen, ?_, h.statements, hhappens.oneOpen h.counted⟩
  change db.sessions.set db₀.sessions.length (.staging o.staged) = _
  simp [h.sessions]

theorem Engaged.teardown (h : Engaged f db₀ sql w db staged) :
    Does w.teardown (f.set db world) (closeVerdict db.failures, w.released)
      (f.set (db.released (db₀.nextSeat sql) staged) world) := by
  rw [closeVerdict_eq]
  exact teardown_open world h.hold h.isOpen h.place

theorem Engaged.processAll (h : Engaged f db₀ sql w db staged) (n : Nat) (xs : List τ) :
    ∃ r done w' db' staged', Does (w.processAll n xs) (f.set db world) (r, done, w')
        (f.set db' world) ∧
      Engaged f db₀ sql w' db' staged' ∧ db'.failures = db.failures := by
  induction xs generalizing w db staged n with
  | nil => exact ⟨_, n, w, db, staged, Does.pure _ _, h, rfl⟩
  | cons x xs ih =>
    obtain ⟨hcall, hnext⟩ := h.call (c := .process x) world nofun
    generalize w.openOutcome db.failures sql staged (.process x) = o at hcall hnext
    obtain ⟨r, w₁, tally, published, staged₁⟩ := o
    cases r with
    | ok u =>
      obtain ⟨r, done, w₂, db₂, staged₂, hrest, hlast, hkept⟩ := ih hnext (n + 1)
      exact ⟨r, done, w₂, db₂, staged₂, hcall.bind hrest, hlast, hkept⟩
    | error e => exact ⟨_, n, w₁, _, staged₁, hcall.bind (Does.pure _ _), hnext, rfl⟩

theorem Engaged.writeBundle (h : Engaged f db₀ sql w db staged) (xs : List τ) :
    ∃ r w' db' staged', Does (w.writeBundle xs) (f.set db world) (r, w') (f.set db' world) ∧
      Engaged f db₀ sql w' db' staged' ∧ db'.failures = db.failures := by
  obtain ⟨hstart, hbegun⟩ := h.call (c := .startBundle) world nofun
  generalize w.openOutcome db.failures sql staged .startBundle = o at hstart hbegun
  obtain ⟨r, w₁, tally, published, staged₁⟩ := o
  cases r with
  | error e => exact ⟨_, w₁, _, staged₁, hstart.bind (Does.pure _ _), hbegun, rfl⟩
  | ok u =>
    obtain ⟨r, done, w₂, db₂, staged₂, hloop, hthrough, hkept⟩ := hbegun.processAll world 0 xs
    cases r with
    | error e =>
      exact ⟨_, w₂, db₂, staged₂, hstart.bind (hloop.bind (Does.pure _ _)), hthrough, hkept⟩
    | ok u =>
      obtain ⟨hfinish, hdone⟩ := hthrough.call (c := .finishBundle) world nofun
      exact ⟨_, _, _, _, hstart.bind (hloop.bind hfinish), hdone, hkept⟩

theorem Engaged.writeBundles (h : Engaged f db₀ sql w db staged) (bundles : List (List τ)) :
    ∃ r w' db' staged', Writes f world w db bundles r w' db' ∧ Engaged f db₀ sql w' db' staged' ∧
      db'.failures = db.failures := by
  induction bundles generalizing w db staged with
  | nil => exact ⟨_, w, db, staged, .all (Does.pure _ _), h, rfl⟩
  | cons bundle rest ih =>
    obtain ⟨r, w₁, db₁, staged₁, hbundle, hnext, hkept⟩ := h.writeBundle world bundle
    cases r with
    | error e =>
      refine ⟨.error e, w₁, db₁, staged₁, ?_, hnext, hkept⟩
      exact .stopped [] bundle rest rfl (Does.pure _ _) hbundle
        fun others => hbundle.bind (Does.pure _ _)
    | ok u =>
      obtain ⟨r, w₂, db₂, staged₂, hwrites, hlast, hkept'⟩ := ih hnext
      exact ⟨r, w₂, db₂, staged₂, hwrites.after hbundle, hlast, hkept'.trans hkept⟩

/-- Calls that are no teardown leave the worker engaged. -/
theorem Engaged.drive (h : Engaged f db₀ sql w db staged) {calls : List (List Switch × Call τ)}
    (hcalls : ∀ item ∈ calls, item.2 ≠ .teardown) :
    ∃ deeds w' db', Does (w.drive f calls) (f.set db world) (deeds, w') (f.set db' world) ∧
      ∃ staged', Engaged f db₀ sql w' db' staged' := by
  refine Switch.does_inTurn world (watch f)
    (fun _ _ w' db' => ∃ staged', Engaged f db₀ sql w' db' staged') ?_ ⟨staged, h⟩
  rintro item hitem _ _ w' db' ⟨staged', h'⟩
  obtain ⟨hcall, hnext⟩ := (h'.turn item.1).call world (hcalls item hitem)
  exact ⟨_, _, _, watch_does world hcall rfl, _, hnext⟩

/-- Both closes were made, and what was pending is dropped. -/
structure TornDown (w w' : WriteWorker σ τ) (db db' : Database) : Prop where
  wasOpen : w.state ≠ .closed
  state : w'.state = .closed
  pending : w'.pending = []
  stats : w'.stats = w.stats
  committed : db'.committed = db.committed
  statement : db'.stats.statementsClosed = db.stats.statementsClosed + 1
  connection : db'.stats.openConnections + 1 = db.stats.openConnections

omit [f.Lawful] in
theorem Engaged.tornDown (h : Engaged f db₀ sql w db staged) :
    TornDown w w.released db (db.released (db₀.nextSeat sql) staged) where
  wasOpen := h.isOpen
  state := rfl
  pending := rfl
  stats := rfl
  committed := rfl
  statement := rfl
  connection := by
    change db.stats.openConnections - 1 + 1 = db.stats.openConnections
    rw [h.counted.connections, Nat.add_sub_cancel]

/-- Calls of a closed worker do nothing. -/
theorem drive_closed (hw : w.hold = none) (hs : w.state = .closed) (hp : w.pending = [])
    (calls : List (List Switch × Call τ)) :
    Does (w.drive f calls) (f.set db world)
      (calls.map fun item => ⟨item.2, closedAnswer item.2, [], .closed, 0, w.stats⟩, w)
      (f.set ((calls.flatMap Prod.fst).foldl Switch.turn db) world) := by
  have hdone : ∃ deeds w' db', Does (w.drive f calls) (f.set db world) (deeds, w')
      (f.set db' world) ∧
      deeds = calls.map (fun item => ⟨item.2, closedAnswer item.2, [], .closed, 0, w.stats⟩) ∧
      w' = w ∧ db' = (calls.flatMap Prod.fst).foldl Switch.turn db := by
    refine Switch.does_inTurn world (watch f) (fun done deeds w' db' =>
      deeds = done.map (fun item => ⟨item.2, closedAnswer item.2, [], .closed, 0, w.stats⟩) ∧
        w' = w ∧ db' = (done.flatMap Prod.fst).foldl Switch.turn db) ?_ ⟨rfl, rfl, rfl⟩
    rintro item - done _ _ db₁ ⟨rfl, rfl, hdb⟩
    have hwatch := watch_does (f := f) world
      (call_closed hw hs hp item.2 (f.set (item.1.foldl Switch.turn db₁) world))
      (List.append_nil _).symm
    rw [hs, hp] at hwatch
    refine ⟨_, _, _, hwatch, ?_, rfl, ?_⟩
    · rw [List.map_append]
      rfl
    · rw [hdb, List.flatMap_append, List.flatMap_singleton, List.foldl_append]
  obtain ⟨_, _, _, hdrive, rfl, rfl, rfl⟩ := hdone
  exact hdrive

end WriteWorker

namespace WriteConnector

variable {σ τ : Type} {f : Focus σ Database} {registry : Registry σ} {c : WriteConnector σ τ}
  {db db' : Database}

/-- What can come of setting a worker up. -/
inductive Sets (f : Focus σ Database) (c : WriteConnector σ τ) (db : Database) :
    Except Error (WriteWorker σ τ) → Database → Prop where
  | invalid {e : Error} (invalid : c.validate = .error e) : Sets f c db (.error e) db
  | unconnected {e : Error} (valid : c.validate = .ok ()) (category : e.category = .connection) :
      Sets f c db (.error e) db
  | unprepared (username : Option String) (valid : c.validate = .ok ()) :
      Sets f c db (.error (.connectionFrom "write worker setup failed" FailurePoint.prepare.error))
        (((db.opened username).stage db.sessions.length []).closeSession db.sessions.length
          (.staging []))
  | ready (username : Option String) (sql : String) (setter : ParameterSetter τ) :
      Sets f c db (.ok (.fresh f (db.nextSeat sql) setter c.batchSize)) (db.engaged username sql)

/-- What a setup that failed has left. -/
structure Unset (c : WriteConnector σ τ) (e : Error) (db db' : Database) : Prop where
  connections : db'.stats.openConnections = db.stats.openConnections
  configuration : e.category = .configuration ↔ c.validate ≠ .ok ()
  invalid : c.validate ≠ .ok () → db' = db
  connection : c.validate = .ok () → e.category = .connection

theorem Sets.unset {e : Error} (h : Sets f c db (.error e) db') : Unset c e db db' := by
  cases h with
  | invalid hv =>
    exact ⟨rfl, by simp [hv, category_of_invalid hv], fun _ => rfl, by simp [hv]⟩
  | unconnected hv hcategory =>
    exact ⟨rfl, by simp [hv, hcategory], fun _ => rfl, fun _ => hcategory⟩
  | unprepared username hv =>
    exact ⟨rfl, by simp [hv, Error.category], fun hno => absurd hv hno, fun _ => rfl⟩

theorem Sets.settled {e : Error} (h : Sets f c db (.error e) db') : db.Settled db' := by
  cases h with
  | invalid hv => exact .refl db
  | unconnected hv hcategory => exact .refl db
  | unprepared username hv =>
    refine ⟨rfl, ⟨[{ Session.staging [] with closed := true, staged := [] }], ?_, by simp⟩,
      ⟨[], (List.append_nil _).symm, nofun, rfl, rfl⟩⟩
    simp [Database.closeSession, Database.stage, Database.opened, Database.tally]

theorem Sets.engaged {w : WriteWorker σ τ} (h : Sets f c db (.ok w) db') :
    ∃ sql, WriteWorker.Engaged f db sql w db' [] ∧ db'.failures = db.failures := by
  cases h with
  | ready username sql setter =>
    exact ⟨sql, WriteWorker.engaged_fresh f db username sql setter c.batchSize, rfl⟩

/-- How the writing of bundles ends: with the error of the setup, with that of the first bundle
that fails, whatever comes after it, or with what closing comes to. -/
inductive Ends (f : Focus σ Database) (registry : Registry σ) (c : WriteConnector σ τ) (world : σ)
    (db : Database) (bundles : List (List τ)) : Except Error WriteStats → Database → Prop where
  | unset {e : Error} {db' : Database}
      (setup : Does (c.setup registry).run (f.set db world) (.error e) (f.set db' world)) :
      Ends f registry c world db bundles (.error e) db'
  | stopped {e : Error} {w₀ w₁ w₂ : WriteWorker σ τ} {db₀ db₁ db₂ db' : Database}
      (front : List (List τ)) (bad : List τ) (rest : List (List τ))
      (split : bundles = front ++ bad :: rest)
      (setup : Does (c.setup registry).run (f.set db world) (.ok w₀) (f.set db₀ world))
      (before : Does (w₀.writeBundles front) (f.set db₀ world) (.ok (), w₁) (f.set db₁ world))
      (failure : Does (w₁.writeBundle bad) (f.set db₁ world) (.error e, w₂) (f.set db₂ world))
      (others : ∀ others, Does (c.writeBundles registry (front ++ bad :: others)).run
        (f.set db world) (.error e) (f.set db' world)) :
      Ends f registry c world db bundles (.error e) db'
  | written {w₀ w₁ : WriteWorker σ τ} {db₀ db₁ db' : Database}
      (setup : Does (c.setup registry).run (f.set db world) (.ok w₀) (f.set db₀ world))
      (written : Does (w₀.writeBundles bundles) (f.set db₀ world) (.ok (), w₁) (f.set db₁ world)) :
      Ends f registry c world db bundles ((closeVerdict db.failures).map fun _ => w₁.stats) db'

variable [f.Lawful] (world : σ)

/-- Setting a worker up comes to an end, wherever the connection leads. -/
theorem setup_sets (hl : ∀ config, c.config = some config → Leads f registry config) :
    ∃ r db', Does (c.setup registry).run (f.set db world) r (f.set db' world) ∧
      Sets f c db r db' := by
  cases hv : c.validate with
  | error e => exact ⟨_, db, setup_invalid hv _, .invalid hv⟩
  | ok u =>
    obtain ⟨config, sql, setter, hc, hs, ht, _, hvalid⟩ := parts_of_valid hv
    rcases (hl config hc).acquire hvalid with hr | ⟨e, hcategory, hrefused⟩
    · by_cases hconnect : .connect ∈ db.failures
      · exact ⟨_, db, setup_unconnected world hv hc hr hconnect, .unconnected hv rfl⟩
      · by_cases hp : .prepare ∈ db.failures
        · obtain ⟨username, hsetup⟩ := setup_unprepared world hv hc hr hconnect hp
          exact ⟨_, _, hsetup, .unprepared username hv⟩
        · obtain ⟨username, hsetup⟩ := setup_ok world hv hc hr hs ht hconnect hp
          exact ⟨_, _, hsetup, .ready username sql setter⟩
    · exact ⟨_, db, setup_refused hv hc (hrefused _), .unconnected hv hcategory⟩

omit [f.Lawful] in
/-- A worker is torn down however its bundles end, and a bundle that fails comes first. -/
theorem does_writeBundles {bundles : List (List τ)} {w w₁ w₂ : WriteWorker σ τ}
    {written closed : Except Error Unit} {s s₁ s₂ s₃ : σ}
    (hsetup : Does (c.setup registry).run s (.ok w) s₁)
    (hwrite : Does (w.writeBundles bundles) s₁ (written, w₁) s₂)
    (hclose : Does w₁.teardown s₂ (closed, w₂) s₃) :
    Does (c.writeBundles registry bundles).run s
      (written.bind fun _ => closed.map fun _ => w₂.stats) s₃ := by
  refine Does.task_bind hsetup (Does.task_bind (Does.lift hwrite)
    (Does.task_bind (Does.lift hclose) ?_))
  cases written with
  | error e => exact Does.task_bind_error (Does.ofExcept _ _)
  | ok u =>
    refine Does.task_bind (Does.ofExcept _ _) ?_
    cases closed with
    | error e => exact Does.task_bind_error (Does.ofExcept _ _)
    | ok u => exact Does.task_bind (Does.ofExcept _ _) (Does.pure _ _)

/-- Whatever fails, what was opened for the bundles is closed again. -/
theorem writeBundles_ends (hl : ∀ config, c.config = some config → Leads f registry config)
    (bundles : List (List τ)) :
    ∃ r db', Does (c.writeBundles registry bundles).run (f.set db world) r (f.set db' world) ∧
      db.Settled db' ∧ Ends f registry c world db bundles r db' := by
  obtain ⟨r, db₀, hsetup, hsets⟩ := setup_sets world hl
  cases r with
  | error e => exact ⟨_, db₀, Does.task_bind_error hsetup, hsets.settled, .unset hsetup⟩
  | ok w₀ =>
    obtain ⟨sql, hengaged, hkept₀⟩ := hsets.engaged
    obtain ⟨r, w₁, db₁, staged, hwrites, hlast, hkept₁⟩ := hengaged.writeBundles world bundles
    have hclose := hlast.teardown world
    refine ⟨_, _, does_writeBundles hsetup hwrites.does hclose, hlast.settled, ?_⟩
    cases hwrites with
    | all hwritten =>
      have hends : Ends f registry c world db bundles ((closeVerdict db.failures).map
          fun _ => w₁.stats) (db₁.released (db.nextSeat sql) staged) := .written hsetup hwritten
      rw [hkept₁, hkept₀]
      exact hends
    | stopped front bad rest hsplit hbefore hfailure hothers =>
      exact .stopped front bad rest hsplit hsetup hbefore hfailure
        fun others => does_writeBundles hsetup (hothers others) hclose

end WriteConnector

/-- Whatever fails while bundles are written, nothing that was opened stays open. A setup that
fails says why, the bundles after one that fails do not matter, and a worker that is torn down does
nothing any more. -/
theorem writes_leave_nothing_open {σ τ : Type} {f : Focus σ Database} [f.Lawful]
    {registry : Registry σ} {c : WriteConnector σ τ} (db : Database) (world : σ)
    (hl : ∀ config, c.config = some config → Leads f registry config) :
    (∃ r db', Does (c.setup registry).run (f.set db world) r (f.set db' world) ∧
      ∀ e, r = .error e → WriteConnector.Unset c e db db') ∧
    (∀ bundles, ∃ r db', Does (c.writeBundles registry bundles).run (f.set db world) r
        (f.set db' world) ∧
      db.Settled db' ∧ WriteConnector.Ends f registry c world db bundles r db') ∧
    ∀ w s, Does (c.setup registry).run (f.set db world) (.ok w) s →
      ∀ (before after : List (List Switch × Call τ)) (switches : List Switch),
        (∀ item ∈ before, item.2 ≠ .teardown) →
      ∃ deeds w₁ db₁ w₂ db₂, Does (w.drive f before) s (deeds, w₁) (f.set db₁ world) ∧
        Does w₁.teardown (f.set (switches.foldl Switch.turn db₁) world)
          (closeVerdict (switches.foldl Switch.turn db₁).failures, w₂) (f.set db₂ world) ∧
        WriteWorker.TornDown w₁ w₂ (switches.foldl Switch.turn db₁) db₂ ∧ db.Settled db₂ ∧
        Does (w₂.drive f after) (f.set db₂ world)
          (after.map fun item =>
            ⟨item.2, WriteWorker.closedAnswer item.2, [], .closed, 0, w₁.stats⟩, w₂)
          (f.set ((after.flatMap Prod.fst).foldl Switch.turn db₂) world) := by
  refine ⟨?_, WriteConnector.writeBundles_ends world hl, ?_⟩
  · obtain ⟨r, db', hsetup, hsets⟩ := WriteConnector.setup_sets world hl
    refine ⟨r, db', hsetup, ?_⟩
    rintro e rfl
    exact hsets.unset
  · intro w s hw before after switches hbefore
    obtain ⟨r, db₀, hsetup, hsets⟩ := WriteConnector.setup_sets world hl
    obtain ⟨rfl, rfl⟩ := hw.unique hsetup
    obtain ⟨sql, hengaged, _⟩ := hsets.engaged
    obtain ⟨deeds, w₁, db₁, hdrive, staged, hlast⟩ := hengaged.drive world hbefore
    have hturned := hlast.turn switches
    exact ⟨deeds, w₁, db₁, w₁.released, _, hdrive, hturned.teardown world, hturned.tornDown,
      hturned.settled, WriteWorker.drive_closed world rfl rfl rfl after⟩

/-- Both closes fail after the bundles are written, and the first of them is the answer. -/
theorem writes_leave_nothing_open_unclosable :
    let setter : ParameterSetter Int64 := ⟨"one value", fun n => .ok ⟨[some (.int64 n)]⟩⟩
    let config : ConnectionConfig Database := .ofSource (dataSource .self)
    let c : WriteConnector Database Int64 := ⟨some config, some "SET ?", some setter, 2⟩
    let db : Database := { Database.empty with failures := [.statementClose, .connectionClose] }
    (∀ config', c.config = some config' → Leads .self [] config') ∧
    ∃ r db', Does (c.writeBundles [] [[1, 2, 3], []]).run db r db' ∧ db.Settled db' ∧
      WriteConnector.Ends .self [] c db db [[1, 2, 3], []] r db' ∧
      r = .error FailurePoint.statementClose.error := by
  intro setter config c db
  have hleads : ∀ config', c.config = some config' → Leads .self [] config' := by
    rintro _ ⟨rfl⟩
    exact .reaches (.source rfl)
  have hanswer : ((c.writeBundles [] [[1, 2, 3], []]).run.run ⟨db, #[]⟩).1 =
      .error FailurePoint.statementClose.error := by decide +kernel
  obtain ⟨_, hwrites, _⟩ := writes_leave_nothing_open (f := .self) db db hleads
  obtain ⟨r, db', hdoes, hsettled, hends⟩ := hwrites [[1, 2, 3], []]
  exact ⟨hleads, r, db', hdoes, hsettled, hends, (hdoes.run #[]).1.symm.trans hanswer⟩

end BatchSql
