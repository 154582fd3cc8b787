import BatchSql.Proofs.Memory.Acquire
import BatchSql.Proofs.Read.Calls

namespace BatchSql
open Memory

/-- Errors that a codec or a host has of its own. A reading hands them on as they are. -/
inductive HandedIn {η τ : Type} (codec : Codec τ) (host : Host η τ) : Error → Prop where
  | encoding {record : τ} {e : Error} (failure : codec.encodeAlone record = .error e) :
      HandedIn codec host e
  | decoding {bs : Octets} {e : Error} (failure : codec.decodeAlone bs = .error e) :
      HandedIn codec host e
  | grouping {keyed : List Keyed} {t t' : Traced η} {e : Error}
      (failure : (host.group keyed).run.run t = (.error e, t')) : HandedIn codec host e
  | emitting {record : τ} {t t' : Traced η} {e : Error}
      (failure : (host.emit record).run.run t = (.error e, t')) : HandedIn codec host e

/-- All that is left of what was opened in between is that it is counted. -/
structure Memory.Database.ReadOnce (db db' : Database) : Prop where
  connections : db'.stats.openConnections = db.stats.openConnections
  opened : db'.stats.connectionsOpened ≤ db.stats.connectionsOpened + 1
  queries : db'.stats.queries ≤ db.stats.queries + 1
  sessions : ∃ more, db'.sessions = db.sessions ++ more ∧ ∀ s ∈ more, s.closed = true

theorem Memory.Database.ReadOnce.refl (db : Database) : db.ReadOnce db :=
  ⟨rfl, Nat.le_succ _, Nat.le_succ _, [], (List.append_nil _).symm, nofun⟩

/-- A session was opened, used for at most one query, and closed. -/
theorem Memory.Database.readOnce_closeSession (db : Database) (username : Option String)
    {db' : Database} (h : db' = db.opened username ∨ db' = (db.opened username).tally .query) :
    db.ReadOnce (db'.closeSession db.sessions.length .fresh) := by
  have hsessions : db'.sessions = db.sessions ++ [.fresh] := by
    rcases h with rfl | rfl
    · rfl
    · rfl
  have hclosed : (db'.closeSession db.sessions.length .fresh).sessions =
      db.sessions ++ [⟨true, true, []⟩] := by
    simp [Database.closeSession, Database.tally, hsessions, Session.fresh]
  refine ⟨?_, ?_, ?_, [⟨true, true, []⟩], hclosed, by simp⟩
  · rcases h with rfl | rfl
    · exact Nat.add_sub_cancel db.stats.openConnections 1
    · exact Nat.add_sub_cancel db.stats.openConnections 1
  · rcases h with rfl | rfl
    · exact Nat.le_refl _
    · exact Nat.le_refl _
  · rcases h with rfl | rfl
    · exact Nat.le_succ _
    · exact Nat.le_refl _

namespace ReadWorker

variable {σ η τ : Type} {mapper : RowMapper τ} {codec : Codec τ} {host : Host η τ}

/-- What can go wrong in a call of an open worker. -/
inductive Fails (mapper : RowMapper τ) (codec : Codec τ) (host : Host η τ) : Error → Prop where
  | query {e : Error} (category : e.category = .query) : Fails mapper codec host e
  | mapping (index : Nat) {row : Row} {e : Error} (rejected : mapper.map row = .error e) :
      Fails mapper codec host (.rowMapping index e)
  | handedIn {e : Error} (handedIn : HandedIn codec host e) : Fails mapper codec host e

/-- Only what is handed in can be an error in the configuration. -/
theorem Fails.handedIn_of_configuration {e : Error} (h : Fails mapper codec host e)
    (he : e.category = .configuration) : HandedIn codec host e := by
  cases h with
  | query hcategory =>
    rw [hcategory] at he
    cases he
  | mapping index hrejected => cases he
  | handedIn hhanded => exact hhanded

/-- The barrier, if there is one, encodes with this codec. -/
def Uses (codec : Codec τ) (barrier : Option (FusionBarrier τ)) : Prop :=
  ∀ b, barrier = some b → b.codec = codec

theorem uses_none : Uses codec none :=
  nofun

theorem pass_fails (host : Host η τ) {barrier : Option (FusionBarrier τ)}
    (hb : Uses codec barrier) (record : τ) (t : Traced η) :
    ∃ r after t', (pass host barrier record).run t = ((r, after), t') ∧ Uses codec after ∧
      ∀ e, r = .error e → HandedIn codec host e := by
  cases barrier with
  | none =>
    rcases hemit : (host.emit record).run.run t with ⟨r, t'⟩
    refine ⟨r, none, t', run_step_bind hemit, uses_none, ?_⟩
    rintro e rfl
    exact .emitting hemit
  | some b =>
    have hcodec := hb b rfl
    rcases hencode : b.codec.encodeAlone record with e | bs
    · refine ⟨.error e, some { b with drawn := b.drawn + 1 }, t, ?_, ?_, ?_⟩
      · rw [pass]
        dsimp only
        rw [FusionBarrier.emit]
        dsimp only
        rw [hencode]
        rfl
      · rintro _ ⟨rfl⟩
        exact hcodec
      · rintro _ ⟨rfl⟩
        rw [hcodec] at hencode
        exact .encoding hencode
    · refine ⟨.ok (), some (b.taking bs), t, ?_, ?_, ?_⟩
      · rw [pass]
        dsimp only
        rw [FusionBarrier.emit_ok hencode]
        rfl
      · rintro _ ⟨rfl⟩
        exact hcodec
      · rintro _ ⟨⟩

theorem scan_fails (host : Host η τ) (mapper : RowMapper τ) (rows : List Row) (index : Nat)
    {barrier : Option (FusionBarrier τ)} (hb : Uses codec barrier) (t : Traced η) :
    ∃ s t', (scan mapper host (.ok none) (Cursor.ofRows rows).coming index barrier).run t =
        (s, t') ∧ Uses codec s.barrier ∧
      ∀ e, s.outcome = .error e → Fails mapper codec host e := by
  induction rows generalizing index barrier t with
  | nil => exact ⟨_, t, rfl, hb, nofun⟩
  | cons row rest ih =>
    change ∃ s t', (scan mapper host (.ok none)
      (.ok (some row) :: (Cursor.ofRows rest).coming) index barrier).run t = (s, t') ∧ _
    rw [scan]
    cases hrow : mapper.map row with
    | error e =>
      refine ⟨_, t, rfl, hb, ?_⟩
      rintro _ ⟨rfl⟩
      exact .mapping index hrow
    | ok record =>
      obtain ⟨r, after, t₁, hpass, hafter, hhanded⟩ := pass_fails host hb record t
      cases r with
      | error e =>
        refine ⟨⟨.error e, index, after⟩, t₁, run_step_bind hpass, hafter, ?_⟩
        rintro _ ⟨rfl⟩
        exact .handedIn (hhanded e rfl)
      | ok u =>
        obtain ⟨s, t₂, hscan, hlast, hfails⟩ := ih (index + 1) hafter
          { t₁ with events := t₁.events.push ⟨.trace, "Emitted row", [("row", toString index)]⟩ }
        exact ⟨s, t₂, (run_step_bind hpass).trans ((run_step_bind (run_step_log _ _ _ _)).trans
          hscan), hlast, hfails⟩

theorem release_fails (n : Nat) (bss : List Octets) {t t' : Traced η} {e : Error}
    (h : (FusionBarrier.release codec host n bss).run.run t = (.error e, t')) :
    HandedIn codec host e := by
  induction bss generalizing n t with
  | nil => cases h
  | cons bs rest ih =>
    rw [FusionBarrier.release] at h
    rcases of_run_bind h with ⟨_, hdecode, ⟨rfl⟩⟩ | ⟨record, t₁, hdecode, hafter⟩
    · rw [run_ofExcept] at hdecode
      exact .decoding (Prod.mk.inj hdecode).1
    · rcases of_run_bind hafter with ⟨_, hemit, ⟨rfl⟩⟩ | ⟨u, t₂, hemit, hrest⟩
      · exact .emitting hemit
      · exact ih (n + 1) hrest

theorem flush_fails (host : Host η τ) {b : FusionBarrier τ} (hb : b.codec = codec) (t : Traced η) :
    ∃ r t', (b.flush host).run t = ((r, b.clear), t') ∧
      ∀ e, r = .error e → HandedIn codec host e := by
  refine ⟨_, _, rfl, ?_⟩
  intro e he
  rcases of_run_bind (Prod.ext he rfl) with ⟨_, hgroup, ⟨rfl⟩⟩ | ⟨groups, t₁, hgroup, hafter⟩
  · exact .grouping hgroup
  · rw [run_bind_ok (run_task_log _ _ _ _), hb] at hafter
    exact release_fails _ _ hafter

theorem settle_fails {s : Scanned τ} (hb : Uses codec s.barrier)
    (hs : ∀ e, s.outcome = .error e → Fails mapper codec host e) (t : Traced η) :
    ∃ r after t', (settle host s).run t = ((r, after), t') ∧
      ∀ e, r = .error e → Fails mapper codec host e := by
  obtain ⟨outcome, rows, barrier⟩ := s
  cases outcome with
  | error e =>
    refine ⟨.error e, barrier.map FusionBarrier.clear, t, rfl, ?_⟩
    rintro _ ⟨rfl⟩
    exact hs e rfl
  | ok u =>
    cases barrier with
    | none => exact ⟨.ok rows, none, t, rfl, nofun⟩
    | some b =>
      obtain ⟨r, t', hflush, hhanded⟩ := flush_fails host (hb b rfl) t
      exact ⟨r, some b.clear, t', run_step_bind hflush, fun e he => .handedIn (hhanded e he)⟩

section Open

variable {f : Focus σ Database} [f.Lawful] {w : ReadWorker σ τ} {db : Database} {i : Nat}
  {session : Session} (world : σ)

/-- A query is counted at most once, and changes nothing else. -/
theorem query_does (sql : String) (hs : db.sessions[i]? = some session)
    (ho : session.closed = false) :
    ∃ db', (db' = db ∨ db' = db.tally .query) ∧
      ((∃ rows, Does ((Memory.connection f i).queryStream sql []).run (f.set db world)
          (.ok (.ofRows rows)) (f.set db' world)) ∨
        ∃ e : Error, e.category = .query ∧
          Does ((Memory.connection f i).queryStream sql []).run (f.set db world) (.error e)
            (f.set db' world)) := by
  have hfails {db' : Database} {e : Error}
      (h : (Action.query i sql []).run.run db = (.error e, db')) :
      Does ((Memory.connection f i).queryStream sql []).run (f.set db world) (.error e)
        (f.set db' world) :=
    Does.task_bind_error (does_task_ofState world h)
  by_cases hq : .query ∈ db.failures
  · have hrun : (Action.query i sql []).run.run db = (.error FailurePoint.query.error, db) := by
      rw [Action.query, run_bind_ok (Action.run_openSession hs ho),
        run_bind_error (Action.run_check_failing hq)]
    exact ⟨db, .inl rfl, .inr ⟨_, rfl, hfails hrun⟩⟩
  · by_cases hp : placeholders sql = ([] : List Value).length
    · cases hr : Assoc.get? (Text.squeeze sql) db.results with
      | none =>
        have hrun := Action.run_query_unseeded hs ho hq hp hr
        exact ⟨db.tally .query, .inr rfl, .inr ⟨_, rfl, hfails hrun⟩⟩
      | some rows =>
        have hrun := Action.run_query hs ho hq hp hr
        exact ⟨db.tally .query, .inr rfl,
          .inl ⟨rows, Does.task_bind (does_task_ofState world hrun) (Does.pure _ _)⟩⟩
    · have hrun : (Action.query i sql []).run.run db =
          (.error (.query "parameter count mismatch" (some sql)), db) := by
        rw [Action.query, run_bind_ok (Action.run_openSession hs ho),
          run_bind_ok (Action.run_check hq), if_pos hp]
        rfl
      exact ⟨db, .inl rfl, .inr ⟨_, rfl, hfails hrun⟩⟩

/-- A call leaves the connection open, however it ends. -/
theorem process_fails (host : Host η τ) (hw : w.connection = some (Memory.connection f i))
    (hs : db.sessions[i]? = some session) (ho : session.closed = false)
    (hb : Uses codec w.barrier) (s : η) (events : Array Event) :
    ∃ r w' db' s' events', (w.process host).run ⟨(f.set db world, s), events⟩ =
        ((r, w'), ⟨(f.set db' world, s'), events'⟩) ∧
      w'.connection = some (Memory.connection f i) ∧ (db' = db ∨ db' = db.tally .query) ∧
      ∀ e, r = .error e → Fails w.mapper codec host e := by
  obtain ⟨held, query, mapper, barrier, stats⟩ := w
  obtain rfl : held = some (Memory.connection f i) := hw
  obtain ⟨db', hdb, ⟨rows, hquery⟩ | ⟨e, hcategory, hquery⟩⟩ :=
    query_does (f := f) world query hs ho
  · obtain ⟨events₁, hfirst⟩ := does_task_within (f := .first) (f.set db world, s) hquery events
    obtain ⟨scanned, ⟨s₁, events₂⟩, hscan, hafter, hscanned⟩ :=
      scan_fails host mapper rows 0 hb ⟨s, events₁⟩
    obtain ⟨r, after, ⟨s₂, events₃⟩, hsettle, hfails⟩ := settle_fails hafter hscanned
      ⟨s₁, events₂.push ⟨.debug, "Query finished", [("rows", toString scanned.rows)]⟩⟩
    have hsecond := run_within_of (f := .second) (f.set db' world, s) hscan
    have hlast := run_within_of (f := .second) (f.set db' world, s₁) hsettle
    refine ⟨r, ⟨some (Memory.connection f i), query, mapper, after, stats.queries + 1,
      stats.rowsRead + scanned.rows⟩, db', s₂, events₃, ?_, rfl, hdb, hfails⟩
    exact (run_step_bind hfirst).trans ((run_step_bind hsecond).trans
      ((run_step_bind (run_step_log _ _ _ _)).trans (run_step_bind hlast)))
  · obtain ⟨events₁, hfirst⟩ := does_task_within (f := .first) (f.set db world, s) hquery events
    refine ⟨.error e, _, db', s, events₁, run_step_bind hfirst, rfl, hdb, ?_⟩
    rintro _ ⟨rfl⟩
    exact .query hcategory

/-- The connection is closed, also where closing it is reported to fail. -/
theorem teardown_open (hw : w.connection = some (Memory.connection f i))
    (hs : db.sessions[i]? = some session) (ho : session.closed = false) :
    Does w.teardown (f.set db world) (db.verdict .connectionClose, { w with connection := none })
      (f.set (db.closeSession i session) world) := by
  have hclose := does_task_ofState (f := f) world (Action.run_close hs ho)
  obtain ⟨held, query, mapper, barrier, stats⟩ := w
  obtain rfl : held = some (Memory.connection f i) := hw
  refine Does.bind hclose ?_
  cases db.verdict .connectionClose with
  | error e => exact Does.after_log (Does.pure _ _)
  | ok u => exact Does.after_log (Does.pure _ _)

end Open

/-- A call of a worker that is used directly. -/
inductive Call (η τ : Type) where
  | process (host : Host η τ)
  | teardown

def call (w : ReadWorker σ τ) : Call η τ → Step (σ × η) (Except Error Nat × ReadWorker σ τ)
  | .process host => w.process host
  | .teardown => do
    let (r, w) ← Step.within .first w.teardown
    pure (r.map fun _ => 0, w)

/-- Calls are made one after the other, whatever they answer. -/
def callAll (w : ReadWorker σ τ) (calls : List (Call η τ)) :
    Step (σ × η) (List (Except Error Nat) × ReadWorker σ τ) :=
  Step.inTurn call w calls

/-- What a closed worker answers. -/
def closedAnswer : Call η τ → Except Error Nat
  | .process _ => .error (.connection "read worker is closed")
  | .teardown => .ok 0

theorem call_closed {w : ReadWorker σ τ} (h : w.connection = none) (c : Call η τ)
    (t : Traced (σ × η)) : (w.call c).run t = ((closedAnswer c, w), t) := by
  obtain ⟨held, query, mapper, barrier, stats⟩ := w
  obtain rfl : held = none := h
  cases c with
  | process host => rfl
  | teardown => rfl

/-- Calls of a closed worker do nothing, and nothing is noted of them. -/
theorem callAll_closed {w : ReadWorker σ τ} (h : w.connection = none) (calls : List (Call η τ))
    (t : Traced (σ × η)) : (w.callAll calls).run t = ((calls.map closedAnswer, w), t) := by
  induction calls with
  | nil => rfl
  | cons c rest ih => exact (run_step_bind (call_closed h c t)).trans (run_step_bind ih)

/-- After a teardown there is no connection, whatever it answered. -/
theorem teardown_closes (w : ReadWorker σ τ) (t : Traced σ) :
    ∃ r w' t', w.teardown.run t = ((r, w'), t') ∧ w'.connection = none := by
  obtain ⟨held, query, mapper, barrier, stats⟩ := w
  cases held with
  | none => exact ⟨.ok (), _, t, rfl, rfl⟩
  | some connection =>
    rcases hclose : connection.close.run.run t with ⟨e | u, t₁⟩
    · exact ⟨.error e, ⟨none, query, mapper, barrier, stats⟩, _,
        (run_step_bind hclose).trans (run_step_bind (run_step_log _ _ _ _)), rfl⟩
    · exact ⟨.ok u, ⟨none, query, mapper, barrier, stats⟩, _,
        (run_step_bind hclose).trans (run_step_bind (run_step_log _ _ _ _)), rfl⟩

end ReadWorker

namespace ReadConnector

variable {σ η τ : Type} {f : Focus σ Database} {registry : Registry σ} {c : ReadConnector σ τ}
  {keys : Nat → UInt32} {host : Host η τ}

theorem category_of_invalid {e : Error} (h : c.validate = .error e) :
    e.category = .configuration := by
  obtain ⟨config, query, mapper, codec, fusion⟩ := c
  rw [validate] at h
  cases query with
  | none => cases h; rfl
  | some query =>
    dsimp only at h
    split at h
    · cases h; rfl
    · cases mapper with
      | none => cases h; rfl
      | some mapper =>
        cases codec with
        | none => cases h; rfl
        | some codec =>
          cases config with
          | none => cases h; rfl
          | some config => exact config.category_of_invalid h

theorem config_of_valid {config : ConnectionConfig σ} (h : c.validate = .ok ())
    (hc : c.config = some config) : config.validate = .ok () := by
  obtain ⟨_, query, mapper, codec, _, hquery, hmapper, hcodec⟩ := parts_of_valid h
  rw [validate] at h
  simp only [hquery, hmapper, hcodec, hc] at h
  split at h
  · cases h
  · exact h

/-- A worker that is set up, called once and torn down, with the answers of the call and of the
teardown. -/
inductive Invokes (c : ReadConnector σ τ) (registry : Registry σ) (keys : Nat → UInt32)
    (host : Host η τ) (t : Traced (σ × η)) :
    Except Error Nat → Except Error Unit → ReadStats → Traced (σ × η) → Prop where
  | steps {w w₁ w₂ : ReadWorker σ τ} {processed : Except Error Nat} {closed : Except Error Unit}
      {t₁ t₂ t₃ : Traced (σ × η)}
      (setup : (Task.within .first (c.setup registry keys)).run.run t = (.ok w, t₁))
      (process : (w.process host).run t₁ = ((processed, w₁), t₂))
      (teardown : (Step.within .first w₁.teardown).run t₂ = ((closed, w₂), t₃)) :
      Invokes c registry keys host t processed closed w₂.stats t₃

/-- How a reading ends. The first of these that applies gives the answer: the connector is not
valid, there is no connection, the call fails, closing fails, all went well. -/
inductive Ends (c : ReadConnector σ τ) (registry : Registry σ) (keys : Nat → UInt32)
    (host : Host η τ) (t : Traced (σ × η)) : Except Error ReadStats → Traced (σ × η) → Prop where
  | invalid {e : Error} (invalid : c.validate = .error e) (category : e.category = .configuration) :
      Ends c registry keys host t (.error e) t
  | unacquired {config : ConnectionConfig σ} {e : Error} {t' : Traced (σ × η)}
      (valid : c.validate = .ok ()) (configured : c.config = some config)
      (acquire : (Task.within .first (config.acquire registry)).run.run t = (.error e, t'))
      (category : e.category = .connection) : Ends c registry keys host t (.error e) t'
  | unread {mapper : RowMapper τ} {codec : Codec τ} {e : Error} {closed : Except Error Unit}
      {stats : ReadStats} {t' : Traced (σ × η)} (valid : c.validate = .ok ())
      (mapped : c.mapper = some mapper) (encoded : c.codec = some codec)
      (invokes : Invokes c registry keys host t (.error e) closed stats t')
      (fails : ReadWorker.Fails mapper codec host e) : Ends c registry keys host t (.error e) t'
  | unclosed {n : Nat} {e : Error} {stats : ReadStats} {t' : Traced (σ × η)}
      (valid : c.validate = .ok ())
      (invokes : Invokes c registry keys host t (.ok n) (.error e) stats t')
      (category : e.category = .query) : Ends c registry keys host t (.error e) t'
  | read {n : Nat} {stats : ReadStats} {t' : Traced (σ × η)} (valid : c.validate = .ok ())
      (invokes : Invokes c registry keys host t (.ok n) (.ok ()) stats t') :
      Ends c registry keys host t (.ok stats) t'

theorem Ends.of_invalid {t t' : Traced (σ × η)} {r : Except Error ReadStats}
    (h : Ends c registry keys host t r t') (hinvalid : c.validate ≠ .ok ()) :
    ∃ e, r = .error e ∧ e.category = .configuration := by
  cases h with
  | invalid _ hcategory => exact ⟨_, rfl, hcategory⟩
  | unacquired hvalid => exact absurd hvalid hinvalid
  | unread hvalid => exact absurd hvalid hinvalid
  | unclosed hvalid => exact absurd hvalid hinvalid
  | read hvalid => exact absurd hvalid hinvalid

/-- An error in the configuration of a valid connector is that of a codec or of a host. -/
theorem Ends.handedIn {t t' : Traced (σ × η)} {e : Error}
    (h : Ends c registry keys host t (.error e) t') (hvalid : c.validate = .ok ())
    (he : e.category = .configuration) : ∃ codec, c.codec = some codec ∧ HandedIn codec host e := by
  cases h with
  | invalid hinvalid =>
    rw [hvalid] at hinvalid
    cases hinvalid
  | unacquired _ hconfigured hacquire hcategory =>
    rw [hcategory] at he
    cases he
  | unread _ hmapped hencoded hinvokes hfails =>
    exact ⟨_, hencoded, hfails.handedIn_of_configuration he⟩
  | unclosed _ hinvokes hcategory =>
    rw [hcategory] at he
    cases he

/-- A worker is torn down however its call ends, and a call that fails comes first. -/
theorem run_readInto {w w₁ w₂ : ReadWorker σ τ} {processed : Except Error Nat}
    {closed : Except Error Unit} {t t₁ t₂ t₃ : Traced (σ × η)}
    (hsetup : (Task.within .first (c.setup registry keys)).run.run t = (.ok w, t₁))
    (hprocess : (w.process host).run t₁ = ((processed, w₁), t₂))
    (hteardown : (Step.within .first w₁.teardown).run t₂ = ((closed, w₂), t₃)) :
    (c.readInto registry keys host).run.run t =
      (processed.bind fun _ => closed.map fun _ => w₂.stats, t₃) := by
  have hlift {α : Type} {m : Step (σ × η) α} {a : α} {s s' : Traced (σ × η)}
      (h : m.run s = (a, s')) : (ExceptT.lift m : Task (σ × η) α).run.run s = (.ok a, s') :=
    congrArg (fun p : α × Traced (σ × η) => (Except.ok p.1, p.2)) h
  rw [readInto, run_bind_ok hsetup, run_bind_ok (hlift hprocess)]
  refine (run_bind_ok (hlift hteardown)).trans ?_
  cases processed with
  | error e => rfl
  | ok n =>
    cases closed with
    | error e => rfl
    | ok u => rfl

variable [f.Lawful] {db : Database} (world : σ)

/-- A worker that is set up has a connection of its own. -/
theorem setup_ok (keys : Nat → UInt32) (world : σ) {config : ConnectionConfig σ}
    (hv : c.validate = .ok ()) (hc : c.config = some config) (hr : Reaches f registry config)
    (hconnect : .connect ∉ db.failures) :
    ∃ mapper codec w username, c.mapper = some mapper ∧ c.codec = some codec ∧
      Does (c.setup registry keys).run (f.set db world) (.ok w) (f.set (db.opened username) world) ∧
      w.connection = some (Memory.connection f db.sessions.length) ∧ w.mapper = mapper ∧
      ReadWorker.Uses codec w.barrier := by
  obtain ⟨config', query, mapper, codec, hc', hquery, hmapper, hcodec⟩ := parts_of_valid hv
  obtain rfl : config = config' := Option.some.inj (hc.symm.trans hc')
  obtain ⟨username, hacquire⟩ := hr.acquire world (config_of_valid hv hc) hconnect
  refine ⟨mapper, codec, ⟨some (Memory.connection f db.sessions.length), query, mapper,
    if c.fusionBarrier then some (.create codec keys) else none, ⟨0, 0⟩⟩, username, hmapper, hcodec,
    ?_, rfl, rfl, ?_⟩
  · rw [setup, hv]
    refine Does.task_bind (Does.ofExcept _ _) ?_
    simp only [hc, hquery, hmapper, hcodec]
    exact Does.task_bind hacquire (Does.after_task_log (Does.pure _ _))
  · intro b hb
    dsimp only at hb
    split at hb
    · cases hb
      rfl
    · cases hb

omit [f.Lawful] in
theorem readInto_invalid {e : Error} (hv : c.validate = .error e) (t : Traced (σ × η)) :
    (c.readInto registry keys host).run.run t = (.error e, t) := by
  obtain ⟨⟨world, s⟩, events⟩ := t
  have hsetup : (c.setup registry keys).run.run ⟨world, events⟩ = (.error e, ⟨world, events⟩) := by
    rw [setup, hv]
    exact run_bind_error (run_ofExcept _ _)
  exact run_bind_error (run_within_of (f := .first) (world, s) hsetup)

omit [f.Lawful] in
/-- Where no connection is made, its error is the answer. -/
theorem readInto_unacquired {config : ConnectionConfig σ} (hv : c.validate = .ok ())
    (hc : c.config = some config) {e : Error} {world' : σ} (s : η) {events events' : Array Event}
    (he : (config.acquire registry).run.run ⟨world, events⟩ = (.error e, ⟨world', events'⟩)) :
    (c.readInto registry keys host).run.run ⟨(world, s), events⟩ =
      (.error e, ⟨(world', s), events'⟩) := by
  obtain ⟨config', query, mapper, codec, hc', hquery, hmapper, hcodec⟩ := parts_of_valid hv
  obtain rfl : config = config' := Option.some.inj (hc.symm.trans hc')
  have hsetup :
      (c.setup registry keys).run.run ⟨world, events⟩ = (.error e, ⟨world', events'⟩) := by
    have hvalid := run_ofExcept c.validate (⟨world, events⟩ : Traced σ)
    rw [hv] at hvalid
    rw [setup, hv, run_bind_ok hvalid]
    simp only [hc, hquery, hmapper, hcodec]
    exact run_bind_error he
  exact run_bind_error (run_within_of (f := .first) (world, s) hsetup)

/-- A reading has ended, whatever failed in it: what was opened for it is closed again, and nothing
was done where the connector is not valid. -/
structure Concludes (f : Focus σ Database) (c : ReadConnector σ τ) (registry : Registry σ)
    (keys : Nat → UInt32) (host : Host η τ) (world : σ) (db : Database) (s : η)
    (events : Array Event) (r : Except Error ReadStats) (db' : Database) (s' : η)
    (events' : Array Event) : Prop where
  run : (c.readInto registry keys host).run.run ⟨(f.set db world, s), events⟩ =
    (r, ⟨(f.set db' world, s'), events'⟩)
  once : db.ReadOnce db'
  untouched : c.validate ≠ .ok () → db' = db ∧ s' = s ∧ events' = events
  ends : Ends c registry keys host ⟨(f.set db world, s), events⟩ r
    ⟨(f.set db' world, s'), events'⟩

omit [f.Lawful] in
theorem concludes_unacquired {config : ConnectionConfig σ} (hv : c.validate = .ok ())
    (hc : c.config = some config) {e : Error} (hcategory : e.category = .connection)
    (he : Does (config.acquire registry).run (f.set db world) (.error e) (f.set db world)) (s : η)
    (events : Array Event) :
    ∃ events', Concludes f c registry keys host world db s events (.error e) db s events' := by
  obtain ⟨events', hacquire⟩ := he events
  exact ⟨events', readInto_unacquired _ hv hc s hacquire, .refl db, fun hno => absurd hv hno,
    .unacquired hv hc (run_within_of (f := .first) (f.set db world, s) hacquire) hcategory⟩

theorem readInto_concludes (keys : Nat → UInt32) (host : Host η τ) (world : σ)
    (hl : ∀ config, c.config = some config → Leads f registry config) (s : η)
    (events : Array Event) :
    ∃ r db' s' events', Concludes f c registry keys host world db s events r db' s' events' := by
  cases hv : c.validate with
  | error e =>
    exact ⟨.error e, db, s, events, readInto_invalid hv _, .refl db, fun _ => ⟨rfl, rfl, rfl⟩,
      .invalid hv (category_of_invalid hv)⟩
  | ok u =>
    obtain ⟨config, query, mapper, codec, hc, _⟩ := parts_of_valid hv
    have hvalid := config_of_valid hv hc
    rcases (hl config hc).acquire hvalid with hr | ⟨e, hcategory, hrefused⟩
    · by_cases hconnect : .connect ∈ db.failures
      · have hfailing := hr.acquire_failing world hvalid hconnect
        exact ⟨_, db, s, concludes_unacquired world hv hc rfl hfailing s events⟩
      · obtain ⟨mapper, codec, w, username, hmapper, hcodec, hsetup, hw, rfl, hb⟩ :=
          setup_ok keys world hv hc hr hconnect
        obtain ⟨events₁, hsetup⟩ := does_task_within (f := .first) (f.set db world, s) hsetup events
        have hopened : (db.opened username).sessions[db.sessions.length]? = some .fresh :=
          List.getElem?_concat_length
        obtain ⟨processed, w₁, db', s', events₂, hprocess, hw₁, hdb, hfails⟩ :=
          ReadWorker.process_fails world host hw hopened rfl hb s events₁
        have hsession : db'.sessions[db.sessions.length]? = some .fresh := by
          rcases hdb with rfl | rfl
          · exact hopened
          · exact hopened
        have hteardown := ReadWorker.teardown_open world hw₁ hsession rfl
        obtain ⟨events₃, hclose⟩ :=
          does_within (f := .first) (f.set db' world, s') hteardown events₂
        have hinvokes := Invokes.steps hsetup hprocess hclose
        refine ⟨_, db'.closeSession db.sessions.length .fresh, s', events₃,
          run_readInto hsetup hprocess hclose,
          Memory.Database.readOnce_closeSession db username hdb, fun hno => absurd hv hno, ?_⟩
        cases processed with
        | error e => exact .unread hv hmapper hcodec hinvokes (hfails e rfl)
        | ok n =>
          by_cases hclosing : .connectionClose ∈ db'.failures
          · rw [Database.verdict, if_pos hclosing] at hinvokes ⊢
            exact .unclosed hv hinvokes rfl
          · rw [Database.verdict, if_neg hclosing] at hinvokes ⊢
            exact .read hv hinvokes
    · exact ⟨_, db, s, concludes_unacquired world hv hc hcategory (hrefused _) s events⟩

end ReadConnector

/-- Whatever fails while a connector reads, nothing that was opened stays open, and the first
failure in a fixed order is the answer. A connector that is not valid does nothing, and its error is
one in the configuration. Where a valid one answers with such an error, its codec or its host has
handed it in. A worker that was torn down does nothing any more. -/
theorem readings_leave_nothing_open {σ η τ : Type} {f : Focus σ Database} [f.Lawful]
    {registry : Registry σ} {c : ReadConnector σ τ} (keys : Nat → UInt32) (host : Host η τ)
    (db : Database) (world : σ) (hl : ∀ config, c.config = some config → Leads f registry config) :
    (∀ s events, ∃ r db' s' events',
      ReadConnector.Concludes f c registry keys host world db s events r db' s' events' ∧
      (c.validate ≠ .ok () → ∃ e, r = .error e ∧ e.category = .configuration) ∧
      (c.validate = .ok () → ∀ e, r = .error e → e.category = .configuration →
        ∃ codec, c.codec = some codec ∧ HandedIn codec host e)) ∧
    ∀ (w : ReadWorker σ τ) (t : Traced (σ × η)) (calls : List (ReadWorker.Call η τ)),
      ∃ r w' t', (w.call .teardown).run t = ((r, w'), t') ∧
        (w'.callAll calls).run t' = ((calls.map ReadWorker.closedAnswer, w'), t') := by
  constructor
  · intro s events
    obtain ⟨r, db', s', events', hconcludes⟩ :=
      ReadConnector.readInto_concludes keys host world hl s events
    refine ⟨r, db', s', events', hconcludes, hconcludes.ends.of_invalid, ?_⟩
    rintro hvalid e rfl
    exact hconcludes.ends.handedIn hvalid
  · intro w t calls
    obtain ⟨⟨world, s⟩, events⟩ := t
    obtain ⟨r, w', ⟨world', events'⟩, hteardown, hclosed⟩ := w.teardown_closes ⟨world, events⟩
    have hcall := run_step_bind (k := fun p : Except Error Unit × ReadWorker σ τ =>
      pure (p.1.map fun _ => 0, p.2)) (run_within_of (f := .first) (world, s) hteardown)
    exact ⟨_, w', _, hcall, ReadWorker.callAll_closed hclosed calls _⟩

/-- The query and the close fail both, and the query comes first. -/
theorem readings_leave_nothing_open_unread :
    let c : ReadConnector Database Int64 := ⟨some (.ofSource (dataSource .self)),
      some "SELECT n", some ⟨"first column", fun row => row.int64 0⟩, some .int64, true⟩
    let db : Database := { Database.empty with failures := [.query, .connectionClose] }
    let host : Host (Unit × List Int64) Int64 := .collecting fun keyed => pure (groupByKey keyed)
    (∀ config, c.config = some config → Leads .self [] config) ∧
    ∃ r db' s' events',
      ReadConnector.Concludes .self c [] UInt32.ofNat host db db ((), []) #[] r db' s' events' ∧
      r = .error FailurePoint.query.error ∧ db'.stats.connectionsOpened = 1 := by
  intro c db host
  have hleads : ∀ config, c.config = some config → Leads .self [] config := by
    rintro _ ⟨rfl⟩
    exact .reaches (.source rfl)
  have hanswer : ((c.readInto [] UInt32.ofNat host).run.run ⟨(db, (), []), #[]⟩).1 =
      .error FailurePoint.query.error := rfl
  have hopened : ((c.readInto [] UInt32.ofNat host).run.run
      ⟨(db, (), []), #[]⟩).2.world.1.stats.connectionsOpened = 1 := by decide +kernel
  obtain ⟨hreading, _⟩ := readings_leave_nothing_open (f := .self) UInt32.ofNat host db db hleads
  obtain ⟨r, db', s', events', hconcludes, _⟩ := hreading ((), []) #[]
  have hrun : (c.readInto [] UInt32.ofNat host).run.run ⟨(db, (), []), #[]⟩ =
      (r, ⟨(db', s'), events'⟩) := hconcludes.run
  rw [hrun] at hanswer hopened
  exact ⟨hleads, r, db', s', events', hconcludes, hanswer, hopened⟩

/-- A valid connector answers with the error in the configuration that its grouping has handed
in. -/
theorem configuration_fails_in_a_grouping :
    let c : ReadConnector Database Int64 := ⟨some (.ofSource (dataSource .self)),
      some "SELECT n", some ⟨"first column", fun row => row.int64 0⟩, some .int64, true⟩
    let db := Database.empty.seed "SELECT n" [⟨[("n", .int64 1)]⟩]
    let host : Host (Unit × List Int64) Int64 :=
      .collecting fun _ => throw (.configuration "no place to group in")
    c.validate = .ok () ∧ ∃ t,
      (c.readInto [] UInt32.ofNat host).run.run ⟨(db, (), []), #[]⟩ =
        (.error (.configuration "no place to group in"), t) ∧
      t.world.1.stats.queries = 1 := by
  intro c db host
  have hanswer : ((c.readInto [] UInt32.ofNat host).run.run ⟨(db, (), []), #[]⟩).1 =
      .error (.configuration "no place to group in") := by decide +kernel
  have hqueries : ((c.readInto [] UInt32.ofNat host).run.run
      ⟨(db, (), []), #[]⟩).2.world.1.stats.queries = 1 := by decide +kernel
  exact ⟨rfl, _, Prod.ext hanswer rfl, hqueries⟩

end BatchSql
