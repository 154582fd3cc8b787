import BatchSql.Memory.Database
import BatchSql.Proofs.InTurn

namespace BatchSql.Memory

/-- A session whose writes wait for a commit, with those that wait. -/
def Session.staging (staged : List Entry) : Session :=
  ⟨false, false, staged⟩

/-- A session in which rows were written. -/
def Session.wrote (s : Session) (entries : List Entry) : Session :=
  if s.autoCommit then s else { s with staged := s.staged ++ entries }

/-- A row as it is kept with its statement. -/
def entry (sql : String) (row : List Value) : Entry :=
  (Text.squeeze sql, row)

/-- A statement of a session, and where the database keeps both. -/
structure Seat where
  sql : String
  session : Nat
  statement : Nat

/-- The row has a value for every placeholder. -/
def Seat.Fits (seat : Seat) (row : List Value) : Prop :=
  row.length = placeholders seat.sql

instance (seat : Seat) : DecidablePred seat.Fits :=
  fun row => inferInstanceAs (Decidable (row.length = placeholders seat.sql))

/-- Statement and session are open, and `staged` waits in the session. -/
structure Seat.Open (seat : Seat) (db : Database) (staged : List Entry) : Prop where
  session : db.sessions[seat.session]? = some (.staging staged)
  statement : db.statements[seat.statement]? = some ⟨seat.session, seat.sql, false⟩

namespace Stats

def connect (username : Option String) (s : Stats) : Stats :=
  { s with
    connectionsOpened := s.connectionsOpened + 1
    openConnections := s.openConnections + 1
    lastUsername := username.or s.lastUsername }

def prepare (s : Stats) : Stats :=
  { s with statementsPrepared := s.statementsPrepared + 1 }

/-- Rows were written, alone or in a batch. -/
def execute (n : Nat) (s : Stats) : Stats :=
  { s with statementsExecuted := s.statementsExecuted + n }

def batch (s : Stats) : Stats :=
  { s with batchExecutions := s.batchExecutions + 1 }

def commit (s : Stats) : Stats :=
  { s with commits := s.commits + 1 }

def rollback (s : Stats) : Stats :=
  { s with rollbacks := s.rollbacks + 1 }

def query (s : Stats) : Stats :=
  { s with queries := s.queries + 1 }

def closeStatement (s : Stats) : Stats :=
  { s with statementsClosed := s.statementsClosed + 1 }

def disconnect (s : Stats) : Stats :=
  { s with openConnections := s.openConnections - 1 }

theorem execute_comp (m n : Nat) : execute n ∘ execute m = execute (m + n) := by
  funext s
  simp [execute, Nat.add_assoc]

end Stats

namespace Database

/-- Another list waits in a session. -/
def stage (db : Database) (i : Nat) (staged : List Entry) : Database :=
  { db with sessions := db.sessions.set i (.staging staged) }

def tally (db : Database) (g : Stats → Stats) : Database :=
  { db with stats := g db.stats }

def publish (db : Database) (entries : List Entry) : Database :=
  { db with committed := db.committed ++ entries }

def setSession (db : Database) (i : Nat) (s : Session) : Database :=
  { db with sessions := db.sessions.set i s }

/-- Rows that are written in a session are committed at once, or wait in it. -/
def wrote (db : Database) (i : Nat) (s : Session) (entries : List Entry) : Database :=
  if s.autoCommit then db.publish entries
  else db.setSession i { s with staged := s.staged ++ entries }

/-- What waits in the session is committed. -/
def commitSession (db : Database) (i : Nat) (s : Session) : Database :=
  ((db.tally .commit).publish s.staged).setSession i { s with staged := [] }

/-- What a call answers that can be made to fail. -/
def verdict (db : Database) (p : FailurePoint) : Except Error Unit :=
  if p ∈ db.failures then .error p.error else .ok ()

/-- A new session comes last. -/
def opened (db : Database) (username : Option String) : Database :=
  { db.tally (.connect username) with sessions := db.sessions ++ [.fresh] }

/-- A new statement comes last. -/
def prepared (db : Database) (i : Nat) (sql : String) : Database :=
  { db.tally .prepare with statements := db.statements ++ [⟨i, sql, false⟩] }

/-- The session is closed, and nothing waits in it any more. -/
def closeSession (db : Database) (i : Nat) (s : Session) : Database :=
  { db.tally .disconnect with
    sessions := db.sessions.set i { s with closed := true, staged := [] } }

def closeStatement (db : Database) (i : Nat) (p : Prepared) : Database :=
  { db.tally .closeStatement with statements := db.statements.set i { p with closed := true } }

variable (db : Database) (i : Nat) (staged other : List Entry) (entries : List Entry)

@[simp] theorem stage_stage : (db.stage i other).stage i staged = db.stage i staged := by
  simp [stage]

@[simp] theorem tally_stage (g : Stats → Stats) :
    (db.stage i staged).tally g = (db.tally g).stage i staged := rfl

@[simp] theorem publish_stage :
    (db.stage i staged).publish entries = (db.publish entries).stage i staged := rfl

@[simp] theorem publish_nil : db.publish [] = db := by
  simp [publish]

@[simp] theorem tally_tally (g h : Stats → Stats) :
    (db.tally g).tally h = db.tally (h ∘ g) := rfl

theorem setSession_self {db : Database} {i : Nat} {s : Session}
    (h : db.sessions[i]? = some s) : db.setSession i s = db := by
  obtain ⟨hlt, he⟩ := List.getElem?_eq_some_iff.mp h
  rw [setSession, ← he, List.set_getElem_self]

theorem stage_self {db : Database} {i : Nat} {staged : List Entry}
    (h : db.sessions[i]? = some (.staging staged)) : db.stage i staged = db :=
  setSession_self h

theorem wrote_nil {i : Nat} {s : Session} (h : db.sessions[i]? = some s) :
    db.wrote i s [] = db := by
  rw [wrote]
  split
  · exact db.publish_nil
  · rw [List.append_nil]
    exact setSession_self h

theorem tally_wrote (s : Session) (g : Stats → Stats) :
    (db.wrote i s entries).tally g = (db.tally g).wrote i s entries := by
  rw [wrote, wrote]
  split
  · rfl
  · rfl

theorem sessions_wrote {i : Nat} {s : Session} (h : db.sessions[i]? = some s)
    (entries : List Entry) : (db.wrote i s entries).sessions[i]? = some (s.wrote entries) := by
  rw [wrote, Session.wrote]
  split
  · exact h
  · exact List.getElem?_set_self (List.getElem?_eq_some_iff.mp h).1

theorem wrote_wrote (s : Session) (more : List Entry) :
    (db.wrote i s entries).wrote i (s.wrote entries) more = db.wrote i s (entries ++ more) := by
  by_cases h : s.autoCommit = true
  · simp [wrote, Session.wrote, h, publish]
  · simp [wrote, Session.wrote, h, setSession]

end Database

theorem Seat.Open.stage {seat : Seat} {db : Database} {staged : List Entry}
    (h : seat.Open db staged) (other : List Entry) :
    seat.Open (db.stage seat.session other) other := by
  refine ⟨?_, h.statement⟩
  have hlt : seat.session < db.sessions.length := (List.getElem?_eq_some_iff.mp h.session).1
  exact List.getElem?_set_self hlt

theorem Seat.Open.tally {seat : Seat} {db : Database} {staged : List Entry}
    (h : seat.Open db staged) (g : Stats → Stats) : seat.Open (db.tally g) staged :=
  ⟨h.session, h.statement⟩

theorem Seat.Open.publish {seat : Seat} {db : Database} {staged : List Entry}
    (h : seat.Open db staged) (entries : List Entry) : seat.Open (db.publish entries) staged :=
  ⟨h.session, h.statement⟩

namespace Action

variable {db : Database} {i : Nat} {s : Session} {seat : Seat} {staged : List Entry}

theorem run_check {p : FailurePoint} (h : p ∉ db.failures) :
    (check p).run.run db = (.ok (), db) := by
  rw [check, run_bind_ok run_get, if_neg (by simpa using h)]
  rfl

theorem run_check_failing {p : FailurePoint} (h : p ∈ db.failures) :
    (check p).run.run db = (.error p.error, db) := by
  rw [check, run_bind_ok run_get, if_pos (by simpa using h)]
  rfl

theorem run_count (g : Stats → Stats) : (count g).run.run db = (.ok (), db.tally g) := rfl

theorem run_session (h : db.sessions[i]? = some s) : (session i).run.run db = (.ok s, db) := by
  rw [session, run_bind_ok run_get, h]
  rfl

theorem run_openSession (h : db.sessions[i]? = some s) (ho : s.closed = false) :
    (openSession i).run.run db = (.ok s, db) := by
  rw [openSession, run_bind_ok (run_session h), if_neg (by simp [ho])]
  rfl

theorem run_statement {p : Prepared} (h : db.statements[i]? = some p) :
    (statement i).run.run db = (.ok p, db) := by
  rw [statement, run_bind_ok run_get, h]
  rfl

theorem run_openStatement {p : Prepared} (hp : db.statements[i]? = some p)
    (hs : db.sessions[p.session]? = some s) (ho : s.closed = false) (hc : p.closed = false) :
    (openStatement i).run.run db = (.ok p, db) := by
  rw [openStatement, run_bind_ok (run_statement hp), run_bind_ok (run_openSession hs ho),
    if_neg (by simp [hc])]
  rfl

/-- How the database refuses a row. -/
def misfit (sql : String) (row : List Value) : Error :=
  .query s!"expected {placeholders sql} parameters, got {row.length}" (some sql)

theorem run_write {sql : String} {row : List Value} (h : db.sessions[i]? = some s)
    (hfit : row.length = placeholders sql) :
    (write i sql row).run.run db =
      (.ok 1, (db.tally (.execute 1)).wrote i s [entry sql row]) := by
  have hs : (db.tally (.execute 1)).sessions[i]? = some s := h
  rw [write]
  dsimp only
  rw [if_neg (not_not_intro hfit.symm)]
  refine (run_bind_ok (run_count (.execute 1))).trans ((run_bind_ok (run_session hs)).trans ?_)
  rw [Database.wrote]
  by_cases hauto : s.autoCommit = true
  · rw [if_pos hauto, if_pos hauto]
    rfl
  · rw [if_neg hauto, if_neg hauto]
    rfl

theorem run_write_misfit {sql : String} {row : List Value} (hfit : row.length ≠ placeholders sql) :
    (write i sql row).run.run db = (.error (misfit sql row), db) := by
  rw [write]
  dsimp only
  rw [if_pos hfit.symm]
  rfl

/-- Rows of which the first is written and the others after it. -/
theorem wrote_first (db : Database) (i : Nat) (s : Session) (sql : String) (row : List Value)
    (rows : List (List Value)) :
    (((db.tally (.execute 1)).wrote i s [entry sql row]).tally (.execute rows.length)).wrote i
        (s.wrote [entry sql row]) (rows.map (entry sql)) =
      (db.tally (.execute (row :: rows).length)).wrote i s ((row :: rows).map (entry sql)) := by
  rw [Database.tally_wrote, Database.wrote_wrote, Database.tally_tally, Stats.execute_comp,
    Nat.add_comm 1]
  rfl

theorem run_writeAll {sql : String} {rows : List (List Value)} (h : db.sessions[i]? = some s)
    (hfit : ∀ row ∈ rows, row.length = placeholders sql) :
    (writeAll i sql rows).run.run db = (.ok (rows.map fun _ => 1),
      (db.tally (.execute rows.length)).wrote i s (rows.map (entry sql))) := by
  induction rows generalizing db s with
  | nil =>
    rw [List.map_nil, List.map_nil, Database.wrote_nil (db.tally _) h]
    rfl
  | cons row rest ih =>
    have hrow := run_write h (hfit row List.mem_cons_self)
    have hrest := ih (Database.sessions_wrote (db.tally (.execute 1)) h [entry sql row])
      (fun r hr => hfit r (List.mem_cons_of_mem _ hr))
    rw [writeAll, run_bind_ok hrow, run_bind_ok hrest, wrote_first]
    rfl

/-- A batch stops at the first row that does not fit, and the rows before it stay written. -/
theorem run_writeAll_misfit {sql : String} {fit : List (List Value)} {row : List Value}
    (rest : List (List Value)) (h : db.sessions[i]? = some s)
    (hfit : ∀ r ∈ fit, r.length = placeholders sql) (hrow : row.length ≠ placeholders sql) :
    (writeAll i sql (fit ++ row :: rest)).run.run db = (.error (misfit sql row),
      (db.tally (.execute fit.length)).wrote i s (fit.map (entry sql))) := by
  induction fit generalizing db s with
  | nil =>
    rw [List.map_nil, Database.wrote_nil (db.tally _) h, List.nil_append, writeAll,
      run_bind_error (run_write_misfit hrow)]
    rfl
  | cons first fit ih =>
    have hfirst := run_write h (hfit first List.mem_cons_self)
    have hrest := ih (Database.sessions_wrote (db.tally (.execute 1)) h [entry sql first])
      (fun r hr => hfit r (List.mem_cons_of_mem _ hr))
    rw [List.cons_append, writeAll, run_bind_ok hfirst, run_bind_error hrest, wrote_first]

/-- The database takes up a batch and goes on to its rows. -/
theorem run_batch_taken (rows : List (List Value)) {p : Prepared}
    (hp : db.statements[i]? = some p) (hs : db.sessions[p.session]? = some s)
    (ho : s.closed = false) (hc : p.closed = false) (he : .execute ∉ db.failures) :
    (statementExecuteBatch i rows).run.run db =
      (writeAll p.session p.sql rows).run.run (db.tally .batch) := by
  have hcheck : (check .execute).run.run (db.tally .batch) = (.ok (), db.tally .batch) :=
    run_check he
  rw [statementExecuteBatch, run_bind_ok (run_openStatement hp hs ho hc)]
  exact (run_bind_ok (run_count .batch)).trans (run_bind_ok hcheck)

/-- A batch that is not executed is counted, but writes nothing. -/
theorem run_batch_untaken (rows : List (List Value)) {p : Prepared}
    (hp : db.statements[i]? = some p) (hs : db.sessions[p.session]? = some s)
    (ho : s.closed = false) (hc : p.closed = false) (he : .execute ∈ db.failures) :
    (statementExecuteBatch i rows).run.run db =
      (.error FailurePoint.execute.error, db.tally .batch) := by
  have hcheck : (check .execute).run.run (db.tally .batch) =
      (.error FailurePoint.execute.error, db.tally .batch) := run_check_failing he
  rw [statementExecuteBatch, run_bind_ok (run_openStatement hp hs ho hc)]
  exact (run_bind_ok (run_count .batch)).trans (run_bind_error hcheck)

theorem run_batch {rows : List (List Value)} (h : seat.Open db staged)
    (he : .execute ∉ db.failures) (hfit : ∀ row ∈ rows, seat.Fits row) :
    (statementExecuteBatch seat.statement rows).run.run db = (.ok (rows.map fun _ => 1),
      (db.tally (.execute rows.length ∘ .batch)).stage seat.session
        (staged ++ rows.map (entry seat.sql))) := by
  rw [run_batch_taken rows h.statement h.session rfl rfl he]
  exact run_writeAll (h.tally .batch).session hfit

theorem run_batch_unexecuted (rows : List (List Value)) (h : seat.Open db staged)
    (he : .execute ∈ db.failures) :
    (statementExecuteBatch seat.statement rows).run.run db =
      (.error FailurePoint.execute.error, db.tally .batch) :=
  run_batch_untaken rows h.statement h.session rfl rfl he

/-- A batch with a row that does not fit has written the rows before it. -/
theorem run_batch_misfit {fit : List (List Value)} {row : List Value} (rest : List (List Value))
    (h : seat.Open db staged) (he : .execute ∉ db.failures) (hfit : ∀ r ∈ fit, seat.Fits r)
    (hrow : ¬seat.Fits row) :
    (statementExecuteBatch seat.statement (fit ++ row :: rest)).run.run db =
      (.error (misfit seat.sql row), (db.tally (.execute fit.length ∘ .batch)).stage seat.session
        (staged ++ fit.map (entry seat.sql))) := by
  rw [run_batch_taken _ h.statement h.session rfl rfl he]
  exact run_writeAll_misfit rest (h.tally .batch).session hfit hrow

/-- What is staged in an open session is committed, and nothing waits in it any more. -/
theorem run_commit_of_open (h : db.sessions[i]? = some s) (ho : s.closed = false)
    (hc : .commit ∉ db.failures) : (commit i).run.run db = (.ok (), db.commitSession i s) := by
  rw [commit, run_bind_ok (run_openSession h ho), run_bind_ok (run_check hc)]
  rfl

theorem run_commit (h : db.sessions[i]? = some (.staging staged)) (hc : .commit ∉ db.failures) :
    (commit i).run.run db = (.ok (), ((db.tally .commit).publish staged).stage i []) :=
  run_commit_of_open h rfl hc

/-- A commit that fails leaves what was staged where it is. -/
theorem run_commit_failing (h : db.sessions[i]? = some s) (ho : s.closed = false)
    (hc : .commit ∈ db.failures) :
    (commit i).run.run db = (.error FailurePoint.commit.error, db) := by
  rw [commit, run_bind_ok (run_openSession h ho), run_bind_error (run_check_failing hc)]

theorem run_rollback_of_open (h : db.sessions[i]? = some s) (ho : s.closed = false) :
    (rollback i).run.run db =
      (.ok (), (db.tally .rollback).setSession i { s with staged := [] }) := by
  rw [rollback, run_bind_ok (run_openSession h ho)]
  rfl

theorem run_rollback (h : db.sessions[i]? = some (.staging staged)) :
    (rollback i).run.run db = (.ok (), (db.tally .rollback).stage i []) :=
  run_rollback_of_open h rfl

theorem run_connect (username : Option String) (h : .connect ∉ db.failures) :
    (connect username).run.run db = (.ok db.sessions.length, db.opened username) := by
  rw [connect, run_bind_ok (run_check h), run_bind_ok run_get]
  rfl

theorem run_connect_failing (username : Option String) (h : .connect ∈ db.failures) :
    (connect username).run.run db = (.error FailurePoint.connect.error, db) := by
  rw [connect, run_bind_error (run_check_failing h)]

/-- A query that has results changes nothing but its counter. -/
theorem run_query {sql : String} {params : List Value} {rows : List Row}
    (h : db.sessions[i]? = some s) (ho : s.closed = false) (hq : .query ∉ db.failures)
    (hp : placeholders sql = params.length)
    (hr : Assoc.get? (Text.squeeze sql) db.results = some rows) :
    (query i sql params).run.run db = (.ok rows, db.tally .query) := by
  have hr' : Assoc.get? (Text.squeeze sql) (db.tally .query).results = some rows := hr
  rw [query, run_bind_ok (run_openSession h ho), run_bind_ok (run_check hq),
    if_neg (not_not_intro hp)]
  refine (run_bind_ok (run_count .query)).trans ((run_bind_ok run_get).trans ?_)
  rw [hr']
  rfl

/-- A query without results is counted too. -/
theorem run_query_unseeded {sql : String} {params : List Value}
    (h : db.sessions[i]? = some s) (ho : s.closed = false) (hq : .query ∉ db.failures)
    (hp : placeholders sql = params.length)
    (hr : Assoc.get? (Text.squeeze sql) db.results = none) :
    (query i sql params).run.run db =
      (.error (.query "no result seeded for query" (some sql)), db.tally .query) := by
  have hr' : Assoc.get? (Text.squeeze sql) (db.tally .query).results = none := hr
  rw [query, run_bind_ok (run_openSession h ho), run_bind_ok (run_check hq),
    if_neg (not_not_intro hp)]
  refine (run_bind_ok (run_count .query)).trans ((run_bind_ok run_get).trans ?_)
  rw [hr']
  rfl

theorem run_prepare (sql : String) (h : db.sessions[i]? = some s) (ho : s.closed = false)
    (hp : .prepare ∉ db.failures) :
    (prepare i sql).run.run db = (.ok db.statements.length, db.prepared i sql) := by
  rw [prepare, run_bind_ok (run_openSession h ho), run_bind_ok (run_check hp)]
  rfl

theorem run_prepare_failing (sql : String) (h : db.sessions[i]? = some s) (ho : s.closed = false)
    (hp : .prepare ∈ db.failures) :
    (prepare i sql).run.run db = (.error FailurePoint.prepare.error, db) := by
  rw [prepare, run_bind_ok (run_openSession h ho), run_bind_error (run_check_failing hp)]

/-- Turning automatic commits on or off only changes what later writes do, where nothing is to be
committed first. -/
theorem run_setAutoCommit {on : Bool} (h : db.sessions[i]? = some s) (ho : s.closed = false)
    (hon : on = true → s.autoCommit = true) :
    (setAutoCommit i on).run.run db =
      (.ok (), db.setSession i { s with autoCommit := on }) := by
  rw [setAutoCommit, run_bind_ok (run_openSession h ho), if_neg (by simpa using hon)]
  refine (run_bind_ok (run_session h)).trans ?_
  rfl

/-- Turning automatic commits on commits what is staged. -/
theorem run_setAutoCommit_on (h : db.sessions[i]? = some s) (ho : s.closed = false)
    (ha : s.autoCommit = false) (hc : .commit ∉ db.failures) :
    (setAutoCommit i true).run.run db = (.ok (),
      (db.commitSession i s).setSession i { s with autoCommit := true, staged := [] }) := by
  have hs : (db.commitSession i s).sessions[i]? = some { s with staged := [] } :=
    List.getElem?_set_self (List.getElem?_eq_some_iff.mp h).1
  rw [setAutoCommit, run_bind_ok (run_openSession h ho), if_pos (by simp [ha]),
    run_bind_ok (run_commit_of_open h ho hc), run_bind_ok (run_session hs)]
  rfl

/-- Where the commit fails, automatic commits stay off. -/
theorem run_setAutoCommit_failing (h : db.sessions[i]? = some s) (ho : s.closed = false)
    (ha : s.autoCommit = false) (hc : .commit ∈ db.failures) :
    (setAutoCommit i true).run.run db = (.error FailurePoint.commit.error, db) := by
  rw [setAutoCommit, run_bind_ok (run_openSession h ho), if_pos (by simp [ha]),
    run_bind_error (run_commit_failing h ho hc)]

theorem run_verdict (p : FailurePoint) : (check p).run.run db = (db.verdict p, db) := by
  by_cases h : p ∈ db.failures
  · rw [run_check_failing h, Database.verdict, if_pos h]
  · rw [run_check h, Database.verdict, if_neg h]

/-- A session is closed also where closing it is reported to fail. -/
theorem run_close (h : db.sessions[i]? = some s) (ho : s.closed = false) :
    (close i).run.run db = (db.verdict .connectionClose, db.closeSession i s) := by
  rw [close, run_bind_ok (run_session h), if_neg (by simp [ho])]
  have hcheck : (check .connectionClose).run.run (db.closeSession i s) =
      (db.verdict .connectionClose, db.closeSession i s) := run_verdict _
  exact hcheck

theorem run_statementClose {p : Prepared} (h : db.statements[i]? = some p)
    (ho : p.closed = false) :
    (statementClose i).run.run db = (db.verdict .statementClose, db.closeStatement i p) := by
  rw [statementClose, run_bind_ok (run_statement h), if_neg (by simp [ho])]
  have hcheck : (check .statementClose).run.run (db.closeStatement i p) =
      (db.verdict .statementClose, db.closeStatement i p) := run_verdict _
  exact hcheck

end Action

end BatchSql.Memory

namespace BatchSql
open Memory

/-- A failure point is switched on or off. -/
inductive Switch where
  | fail (p : FailurePoint)
  | clear (p : FailurePoint)

namespace Switch

def turn (db : Database) : Switch → Database
  | fail p => db.failOn p
  | clear p => db.clearFailure p

def make {σ : Type} (f : Focus σ Database) (switches : List Switch) : Step σ Unit :=
  Step.ofState f (modify fun db => switches.foldl turn db)

theorem foldl_turn (switches : List Switch) (db : Database) :
    ∃ failures, switches.foldl turn db = { db with failures } := by
  induction switches generalizing db with
  | nil => exact ⟨db.failures, rfl⟩
  | cons s rest ih =>
    cases s with
    | fail p => exact ih (db.failOn p)
    | clear p => exact ih (db.clearFailure p)

theorem does_make {σ : Type} {f : Focus σ Database} [f.Lawful] (switches : List Switch)
    (db : Database) (world : σ) :
    Does (make f switches) (f.set db world) () (f.set (switches.foldl turn db) world) :=
  does_ofState world rfl

/-- Turns switches before what is done with an item. -/
def before {σ ω ι ν : Type} (f : Focus σ Database) (act : ω → ι → Step σ (ν × ω))
    (w : ω) (item : List Switch × ι) : Step σ (ν × ω) := do
  make f item.1
  act w item.2

/-- Items are taken up in turn by a worker at the database, with switches turned before each. -/
theorem does_inTurn {σ ω ι ν : Type} {f : Focus σ Database} [f.Lawful] (world : σ)
    (act : ω → ι → Step σ (ν × ω)) {items : List (List Switch × ι)}
    (holds : List (List Switch × ι) → List ν → ω → Database → Prop)
    (hstep : ∀ item ∈ items, ∀ done noted w db, holds done noted w db → ∃ note w' db',
      Does (act w item.2) (f.set (item.1.foldl Switch.turn db) world) (note, w')
        (f.set db' world) ∧
      holds (done ++ [item]) (noted ++ [note]) w' db') {w : ω} {db : Database}
    (h : holds [] [] w db) :
    ∃ notes w' db', Does (Step.inTurn (before f act) w items) (f.set db world) (notes, w')
        (f.set db' world) ∧ holds items notes w' db' := by
  have hturned : ∀ item ∈ items, ∀ done noted w s,
      (∃ db, s = f.set db world ∧ holds done noted w db) →
      ∃ note w' s', Does (before f act w item) s (note, w') s' ∧
        ∃ db, s' = f.set db world ∧ holds (done ++ [item]) (noted ++ [note]) w' db := by
    rintro item hitem done noted w _ ⟨db, rfl, hdb⟩
    obtain ⟨note, w', db', hact, hnext⟩ := hstep item hitem done noted w db hdb
    exact ⟨note, w', _, (does_make item.1 db world).bind hact, db', rfl, hnext⟩
  obtain ⟨notes, w', _, hdoes, db', rfl, hholds⟩ := sequential_does.inTurn
    (fun done noted w s => ∃ db, s = f.set db world ∧ holds done noted w db) hturned ⟨db, rfl, h⟩
  exact ⟨notes, w', db', hdoes, hholds⟩

end Switch

end BatchSql
