import BatchSql.Memory.Connection
import BatchSql.Proofs.Memory.Actions

namespace BatchSql.Memory

/-- What can be asked of a database, and of the connections and statements obtained from it, which
are known by the order in which they were obtained. -/
inductive Command where
  | seed (sql : String) (rows : List Row)
  | connect (username : Option String)
  | query (i : Nat) (sql : String) (params : List Value)
  | execute (i : Nat) (sql : String) (params : List Value)
  | prepare (i : Nat) (sql : String)
  | setAutoCommit (i : Nat) (on : Bool)
  | commit (i : Nat)
  | rollback (i : Nat)
  | close (i : Nat)
  | executePrepared (j : Nat) (params : List Value)
  | executeBatch (j : Nat) (batch : List (List Value))
  | closeStatement (j : Nat)

/-- The connections and the statements that were obtained, in this order. -/
structure Handles (σ : Type) where
  connections : List (Connection σ)
  statements : List (Statement σ)

namespace Handles

variable {σ α : Type} {f : Focus σ Database} {h : Handles σ} {s s' : σ}

/-- Work that obtains nothing. -/
def after (h : Handles σ) (x : Task σ α) : Task σ (Handles σ) := do
  let _ ← x
  pure h

/-- The call that a command is, unless it is a call of something that was not obtained. -/
def call (f : Focus σ Database) (h : Handles σ) : Command → Option (Task σ (Handles σ))
  | .seed sql rows => some (h.after (Task.ofState f (modify fun db => db.seed sql rows)))
  | .connect username => some do
    let c ← connect f username
    pure { h with connections := h.connections ++ [c] }
  | .query i sql params => h.connections[i]?.map fun c => h.after (c.queryStream sql params)
  | .execute i sql params => h.connections[i]?.map fun c => h.after (c.execute sql params)
  | .prepare i sql => h.connections[i]?.map fun c => do
    let s ← c.prepare sql
    pure { h with statements := h.statements ++ [s] }
  | .setAutoCommit i on => h.connections[i]?.map fun c => h.after (c.setAutoCommit on)
  | .commit i => h.connections[i]?.map fun c => h.after c.commit
  | .rollback i => h.connections[i]?.map fun c => h.after c.rollback
  | .close i => h.connections[i]?.map fun c => h.after c.close
  | .executePrepared j params => h.statements[j]?.map fun s => h.after (s.execute params)
  | .executeBatch j batch => h.statements[j]?.map fun s => h.after (s.executeBatch batch)
  | .closeStatement j => h.statements[j]?.map fun s => h.after s.close

/-- What there is after a call. -/
def next (h : Handles σ) : Except Error (Handles σ) → Handles σ
  | .ok h' => h'
  | .error _ => h

end Handles

/-- Whether a call went well, without what it gave. -/
def answered {α : Type} (r : Except Error α) : Except Error Unit :=
  r.map fun _ => ()

/-- A call, its answer, and how many rows the database has counted as executed in it. -/
structure Note where
  command : Command
  answer : Except Error Unit
  executed : Nat

/-- Commands are run one after the other, with switches turned before each. Each call is noted with
the database after it. -/
def Handles.observe {σ : Type} (f : Focus σ Database) (h : Handles σ) :
    List (List Switch × Command) → Step σ (List (Note × Database) × Handles σ)
  | [] => pure ([], h)
  | (switches, c) :: rest => do
    Switch.make f switches
    match h.call f c with
    | none => h.observe f rest
    | some x =>
      let before ← Step.ofState f get
      let r ← x.run
      let after ← Step.ofState f get
      let n : Note := ⟨c, answered r,
        after.stats.statementsExecuted - before.stats.statementsExecuted⟩
      let (seen, last) ← (h.next r).observe f rest
      pure ((n, after) :: seen, last)

/-- The rows that a command is to write with a statement in a session. -/
structure Writing where
  session : Nat
  sql : String
  rows : List (List Value)

/-- The writing of a command, where `texts` are the statements and their sessions. -/
def Command.writing (texts : List (Nat × String)) : Command → Option Writing
  | .execute i sql params => some ⟨i, sql, [params]⟩
  | .executePrepared j params => texts[j]?.map fun t => ⟨t.1, t.2, [params]⟩
  | .executeBatch j batch => texts[j]?.map fun t => ⟨t.1, t.2, batch⟩
  | _ => none

/-- Whether a connection or a statement is to be obtained. -/
def Command.obtains : Command → Bool
  | .connect _ | .prepare _ _ => true
  | _ => false

/-- Whether something is to be closed. -/
def Command.closes : Command → Bool
  | .close _ | .closeStatement _ => true
  | _ => false

/-- Why a writing is refused before its first row. -/
inductive Refused (sql : String) : Error → Prop where
  | connection : Refused sql (.connection "connection is closed")
  | statement : Refused sql (.query "statement is closed" (some sql))
  | failure : Refused sql FailurePoint.execute.error

/-- How many of its rows a writing has executed: all, those before the first that has not a value
for every placeholder, or none. -/
inductive Executes (w : Writing) : Except Error Unit → Nat → Prop where
  | all (fit : ∀ row ∈ w.rows, row.length = placeholders w.sql) :
      Executes w (.ok ()) w.rows.length
  | upTo {front rest : List (List Value)} {row : List Value} (cut : w.rows = front ++ row :: rest)
      (fit : ∀ r ∈ front, r.length = placeholders w.sql)
      (misfit : row.length ≠ placeholders w.sql) :
      Executes w (.error (Action.misfit w.sql row)) front.length
  | refused {e : Error} (refused : Refused w.sql e) : Executes w (.error e) 0

namespace Database

variable {σ : Type} {f : Focus σ Database} {db : Database}

/-- The statements with their sessions. -/
def texts (db : Database) : List (Nat × String) :=
  db.statements.map fun p => (p.session, p.sql)

/-- The connections and statements of all sessions. -/
def handles (db : Database) (f : Focus σ Database) : Handles σ where
  connections := (List.range db.sessions.length).map (connection f)
  statements := db.texts.mapIdx fun j t => statement f t.2 j

end Database

/-- What can come of a command. -/
inductive Acts (db : Database) : Command → Except Error Unit → Database → Prop where
  | failed {c : Command} (e : Error) (writing : c.writing db.texts = none)
      (closes : c.closes = false) : Acts db c (.error e) db
  | seeded (sql : String) (rows : List Row) : Acts db (.seed sql rows) (.ok ()) (db.seed sql rows)
  | opened (username : Option String) : Acts db (.connect username) (.ok ()) (db.opened username)
  | queried (i : Nat) (sql : String) (params : List Value) (r : Except Error Unit) :
      Acts db (.query i sql params) r (db.tally .query)
  | prepared {i : Nat} {s : Session} (sql : String) (session : db.sessions[i]? = some s)
      (isOpen : s.closed = false) : Acts db (.prepare i sql) (.ok ()) (db.prepared i sql)
  | wrote {c : Command} {w : Writing} {s : Session} {r : Except Error Unit} {n : Nat}
      {g : Stats → Stats} (writing : c.writing db.texts = some w)
      (session : db.sessions[w.session]? = some s) (isOpen : s.closed = false)
      (executes : Executes w r n) (counted : g = id ∨ g = .batch) :
      Acts db c r ((db.tally (.execute n ∘ g)).wrote w.session s
        ((w.rows.take n).map (entry w.sql)))
  | unwritten {c : Command} {w : Writing} {e : Error} {g : Stats → Stats}
      (writing : c.writing db.texts = some w) (refused : Refused w.sql e)
      (counted : g = id ∨ g = .batch) : Acts db c (.error e) (db.tally g)
  | committed {i : Nat} {s : Session} (session : db.sessions[i]? = some s)
      (isOpen : s.closed = false) : Acts db (.commit i) (.ok ()) (db.commitSession i s)
  | switched {i : Nat} {s : Session} {on : Bool} (session : db.sessions[i]? = some s)
      (isOpen : s.closed = false) (calm : on = true → s.autoCommit = true) :
      Acts db (.setAutoCommit i on) (.ok ()) (db.setSession i { s with autoCommit := on })
  | switchedOn {i : Nat} {s : Session} (session : db.sessions[i]? = some s)
      (isOpen : s.closed = false) (off : s.autoCommit = false) :
      Acts db (.setAutoCommit i true) (.ok ())
        ((db.commitSession i s).setSession i { s with autoCommit := true, staged := [] })
  | rolledBack {i : Nat} {s : Session} (session : db.sessions[i]? = some s)
      (isOpen : s.closed = false) :
      Acts db (.rollback i) (.ok ()) ((db.tally .rollback).setSession i { s with staged := [] })
  | closed {i : Nat} {s : Session} (r : Except Error Unit) (session : db.sessions[i]? = some s)
      (isOpen : s.closed = false) : Acts db (.close i) r (db.closeSession i s)
  | closedBefore {i : Nat} {s : Session} (session : db.sessions[i]? = some s)
      (isClosed : s.closed = true) : Acts db (.close i) (.ok ()) db
  | statementClosed {j : Nat} {p : Prepared} (r : Except Error Unit)
      (statement : db.statements[j]? = some p) (isOpen : p.closed = false) :
      Acts db (.closeStatement j) r (db.closeStatement j p)
  | statementClosedBefore {j : Nat} {p : Prepared} (statement : db.statements[j]? = some p)
      (isClosed : p.closed = true) : Acts db (.closeStatement j) (.ok ()) db

namespace Action

variable {db : Database} {i j : Nat} {s : Session} {p : Prepared} {sql : String}
  {row params : List Value}

theorem run_openSession_closed (h : db.sessions[i]? = some s) (hc : s.closed = true) :
    (openSession i).run.run db = (.error (.connection "connection is closed"), db) := by
  rw [openSession, run_bind_ok (run_session h), if_pos hc]
  rfl

/-- A session that is not open refuses. -/
theorem openSession_refuses (hopen : ∀ s, db.sessions[i]? = some s → s.closed = true) :
    (openSession i).run.run db = (.error (.connection "connection is closed"), db) := by
  cases h : db.sessions[i]? with
  | none =>
    have hsession : (session i).run.run db = (.ok ⟨true, true, []⟩, db) := by
      rw [session, run_bind_ok run_get, h]
      rfl
    rw [openSession, run_bind_ok hsession]
    rfl
  | some s => exact run_openSession_closed h (hopen s h)

/-- A statement is open with its session, or refuses. -/
theorem openStatement_or (h : db.statements[j]? = some p) :
    (∃ s, db.sessions[p.session]? = some s ∧ s.closed = false ∧ p.closed = false) ∨
      ∃ e, Refused p.sql e ∧ (openStatement j).run.run db = (.error e, db) := by
  by_cases hs : ∃ s, db.sessions[p.session]? = some s ∧ s.closed = false
  · obtain ⟨s, hs, ho⟩ := hs
    cases hc : p.closed with
    | false => exact .inl ⟨s, hs, ho, rfl⟩
    | true =>
      refine .inr ⟨_, .statement, ?_⟩
      rw [openStatement, run_bind_ok (run_statement h), run_bind_ok (run_openSession hs ho),
        if_pos hc]
      rfl
  · have hclosed : ∀ s, db.sessions[p.session]? = some s → s.closed = true := by
      intro s hs'
      cases hc : s.closed with
      | false => exact absurd ⟨s, hs', hc⟩ hs
      | true => rfl
    refine .inr ⟨_, .connection, ?_⟩
    rw [openStatement, run_bind_ok (run_statement h), run_bind_error (openSession_refuses hclosed)]

/-- All rows fit, or there is a first that does not. -/
theorem fit_or_misfit (sql : String) (rows : List (List Value)) :
    (∀ row ∈ rows, row.length = placeholders sql) ∨
      ∃ front row rest, rows = front ++ row :: rest ∧
        (∀ r ∈ front, r.length = placeholders sql) ∧ row.length ≠ placeholders sql := by
  cases hfind : rows.find? (fun row => row.length ≠ placeholders sql) with
  | none => exact .inl (by simpa using List.find?_eq_none.mp hfind)
  | some row =>
    obtain ⟨hrow, front, rest, hcut, hfit⟩ := List.find?_eq_some_iff_append.mp hfind
    exact .inr ⟨front, row, rest, hcut, by simpa using hfit, by simpa using hrow⟩

theorem write_executes (h : db.sessions[i]? = some s) (sql : String) (row : List Value) :
    ∃ r n, (write i sql row).run.run db =
        (r, (db.tally (.execute n)).wrote i s (([row].take n).map (entry sql))) ∧
      Executes ⟨i, sql, [row]⟩ (answered r) n := by
  by_cases hfit : row.length = placeholders sql
  · exact ⟨.ok 1, 1, run_write h hfit, .all (by simpa using hfit)⟩
  · have hcut : [row] = [] ++ row :: [] := rfl
    refine ⟨.error (misfit sql row), 0, ?_, .upTo hcut (List.forall_mem_nil _) hfit⟩
    rw [run_write_misfit hfit, List.take_zero, List.map_nil, Database.wrote_nil (db.tally _) h]
    rfl

/-- Rows are written up to the first that does not fit. -/
theorem writeAll_executes (h : db.sessions[i]? = some s) (sql : String)
    (rows : List (List Value)) :
    ∃ r n, (writeAll i sql rows).run.run db =
        (r, (db.tally (.execute n)).wrote i s ((rows.take n).map (entry sql))) ∧
      Executes ⟨i, sql, rows⟩ (answered r) n := by
  rcases fit_or_misfit sql rows with hfit | ⟨front, row, rest, rfl, hfit, hrow⟩
  · refine ⟨.ok (rows.map fun _ => 1), rows.length, ?_, .all hfit⟩
    rw [List.take_length]
    exact run_writeAll h hfit
  · refine ⟨.error (misfit sql row), front.length, ?_, .upTo rfl hfit hrow⟩
    rw [List.take_left]
    exact run_writeAll_misfit rest h hfit hrow

end Action

/-- The action does what can come of the command. -/
def Carries {α : Type} (db : Database) (x : Action α) (c : Command) : Prop :=
  ∃ r db', x.run.run db = (r, db') ∧ Acts db c (answered r) db'

section Carries
open Memory.Action

variable {db : Database} {i j : Nat} {s : Session} {p : Prepared}

theorem carries_failing {α : Type} {x : Action α} {c : Command} {e : Error}
    (h : x.run.run db = (.error e, db)) (writing : c.writing db.texts = none)
    (closes : c.closes = false) : Carries db x c :=
  ⟨_, db, h, .failed e writing closes⟩

/-- A closed session refuses to do anything. -/
theorem carries_closed {α : Type} {k : Session → Action α} {c : Command}
    (h : db.sessions[i]? = some s) (hc : s.closed = true) (writing : c.writing db.texts = none)
    (closes : c.closes = false) : Carries db (openSession i >>= k) c :=
  carries_failing (run_bind_error (run_openSession_closed h hc)) writing closes

theorem carries_query (h : db.sessions[i]? = some s) (sql : String) (params : List Value) :
    Carries db (query i sql params) (.query i sql params) := by
  cases hc : s.closed with
  | true =>
    exact carries_closed h hc rfl rfl
  | false =>
    by_cases hf : .query ∈ db.failures
    · refine carries_failing (e := FailurePoint.query.error) ?_ rfl rfl
      rw [query, run_bind_ok (run_openSession h hc), run_bind_error (run_check_failing hf)]
    · by_cases hp : placeholders sql = params.length
      · cases hr : Assoc.get? (Text.squeeze sql) db.results with
        | some rows => exact ⟨_, _, run_query h hc hf hp hr, .queried i sql params _⟩
        | none => exact ⟨_, _, run_query_unseeded h hc hf hp hr, .queried i sql params _⟩
      · refine carries_failing (e := .query "parameter count mismatch" (some sql)) ?_ rfl rfl
        rw [query, run_bind_ok (run_openSession h hc), run_bind_ok (run_check hf), if_pos hp]
        rfl

theorem prepare_or (h : db.sessions[i]? = some s) (sql : String) :
    (s.closed = false ∧
        (prepare i sql).run.run db = (.ok db.statements.length, db.prepared i sql)) ∨
      ∃ e, (prepare i sql).run.run db = (.error e, db) := by
  cases hc : s.closed with
  | true => exact .inr ⟨_, run_bind_error (run_openSession_closed h hc)⟩
  | false =>
    by_cases hf : .prepare ∈ db.failures
    · exact .inr ⟨_, run_prepare_failing sql h hc hf⟩
    · exact .inl ⟨rfl, run_prepare sql h hc hf⟩

theorem carries_execute (h : db.sessions[i]? = some s) (sql : String) (params : List Value) :
    Carries db (execute i sql params) (.execute i sql params) := by
  cases hc : s.closed with
  | true =>
    exact ⟨.error _, db, by rw [execute, run_bind_error (run_openSession_closed h hc)],
      .unwritten rfl .connection (.inl rfl)⟩
  | false =>
    by_cases hf : .execute ∈ db.failures
    · refine ⟨.error _, db, ?_, .unwritten rfl .failure (.inl rfl)⟩
      rw [execute, run_bind_ok (run_openSession h hc), run_bind_error (run_check_failing hf)]
    · obtain ⟨r, n, hwrite, hexecutes⟩ := write_executes h sql params
      refine ⟨r, _, ?_, .wrote rfl h hc hexecutes (.inl rfl)⟩
      rw [execute, run_bind_ok (run_openSession h hc), run_bind_ok (run_check hf)]
      exact hwrite

theorem carries_executePrepared (h : db.statements[j]? = some p) (params : List Value) :
    Carries db (statementExecute j params) (.executePrepared j params) := by
  have hwriting : (Command.executePrepared j params).writing db.texts =
      some ⟨p.session, p.sql, [params]⟩ := by
    simp [Command.writing, Database.texts, h]
  rcases openStatement_or h with ⟨s, hs, ho, hc⟩ | ⟨e, he, hrefuses⟩
  · by_cases hf : .execute ∈ db.failures
    · refine ⟨.error _, db, ?_, .unwritten hwriting .failure (.inl rfl)⟩
      rw [statementExecute, run_bind_ok (run_openStatement h hs ho hc),
        run_bind_error (run_check_failing hf)]
    · obtain ⟨r, n, hwrite, hexecutes⟩ := write_executes hs p.sql params
      refine ⟨r, _, ?_, .wrote hwriting hs ho hexecutes (.inl rfl)⟩
      rw [statementExecute, run_bind_ok (run_openStatement h hs ho hc), run_bind_ok (run_check hf)]
      exact hwrite
  · refine ⟨.error e, db, ?_, .unwritten hwriting he (.inl rfl)⟩
    rw [statementExecute, run_bind_error hrefuses]

theorem carries_executeBatch (h : db.statements[j]? = some p) (batch : List (List Value)) :
    Carries db (statementExecuteBatch j batch) (.executeBatch j batch) := by
  have hwriting : (Command.executeBatch j batch).writing db.texts =
      some ⟨p.session, p.sql, batch⟩ := by
    simp [Command.writing, Database.texts, h]
  rcases openStatement_or h with ⟨s, hs, ho, hc⟩ | ⟨e, he, hrefuses⟩
  · by_cases hf : .execute ∈ db.failures
    · exact ⟨.error _, _, run_batch_untaken batch h hs ho hc hf,
        .unwritten hwriting .failure (.inr rfl)⟩
    · have hs' : (db.tally .batch).sessions[p.session]? = some s := hs
      obtain ⟨r, n, hwrite, hexecutes⟩ := writeAll_executes hs' p.sql batch
      refine ⟨r, _, ?_, .wrote hwriting hs ho hexecutes (.inr rfl)⟩
      rw [run_batch_taken batch h hs ho hc hf]
      exact hwrite
  · refine ⟨.error e, db, ?_, .unwritten hwriting he (.inl rfl)⟩
    rw [statementExecuteBatch, run_bind_error hrefuses]

theorem carries_commit (h : db.sessions[i]? = some s) : Carries db (commit i) (.commit i) := by
  cases hc : s.closed with
  | true =>
    exact carries_closed h hc rfl rfl
  | false =>
    by_cases hf : .commit ∈ db.failures
    · exact carries_failing (run_commit_failing h hc hf) rfl rfl
    · exact ⟨_, _, run_commit_of_open h hc hf, .committed h hc⟩

theorem carries_setAutoCommit (h : db.sessions[i]? = some s) (on : Bool) :
    Carries db (setAutoCommit i on) (.setAutoCommit i on) := by
  cases hc : s.closed with
  | true =>
    exact carries_closed h hc rfl rfl
  | false =>
    by_cases hcalm : on = true → s.autoCommit = true
    · exact ⟨_, _, run_setAutoCommit h hc hcalm, .switched h hc hcalm⟩
    · rw [Classical.not_imp, Bool.not_eq_true] at hcalm
      obtain ⟨rfl, hoff⟩ := hcalm
      by_cases hf : .commit ∈ db.failures
      · exact carries_failing (run_setAutoCommit_failing h hc hoff hf) rfl rfl
      · exact ⟨_, _, run_setAutoCommit_on h hc hoff hf, .switchedOn h hc hoff⟩

theorem carries_rollback (h : db.sessions[i]? = some s) :
    Carries db (rollback i) (.rollback i) := by
  cases hc : s.closed with
  | true =>
    exact carries_closed h hc rfl rfl
  | false => exact ⟨_, _, run_rollback_of_open h hc, .rolledBack h hc⟩

theorem carries_close (h : db.sessions[i]? = some s) : Carries db (close i) (.close i) := by
  cases hc : s.closed with
  | true =>
    refine ⟨.ok (), db, ?_, .closedBefore h hc⟩
    rw [close, run_bind_ok (run_session h), if_pos hc]
    rfl
  | false => exact ⟨_, _, run_close h hc, .closed _ h hc⟩

theorem carries_closeStatement (h : db.statements[j]? = some p) :
    Carries db (statementClose j) (.closeStatement j) := by
  cases hc : p.closed with
  | true =>
    refine ⟨.ok (), db, ?_, .statementClosedBefore h hc⟩
    rw [statementClose, run_bind_ok (run_statement h), if_pos hc]
    rfl
  | false => exact ⟨_, _, run_statementClose h hc, .statementClosed _ h hc⟩

end Carries

section Calls

variable {σ α : Type} {f : Focus σ Database} {db db' : Database} {c : Command}

theorem connections_handles (db : Database) (i : Nat) :
    (db.handles f).connections[i]? = db.sessions[i]?.map fun _ => connection f i := by
  by_cases hi : i < db.sessions.length
  · simp [Database.handles, hi]
  · simp [Database.handles, hi]

theorem statements_handles (db : Database) (j : Nat) :
    (db.handles f).statements[j]? = db.statements[j]?.map fun p => statement f p.sql j := by
  rw [Database.handles, List.getElem?_mapIdx, Database.texts, List.getElem?_map, Option.map_map]
  rfl

theorem of_connections {i : Nat} {k : Connection σ → α} {x : α}
    (h : (db.handles f).connections[i]?.map k = some x) :
    ∃ s, db.sessions[i]? = some s ∧ k (connection f i) = x := by
  rw [connections_handles, Option.map_map] at h
  exact Option.map_eq_some_iff.mp h

theorem of_statements {j : Nat} {k : Statement σ → α} {x : α}
    (h : (db.handles f).statements[j]?.map k = some x) :
    ∃ p, db.statements[j]? = some p ∧ k (statement f p.sql j) = x := by
  rw [statements_handles, Option.map_map] at h
  exact Option.map_eq_some_iff.mp h

theorem handles_opened (db : Database) (username : Option String) :
    (db.opened username).handles f = { db.handles f with
      connections := (db.handles f).connections ++ [connection f db.sessions.length] } := by
  simp [Database.handles, Database.opened, Database.texts, Database.tally, List.range_succ]

theorem handles_prepared (db : Database) (i : Nat) (sql : String) :
    (db.prepared i sql).handles f = { db.handles f with
      statements := (db.handles f).statements ++ [statement f sql db.statements.length] } := by
  simp [Database.handles, Database.prepared, Database.texts, Database.tally, List.mapIdx_concat]

theorem texts_closeStatement {j : Nat} {p : Prepared} (h : db.statements[j]? = some p) :
    (db.closeStatement j p).texts = db.texts := by
  obtain ⟨hlt, rfl⟩ := List.getElem?_eq_some_iff.mp h
  have hlt' : j < db.texts.length := by simpa [Database.texts] using hlt
  have hsame : (db.closeStatement j db.statements[j]).texts = db.texts.set j (db.texts[j]) := by
    simp [Database.texts, Database.closeStatement, List.map_set]
  rw [hsame, List.set_getElem_self]

/-- What was obtained before stays as it was, and nothing is obtained by the other calls. -/
theorem Acts.keeps {r : Except Error Unit} (h : Acts db c r db') (hc : c.obtains = false) :
    db'.sessions.length = db.sessions.length ∧ db'.texts = db.texts := by
  cases h with
  | failed e writing closes => exact ⟨rfl, rfl⟩
  | seeded sql rows => exact ⟨rfl, rfl⟩
  | opened username => cases hc
  | queried i sql params r => exact ⟨rfl, rfl⟩
  | prepared sql hs ho => cases hc
  | wrote writing hs ho executes counted =>
    rw [Database.wrote]
    split
    · exact ⟨rfl, rfl⟩
    · exact ⟨List.length_set, rfl⟩
  | unwritten writing refused counted => exact ⟨rfl, rfl⟩
  | committed hs ho => exact ⟨List.length_set, rfl⟩
  | switched hs ho calm => exact ⟨List.length_set, rfl⟩
  | switchedOn hs ho off => exact ⟨List.length_set.trans List.length_set, rfl⟩
  | rolledBack hs ho => exact ⟨List.length_set, rfl⟩
  | closed r hs ho => exact ⟨List.length_set, rfl⟩
  | closedBefore hs hclosed => exact ⟨rfl, rfl⟩
  | statementClosed r hp ho => exact ⟨rfl, texts_closeStatement hp⟩
  | statementClosedBefore hp hclosed => exact ⟨rfl, rfl⟩

theorem Handles.does_after {x : Task σ α} {r : Except Error α} {s s' : σ}
    (hx : Does x.run s r s') (h : Handles σ) :
    Does (h.after x).run s (r.map fun _ => h) s' := by
  cases r with
  | ok a => exact Does.task_bind hx (Does.pure _ _)
  | error e => exact Does.task_bind_error hx

theorem call_after {x : Task σ α} {r : Except Error α} {world : σ}
    (hx : Does x.run (f.set db world) r (f.set db' world)) (hacts : Acts db c (answered r) db')
    (hc : c.obtains = false) :
    ∃ r' db', Does ((db.handles f).after x).run (f.set db world) r' (f.set db' world) ∧
      Acts db c (answered r') db' ∧ (db.handles f).next r' = db'.handles f := by
  refine ⟨_, db', Handles.does_after hx _, ?_, ?_⟩
  · cases r with
    | ok a => exact hacts
    | error e => exact hacts
  · obtain ⟨hsessions, htexts⟩ := hacts.keeps hc
    have hsame : db'.handles f = db.handles f := by
      rw [Database.handles, Database.handles, hsessions, htexts]
    rw [hsame]
    cases r with
    | ok a => rfl
    | error e => rfl

variable [f.Lawful] (world : σ)

theorem Carries.call {x : Action α} (h : Carries db x c) (hc : c.obtains = false) :
    ∃ r db', Does ((db.handles f).after (Task.ofState f x)).run (f.set db world) r
        (f.set db' world) ∧
      Acts db c (answered r) db' ∧ (db.handles f).next r = db'.handles f := by
  obtain ⟨r, db', hrun, hacts⟩ := h
  exact call_after (does_task_ofState world hrun) hacts hc

/-- A call does what can come of its command. -/
theorem handles_call {x : Task σ (Handles σ)} (h : (db.handles f).call f c = some x) :
    ∃ r db', Does x.run (f.set db world) r (f.set db' world) ∧ Acts db c (answered r) db' ∧
      (db.handles f).next r = db'.handles f := by
  cases c with
  | seed sql rows =>
    obtain rfl := Option.some.inj h
    have hseed : Carries db (modify fun db => db.seed sql rows) (.seed sql rows) :=
      ⟨.ok (), _, rfl, .seeded sql rows⟩
    exact hseed.call world rfl
  | connect username =>
    obtain rfl := Option.some.inj h
    by_cases hf : .connect ∈ db.failures
    · have hconnect := does_task_ofState (f := f) world (Action.run_connect_failing username hf)
      exact ⟨_, db, Does.task_bind_error (Does.task_bind_error hconnect), .failed _ rfl rfl, rfl⟩
    · have hconnect := does_task_ofState (f := f) world (Action.run_connect username hf)
      exact ⟨_, _, Does.task_bind (Does.task_bind hconnect (Does.pure _ _)) (Does.pure _ _),
        .opened username, (handles_opened db username).symm⟩
  | query i sql params =>
    obtain ⟨s, hs, rfl⟩ := of_connections h
    obtain ⟨r, db', hrun, hacts⟩ := carries_query hs sql params
    have hquery := does_task_ofState (f := f) world hrun
    cases r with
    | ok rows => exact call_after (Does.task_bind hquery (Does.pure _ _)) hacts rfl
    | error e => exact call_after (Does.task_bind_error hquery) hacts rfl
  | execute i sql params =>
    obtain ⟨s, hs, rfl⟩ := of_connections h
    exact (carries_execute hs sql params).call world rfl
  | prepare i sql =>
    obtain ⟨s, hs, rfl⟩ := of_connections h
    rcases prepare_or hs sql with ⟨ho, hrun⟩ | ⟨e, hrun⟩
    · have hprepare := does_task_ofState (f := f) world hrun
      exact ⟨_, _, Does.task_bind (Does.task_bind hprepare (Does.pure _ _)) (Does.pure _ _),
        .prepared sql hs ho, (handles_prepared db i sql).symm⟩
    · have hprepare := does_task_ofState (f := f) world hrun
      exact ⟨_, db, Does.task_bind_error (Does.task_bind_error hprepare), .failed e rfl rfl, rfl⟩
  | setAutoCommit i on =>
    obtain ⟨s, hs, rfl⟩ := of_connections h
    exact (carries_setAutoCommit hs on).call world rfl
  | commit i =>
    obtain ⟨s, hs, rfl⟩ := of_connections h
    exact (carries_commit hs).call world rfl
  | rollback i =>
    obtain ⟨s, hs, rfl⟩ := of_connections h
    exact (carries_rollback hs).call world rfl
  | close i =>
    obtain ⟨s, hs, rfl⟩ := of_connections h
    exact (carries_close hs).call world rfl
  | executePrepared j params =>
    obtain ⟨p, hp, rfl⟩ := of_statements h
    exact (carries_executePrepared hp params).call world rfl
  | executeBatch j batch =>
    obtain ⟨p, hp, rfl⟩ := of_statements h
    exact (carries_executeBatch hp batch).call world rfl
  | closeStatement j =>
    obtain ⟨p, hp, rfl⟩ := of_statements h
    exact (carries_closeStatement hp).call world rfl

theorem does_isAutoCommit {i : Nat} {s : Session} (h : db.sessions[i]? = some s) :
    Does (connection f i).isAutoCommit (f.set db world) s.autoCommit (f.set db world) := by
  have hread : (do
      let db ← get
      pure ((db.sessions[i]?.map Session.autoCommit).getD true) : StateM Database Bool).run db =
        (s.autoCommit, db) := by
    change ((db.sessions[i]?.map Session.autoCommit).getD true, db) = _
    rw [h]
    rfl
  exact does_ofState world hread

/-- Calls that follow one another, with switches turned between them. -/
inductive Course : Database → List (Note × Database) → Database → Prop where
  | nil (db : Database) : Course db [] db
  | turn {db db' : Database} {seen : List (Note × Database)} (switches : List Switch)
      (rest : Course (switches.foldl Switch.turn db) seen db') : Course db seen db'
  | call {db db₁ db' : Database} {n : Note} {seen : List (Note × Database)}
      (acts : Acts db n.command n.answer db₁)
      (executed : n.executed = db₁.stats.statementsExecuted - db.stats.statementsExecuted)
      (rest : Course db₁ seen db') : Course db ((n, db₁) :: seen) db'

/-- What is seen of commands that are run is a course of calls. -/
theorem observe_course (db : Database) (plan : List (List Switch × Command)) :
    ∃ seen db', Does ((db.handles f).observe f plan) (f.set db world) (seen, db'.handles f)
      (f.set db' world) ∧ Course db seen db' := by
  induction plan generalizing db with
  | nil => exact ⟨[], db, Does.pure _ _, .nil db⟩
  | cons item rest ih =>
    obtain ⟨switches, c⟩ := item
    have hmade := Switch.does_make (f := f) switches db world
    have hsame : (switches.foldl Switch.turn db).handles f = db.handles f := by
      obtain ⟨failures, he⟩ := Switch.foldl_turn switches db
      rw [he]
      rfl
    generalize hturned : switches.foldl Switch.turn db = db₀ at hmade hsame
    rw [← hsame]
    cases hc : (db₀.handles f).call f c with
    | none =>
      obtain ⟨seen, db', hrest, hcourse⟩ := ih db₀
      refine ⟨seen, db', hmade.bind ?_, .turn switches (hturned ▸ hcourse)⟩
      rw [hc]
      exact hrest
    | some x =>
      obtain ⟨r, db₁, hx, hacts, hnext⟩ := handles_call world hc
      obtain ⟨seen, db', hrest, hcourse⟩ := ih db₁
      let n : Note := ⟨c, answered r,
        db₁.stats.statementsExecuted - db₀.stats.statementsExecuted⟩
      have hcalled : Course db₀ ((n, db₁) :: seen) db' := .call hacts rfl hcourse
      refine ⟨(n, db₁) :: seen, db', hmade.bind ?_, .turn switches (hturned ▸ hcalled)⟩
      rw [hc]
      rw [← hnext] at hrest
      exact (does_get world).bind (hx.bind ((does_get world).bind (hrest.bind (Does.pure _ _))))

end Calls

end BatchSql.Memory
