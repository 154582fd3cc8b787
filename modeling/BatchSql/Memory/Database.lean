import BatchSql.Row
import BatchSql.Text.Quoted

namespace BatchSql.Memory

/-- A call that can be made to fail. -/
inductive FailurePoint where
  | connect
  | prepare
  | query
  | execute
  | commit
  | statementClose
  | connectionClose
deriving DecidableEq, Repr

namespace FailurePoint

def name : FailurePoint → String
  | connect => "Connect"
  | prepare => "Prepare"
  | query => "Query"
  | execute => "Execute"
  | commit => "Commit"
  | statementClose => "StatementClose"
  | connectionClose => "ConnectionClose"

def error (p : FailurePoint) : Error :=
  let message := "injected failure at " ++ p.name
  if p = connect then .connection message else .query message none

end FailurePoint

/-- How often each thing was done. -/
structure Stats where
  connectionsOpened : Nat
  openConnections : Nat
  queries : Nat
  statementsPrepared : Nat
  statementsClosed : Nat
  batchExecutions : Nat
  statementsExecuted : Nat
  commits : Nat
  rollbacks : Nat
  lastUsername : Option String
deriving DecidableEq

def Stats.zero : Stats :=
  ⟨0, 0, 0, 0, 0, 0, 0, 0, 0, none⟩

/-- A row written with a statement, whose text has its blanks squeezed. -/
abbrev Entry := String × List Value

/-- What a connection has of its own: writes not yet committed wait in `staged`. -/
structure Session where
  autoCommit : Bool
  closed : Bool
  staged : List Entry

def Session.fresh : Session :=
  ⟨true, false, []⟩

/-- A prepared statement and the session that prepared it. -/
structure Prepared where
  session : Nat
  sql : String
  closed : Bool

/-- A database that answers queries it was given results for and keeps the rows written to it,
in the order of their commit. Sessions and statements are known by their index. -/
structure Database where
  results : List (String × List Row)
  committed : List Entry
  failures : List FailurePoint
  stats : Stats
  sessions : List Session
  statements : List Prepared

namespace Database

def empty : Database :=
  ⟨[], [], [], .zero, [], []⟩

instance : Inhabited Database := ⟨empty⟩

/-- Gives the rows that a query finds. -/
def seed (db : Database) (sql : String) (rows : List Row) : Database :=
  { db with results := Assoc.put (Text.squeeze sql) rows db.results }

def failOn (db : Database) (p : FailurePoint) : Database :=
  { db with failures := p :: db.failures }

def clearFailure (db : Database) (p : FailurePoint) : Database :=
  { db with failures := db.failures.filter (· ≠ p) }

/-- The rows committed with a statement. -/
def committedRows (db : Database) (sql : String) : List (List Value) :=
  (db.committed.filter fun e => e.1 = Text.squeeze sql).map Prod.snd

def committedCount (db : Database) : Nat :=
  db.committed.length

/-- The counters, as they are shown. -/
def text (db : Database) : String :=
  let s := db.stats
  "MemoryDatabase \x7b stats: MemoryStats \x7b connections_opened: " ++ toString s.connectionsOpened ++
    ", open_connections: " ++ toString s.openConnections ++
    ", queries: " ++ toString s.queries ++
    ", statements_prepared: " ++ toString s.statementsPrepared ++
    ", statements_closed: " ++ toString s.statementsClosed ++
    ", batch_executions: " ++ toString s.batchExecutions ++
    ", statements_executed: " ++ toString s.statementsExecuted ++
    ", commits: " ++ toString s.commits ++
    ", rollbacks: " ++ toString s.rollbacks ++
    ", last_username: " ++ Text.quotedOption s.lastUsername ++ " \x7d, .. \x7d"

end Database

/-- Question marks, wherever they stand. -/
def placeholders (sql : String) : Nat :=
  sql.toList.count '?'

/-- A call of the database. -/
abbrev Action := ExceptT Error (StateM Database)

namespace Action

def check (p : FailurePoint) : Action Unit := do
  let db ← get
  if db.failures.contains p then throw p.error

def count (f : Stats → Stats) : Action Unit :=
  modify fun db => { db with stats := f db.stats }

def session (i : Nat) : Action Session := do
  let db ← get
  pure (db.sessions[i]?.getD ⟨true, true, []⟩)

def setSession (i : Nat) (s : Session) : Action Unit :=
  modify fun db => { db with sessions := db.sessions.set i s }

def statement (i : Nat) : Action Prepared := do
  let db ← get
  pure (db.statements[i]?.getD ⟨0, "", true⟩)

def openSession (i : Nat) : Action Session := do
  let s ← session i
  if s.closed then throw (.connection "connection is closed")
  pure s

def openStatement (i : Nat) : Action Prepared := do
  let p ← statement i
  let _ ← openSession p.session
  if p.closed then throw (.query "statement is closed" (some p.sql))
  pure p

def connect (username : Option String) : Action Nat := do
  check .connect
  let db ← get
  count fun s => { s with
    connectionsOpened := s.connectionsOpened + 1
    openConnections := s.openConnections + 1
    lastUsername := username.or s.lastUsername }
  modify fun db => { db with sessions := db.sessions ++ [.fresh] }
  pure db.sessions.length

/-- One row, committed at once or staged. -/
def write (i : Nat) (sql : String) (params : List Value) : Action Nat := do
  let expected := placeholders sql
  if expected ≠ params.length then
    throw (.query s!"expected {expected} parameters, got {params.length}" (some sql))
  count fun s => { s with statementsExecuted := s.statementsExecuted + 1 }
  let s ← session i
  let entry := (Text.squeeze sql, params)
  if s.autoCommit then modify fun db => { db with committed := db.committed ++ [entry] }
  else setSession i { s with staged := s.staged ++ [entry] }
  pure 1

def query (i : Nat) (sql : String) (params : List Value) : Action (List Row) := do
  let _ ← openSession i
  check .query
  if placeholders sql ≠ params.length then
    throw (.query "parameter count mismatch" (some sql))
  count fun s => { s with queries := s.queries + 1 }
  let db ← get
  match Assoc.get? (Text.squeeze sql) db.results with
  | some rows => pure rows
  | none => throw (.query "no result seeded for query" (some sql))

def execute (i : Nat) (sql : String) (params : List Value) : Action Nat := do
  let _ ← openSession i
  check .execute
  write i sql params

def prepare (i : Nat) (sql : String) : Action Nat := do
  let _ ← openSession i
  check .prepare
  count fun s => { s with statementsPrepared := s.statementsPrepared + 1 }
  let db ← get
  modify fun db => { db with statements := db.statements ++ [⟨i, sql, false⟩] }
  pure db.statements.length

/-- Staged rows become committed ones. -/
def commit (i : Nat) : Action Unit := do
  let s ← openSession i
  check .commit
  count fun s => { s with commits := s.commits + 1 }
  modify fun db => { db with committed := db.committed ++ s.staged }
  setSession i { s with staged := [] }

/-- Turning automatic commits on commits what is staged. -/
def setAutoCommit (i : Nat) (on : Bool) : Action Unit := do
  let s ← openSession i
  if on ∧ !s.autoCommit then commit i
  let s ← session i
  setSession i { s with autoCommit := on }

def rollback (i : Nat) : Action Unit := do
  let s ← openSession i
  setSession i { s with staged := [] }
  count fun s => { s with rollbacks := s.rollbacks + 1 }

/-- A session closes once, even when closing it is reported to fail. -/
def close (i : Nat) : Action Unit := do
  let s ← session i
  if s.closed then pure ()
  else
    setSession i { s with closed := true, staged := [] }
    count fun s => { s with openConnections := s.openConnections - 1 }
    check .connectionClose

def statementExecute (i : Nat) (params : List Value) : Action Nat := do
  let p ← openStatement i
  check .execute
  write p.session p.sql params

def writeAll (i : Nat) (sql : String) : List (List Value) → Action (List Nat)
  | [] => pure []
  | params :: rest => do
    let n ← write i sql params
    let ns ← writeAll i sql rest
    pure (n :: ns)

/-- A batch stops at the first row that fails; the rows before it stay written. -/
def statementExecuteBatch (i : Nat) (batch : List (List Value)) : Action (List Nat) := do
  let p ← openStatement i
  count fun s => { s with batchExecutions := s.batchExecutions + 1 }
  check .execute
  writeAll p.session p.sql batch

def statementClose (i : Nat) : Action Unit := do
  let p ← statement i
  if p.closed then pure ()
  else
    modify fun db => { db with statements := db.statements.set i { p with closed := true } }
    count fun s => { s with statementsClosed := s.statementsClosed + 1 }
    check .statementClose

end Action

end BatchSql.Memory
