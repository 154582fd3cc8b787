import BatchSql.Postgres.Client

namespace BatchSql.Postgres

/-- A call on the session of a connection. -/
abbrev Action (S : Type) := ExceptT Error (StateM (Network S))

namespace Action

variable {S : Type} (server : Server S)

/-- Work of a client for a text of SQL, whose failures are failures of that text. -/
def forSql (sql : String) (m : Client S α) : Action S α :=
  ExceptT.mk do
    let r ← m.run
    pure (r.mapError fun e => .queryFault (some sql) e.fault)

def openSession (i : Nat) : Action S Session := do
  let s := (← get).session i
  if s.closed then throw (.connection "connection is closed")
  pure s

def setInTransaction (i : Nat) (on : Bool) : Action S Unit :=
  modify fun n => n.setSession i { n.session i with inTransaction := on }

/-- Opens a transaction before a statement, if statements are not committed by themselves. -/
def beginIfNeeded (i : Nat) : Action S Unit := do
  let s ← openSession i
  if !s.autoCommit && !s.inTransaction then
    forSql "BEGIN" (Client.command server i "BEGIN")
    setInTransaction i true

/-- Ends an open transaction. It counts as ended even if the command to end it fails. -/
def endTransaction (i : Nat) (command : String) : Action S Unit := do
  let s ← openSession i
  if s.inTransaction then
    setInTransaction i false
    forSql command (Client.command server i command)

def commit (i : Nat) : Action S Unit :=
  endTransaction server i "COMMIT"

def rollback (i : Nat) : Action S Unit :=
  endTransaction server i "ROLLBACK"

/-- Turning automatic commits on commits an open transaction first. -/
def setAutoCommit (i : Nat) (on : Bool) : Action S Unit := do
  let _ ← openSession i
  if on then commit server i
  modify fun n => n.setSession i { n.session i with autoCommit := on }

/-- Prepares a text of SQL for one run. -/
def query (i : Nat) (sql : String) (params : List Value) : Action S Cursor := do
  beginIfNeeded server i
  forSql sql do
    let p ← Client.prepare server i sql
    let outcome ← Client.perform server i p params
    pure (p.cursor outcome)

def execute (i : Nat) (sql : String) (params : List Value) : Action S Nat := do
  beginIfNeeded server i
  forSql sql do
    let p ← Client.prepare server i sql
    Client.execute server i p params

/-- Preparing alone opens no transaction. -/
def prepare (i : Nat) (sql : String) : Action S Prepared := do
  let _ ← openSession i
  forSql sql (Client.prepare server i sql)

def executePrepared (i : Nat) (p : Prepared) (params : List Value) : Action S Nat := do
  beginIfNeeded server i
  forSql p.sql (Client.execute server i p params)

def executeBatch (i : Nat) (p : Prepared) (batch : List (List Value)) : Action S (List Nat) := do
  beginIfNeeded server i
  forSql p.sql (Client.executeBatch server i p batch)

/-- Whether the connection still answers. -/
def isValid (i : Nat) : StateM (Network S) Bool := do
  let s := (← get).session i
  if s.closed || !s.linked then pure false
  else
    let r ← (Client.command server i "SELECT 1").run
    pure r.isOk

/-- A session closes once and rolls back what is open. The failure to do so, if any, is no failure
to close. -/
def close (i : Nat) : StateM (Network S) (Option ClientError) := do
  let s := (← get).session i
  if s.closed then pure none
  else
    modify fun n => n.setSession i { s with closed := true, inTransaction := false }
    if s.inTransaction then
      match ← (Client.command server i "ROLLBACK").run with
      | .ok _ => pure none
      | .error e => pure (some e)
    else pure none

end Action

variable {σ S : Type} (server : Server S) (f : Focus σ (Network S))

/-- Nothing is sent when a statement is closed. -/
def statement (i : Nat) (p : Prepared) : Statement σ where
  sql := p.sql
  execute params := Task.ofState f (Action.executePrepared server i p params)
  executeBatch batch := Task.ofState f (Action.executeBatch server i p batch)
  close := pure ()

/-- The connection of a session. -/
def connection (i : Nat) : Connection σ where
  queryStream sql params := Task.ofState f (Action.query server i sql params)
  execute sql params := Task.ofState f (Action.execute server i sql params)
  prepare sql := do
    let p ← Task.ofState f (Action.prepare server i sql)
    pure (statement server f i p)
  setAutoCommit on := Task.ofState f (Action.setAutoCommit server i on)
  isAutoCommit := Step.ofState f do
    pure ((← get).session i).autoCommit
  commit := Task.ofState f (Action.commit server i)
  rollback := Task.ofState f (Action.rollback server i)
  isValid := Step.ofState f (Action.isValid server i)
  close := ExceptT.lift do
    match ← Step.ofState f (Action.close server i) with
    | none => pure ()
    | some e => Step.log .debug "Rollback on close failed" [("error", e.fault.text)]

/-- Connects without a word to the server. -/
def attach : Task σ (Connection σ) := do
  let i ← Task.ofState f (ExceptT.lift (modifyGet (·.addSession false)))
  pure (connection server f i)

/-- Attaches for everyone alike. -/
def dataSource (name : String) : DataSource σ where
  name := name
  connection := attach server f
  connectionAs _ _ := attach server f

/-- Breaks the link of a session. The break of a watched one is noted. -/
def loseLink (i : Nat) (e : ClientError) : Step σ Unit := do
  let s ← Step.ofState f do
    let n ← get
    set (n.setSession i { n.session i with linked := false })
    pure (n.session i)
  if s.linked && s.watched then
    Step.log .warn "PostgreSQL connection error" [("error", e.fault.text)]

end BatchSql.Postgres
