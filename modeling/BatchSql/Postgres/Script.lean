import BatchSql.Assoc
import BatchSql.Postgres.Server
import BatchSql.Postgres.Socket

namespace BatchSql.Postgres

/-- Where a script fails: when its text comes as a query, when it is prepared or run, after some
of its rows, or after all of them. -/
inductive Stage where
  | query
  | prepare
  | bind
  | row (count : Nat)
  | ending
deriving DecidableEq, Repr

/-- A failure with its message. It spares the first times that its stage is reached. -/
structure Failure where
  stage : Stage
  message : String
  spared : Nat
deriving DecidableEq, Repr

/-- What a server does with a text of SQL. -/
structure Script where
  description : Description
  rows : List (List (Option Octets))
  tag : String
  failure : Option Failure

namespace Script

/-- The message of the failure if it happens at a stage, and the script from then on. -/
def reach (s : Script) (stage : Stage) : Option String × Script :=
  match s.failure with
  | some failure =>
    if failure.stage ≠ stage then (none, s)
    else if failure.spared = 0 then (some failure.message, s)
    else (none, { s with failure := some { failure with spared := failure.spared - 1 } })
  | none => (none, s)

/-- The rows before a failure among them, or else all rows and what comes at their end. -/
def finish (s : Script) : Outcome × Script :=
  let rowsBefore := match s.failure with
    | some ⟨.row count, _, _⟩ => count
    | _ => s.rows.length
  if rowsBefore ≤ s.rows.length then
    match s.reach (.row rowsBefore) with
    | (some message, s) => (⟨s.rows.take rowsBefore, .error message⟩, s)
    | (none, s) => ending s
  else ending s
where
  ending (s : Script) : Outcome × Script :=
    match s.reach .ending with
    | (some message, s) => (⟨s.rows, .error message⟩, s)
    | (none, s) => (⟨s.rows, .ok s.tag⟩, s)

end Script

inductive Welcome where
  | everyone
  | withPassword
  | nobody
deriving DecidableEq, Repr

/-- A server that follows scripts. It listens at a socket alone, and those who tell no name come as
`user`. -/
structure ScriptedServer where
  user : String
  directory : String
  port : Nat
  welcome : Welcome
  scripts : List (String × Script)

namespace ScriptedServer

def setScript (sql : String) (s : Script) : StateM ScriptedServer Unit :=
  modify fun server => { server with scripts := Assoc.put sql s server.scripts }

def reach (sql : String) (s : Script) (stage : Stage) :
    StateM ScriptedServer (Except String Unit) := do
  let (message, s) := s.reach stage
  setScript sql s
  match message with
  | some message => pure (.error message)
  | none => pure (.ok ())

def find? (sql : String) : StateM ScriptedServer (Option Script) := do
  pure (Assoc.get? sql (← get).scripts)

/-- A text without a script succeeds as a query and has no rows. -/
def query (sql : String) : StateM ScriptedServer (Except String Outcome) := do
  match ← find? sql with
  | none => pure (.ok ⟨[], .ok ""⟩)
  | some s =>
    let r ← reach sql s .query
    pure (r.map fun _ => ⟨s.rows, .ok s.tag⟩)

def prepare (sql : String) : StateM ScriptedServer (Except String Description) := do
  match ← find? sql with
  | none => pure (.error "unknown statement")
  | some s =>
    let r ← reach sql s .prepare
    pure (r.map fun _ => s.description)

def execute (sql : String) (_ : List (Option Octets)) :
    StateM ScriptedServer (Except String Outcome) := do
  match ← find? sql with
  | none => pure (.error "unknown statement")
  | some s =>
    match ← reach sql s .bind with
    | .error message => pure (.error message)
    | .ok _ =>
      let s := (← find? sql).getD s
      let (outcome, s) := s.finish
      setScript sql s
      pure (.ok outcome)

def greet (_ : List (String × String)) : StateM ScriptedServer (Except String Greeting) := do
  match (← get).welcome with
  | .everyone => pure (.ok .accepted)
  | .withPassword => pure (.ok .passwordWanted)
  | .nobody => pure (.error "access denied")

def server : Server ScriptedServer :=
  ⟨user, fun s => Socket.reach s.directory s.port, greet, query, prepare, execute⟩

end ScriptedServer

end BatchSql.Postgres
