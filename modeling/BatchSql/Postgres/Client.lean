import BatchSql.Connection
import BatchSql.Postgres.Server
import BatchSql.Text.Split

namespace BatchSql.Postgres

/-- A statement that the server has prepared. -/
structure Prepared where
  sql : String
  description : Description

/-- The parameters of a run, each by the type at its position. -/
def encodeFrom (position : Nat) :
    List ColumnType → List Value → Except ClientError (List (Option Octets))
  | t :: ts, v :: vs =>
    match t.write? v with
    | some written => (encodeFrom (position + 1) ts vs).map (written :: ·)
    | none => .error (.parameter position v t)
  | _, _ => .ok []

/-- Their number is checked before their types. -/
def encode (types : List ColumnType) (values : List Value) :
    Except ClientError (List (Option Octets)) :=
  if types.length = values.length then encodeFrom 0 types values
  else .error (.parameterCount types.length values.length)

/-- The number after the last space of a command's tag. -/
def affected (tag : String) : Nat :=
  (((Text.splitOn ' ' tag.toList).getLast?).bind (Text.unsigned? (2 ^ 64 - 1))).getD 0

def hasNull (s : String) : Bool :=
  s.toList.contains (Char.ofNat 0)

namespace Client

variable {S : Type} (server : Server S)

def query (i : Nat) (sql : String) : Client S Outcome :=
  sendOver i (.query sql) (server.query sql)

/-- Runs a command of which only the success counts. -/
def command (i : Nat) (sql : String) : Client S Unit := do
  let outcome ← query server i sql
  match outcome.ending with
  | .ok _ => pure ()
  | .error message => throw (.refused message)

def prepare (i : Nat) (sql : String) : Client S Prepared := do
  if hasNull sql then throw .embeddedNull
  let description ← sendOver i (.prepare sql) (server.prepare sql)
  pure ⟨sql, description⟩

/-- Parameters that cannot be written are not sent. -/
def perform (i : Nat) (p : Prepared) (values : List Value) : Client S Outcome := do
  let params ← MonadExcept.ofExcept (encode p.description.params values)
  sendOver i (.execute p.sql params) (server.execute p.sql params)

/-- Runs a statement to its end and tells how many rows it affected. -/
def execute (i : Nat) (p : Prepared) (values : List Value) : Client S Nat := do
  let outcome ← perform server i p values
  match outcome.ending with
  | .ok tag => pure (affected tag)
  | .error message => throw (.refused message)

/-- Runs sets of parameters up to the first that cannot be sent, which has its place among the
results. -/
def executeSendable (i : Nat) (p : Prepared) :
    List (List Value) → StateM (Network S) (List (Except ClientError Nat))
  | [] => pure []
  | values :: rest => do
    match ← (execute server i p values).run with
    | .error e =>
      if e.isUnsent then pure [.error e]
      else
        let results ← executeSendable i p rest
        pure (.error e :: results)
    | .ok n =>
      let results ← executeSendable i p rest
      pure (.ok n :: results)

/-- The counts in order, or the first error in order. -/
def inOrder : List (Except ClientError Nat) → Except ClientError (List Nat)
  | [] => .ok []
  | .ok n :: rest => (inOrder rest).map (n :: ·)
  | .error e :: _ => .error e

def unsent? : Except ClientError Nat → Option ClientError
  | .error e => if e.isUnsent then some e else none
  | .ok _ => none

/-- In a short batch a set that cannot be sent ends it at once, before any answer is there. -/
def executeShort (i : Nat) (p : Prepared) (batch : List (List Value)) : Client S (List Nat) := do
  let results ← ExceptT.lift (executeSendable server i p batch)
  match results.findSome? unsent? with
  | some e => throw e
  | none => MonadExcept.ofExcept (inOrder results)

/-- A long batch goes on past sets that cannot be sent, unless the first is one. -/
def executeLong (i : Nat) (p : Prepared) : List (List Value) → Client S (List Nat)
  | [] => pure []
  | values :: rest => do
    let first ← ExceptT.lift (execute server i p values).run
    match unsent? first with
    | some e => throw e
    | none =>
      let results ← ExceptT.lift (rest.mapM fun vs => (execute server i p vs).run)
      MonadExcept.ofExcept (inOrder (first :: results))

/-- The length up to which a batch is short. -/
def shortBatch : Nat := 30

/-- Runs the sets of a batch without waiting for one before the next is sent. -/
def executeBatch (i : Nat) (p : Prepared) (batch : List (List Value)) : Client S (List Nat) :=
  if batch.length ≤ shortBatch then executeShort server i p batch
  else executeLong server i p batch

end Client

/-- A row as the columns of its statement read it. -/
def Description.row (d : Description) (cells : List (Option Octets)) : Row :=
  .ofColumns (d.columns.map Column.name)
    (d.columns.zipIdx.map fun (c, i) => c.type.read (cells[i]?.getD none))

/-- The answers to those who read an outcome: its rows, its refusal if there is one, the end, and
after it nothing but that the link is closed. -/
def Prepared.cursor (p : Prepared) (o : Outcome) : Cursor :=
  let failed (e : ClientError) : Except Error (Option Row) :=
    .error (.queryFault (some p.sql) e.fault)
  let refusal := match o.ending with
    | .ok _ => []
    | .error message => [failed (.refused message)]
  ⟨o.rows.map (fun cells => .ok (some (p.description.row cells))) ++ refusal ++ [.ok none],
    failed .closed⟩

end BatchSql.Postgres
