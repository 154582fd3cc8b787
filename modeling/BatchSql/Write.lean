import BatchSql.ConnectionConfig
import BatchSql.Parameters

namespace BatchSql

/-- Gives the parameters of an element. -/
structure ParameterSetter (τ : Type) where
  name : String
  bind : τ → Except Error Parameters

/-- A write as it is described, before it is run. -/
structure WriteConnector (σ τ : Type) where
  config : Option (ConnectionConfig σ)
  statement : Option String
  setter : Option (ParameterSetter τ)
  batchSize : Nat

inductive WorkerState where
  | ready
  | accumulating
  | flushing
  | closed
deriving DecidableEq, Repr

structure WriteStats where
  elements : Nat
  elementsCommitted : Nat
  batches : Nat
  commits : Nat
  rollbacks : Nat
deriving DecidableEq, Repr

/-- What a worker holds until it is torn down. -/
structure WriteHold (σ : Type) where
  connection : Connection σ
  statement : Statement σ

/-- A write under way. `pending` are the parameters of elements not yet executed, and
`bundleElements` counts the elements bound since the bundle began. -/
structure WriteWorker (σ τ : Type) where
  hold : Option (WriteHold σ)
  setter : ParameterSetter τ
  batchSize : Nat
  pending : List (List Value)
  bundleElements : Nat
  needsRollback : Bool
  state : WorkerState
  stats : WriteStats

namespace WriteWorker

def closedError : Error :=
  .connection "write worker is closed"

/-- Begins a bundle. What a failed one left behind is rolled back. -/
def startBundle (w : WriteWorker σ τ) : Step σ (Except Error Unit × WriteWorker σ τ) := do
  match w.hold with
  | none => pure (.error closedError, w)
  | some hold =>
    if w.needsRollback ∨ !w.pending.isEmpty then
      Step.log .warn "Rolling back leftovers of a failed bundle" [
        ("discarded", toString w.pending.length)]
      match ← hold.connection.rollback.run with
      | .error e => pure (.error e, { w with pending := [] })
      | .ok _ =>
        pure (.ok (), { w with
          pending := []
          needsRollback := false
          bundleElements := 0
          state := .ready
          stats := { w.stats with rollbacks := w.stats.rollbacks + 1 } })
    else pure (.ok (), { w with bundleElements := 0, state := .ready })

/-- Executes the pending elements as one batch and commits it. -/
def flush (w : WriteWorker σ τ) : Step σ (Except Error Unit × WriteWorker σ τ) := do
  if w.pending.isEmpty then pure (.ok (), w)
  else
    match w.hold with
    | none => pure (.error closedError, w)
    | some hold =>
      let count := w.pending.length
      let attempt : Task σ Unit := do
        let _ ← hold.statement.executeBatch w.pending
        hold.connection.commit
      let r ← attempt.run
      let w := { w with pending := [], state := .ready }
      match r with
      | .ok _ =>
        Step.log .debug "Committed batch" [("elements", toString count)]
        pure (.ok (), { w with stats := { w.stats with
          batches := w.stats.batches + 1
          commits := w.stats.commits + 1
          elementsCommitted := w.stats.elementsCommitted + count } })
      | .error e =>
        Step.log .warn "Batch failed" [("elements", toString count), ("error", e.message)]
        pure (.error (.batchExecution count e), { w with needsRollback := true })

/-- Binds an element, and flushes when the batch is full. -/
def process (w : WriteWorker σ τ) (element : τ) :
    Step σ (Except Error Unit × WriteWorker σ τ) := do
  if w.state = .closed then pure (.error closedError, w)
  else
    let index := w.bundleElements
    match (w.setter.bind element).bind Parameters.values with
    | .error e => pure (.error (.parameterBind index e), w)
    | .ok values =>
      let w := { w with
        pending := w.pending ++ [values]
        bundleElements := w.bundleElements + 1
        state := .accumulating
        stats := { w.stats with elements := w.stats.elements + 1 } }
      Step.log .trace "Bound element" [
        ("element", toString index), ("pending", toString w.pending.length)]
      if w.batchSize ≤ w.pending.length then w.flush else pure (.ok (), w)

def finishBundle (w : WriteWorker σ τ) : Step σ (Except Error Unit × WriteWorker σ τ) :=
  w.flush

/-- Processes elements up to the first that fails, and counts those before it. -/
def processAll (w : WriteWorker σ τ) : Nat → List τ →
    Step σ (Except Error Unit × Nat × WriteWorker σ τ)
  | done, [] => pure (.ok (), done, w)
  | done, element :: rest => do
    match ← w.process element with
    | (.ok _, w) => w.processAll (done + 1) rest
    | (.error e, w) => pure (.error e, done, w)

/-- One whole bundle. -/
def writeBundle (w : WriteWorker σ τ) (elements : List τ) :
    Step σ (Except Error Unit × WriteWorker σ τ) := do
  match ← w.startBundle with
  | (.error e, w) => pure (.error e, w)
  | (.ok _, w) =>
    match ← w.processAll 0 elements with
    | (.error e, _, w) => pure (.error e, w)
    | (.ok _, _, w) => w.finishBundle

def writeBundles (w : WriteWorker σ τ) : List (List τ) →
    Step σ (Except Error Unit × WriteWorker σ τ)
  | [] => pure (.ok (), w)
  | bundle :: rest => do
    match ← w.writeBundle bundle with
    | (.ok _, w) => w.writeBundles rest
    | (.error e, w) => pure (.error e, w)

/-- Runs a closing step and notes its failure. -/
def closing (step : Task σ Unit) (warning : String) : Step σ (Except Error Unit) := do
  let r ← step.run
  match r with
  | .ok _ => pure ()
  | .error e => Step.log .warn warning [("error", e.message)]
  pure r

/-- Closes the statement and then the connection, once. Both are tried, and the first failure
is the answer. -/
def teardown (w : WriteWorker σ τ) : Step σ (Except Error Unit × WriteWorker σ τ) := do
  if w.state = .closed then pure (.ok (), w)
  else
    if !w.pending.isEmpty then
      Step.log .debug "Dropping uncommitted elements" [("discarded", toString w.pending.length)]
    let r ← match w.hold with
      | none => pure (.ok ())
      | some hold => do
        let first ← closing hold.statement.close "Failed to close prepared statement"
        let second ← closing hold.connection.close "Failed to close write connection"
        pure (first.bind fun _ => second)
    Step.log .info "Write worker closed" [
      ("elements", toString w.stats.elements), ("commits", toString w.stats.commits)]
    pure (r, { w with hold := none, pending := [], state := .closed })

/-- What is noted when a worker is given up while it is open. -/
def abandon (w : WriteWorker σ τ) : Step σ Unit := do
  if w.state ≠ .closed then Step.log .warn "Write worker dropped without teardown" []

end WriteWorker

namespace WriteConnector

def defaultBatchSize : Nat := 1000

def empty : WriteConnector σ τ :=
  ⟨none, none, none, defaultBatchSize⟩

/-- Everything is set, and the connection is fully described. -/
def validate (c : WriteConnector σ τ) : Except Error Unit := do
  match c.statement with
  | none => throw (.configuration "write: statement is required")
  | some statement =>
    if Text.isBlankText statement then
      throw (.configuration "write: statement must not be empty")
  if c.setter.isNone then throw (.configuration "write: parameter setter is required")
  if c.batchSize = 0 then throw (.configuration "write: batch size must be at least 1")
  match c.config with
  | none => throw (.configuration "write: connection configuration is required")
  | some config => config.validate

def display (c : WriteConnector σ τ) : DisplayData :=
  let d := DisplayData.empty
    |>.addIfSome "statement" c.statement
    |>.addIfSome "parameter_setter" (c.setter.map ParameterSetter.name)
    |>.add "batch_size" (toString c.batchSize)
  match c.config with
  | some config => config.addTo d
  | none => d

def text (c : WriteConnector σ τ) : String :=
  "WriteConnector \x7b connection_config: " ++ ConnectionConfig.optionText c.config ++
    ", statement: " ++ Text.quotedOption c.statement ++
    ", batch_size: " ++ toString c.batchSize ++ ", .. \x7d"

/-- The statement of a worker, on a connection whose writes wait for commits. -/
def prepare (connection : Connection σ) (sql : String) : Task σ (Statement σ) := do
  connection.setAutoCommit false
  connection.prepare sql

/-- A worker with a connection and a statement of its own. A connection that is of no use is
closed again. -/
def setup (c : WriteConnector σ τ) (registry : Registry σ) : Task σ (WriteWorker σ τ) := do
  Task.ofExcept c.validate
  match c.config, c.statement, c.setter with
  | some config, some sql, some setter =>
    let connection ← config.acquire registry
    match ← ExceptT.lift (prepare connection sql).run with
    | .ok statement =>
      Task.log .info "Write worker ready" [
        ("statement", sql), ("batch_size", toString c.batchSize)]
      pure ⟨some ⟨connection, statement⟩, setter, c.batchSize, [], 0, false, .ready,
        ⟨0, 0, 0, 0, 0⟩⟩
    | .error e =>
      let _ ← ExceptT.lift (WriteWorker.closing connection.close
        "Failed to close connection after setup failure")
      throw (.connectionFrom "write worker setup failed" e)
  | _, _, _ => throw (.configuration "write: incomplete configuration")

/-- Writes bundles with one worker, up to the first that fails; the worker is torn down however
this ends. A failed bundle counts before a failed close. -/
def writeBundles (c : WriteConnector σ τ) (registry : Registry σ) (bundles : List (List τ)) :
    Task σ WriteStats := do
  let worker ← c.setup registry
  let (written, worker) ← ExceptT.lift (worker.writeBundles bundles)
  let (closed, worker) ← ExceptT.lift worker.teardown
  Task.ofExcept written
  Task.ofExcept closed
  pure worker.stats

end WriteConnector

end BatchSql
