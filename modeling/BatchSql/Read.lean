import BatchSql.ConnectionConfig
import BatchSql.FusionBarrier

namespace BatchSql

/-- Makes a record of a row. -/
structure RowMapper (τ : Type) where
  name : String
  map : Row → Except Error τ

/-- A read as it is described, before it is run. -/
structure ReadConnector (σ τ : Type) where
  config : Option (ConnectionConfig σ)
  query : Option String
  mapper : Option (RowMapper τ)
  codec : Option (Codec τ)
  fusionBarrier : Bool

/-- Queries run, and rows mapped and handed on. -/
structure ReadStats where
  queries : Nat
  rowsRead : Nat
deriving DecidableEq

/-- A read under way: it has a connection until it is torn down. -/
structure ReadWorker (σ τ : Type) where
  connection : Option (Connection σ)
  query : String
  mapper : RowMapper τ
  barrier : Option (FusionBarrier τ)
  stats : ReadStats

namespace ReadWorker

def isClosed (w : ReadWorker σ τ) : Bool :=
  w.connection.isNone

/-- Hands a record to the barrier if there is one, else to the host. -/
def pass (host : Host η τ) (barrier : Option (FusionBarrier τ)) (record : τ) :
    Step η (Except Error Unit × Option (FusionBarrier τ)) := do
  match barrier with
  | some b =>
    let (r, b) := b.emit record
    pure (r, some b)
  | none =>
    let r ← (host.emit record).run
    pure (r, none)

/-- Where a scan ended: the rows passed on, and the barrier with them in it. -/
structure Scanned (τ : Type) where
  outcome : Except Error Unit
  rows : Nat
  barrier : Option (FusionBarrier τ)

/-- Maps and passes on the rows of a cursor, up to the first failure. -/
def scan (mapper : RowMapper τ) (host : Host η τ) (last : Except Error (Option Row)) :
    List (Except Error (Option Row)) → Nat → Option (FusionBarrier τ) → Step η (Scanned τ)
  | [], index, barrier => pure ⟨last.map fun _ => (), index, barrier⟩
  | .error e :: _, index, barrier => pure ⟨.error e, index, barrier⟩
  | .ok none :: _, index, barrier => pure ⟨.ok (), index, barrier⟩
  | .ok (some row) :: rest, index, barrier =>
    match mapper.map row with
    | .error e => pure ⟨.error (.rowMapping index e), index, barrier⟩
    | .ok record => do
      let (r, barrier) ← pass host barrier record
      match r with
      | .error e => pure ⟨.error e, index, barrier⟩
      | .ok _ =>
        Step.log .trace "Emitted row" [("row", toString index)]
        scan mapper host last rest (index + 1) barrier

/-- Ends a call: the barrier lets its records out, or drops them after a failure. -/
def settle (host : Host η τ) (s : Scanned τ) :
    Step η (Except Error Nat × Option (FusionBarrier τ)) := do
  match s.outcome, s.barrier with
  | .ok _, some b =>
    let (r, b) ← b.flush host
    pure (r, some b)
  | .ok _, none => pure (.ok s.rows, none)
  | .error e, barrier => pure (.error e, barrier.map FusionBarrier.clear)

/-- Runs the query once and passes its rows on. -/
def process (w : ReadWorker σ τ) (host : Host η τ) :
    Step (σ × η) (Except Error Nat × ReadWorker σ τ) := do
  match w.connection with
  | none => pure (.error (.connection "read worker is closed"), w)
  | some connection =>
    match ← (Task.within .first (connection.queryStream w.query [])).run with
    | .error e => pure (.error e, w)
    | .ok cursor =>
      let s ← Step.within .second (scan w.mapper host cursor.last cursor.coming 0 w.barrier)
      Step.log .debug "Query finished" [("rows", toString s.rows)]
      let (r, barrier) ← Step.within .second (settle host s)
      pure (r, { w with
        barrier := barrier
        stats := ⟨w.stats.queries + 1, w.stats.rowsRead + s.rows⟩ })

/-- Closes the connection, once. -/
def teardown (w : ReadWorker σ τ) : Step σ (Except Error Unit × ReadWorker σ τ) := do
  match w.connection with
  | none => pure (.ok (), w)
  | some connection =>
    let r ← connection.close.run
    match r with
    | .ok _ =>
      Step.log .info "Read worker closed" [
        ("queries", toString w.stats.queries), ("rows", toString w.stats.rowsRead)]
    | .error e => Step.log .warn "Failed to close read connection" [("error", e.message)]
    pure (r, { w with connection := none })

/-- What is noted when a worker is given up while it is open. -/
def abandon (w : ReadWorker σ τ) : Step σ Unit := do
  if !w.isClosed then Step.log .warn "Read worker dropped without teardown" []

end ReadWorker

namespace ReadConnector

def empty : ReadConnector σ τ :=
  ⟨none, none, none, none, true⟩

/-- Everything is set, and the connection is fully described. -/
def validate (c : ReadConnector σ τ) : Except Error Unit := do
  match c.query with
  | none => throw (.configuration "read: query is required")
  | some query =>
    if Text.isBlankText query then throw (.configuration "read: query must not be empty")
  if c.mapper.isNone then throw (.configuration "read: row mapper is required")
  if c.codec.isNone then throw (.configuration "read: codec is required")
  match c.config with
  | none => throw (.configuration "read: connection configuration is required")
  | some config => config.validate

def display (c : ReadConnector σ τ) : DisplayData :=
  let d := DisplayData.empty
    |>.addIfSome "query" c.query
    |>.addIfSome "row_mapper" (c.mapper.map RowMapper.name)
    |>.addIfSome "codec" (c.codec.map Codec.name)
    |>.add "fusion_barrier" (toString c.fusionBarrier)
  match c.config with
  | some config => config.addTo d
  | none => d

def text (c : ReadConnector σ τ) : String :=
  "ReadConnector \x7b connection_config: " ++ ConnectionConfig.optionText c.config ++
    ", query: " ++ Text.quotedOption c.query ++
    ", fusion_barrier: " ++ toString c.fusionBarrier ++ ", .. \x7d"

/-- A worker with a connection of its own. `keys` is the random source of its barrier. -/
def setup (c : ReadConnector σ τ) (registry : Registry σ) (keys : Nat → UInt32) :
    Task σ (ReadWorker σ τ) := do
  Task.ofExcept c.validate
  match c.config, c.query, c.mapper with
  | some config, some query, some mapper =>
    let connection ← config.acquire registry
    let barrier := if c.fusionBarrier then c.codec.map fun k => .create k keys else none
    Task.log .info "Read worker ready" [
      ("query", query), ("fusion_barrier", toString barrier.isSome)]
    pure ⟨some connection, query, mapper, barrier, ⟨0, 0⟩⟩
  | _, _, _ => throw (.configuration "read: incomplete configuration")

/-- One invocation with a worker of its own, which is torn down however the scan ends. A failed
scan counts before a failed close. -/
def readInto (c : ReadConnector σ τ) (registry : Registry σ) (keys : Nat → UInt32)
    (host : Host η τ) : Task (σ × η) ReadStats := do
  let worker ← Task.within .first (c.setup registry keys)
  let (processed, worker) ← ExceptT.lift (worker.process host)
  let (closed, worker) ← ExceptT.lift (Step.within .first worker.teardown)
  let _ ← Task.ofExcept processed
  Task.ofExcept closed
  pure worker.stats

/-- The records of one invocation. -/
def read (c : ReadConnector σ τ) (registry : Registry σ) (keys : Nat → UInt32)
    (group : List Keyed → Task η (List Group)) : Task (σ × η) (List τ) := do
  let t ← get
  let (r, t') :=
    (c.readInto registry keys (Host.collecting group)).run ⟨(t.world.1, t.world.2, []), t.events⟩
  set (Traced.mk (t'.world.1, t'.world.2.1) t'.events)
  let _ ← Task.ofExcept r
  pure t'.world.2.2

end ReadConnector

end BatchSql
