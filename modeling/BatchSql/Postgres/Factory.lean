import BatchSql.Postgres.ConnectionString
import BatchSql.Postgres.Session

namespace BatchSql.Postgres

namespace Target

/-- Where to try in turn: an address goes before the name beside it, and one port serves all. -/
def places (t : Target) : Except ClientError (List (HostName × Nat)) :=
  let hosts := t.hosts.length
  let addresses := t.addresses.length
  let count := max hosts addresses
  if count = 0 then .error (.configuration "both host and hostaddr are missing")
  else if 0 < hosts ∧ 0 < addresses ∧ hosts ≠ addresses then
    .error (.configuration
      s!"number of hosts ({hosts}) is different from number of hostaddrs ({addresses})")
  else if 1 < t.ports.length ∧ t.ports.length ≠ count then
    .error (.configuration "invalid number of ports")
  else
    .ok ((List.range count).map fun i =>
      let name := match t.addresses[i]? with
        | some address => HostName.network address
        | none => t.hosts[i]?.getD (.network "")
      (name, t.ports[i]?.getD (t.ports.head?.getD defaultPort)))

def startup (t : Target) (user : String) : List (String × String) :=
  [("client_encoding", "UTF8"), ("user", t.user.getD user)] ++
    (t.database.map fun d => ("database", d)).toList ++
    (t.options.map fun o => ("options", o)).toList ++
    (t.applicationName.map fun a => ("application_name", a)).toList

/-- What the options ask for goes before what the connection string says. -/
def override (t : Target) (o : ConnectOptions) : Target :=
  { t with
    user := o.username.or t.user
    password := (o.password.map fun p => Utf8.ofString p.content).or t.password
    applicationName := o.applicationName.or t.applicationName }

end Target

namespace Client

variable {S : Type} (server : Server S)

def reach (host : HostName) (port : Nat) : Client S Unit := do
  let s := (← get).server
  MonadExcept.ofExcept ((server.reach s host port).mapError ClientError.unreachable)

def checkBinding (t : Target) : Client S Unit := do
  if t.binding = .require then throw .unbound

/-- Introduces the client. The password is sent only when it is wanted. -/
def introduce (t : Target) : Client S Unit := do
  let parameters := t.startup (server.user (← get).server)
  if parameters.any fun (_, v) => hasNull v then throw .embeddedNull
  let greeting ← send (.startup parameters) (server.greet parameters)
  checkBinding t
  match greeting with
  | .accepted => pure ()
  | .passwordWanted =>
    match t.password with
    | none => throw (.configuration "password missing")
    | some password =>
      if password.contains 0 then throw .embeddedNull
      send (.password password) (pure (.ok ()))

/-- Asks the server for its role, if that matters. -/
def checkRole (t : Target) : Client S Unit := do
  let sql := "SHOW transaction_read_only"
  if t.role ≠ .any then
    let outcome ← send (.query sql) (server.query sql)
    match outcome.rows, outcome.ending with
    | row :: _, _ =>
      let readOnly := (row.head?.getD none).bind Utf8.toString?
      if readOnly = some "on" ∧ t.role = .readWrite then
        throw (.unreachable "database does not allow writes")
      if readOnly = some "off" ∧ t.role = .readOnly then
        throw (.unreachable "database is not read only")
    | [], .error message => throw (.refused message)
    | [], .ok _ => throw .unexpectedReply

/-- A new session at one place. No server offers encryption, and a socket has no name to which it
could be bound. -/
def connectAt (t : Target) (host : HostName) (port : Nat) : Client S Nat := do
  reach server host port
  if t.encryption = .require then throw (if t.unasked then .unnamed else .unencrypted)
  introduce server t
  checkRole server t
  modifyGet (·.addSession true)

/-- The first place that takes the client; if none does, the error of the last. -/
def connectFirst (t : Target) : List (HostName × Nat) → Client S Nat
  | [] => throw (.configuration "both host and hostaddr are missing")
  | [(host, port)] => connectAt server t host port
  | (host, port) :: rest =>
    tryCatch (connectAt server t host port) fun _ => connectFirst t rest

def connect (t : Target) : Client S Nat := do
  let places ← MonadExcept.ofExcept t.places
  connectFirst server t places

end Client

variable {σ S : Type} (server : Server S) (f : Focus σ (Network S))

/-- The names that the driver goes by. -/
def driverNames : List String :=
  ["org.postgresql.Driver", "postgres", "postgresql"]

def openWith (o : ConnectOptions) : Action S Nat := do
  match Target.ofText o.url with
  | .error flaw =>
    throw (.connectionFault "invalid PostgreSQL url"
      ⟨"invalid connection string", some flaw.message⟩)
  | .ok t =>
    ExceptT.mk do
      let r ← (Client.connect server (t.override o)).run
      pure (r.mapError fun e => .connectionFault "failed to connect" e.fault)

def factory : ConnectionFactory σ where
  name := "postgres"
  connect options := do
    let i ← Task.ofState f (openWith server options)
    pure (connection server f i)

/-- The registry that knows this driver alone. -/
def builtin : Registry σ :=
  driverNames.map fun name => (name, factory server f)

end BatchSql.Postgres
