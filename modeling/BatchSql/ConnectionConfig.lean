import BatchSql.Codec.Json
import BatchSql.Connection
import BatchSql.DisplayData

namespace BatchSql

/-- How to reach a database through a driver, as it is written down. -/
structure ConnectionSettings where
  driver : String
  url : String
  username : Option String
  password : Option Secret

namespace ConnectionSettings

def optionalText? : Json → Option (Option String)
  | .null => some none
  | .string s => some (some s)
  | _ => none

/-- The value of a field that may be left out. -/
def optionalField? (fields : List (String × Json)) (name : String) : Option (Option String) :=
  match Assoc.get? name fields with
  | none => some none
  | some j => optionalText? j

def requiredField? (fields : List (String × Json)) (name : String) : Option String :=
  (Assoc.get? name fields).bind Value.textOf?

def fieldNames : List String :=
  ["driver_class_name", "url", "username", "password"]

/-- Known names, each at most once. -/
def wellNamed : List String → Bool
  | [] => true
  | n :: rest => fieldNames.contains n && !rest.contains n && wellNamed rest

/-- An object with known fields, or an array of the fields in order, of which the last two may
be left out. -/
def ofJson? : Json → Option ConnectionSettings
  | .object fields => do
    if !wellNamed (fields.map Prod.fst) then none
    let driver ← requiredField? fields "driver_class_name"
    let url ← requiredField? fields "url"
    let username ← optionalField? fields "username"
    let password ← optionalField? fields "password"
    pure ⟨driver, url, username, password.map Secret.mk⟩
  | .array (driver :: url :: rest) => do
    let driver ← Value.textOf? driver
    let url ← Value.textOf? url
    let username ← optionalText? (rest.head?.getD .null)
    let password ← optionalText? (rest[1]?.getD .null)
    if 2 < rest.length then none
    pure ⟨driver, url, username, password.map Secret.mk⟩
  | _ => none

def optionJson : Option String → Json
  | some s => .string s
  | none => .null

/-- The settings as an object, without the password. -/
def toJson (s : ConnectionSettings) : Json :=
  .object [
    ("driver_class_name", .string s.driver),
    ("url", .string s.url),
    ("username", optionJson s.username),
    ("password", optionJson (s.password.map Secret.written))]

/-- The settings as they are shown, the URL as it stands. -/
def text (s : ConnectionSettings) : String :=
  "ConnectionSettings \x7b driver_class_name: " ++ Text.quoted s.driver ++
    ", url: " ++ Text.quoted s.url ++
    ", username: " ++ Text.quotedOption s.username ++
    ", password: " ++ Secret.shownOption s.password ++ " \x7d"

end ConnectionSettings

/-- Where connections come from: a source at hand, or a driver by its name and a URL. -/
inductive ConnectionOrigin (σ : Type) where
  | source (source : DataSource σ)
  | driver (name url : String)

/-- How to obtain connections, and in whose name. -/
structure ConnectionConfig (σ : Type) where
  origin : ConnectionOrigin σ
  username : Option String
  password : Option Secret

namespace ConnectionConfig

def ofSource (source : DataSource σ) : ConnectionConfig σ :=
  ⟨.source source, none, none⟩

def ofDriver (name url : String) : ConnectionConfig σ :=
  ⟨.driver name url, none, none⟩

def ofSettings (s : ConnectionSettings) : ConnectionConfig σ :=
  ⟨.driver s.driver s.url, s.username, s.password⟩

def driverName? (c : ConnectionConfig σ) : Option String :=
  match c.origin with
  | .source _ => none
  | .driver name _ => some name

def url? (c : ConnectionConfig σ) : Option String :=
  match c.origin with
  | .source _ => none
  | .driver _ url => some url

def sourceName? (c : ConnectionConfig σ) : Option String :=
  match c.origin with
  | .source s => some s.name
  | .driver _ _ => none

/-- The driver form needs a name and a URL. -/
def validate (c : ConnectionConfig σ) : Except Error Unit :=
  match c.origin with
  | .source _ => .ok ()
  | .driver name url =>
    if name.isEmpty then .error (.configuration "driver class name must not be empty")
    else if url.isEmpty then
      .error (.configuration "url is required when using a driver class name")
    else .ok ()

/-- Adds what may be shown. Of a source this is its name alone. -/
def addTo (c : ConnectionConfig σ) (d : DisplayData) : DisplayData :=
  match c.origin with
  | .source s => d.add "data_source" s.name
  | .driver name url =>
    ((d.add "driver_class_name" name).add "url" (Url.redacted url)).addIfSome "username" c.username

def display (c : ConnectionConfig σ) : DisplayData :=
  c.addTo .empty

def text (c : ConnectionConfig σ) : String :=
  "ConnectionConfig \x7b driver_class_name: " ++ Text.quotedOption c.driverName? ++
    ", url: " ++ Text.quotedOption (c.url?.map Url.redacted) ++
    ", username: " ++ Text.quotedOption c.username ++
    ", password: " ++ Secret.shownOption c.password ++
    ", data_source: " ++ Text.quotedOption c.sourceName? ++ " \x7d"

def optionText : Option (ConnectionConfig σ) → String
  | some c => "Some(" ++ c.text ++ ")"
  | none => "None"

/-- The source of the driver form: the options have the password only beside a user name. -/
def driverSource (c : ConnectionConfig σ) (registry : Registry σ) (name url : String) :
    Except Error (DriverDataSource σ) := do
  match c.validate with
  | .ok _ => pure ()
  | .error e => throw (.connectionFrom "invalid connection configuration" e)
  let factory ← registry.lookup name
  let options := ConnectOptions.ofUrl url
  let options := match c.username with
    | some username => options.withCredentials username c.password
    | none => options
  pure ⟨factory, options⟩

/-- A connection, before its errors are told to be connection errors. -/
def tryAcquire (c : ConnectionConfig σ) (registry : Registry σ) : Task σ (Connection σ) := do
  match c.origin with
  | .source s =>
    Task.log .debug "Acquiring connection" [("data_source", s.name)]
    match c.username with
    | some username => s.connectionAs username c.password
    | none => s.connection
  | .driver name url =>
    let d ← Task.ofExcept (c.driverSource registry name url)
    Task.log .debug "Acquiring connection" [
      ("driver", d.factory.name), ("url", Url.redacted url)]
    d.dataSource.connection

/-- Every failure to connect is a connection error, if need be with its cause behind it. -/
def asConnectionError (e : Error) : Error :=
  if e.category = .connection then e else .connectionFrom "failed to acquire connection" e

/-- A new connection. -/
def acquire (c : ConnectionConfig σ) (registry : Registry σ) : Task σ (Connection σ) :=
  tryCatch (c.tryAcquire registry) fun e => throw (asConnectionError e)

end ConnectionConfig

end BatchSql
