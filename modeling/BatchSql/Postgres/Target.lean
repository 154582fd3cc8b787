import BatchSql.Text.Digits
import BatchSql.Text.Split
import BatchSql.Text.Utf8
import BatchSql.Url.Address

namespace BatchSql.Postgres

/-- Where a server listens: a name of the network, or the directory of a socket. -/
inductive HostName where
  | network (name : String)
  | socket (directory : Octets)
deriving DecidableEq, Repr

def HostName.ofOctets? (bs : Octets) : Except Utf8.Fault HostName :=
  if bs.head? = some 0x2F then .ok (.socket bs)
  else (Utf8.decode bs).map fun cs => .network (String.ofList cs)

def HostName.ofText (s : String) : HostName :=
  if s.toList.head? = some '/' then .socket (Utf8.ofString s) else .network s

/-- Whether a feature is left out, used if it is there, or insisted on. -/
inductive Demand where
  | disable
  | prefer
  | require
deriving DecidableEq, Repr

def Demand.ofText? : String → Option Demand
  | "disable" => some .disable
  | "prefer" => some .prefer
  | "require" => some .require
  | _ => none

/-- What a server has to allow for a client to stay. -/
inductive ServerRole where
  | any
  | readWrite
  | readOnly
deriving DecidableEq, Repr

def ServerRole.ofText? : String → Option ServerRole
  | "any" => some .any
  | "read-write" => some .readWrite
  | "read-only" => some .readOnly
  | _ => none

/-- Which servers to try, and how to introduce oneself. -/
structure Target where
  user : Option String
  password : Option Octets
  database : Option String
  options : Option String
  applicationName : Option String
  hosts : List HostName
  addresses : List String
  ports : List Nat
  encryption : Demand
  /-- Encryption begins at once, and the server is not asked whether it knows any. -/
  unasked : Bool
  binding : Demand
  role : ServerRole
deriving DecidableEq, Repr

/-- What is wrong with a connection string. -/
inductive Flaw where
  | unknownOption (name : String)
  | invalidValue (option : String)
  | unexpectedEnd
  | unexpectedCharacter (index : Nat) (expected found : Char)
  | unterminatedQuote
  | unterminatedParameter
  | illFormed (fault : Utf8.Fault)

def Flaw.message : Flaw → String
  | unknownOption name => "unknown option `" ++ name ++ "`"
  | invalidValue option => "invalid value for option `" ++ option ++ "`"
  | unexpectedEnd => "unexpected EOF"
  | unexpectedCharacter index expected found =>
    "unexpected character at byte " ++ toString index ++ ": expected `" ++
      String.singleton expected ++ "` but got `" ++ String.singleton found ++ "`"
  | unterminatedQuote => "unterminated quoted connection parameter value"
  | unterminatedParameter => "unterminated parameter"
  | illFormed fault => fault.message

namespace Target

def empty : Target :=
  ⟨none, none, none, none, none, [], [], [], .prefer, false, .prefer, .any⟩

def defaultPort : Nat := 5432

/-- A port number; nothing is the default. -/
def port? (cs : List Char) : Option Nat :=
  if cs.isEmpty then some defaultPort else Text.unsigned? 65535 cs

/-- An address of either version, as plain numbers. -/
def isAddress (cs : List Char) : Bool :=
  match (Text.splitOn '.' cs).mapM Url.Ipv6.octet? with
  | some [_, _, _, _] => true
  | _ => (Url.Ipv6.parse? cs).isSome

def items (value : String) : List (List Char) :=
  Text.splitOn ',' value.toList

/-- Whether encryption begins without a question. -/
def negotiation? : String → Option Bool
  | "postgres" => some false
  | "direct" => some true
  | _ => none

def addHost (t : Target) (h : HostName) : Target :=
  { t with hosts := t.hosts ++ [h] }

def required (option : String) : Option α → Except Flaw α
  | some a => .ok a
  | none => .error (.invalidValue option)

/-- The target unchanged, if a value that does not matter here is well formed. -/
def checked (t : Target) (option : String) (wellFormed : Bool) : Except Flaw Target :=
  if wellFormed then .ok t else .error (.invalidValue option)

/-- Sets an option by its name. Hosts, addresses and ports are added to those already there. -/
def set (t : Target) (option value : String) : Except Flaw Target :=
  let cs := value.toList
  match option with
  | "user" => .ok { t with user := some value }
  | "password" => .ok { t with password := some (Utf8.ofString value) }
  | "dbname" => .ok { t with database := some value }
  | "options" => .ok { t with options := some value }
  | "application_name" => .ok { t with applicationName := some value }
  | "host" =>
    .ok { t with hosts := t.hosts ++ (items value).map fun h => .ofText (String.ofList h) }
  | "hostaddr" =>
    if (items value).all isAddress then
      .ok { t with addresses := t.addresses ++ (items value).map String.ofList }
    else .error (.invalidValue option)
  | "port" => do
    let ports ← required option ((items value).mapM port?)
    pure { t with ports := t.ports ++ ports }
  | "sslmode" => do
    let demand ← required option (Demand.ofText? value)
    pure { t with encryption := demand }
  | "channel_binding" => do
    let demand ← required option (Demand.ofText? value)
    pure { t with binding := demand }
  | "target_session_attrs" => do
    let role ← required option (ServerRole.ofText? value)
    pure { t with role := role }
  | "sslnegotiation" => do
    let unasked ← required option (negotiation? value)
    pure { t with unasked := unasked }
  | "load_balance_hosts" => t.checked option (value == "disable" || value == "random")
  | "connect_timeout" => t.checked option (Text.signed? 64 cs).isSome
  | "tcp_user_timeout" => t.checked option (Text.signed? 64 cs).isSome
  | "keepalives" => t.checked option (Text.unsigned? (2 ^ 64 - 1) cs).isSome
  | "keepalives_idle" => t.checked option (Text.signed? 64 cs).isSome
  | "keepalives_interval" => t.checked option (Text.signed? 64 cs).isSome
  | "keepalives_retries" => t.checked option (Text.unsigned? (2 ^ 32 - 1) cs).isSome
  | _ => .error (.unknownOption option)

end Target

end BatchSql.Postgres
