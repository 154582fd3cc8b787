import BatchSql.Postgres.ClientError
import BatchSql.Postgres.Target

namespace BatchSql.Postgres

/-- What a client sends to a server. -/
inductive Request where
  | startup (parameters : List (String × String))
  | password (content : Octets)
  | query (sql : String)
  | prepare (sql : String)
  | execute (sql : String) (params : List (Option Octets))
deriving DecidableEq, Repr

structure Column where
  name : String
  type : ColumnType
deriving DecidableEq, Repr

/-- What a server tells of a statement that it has prepared. -/
structure Description where
  params : List ColumnType
  columns : List Column
deriving DecidableEq, Repr

/-- What comes back from a statement: rows, and then the tag of the command or a refusal. -/
structure Outcome where
  rows : List (List (Option Octets))
  ending : Except String String

/-- How a server meets a client that it does not refuse. -/
inductive Greeting where
  | accepted
  | passwordWanted
deriving DecidableEq, Repr

/-- A server with states of type `S`, and what is around it: the name of a client that tells none,
and whether a place and a port lead to the server, or why they do not. It has an answer to each
request, or the message with which it refuses. -/
structure Server (S : Type) where
  user : S → String
  reach : S → HostName → Nat → Except String Unit
  greet : List (String × String) → StateM S (Except String Greeting)
  query : String → StateM S (Except String Outcome)
  prepare : String → StateM S (Except String Description)
  execute : String → List (Option Octets) → StateM S (Except String Outcome)

/-- A request that was sent, and whether the server accepted it. -/
structure Sent where
  request : Request
  accepted : Bool
deriving DecidableEq, Repr

/-- What a connection knows of itself. Its link may be lost without its being closed; a watched
link is reported when it is lost. -/
structure Session where
  autoCommit : Bool
  inTransaction : Bool
  closed : Bool
  linked : Bool
  watched : Bool
deriving DecidableEq, Repr

def Session.fresh (watched : Bool) : Session :=
  ⟨true, false, false, true, watched⟩

/-- A session of which nothing is left. -/
def Session.gone : Session :=
  ⟨true, false, true, false, false⟩

/-- A server, all that was sent to it, and the sessions, which are known by their index. -/
structure Network (S : Type) where
  server : S
  sent : List Sent
  sessions : List Session

/-- Work of a client with the server. -/
abbrev Client (S : Type) := ExceptT ClientError (StateM (Network S))

namespace Network

def start (server : S) : Network S :=
  ⟨server, [], []⟩

def session (n : Network S) (i : Nat) : Session :=
  n.sessions[i]?.getD .gone

def setSession (n : Network S) (i : Nat) (s : Session) : Network S :=
  { n with sessions := n.sessions.set i s }

/-- A new session and its index. -/
def addSession (n : Network S) (watched : Bool) : Nat × Network S :=
  (n.sessions.length, { n with sessions := n.sessions ++ [.fresh watched] })

end Network

namespace Client

/-- Sends a request and waits for the answer. -/
def send (request : Request) (answer : StateM S (Except String α)) : Client S α :=
  ExceptT.mk fun n =>
    let (r, server) := answer.run n.server
    (r.mapError .refused,
      { n with server := server, sent := n.sent ++ [⟨request, r.isOk⟩] })

/-- Sends over the link of a session. -/
def sendOver (i : Nat) (request : Request) (answer : StateM S (Except String α)) :
    Client S α := do
  let n ← get
  if !(n.session i).linked then throw .closed
  send request answer

end Client

end BatchSql.Postgres
