import BatchSql.Url.Domain

namespace BatchSql

/-- Who asks for a resource, and where it is. -/
structure Url.Authority where
  user : List Char
  password : Option (List Char)
  host : List Char
  port : Option Nat
deriving DecidableEq

/-- A URL by its parts, each in its written form. The path holds its leading slash, if any. -/
structure Url where
  scheme : List Char
  authority : Option Url.Authority
  path : List Char
  query : Option (List Char)
  fragment : Option (List Char)
deriving DecidableEq

namespace Url

/-- Nothing is written for empty credentials. -/
def Authority.text (a : Authority) : List Char :=
  let password := match a.password with
    | none => []
    | some p => ':' :: p
  let mark := if a.user.isEmpty ∧ a.password.isNone then [] else ['@']
  let port := match a.port with
    | none => []
    | some n => ':' :: Nat.toDigits 10 n
  a.user ++ password ++ mark ++ a.host ++ port

def text (u : Url) : List Char :=
  let authority := match u.authority with
    | none => []
    | some a => '/' :: '/' :: a.text
  let query := match u.query with
    | none => []
    | some q => '?' :: q
  let fragment := match u.fragment with
    | none => []
    | some f => '#' :: f
  u.scheme ++ ':' :: authority ++ u.path ++ query ++ fragment

def password? (u : Url) : Option (List Char) :=
  u.authority.bind Authority.password

inductive SchemeKind where
  | file
  | special
  | plain
deriving DecidableEq

def schemeKind (scheme : List Char) : SchemeKind :=
  if scheme = "file".toList then .file
  else if ["http", "https", "ws", "wss", "ftp"].contains (String.ofList scheme) then .special
  else .plain

def SchemeKind.isSpecial : SchemeKind → Bool
  | plain => false
  | _ => true

/-- Whether there may be credentials: a file has none, and they need a host. -/
def takesCredentials (u : Url) : Bool :=
  schemeKind u.scheme != .file && u.authority.any fun a => !a.host.isEmpty

/-- The URL with a password in its written form, in place of the one it has if it has one. -/
def holding (u : Url) (password : List Char) : Url :=
  { u with authority := u.authority.map fun a => { a with password := some password } }

/-- The URL with another password, if it may have one. -/
def withPassword? (u : Url) (password : List Char) : Option Url :=
  if u.takesCredentials then some (u.holding (escape credentialSet password)) else none

def defaultPort? (scheme : List Char) : Option Nat :=
  match String.ofList scheme with
  | "http" => some 80
  | "ws" => some 80
  | "https" => some 443
  | "wss" => some 443
  | "ftp" => some 21
  | _ => none

end Url

end BatchSql
