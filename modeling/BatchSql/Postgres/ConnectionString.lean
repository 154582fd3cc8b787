import BatchSql.Postgres.Target
import BatchSql.Text.Blank
import BatchSql.Url.Percent

namespace BatchSql.Postgres

open Text

/-! Options as words `option=value` -/

namespace Words

/-- A value up to the next blank; a backslash takes the character after it as it is. -/
def plainValue : List Char → List Char × List Char
  | [] => ([], [])
  | '\\' :: c :: r => ((plainValue r).map (c :: ·) id)
  | '\\' :: [] => ([], [])
  | c :: r => if isBlank c then ([], c :: r) else (plainValue r).map (c :: ·) id

/-- A value up to the closing quote, which has to be there. -/
def quotedValue : List Char → Option (List Char × List Char)
  | [] => none
  | '\'' :: r => some ([], r)
  | '\\' :: c :: r => (quotedValue r).map fun (value, rest) => (c :: value, rest)
  | '\\' :: [] => none
  | c :: r => (quotedValue r).map fun (value, rest) => (c :: value, rest)

def value : List Char → Except Flaw (List Char × List Char)
  | '\'' :: r =>
    match quotedValue r with
    | some v => .ok v
    | none => .error .unterminatedQuote
  | cs =>
    match plainValue cs with
    | ([], _) => .error .unexpectedEnd
    | v => .ok v

def isOptionEnd (c : Char) : Bool :=
  isBlank c || c == '='

/-- Where the rest of a text begins, counted in octets. -/
def indexOf (whole rest : List Char) : Nat :=
  (Utf8.encode whole).length - (Utf8.encode rest).length

/-- An option, its value and the rest. -/
def pair (whole : List Char) (cs : List Char) : Except Flaw ((String × String) × List Char) :=
  let option := cs.takeWhile (!isOptionEnd ·)
  match trimStart (cs.dropWhile (!isOptionEnd ·)) with
  | [] => .error .unexpectedEnd
  | c :: r =>
    if c = '=' then
      (value (trimStart r)).map fun (v, rest) => ((String.ofList option, String.ofList v), rest)
    else .error (.unexpectedCharacter (indexOf whole (c :: r)) '=' c)

/-- Ends where no option begins. Every pair takes a character, so the fuel suffices. -/
def read (whole : List Char) : Nat → Target → List Char → Except Flaw Target
  | 0, t, _ => .ok t
  | fuel + 1, t, cs =>
    match trimStart cs with
    | [] => .ok t
    | '=' :: _ => .ok t
    | cs => do
      let ((option, v), rest) ← pair whole cs
      read whole fuel (← t.set option v) rest

end Words

/-! Options in the form of a URL -/

namespace Locator

def decoded (cs : List Char) : Except Flaw String :=
  match Utf8.decode (Url.unescape cs) with
  | .ok text => .ok (String.ofList text)
  | .error fault => .error (.illFormed fault)

/-- A user, and a password after the first colon. -/
def credentials (t : Target) (cs : List Char) : Except Flaw Target := do
  match cut (· == ':') cs with
  | some (user, password) =>
    pure { t with user := some (← decoded user), password := some (Url.unescape password) }
  | none => pure { t with user := some (← decoded cs) }

def host (t : Target) (cs : List Char) : Except Flaw Target :=
  match HostName.ofOctets? (Url.unescape cs) with
  | .ok h => .ok (t.addHost h)
  | .error fault => .error (.illFormed fault)

/-- The host and the port of a chunk; a host in brackets may hold colons. -/
def splitChunk (cs : List Char) : Except Flaw (List Char × Option (List Char)) :=
  match cs with
  | '[' :: r =>
    match cut (· == ']') r with
    | some (name, []) => .ok (name, none)
    | some (name, ':' :: port) => .ok (name, some port)
    | _ => .error (.invalidValue "host")
  | _ =>
    match cut (· == ':') cs with
    | some (name, port) => .ok (name, some port)
    | none => .ok (cs, none)

def chunk (t : Target) (cs : List Char) : Except Flaw Target := do
  let (name, port) ← splitChunk cs
  let t ← host t name
  t.set "port" (← decoded (port.getD (Nat.toDigits 10 Target.defaultPort)))

def hosts (t : Target) (cs : List Char) : Except Flaw Target :=
  if cs.isEmpty then .ok t else (splitOn ',' cs).foldlM chunk t

def parameter (t : Target) (key value : List Char) : Except Flaw Target := do
  let option ← decoded key
  if option = "host" then host t value else t.set option (← decoded value)

/-- Parameters with an ampersand between them. -/
def parameters (t : Target) (cs : List Char) : Except Flaw Target :=
  match cs with
  | [] => .ok t
  | c :: r =>
    match h : cut (· == '=') (c :: r) with
    | none => .error .unterminatedParameter
    | some (key, rest) => do
      have := length_after_cut h
      let t ← parameter t key (rest.takeWhile (· != '&'))
      parameters t ((rest.dropWhile (· != '&')).drop 1)
termination_by cs.length
decreasing_by
  have := (List.dropWhile_sublist (· != '&') (l := rest)).length_le
  simp only [List.length_drop, List.length_cons] at *
  omega

/-- What follows the beginning that makes a text a URL. -/
def body? (cs : List Char) : Option (List Char) :=
  let after (start : String) : Option (List Char) :=
    if start.toList.isPrefixOf cs then some (cs.drop start.length) else none
  (after "postgres://").orElse fun _ => after "postgresql://"

def read (cs : List Char) : Except Flaw Target := do
  let (t, cs) ← match cut (· == '@') cs with
    | some (user, rest) => do pure (← credentials .empty user, rest)
    | none => pure (.empty, cs)
  let isHostEnd (c : Char) : Bool := c == '/' || c == '?'
  let t ← hosts t (cs.takeWhile (!isHostEnd ·))
  let (t, cs) ← match cs.dropWhile (!isHostEnd ·) with
    | '/' :: path => do
      let name := path.takeWhile (· != '?')
      let t ← if name.isEmpty then pure t else do
        pure { t with database := some (← decoded name) }
      pure (t, path.dropWhile (· != '?'))
    | cs => pure (t, cs)
  match cs with
  | '?' :: query => parameters t query
  | _ => pure t

end Locator

/-- The target that a connection string describes, in either form. -/
def Target.ofText (s : String) : Except Flaw Target :=
  match Locator.body? s.toList with
  | some cs => Locator.read cs
  | none => Words.read s.toList (s.length + 1) .empty s.toList

end BatchSql.Postgres
