import BatchSql.Url

namespace BatchSql.Url

open Text

/-- Controls and spaces do not count at the ends, nor do tabs and line ends anywhere. -/
def cleaned (s : String) : List Char :=
  let outer (c : Char) : Bool := c.toNat ≤ 0x20
  let front := s.toList.dropWhile outer
  let inner := (front.reverse.dropWhile outer).reverse
  inner.filter fun c => c != '\t' && c != '\n' && c != '\r'

def isAlpha (c : Char) : Bool :=
  ('a' ≤ c && c ≤ 'z') || ('A' ≤ c && c ≤ 'Z')

/-- The letters, digits and marks before the first colon, in small letters, and the rest. -/
def schemeFrom : List Char → Option (List Char × List Char)
  | [] => none
  | c :: cs =>
    if c = ':' then some ([], cs)
    else if isAlpha c || isDigit c || c == '+' || c == '-' || c == '.' then
      (schemeFrom cs).map fun (s, r) => (c.toLower :: s, r)
    else none

def scheme? (cs : List Char) : Option (List Char × List Char) :=
  match cs with
  | [] => none
  | c :: _ => if isAlpha c then schemeFrom cs else none

/-- Whether a character ends the authority. -/
def endsAuthority (kind : SchemeKind) (c : Char) : Bool :=
  c == '/' || c == '?' || c == '#' || (kind.isSpecial && c == '\\')

/-- The characters before the last `@`, if there is one, and those after it. -/
def splitLastAt (cs : List Char) : Option (List Char × List Char) :=
  let after := (cs.reverse.takeWhile (· != '@')).reverse
  if after.length < cs.length then some (cs.take (cs.length - after.length - 1), after) else none

/-- User and password with their delimiters escaped; an empty password counts as none. -/
def credentials (cs : List Char) : List Char × Option (List Char) :=
  let user := cs.takeWhile (· != ':')
  let password := (cs.dropWhile (· != ':')).drop 1
  (escape credentialSet user,
    if password.isEmpty then none else some (escape credentialSet password))

/-- The host ends at a colon outside brackets. -/
def hostPart : Bool → List Char → List Char
  | _, [] => []
  | inBrackets, c :: cs =>
    if c = ':' ∧ !inBrackets then []
    else c :: hostPart (if c = '[' then true else if c = ']' then false else inBrackets) cs

def bracketed? (cs : List Char) : Option (List Char) :=
  if cs.getLast? = some ']' then
    (Ipv6.parse? (cs.drop 1).dropLast).map fun ps => '[' :: Ipv6.text ps ++ [']']
  else none

/-- A host of a scheme that knows domains and addresses. -/
def namedHost? (cs : List Char) : Option (List Char) :=
  if cs.head? = some '[' then bracketed? cs
  else
    (Domain.ofText? cs).bind fun domain =>
      if Ipv4.looksLike domain then (Ipv4.parse? domain).map Ipv4.text else some domain

/-- A host of any other scheme is kept as it is, unless it holds a delimiter. -/
def opaqueHost? (cs : List Char) : Option (List Char) :=
  if cs.head? = some '[' then bracketed? cs
  else if cs.any fun c => c.toNat == 0 || " #/:<>?@[\\]^|".toList.contains c then none
  else some (escape controls cs)

/-- Digits of a number below 65536. A port that the scheme implies is not written. -/
def port? (scheme cs : List Char) : Option (Option Nat) :=
  if cs.isEmpty then some none
  else
    (nat? cs).bind fun n =>
      if n < 65536 then some (if defaultPort? scheme = some n then none else some n) else none

/-- Host and port. A port ends at a backslash in every scheme, and what is left of the authority
then begins the path. -/
def hostAndPort? (kind : SchemeKind) (scheme cs : List Char) :
    Option (List Char × Option Nat × List Char) := do
  let part := hostPart false cs
  let host ← if kind.isSpecial then namedHost? part else opaqueHost? part
  match cs.drop part.length with
  | ':' :: r =>
    if host.isEmpty then none
    else
      let port ← port? scheme (r.takeWhile (· != '\\'))
      pure (host, port, r.dropWhile (· != '\\'))
  | r => if host.isEmpty ∧ kind.isSpecial then none else pure (host, none, r)

/-- What stands after `//`, up to the path, and the rest. Credentials need a host. -/
def authority? (kind : SchemeKind) (scheme cs : List Char) :
    Option (Authority × List Char) := do
  let whole := cs.takeWhile (!endsAuthority kind ·)
  let rest := cs.dropWhile (!endsAuthority kind ·)
  match splitLastAt whole with
  | none =>
    let (host, port, left) ← hostAndPort? kind scheme whole
    pure (⟨[], none, host, port⟩, left ++ rest)
  | some (before, after) =>
    if before.isEmpty ∧ after.isEmpty ∧ !rest.isEmpty then none
    else
      let (user, password) := credentials before
      let (host, port, left) ← hostAndPort? kind scheme after
      if host.isEmpty ∧ (!user.isEmpty ∨ password.isSome) then none
      else pure (⟨user, password, host, port⟩, left ++ rest)

/-- Segments between slashes, each with whether a slash ends it. -/
def segments (special : Bool) : List Char → List (List Char)
  | [] => [[]]
  | c :: cs =>
    if c = '/' ∨ (special ∧ c = '\\') then [] :: segments special cs
    else
      match segments special cs with
      | [] => [[c]]
      | s :: rest => (c :: s) :: rest

def plainDots (cs : List Char) : List Char :=
  match cs with
  | '%' :: '2' :: e :: r => if e = 'e' ∨ e = 'E' then '.' :: plainDots r else '%' :: '2' :: e :: r
  | c :: r => c :: plainDots r
  | [] => []

def isDot (s : List Char) : Bool :=
  plainDots s == ['.']

def isDotDot (s : List Char) : Bool :=
  plainDots s == ['.', '.']

/-- A letter with a colon or a bar. -/
def isDrive (s : List Char) : Bool :=
  match s with
  | [c, m] => isAlpha c && (m == ':' || m == '|')
  | _ => false

/-- A path without its last segment, which stands first; a drive stays. -/
def shorten : List (List Char) → List (List Char)
  | [] => []
  | s :: path => if isDrive s then s :: path else path

/-- Adds segments to a path, of which the last segment stands first. Those of one or two dots, also
escaped, stay or go up; at the end they leave an empty segment. The drive at the front of a file's
path is written with a colon. -/
def resolve (kind : SchemeKind) (path : List (List Char)) : List (List Char) → List (List Char)
  | [] => path.reverse
  | s :: rest =>
    if isDot s ∨ isDotDot s then
      let path := if isDot s then path else shorten path
      resolve kind (if rest.isEmpty then [] :: path else path) rest
    else
      let s := if kind = .file ∧ path.isEmpty ∧ isDrive s then s.take 1 ++ [':'] else s
      resolve kind (escape pathSet s :: path) rest

def written (path : List (List Char)) : List Char :=
  path.flatMap fun s => '/' :: s

def isPathEnd (c : Char) : Bool :=
  c == '?' || c == '#'

/-- The path of a text that begins with its first segment. -/
def pathOf (kind : SchemeKind) (cs : List Char) : List Char :=
  written (resolve kind [] (segments kind.isSpecial cs))

/-- After an authority the path is empty or begins with a slash; special schemes need one. -/
def pathAfterAuthority (kind : SchemeKind) (cs : List Char) : List Char :=
  match cs with
  | [] => if kind.isSpecial then ['/'] else []
  | c :: r => if c = '/' ∨ (kind.isSpecial ∧ c = '\\') then pathOf kind r else pathOf kind (c :: r)

def withoutFragment (cs : List Char) : List Char :=
  cs.takeWhile (· != '#')

/-- Query and fragment at the end of a URL. -/
def finish (kind : SchemeKind) (scheme : List Char) (authority : Option Authority)
    (path : List Char) (tail : List Char) : Url :=
  let set := if kind.isSpecial then specialQuerySet else querySet
  let query := match tail with
    | '?' :: r => some (escape set (withoutFragment r))
    | _ => none
  let fragment := match tail.dropWhile (· != '#') with
    | '#' :: r => some (escape fragmentSet r)
    | _ => none
  ⟨scheme, authority, path, query, fragment⟩

def afterSlashes? (kind : SchemeKind) (scheme cs : List Char) : Option Url := do
  let (authority, r) ← authority? kind scheme cs
  let path := pathAfterAuthority kind (r.takeWhile (!isPathEnd ·))
  pure (finish kind scheme (some authority) path (r.dropWhile (!isPathEnd ·)))

/-- Without an authority the path is a list of segments only if it begins with a slash. Two
slashes at its front would read as an authority, so a dot segment goes before them. -/
def withoutAuthority (scheme cs : List Char) : Url :=
  let r := cs.takeWhile (!isPathEnd ·)
  let tail := cs.dropWhile (!isPathEnd ·)
  match r with
  | '/' :: r =>
    let path := pathOf .plain r
    let guarded := match path with
      | '/' :: '/' :: _ => '/' :: '.' :: path
      | _ => path
    finish .plain scheme none guarded tail
  | _ => finish .plain scheme none (escape controls r) tail

def isSlash (c : Char) : Bool :=
  c == '/' || c == '\\'

def afterSlash (cs : List Char) : List Char :=
  match cs with
  | [] => []
  | c :: r => if isSlash c then r else c :: r

/-- Empty segments at the front of the path of a file are not written. -/
def writtenFile (path : List (List Char)) : List Char :=
  match path.dropWhile (·.isEmpty) with
  | [] => ['/']
  | p => written p

/-- The host of a file is empty on this machine. A drive in its place belongs to the path, and a
drive at the front of the path needs no host. Where an empty host was written, the slash after it
ends an empty segment, and a drive behind that is not at the front. -/
def fileUrl? (scheme cs : List Char) : Option Url := do
  let (host, r) ← match cs with
    | a :: b :: r =>
      if isSlash a ∧ isSlash b then
        let part := r.takeWhile fun c => !(isSlash c || isPathEnd c)
        let rest := r.drop part.length
        if part.isEmpty ∨ isDrive part then some ([], r)
        else
          (namedHost? part).map fun host =>
            if host = "localhost".toList then ([], rest) else (host, afterSlash rest)
      else some ([], afterSlash cs)
    | _ => some ([], afterSlash cs)
  let path := resolve .file [] (segments true (r.takeWhile (!isPathEnd ·)))
  let host := if path.head?.any isDrive then [] else host
  pure (finish .file scheme (some ⟨[], none, host, none⟩) (writtenFile path)
    (r.dropWhile (!isPathEnd ·)))

/-- An absolute URL. Special schemes take any number of slashes before the authority. -/
def parse? (s : String) : Option Url := do
  let (scheme, r) ← scheme? (cleaned s)
  match schemeKind scheme with
  | .file => fileUrl? scheme r
  | .special => afterSlashes? .special scheme (r.dropWhile isSlash)
  | .plain =>
    match r with
    | '/' :: '/' :: r => afterSlashes? .plain scheme r
    | r => pure (withoutAuthority scheme r)

end BatchSql.Url
