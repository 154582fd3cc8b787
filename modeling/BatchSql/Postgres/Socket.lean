import BatchSql.Postgres.Target

namespace BatchSql.Postgres.Socket

/-- The file of the socket with a port, in a directory. -/
def path (directory : Octets) (port : Nat) : Octets :=
  directory ++ (if directory.getLast? = some 0x2F then [] else [0x2F]) ++
    Utf8.ofString s!".s.PGSQL.{port}"

/-- The names along a path. -/
def names (path : Octets) : List Octets :=
  (Text.splitOn 0x2F path).filter fun name => !name.isEmpty && name != [0x2E]

/-- Goes along names from a place. Of all files there are only the socket, by its names from the
root, and the directories above it. -/
def follow (socket here : List Octets) : List Octets → Except String Unit
  | [] => if here = socket then .ok () else .error "Connection refused (os error 111)"
  | name :: rest =>
    if here = socket then .error "Not a directory (os error 20)"
    else if name = [0x2E, 0x2E] then follow socket here.dropLast rest
    else if (here ++ [name]).isPrefixOf socket then follow socket (here ++ [name]) rest
    else .error "No such file or directory (os error 2)"

/-- One more than the octets that the address of a socket has room for. -/
def pathLimit : Nat := 108

/-- Whether a path leads to the socket, or why it does not. -/
def find (socket path : Octets) : Except String Unit :=
  if path.contains 0 then .error "paths must not contain interior null bytes"
  else if pathLimit ≤ path.length then .error "path must be shorter than SUN_LEN"
  else follow (names socket) [] (names path)

/-- Whether a place and a port lead to the only socket there is. Nothing answers in the network. -/
def reach (directory : String) (port : Nat) : HostName → Nat → Except String Unit
  | .network _, _ => .error "Connection refused (os error 111)"
  | .socket place, port' =>
    find (path (Utf8.ofString directory) port) (path place port')

end BatchSql.Postgres.Socket
