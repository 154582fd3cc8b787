import BatchSql.Assoc
import BatchSql.Secret
import BatchSql.Text.Quoted
import BatchSql.Url.Redaction

namespace BatchSql

/-- What a driver needs to open a connection. -/
structure ConnectOptions where
  url : String
  username : Option String
  password : Option Secret
  timeoutMillis : Nat
  applicationName : Option String
  properties : List (String × String)

namespace ConnectOptions

def ofUrl (url : String) : ConnectOptions :=
  ⟨url, none, none, 10000, some "rivven-dbio", []⟩

def withCredentials (o : ConnectOptions) (username : String) (password : Option Secret) :
    ConnectOptions :=
  { o with username := some username, password := password }

def withProperty (o : ConnectOptions) (key value : String) : ConnectOptions :=
  { o with properties := Assoc.put key value o.properties }

def propertiesText (properties : List (String × String)) : String :=
  "\x7b" ++ ", ".intercalate (properties.map fun (k, v) => Text.quoted k ++ ": " ++ Text.quoted v) ++
    "\x7d"

/-- The options as they may be shown: the URL is redacted and the password hidden. -/
def text (o : ConnectOptions) : String :=
  "ConnectOptions \x7b url: " ++ Text.quoted (Url.redacted o.url) ++
    ", username: " ++ Text.quotedOption o.username ++
    ", password: " ++ Secret.shownOption o.password ++
    ", connect_timeout_ms: " ++ toString o.timeoutMillis ++
    ", application_name: " ++ Text.quotedOption o.applicationName ++
    ", properties: " ++ propertiesText o.properties ++ " \x7d"

end ConnectOptions

end BatchSql
