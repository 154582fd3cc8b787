namespace BatchSql

/-- What the client of a database server reports, with the report behind it. -/
structure Fault where
  text : String
  cause : Option String
deriving DecidableEq, Repr

def Fault.texts (f : Fault) : List String :=
  f.text :: f.cause.toList

inductive ErrorCategory where
  | configuration
  | connection
  | query
  | rowMapping
  | parameterBind
  | batchExecution
  | typeConversion
  | codec
  | emit
  | other
deriving DecidableEq, Repr

namespace ErrorCategory

def name : ErrorCategory → String
  | configuration => "configuration"
  | connection => "connection"
  | query => "query"
  | rowMapping => "row_mapping"
  | parameterBind => "parameter_bind"
  | batchExecution => "batch_execution"
  | typeConversion => "type_conversion"
  | codec => "codec"
  | emit => "emit"
  | other => "other"

/-- Only a connection that could not be made is worth another try. -/
def retriable : ErrorCategory → Bool
  | connection => true
  | _ => false

end ErrorCategory

/-- A failure, by the step that it ended. -/
inductive Error where
  | configuration (message : String)
  | connection (message : String)
  | connectionFrom (message : String) (source : Error)
  | connectionFault (message : String) (fault : Fault)
  | query (message : String) (sql : Option String)
  | queryFault (sql : Option String) (fault : Fault)
  | rowMapping (row : Nat) (source : Error)
  | parameterBind (element : Nat) (source : Error)
  | batchExecution (pending : Nat) (source : Error)
  | typeConversion (message : String)
  | encode (message : String)
  | decode (message : String)
  | emit (message : String)
  | unsupported (message : String)
deriving DecidableEq, Repr

namespace Error

instance : Inhabited Error := ⟨.unsupported ""⟩

def message : Error → String
  | configuration m => "configuration error: " ++ m
  | connection m => "connection error: " ++ m
  | connectionFrom m _ => "connection error: " ++ m
  | connectionFault m _ => "connection error: " ++ m
  | query m _ => "query error: " ++ m
  | queryFault _ fault => "query error: " ++ fault.text
  | rowMapping row source => s!"row mapping failed at row {row}: {source.message}"
  | parameterBind element source =>
    s!"parameter binding failed for element {element}: {source.message}"
  | batchExecution pending source =>
    s!"batch execution failed ({pending} pending statements): {source.message}"
  | typeConversion m => "type conversion error: " ++ m
  | encode m => "encode error: " ++ m
  | decode m => "decode error: " ++ m
  | emit m => "emit error: " ++ m
  | unsupported m => "unsupported: " ++ m

/-- The texts of what lies behind an error, the nearest first. -/
def sources : Error → List String
  | connectionFrom _ source => source.message :: source.sources
  | connectionFault _ fault => fault.texts
  | queryFault _ fault => fault.texts
  | rowMapping _ source => source.message :: source.sources
  | parameterBind _ source => source.message :: source.sources
  | batchExecution _ source => source.message :: source.sources
  | _ => []

def category : Error → ErrorCategory
  | configuration _ => .configuration
  | connection _ => .connection
  | connectionFrom _ _ => .connection
  | connectionFault _ _ => .connection
  | query _ _ => .query
  | queryFault _ _ => .query
  | rowMapping _ _ => .rowMapping
  | parameterBind _ _ => .parameterBind
  | batchExecution _ _ => .batchExecution
  | typeConversion _ => .typeConversion
  | encode _ => .codec
  | decode _ => .codec
  | emit _ => .emit
  | unsupported _ => .other

def retriable (e : Error) : Bool :=
  e.category.retriable

/-- The SQL text that a query failed on. -/
def sql? : Error → Option String
  | query _ sql => sql
  | queryFault sql _ => sql
  | _ => none

end Error

end BatchSql
