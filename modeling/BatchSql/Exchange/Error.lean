import BatchSql.Exchange.Value
import BatchSql.Journal

namespace BatchSql.Exchange

def kindOf : Error → String
  | .configuration _ => "Configuration"
  | .connection _ => "Connection"
  | .connectionFrom _ _ => "Connection"
  | .connectionFault _ _ => "Connection"
  | .query _ _ => "Query"
  | .queryFault _ _ => "Query"
  | .rowMapping _ _ => "RowMapping"
  | .parameterBind _ _ => "ParameterBind"
  | .batchExecution _ _ => "BatchExecution"
  | .typeConversion _ => "TypeConversion"
  | .encode _ => "Encode"
  | .decode _ => "Decode"
  | .emit _ => "Emit"
  | .unsupported _ => "Unsupported"

def numberOf? : Error → Option Nat
  | .rowMapping n _ => some n
  | .parameterBind n _ => some n
  | .batchExecution n _ => some n
  | _ => none

/-- All that an error tells, as the fields of an object. -/
def errorFields (e : Error) : List (String × Json) :=
  [("error", .string (kindOf e)), ("message", .string e.message)] ++
    (e.sql?.map fun s => ("sql", Json.string s)).toList ++
    ((numberOf? e).map fun n => ("n", Json.digits n)).toList ++
    (if e.sources.isEmpty then [] else [("sources", .array (e.sources.map .string))])

def ofError (e : Error) : Json :=
  .object (errorFields e)

def ofResult (f : α → Json) : Except Error α → Json
  | .ok a => .object [("ok", f a)]
  | .error e => ofError e

/-- The error of a description within `depth` sources at most. -/
def described : Nat → Json → Error
  | 0, _ => .unsupported ""
  | depth + 1, j =>
    let message := (j.field "m").toText
    let number := (j.field "n").toNat
    let source := described depth (j.field "source")
    match (j.field "k").toText with
    | "config" => .configuration message
    | "connection" => .connection message
    | "connection_src" => .connectionFrom message source
    | "query" => .query message none
    | "query_sql" => .query message (some (j.field "sql").toText)
    | "row_mapping" => .rowMapping number source
    | "parameter_bind" => .parameterBind number source
    | "batch_execution" => .batchExecution number source
    | "type_conversion" => .typeConversion message
    | "encode" => .encode message
    | "decode" => .decode message
    | "emit" => .emit message
    | _ => .unsupported message

def toError (j : Json) : Error :=
  described (j.depth + 1) j

def levelName : Level → String
  | .trace => "trace"
  | .debug => "debug"
  | .info => "info"
  | .warn => "warn"

/-- Level, message and fields. -/
def ofEvent (e : Event) : Json :=
  .array [.string (levelName e.level), .string e.message,
    .object (e.fields.map fun (k, v) => (k, .string v))]

end BatchSql.Exchange
