import BatchSql.Exchange.Value
import BatchSql.Postgres.Script

namespace BatchSql.Exchange

open Postgres

def cellOf (j : Json) : Option Octets :=
  if j.isNull then none else some (octetsOf j)

def stageOf (j : Json) : Stage :=
  match (j.field "at").toText with
  | "query" => .query
  | "prepare" => .prepare
  | "bind" => .bind
  | "row" => .row (j.field "row").toNat
  | _ => .ending

def failureOf? (j : Json) : Option Failure :=
  if j.isNull then none
  else some ⟨stageOf j, (j.field "message").toText, (j.field "skip").toNat⟩

/-- A statement with columns selects its rows, any other inserts one, unless there is a tag. -/
def tagOf (j : Json) : String :=
  match (j.field "tag").text? with
  | some tag => tag
  | none =>
    if (j.field "columns").items.isEmpty then "INSERT 0 1"
    else "SELECT " ++ toString (j.field "rows").items.length

def columnOf (j : Json) : Column :=
  match j.items with
  | [name, type] => ⟨name.toText, .ofName type.toText⟩
  | _ => ⟨"", .unknown⟩

def toScript (j : Json) : Script where
  description :=
    ⟨(j.field "params").items.map fun t => .ofName t.toText, (j.field "columns").items.map columnOf⟩
  rows := (j.field "rows").items.map fun row => row.items.map cellOf
  tag := tagOf j
  failure := failureOf? (j.field "fail")

def welcomeOf (j : Json) : Welcome :=
  match j.toText with
  | "password" => .withPassword
  | "reject" => .nobody
  | _ => .everyone

/-- A request by its kind and what it carries. -/
def ofRequest : Request → Json
  | .startup parameters =>
    .array [.string "startup", .object (parameters.map fun (k, v) => (k, .string v))]
  | .password content =>
    .array [.string "password", .string ((Utf8.toString? content).getD "")]
  | .query sql => .array [.string "query", .string sql]
  | .prepare sql => .array [.string "prepare", .string sql]
  | .execute sql params =>
    .array [.string "execute", .string sql, .array (params.map (Json.ofOption hex))]

end BatchSql.Exchange
