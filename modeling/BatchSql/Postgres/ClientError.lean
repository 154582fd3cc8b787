import BatchSql.Error
import BatchSql.Postgres.WireValue

namespace BatchSql.Postgres

/-- Why a client could not do what it was asked to. -/
inductive ClientError where
  | closed
  | malformedReply
  | unexpectedReply
  | refused (message : String)
  | parameterCount (expected actual : Nat)
  | parameter (position : Nat) (value : Value) (type : ColumnType)
  | embeddedNull
  | configuration (reason : String)
  | unreachable (reason : String)
  | unbound
  | unencrypted
  | unnamed

namespace ClientError

def fault : ClientError → Fault
  | closed => ⟨"connection closed", none⟩
  | malformedReply => ⟨"error parsing response from server", none⟩
  | unexpectedReply => ⟨"unexpected message from server", none⟩
  | refused message => ⟨"db error", some ("ERROR: " ++ message)⟩
  | parameterCount expected actual =>
    ⟨s!"expected {expected} parameters but got {actual}", none⟩
  | parameter position value type =>
    ⟨s!"error serializing parameter {position}",
      some ("cannot convert between the Rust type `" ++ carrierName value ++
        "` and the Postgres type `" ++ type.typeName ++ "`")⟩
  | embeddedNull => ⟨"error encoding message to server", some "string contains embedded null"⟩
  | configuration reason => ⟨"invalid configuration", some reason⟩
  | unreachable reason => ⟨"error connecting to server", some reason⟩
  | unbound => ⟨"authentication error", some "server did not use channel binding"⟩
  | unencrypted => ⟨"error performing TLS handshake", some "server does not support TLS"⟩
  | unnamed =>
    ⟨"error performing TLS handshake", some "no hostname provided for TLS handshake"⟩

/-- When a statement is run, only a refusal comes after something was sent. -/
def isUnsent : ClientError → Bool
  | refused _ => false
  | _ => true

end ClientError

end BatchSql.Postgres
