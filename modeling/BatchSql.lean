import BatchSql.Exchange.Error
import BatchSql.Exchange.Record
import BatchSql.Exchange.Script
import BatchSql.Host.Trial
import BatchSql.Memory.Connection
import BatchSql.Postgres.Factory
import BatchSql.Proofs.Encoding.RoundTrip
import BatchSql.Proofs.Read.Calls
import BatchSql.Proofs.Write.Crew
import BatchSql.Proofs.Write.Promise
import BatchSql.Proofs.Write.Totals
import BatchSql.Read
import BatchSql.Write
import BatchSql.Proofs.Encoding.Locality
import BatchSql.Proofs.Write.Counters
import BatchSql.Proofs.Memory.Commands
import BatchSql.Proofs.Memory.Replay
import BatchSql.Proofs.Postgres.Calls
import BatchSql.Proofs.Postgres.Transactions
import BatchSql.Proofs.Encoding.Bracketing
import BatchSql.Proofs.Write.Starts
import BatchSql.Proofs.Read.Closing
import BatchSql.Proofs.Json.Numerals
import BatchSql.Proofs.Json.Texts
import BatchSql.Proofs.Json.Documents
import BatchSql.Proofs.Calendar.DayNumber
import BatchSql.Proofs.Calendar.Texts
import BatchSql.Proofs.Value.Decimal
import BatchSql.Proofs.Value.Identifiers
import BatchSql.Proofs.Value.Texts
import BatchSql.Proofs.Json.Records
import BatchSql.Proofs.Json.Values
import BatchSql.Proofs.Url.Redaction
import BatchSql.Proofs.Config.Secrecy
import BatchSql.Proofs.Encoding.Canonical
import BatchSql.Proofs.Encoding.Framing
import BatchSql.Proofs.Encoding.Truncation
import BatchSql.Proofs.Read.Passage
import BatchSql.Proofs.Config.Acquisition
import BatchSql.Proofs.Encoding.Faults
import BatchSql.Proofs.Encoding.Varints
import BatchSql.Proofs.Postgres.Nulls
import BatchSql.Proofs.Row.Columns
import BatchSql.Proofs.Postgres.Batches
import BatchSql.Proofs.Read.Rows
import BatchSql.Proofs.Binary.Rounding
import BatchSql.Proofs.Value.Accessors
import BatchSql.Proofs.Parameters
import BatchSql.Proofs.Config.Display
import BatchSql.Proofs.Read.Grouping
import BatchSql.Proofs.Memory.Balance
