import BatchSql.Connection
import BatchSql.Memory.Database

namespace BatchSql.Memory

variable {σ : Type} (f : Focus σ Database)

def statement (sql : String) (i : Nat) : Statement σ where
  sql := sql
  execute params := Task.ofState f (Action.statementExecute i params)
  executeBatch batch := Task.ofState f (Action.statementExecuteBatch i batch)
  close := Task.ofState f (Action.statementClose i)

/-- The connection of a session of the database in focus. -/
def connection (i : Nat) : Connection σ where
  queryStream sql params := do
    let rows ← Task.ofState f (Action.query i sql params)
    pure (.ofRows rows)
  execute sql params := Task.ofState f (Action.execute i sql params)
  prepare sql := do
    let j ← Task.ofState f (Action.prepare i sql)
    pure (statement f sql j)
  setAutoCommit on := Task.ofState f (Action.setAutoCommit i on)
  isAutoCommit := Step.ofState f do
    let db ← get
    pure ((db.sessions[i]?.map Session.autoCommit).getD true)
  commit := Task.ofState f (Action.commit i)
  rollback := Task.ofState f (Action.rollback i)
  isValid := Step.ofState f do
    let db ← get
    pure (!(db.sessions[i]?.map Session.closed).getD true)
  close := Task.ofState f (Action.close i)

def connect (username : Option String) : Task σ (Connection σ) := do
  let i ← Task.ofState f (Action.connect username)
  pure (connection f i)

/-- The password does not matter. -/
def dataSource : DataSource σ where
  name := "memory"
  connection := connect f none
  connectionAs username _ := connect f (some username)

def factory : ConnectionFactory σ where
  name := "memory"
  connect options := connect f options.username

end BatchSql.Memory
