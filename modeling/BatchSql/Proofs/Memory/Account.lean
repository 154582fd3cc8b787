import BatchSql.Proofs.Memory.Replay

namespace BatchSql.Memory

/-- What a call does to connections and statements, besides the writing. A close closes, whatever
it answers. -/
inductive Event where
  | opened
  | closed (i : Nat)
  | rolledBack (i : Nat)
  | prepared
  | statementClosed (j : Nat)
deriving DecidableEq

def Note.event (n : Note) : Option Event :=
  match n.command, n.answer with
  | .connect _, .ok _ => some .opened
  | .close i, _ => some (.closed i)
  | .rollback i, .ok _ => some (.rolledBack i)
  | .prepare _ _, .ok _ => some .prepared
  | .closeStatement j, _ => some (.statementClosed j)
  | _, _ => none

def events (seen : List (Note × Database)) : List Event :=
  seen.filterMap fun x => x.1.event

/-- The connections that were opened and not yet closed. -/
def leftOpen (es : List Event) : List Nat :=
  (List.range (es.count .opened)).filter fun i => .closed i ∉ es

/-- The statements that were prepared and closed. -/
def finished (es : List Event) : List Nat :=
  (List.range (es.count .prepared)).filter fun j => .statementClosed j ∈ es

/-- Things that come one after the other, each with a flag that is set for some of them. -/
structure Flags (flags : List Bool) (count : Nat) (marked : Nat → Prop) : Prop where
  length : flags.length = count
  set_iff : ∀ i, flags[i]? = some true ↔ marked i

namespace Flags

variable {flags : List Bool} {count i : Nat} {marked marked' : Nat → Prop}

theorem add (h : Flags flags count marked) : Flags (flags ++ [false]) (count + 1) marked where
  length := by rw [List.length_append, h.length, List.length_singleton]
  set_iff i := by
    rw [← h.set_iff, List.getElem?_append]
    split
    · exact Iff.rfl
    · next hi =>
      rw [List.getElem?_eq_none (Nat.le_of_not_lt hi)]
      cases i - flags.length with
      | zero => simp
      | succ k => simp

theorem mark (h : Flags flags count marked) {b : Bool} (hi : flags[i]? = some b) :
    Flags (flags.set i true) count fun k => marked k ∨ k = i where
  length := List.length_set.trans h.length
  set_iff k := by
    have hlt : i < flags.length := (List.getElem?_eq_some_iff.mp hi).1
    by_cases hk : i = k
    · subst hk
      simp [hlt]
    · rw [List.getElem?_set_ne hk, h.set_iff]
      simp [Ne.symm hk]

/-- What is set already may be set again. -/
theorem remark (h : Flags flags count marked) (hi : flags[i]? = some true) :
    Flags flags count fun k => marked k ∨ k = i where
  length := h.length
  set_iff k := by
    rw [h.set_iff]
    constructor
    · exact Or.inl
    · rintro (hk | rfl)
      · exact hk
      · exact (h.set_iff _).mp hi

theorem of_eq {count' : Nat} (h : Flags flags count marked) (hcount : count' = count)
    (hmarked : ∀ i, marked' i ↔ marked i) : Flags flags count' marked' :=
  ⟨h.length.trans hcount.symm, fun i => (h.set_iff i).trans (hmarked i).symm⟩

end Flags

/-- Flags are counted by their places. -/
theorem count_eq_length_filter (flags : List Bool) (b : Bool) :
    flags.count b = ((List.range flags.length).filter fun i => flags[i]? = some b).length := by
  induction flags with
  | nil => rfl
  | cons first rest ih =>
    have hrest : (List.range rest.length).filter
        ((fun i => decide ((first :: rest)[i]? = some b)) ∘ Nat.succ) =
        (List.range rest.length).filter fun i => rest[i]? = some b := by
      apply List.filter_congr
      intro i _
      simp
    rw [List.count_cons, ih, List.length_cons, List.range_succ_eq_map, List.filter_cons,
      List.filter_map, hrest]
    by_cases hb : first = b
    · simp [hb]
    · simp [hb]

namespace Flags

variable {flags : List Bool} {count : Nat} {marked : Nat → Prop} [DecidablePred marked]

theorem count_true (h : Flags flags count marked) :
    flags.count true = ((List.range count).filter fun i => marked i).length := by
  rw [count_eq_length_filter, h.length]
  congr 1
  apply List.filter_congr
  intro i _
  exact decide_eq_decide.mpr (h.set_iff i)

theorem count_false (h : Flags flags count marked) :
    flags.count false = ((List.range count).filter fun i => ¬marked i).length := by
  rw [count_eq_length_filter, h.length]
  congr 1
  apply List.filter_congr
  intro i hi
  have hlt : i < flags.length := h.length ▸ List.mem_range.mp hi
  apply decide_eq_decide.mpr
  rw [← h.set_iff, List.getElem?_eq_getElem hlt]
  cases flags[i] with
  | false => simp
  | true => simp

end Flags

/-- What is counted of connections and statements, and which of them are closed. -/
structure Account where
  connections : List Bool
  statements : List Bool
  openConnections : Nat
  statementsPrepared : Nat
  statementsClosed : Nat

def Database.account (db : Database) : Account where
  connections := db.sessions.map Session.closed
  statements := db.statements.map Prepared.closed
  openConnections := db.stats.openConnections
  statementsPrepared := db.stats.statementsPrepared
  statementsClosed := db.stats.statementsClosed

/-- What is closed is counted once. -/
inductive Account.Changes (a : Account) : Option Event → Account → Prop where
  | nothing : Changes a none a
  | opened : Changes a (some .opened) { a with
      connections := a.connections ++ [false]
      openConnections := a.openConnections + 1 }
  | closed {i : Nat} (isOpen : a.connections[i]? = some false) :
      Changes a (some (.closed i)) { a with
        connections := a.connections.set i true
        openConnections := a.openConnections - 1 }
  | closedBefore {i : Nat} (isClosed : a.connections[i]? = some true) :
      Changes a (some (.closed i)) a
  | rolledBack (i : Nat) : Changes a (some (.rolledBack i)) a
  | prepared : Changes a (some .prepared) { a with
      statements := a.statements ++ [false]
      statementsPrepared := a.statementsPrepared + 1 }
  | statementClosed {j : Nat} (isOpen : a.statements[j]? = some false) :
      Changes a (some (.statementClosed j)) { a with
        statements := a.statements.set j true
        statementsClosed := a.statementsClosed + 1 }
  | statementClosedBefore {j : Nat} (isClosed : a.statements[j]? = some true) :
      Changes a (some (.statementClosed j)) a

/-- The flags are those of what was closed, and the counters count them. -/
structure Account.Sound (a : Account) (es : List Event) : Prop where
  connections : Flags a.connections (es.count .opened) fun i => .closed i ∈ es
  statements : Flags a.statements (es.count .prepared) fun j => .statementClosed j ∈ es
  openConnections : a.openConnections = a.connections.count false
  statementsPrepared : a.statementsPrepared = a.statements.length
  statementsClosed : a.statementsClosed = a.statements.count true

section Account

variable {a a' : Account} {es : List Event} {e : Option Event} {i : Nat}

-- Stated as a sum: a difference of natural numbers would hide a counter below zero.
theorem count_false_set {flags : List Bool} (h : flags[i]? = some false) :
    flags.count false = (flags.set i true).count false + 1 := by
  obtain ⟨hlt, hi⟩ := List.getElem?_eq_some_iff.mp h
  have hpos : 0 < flags.count false := List.count_pos_iff.mpr (List.mem_of_getElem? h)
  rw [List.count_set hlt, hi]
  simp
  omega

theorem count_true_set {flags : List Bool} (h : flags[i]? = some false) :
    (flags.set i true).count true = flags.count true + 1 := by
  obtain ⟨hlt, hi⟩ := List.getElem?_eq_some_iff.mp h
  rw [List.count_set hlt, hi]
  simp

/-- What an event changes is counted. -/
theorem Account.Sound.changes (h : a.Sound es) (hc : a.Changes e a') :
    a'.Sound (es ++ e.toList) := by
  obtain ⟨hconnections, hstatements, hopen, hprepared, hclosed⟩ := h
  cases hc with
  | nothing =>
    rw [Option.toList_none, List.append_nil]
    exact ⟨hconnections, hstatements, hopen, hprepared, hclosed⟩
  | opened =>
    refine ⟨hconnections.add.of_eq (by simp) (by simp), hstatements.of_eq (by simp) (by simp), ?_,
      hprepared, hclosed⟩
    simp [hopen]
  | closed isOpen =>
    refine ⟨(hconnections.mark isOpen).of_eq (by simp) (by simp),
      hstatements.of_eq (by simp) (by simp), ?_, hprepared, hclosed⟩
    have hcount := count_false_set isOpen
    dsimp only
    omega
  | closedBefore isClosed =>
    exact ⟨(hconnections.remark isClosed).of_eq (by simp) (by simp),
      hstatements.of_eq (by simp) (by simp), hopen, hprepared, hclosed⟩
  | rolledBack i =>
    exact ⟨hconnections.of_eq (by simp) (by simp), hstatements.of_eq (by simp) (by simp), hopen,
      hprepared, hclosed⟩
  | prepared =>
    refine ⟨hconnections.of_eq (by simp) (by simp), hstatements.add.of_eq (by simp) (by simp),
      hopen, ?_, ?_⟩
    · simp [hprepared]
    · simp [hclosed]
  | statementClosed isOpen =>
    refine ⟨hconnections.of_eq (by simp) (by simp), (hstatements.mark isOpen).of_eq (by simp)
      (by simp), hopen, ?_, ?_⟩
    · exact hprepared.trans List.length_set.symm
    · rw [count_true_set isOpen, ← hclosed]
  | statementClosedBefore isClosed =>
    exact ⟨hconnections.of_eq (by simp) (by simp),
      (hstatements.remark isClosed).of_eq (by simp) (by simp), hopen, hprepared, hclosed⟩

/-- The first close of a connection takes one from those that are open, and no other close does. -/
theorem Account.Sound.releases (h : a.Sound es) (hc : a.Changes (some (.closed i)) a') :
    a.openConnections = a'.openConnections + if .closed i ∈ es then 0 else 1 := by
  cases hc with
  | closed isOpen =>
    have hnew : .closed i ∉ es := by
      rw [← h.connections.set_iff, isOpen]
      simp
    have hcount := count_false_set isOpen
    have hopen := h.openConnections
    rw [if_neg hnew]
    dsimp only
    omega
  | closedBefore isClosed =>
    rw [if_pos ((h.connections.set_iff i).mp isClosed), Nat.add_zero]

end Account

section Calls

variable {db db' : Database} {i : Nat} {s : Session}

theorem event_of_writing {n : Note} {texts : List (Nat × String)} {w : Writing}
    (h : n.command.writing texts = some w) : n.event = none := by
  obtain ⟨c, r, k⟩ := n
  cases c with
  | execute i sql params => rfl
  | executePrepared j params => rfl
  | executeBatch j batch => rfl
  | _ => cases h

/-- What fails, and is not a close, does nothing. -/
theorem event_of_failed {c : Command} (e : Error) (k : Nat) (h : c.closes = false) :
    Note.event ⟨c, .error e, k⟩ = none := by
  cases c with
  | close i => cases h
  | closeStatement j => cases h
  | _ => rfl

theorem connections_account (h : db.sessions[i]? = some s) :
    db.account.connections[i]? = some s.closed := by
  rw [Database.account, List.getElem?_map, h]
  rfl

theorem statements_account {j : Nat} {p : Prepared} (h : db.statements[j]? = some p) :
    db.account.statements[j]? = some p.closed := by
  rw [Database.account, List.getElem?_map, h]
  rfl

theorem account_setSession (db : Database) (h : db.sessions[i]? = some s) (s' : Session)
    (hs : s'.closed = s.closed) :
    (db.setSession i s').account = db.account := by
  have hflags : (db.sessions.set i s').map Session.closed = db.account.connections := by
    obtain ⟨hlt, hflag⟩ := List.getElem?_eq_some_iff.mp (connections_account h)
    rw [List.map_set, hs, ← hflag]
    exact List.set_getElem_self hlt
  rw [Database.account, Database.setSession, hflags]
  rfl

theorem account_wrote (db : Database) (h : db.sessions[i]? = some s) (entries : List Entry) :
    (db.wrote i s entries).account = db.account := by
  rw [Database.wrote]
  split
  · rfl
  · exact account_setSession db h _ rfl

theorem account_commitSession (h : db.sessions[i]? = some s) :
    (db.commitSession i s).account = db.account :=
  account_setSession ((db.tally .commit).publish s.staged) h { s with staged := [] } rfl

theorem account_opened (db : Database) (username : Option String) :
    (db.opened username).account = { db.account with
      connections := db.account.connections ++ [false]
      openConnections := db.account.openConnections + 1 } := by
  simp [Database.account, Database.opened, Database.tally, Stats.connect, Session.fresh]

theorem account_prepared (db : Database) (i : Nat) (sql : String) :
    (db.prepared i sql).account = { db.account with
      statements := db.account.statements ++ [false]
      statementsPrepared := db.account.statementsPrepared + 1 } := by
  simp [Database.account, Database.prepared, Database.tally, Stats.prepare]

theorem account_closeSession (db : Database) (i : Nat) (s : Session) :
    (db.closeSession i s).account = { db.account with
      connections := db.account.connections.set i true
      openConnections := db.account.openConnections - 1 } := by
  simp [Database.account, Database.closeSession, Database.tally, Stats.disconnect]

theorem account_closeStatement (db : Database) (j : Nat) (p : Prepared) :
    (db.closeStatement j p).account = { db.account with
      statements := db.account.statements.set j true
      statementsClosed := db.account.statementsClosed + 1 } := by
  simp [Database.account, Database.closeStatement, Database.tally, Stats.closeStatement]

/-- Of connections and statements, a call changes what its event says. -/
theorem Acts.account {n : Note} (h : Acts db n.command n.answer db') :
    db.account.Changes n.event db'.account := by
  obtain ⟨c, r, k⟩ := n
  dsimp only at h
  cases h with
  | failed e writing closes =>
    rw [event_of_failed e k closes]
    exact .nothing
  | seeded sql rows => exact .nothing
  | opened username =>
    rw [account_opened]
    exact .opened
  | queried i sql params r => exact .nothing
  | prepared sql hs ho =>
    rw [account_prepared]
    exact .prepared
  | @wrote c w s r m g writing hs ho executes counted =>
    rw [event_of_writing writing, account_wrote (db.tally (.execute m ∘ g)) hs]
    rcases counted with rfl | rfl
    · exact .nothing
    · exact .nothing
  | @unwritten c w e g writing refused counted =>
    rw [event_of_writing writing]
    rcases counted with rfl | rfl
    · exact .nothing
    · exact .nothing
  | committed hs ho =>
    rw [account_commitSession hs]
    exact .nothing
  | @switched i s on hs ho calm =>
    rw [account_setSession db hs { s with autoCommit := on } rfl]
    exact .nothing
  | @switchedOn i s hs ho off =>
    have hlast : (db.commitSession i s).sessions[i]? = some { s with staged := [] } :=
      List.getElem?_set_self (List.getElem?_eq_some_iff.mp hs).1
    rw [account_setSession _ hlast { s with autoCommit := true, staged := [] } rfl,
      account_commitSession hs]
    exact .nothing
  | @rolledBack i s hs ho =>
    rw [account_setSession (db.tally .rollback) hs { s with staged := [] } rfl]
    exact .rolledBack i
  | closed r hs ho =>
    rw [account_closeSession]
    exact .closed (ho ▸ connections_account hs)
  | closedBefore hs hclosed => exact .closedBefore (hclosed ▸ connections_account hs)
  | statementClosed r hp ho =>
    rw [account_closeStatement]
    exact .statementClosed (ho ▸ statements_account hp)
  | statementClosedBefore hp hclosed =>
    exact .statementClosedBefore (hclosed ▸ statements_account hp)

end Calls

end BatchSql.Memory
