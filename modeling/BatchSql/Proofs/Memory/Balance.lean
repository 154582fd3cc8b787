import BatchSql.Proofs.Memory.Account
import Mathlib.Algebra.GroupWithZero.Nat

namespace BatchSql.Memory

/-- How many rows wait for a commit that may come. -/
def Session.pending (s : Session) : Nat :=
  if s.closed then 0 else s.staged.length

namespace Database

def pending (db : Database) (i : Nat) : Nat :=
  (db.sessions[i]?.map Session.pending).getD 0

/-- How many rows wait in the connections that are open. -/
def stagedCount (db : Database) : Nat :=
  (db.sessions.map Session.pending).sum

/-- How many rows are given up with an event. -/
def drops (db : Database) : Option Event → Nat
  | some (.closed i) => db.pending i
  | some (.rolledBack i) => db.pending i
  | _ => 0

/-- The database after all that was seen. -/
def last (db : Database) (seen : List (Note × Database)) : Database :=
  (seen.map Prod.snd).getLastD db

/-- How many rows were given up in all that was seen. -/
def dropped (db : Database) : List (Note × Database) → Nat
  | [] => 0
  | (n, after) :: rest => db.drops n.event + dropped after rest

end Database

/-- The counters of a database agree with what was seen since it was empty. -/
structure Balanced (seen : List (Note × Database)) (db : Database) : Prop where
  openConnections : db.stats.openConnections = (leftOpen (events seen)).length
  statementsClosed : db.stats.statementsClosed = (finished (events seen)).length
  statementsPrepared : db.stats.statementsPrepared = (events seen).count .prepared
  closed_le_prepared : db.stats.statementsClosed ≤ db.stats.statementsPrepared
  statementsExecuted : db.stats.statementsExecuted =
    db.committedCount + db.stagedCount + Database.empty.dropped seen

section Calls

variable {db db' : Database} {i : Nat} {s : Session} {r : Except Error Unit}

theorem Executes.le {w : Writing} {n : Nat} (h : Executes w r n) : n ≤ w.rows.length := by
  cases h with
  | all fit => exact Nat.le_refl _
  | upTo cut fit misfit =>
    rw [cut, List.length_append]
    exact Nat.le_add_right _ _
  | refused refused => exact Nat.zero_le _

theorem sum_map_set {α : Type} (f : α → Nat) {xs : List α} {i : Nat} {x : α}
    (h : xs[i]? = some x) (y : α) : ((xs.set i y).map f).sum + f x = (xs.map f).sum + f y := by
  induction xs generalizing i with
  | nil => cases h
  | cons first rest ih =>
    cases i with
    | zero =>
      obtain rfl := Option.some.inj h
      simp only [List.set_cons_zero, List.map_cons, List.sum_cons]
      omega
    | succ i =>
      have hrest := ih h
      simp only [List.set_cons_succ, List.map_cons, List.sum_cons]
      omega

theorem pending_of_session (h : db.sessions[i]? = some s) : db.pending i = s.pending := by
  rw [Database.pending, h]
  rfl

theorem pending_of_open (h : s.closed = false) : s.pending = s.staged.length := by
  rw [Session.pending, h]
  rfl

theorem pending_of_closed (h : s.closed = true) : s.pending = 0 := by
  rw [Session.pending, h]
  rfl

theorem pending_stage (h : s.closed = false) (entries : List Entry) :
    ({ s with staged := s.staged ++ entries } : Session).pending =
      s.pending + entries.length := by
  rw [pending_of_open h, Session.pending, h]
  exact List.length_append

/-- A session in the place of another: its rows wait, and those of the other do not. -/
theorem stagedCount_setSession (db : Database) (h : db.sessions[i]? = some s) (s' : Session) :
    (db.setSession i s').stagedCount + s.pending = db.stagedCount + s'.pending :=
  sum_map_set Session.pending h s'

/-- Where nothing waits any more, as many rows less wait as there were. -/
theorem stagedCount_emptied (db : Database) (h : db.sessions[i]? = some s) (s' : Session)
    (hs : s'.staged = []) : (db.setSession i s').stagedCount + db.pending i = db.stagedCount := by
  have hnone : s'.pending = 0 := by rw [Session.pending, hs, List.length_nil, ite_self]
  rw [pending_of_session h, stagedCount_setSession db h, hnone, Nat.add_zero]

theorem committedCount_publish (db : Database) (entries : List Entry) :
    (db.publish entries).committedCount = db.committedCount + entries.length :=
  List.length_append

/-- Of the rows that are written none is lost. -/
theorem rows_wrote (db : Database) (h : db.sessions[i]? = some s) (ho : s.closed = false)
    (entries : List Entry) :
    (db.wrote i s entries).committedCount + (db.wrote i s entries).stagedCount =
      db.committedCount + db.stagedCount + entries.length := by
  rw [Database.wrote]
  split
  · rw [committedCount_publish]
    exact Nat.add_right_comm _ _ _
  · have hstaged := stagedCount_setSession db h { s with staged := s.staged ++ entries }
    have hcommitted : (db.setSession i { s with staged := s.staged ++ entries }).committedCount =
      db.committedCount := rfl
    rw [pending_stage ho] at hstaged
    omega

/-- What is committed no longer waits. -/
theorem rows_commitSession (h : db.sessions[i]? = some s) (ho : s.closed = false) :
    (db.commitSession i s).committedCount + (db.commitSession i s).stagedCount =
      db.committedCount + db.stagedCount := by
  have hcommitted : (db.commitSession i s).committedCount = db.committedCount + s.staged.length :=
    committedCount_publish db s.staged
  have hstaged : (db.commitSession i s).stagedCount + db.pending i = db.stagedCount :=
    stagedCount_emptied ((db.tally .commit).publish s.staged) h { s with staged := [] } rfl
  rw [pending_of_session h, pending_of_open ho] at hstaged
  omega

/-- A row that was executed is committed, or it waits, or it is given up. -/
theorem Acts.rows {n : Note} (h : Acts db n.command n.answer db') :
    db'.stats.statementsExecuted + (db.committedCount + db.stagedCount) =
      db.stats.statementsExecuted +
        (db'.committedCount + db'.stagedCount + db.drops n.event) := by
  obtain ⟨c, r, k⟩ := n
  dsimp only at h
  cases h with
  | failed e writing closes =>
    rw [event_of_failed e k closes]
    rfl
  | seeded sql rows => rfl
  | opened username =>
    have hstaged : (db.opened username).stagedCount = db.stagedCount := by
      simp [Database.stagedCount, Database.opened, Session.pending, Session.fresh]
    rw [hstaged]
    rfl
  | queried i sql params r => rfl
  | prepared sql hs ho => rfl
  | @wrote c w s r m g writing hs ho executes counted =>
    rw [event_of_writing writing, rows_wrote (db.tally (.execute m ∘ g)) hs ho, List.length_map,
      List.length_take_of_le executes.le, executed_wrote counted, Nat.add_assoc,
      Nat.add_comm m]
    rfl
  | @unwritten c w e g writing refused counted =>
    rw [event_of_writing writing]
    rcases counted with rfl | rfl
    · rfl
    · rfl
  | committed hs ho =>
    rw [rows_commitSession hs ho]
    rfl
  | @switched i s on hs ho calm =>
    have hstaged := stagedCount_setSession db hs { s with autoCommit := on }
    rw [Nat.add_right_cancel hstaged]
    rfl
  | @switchedOn i s hs ho off =>
    have hlast : (db.commitSession i s).sessions[i]? = some { s with staged := [] } :=
      List.getElem?_set_self (List.getElem?_eq_some_iff.mp hs).1
    have hstaged := stagedCount_setSession _ hlast { s with autoCommit := true, staged := [] }
    rw [Nat.add_right_cancel hstaged]
    exact congrArg _ (rows_commitSession hs ho).symm
  | @rolledBack i s hs ho =>
    have hstaged : _ + db.pending i = db.stagedCount :=
      stagedCount_emptied (db.tally .rollback) hs { s with staged := [] } rfl
    rw [Nat.add_assoc, ← hstaged]
    rfl
  | @closed i s r hs ho =>
    have hstaged : _ + db.pending i = db.stagedCount :=
      stagedCount_emptied (db.tally .disconnect) hs { s with closed := true, staged := [] } rfl
    rw [Nat.add_assoc, ← hstaged]
    rfl
  | @closedBefore i s hs hclosed =>
    -- a second close gives nothing up, because nothing waits where it is closed
    have hnone : db.drops (some (.closed i)) = 0 :=
      (pending_of_session hs).trans (pending_of_closed hclosed)
    change _ = _ + (_ + db.drops (some (.closed i)))
    rw [hnone]
    rfl
  | statementClosed r hp ho => rfl
  | statementClosedBefore hp hclosed => rfl

/-- What is kept from one call to the next. -/
structure Kept (seen : List (Note × Database)) (db : Database) : Prop where
  sound : db.account.Sound (events seen)
  executed : db.stats.statementsExecuted =
    db.committedCount + db.stagedCount + Database.empty.dropped seen
  last : ∃ failures, Database.empty.last seen = { db with failures }

theorem kept_empty : Kept [] .empty where
  sound := ⟨⟨rfl, fun i => by simp [Database.account, Database.empty, events]⟩,
    ⟨rfl, fun i => by simp [Database.account, Database.empty, events]⟩, rfl, rfl, rfl⟩
  executed := rfl
  last := ⟨[], rfl⟩

theorem events_concat (seen : List (Note × Database)) (n : Note) (after : Database) :
    events (seen ++ [(n, after)]) = events seen ++ n.event.toList := by
  rw [events, List.filterMap_append]
  cases h : n.event with
  | none => simp [events, h]
  | some e => simp [events, h]

theorem last_concat (db : Database) (seen : List (Note × Database)) (n : Note)
    (after : Database) : db.last (seen ++ [(n, after)]) = after := by
  simp [Database.last]

theorem last_cons (db : Database) (n : Note) (after : Database) (rest : List (Note × Database)) :
    db.last ((n, after) :: rest) = after.last rest := by
  rw [Database.last, List.map_cons, List.getLastD_cons]
  rfl

theorem dropped_concat (db : Database) (seen : List (Note × Database)) (n : Note)
    (after : Database) : db.dropped (seen ++ [(n, after)]) =
      db.dropped seen + (db.last seen).drops n.event := by
  induction seen generalizing db with
  | nil => exact Nat.add_comm _ _
  | cons first rest ih =>
    rw [List.cons_append, Database.dropped, ih, Database.dropped, last_cons, Nat.add_assoc]

theorem Kept.turn {seen : List (Note × Database)} (h : Kept seen db) (switches : List Switch) :
    Kept seen (switches.foldl Switch.turn db) := by
  obtain ⟨failures, he⟩ := Switch.foldl_turn switches db
  rw [he]
  exact ⟨h.sound, h.executed, h.last⟩

theorem Kept.call {seen : List (Note × Database)} {n : Note} (h : Kept seen db)
    (hacts : Acts db n.command n.answer db') : Kept (seen ++ [(n, db')]) db' where
  sound := by
    rw [events_concat]
    exact h.sound.changes hacts.account
  executed := by
    obtain ⟨failures, hlast⟩ := h.last
    have hdrops : (Database.empty.last seen).drops n.event = db.drops n.event := by
      rw [hlast]
      rfl
    have hrows := hacts.rows
    have hexecuted := h.executed
    rw [dropped_concat, hdrops]
    omega
  last := ⟨db'.failures, last_concat _ _ _ _⟩

theorem Kept.balanced {seen : List (Note × Database)} (h : Kept seen db) : Balanced seen db where
  openConnections := h.sound.openConnections.trans h.sound.connections.count_false
  statementsClosed := h.sound.statementsClosed.trans h.sound.statements.count_true
  statementsPrepared := h.sound.statementsPrepared.trans h.sound.statements.length
  closed_le_prepared := by
    have hclosed : db.stats.statementsClosed = db.account.statements.count true :=
      h.sound.statementsClosed
    have hprepared : db.stats.statementsPrepared = db.account.statements.length :=
      h.sound.statementsPrepared
    rw [hclosed, hprepared]
    exact List.count_le_length
  statementsExecuted := h.executed

/-- A call that closes a connection for the first time takes one from those that are open. -/
theorem Kept.releases {seen : List (Note × Database)} {n : Note} (h : Kept seen db)
    (hacts : Acts db n.command n.answer db') (hi : n.command = .close i) :
    (Database.empty.last seen).stats.openConnections =
      db'.stats.openConnections + if .closed i ∈ events seen then 0 else 1 := by
  obtain ⟨failures, hlast⟩ := h.last
  have hevent : n.event = some (.closed i) := by rw [Note.event, hi]
  rw [hlast]
  exact h.sound.releases (hevent ▸ hacts.account)

/-- The counters stay balanced along a course of calls. -/
theorem Course.kept {front seen : List (Note × Database)} (h : Course db seen db')
    (hdb : Kept front db) :
    (∀ middle n after back, seen = middle ++ (n, after) :: back →
      Kept (front ++ middle ++ [(n, after)]) after ∧
      ∀ i, n.command = .close i → (Database.empty.last (front ++ middle)).stats.openConnections =
        after.stats.openConnections + if .closed i ∈ events (front ++ middle) then 0 else 1) ∧
    Kept (front ++ seen) db' := by
  -- `front` is what was seen before the course begins, and grows by the note of each call.
  induction h generalizing front with
  | nil db =>
    rw [List.append_nil]
    exact ⟨fun middle n after back he => by simp at he, hdb⟩
  | turn switches rest ih => exact ih (hdb.turn switches)
  | @call db db₁ db' n seen acts executed rest ih =>
    have hnext := hdb.call acts
    obtain ⟨hall, hlast⟩ := ih hnext
    rw [List.append_assoc] at hlast
    refine ⟨fun middle m after back he => ?_, hlast⟩
    cases middle with
    | nil =>
      obtain ⟨hm, rfl⟩ := List.cons.inj he
      cases hm
      rw [List.append_nil]
      exact ⟨hnext, fun i hi => hdb.releases acts hi⟩
    | cons first middle =>
      obtain ⟨rfl, hrest⟩ := List.cons.inj he
      have hsplit : front ++ (n, db₁) :: middle = front ++ [(n, db₁)] ++ middle :=
        List.append_cons front (n, db₁) middle
      rw [hsplit]
      exact hall middle m after back hrest

end Calls

/-- At every point of a run, whoever made the calls, in whatever order and whatever failed, the
connections that are open are those that were opened and not yet closed, and the first close of
each takes one from them. The statements counted as closed are those of the prepared ones that
were closed, each counted once. Every row that was executed is committed, or waits in a connection
that is open, or was given up by a rollback or a close. -/
theorem counters_stay_balanced {σ : Type} {f : Focus σ Database} [f.Lawful] (world : σ)
    (plan : List (List Switch × Command)) :
    ∃ seen handles db, Does (Handles.observe f ⟨[], []⟩ plan) (f.set .empty world)
        (seen, handles) (f.set db world) ∧
      (∀ front n after back, seen = front ++ (n, after) :: back →
        Balanced (front ++ [(n, after)]) after ∧
        ∀ i, n.command = .close i → (Database.empty.last front).stats.openConnections =
          after.stats.openConnections + if .closed i ∈ events front then 0 else 1) ∧
      Balanced seen db := by
  obtain ⟨seen, db, hobserve, hcourse⟩ := observe_course (f := f) world .empty plan
  obtain ⟨hall, hlast⟩ := hcourse.kept kept_empty
  refine ⟨seen, _, db, hobserve, fun front n after back he => ?_, hlast.balanced⟩
  obtain ⟨hkept, hreleases⟩ := hall front n after back he
  exact ⟨hkept.balanced, hreleases⟩

/-- Two connections, one rolled back with a row that waits and one closed with another: both closes
are reported to fail, each is made twice, and a statement is closed after its connection. -/
theorem counters_stay_balanced_reclosed :
    let row : Int64 → List Value := fun n => [.int64 n]
    let counted : Database → List Nat := fun db => [db.stats.openConnections,
      db.stats.statementsClosed, db.stats.statementsExecuted, db.committedCount, db.stagedCount]
    let plan : List (List Switch × Command) := [([], .connect none), ([], .connect none),
      ([], .prepare 0 "W ?"), ([], .setAutoCommit 0 false), ([], .executePrepared 0 (row 1)),
      ([], .rollback 0), ([], .executeBatch 0 [row 2, row 3, []]), ([], .execute 1 "W ?" (row 4)),
      ([.fail .connectionClose], .close 0), ([], .close 0), ([], .closeStatement 0),
      ([], .closeStatement 0), ([], .close 1), ([.clear .connectionClose], .close 1)]
    ∃ seen handles db, Does (Handles.observe .self ⟨[], []⟩ plan) .empty (seen, handles) db ∧
      (∀ front n after back, seen = front ++ (n, after) :: back →
        Balanced (front ++ [(n, after)]) after) ∧
      Balanced seen db ∧
      seen.map (fun x => (x.1.answer.isOk, counted x.2)) =
        [(true, [1, 0, 0, 0, 0]), (true, [2, 0, 0, 0, 0]), (true, [2, 0, 0, 0, 0]),
          (true, [2, 0, 0, 0, 0]), (true, [2, 0, 1, 0, 1]), (true, [2, 0, 1, 0, 0]),
          (false, [2, 0, 3, 0, 2]), (true, [2, 0, 4, 1, 2]), (false, [1, 0, 4, 1, 0]),
          (true, [1, 0, 4, 1, 0]), (true, [1, 1, 4, 1, 0]), (true, [1, 1, 4, 1, 0]),
          (false, [0, 1, 4, 1, 0]), (true, [0, 1, 4, 1, 0])] := by
  intro row counted plan
  obtain ⟨seen, handles, db, hobserve, hall, hlast⟩ :=
    counters_stay_balanced (f := .self) Database.empty plan
  have hrun : Does (Handles.observe .self ⟨[], []⟩ plan) Database.empty (seen, handles) db :=
    hobserve
  refine ⟨seen, handles, db, hrun, fun front n after back he => (hall front n after back he).1,
    hlast, ?_⟩
  have hseen : ((Handles.observe .self ⟨[], []⟩ plan).run ⟨Database.empty, #[]⟩).1.1 = seen :=
    congrArg Prod.fst (hrun.run #[]).1
  rw [← hseen]
  decide +kernel

end BatchSql.Memory
