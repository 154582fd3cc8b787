import BatchSql.Proofs.Memory.Commands

namespace BatchSql.Memory

/-- A connection of a log, and the rows that wait for its commit. -/
structure Line where
  autoCommit : Bool
  waiting : List Entry

/-- What becomes of the rows that are written: those committed, those that wait in a connection, and
the statements, each with its connection. -/
structure Log where
  committed : List Entry
  lines : List Line
  statements : List (Nat × String)

namespace Log

def empty : Log :=
  ⟨[], [], []⟩

/-- The rows committed with a statement. -/
def committedRows (l : Log) (sql : String) : List (List Value) :=
  (l.committed.filter fun e => e.1 = Text.squeeze sql).map Prod.snd

def autoCommit (l : Log) (i : Nat) : Bool :=
  l.lines[i]?.any Line.autoCommit

def waiting (l : Log) (i : Nat) : List Entry :=
  (l.lines[i]?.map Line.waiting).getD []

def update (l : Log) (i : Nat) (g : Line → Line) : Log :=
  { l with lines := l.lines.modify i g }

/-- Rows that are written are committed at once, or wait after those that wait already. -/
def write (l : Log) (i : Nat) (entries : List Entry) : Log :=
  if l.autoCommit i then { l with committed := l.committed ++ entries }
  else l.update i fun line => { line with waiting := line.waiting ++ entries }

/-- What waits in a connection will never be committed. -/
def drop (l : Log) (i : Nat) : Log :=
  l.update i fun line => { line with waiting := [] }

/-- What waits in a connection is committed, all of it and in its order. -/
def publish (l : Log) (i : Nat) : Log :=
  { l.drop i with committed := l.committed ++ l.waiting i }

def switch (l : Log) (i : Nat) (on : Bool) : Log :=
  l.update i fun line => { line with autoCommit := on }

/-- What a call does. Apart from a close, a call that fails does nothing but the writing that was
executed before. -/
def note (l : Log) (n : Note) : Log :=
  match n.command.writing l.statements with
  | some w => l.write w.session ((w.rows.take n.executed).map (entry w.sql))
  | none =>
    match n.command, n.answer with
    | .connect _, .ok _ => { l with lines := l.lines ++ [⟨true, []⟩] }
    | .prepare i sql, .ok _ => { l with statements := l.statements ++ [(i, sql)] }
    | .commit i, .ok _ => l.publish i
    | .setAutoCommit i on, .ok _ =>
      if on && !l.autoCommit i then (l.publish i).switch i on else l.switch i on
    | .rollback i, .ok _ => l.drop i
    | .close i, _ => l.drop i
    | _, _ => l

def replay (l : Log) (notes : List Note) : Log :=
  notes.foldl note l

theorem committed_publish (l : Log) (i : Nat) : l.committed <+: (l.publish i).committed :=
  List.prefix_append _ _

/-- Nothing that was committed goes away. -/
theorem committed_note (l : Log) (n : Note) : l.committed <+: (l.note n).committed := by
  rw [note]
  split
  · rw [write]
    split
    · exact List.prefix_append _ _
    · exact List.prefix_rfl
  · split
    · exact List.prefix_rfl
    · exact List.prefix_rfl
    · exact l.committed_publish _
    · split
      · exact l.committed_publish _
      · exact List.prefix_rfl
    · exact List.prefix_rfl
    · exact List.prefix_rfl
    · exact List.prefix_rfl

end Log

def Session.line (s : Session) : Line :=
  ⟨s.autoCommit, s.staged⟩

/-- A database as a log. -/
def Database.log (db : Database) : Log :=
  ⟨db.committed, db.sessions.map Session.line, db.texts⟩

/-- Nothing waits in a session that is closed. -/
def Database.Emptied (db : Database) : Prop :=
  ∀ (i : Nat) (s : Session), db.sessions[i]? = some s → s.closed = true → s.staged = []

section Log

variable {db db' : Database} {i : Nat} {s s' : Session}

theorem log_setSession (db : Database) {g : Line → Line} (h : db.sessions[i]? = some s)
    (hline : s'.line = g s.line) : (db.setSession i s').log = db.log.update i g := by
  have hlines : (db.sessions.set i s').map Session.line =
      (db.sessions.map Session.line).modify i g := by
    apply List.ext_getElem?
    intro k
    by_cases hk : i = k
    · subst hk
      obtain ⟨hlt, rfl⟩ := List.getElem?_eq_some_iff.mp h
      simp [hlt, hline]
    · simp [hk]
  rw [Database.log, Database.log, Log.update, ← hlines]
  rfl

theorem log_autoCommit (h : db.sessions[i]? = some s) : db.log.autoCommit i = s.autoCommit := by
  simp [Log.autoCommit, Database.log, Session.line, h]

theorem log_waiting (h : db.sessions[i]? = some s) : db.log.waiting i = s.staged := by
  simp [Log.waiting, Database.log, Session.line, h]

theorem log_wrote (db : Database) (h : db.sessions[i]? = some s) (entries : List Entry) :
    (db.wrote i s entries).log = db.log.write i entries := by
  rw [Database.wrote, Log.write, log_autoCommit h]
  split
  · rfl
  · exact log_setSession db h rfl

theorem log_drop (db : Database) (h : db.sessions[i]? = some s) :
    (db.setSession i { s with staged := [] }).log = db.log.drop i :=
  log_setSession db h rfl

theorem log_commitSession (h : db.sessions[i]? = some s) :
    (db.commitSession i s).log = db.log.publish i := by
  rw [Log.publish, ← log_drop db h, log_waiting h]
  rfl

theorem log_switch {on : Bool} (h : db.sessions[i]? = some s) :
    (db.setSession i { s with autoCommit := on }).log = db.log.switch i on :=
  log_setSession db h rfl

/-- The rows that a writing has executed are counted. -/
theorem executed_wrote {g : Stats → Stats} (hg : g = id ∨ g = .batch) (n : Nat)
    (entries : List Entry) :
    ((db.tally (.execute n ∘ g)).wrote i s entries).stats.statementsExecuted =
      db.stats.statementsExecuted + n := by
  have hstats : ((db.tally (.execute n ∘ g)).wrote i s entries).stats =
      (g db.stats).execute n := by
    rw [Database.wrote]
    split
    · rfl
    · rfl
  rw [hstats]
  rcases hg with rfl | rfl
  · rfl
  · rfl

theorem counted_wrote {g : Stats → Stats} (hg : g = id ∨ g = .batch) (n : Nat)
    (entries : List Entry) :
    ((db.tally (.execute n ∘ g)).wrote i s entries).stats.statementsExecuted -
      db.stats.statementsExecuted = n := by
  rw [executed_wrote hg]
  exact Nat.add_sub_cancel_left _ _

theorem counted_nothing {g : Stats → Stats} (hg : g = id ∨ g = .batch) :
    (db.tally g).stats.statementsExecuted - db.stats.statementsExecuted = 0 := by
  rcases hg with rfl | rfl
  · exact Nat.sub_self _
  · exact Nat.sub_self _

theorem Log.note_writing {l : Log} {n : Note} {w : Writing}
    (h : n.command.writing l.statements = some w) :
    l.note n = l.write w.session ((w.rows.take n.executed).map (entry w.sql)) := by
  rw [Log.note, h]

/-- What fails does nothing, if it neither writes nor closes. -/
theorem Log.note_failed {l : Log} {c : Command} (e : Error) (n : Nat)
    (hw : c.writing l.statements = none) (hc : c.closes = false) :
    l.note ⟨c, .error e, n⟩ = l := by
  rw [Log.note, hw]
  cases c with
  | close i => cases hc
  | _ => rfl

theorem Log.write_nil (l : Log) (i : Nat) : l.write i [] = l := by
  have hsame : (fun line : Line => { line with waiting := line.waiting ++ [] }) = id := by
    funext line
    simp
  rw [Log.write]
  split
  · rw [List.append_nil]
  · rw [Log.update, hsame, List.modify_id]

theorem log_drop_empty (h : db.sessions[i]? = some s) (hs : s.staged = []) :
    db.log.drop i = db.log := by
  have hsame : { s with staged := [] } = s := by rw [← hs]
  rw [← log_drop db h, hsame, Database.setSession_self h]

/-- A call does to a database what its note does to the log. -/
theorem Acts.log {n : Note} (h : Acts db n.command n.answer db') (hemptied : db.Emptied)
    (hn : n.executed = db'.stats.statementsExecuted - db.stats.statementsExecuted) :
    db'.log = db.log.note n := by
  obtain ⟨c, r, k⟩ := n
  dsimp only at h hn
  cases h with
  | failed e writing closes => exact (Log.note_failed e k writing closes).symm
  | seeded sql rows => rfl
  | opened username => simp [Log.note, Command.writing, Database.log, Database.opened,
      Database.texts, Database.tally, Session.line, Session.fresh]
  | queried i sql params r => rfl
  | prepared sql hs ho => simp [Log.note, Command.writing, Database.log, Database.prepared,
      Database.texts, Database.tally]
  | wrote writing hs ho executes counted =>
    rw [counted_wrote counted] at hn
    rw [Log.note_writing writing, hn]
    exact log_wrote (db.tally _) hs _
  | @unwritten c w e g writing refused counted =>
    rw [counted_nothing counted] at hn
    rw [Log.note_writing writing, hn, List.take_zero, List.map_nil, Log.write_nil]
    rfl
  | committed hs ho => exact log_commitSession hs
  | @switched i s on hs ho calm =>
    have hcalm : (on && !db.log.autoCommit i) = false := by
      rw [log_autoCommit hs]
      cases on with
      | false => rfl
      | true => rw [calm rfl]; rfl
    change _ = if on && !db.log.autoCommit i then _ else db.log.switch i on
    rw [hcalm]
    exact log_switch hs
  | @switchedOn i s hs ho off =>
    change _ = if true && !db.log.autoCommit i then (db.log.publish i).switch i true else _
    rw [log_autoCommit hs, off, ← log_commitSession hs]
    have hlast : (db.commitSession i s).sessions[i]? = some { s with staged := [] } :=
      List.getElem?_set_self (List.getElem?_eq_some_iff.mp hs).1
    exact log_switch hlast
  | rolledBack hs ho => exact log_drop (db.tally .rollback) hs
  | closed r hs ho => exact log_setSession (db.tally .disconnect) hs rfl
  | closedBefore hs hclosed => exact (log_drop_empty hs (hemptied _ _ hs hclosed)).symm
  | statementClosed r hp ho =>
    rw [Database.log, texts_closeStatement hp]
    rfl
  | statementClosedBefore hp hclosed => rfl

theorem Database.Emptied.set (h : db.Emptied) (hset : db'.sessions = db.sessions.set i s)
    (hs : s.closed = true → s.staged = []) : db'.Emptied := by
  intro k s' hk hc
  rw [hset, List.getElem?_set] at hk
  split at hk
  · split at hk
    · cases hk
      exact hs hc
    · cases hk
  · exact h k s' hk hc

theorem Database.Emptied.opened (h : db.Emptied) (username : Option String) :
    (db.opened username).Emptied := by
  intro k s hk hc
  rw [Database.opened, List.getElem?_append] at hk
  split at hk
  · exact h k s hk hc
  · obtain rfl := List.mem_singleton.mp (List.mem_of_getElem? hk)
    cases hc

/-- No call leaves anything in a closed session. -/
theorem Acts.emptied {c : Command} {r : Except Error Unit} (h : Acts db c r db')
    (hs : db.Emptied) : db'.Emptied := by
  have hnever : ∀ {s : Session} {entries : List Entry}, s.closed = false → s.closed = true →
      entries = [] := fun ho hc => absurd (ho.symm.trans hc) nofun
  cases h with
  | failed e writing closes => exact hs
  | seeded sql rows => exact hs
  | opened username => exact hs.opened username
  | queried i sql params r => exact hs
  | prepared sql h ho => exact hs
  | wrote writing h ho executes counted =>
    rw [Database.wrote]
    split
    · exact hs
    · exact hs.set rfl (hnever ho)
  | unwritten writing refused counted => exact hs
  | committed h ho => exact hs.set rfl fun _ => rfl
  | switched h ho calm => exact hs.set rfl (hnever ho)
  | @switchedOn i s h ho off =>
    have hcommitted : (db.commitSession i s).Emptied := hs.set rfl fun _ => rfl
    exact hcommitted.set rfl fun _ => rfl
  | rolledBack h ho => exact hs.set rfl fun _ => rfl
  | closed r h ho => exact hs.set rfl fun _ => rfl
  | closedBefore h hclosed => exact hs
  | statementClosed r hp ho => exact hs
  | statementClosedBefore hp hclosed => exact hs

/-- What was executed of a writing shows in its answer. -/
theorem Acts.executes {n : Note} {w : Writing} (h : Acts db n.command n.answer db')
    (hn : n.executed = db'.stats.statementsExecuted - db.stats.statementsExecuted)
    (hw : n.command.writing db.texts = some w) : Executes w n.answer n.executed := by
  obtain ⟨c, r, k⟩ := n
  dsimp only at h hn hw
  cases h with
  | failed e writing closes => exact absurd (hw.symm.trans writing) nofun
  | wrote writing hs ho executes counted =>
    obtain rfl := Option.some.inj (writing.symm.trans hw)
    rw [counted_wrote counted] at hn
    rw [hn]
    exact executes
  | @unwritten c w' e g writing refused counted =>
    obtain rfl := Option.some.inj (writing.symm.trans hw)
    rw [hn, counted_nothing counted]
    exact .refused refused
  | _ => cases hw

theorem log_turn (db : Database) (switches : List Switch) :
    (switches.foldl Switch.turn db).log = db.log := by
  obtain ⟨failures, he⟩ := Switch.foldl_turn switches db
  rw [he]
  rfl

theorem Database.Emptied.turn (h : db.Emptied) (switches : List Switch) :
    (switches.foldl Switch.turn db).Emptied := by
  obtain ⟨failures, he⟩ := Switch.foldl_turn switches db
  rw [he]
  exact h

/-- After every call of a course the database is what the replay of the calls gives. -/
theorem Course.replays {seen : List (Note × Database)} (h : Course db seen db')
    (hdb : db.Emptied) :
    (∀ front n after back, seen = front ++ (n, after) :: back →
      (∀ w, n.command.writing (db.log.replay (front.map Prod.fst)).statements = some w →
        Executes w n.answer n.executed) ∧
      after.log = db.log.replay (front.map Prod.fst ++ [n])) ∧
    db'.log = db.log.replay (seen.map Prod.fst) := by
  induction h with
  | nil db => exact ⟨fun front n after back he => by simp at he, rfl⟩
  | turn switches rest ih =>
    rw [← log_turn _ switches]
    exact ih (hdb.turn switches)
  | @call db db₁ db' n seen acts executed rest ih =>
    have hlog : db₁.log = db.log.note n := acts.log hdb executed
    obtain ⟨hall, hlast⟩ := ih (acts.emptied hdb)
    rw [hlog] at hall hlast
    refine ⟨fun front m after back he => ?_, hlast⟩
    cases front with
    | nil =>
      obtain ⟨hm, rfl⟩ := List.cons.inj he
      cases hm
      exact ⟨fun w hw => acts.executes executed hw, hlog⟩
    | cons first front =>
      obtain ⟨rfl, hrest⟩ := List.cons.inj he
      exact hall front m after back hrest

/-- Committed rows stay, with all those before them. -/
theorem Course.grows {seen : List (Note × Database)} (h : Course db seen db')
    (hdb : db.Emptied) :
    (db :: seen.map Prod.snd).Pairwise fun a b => a.committed <+: b.committed := by
  induction h with
  | nil db => exact List.pairwise_singleton _ _
  | @turn db db' seen switches rest ih =>
    obtain ⟨hfirst, hrest⟩ := List.pairwise_cons.mp (ih (hdb.turn switches))
    have hsame : (switches.foldl Switch.turn db).committed = db.committed :=
      congrArg Log.committed (log_turn db switches)
    rw [hsame] at hfirst
    exact List.pairwise_cons.mpr ⟨hfirst, hrest⟩
  | @call db db₁ db' n seen acts executed rest ih =>
    have hpairs := ih (acts.emptied hdb)
    have hnext : db.committed <+: db₁.committed := by
      have hnote := db.log.committed_note n
      rwa [← acts.log hdb executed] at hnote
    refine List.pairwise_cons.mpr ⟨fun last hlast => ?_, hpairs⟩
    rcases List.mem_cons.mp hlast with rfl | hlater
    · exact hnext
    · exact hnext.trans ((List.pairwise_cons.mp hpairs).1 last hlater)

end Log

/-- The rows that can be seen in a database are those that a replay of the calls made so far
commits, whoever made them, in whatever order and whatever failed: a row that is written is
committed at once or with the next commit of its connection that succeeds, with all that waited
there before it and unless a rollback or a close comes first, and a batch that fails has executed
the rows before the first that does not fit. What is committed stays, in its order. -/
theorem committed_rows_are_replayed {σ : Type} {f : Focus σ Database} [f.Lawful] (world : σ)
    (plan : List (List Switch × Command)) :
    ∃ seen handles db, Does (Handles.observe f ⟨[], []⟩ plan) (f.set .empty world)
        (seen, handles) (f.set db world) ∧
      (∀ front n after back, seen = front ++ (n, after) :: back →
        (∀ w, n.command.writing (Log.empty.replay (front.map Prod.fst)).statements = some w →
          Executes w n.answer n.executed) ∧
        ∀ sql, after.committedRows sql =
          (Log.empty.replay (front.map Prod.fst ++ [n])).committedRows sql) ∧
      ((Database.empty :: seen.map Prod.snd).Pairwise fun a b =>
        ∀ sql, a.committedRows sql <+: b.committedRows sql) ∧
      ∀ i c, handles.connections[i]? = some c →
        Does c.isAutoCommit (f.set db world)
          ((Log.empty.replay (seen.map Prod.fst)).autoCommit i) (f.set db world) := by
  have hempty : Database.empty.Emptied := fun i s hs => by simp [Database.empty] at hs
  obtain ⟨seen, db, hobserve, hcourse⟩ := observe_course (f := f) world .empty plan
  obtain ⟨hall, hlast⟩ := hcourse.replays hempty
  refine ⟨seen, _, db, hobserve, fun front n after back he => ?_, ?_, fun i c hc => ?_⟩
  · obtain ⟨hexecutes, hlog⟩ := hall front n after back he
    refine ⟨hexecutes, fun sql => ?_⟩
    exact congrArg (fun l : Log => l.committedRows sql) hlog
  · exact (hcourse.grows hempty).imp fun hgrows sql => (hgrows.filter _).map _
  · rw [connections_handles] at hc
    obtain ⟨s, hs, rfl⟩ := Option.map_eq_some_iff.mp hc
    have hmode : (Log.empty.replay (seen.map Prod.fst)).autoCommit i = s.autoCommit := by
      rw [← log_autoCommit hs, hlast]
      rfl
    rw [hmode]
    exact does_isAutoCommit world hs

/-- Two connections, of which one keeps its rows through a batch that fails halfway and a commit
that fails, and the other closes with a row that waits. -/
theorem committed_rows_are_replayed_interleaved :
    let row : Int64 → List Value := fun n => [.int64 n]
    let numbers : Database → List Int64 := fun db => (db.committedRows "W ?").flatten.filterMap
      fun v => match v with
        | .int64 n => some n
        | _ => none
    let plan : List (List Switch × Command) := [([], .connect none), ([], .connect none),
      ([], .setAutoCommit 0 false), ([], .prepare 0 "W  ?"),
      ([], .executeBatch 0 [row 1, row 2, [], row 3]), ([], .execute 1 "W ?" (row 4)),
      ([.fail .commit], .commit 0), ([.clear .commit], .setAutoCommit 0 true),
      ([], .setAutoCommit 1 false), ([], .execute 1 "W ?" (row 5)), ([], .close 1),
      ([], .executePrepared 0 (row 6))]
    ∃ seen handles db, Does (Handles.observe .self ⟨[], []⟩ plan) .empty (seen, handles) db ∧
      (∀ front n after back, seen = front ++ (n, after) :: back →
        ∀ sql, after.committedRows sql =
          (Log.empty.replay (front.map Prod.fst ++ [n])).committedRows sql) ∧
      seen.map (fun x => (x.1.answer.isOk, x.1.executed, numbers x.2)) =
        [(true, 0, []), (true, 0, []), (true, 0, []), (true, 0, []), (false, 2, []),
          (true, 1, [4]), (false, 0, [4]), (true, 0, [4, 1, 2]), (true, 0, [4, 1, 2]),
          (true, 1, [4, 1, 2]), (true, 0, [4, 1, 2]), (true, 1, [4, 1, 2, 6])] := by
  intro row numbers plan
  have hseen : ((Handles.observe .self ⟨[], []⟩ plan).run ⟨Database.empty, #[]⟩).1.1.map
      (fun x => (x.1.answer.isOk, x.1.executed, numbers x.2)) =
        [(true, 0, []), (true, 0, []), (true, 0, []), (true, 0, []), (false, 2, []),
          (true, 1, [4]), (false, 0, [4]), (true, 0, [4, 1, 2]), (true, 0, [4, 1, 2]),
          (true, 1, [4, 1, 2]), (true, 0, [4, 1, 2]), (true, 1, [4, 1, 2, 6])] := by
    decide +kernel
  obtain ⟨seen, handles, db, hobserve, hall, _⟩ :=
    committed_rows_are_replayed (f := .self) Database.empty plan
  have hrun : Does (Handles.observe .self ⟨[], []⟩ plan) Database.empty (seen, handles) db :=
    hobserve
  rw [(hrun.run #[]).1] at hseen
  exact ⟨seen, handles, db, hrun, fun front n after back he => (hall front n after back he).2,
    hseen⟩

end BatchSql.Memory
