import BatchSql.Proofs.Write.Bundle

namespace BatchSql
open Memory

/-- A call that a host can make of a worker. -/
inductive Call (τ : Type) where
  | startBundle
  | process (element : τ)
  | flush
  | finishBundle
  | teardown

/-- What a call comes to: its answer and the worker after it, what it adds to the counters of the
database, what it commits, and what is staged after it. -/
structure Outcome (σ τ : Type) where
  answer : Except Error Unit
  worker : WriteWorker σ τ
  tally : Stats → Stats
  published : List Entry
  staged : List Entry

/-- What closing a statement and then its connection comes to where these failures are set. -/
def Memory.closeVerdict (failures : List FailurePoint) : Except Error Unit :=
  if .statementClose ∈ failures then .error FailurePoint.statementClose.error
  else if .connectionClose ∈ failures then .error FailurePoint.connectionClose.error
  else .ok ()

theorem Memory.closeVerdict_eq (db : Database) :
    closeVerdict db.failures =
      (db.verdict .statementClose).bind fun _ => db.verdict .connectionClose := by
  simp only [closeVerdict, Database.verdict]
  split
  · rfl
  · rfl

namespace Memory.Database

/-- The database after a call of a worker at a seat. -/
def after {σ τ : Type} (db : Database) (seat : Seat) (o : Outcome σ τ) : Database :=
  ((db.tally o.tally).publish o.published).stage seat.session o.staged

/-- Nothing was done away from a seat, and nothing that lasts longer than its session. -/
structure Beside (seat : Seat) (db db' : Database) : Prop where
  results : db'.results = db.results
  failures : db'.failures = db.failures
  sessions : ∀ i, i ≠ seat.session → db'.sessions[i]? = db.sessions[i]?
  statements : ∀ i, i ≠ seat.statement → db'.statements[i]? = db.statements[i]?
  sessionCount : db'.sessions.length = db.sessions.length
  statementCount : db'.statements.length = db.statements.length

theorem Beside.refl (seat : Seat) (db : Database) : Beside seat db db :=
  ⟨rfl, rfl, fun _ _ => rfl, fun _ _ => rfl, rfl, rfl⟩

theorem beside_after {σ τ : Type} (db : Database) (seat : Seat) (o : Outcome σ τ) :
    Beside seat db (db.after seat o) :=
  ⟨rfl, rfl, fun _ hi => List.getElem?_set_ne hi.symm, fun _ _ => rfl, List.length_set, rfl⟩

theorem beside_released (db : Database) (seat : Seat) (staged : List Entry) :
    Beside seat db (db.released seat staged) :=
  ⟨rfl, rfl, fun _ hi => List.getElem?_set_ne hi.symm, fun _ hi => List.getElem?_set_ne hi.symm,
    List.length_set, List.length_set⟩

end Memory.Database

namespace WriteWorker

variable {σ τ : Type}

def call (w : WriteWorker σ τ) : Call τ → Step σ (Except Error Unit × WriteWorker σ τ)
  | .startBundle => w.startBundle
  | .process x => w.process x
  | .flush => w.flush
  | .finishBundle => w.finishBundle
  | .teardown => w.teardown

/-- What a flush of an open worker comes to, by the failures set and what is staged. -/
def flushing (failures : List FailurePoint) (sql : String) (staged : List Entry)
    (w : WriteWorker σ τ) : Outcome σ τ :=
  if w.pending.isEmpty then ⟨.ok (), w, id, [], staged⟩
  else
    match batchVerdict failures sql w.pending with
    | .ok _ =>
      ⟨.ok (), w.flushed, .commit ∘ .execute w.pending.length ∘ .batch,
        staged ++ w.pending.map (entry sql), []⟩
    | .error e =>
      let part := writtenRows failures sql w.pending
      ⟨.error (.batchExecution w.pending.length e), w.spoiled, .execute part.length ∘ .batch, [],
        staged ++ part.map (entry sql)⟩

/-- What a call of an open worker comes to, by the failures set and what is staged. It does not
depend on the connection of the worker. -/
def openOutcome (failures : List FailurePoint) (sql : String) (staged : List Entry)
    (w : WriteWorker σ τ) : Call τ → Outcome σ τ
  | .startBundle =>
    if w.needsRollback || !w.pending.isEmpty then
      ⟨.ok (), w.rolledBack.begun, .rollback, [], []⟩
    else ⟨.ok (), w.begun, id, [], staged⟩
  | .process x =>
    match w.setter.row x with
    | .error e => ⟨.error (.parameterBind w.bundleElements e), w, id, [], staged⟩
    | .ok row =>
      if w.batchSize ≤ w.pending.length + 1 then (w.taking row).flushing failures sql staged
      else ⟨.ok (), w.taking row, id, [], staged⟩
  | .flush | .finishBundle => w.flushing failures sql staged
  | .teardown => ⟨closeVerdict failures, w.released, .disconnect ∘ .closeStatement, [], []⟩

/-- What a worker answers that is closed. -/
def closedAnswer : Call τ → Except Error Unit
  | .startBundle | .process _ => .error closedError
  | .flush | .finishBundle | .teardown => .ok ()

/-- What a call comes to, also of a worker that is closed. -/
def outcome (failures : List FailurePoint) (sql : String) (staged : List Entry)
    (w : WriteWorker σ τ) (c : Call τ) : Outcome σ τ :=
  if w.state = .closed then ⟨closedAnswer c, w, id, [], staged⟩
  else w.openOutcome failures sql staged c

/-- What can happen in a flush. -/
inductive Flushes (failures : List FailurePoint) (sql : String) (staged : List Entry)
    (w : WriteWorker σ τ) : Outcome σ τ → Prop where
  | idle (empty : w.pending = []) : Flushes failures sql staged w ⟨.ok (), w, id, [], staged⟩
  | through (waiting : w.pending ≠ []) (verdict : batchVerdict failures sql w.pending = .ok ()) :
      Flushes failures sql staged w
        ⟨.ok (), w.flushed, .commit ∘ .execute w.pending.length ∘ .batch,
          staged ++ w.pending.map (entry sql), []⟩
  | failed {e : Error} {part : List (List Value)} (waiting : w.pending ≠ [])
      (verdict : batchVerdict failures sql w.pending = .error e)
      (written : part = writtenRows failures sql w.pending) :
      Flushes failures sql staged w
        ⟨.error (.batchExecution w.pending.length e), w.spoiled, .execute part.length ∘ .batch, [],
          staged ++ part.map (entry sql)⟩

/-- What can happen in a call of an open worker that is not torn down. -/
inductive Happens (failures : List FailurePoint) (sql : String) (staged : List Entry)
    (w : WriteWorker σ τ) : Call τ → Outcome σ τ → Prop where
  | begun (clean : w.needsRollback = false) (empty : w.pending = []) :
      Happens failures sql staged w .startBundle ⟨.ok (), w.begun, id, [], staged⟩
  | rolledBack (left : w.needsRollback = true ∨ w.pending ≠ []) :
      Happens failures sql staged w .startBundle
        ⟨.ok (), w.rolledBack.begun, .rollback, [], []⟩
  | refused {x : τ} {e : Error} (unbound : w.setter.row x = .error e) :
      Happens failures sql staged w (.process x)
        ⟨.error (.parameterBind w.bundleElements e), w, id, [], staged⟩
  | taken {x : τ} {row : List Value} (bound : w.setter.row x = .ok row)
      (room : w.pending.length + 1 < w.batchSize) :
      Happens failures sql staged w (.process x) ⟨.ok (), w.taking row, id, [], staged⟩
  | filled {x : τ} {row : List Value} {o : Outcome σ τ} (bound : w.setter.row x = .ok row)
      (full : w.batchSize ≤ w.pending.length + 1)
      (flush : Flushes failures sql staged (w.taking row) o) :
      Happens failures sql staged w (.process x) o
  | flush {o : Outcome σ τ} (flush : Flushes failures sql staged w o) :
      Happens failures sql staged w .flush o
  | finishBundle {o : Outcome σ τ} (flush : Flushes failures sql staged w o) :
      Happens failures sql staged w .finishBundle o

theorem flushing_flushes (failures : List FailurePoint) (sql : String) (staged : List Entry)
    (w : WriteWorker σ τ) :
    Flushes failures sql staged w (w.flushing failures sql staged) := by
  rw [flushing]
  split
  · rename_i hp
    exact .idle (List.isEmpty_iff.mp hp)
  · rename_i hp
    have hne : w.pending ≠ [] := fun he => hp (List.isEmpty_iff.mpr he)
    split
    · rename_i hv
      exact .through hne hv
    · rename_i e hv
      exact .failed hne hv rfl

theorem openOutcome_happens (failures : List FailurePoint) (sql : String) (staged : List Entry)
    (w : WriteWorker σ τ) {c : Call τ} (hc : c ≠ .teardown) :
    Happens failures sql staged w c (w.openOutcome failures sql staged c) := by
  cases c with
  | startBundle =>
    rw [openOutcome]
    split
    · rename_i hleft
      exact .rolledBack (by simpa using hleft)
    · rename_i hleft
      have hclean : w.needsRollback = false ∧ w.pending = [] := by simpa using hleft
      exact .begun hclean.1 hclean.2
  | process x =>
    rw [openOutcome]
    split
    · rename_i e hx
      exact .refused hx
    · rename_i row hx
      split
      · rename_i hfull
        exact .filled hx hfull (flushing_flushes failures sql staged (w.taking row))
      · rename_i hroom
        exact .taken hx (Nat.not_le.mp hroom)
  | flush => exact .flush (flushing_flushes failures sql staged w)
  | finishBundle => exact .finishBundle (flushing_flushes failures sql staged w)
  | teardown => exact absurd rfl hc

/-- What can come of a call. -/
inductive Comes (failures : List FailurePoint) (sql : String) (staged : List Entry)
    (w : WriteWorker σ τ) (c : Call τ) : Outcome σ τ → Prop where
  | closed (isClosed : w.state = .closed) :
      Comes failures sql staged w c ⟨closedAnswer c, w, id, [], staged⟩
  | tornDown (isOpen : w.state ≠ .closed) (teardown : c = .teardown) :
      Comes failures sql staged w c
        ⟨closeVerdict failures, w.released, .disconnect ∘ .closeStatement, [], []⟩
  | happens {o : Outcome σ τ} (isOpen : w.state ≠ .closed)
      (happens : Happens failures sql staged w c o) : Comes failures sql staged w c o

theorem outcome_comes (failures : List FailurePoint) (sql : String) (staged : List Entry)
    (w : WriteWorker σ τ) (c : Call τ) :
    Comes failures sql staged w c (w.outcome failures sql staged c) := by
  rw [outcome]
  split
  · rename_i hclosed
    exact .closed hclosed
  · rename_i hopen
    by_cases hc : c = .teardown
    · subst hc
      exact .tornDown hopen rfl
    · exact .happens hopen (openOutcome_happens failures sql staged w hc)

/-- What a call leaves as it was, short of a teardown. -/
structure Keeps (w w' : WriteWorker σ τ) : Prop where
  hold : w'.hold = w.hold
  setter : w'.setter = w.setter
  batchSize : w'.batchSize = w.batchSize
  isOpen : w.state ≠ .closed → w'.state ≠ .closed

section Happens

variable {failures : List FailurePoint} {sql : String} {staged : List Entry} {w : WriteWorker σ τ}
  {c : Call τ} {o : Outcome σ τ}

theorem Flushes.keeps (h : Flushes failures sql staged w o) : Keeps w o.worker := by
  cases h with
  | idle hp => exact ⟨rfl, rfl, rfl, id⟩
  | through hp hv => exact ⟨rfl, rfl, rfl, by simp [flushed]⟩
  | failed hp hv hpart => exact ⟨rfl, rfl, rfl, by simp [spoiled]⟩

theorem Happens.keeps (h : Happens failures sql staged w c o) : Keeps w o.worker := by
  cases h with
  | begun hr hp => exact ⟨rfl, rfl, rfl, by simp [WriteWorker.begun]⟩
  | rolledBack hleft => exact ⟨rfl, rfl, rfl, by simp [WriteWorker.begun]⟩
  | refused hx => exact ⟨rfl, rfl, rfl, id⟩
  | taken hx hroom => exact ⟨rfl, rfl, rfl, by simp [taking]⟩
  | filled hx hfull hflush =>
    obtain ⟨hhold, hsetter, hsize, hopen⟩ := hflush.keeps
    exact ⟨hhold, hsetter, hsize, fun _ => hopen (by simp [taking])⟩
  | flush hflush => exact hflush.keeps
  | finishBundle hflush => exact hflush.keeps

theorem Flushes.clean (h : Flushes failures sql staged w o)
    (hclean : w.needsRollback = false → staged = []) :
    o.worker.needsRollback = false → o.staged = [] := by
  cases h with
  | idle hp => exact hclean
  | through hp hv => exact fun _ => rfl
  | failed hp hv hpart => exact fun hr => absurd hr (by simp [spoiled])

/-- A worker that has nothing to roll back has nothing staged. -/
theorem Happens.clean (h : Happens failures sql staged w c o)
    (hclean : w.needsRollback = false → staged = []) :
    o.worker.needsRollback = false → o.staged = [] := by
  cases h with
  | begun hr hp => exact hclean
  | rolledBack hleft => exact fun _ => rfl
  | refused hx => exact hclean
  | taken hx hroom => exact hclean
  | filled hx hfull hflush => exact hflush.clean hclean
  | flush hflush => exact hflush.clean hclean
  | finishBundle hflush => exact hflush.clean hclean

theorem Comes.setter (h : Comes failures sql staged w c o) : o.worker.setter = w.setter := by
  cases h with
  | closed hclosed => rfl
  | tornDown hopen hc => rfl
  | happens hopen hhappens => exact hhappens.keeps.setter

theorem Comes.clean (h : Comes failures sql staged w c o)
    (hclean : w.needsRollback = false → staged = []) :
    o.worker.needsRollback = false → o.staged = [] := by
  cases h with
  | closed hclosed => exact hclean
  | tornDown hopen hc => exact fun _ => rfl
  | happens hopen hhappens => exact hhappens.clean hclean

/-- A worker that is open after a call was open before, and was not torn down. -/
theorem Comes.happened (h : Comes failures sql staged w c o) (ho : o.worker.state ≠ .closed) :
    w.state ≠ .closed ∧ Happens failures sql staged w c o := by
  cases h with
  | closed hclosed => exact absurd hclosed ho
  | tornDown hopen hc => exact absurd rfl ho
  | happens hopen hhappens => exact ⟨hopen, hhappens⟩

theorem Flushes.emptied (h : Flushes failures sql staged w o) : o.worker.pending = [] := by
  cases h with
  | idle hp => exact hp
  | through hp hv => rfl
  | failed hp hv hpart => rfl

end Happens

/-- A worker at a seat, with what is staged there, or one that is closed. What is staged will be
rolled back. -/
inductive Posted (f : Focus σ Database) (seat : Seat) (w : WriteWorker σ τ) (db : Database)
    (staged : List Entry) : Prop where
  | seated (hold : w.hold = some (seat.hold f)) (isOpen : w.state ≠ .closed)
      (place : seat.Open db staged) (clean : w.needsRollback = false → staged = [])
  | closed (hold : w.hold = none) (isClosed : w.state = .closed) (pending : w.pending = [])
      (staged : staged = [])

variable {f : Focus σ Database} {seat : Seat} {db : Database} {staged : List Entry}
  {w : WriteWorker σ τ}

theorem posted_fresh (f : Focus σ Database) (db : Database) (username : Option String)
    (sql : String) (setter : ParameterSetter τ) (size : Nat) :
    Posted f (db.nextSeat sql) (fresh f (db.nextSeat sql) setter size)
      (db.engaged username sql) [] :=
  .seated rfl (by simp [fresh]) (db.open_engaged username sql) fun _ => rfl

/-- What was done elsewhere does not move a worker. -/
theorem Posted.elsewhere {db' : Database} (h : Posted f seat w db staged)
    (hsession : db'.sessions[seat.session]? = db.sessions[seat.session]?)
    (hstatement : db'.statements[seat.statement]? = db.statements[seat.statement]?) :
    Posted f seat w db' staged := by
  cases h with
  | seated hhold hopen hplace hclean =>
    exact .seated hhold hopen ⟨hsession.trans hplace.session, hstatement.trans hplace.statement⟩
      hclean
  | closed hhold hclosed hp hstaged => exact .closed hhold hclosed hp hstaged

/-- A call of a closed worker does nothing, in any world. -/
theorem call_closed (hw : w.hold = none) (hs : w.state = .closed) (hp : w.pending = [])
    (c : Call τ) (s : σ) : Does (w.call c) s (closedAnswer c, w) s := by
  cases c with
  | startBundle =>
    rw [call, startBundle, hw]
    exact Does.pure _ s
  | process x =>
    rw [call, process, if_pos hs]
    exact Does.pure _ s
  | flush => exact flush_empty hp s
  | finishBundle => exact flush_empty hp s
  | teardown =>
    rw [call, teardown, if_pos hs]
    exact Does.pure _ s

section Open

theorem does_nothing {o : Outcome σ τ} {m : Step σ (Except Error Unit × WriteWorker σ τ)}
    (world : σ) (ho : seat.Open db staged) (ht : o.tally = id) (hp : o.published = [])
    (hs : o.staged = staged)
    (h : Does m (f.set db world) (o.answer, o.worker) (f.set db world)) :
    Does m (f.set db world) (o.answer, o.worker) (f.set (db.after seat o) world) := by
  have hsame : db.after seat o = db := by
    rw [Database.after, ht, hp, hs, Database.publish_nil]
    exact Database.stage_self ho.session
  rwa [hsame]

variable [f.Lawful] (world : σ)

theorem flush_does (hw : w.hold = some (seat.hold f)) (ho : seat.Open db staged) :
    Does w.flush (f.set db world)
      ((w.flushing db.failures seat.sql staged).answer,
        (w.flushing db.failures seat.sql staged).worker)
      (f.set (db.after seat (w.flushing db.failures seat.sql staged)) world) := by
  rw [flushing]
  split
  · rename_i hp
    exact does_nothing world ho rfl rfl rfl (flush_empty (List.isEmpty_iff.mp hp) _)
  · rename_i hp
    have hne : w.pending ≠ [] := fun he => hp (List.isEmpty_iff.mpr he)
    split
    · rename_i hv
      have hok := attempt_ok (f := f) world ho (Database.accepts_iff.mpr hv)
      exact flush_of_attempt hw hne hok
    · rename_i e hv
      rw [Database.after, Database.publish_nil]
      exact flush_of_failed_attempt hw hne (attempt_failing world ho hv)

/-- A call of an open worker that is not torn down stays at its seat. -/
theorem call_does (hw : w.hold = some (seat.hold f)) (hopen : w.state ≠ .closed)
    (ho : seat.Open db staged) {c : Call τ} (hc : c ≠ .teardown) :
    Does (w.call c) (f.set db world)
      ((w.openOutcome db.failures seat.sql staged c).answer,
        (w.openOutcome db.failures seat.sql staged c).worker)
      (f.set (db.after seat (w.openOutcome db.failures seat.sql staged c)) world) := by
  cases c with
  | startBundle =>
    rw [openOutcome]
    split
    · rename_i hleft
      rw [Database.after, Database.publish_nil]
      exact startBundle_rollback world hw ho (by simpa using hleft)
    · rename_i hleft
      have hclean : w.needsRollback = false ∧ w.pending = [] := by simpa using hleft
      exact does_nothing world ho rfl rfl rfl (startBundle_clean hw hclean.1 hclean.2 _)
  | process x =>
    rw [openOutcome]
    split
    · rename_i e hx
      exact does_nothing world ho rfl rfl rfl (process_refused hopen hx _)
    · rename_i row hx
      split
      · rename_i hfull
        exact process_full hopen hx hfull (flush_does (w := w.taking row) world hw ho)
      · rename_i hroom
        exact does_nothing world ho rfl rfl rfl
          (process_taking hopen hx (Nat.not_le.mp hroom) _)
  | flush => exact flush_does world hw ho
  | finishBundle => exact flush_does world hw ho
  | teardown => exact absurd rfl hc

/-- A call answers, is counted and leaves the worker as its outcome says, and does nothing away from
the seat of the worker. -/
theorem Posted.call (h : Posted f seat w db staged) (c : Call τ) :
    let o := w.outcome db.failures seat.sql staged c
    ∃ db', Does (w.call c) (f.set db world) (o.answer, o.worker) (f.set db' world) ∧
      Posted f seat o.worker db' o.staged ∧ db'.committed = db.committed ++ o.published ∧
      Database.Beside seat db db' ∧ db'.stats = o.tally db.stats := by
  intro o
  cases h with
  | closed hhold hclosed hp hstaged =>
    have ho : o = ⟨closedAnswer c, w, id, [], staged⟩ := if_pos hclosed
    rw [ho]
    exact ⟨db, call_closed hhold hclosed hp c _, .closed hhold hclosed hp hstaged,
      (List.append_nil _).symm, .refl seat db, rfl⟩
  | seated hhold hopen hplace hclean =>
    have ho : o = w.openOutcome db.failures seat.sql staged c := if_neg hopen
    rw [ho]
    by_cases hc : c = .teardown
    · subst hc
      have hdone := teardown_open (f := f) world hhold hopen hplace
      rw [← closeVerdict_eq] at hdone
      exact ⟨db.released seat staged, hdone, .closed rfl rfl rfl rfl, (List.append_nil _).symm,
        Database.beside_released db seat staged, rfl⟩
    · have hhappens := openOutcome_happens db.failures seat.sql staged w hc
      obtain ⟨hhold', _, _, hopen'⟩ := hhappens.keeps
      refine ⟨_, call_does world hhold hopen hplace hc, ?_, rfl, Database.beside_after db seat _,
        rfl⟩
      exact .seated (hhold'.trans hhold) (hopen' hopen)
        (((hplace.tally _).publish _).stage _) (hhappens.clean hclean)

end Open

end WriteWorker

end BatchSql
