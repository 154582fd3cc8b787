import Mathlib.Data.List.TakeWhile
import BatchSql.Memory.Connection
import BatchSql.Proofs.Memory.Actions
import BatchSql.Write

namespace BatchSql
open Memory

/-- The row of an element: the values that its parameters are bound to. -/
def ParameterSetter.row {τ : Type} (setter : ParameterSetter τ) (element : τ) :
    Except Error (List Value) :=
  (setter.bind element).bind Parameters.values

/-- What a worker at a seat holds. -/
def Memory.Seat.hold {σ : Type} (f : Focus σ Database) (seat : Seat) : WriteHold σ :=
  ⟨Memory.connection f seat.session, Memory.statement f seat.sql seat.statement⟩

namespace Memory

/-- What a batch and the commit after it come to where these failures are set. -/
def batchVerdict (failures : List FailurePoint) (sql : String) (rows : List (List Value)) :
    Except Error Unit :=
  if .execute ∈ failures then .error FailurePoint.execute.error
  else
    match rows.find? fun row => row.length ≠ placeholders sql with
    | some row => .error (Action.misfit sql row)
    | none => if .commit ∈ failures then .error FailurePoint.commit.error else .ok ()

/-- The rows of a batch that are written before one of them does not fit. -/
def writtenRows (failures : List FailurePoint) (sql : String) (rows : List (List Value)) :
    List (List Value) :=
  if .execute ∈ failures then [] else rows.takeWhile fun row => row.length = placeholders sql

end Memory

namespace Memory.Database

/-- A batch of the rows would be executed and committed. -/
structure Accepts (db : Database) (seat : Seat) (rows : List (List Value)) : Prop where
  execute : .execute ∉ db.failures
  commit : .commit ∉ db.failures
  fits : ∀ row ∈ rows, seat.Fits row

/-- A batch that is accepted is one that does not fail. -/
theorem accepts_iff {db : Database} {seat : Seat} {rows : List (List Value)} :
    db.Accepts seat rows ↔ batchVerdict db.failures seat.sql rows = .ok () := by
  rw [batchVerdict]
  constructor
  · intro h
    have hfind : rows.find? (fun row => row.length ≠ placeholders seat.sql) = none :=
      List.find?_eq_none.mpr (by simpa [Seat.Fits] using h.fits)
    rw [if_neg h.execute, hfind, if_neg h.commit]
  · intro h
    split at h
    · cases h
    · rename_i he
      split at h
      · cases h
      · rename_i hfind
        split at h
        · cases h
        · rename_i hc
          exact ⟨he, hc, by simpa [Seat.Fits] using List.find?_eq_none.mp hfind⟩

/-- A batch was committed, and with it what was staged. -/
def afterBatch (db : Database) (seat : Seat) (staged : List Entry) (rows : List (List Value)) :
    Database :=
  ((db.tally (.commit ∘ .execute rows.length ∘ .batch)).publish
    (staged ++ rows.map (entry seat.sql))).stage seat.session []

/-- A batch failed after a part of it was written. -/
def afterPart (db : Database) (seat : Seat) (staged : List Entry) (part : List (List Value)) :
    Database :=
  (db.tally (.execute part.length ∘ .batch)).stage seat.session
    (staged ++ part.map (entry seat.sql))

end Memory.Database

section Open

variable {seat : Seat} {db : Database} {staged : List Entry}

theorem Memory.Seat.Open.afterBatch (h : seat.Open db staged) (rows : List (List Value)) :
    seat.Open (db.afterBatch seat staged rows) [] :=
  ((h.tally _).publish _).stage []

theorem Memory.Seat.Open.afterPart (h : seat.Open db staged) (part : List (List Value)) :
    seat.Open (db.afterPart seat staged part) (staged ++ part.map (entry seat.sql)) :=
  (h.tally _).stage _

end Open

namespace WriteWorker

variable {σ τ : Type} {f : Focus σ Database} {s s' : σ} {db : Database}
  {seat : Seat} {staged : List Entry} {w : WriteWorker σ τ} {x : τ} {row : List Value}

/-- A row waits for the next flush. -/
def taking (w : WriteWorker σ τ) (row : List Value) : WriteWorker σ τ :=
  { w with
    pending := w.pending ++ [row]
    bundleElements := w.bundleElements + 1
    state := .accumulating
    stats := { w.stats with elements := w.stats.elements + 1 } }

/-- The pending rows were committed. -/
def flushed (w : WriteWorker σ τ) : WriteWorker σ τ :=
  { w with
    pending := []
    state := .ready
    stats := { w.stats with
      batches := w.stats.batches + 1
      commits := w.stats.commits + 1
      elementsCommitted := w.stats.elementsCommitted + w.pending.length } }

/-- The pending rows were given up, and what is staged must be rolled back. -/
def spoiled (w : WriteWorker σ τ) : WriteWorker σ τ :=
  { w with pending := [], state := .ready, needsRollback := true }

/-- A bundle begins with nothing left of the one before. -/
def begun (w : WriteWorker σ τ) : WriteWorker σ τ :=
  { w with bundleElements := 0, state := .ready }

/-- What was left of the bundle before is rolled back. -/
def rolledBack (w : WriteWorker σ τ) : WriteWorker σ τ :=
  { w with
    pending := []
    needsRollback := false
    stats := { w.stats with rollbacks := w.stats.rollbacks + 1 } }

/-- Executes rows as one batch and commits them. -/
def attempt (f : Focus σ Database) (seat : Seat) (rows : List (List Value)) : Task σ Unit := do
  let _ ← (seat.hold f).statement.executeBatch rows
  (seat.hold f).connection.commit

section Database

variable [f.Lawful] (world : σ)

theorem attempt_ok {rows : List (List Value)} (ho : seat.Open db staged)
    (ha : db.Accepts seat rows) :
    Does (attempt f seat rows).run (f.set db world) (.ok ())
      (f.set (db.afterBatch seat staged rows) world) := by
  have hbatch := does_task_ofState (f := f) world
    (Action.run_batch ho ha.execute ha.fits)
  have hstaged := (ho.tally (.execute rows.length ∘ .batch)).stage
    (staged ++ rows.map (entry seat.sql))
  have hcommit := does_task_ofState (f := f) world
    (Action.run_commit hstaged.session ha.commit)
  have hdone : Does (attempt f seat rows).run _ _ _ := Does.task_bind hbatch hcommit
  rw [Database.tally_stage, Database.tally_tally, Database.publish_stage,
    Database.stage_stage] at hdone
  exact hdone

/-- A batch that fails leaves rows from its front staged, and commits nothing. -/
theorem attempt_failing {rows : List (List Value)} {e : Error} (ho : seat.Open db staged)
    (hbad : batchVerdict db.failures seat.sql rows = .error e) :
    Does (attempt f seat rows).run (f.set db world) (.error e)
      (f.set (db.afterPart seat staged (writtenRows db.failures seat.sql rows)) world) := by
  rw [batchVerdict] at hbad
  rw [writtenRows]
  split at hbad
  · rename_i he
    obtain rfl := Except.error.inj hbad
    have hrun := Action.run_batch_unexecuted rows ho he
    rw [← Database.stage_self (ho.tally .batch).session] at hrun
    rw [if_pos he, Database.afterPart, List.map_nil, List.append_nil]
    exact Does.task_bind_error (does_task_ofState world hrun)
  · rename_i he
    rw [if_neg he]
    split at hbad
    · rename_i row hfind
      obtain rfl := Except.error.inj hbad
      obtain ⟨hrow, fit, rest, rfl, hfit⟩ := List.find?_eq_some_iff_append.mp hfind
      have hfit' : ∀ r ∈ fit, seat.Fits r := by simpa [Seat.Fits] using hfit
      have hrow' : ¬seat.Fits row := by simpa [Seat.Fits] using hrow
      have hfront : (fit ++ row :: rest).takeWhile (fun r => r.length = placeholders seat.sql) =
          fit := by
        rw [List.takeWhile_append_of_pos (by simpa [Seat.Fits] using hfit'),
          List.takeWhile_cons_of_neg (by simpa [Seat.Fits] using hrow'), List.append_nil]
      rw [hfront]
      exact Does.task_bind_error
        (does_task_ofState world (Action.run_batch_misfit rest ho he hfit' hrow'))
    · rename_i hfind
      have hfit : ∀ row ∈ rows, seat.Fits row := by
        simpa [Seat.Fits] using List.find?_eq_none.mp hfind
      have hall : rows.takeWhile (fun r => r.length = placeholders seat.sql) = rows :=
        List.takeWhile_eq_self_iff.mpr (by simpa [Seat.Fits] using hfit)
      split at hbad
      · rename_i hc
        obtain rfl := Except.error.inj hbad
        have hrun := does_task_ofState (f := f) world (Action.run_batch ho he hfit)
        have hstaged := (ho.tally (.execute rows.length ∘ .batch)).stage
          (staged ++ rows.map (entry seat.sql))
        rw [hall]
        exact Does.task_bind hrun (does_task_ofState world
          (Action.run_commit_failing hstaged.session rfl hc))
      · cases hbad

/-- What a failed bundle left behind is gone before the next begins. -/
theorem startBundle_rollback (hw : w.hold = some (seat.hold f)) (ho : seat.Open db staged)
    (hleft : w.needsRollback = true ∨ w.pending ≠ []) :
    Does w.startBundle (f.set db world) (.ok (), w.rolledBack.begun)
      (f.set ((db.tally .rollback).stage seat.session []) world) := by
  obtain ⟨hold, setter, size, pending, count, needs, state, stats⟩ := w
  obtain rfl : hold = some (seat.hold f) := hw
  have hrollback := does_task_ofState (f := f) world (Action.run_rollback ho.session)
  rw [startBundle]
  dsimp only
  rw [if_pos (by simpa using hleft)]
  exact Does.after_log (Does.bind hrollback (Does.pure _ _))

end Database

theorem flush_empty (hp : w.pending = []) (s : σ) : Does w.flush s (.ok (), w) s := by
  rw [flush, if_pos (by simp [hp])]
  exact Does.pure _ s

theorem flush_of_attempt (hw : w.hold = some (seat.hold f)) (hp : w.pending ≠ [])
    (h : Does (attempt f seat w.pending).run s (.ok ()) s') :
    Does w.flush s (.ok (), w.flushed) s' := by
  obtain ⟨hold, setter, size, pending, count, needs, state, stats⟩ := w
  obtain rfl : hold = some (seat.hold f) := hw
  rw [flush, if_neg (by simpa using hp)]
  exact Does.bind h (Does.after_log (Does.pure _ _))

theorem flush_of_failed_attempt (hw : w.hold = some (seat.hold f)) (hp : w.pending ≠ [])
    {e : Error} (h : Does (attempt f seat w.pending).run s (.error e) s') :
    Does w.flush s (.error (.batchExecution w.pending.length e), w.spoiled) s' := by
  obtain ⟨hold, setter, size, pending, count, needs, state, stats⟩ := w
  obtain rfl : hold = some (seat.hold f) := hw
  rw [flush, if_neg (by simpa using hp)]
  exact Does.bind h (Does.after_log (Does.pure _ _))

theorem startBundle_clean (hw : w.hold = some (seat.hold f)) (hr : w.needsRollback = false)
    (hp : w.pending = []) (s : σ) : Does w.startBundle s (.ok (), w.begun) s := by
  obtain ⟨hold, setter, size, pending, count, needs, state, stats⟩ := w
  obtain rfl : hold = some (seat.hold f) := hw
  rw [startBundle]
  dsimp only
  rw [if_neg (by simp_all)]
  exact Does.pure _ s

theorem process_refused (hopen : w.state ≠ .closed) {e : Error} (hx : w.setter.row x = .error e)
    (s : σ) : Does (w.process x) s (.error (.parameterBind w.bundleElements e), w) s := by
  change (w.setter.bind x).bind Parameters.values = .error e at hx
  rw [process, if_neg hopen]
  dsimp only
  rw [hx]
  exact Does.pure _ s

theorem process_taking (hopen : w.state ≠ .closed) (hx : w.setter.row x = .ok row)
    (hroom : w.pending.length + 1 < w.batchSize) (s : σ) :
    Does (w.process x) s (.ok (), w.taking row) s := by
  change (w.setter.bind x).bind Parameters.values = .ok row at hx
  rw [process, if_neg hopen]
  dsimp only
  rw [hx]
  refine Does.after_log ?_
  rw [if_neg (by simpa using hroom)]
  exact Does.pure _ s

/-- The element that fills a batch flushes it. -/
theorem process_full (hopen : w.state ≠ .closed) (hx : w.setter.row x = .ok row)
    (hfull : w.batchSize ≤ w.pending.length + 1) {r : Except Error Unit × WriteWorker σ τ}
    (hflush : Does (w.taking row).flush s r s') : Does (w.process x) s r s' := by
  change (w.setter.bind x).bind Parameters.values = .ok row at hx
  rw [process, if_neg hopen]
  dsimp only
  rw [hx]
  refine Does.after_log ?_
  rw [if_pos (by simpa using hfull)]
  exact hflush

end WriteWorker

end BatchSql
