import BatchSql.Proofs.Write.Lifecycle

namespace BatchSql
open Memory

/-- What `batches` batches of `rows` rows together add to the counters of the database. -/
def Memory.Stats.advance (s : Stats) (batches rows : Nat) : Stats :=
  { s with
    batchExecutions := s.batchExecutions + batches
    statementsExecuted := s.statementsExecuted + rows
    commits := s.commits + batches }

/-- What `elements` elements add to the counters of a worker, if `committed` of them went through
in `batches` batches. -/
def WriteStats.advance (s : WriteStats) (elements batches committed : Nat) : WriteStats :=
  { s with
    elements := s.elements + elements
    elementsCommitted := s.elementsCommitted + committed
    batches := s.batches + batches
    commits := s.commits + batches }

/-- What a worker was set up for. -/
structure Job (τ : Type) where
  seat : Seat
  setter : ParameterSetter τ
  batchSize : Nat

/-- In how many batches elements are written, of which the last may be smaller. -/
def batchCount (size n : Nat) : Nat :=
  (n + size - 1) / size

/-- Of `n` elements, the `done` first are `batches` whole batches, and no more whole ones are
left. -/
structure Whole (size n batches done : Nat) : Prop where
  done_eq : done = size * batches
  reached : done ≤ n
  room : n < done + size

namespace Whole

variable {size n batches done : Nat}

theorem zero (h : 0 < size) : Whole size 0 0 0 :=
  ⟨rfl, Nat.le_refl 0, by omega⟩

/-- The next element fills no batch. -/
theorem next (h : Whole size n batches done) (hroom : n + 1 - done < size) :
    Whole size (n + 1) batches done := by
  obtain ⟨he, hle, hlt⟩ := h
  exact ⟨he, by omega, by omega⟩

/-- The next element fills a batch. -/
theorem full (h : Whole size n batches done) (hfull : size ≤ n + 1 - done) :
    Whole size (n + 1) (batches + 1) (n + 1) := by
  obtain ⟨he, hle, hlt⟩ := h
  refine ⟨?_, Nat.le_refl _, by omega⟩
  rw [Nat.mul_succ, ← he]
  omega

theorem batches_eq (h : Whole size n batches done) : batches = n / size := by
  obtain ⟨he, hle, hlt⟩ := h
  rw [Nat.mul_comm] at he
  symm
  apply Nat.div_eq_of_lt_le
  · omega
  · rw [Nat.succ_mul]
    omega

theorem done_eq_div (h : Whole size n batches done) : done = size * (n / size) := by
  rw [← h.batches_eq]
  exact h.done_eq

/-- The rest goes in a batch of its own. -/
theorem batchCount_of_rest (h : Whole size n batches done) (hrest : done < n) :
    batches + 1 = batchCount size n := by
  obtain ⟨he, hle, hlt⟩ := h
  rw [Nat.mul_comm] at he
  symm
  apply Nat.div_eq_of_lt_le
  · rw [Nat.succ_mul]
    omega
  · rw [Nat.succ_mul, Nat.succ_mul]
    omega

theorem batchCount_of_done (h : Whole size n batches n) : batches = batchCount size n := by
  obtain ⟨he, hle, hlt⟩ := h
  rw [Nat.mul_comm] at he
  symm
  apply Nat.div_eq_of_lt_le
  · omega
  · rw [Nat.succ_mul]
    omega

end Whole

namespace WriteWorker

variable {σ τ : Type} {f : Focus σ Database} {job : Job τ} {s₀ : WriteStats}
  {w : WriteWorker σ τ} {db₀ db : Database} {rows : List (List Value)} {batches done : Nat} {x : τ}
  {row : List Value}

/-- A worker at its seat. What is staged there will be rolled back. -/
structure Seated (f : Focus σ Database) (job : Job τ) (w : WriteWorker σ τ) (db : Database) :
    Prop where
  hold : w.hold = some (job.seat.hold f)
  isOpen : w.state ≠ .closed
  setter : w.setter = job.setter
  batchSize : w.batchSize = job.batchSize
  staged : ∃ staged, job.seat.Open db staged ∧ (w.needsRollback = false → staged = [])

/-- A worker that was just set up has nothing to roll back. -/
theorem seated_fresh (f : Focus σ Database) (db : Database) (username : Option String)
    (sql : String) (setter : ParameterSetter τ) (size : Nat) :
    Seated f ⟨db.nextSeat sql, setter, size⟩ (fresh f (db.nextSeat sql) setter size)
      (db.engaged username sql) where
  hold := rfl
  isOpen := by simp [fresh]
  setter := rfl
  batchSize := rfl
  staged := ⟨[], db.open_engaged username sql, fun _ => rfl⟩

/-- How far a bundle has come since it began, when `s₀` was counted and `db₀` was there: of the
rows of its elements, `done` are committed in `batches` batches, and the others are pending. -/
structure Underway (f : Focus σ Database) (job : Job τ) (s₀ : WriteStats) (db₀ : Database)
    (rows : List (List Value)) (batches done : Nat) (w : WriteWorker σ τ) (db : Database) :
    Prop extends Seated f job w db where
  clean : w.needsRollback = false
  bound : w.bundleElements = rows.length
  pending : w.pending = rows.drop done
  stats : w.stats = s₀.advance rows.length batches done
  committed : db.committed = db₀.committed ++ (rows.take done).map (entry job.seat.sql)
  counted : db.stats = db₀.stats.advance batches done

theorem Seated.nothing_staged (h : Seated f job w db) (hr : w.needsRollback = false) :
    job.seat.Open db [] := by
  obtain ⟨staged, ho, he⟩ := h.staged
  rwa [he hr] at ho

theorem Underway.open (h : Underway f job s₀ db₀ rows batches done w db) : job.seat.Open db [] :=
  h.toSeated.nothing_staged h.clean

theorem Underway.length_pending (h : Underway f job s₀ db₀ rows batches done w db) :
    w.pending.length = rows.length - done := by
  rw [h.pending, List.length_drop]

theorem Underway.pending_ne (h : Underway f job s₀ db₀ rows batches done w db)
    (hdone : done < rows.length) : w.pending ≠ [] := by
  rw [← List.length_pos_iff, h.length_pending]
  omega

/-- A row is taken up and waits. -/
theorem Underway.taking (h : Underway f job s₀ db₀ rows batches done w db)
    (hdone : done ≤ rows.length) (row : List Value) :
    Underway f job s₀ db₀ (rows ++ [row]) batches done (w.taking row) db where
  hold := h.hold
  isOpen := by simp [WriteWorker.taking]
  setter := h.setter
  batchSize := h.batchSize
  staged := h.staged
  clean := h.clean
  bound := by simp [WriteWorker.taking, h.bound]
  pending := by simp [WriteWorker.taking, h.pending, List.drop_append_of_le_length hdone]
  stats := by simp [WriteWorker.taking, h.stats, WriteStats.advance, Nat.add_assoc]
  committed := by rw [h.committed, List.take_append_of_le_length hdone]
  counted := h.counted

/-- The pending rows went through. -/
theorem Underway.flushed (h : Underway f job s₀ db₀ rows batches done w db)
    (hdone : done ≤ rows.length) :
    Underway f job s₀ db₀ rows (batches + 1) rows.length w.flushed
      (db.afterBatch job.seat [] w.pending) where
  hold := h.hold
  isOpen := by simp [WriteWorker.flushed]
  setter := h.setter
  batchSize := h.batchSize
  staged := ⟨[], h.open.afterBatch w.pending, fun _ => rfl⟩
  clean := h.clean
  bound := h.bound
  pending := by simp [WriteWorker.flushed]
  stats := by
    simp only [WriteWorker.flushed, h.stats, h.length_pending, WriteStats.advance, Nat.add_assoc,
      Nat.add_sub_cancel' hdone]
  committed := by
    change db.committed ++ ([] ++ w.pending.map (entry job.seat.sql)) = _
    rw [h.committed, h.pending, List.nil_append, List.append_assoc, ← List.map_append,
      List.take_append_drop, List.take_length]
  counted := by
    change (Stats.commit ∘ Stats.execute w.pending.length ∘ Stats.batch) db.stats = _
    rw [h.counted, h.length_pending]
    simp only [Function.comp, Stats.commit, Stats.execute, Stats.batch, Stats.advance,
      Nat.add_assoc, Nat.add_sub_cancel' hdone]

/-- The pending rows are lost to the bundle. -/
theorem Underway.spoiled (h : Underway f job s₀ db₀ rows batches done w db)
    (part : List (List Value)) : Seated f job w.spoiled (db.afterPart job.seat [] part) where
  hold := h.hold
  isOpen := by simp [WriteWorker.spoiled]
  setter := h.setter
  batchSize := h.batchSize
  staged := ⟨_, h.open.afterPart part, by simp [WriteWorker.spoiled]⟩

theorem Underway.process_refused (h : Underway f job s₀ db₀ rows batches done w db) {e : Error}
    (hx : job.setter.row x = .error e) (s : σ) :
    Does (w.process x) s (.error (.parameterBind rows.length e), w) s := by
  rw [← h.setter] at hx
  rw [← h.bound]
  exact WriteWorker.process_refused h.isOpen hx s

theorem Underway.process_taking (h : Underway f job s₀ db₀ rows batches done w db)
    (hx : job.setter.row x = .ok row) (hroom : rows.length - done + 1 < job.batchSize) (s : σ) :
    Does (w.process x) s (.ok (), w.taking row) s := by
  rw [← h.setter] at hx
  rw [← h.length_pending, ← h.batchSize] at hroom
  exact WriteWorker.process_taking h.isOpen hx hroom s

theorem Underway.process_full (h : Underway f job s₀ db₀ rows batches done w db)
    (hx : job.setter.row x = .ok row) (hfull : job.batchSize ≤ rows.length - done + 1) {s s' : σ}
    {r : Except Error Unit × WriteWorker σ τ} (hflush : Does (w.taking row).flush s r s') :
    Does (w.process x) s r s' := by
  rw [← h.setter] at hx
  rw [← h.length_pending, ← h.batchSize] at hfull
  exact WriteWorker.process_full h.isOpen hx hfull hflush

section Database

variable [f.Lawful] (world : σ)

theorem Underway.flush_ok (h : Underway f job s₀ db₀ rows batches done w db)
    (hdone : done < rows.length) (ha : db.Accepts job.seat w.pending) :
    Does w.flush (f.set db world) (.ok (), w.flushed)
      (f.set (db.afterBatch job.seat [] w.pending) world) :=
  flush_of_attempt h.hold (h.pending_ne hdone) (attempt_ok world h.open ha)

theorem Underway.flush_failing (h : Underway f job s₀ db₀ rows batches done w db)
    (hdone : done < rows.length) (hbad : ¬db.Accepts job.seat w.pending) :
    ∃ e part, Does w.flush (f.set db world)
      (.error (.batchExecution (rows.length - done) e), w.spoiled)
      (f.set (db.afterPart job.seat [] part) world) := by
  cases hv : batchVerdict db.failures job.seat.sql w.pending with
  | ok u => exact absurd (Database.accepts_iff.mpr hv) hbad
  | error e =>
    refine ⟨e, writtenRows db.failures job.seat.sql w.pending, ?_⟩
    rw [← h.length_pending]
    exact flush_of_failed_attempt h.hold (h.pending_ne hdone) (attempt_failing world h.open hv)

/-- An element is taken up where its row, if it fills a batch, is accepted with those that wait. -/
theorem Underway.process_ok (h : Underway f job s₀ db₀ rows batches done w db)
    (hw : Whole job.batchSize rows.length batches done) (hx : job.setter.row x = .ok row)
    (ha : rows.length - done + 1 = job.batchSize → db.Accepts job.seat (w.pending ++ [row])) :
    ∃ batches' done' w' db', Does (w.process x) (f.set db world) (.ok (), w') (f.set db' world) ∧
      Underway f job s₀ db₀ (rows ++ [row]) batches' done' w' db' ∧
      Whole job.batchSize (rows ++ [row]).length batches' done' ∧ db'.failures = db.failures := by
  have hle := hw.reached
  have hlt := hw.room
  have htaken := h.taking hle row
  have hlength : (rows ++ [row]).length = rows.length + 1 := List.length_append
  by_cases hroom : rows.length - done + 1 < job.batchSize
  · exact ⟨batches, done, w.taking row, db, h.process_taking hx hroom _, htaken,
      hlength ▸ hw.next (by omega), rfl⟩
  · have hflush := htaken.flush_ok world (by omega) (ha (by omega))
    exact ⟨batches + 1, _, _, _, h.process_full hx (by omega) hflush, htaken.flushed (by omega),
      hlength ▸ hw.full (by omega), rfl⟩

/-- A batch that is refused when an element fills it is lost to the bundle. -/
theorem Underway.process_failing (h : Underway f job s₀ db₀ rows batches done w db)
    (hx : job.setter.row x = .ok row) (hfull : rows.length - done + 1 = job.batchSize)
    (hle : done ≤ rows.length) (hbad : ¬db.Accepts job.seat (w.pending ++ [row])) :
    ∃ e w' db', Does (w.process x) (f.set db world)
      (.error (.batchExecution job.batchSize e), w') (f.set db' world) ∧
      Seated f job w' db' ∧ db'.committed = db.committed := by
  have htaken := h.taking hle row
  have hlength : (rows ++ [row]).length = rows.length + 1 := List.length_append
  obtain ⟨e, part, hflush⟩ := htaken.flush_failing world (by omega) hbad
  have hcount : (rows ++ [row]).length - done = job.batchSize := by omega
  rw [hcount] at hflush
  exact ⟨e, _, _, h.process_full hx (by omega) hflush, htaken.spoiled part, rfl⟩

/-- A bundle ends with all its rows committed where the rest of them is accepted. -/
theorem Underway.finish_ok (h : Underway f job s₀ db₀ rows batches done w db)
    (hw : Whole job.batchSize rows.length batches done)
    (ha : done < rows.length → db.Accepts job.seat w.pending) :
    ∃ w' db', Does w.finishBundle (f.set db world) (.ok (), w') (f.set db' world) ∧
      Underway f job s₀ db₀ rows (batchCount job.batchSize rows.length) rows.length w' db' ∧
      db'.failures = db.failures := by
  by_cases hrest : done < rows.length
  · rw [← hw.batchCount_of_rest hrest]
    exact ⟨_, _, h.flush_ok world hrest (ha hrest), h.flushed hw.reached, rfl⟩
  · obtain rfl : done = rows.length := Nat.le_antisymm hw.reached (Nat.not_lt.mp hrest)
    rw [← hw.batchCount_of_done]
    have hp : w.pending = [] := by rw [h.pending, List.drop_length]
    exact ⟨w, db, flush_empty hp _, h, rfl⟩

theorem Underway.finish_failing (h : Underway f job s₀ db₀ rows batches done w db)
    (hrest : done < rows.length) (hbad : ¬db.Accepts job.seat w.pending) :
    ∃ e w' db', Does w.finishBundle (f.set db world)
      (.error (.batchExecution (rows.length - done) e), w') (f.set db' world) ∧
      Seated f job w' db' ∧ db'.committed = db.committed := by
  obtain ⟨e, part, hflush⟩ := h.flush_failing world hrest hbad
  exact ⟨e, _, _, hflush, h.spoiled part, rfl⟩

end Database

/-- A bundle begins at a seat where nothing is left of the one before. -/
theorem Seated.begun (h : Seated f job w db) (hr : w.needsRollback = false) (hp : w.pending = []) :
    Underway f job w.stats db [] 0 0 w.begun db where
  hold := h.hold
  isOpen := by simp [WriteWorker.begun]
  setter := h.setter
  batchSize := h.batchSize
  staged := h.staged
  clean := hr
  bound := rfl
  pending := hp
  stats := rfl
  committed := by simp
  counted := rfl

/-- A seat is rolled back. -/
theorem Seated.rolledBack (h : Seated f job w db) :
    Seated f job w.rolledBack ((db.tally .rollback).stage job.seat.session []) where
  hold := h.hold
  isOpen := h.isOpen
  setter := h.setter
  batchSize := h.batchSize
  staged := by
    obtain ⟨staged, ho, _⟩ := h.staged
    exact ⟨[], (ho.tally _).stage [], fun _ => rfl⟩

/-- What failed before leaves no trace in the bundle that begins. -/
theorem Seated.start [f.Lawful] (world : σ) (h : Seated f job w db) :
    ∃ w' db', Does w.startBundle (f.set db world) (.ok (), w') (f.set db' world) ∧
      Underway f job w'.stats db' [] 0 0 w' db' ∧ db'.committed = db.committed := by
  obtain ⟨staged, ho, _⟩ := h.staged
  by_cases hleft : w.needsRollback = true ∨ w.pending ≠ []
  · exact ⟨_, _, startBundle_rollback world h.hold ho hleft, h.rolledBack.begun rfl rfl, rfl⟩
  · rw [not_or, Bool.not_eq_true, Classical.not_not] at hleft
    obtain ⟨hr, hp⟩ := hleft
    exact ⟨_, _, startBundle_clean h.hold hr hp _, h.begun hr hp, rfl⟩

end WriteWorker

end BatchSql
