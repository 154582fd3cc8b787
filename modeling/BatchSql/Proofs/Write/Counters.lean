import Mathlib.Algebra.GroupWithZero.Nat
import BatchSql.Proofs.Write.Deeds

namespace BatchSql
open Memory

/-- What a host can have a worker do at a time: a call, or a whole bundle. -/
inductive Errand (τ : Type) where
  | call (c : Call τ)
  | writeBundle (elements : List τ)

/-- An errand with what can be read off the worker and its database when it is done, and how many
elements were pending before it. -/
structure Readout (τ : Type) where
  errand : Errand τ
  before : Nat
  answer : Except Error Unit
  state : WorkerState
  pending : Nat
  stats : WriteStats
  counted : Stats

/-- The elements of a batch that failed. -/
def failedElements : Except Error Unit → Nat
  | .error (.batchExecution n _) => n
  | _ => 0

/-- The elements that are dropped when a bundle begins or the worker is torn down: all that were
pending before it. -/
def Errand.dropped {τ : Type} (before : Nat) : Errand τ → Nat
  | .call .startBundle | .call .teardown | .writeBundle _ => before
  | .call (.process _) | .call .flush | .call .finishBundle => 0

/-- How many elements an errand has given up. -/
def Readout.lost {τ : Type} (n : Readout τ) : Nat :=
  failedElements n.answer + n.errand.dropped n.before

namespace Readout

variable {τ : Type}

/-- What is read after the last of these errands. The size is that of the batches, and `start` is
what the database had counted before the first. -/
structure Consistent (size : Nat) (start : Stats) (done : List (Readout τ)) (n : Readout τ) :
    Prop where
  closed : n.state = .closed ↔ ∃ m ∈ done, m.errand = .call .teardown
  accumulating : n.state ≠ .closed → (n.state = .accumulating ↔ 0 < n.pending)
  ready : n.state ≠ .closed → (n.state = .ready ↔ n.pending = 0)
  flushing : n.state ≠ .flushing
  room : n.pending < size
  batches : n.stats.batches = n.stats.commits
  commits : n.counted.commits = start.commits + n.stats.commits
  rollbacks : n.counted.rollbacks = start.rollbacks + n.stats.rollbacks
  least : n.stats.commits ≤ n.stats.elementsCommitted
  most : n.stats.elementsCommitted ≤ size * n.stats.commits
  elements : n.stats.elements = n.stats.elementsCommitted + n.pending + (done.map lost).sum

end Readout

namespace WriteWorker

variable {σ τ : Type}

def run (w : WriteWorker σ τ) : Errand τ → Step σ (Except Error Unit × WriteWorker σ τ)
  | .call c => w.call c
  | .writeBundle elements => w.writeBundle elements

/-- An errand is run and the counters are read after it. -/
def readOut (f : Focus σ Database) (w : WriteWorker σ τ) (e : Errand τ) :
    Step σ (Readout τ × WriteWorker σ τ) := do
  let (r, w') ← w.run e
  let db ← Step.ofState f get
  pure (⟨e, w.pending.length, r, w'.state, w'.pending.length, w'.stats, db.stats⟩, w')

/-- Errands are run one after the other, whatever they answer, with switches turned before each of
them. -/
def observe (f : Focus σ Database) (w : WriteWorker σ τ) (errands : List (List Switch × Errand τ)) :
    Step σ (List (Readout τ) × WriteWorker σ τ) :=
  Step.inTurn (Switch.before f (readOut f)) w errands

variable {failures : List FailurePoint} {sql : String} {staged : List Entry}
  {w : WriteWorker σ τ} {c : Call τ} {o : Outcome σ τ} {start s : Stats} {lost : Nat}

/-- The counters of a worker and of its database, where `lost` elements were given up. -/
structure Tallied (start : Stats) (lost : Nat) (w : WriteWorker σ τ) (s : Stats) : Prop where
  fits : w.pending.length ≤ w.batchSize
  batches : w.stats.batches = w.stats.commits
  commits : s.commits = start.commits + w.stats.commits
  rollbacks : s.rollbacks = start.rollbacks + w.stats.rollbacks
  least : w.stats.commits ≤ w.stats.elementsCommitted
  most : w.stats.elementsCommitted ≤ w.batchSize * w.stats.commits
  elements : w.stats.elements = w.stats.elementsCommitted + w.pending.length + lost

/-- Between two calls a batch has room, and the state of an open worker tells whether anything is
pending. -/
structure Rested (w : WriteWorker σ τ) : Prop where
  room : w.pending.length < w.batchSize
  state : w.state ≠ .closed → w.state = if w.pending = [] then .ready else .accumulating

theorem Tallied.taking (h : Tallied start lost w s) (hroom : w.pending.length < w.batchSize)
    (row : List Value) : Tallied start lost (w.taking row) s := by
  refine ⟨?_, h.batches, h.commits, h.rollbacks, h.least, h.most, ?_⟩
  · rw [WriteWorker.taking, List.length_append]
    exact hroom
  · have helements := h.elements
    simp only [WriteWorker.taking, List.length_append, List.length_singleton]
    omega

/-- A batch that goes through counts one commit and all its elements, and one that fails loses
them. -/
theorem Tallied.flush (h : Tallied start lost w s) (ho : Flushes failures sql staged w o) :
    Tallied start (lost + failedElements o.answer) o.worker (o.tally s) := by
  obtain ⟨hfits, hbatches, hcommits, hrollbacks, hleast, hmost, helements⟩ := h
  cases ho with
  | idle hp => exact ⟨hfits, hbatches, hcommits, hrollbacks, hleast, hmost, helements⟩
  | through hp hv =>
    have hsome : 0 < w.pending.length := List.length_pos_iff.mpr hp
    refine ⟨Nat.zero_le _, ?_, ?_, hrollbacks, ?_, ?_, ?_⟩
    · simp only [flushed, hbatches]
    · simp only [flushed, Function.comp_apply, Stats.commit, Stats.execute, Stats.batch, hcommits]
      omega
    · simp only [flushed]
      omega
    · simp only [flushed, Nat.mul_succ]
      omega
    · simp only [flushed, List.length_nil, failedElements]
      omega
  | failed hp hv hpart =>
    refine ⟨Nat.zero_le _, hbatches, hcommits, hrollbacks, hleast, hmost, ?_⟩
    simp only [spoiled, List.length_nil, failedElements]
    omega

/-- After a flush nothing is pending and the worker is ready. -/
theorem Flushes.rested (h : Flushes failures sql staged w o) (hsize : 0 < w.batchSize)
    (hidle : w.pending = [] → w.state ≠ .closed → w.state = .ready) : o.worker.Rested := by
  have hempty := h.emptied
  refine ⟨?_, fun hopen => ?_⟩
  · rw [hempty, h.keeps.batchSize]
    exact hsize
  · rw [if_pos hempty]
    cases h with
    | idle hp => exact hidle hp hopen
    | through hp hv => rfl
    | failed hp hv hpart => rfl

theorem Rested.flush (h : w.Rested) (ho : Flushes failures sql staged w o) : o.worker.Rested :=
  ho.rested (Nat.zero_lt_of_lt h.room) fun hp hopen => by rw [h.state hopen, if_pos hp]

/-- A call of an open worker keeps the counters in agreement. -/
theorem Happens.tallied (h : Happens failures sql staged w c o) (hr : w.Rested)
    (ht : Tallied start lost w s) :
    o.worker.Rested ∧
      Tallied start (lost + (failedElements o.answer + (Errand.call c).dropped w.pending.length))
        o.worker (o.tally s) := by
  cases h with
  | begun hclean hp =>
    refine ⟨⟨hr.room, fun _ => (if_pos hp).symm⟩, ?_⟩
    rw [hp]
    exact ⟨ht.fits, ht.batches, ht.commits, ht.rollbacks, ht.least, ht.most, ht.elements⟩
  | rolledBack hleft =>
    refine ⟨⟨Nat.zero_lt_of_lt hr.room, fun _ => (if_pos rfl).symm⟩, Nat.zero_le _, ht.batches,
      ht.commits, ?_, ht.least, ht.most, ?_⟩
    · have hrollbacks := ht.rollbacks
      simp only [WriteWorker.begun, WriteWorker.rolledBack, Stats.rollback]
      omega
    · have helements := ht.elements
      simp only [WriteWorker.begun, WriteWorker.rolledBack, Errand.dropped, failedElements,
        List.length_nil]
      omega
  | refused hx => exact ⟨hr, ht⟩
  | @taken x row hx hroom =>
    refine ⟨⟨?_, fun _ => (if_neg (by simp [WriteWorker.taking])).symm⟩, ht.taking hr.room row⟩
    simpa [WriteWorker.taking] using hroom
  | @filled x row o hx hfull hflush =>
    have hidle : (w.taking row).pending = [] → (w.taking row).state ≠ .closed →
        (w.taking row).state = .ready := fun hp => absurd hp (by simp [WriteWorker.taking])
    exact ⟨hflush.rested (Nat.zero_lt_of_lt hr.room) hidle, (ht.taking hr.room row).flush hflush⟩
  | flush hflush => exact ⟨hr.flush hflush, ht.flush hflush⟩
  | finishBundle hflush => exact ⟨hr.flush hflush, ht.flush hflush⟩

/-- Nothing is lost in a closed worker, since nothing is pending in it. -/
theorem lost_closed (c : Call τ) :
    failedElements (closedAnswer c) + (Errand.call c).dropped 0 = 0 := by
  cases c with
  | startBundle => rfl
  | process x => rfl
  | flush => rfl
  | finishBundle => rfl
  | teardown => rfl

theorem failedElements_closeVerdict (failures : List FailurePoint) :
    failedElements (closeVerdict failures) = 0 := by
  rw [closeVerdict]
  split
  · rfl
  · split
    · rfl
    · rfl

theorem Comes.batchSize (h : Comes failures sql staged w c o) :
    o.worker.batchSize = w.batchSize := by
  cases h with
  | closed hclosed => rfl
  | tornDown hopen hc => rfl
  | happens hopen hhappens => exact hhappens.keeps.batchSize

/-- A worker is closed by its teardown and by nothing else, and stays so. -/
theorem Comes.closes (h : Comes failures sql staged w c o) :
    o.worker.state = .closed ↔ w.state = .closed ∨ c = .teardown := by
  cases h with
  | closed hclosed => exact ⟨.inl, fun _ => hclosed⟩
  | tornDown hopen hc => exact ⟨fun _ => .inr hc, fun _ => rfl⟩
  | happens hopen hhappens =>
    refine ⟨fun hclosed => absurd hclosed (hhappens.keeps.isOpen hopen), ?_⟩
    rintro (hclosed | rfl)
    · exact absurd hclosed hopen
    · cases hhappens

theorem Comes.tallied (h : Comes failures sql staged w c o)
    (hp : w.state = .closed → w.pending = []) (hr : w.Rested) (ht : Tallied start lost w s) :
    o.worker.Rested ∧
      Tallied start (lost + (failedElements o.answer + (Errand.call c).dropped w.pending.length))
        o.worker (o.tally s) := by
  cases h with
  | closed hclosed =>
    refine ⟨hr, ?_⟩
    rw [hp hclosed, List.length_nil, lost_closed]
    exact ht
  | tornDown hopen hc =>
    subst hc
    refine ⟨⟨Nat.zero_lt_of_lt hr.room, fun hclosed => absurd rfl hclosed⟩, Nat.zero_le _,
      ht.batches, ht.commits, ht.rollbacks, ht.least, ht.most, ?_⟩
    have helements := ht.elements
    simp only [WriteWorker.released, Errand.dropped, failedElements_closeVerdict, List.length_nil]
    omega
  | happens hopen hhappens => exact hhappens.tallied hr ht

/-- A worker that alone uses its database, between two calls. -/
structure Alone (f : Focus σ Database) (seat : Seat) (start : Stats) (lost : Nat)
    (w : WriteWorker σ τ) (db : Database) : Prop where
  posted : ∃ staged, Posted f seat w db staged
  rested : w.Rested
  tallied : Tallied start lost w db.stats

variable {f : Focus σ Database} {seat : Seat} {db : Database}

theorem alone_fresh (f : Focus σ Database) (db : Database) (username : Option String) (sql : String)
    (setter : ParameterSetter τ) {size : Nat} (hsize : 0 < size) :
    Alone f (db.nextSeat sql) (db.engaged username sql).stats 0
      (fresh f (db.nextSeat sql) setter size) (db.engaged username sql) where
  posted := ⟨[], posted_fresh f db username sql setter size⟩
  rested := ⟨hsize, fun _ => rfl⟩
  tallied := ⟨Nat.zero_le _, rfl, rfl, rfl, Nat.le_refl _, Nat.le_refl _, rfl⟩

theorem Posted.pending_closed (h : Posted f seat w db staged) (hs : w.state = .closed) :
    w.pending = [] := by
  cases h with
  | seated hhold hopen hplace hclean => exact absurd hs hopen
  | closed hhold hclosed hp hstaged => exact hp

theorem Alone.turn (h : Alone f seat start lost w db) (switches : List Switch) :
    Alone f seat start lost w (switches.foldl Switch.turn db) := by
  obtain ⟨⟨staged, hposted⟩, hrested, htallied⟩ := h
  refine ⟨⟨staged, hposted.turn switches⟩, hrested, ?_⟩
  obtain ⟨failures, he⟩ := Switch.foldl_turn switches db
  rw [he]
  exact htallied

section Lawful

variable [f.Lawful] (world : σ)

theorem Alone.call (h : Alone f seat start lost w db) (c : Call τ) :
    ∃ r w' db', Does (w.call c) (f.set db world) (r, w') (f.set db' world) ∧
      Alone f seat start (lost + (failedElements r + (Errand.call c).dropped w.pending.length)) w'
        db' ∧
      w'.batchSize = w.batchSize ∧ (w'.state = .closed ↔ w.state = .closed ∨ c = .teardown) := by
  obtain ⟨⟨staged, hposted⟩, hrested, htallied⟩ := h
  have hcomes := outcome_comes db.failures seat.sql staged w c
  obtain ⟨db', hcall, hposted', _, _, hstats⟩ := hposted.call world c
  obtain ⟨hrested', htallied'⟩ := hcomes.tallied hposted.pending_closed hrested htallied
  rw [← hstats] at htallied'
  exact ⟨_, _, db', hcall, ⟨⟨_, hposted'⟩, hrested', htallied'⟩, hcomes.batchSize, hcomes.closes⟩

/-- Elements are processed up to the first that fails. None are lost before it. -/
theorem Alone.processAll (h : Alone f seat start lost w db) (n : Nat) (xs : List τ) :
    ∃ r done w' db', Does (w.processAll n xs) (f.set db world) (r, done, w') (f.set db' world) ∧
      Alone f seat start (lost + failedElements r) w' db' ∧ w'.batchSize = w.batchSize ∧
      (w'.state = .closed ↔ w.state = .closed) := by
  induction xs generalizing w db n with
  | nil => exact ⟨_, n, w, db, Does.pure _ _, h, rfl, Iff.rfl⟩
  | cons x xs ih =>
    obtain ⟨r, w₁, db₁, hcall, hnext, hsize, hclosed⟩ := h.call world (.process x)
    simp only [Errand.dropped, Nat.add_zero, reduceCtorEq, or_false] at hnext hclosed
    cases r with
    | error e => exact ⟨_, n, w₁, db₁, hcall.bind (Does.pure _ _), hnext, hsize, hclosed⟩
    | ok u =>
      obtain ⟨r, done, w₂, db₂, hrest, hlast, hsize', hclosed'⟩ := ih hnext (n + 1)
      exact ⟨r, done, w₂, db₂, hcall.bind hrest, hlast, hsize'.trans hsize, hclosed'.trans hclosed⟩

/-- A bundle drops what was pending, and loses no more than the batch that it fails with. -/
theorem Alone.writeBundle (h : Alone f seat start lost w db) (xs : List τ) :
    ∃ r w' db', Does (w.writeBundle xs) (f.set db world) (r, w') (f.set db' world) ∧
      Alone f seat start (lost + (failedElements r + w.pending.length)) w' db' ∧
      w'.batchSize = w.batchSize ∧ (w'.state = .closed ↔ w.state = .closed) := by
  obtain ⟨r, w₁, db₁, hstart, hbegun, hsize₁, hclosed₁⟩ := h.call world .startBundle
  simp only [reduceCtorEq, or_false] at hclosed₁
  cases r with
  | error e => exact ⟨_, w₁, db₁, hstart.bind (Does.pure _ _), hbegun, hsize₁, hclosed₁⟩
  | ok u =>
    obtain ⟨r, done, w₂, db₂, hloop, hthrough, hsize₂, hclosed₂⟩ := hbegun.processAll world 0 xs
    have hlost : lost + (failedElements (.ok u) + w.pending.length) + failedElements r =
        lost + (failedElements r + w.pending.length) := by
      simp only [failedElements]
      omega
    replace hthrough := hlost ▸ hthrough
    cases r with
    | error e =>
      exact ⟨_, w₂, db₂, hstart.bind (hloop.bind (Does.pure _ _)), hthrough,
        hsize₂.trans hsize₁, hclosed₂.trans hclosed₁⟩
    | ok u' =>
      obtain ⟨r, w₃, db₃, hfinish, hdone, hsize₃, hclosed₃⟩ := hthrough.call world .finishBundle
      simp only [reduceCtorEq, or_false] at hclosed₃
      have hlost' : lost + (failedElements (.ok u') + w.pending.length) + (failedElements r + 0) =
          lost + (failedElements r + w.pending.length) := by
        simp only [failedElements]
        omega
      exact ⟨r, w₃, db₃, hstart.bind (hloop.bind hfinish), hlost' ▸ hdone,
        hsize₃.trans (hsize₂.trans hsize₁), hclosed₃.trans (hclosed₂.trans hclosed₁)⟩

theorem Alone.run (h : Alone f seat start lost w db) (e : Errand τ) :
    ∃ r w' db', Does (w.run e) (f.set db world) (r, w') (f.set db' world) ∧
      Alone f seat start (lost + (failedElements r + e.dropped w.pending.length)) w' db' ∧
      w'.batchSize = w.batchSize ∧
      (w'.state = .closed ↔ w.state = .closed ∨ e = .call .teardown) := by
  cases e with
  | call c =>
    obtain ⟨r, w', db', hcall, halone, hsize, hclosed⟩ := h.call world c
    exact ⟨r, w', db', hcall, halone, hsize, by rw [hclosed, Errand.call.injEq]⟩
  | writeBundle elements =>
    obtain ⟨r, w', db', hbundle, halone, hsize, hclosed⟩ := h.writeBundle world elements
    exact ⟨r, w', db', hbundle, halone, hsize, by simpa using hclosed⟩

end Lawful

/-- What is read off a worker between two calls is consistent. -/
theorem Alone.consistent {done : List (Readout τ)}
    (h : Alone f seat start (done.map Readout.lost).sum w db)
    (hclosed : w.state = .closed ↔ ∃ m ∈ done, m.errand = .call .teardown) (e : Errand τ)
    (before : Nat) (r : Except Error Unit) :
    Readout.Consistent w.batchSize start done
      ⟨e, before, r, w.state, w.pending.length, w.stats, db.stats⟩ := by
  obtain ⟨_, ⟨hroom, hstate⟩, htallied⟩ := h
  have hempty : w.pending = [] ↔ w.pending.length = 0 := List.length_eq_zero_iff.symm
  refine ⟨hclosed, fun hopen => ?_, fun hopen => ?_, ?_, hroom, htallied.batches, htallied.commits,
    htallied.rollbacks, htallied.least, htallied.most, htallied.elements⟩
  · rw [hstate hopen, Nat.pos_iff_ne_zero, ne_eq, ← hempty]
    split
    · rename_i hp
      simp [hp]
    · rename_i hp
      simp [hp]
  · rw [hstate hopen, ← hempty]
    split
    · rename_i hp
      simp [hp]
    · rename_i hp
      simp [hp]
  · intro hflushing
    change w.state = .flushing at hflushing
    have hopen : w.state ≠ .closed := by simp [hflushing]
    rw [hstate hopen] at hflushing
    split at hflushing
    · cases hflushing
    · cases hflushing

/-- What has been read after errands, and how the worker is left. -/
structure Observed (f : Focus σ Database) (seat : Seat) (size : Nat) (start : Stats)
    (errands : List (List Switch × Errand τ)) (readouts : List (Readout τ)) (w : WriteWorker σ τ)
    (db : Database) : Prop where
  alone : Alone f seat start (readouts.map Readout.lost).sum w db
  closed : w.state = .closed ↔ ∃ m ∈ readouts, m.errand = .call .teardown
  batchSize : w.batchSize = size
  errands : readouts.map Readout.errand = errands.map Prod.snd
  consistent : ∀ front n back, readouts = front ++ n :: back →
    n.Consistent size start (front ++ [n])

theorem observed_fresh (f : Focus σ Database) (db : Database) (username : Option String)
    (sql : String) (setter : ParameterSetter τ) {size : Nat} (hsize : 0 < size) :
    Observed f (db.nextSeat sql) size (db.engaged username sql).stats [] []
      (fresh f (db.nextSeat sql) setter size) (db.engaged username sql) where
  alone := alone_fresh f db username sql setter hsize
  closed := by simp [fresh]
  batchSize := rfl
  errands := rfl
  consistent front n back he := by simp at he

/-- After one more errand all is consistent with those before. -/
theorem Observed.readOut [f.Lawful] (world : σ) {size : Nat}
    {errands : List (List Switch × Errand τ)} {readouts : List (Readout τ)}
    (h : Observed f seat size start errands readouts w db) (item : List Switch × Errand τ) :
    ∃ n w' db', Does (w.readOut f item.2) (f.set (item.1.foldl Switch.turn db) world) (n, w')
        (f.set db' world) ∧
      Observed f seat size start (errands ++ [item]) (readouts ++ [n]) w' db' := by
  obtain ⟨halone, hclosed, rfl, herrands, hconsistent⟩ := h
  obtain ⟨r, w', db', hrun, hnext, hsize, hclosed'⟩ := (halone.turn item.1).run world item.2
  let n : Readout τ :=
    ⟨item.2, w.pending.length, r, w'.state, w'.pending.length, w'.stats, db'.stats⟩
  have hlost : (readouts.map Readout.lost).sum +
      (failedElements r + item.2.dropped w.pending.length) =
        ((readouts ++ [n]).map Readout.lost).sum := by
    simp [n, Readout.lost]
  rw [hlost] at hnext
  have hlast : w'.state = .closed ↔ ∃ m ∈ readouts ++ [n], m.errand = .call .teardown := by
    rw [hclosed', hclosed]
    simp [n, or_and_right, exists_or]
  refine ⟨n, w', db', hrun.bind ((does_get world).bind (Does.pure _ _)), hnext, hlast, hsize, ?_,
    forall_cut_concat hconsistent ?_⟩
  · rw [List.map_append, List.map_append, herrands]
    rfl
  · exact hsize ▸ hnext.consistent hlast item.2 w.pending.length r

end WriteWorker

/-- Whatever a worker is made to do, in whatever order and whatever fails, its state and its
counters tell what became of the elements: they agree with what the database has counted since the
worker was set up, and an element that was bound is committed, pending, or lost with a failed batch
or by being dropped. -/
theorem counters_account_for_all {σ τ : Type} {f : Focus σ Database} [f.Lawful]
    {registry : Registry σ} {c : WriteConnector σ τ} {config : ConnectionConfig σ}
    {db : Database} (world : σ) {s : σ} {w : WriteWorker σ τ} (hc : c.config = some config)
    (hr : Reaches f registry config) (h : Does (c.setup registry).run (f.set db world) (.ok w) s)
    (errands : List (List Switch × Errand τ)) :
    ∃ readouts w' db', Does (w.observe f errands) s (readouts, w') (f.set db' world) ∧
      readouts.map Readout.errand = errands.map Prod.snd ∧
      ∀ front n back, readouts = front ++ n :: back →
        n.Consistent c.batchSize (f.get s).stats (front ++ [n]) := by
  obtain ⟨sql, setter, username, _, _, hsize, rfl, rfl⟩ := WriteConnector.of_setup_ok world hc hr h
  obtain ⟨readouts, w', db', hobserve, hobserved⟩ := Switch.does_inTurn world
    (WriteWorker.readOut f) _
    (fun item (_ : item ∈ errands) _ _ _ _ hobserved => hobserved.readOut world item)
    (WriteWorker.observed_fresh f db username sql setter hsize)
  rw [Focus.Lawful.get_set]
  exact ⟨readouts, w', db', hobserve, hobserved.errands, hobserved.consistent⟩

/-- A batch that fails, an element that is dropped, a bundle of one batch and a half, and a
teardown. -/
theorem counters_account_for_all_lost :
    let setter : ParameterSetter Int64 := ⟨"one value", fun n => .ok ⟨[some (.int64 n)]⟩⟩
    let config : ConnectionConfig Database := .ofSource (dataSource .self)
    let c : WriteConnector Database Int64 := ⟨some config, some "SET ?", some setter, 2⟩
    let w : WriteWorker Database Int64 := .fresh .self ⟨"SET ?", 0, 0⟩ setter 2
    let s : Database := Database.empty.engaged none "SET ?"
    let errands : List (List Switch × Errand Int64) := [([], .call (.process 1)),
      ([.fail .execute], .call .flush), ([.clear .execute], .call (.process 2)),
      ([], .writeBundle [3, 4, 5]), ([], .call (.process 6)), ([], .call .teardown)]
    (c.config = some config ∧ Reaches .self [] config ∧
      Does (c.setup []).run Database.empty (.ok w) s) ∧
    ∃ readouts w' db', Does (w.observe .self errands) s (readouts, w') db' ∧
      (∀ front n back, readouts = front ++ n :: back →
        n.Consistent 2 s.stats (front ++ [n])) ∧
      readouts.map (fun n => (n.state, n.pending, n.stats, n.lost)) =
        [(.accumulating, 1, ⟨1, 0, 0, 0, 0⟩, 0), (.ready, 0, ⟨1, 0, 0, 0, 0⟩, 1),
          (.accumulating, 1, ⟨2, 0, 0, 0, 0⟩, 0), (.ready, 0, ⟨5, 3, 2, 2, 1⟩, 1),
          (.accumulating, 1, ⟨6, 3, 2, 2, 1⟩, 0), (.closed, 0, ⟨6, 3, 2, 2, 1⟩, 1)] := by
  intro setter config c w s errands
  have hreaches : Reaches .self [] config := .source rfl
  have hsetup : Does (c.setup []).run Database.empty (.ok w) s := fun _ => ⟨_, rfl⟩
  have hseen : ((w.observe .self errands).run ⟨s, #[]⟩).1.1.map
      (fun n => (n.state, n.pending, n.stats, n.lost)) =
        [(.accumulating, 1, ⟨1, 0, 0, 0, 0⟩, 0), (.ready, 0, ⟨1, 0, 0, 0, 0⟩, 1),
          (.accumulating, 1, ⟨2, 0, 0, 0, 0⟩, 0), (.ready, 0, ⟨5, 3, 2, 2, 1⟩, 1),
          (.accumulating, 1, ⟨6, 3, 2, 2, 1⟩, 0), (.closed, 0, ⟨6, 3, 2, 2, 1⟩, 1)] := by
    decide +kernel
  obtain ⟨readouts, w', db', hobserve, _, hall⟩ :=
    counters_account_for_all (f := .self) Database.empty rfl hreaches hsetup errands
  rw [(hobserve.run #[]).1] at hseen
  exact ⟨⟨rfl, hreaches, hsetup⟩, readouts, w', db', hobserve, hall, hseen⟩

end BatchSql
