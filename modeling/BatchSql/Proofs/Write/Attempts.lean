import BatchSql.Proofs.Write.Bundle

namespace BatchSql
open Memory

/-- A bundle as a host runs it, with what is switched before each call. -/
structure Attempt (τ : Type) where
  atStart : List Switch
  items : List (List Switch × τ)
  atFinish : List Switch

def Attempt.elements {τ : Type} (a : Attempt τ) : List τ :=
  a.items.map Prod.snd

/-- How an attempt ended: how many elements were taken up, and what is committed after it. -/
structure Report where
  answer : Except Error Unit
  taken : Nat
  committed : List Entry

namespace WriteWorker

variable {σ τ : Type}

def processEach (f : Focus σ Database) (w : WriteWorker σ τ) : Nat → List (List Switch × τ) →
    Step σ (Except Error Unit × Nat × WriteWorker σ τ)
  | taken, [] => pure (.ok (), taken, w)
  | taken, (switches, x) :: rest => do
    Switch.make f switches
    match ← w.process x with
    | (.ok _, w) => w.processEach f (taken + 1) rest
    | (.error e, w) => pure (.error e, taken, w)

/-- A call that fails ends the attempt. -/
def tryBundle (f : Focus σ Database) (w : WriteWorker σ τ) (a : Attempt τ) :
    Step σ (Except Error Unit × Nat × WriteWorker σ τ) := do
  Switch.make f a.atStart
  match ← w.startBundle with
  | (.error e, w) => pure (.error e, 0, w)
  | (.ok _, w) =>
    match ← w.processEach f 0 a.items with
    | (.error e, taken, w) => pure (.error e, taken, w)
    | (.ok _, taken, w) =>
      Switch.make f a.atFinish
      let (r, w) ← w.finishBundle
      pure (r, taken, w)

/-- An attempt is made and reported. -/
def report (f : Focus σ Database) (w : WriteWorker σ τ) (a : Attempt τ) :
    Step σ (Report × WriteWorker σ τ) := do
  let (r, taken, w) ← w.tryBundle f a
  let db ← Step.ofState f get
  pure (⟨r, taken, db.committed⟩, w)

/-- After an attempt, failed or not, the next begins. -/
def tryBundles (f : Focus σ Database) (w : WriteWorker σ τ) (attempts : List (Attempt τ)) :
    Step σ (List Report × WriteWorker σ τ) :=
  Step.inTurn (report f) w attempts

/-- All that is done with a worker. -/
def serve (f : Focus σ Database) (w : WriteWorker σ τ) (attempts : List (Attempt τ))
    (atTeardown : List Switch) : Step σ (List Report × Except Error Unit) := do
  let (reports, w) ← w.tryBundles f attempts
  Switch.make f atTeardown
  let (r, _) ← w.teardown
  pure (reports, r)

/-- The rows that a bundle has committed when it ends: all of them, those of the whole batches
before an element that is refused, or those before the batch from `a` to `b` that failed, which
the element before `b` had filled or the end of the bundle had cut short. -/
inductive Settles (job : Job τ) (elements : List τ) :
    Nat → Except Error Unit → List (List Value) → Prop where
  | finished {rows : List (List Value)} (bound : elements.map job.setter.row = rows.map .ok) :
      Settles job elements elements.length (.ok ()) rows
  | unbound {rows : List (List Value)} {x : τ} {e : Error} (k : Nat)
      (bound : (elements.take k).map job.setter.row = rows.map .ok)
      (element : elements[k]? = some x) (refused : job.setter.row x = .error e) :
      Settles job elements k (.error (.parameterBind k e))
        (rows.take (job.batchSize * (k / job.batchSize)))
  | refused {rows : List (List Value)} {e : Error} (a b taken : Nat)
      (bound : (elements.take b).map job.setter.row = rows.map .ok)
      (whole : job.batchSize ∣ a) (nonempty : a < b) (inside : b ≤ elements.length)
      (cut : (b = a + job.batchSize ∧ b = taken + 1) ∨
        (b < a + job.batchSize ∧ b = elements.length ∧ b = taken)) :
      Settles job elements taken (.error (.batchExecution (b - a) e)) (rows.take a)

/-- From attempt to attempt, nothing is committed but what each has settled. -/
inductive Accounts (job : Job τ) :
    List Entry → List (Attempt τ) → List Report → List Entry → Prop where
  | nil (committed : List Entry) : Accounts job committed [] [] committed
  | cons {before after : List Entry} {a : Attempt τ} {rest : List (Attempt τ)} {report : Report}
      {reports : List Report} {rows : List (List Value)}
      (settles : Settles job a.elements report.taken report.answer rows)
      (appended : report.committed = before ++ rows.map (entry job.seat.sql))
      (others : Accounts job report.committed rest reports after) :
      Accounts job before (a :: rest) (report :: reports) after

variable {f : Focus σ Database} {job : Job τ} {s₀ : WriteStats} {w : WriteWorker σ τ}
  {db₀ db : Database} {rows : List (List Value)} {batches done : Nat}

theorem Seated.turn (h : Seated f job w db) (switches : List Switch) :
    Seated f job w (switches.foldl Switch.turn db) := by
  obtain ⟨failures, he⟩ := Switch.foldl_turn switches db
  obtain ⟨staged, ho, hs⟩ := h.staged
  rw [he]
  exact ⟨h.hold, h.isOpen, h.setter, h.batchSize, staged, ⟨ho.session, ho.statement⟩, hs⟩

theorem committed_turn (switches : List Switch) (db : Database) :
    (switches.foldl Switch.turn db).committed = db.committed := by
  obtain ⟨failures, he⟩ := Switch.foldl_turn switches db
  rw [he]

theorem Underway.turn (h : Underway f job s₀ db₀ rows batches done w db)
    (switches : List Switch) :
    Underway f job s₀ db₀ rows batches done w (switches.foldl Switch.turn db) := by
  refine ⟨h.toSeated.turn switches, h.clean, h.bound, h.pending, h.stats, ?_, ?_⟩
  · rw [committed_turn]
    exact h.committed
  · obtain ⟨failures, he⟩ := Switch.foldl_turn switches db
    rw [he]
    exact h.counted

/-- A bundle that began with `db₀` has ended, and has committed what it settled. -/
structure Ended (f : Focus σ Database) (job : Job τ) (elements : List τ) (taken : Nat)
    (r : Except Error Unit) (db₀ : Database) (w : WriteWorker σ τ) (db : Database) : Prop
    extends Seated f job w db where
  settled : ∃ rows, Settles job elements taken r rows ∧
    db.committed = db₀.committed ++ rows.map (entry job.seat.sql)

theorem Ended.since {elements : List τ} {taken : Nat} {r : Except Error Unit} {db₁ : Database}
    (h : Ended f job elements taken r db₁ w db) (hkept : db₁.committed = db₀.committed) :
    Ended f job elements taken r db₀ w db := by
  refine ⟨h.toSeated, ?_⟩
  rw [← hkept]
  exact h.settled

variable [f.Lawful] (world : σ)

/-- An element is taken up, or the bundle ends without it. -/
theorem Underway.process_ends (h : Underway f job s₀ db₀ rows batches done w db)
    (hw : Whole job.batchSize rows.length batches done) {front : List τ}
    (hfront : front.map job.setter.row = rows.map .ok) (x : τ) (rest : List τ) :
    (∃ row batches' done' w' db', Does (w.process x) (f.set db world) (.ok (), w')
        (f.set db' world) ∧ job.setter.row x = .ok row ∧
      Underway f job s₀ db₀ (rows ++ [row]) batches' done' w' db' ∧
      Whole job.batchSize (rows ++ [row]).length batches' done') ∨
    ∃ e w' db', Does (w.process x) (f.set db world) (.error e, w') (f.set db' world) ∧
      Ended f job (front ++ x :: rest) rows.length (.error e) db₀ w' db' := by
  have hlength := length_of_map_ok hfront
  cases hx : job.setter.row x with
  | error e =>
    refine .inr ⟨_, w, db, h.process_refused hx _, h.toSeated, rows.take done, ?_, h.committed⟩
    rw [hw.done_eq_div]
    refine .unbound rows.length ?_ ?_ hx
    · rwa [← hlength, List.take_left]
    · rw [← hlength, List.getElem?_append_right (Nat.le_refl _), Nat.sub_self]
      rfl
  | ok row =>
    by_cases ha : rows.length - done + 1 = job.batchSize →
        db.Accepts job.seat (w.pending ++ [row])
    · obtain ⟨_, _, w', db', hdoes, hnext, hwhole, _⟩ := h.process_ok world hw hx ha
      exact .inl ⟨row, _, _, w', db', hdoes, rfl, hnext, hwhole⟩
    · rw [Classical.not_imp] at ha
      obtain ⟨hfull, hbad⟩ := ha
      obtain ⟨hdone, hle, _⟩ := hw
      obtain ⟨e, w', db', hdoes, hseated, hcommitted⟩ := h.process_failing world hx hfull hle hbad
      refine .inr ⟨_, w', db', hdoes, hseated, (rows ++ [row]).take done, ?_, ?_⟩
      · have hb : job.batchSize = rows.length + 1 - done := by omega
        rw [hb]
        refine .refused done (rows.length + 1) rows.length ?_ ⟨batches, hdone⟩ (by omega) ?_
          (.inl ⟨by omega, rfl⟩)
        · rw [← hlength, List.take_length_add_append]
          simp [hfront, hx]
        · simp [hlength]
      · rw [hcommitted, h.committed, List.take_append_of_le_length hle]

/-- The elements that are left are all taken up, or the bundle ends before. -/
theorem Underway.processEach (h : Underway f job s₀ db₀ rows batches done w db)
    (hw : Whole job.batchSize rows.length batches done) {front : List τ}
    (hfront : front.map job.setter.row = rows.map .ok) (items : List (List Switch × τ)) :
    (∃ all batches' done' w' db', Does (w.processEach f rows.length items) (f.set db world)
        (.ok (), all.length, w') (f.set db' world) ∧
      (front ++ items.map Prod.snd).map job.setter.row = all.map .ok ∧
      Underway f job s₀ db₀ all batches' done' w' db' ∧
      Whole job.batchSize all.length batches' done') ∨
    ∃ e taken w' db', Does (w.processEach f rows.length items) (f.set db world)
        (.error e, taken, w') (f.set db' world) ∧
      Ended f job (front ++ items.map Prod.snd) taken (.error e) db₀ w' db' := by
  -- `front` are the elements taken up so far, and `rows` are theirs.
  induction items generalizing rows batches done w db front with
  | nil =>
    refine .inl ⟨rows, batches, done, w, db, Does.pure _ _, ?_, h, hw⟩
    rwa [List.map_nil, List.append_nil]
  | cons item rest ih =>
    obtain ⟨switches, x⟩ := item
    have hmade := Switch.does_make (f := f) switches db world
    rcases (h.turn switches).process_ends world hw hfront x (rest.map Prod.snd) with
      ⟨row, _, _, w', db', hdoes, hx, hnext, hwhole⟩ | ⟨e, w', db', hdoes, hended⟩
    · have hbound : (front ++ [x]).map job.setter.row = (rows ++ [row]).map .ok := by
        simp [hfront, hx]
      have hrest := ih hnext hwhole hbound
      rw [List.length_append, List.append_assoc] at hrest
      rcases hrest with ⟨all, _, _, w'', db'', hloop, hall⟩ | ⟨e, taken, w'', db'', hloop, hended⟩
      · exact .inl ⟨all, _, _, w'', db'', hmade.bind (hdoes.bind hloop), hall⟩
      · exact .inr ⟨e, taken, w'', db'', hmade.bind (hdoes.bind hloop), hended⟩
    · exact .inr ⟨e, _, w', db', hmade.bind (hdoes.bind (Does.pure _ _)), hended⟩

theorem Underway.finish_ends (h : Underway f job s₀ db₀ rows batches done w db)
    (hw : Whole job.batchSize rows.length batches done) {elements : List τ}
    (hbound : elements.map job.setter.row = rows.map .ok) :
    ∃ r w' db', Does w.finishBundle (f.set db world) (r, w') (f.set db' world) ∧
      Ended f job elements rows.length r db₀ w' db' := by
  have hlength := length_of_map_ok hbound
  by_cases ha : done < rows.length → db.Accepts job.seat w.pending
  · obtain ⟨w', db', hdoes, hdone, _⟩ := h.finish_ok world hw ha
    refine ⟨_, w', db', hdoes, hdone.toSeated, rows, ?_, ?_⟩
    · rw [← hlength]
      exact .finished hbound
    · rw [hdone.committed, List.take_length]
  · rw [Classical.not_imp] at ha
    obtain ⟨hrest, hbad⟩ := ha
    obtain ⟨hdone, _, hlt⟩ := hw
    obtain ⟨e, w', db', hdoes, hseated, hcommitted⟩ := h.finish_failing world hrest hbad
    refine ⟨_, w', db', hdoes, hseated, rows.take done, ?_, ?_⟩
    · refine .refused done rows.length rows.length ?_ ⟨batches, hdone⟩ hrest
        (Nat.le_of_eq hlength.symm) (.inr ⟨hlt, hlength.symm, rfl⟩)
      rwa [← hlength, List.take_length]
    · rw [hcommitted, h.committed]

theorem Seated.tryBundle (h : Seated f job w db) (hsize : 0 < job.batchSize) (a : Attempt τ) :
    ∃ r taken w' db', Does (w.tryBundle f a) (f.set db world) (r, taken, w') (f.set db' world) ∧
      Ended f job a.elements taken r db w' db' := by
  have hmade := Switch.does_make (f := f) a.atStart db world
  obtain ⟨w₁, db₁, hstart, hbegun, hkept⟩ := (h.turn a.atStart).start world
  rw [committed_turn] at hkept
  have hnone : ([] : List τ).map job.setter.row = [].map .ok := rfl
  rcases hbegun.processEach world (.zero hsize) hnone a.items with
    ⟨rows, batches, done, w₂, db₂, hloop, hbound, hall, hwhole⟩ | ⟨e, taken, w₂, db₂, hloop, hended⟩
  · have hfinishing := Switch.does_make (f := f) a.atFinish db₂ world
    obtain ⟨r, w₃, db₃, hfinish, hended⟩ :=
      (hall.turn a.atFinish).finish_ends world hwhole hbound
    exact ⟨r, rows.length, w₃, db₃, hmade.bind (hstart.bind (hloop.bind
      (hfinishing.bind (hfinish.bind (Does.pure _ _))))), hended.since hkept⟩
  · exact ⟨_, taken, w₂, db₂, hmade.bind (hstart.bind (hloop.bind (Does.pure _ _))),
      hended.since hkept⟩

theorem Seated.tryBundles (h : Seated f job w db) (hsize : 0 < job.batchSize)
    (attempts : List (Attempt τ)) :
    ∃ reports w' db', Does (w.tryBundles f attempts) (f.set db world) (reports, w')
        (f.set db' world) ∧
      Accounts job db.committed attempts reports db'.committed ∧ Seated f job w' db' := by
  induction attempts generalizing w db with
  | nil => exact ⟨[], w, db, Does.pure _ _, .nil _, h⟩
  | cons a rest ih =>
    obtain ⟨r, taken, w₁, db₁, hbundle, hended⟩ := h.tryBundle world hsize a
    obtain ⟨rows, hsettles, hcommitted⟩ := hended.settled
    obtain ⟨reports, w₂, db₂, hrest, haccounts, hlast⟩ := ih hended.toSeated
    have hreport : Does (w.report f a) (f.set db world) (⟨r, taken, db₁.committed⟩, w₁)
        (f.set db₁ world) := hbundle.bind ((does_get world).bind (Does.pure _ _))
    exact ⟨⟨r, taken, db₁.committed⟩ :: reports, w₂, db₂,
      hreport.bind (Does.bind hrest (Does.pure _ _)), .cons hsettles hcommitted haccounts, hlast⟩

/-- The teardown commits nothing either. -/
theorem Seated.serve (h : Seated f job w db) (hsize : 0 < job.batchSize)
    (attempts : List (Attempt τ)) (atTeardown : List Switch) :
    ∃ reports r db', Does (w.serve f attempts atTeardown) (f.set db world) (reports, r)
        (f.set db' world) ∧
      Accounts job db.committed attempts reports db'.committed := by
  obtain ⟨reports, w₁, db₁, hbundles, haccounts, hseated⟩ := h.tryBundles world hsize attempts
  have hmade := Switch.does_make (f := f) atTeardown db₁ world
  have hturned := hseated.turn atTeardown
  obtain ⟨staged, ho, _⟩ := hturned.staged
  have hteardown := teardown_open world hturned.hold hturned.isOpen ho
  refine ⟨reports, _, _, hbundles.bind (hmade.bind (hteardown.bind (Does.pure _ _))), ?_⟩
  change Accounts job db.committed attempts reports (atTeardown.foldl Switch.turn db₁).committed
  rwa [committed_turn]

end WriteWorker

/-- However the calls of a worker fail, every bundle given to it commits the rows it has settled,
and nothing else is committed. -/
theorem served_bundles_settle {σ τ : Type} {f : Focus σ Database} [f.Lawful]
    {registry : Registry σ} {c : WriteConnector σ τ} {config : ConnectionConfig σ}
    {db : Database} (world : σ) {s : σ} {w : WriteWorker σ τ} (hc : c.config = some config)
    (hr : Reaches f registry config) (h : Does (c.setup registry).run (f.set db world) (.ok w) s)
    (attempts : List (Attempt τ)) (atTeardown : List Switch) :
    ∃ sql setter reports r db', c.statement = some sql ∧ c.setter = some setter ∧
      Does (w.serve f attempts atTeardown) s (reports, r) (f.set db' world) ∧
      WriteWorker.Accounts ⟨db.nextSeat sql, setter, c.batchSize⟩ db.committed attempts reports
        db'.committed := by
  obtain ⟨sql, setter, username, hs, ht, hsize, rfl, rfl⟩ :=
    WriteConnector.of_setup_ok world hc hr h
  obtain ⟨reports, r, db', hserve, haccounts⟩ :=
    (WriteWorker.seated_fresh f db username sql setter c.batchSize).serve world hsize attempts
      atTeardown
  exact ⟨sql, setter, reports, r, db', hs, ht, hserve, haccounts⟩

/-- An element that is refused, a row of the wrong length, a commit that fails at once, a batch
that fails at its last element, and a bundle cut short by a commit. -/
theorem served_bundles_settle_mixed :
    let setter : ParameterSetter Nat := ⟨"ones", fun n =>
      if n = 0 then .error (.query "nothing to write" none)
      else .ok ⟨List.replicate n (some (.int64 1))⟩⟩
    let config : ConnectionConfig Database := .ofSource (dataSource .self)
    let c : WriteConnector Database Nat := ⟨some config, some "SET ?", some setter, 2⟩
    let w : WriteWorker Database Nat := .fresh .self ⟨"SET ?", 0, 0⟩ setter 2
    let s : Database := Database.empty.engaged none "SET ?"
    let attempts : List (Attempt Nat) := [
      ⟨[], [([], 1), ([], 1), ([], 0)], []⟩,
      ⟨[], [([], 1), ([], 2)], []⟩,
      ⟨[.fail .commit], [([], 1), ([.clear .commit, .fail .execute], 1)], []⟩,
      ⟨[.clear .execute], [([], 1), ([], 1), ([], 1)], [.fail .commit]⟩,
      ⟨[.clear .commit], [([], 1)], []⟩]
    (c.config = some config ∧ Reaches .self [] config ∧
      Does (c.setup []).run Database.empty (.ok w) s) ∧
    ∃ sql setter' reports r db', c.statement = some sql ∧ c.setter = some setter' ∧
      Does (w.serve .self attempts []) s (reports, r) db' ∧
      WriteWorker.Accounts ⟨Database.empty.nextSeat sql, setter', 2⟩ [] attempts reports
        db'.committed ∧
      reports.map (fun r => (r.taken, r.committed.length)) =
        [(2, 2), (1, 2), (1, 2), (3, 4), (1, 5)] := by
  intro setter config c w s attempts
  have hreaches : Reaches .self [] config := .source rfl
  have hsetup : Does (c.setup []).run Database.empty (.ok w) s := fun _ => ⟨_, rfl⟩
  have hcounts : ((w.serve .self attempts []).run ⟨s, #[]⟩).1.1.map
      (fun r => (r.taken, r.committed.length)) =
        [(2, 2), (1, 2), (1, 2), (3, 4), (1, 5)] := by decide +kernel
  obtain ⟨sql, setter', reports, r, db', hs, ht, hserve, haccounts⟩ :=
    served_bundles_settle (f := .self) Database.empty rfl hreaches hsetup attempts []
  rw [(hserve.run #[]).1] at hcounts
  exact ⟨⟨rfl, hreaches, hsetup⟩, sql, setter', reports, r, db', hs, ht, hserve, haccounts,
    hcounts⟩

end BatchSql
