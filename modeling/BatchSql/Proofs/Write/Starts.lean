import BatchSql.Proofs.Write.Counters
import BatchSql.Proofs.Write.Life

namespace BatchSql
open Memory

/-- The writes of a session that its next commit would publish. -/
def Memory.Database.inTransaction (db : Database) (i : Nat) : List Entry :=
  (db.sessions[i]?.map Session.staged).getD []

/-- A call that was made, with the worker and the database before it and after it. -/
structure Scene (σ τ : Type) where
  call : Call τ
  answer : Except Error Unit
  worker : WriteWorker σ τ
  before : Database
  next : WriteWorker σ τ
  after : Database

/-- The calls that an errand makes, up to the first that fails. -/
def Errand.calls {τ : Type} : Errand τ → List (Call τ)
  | .call c => [c]
  | .writeBundle elements => .startBundle :: (elements.map .process ++ [.finishBundle])

namespace WriteWorker

variable {σ τ : Type}

/-- Makes calls up to the first that fails. -/
def callAll (w : WriteWorker σ τ) : List (Call τ) → Step σ (Except Error Unit × WriteWorker σ τ)
  | [] => pure (.ok (), w)
  | c :: rest => do
    match ← w.call c with
    | (.error e, w) => pure (.error e, w)
    | (.ok _, w) => w.callAll rest

/-- Makes a call and sees what was there before it and after it. -/
def enact (f : Focus σ Database) (w : WriteWorker σ τ) (c : Call τ) : Step σ (Scene σ τ) := do
  let before ← Step.ofState f get
  let (r, w') ← w.call c
  let after ← Step.ofState f get
  pure ⟨c, r, w, before, w', after⟩

/-- The same calls, each of them seen. -/
def enactAll (f : Focus σ Database) (w : WriteWorker σ τ) :
    List (Call τ) → Step σ (List (Scene σ τ) × WriteWorker σ τ)
  | [] => pure ([], w)
  | c :: rest => do
    let scene ← w.enact f c
    match scene.answer with
    | .error _ => pure ([scene], scene.next)
    | .ok _ =>
      let (scenes, w) ← scene.next.enactAll f rest
      pure (scene :: scenes, w)

/-- Runs errands one after the other, whatever they answer, with switches turned before each. -/
def runAll (f : Focus σ Database) (w : WriteWorker σ τ) (errands : List (List Switch × Errand τ)) :
    Step σ (List (Except Error Unit) × WriteWorker σ τ) :=
  Step.inTurn (Switch.before f run) w errands

/-- The calls of an errand, each of them seen. -/
def enactErrand (f : Focus σ Database) (w : WriteWorker σ τ) (e : Errand τ) :
    Step σ (List (Scene σ τ) × WriteWorker σ τ) :=
  w.enactAll f e.calls

/-- The same errands, each of their calls seen. -/
def stage (f : Focus σ Database) (w : WriteWorker σ τ) (errands : List (List Switch × Errand τ)) :
    Step σ (List (Scene σ τ) × WriteWorker σ τ) := do
  let (scenes, w) ← Step.inTurn (Switch.before f (enactErrand f)) w errands
  pure (scenes.flatten, w)

theorem callAll_singleton (w : WriteWorker σ τ) (c : Call τ) : w.callAll [c] = w.call c := by
  refine (bind_congr fun p => ?_).trans (bind_pure (w.call c))
  obtain ⟨r, w'⟩ := p
  cases r with
  | error e => rfl
  | ok u => rfl

theorem processAll_callAll (w : WriteWorker σ τ) (elements : List τ) (done : Nat) :
    (do
      match ← w.processAll done elements with
      | (.error e, _, w) => pure (.error e, w)
      | (.ok _, _, w) => w.finishBundle) =
      w.callAll (elements.map .process ++ [.finishBundle]) := by
  induction elements generalizing w done with
  | nil =>
    rw [processAll, pure_bind]
    exact (w.callAll_singleton .finishBundle).symm
  | cons x rest ih =>
    rw [processAll, bind_assoc]
    refine bind_congr fun p => ?_
    obtain ⟨r, w'⟩ := p
    cases r with
    | error e => rfl
    | ok u => exact ih w' (done + 1)

/-- An errand is nothing but its calls. -/
theorem run_eq_callAll (w : WriteWorker σ τ) (e : Errand τ) : w.run e = w.callAll e.calls := by
  cases e with
  | call c => exact (w.callAll_singleton c).symm
  | writeBundle elements =>
    refine bind_congr fun p => ?_
    obtain ⟨r, w'⟩ := p
    cases r with
    | error e => rfl
    | ok u => exact processAll_callAll w' elements 0

end WriteWorker

namespace Scene

variable {σ τ : Type}

/-- What a call has flushed. -/
def batch (s : Scene σ τ) : List (List Value) :=
  s.worker.batch s.call s.next

/-- A bundle was begun. -/
structure Begins (s : Scene σ τ) : Prop where
  call : s.call = .startBundle
  answer : s.answer = .ok ()

/-- Nothing is left of what was done before. -/
structure Clean (session : Nat) (s : Scene σ τ) : Prop where
  transaction : s.after.inTransaction session = []
  pending : s.next.pending = []
  index : s.next.bundleElements = 0
  needsRollback : s.next.needsRollback = false

/-- The next bundle that is begun rolls back what is in the transaction, whatever is switched
before. -/
def RollsBack (f : Focus σ Database) (world : σ) (session : Nat) (s : Scene σ τ) : Prop :=
  ∀ switches : List Switch, ∃ w db, Does s.next.startBundle
      (f.set (switches.foldl Switch.turn s.after) world) (.ok (), w) (f.set db world) ∧
    db.inTransaction session = [] ∧ db.committed = s.after.committed ∧
    db.stats.rollbacks = s.after.stats.rollbacks + 1

/-- What holds of each call of a worker, whatever was done before. -/
structure Fair (f : Focus σ Database) (world : σ) (sql : String) (session : Nat)
    (s : Scene σ τ) : Prop where
  left : s.after.inTransaction session ≠ [] → s.RollsBack f world session
  begins : s.Begins → s.Clean session
  clean : s.answer = .ok () → s.before.inTransaction session = [] →
    s.after.inTransaction session = []
  own : s.before.inTransaction session = [] →
    s.after.committed = s.before.committed ++ s.batch.map (entry sql)

/-- Calls that were made one after the other, by what is in the transaction before the first and
after the last. -/
inductive Plays (f : Focus σ Database) (world : σ) (sql : String) (session : Nat) :
    List Entry → List (Scene σ τ) → List Entry → Prop where
  | nil (staged : List Entry) : Plays f world sql session staged [] staged
  | cons {s : Scene σ τ} {rest : List (Scene σ τ)} {staged : List Entry}
      (fair : s.Fair f world sql session)
      (later : Plays f world sql session (s.after.inTransaction session) rest staged) :
      Plays f world sql session (s.before.inTransaction session) (s :: rest) staged

section Plays

variable {f : Focus σ Database} {world : σ} {sql : String} {session : Nat}
  {scenes more : List (Scene σ τ)} {staged staged' staged'' : List Entry}

theorem Plays.append (h : Plays f world sql session staged scenes staged')
    (hmore : Plays f world sql session staged' more staged'') :
    Plays f world sql session staged (scenes ++ more) staged'' := by
  induction h with
  | nil => exact hmore
  | cons hfair _ ih => exact .cons hfair (ih hmore)

theorem Plays.fair (h : Plays f world sql session staged scenes staged') {s : Scene σ τ}
    (hs : s ∈ scenes) : s.Fair f world sql session := by
  induction h with
  | nil => cases hs
  | cons hfair _ ih =>
    rcases List.mem_cons.mp hs with rfl | hs
    · exact hfair
    · exact ih hs

/-- What was played splits where its scenes do. -/
theorem Plays.split {front back : List (Scene σ τ)}
    (h : Plays f world sql session staged (front ++ back) staged') :
    ∃ mid, Plays f world sql session staged front mid ∧
      Plays f world sql session mid back staged' := by
  induction front generalizing staged with
  | nil => exact ⟨staged, .nil staged, h⟩
  | cons s front ih =>
    cases h with
    | cons hfair hrest =>
      obtain ⟨mid, hfront, hback⟩ := ih hrest
      exact ⟨mid, .cons hfair hfront, hback⟩

/-- As long as no call fails, an empty transaction is empty again after each. -/
theorem Plays.stays_empty (h : Plays f world sql session staged scenes staged')
    (hempty : staged = []) (hok : ∀ s ∈ scenes, s.answer = .ok ()) : staged' = [] := by
  induction h with
  | nil => exact hempty
  | cons hfair _ ih =>
    rw [List.forall_mem_cons] at hok
    exact ih (hfair.clean hok.1 hempty) hok.2

/-- After a bundle has begun, and up to the first call that fails, each call commits its own batch
and nothing else. -/
theorem Plays.own_batch {front mid back : List (Scene σ τ)} {start s : Scene σ τ}
    (h : Plays f world sql session staged (front ++ start :: (mid ++ s :: back)) staged')
    (hstart : start.Begins) (hok : ∀ m ∈ mid, m.answer = .ok ()) :
    s.after.committed = s.before.committed ++ s.batch.map (entry sql) := by
  obtain ⟨_, -, hlater⟩ := h.split
  cases hlater with
  | cons hfair hrest =>
    obtain ⟨last, hmid, hback⟩ := hrest.split
    have hempty := hmid.stays_empty (hfair.begins hstart).transaction hok
    cases hback with
    | cons hfair' _ => exact hfair'.own hempty

end Plays

end Scene

theorem Memory.Seat.Open.inTransaction {seat : Seat} {db : Database} {staged : List Entry}
    (h : seat.Open db staged) : db.inTransaction seat.session = staged := by
  simp [Database.inTransaction, h.session, Session.staging]

/-- A session that is closed has given up what was staged in it. -/
theorem Memory.Seat.Open.inTransaction_released {seat : Seat} {db : Database} {staged : List Entry}
    (h : seat.Open db staged) : (db.released seat staged).inTransaction seat.session = [] := by
  have hlt : seat.session < db.sessions.length := (List.getElem?_eq_some_iff.mp h.session).1
  simp [Database.inTransaction, Database.released, Database.closeSession, Database.closeStatement,
    Database.tally, hlt]

theorem Memory.Database.inTransaction_turn (switches : List Switch) (db : Database) (i : Nat) :
    (switches.foldl Switch.turn db).inTransaction i = db.inTransaction i := by
  obtain ⟨failures, he⟩ := Switch.foldl_turn switches db
  rw [he]
  rfl

namespace WriteWorker

variable {σ τ : Type} {f : Focus σ Database} {seat : Seat} {db : Database} {sql : String}
  {failures : List FailurePoint} {staged : List Entry} {w : WriteWorker σ τ} {c : Call τ}
  {o : Outcome σ τ}

theorem Flushes.stays_empty (h : Flushes failures sql staged w o) (hs : staged = [])
    (hok : o.answer = .ok ()) : o.staged = [] := by
  cases h with
  | idle hp => exact hs
  | through hp hv => rfl
  | failed hp hv hpart => cases hok

/-- Only a call that fails leaves something staged. -/
theorem Comes.stays_empty (h : Comes failures sql staged w c o) (hs : staged = [])
    (hok : o.answer = .ok ()) : o.staged = [] := by
  cases h with
  | closed hclosed => exact hs
  | tornDown hopen hc => rfl
  | happens hopen hhappens =>
    cases hhappens with
    | begun hr hp => exact hs
    | rolledBack hleft => rfl
    | refused hx => exact hs
    | taken hx hroom => exact hs
    | filled hx hfull hflush => exact hflush.stays_empty hs hok
    | flush hflush => exact hflush.stays_empty hs hok
    | finishBundle hflush => exact hflush.stays_empty hs hok

/-- A bundle that is begun finds nothing of what was done before. -/
theorem Comes.begins (h : Comes failures sql staged w .startBundle o)
    (hclean : w.needsRollback = false → staged = []) (hok : o.answer = .ok ()) :
    o.staged = [] ∧ o.worker.pending = [] ∧ o.worker.bundleElements = 0 ∧
      o.worker.needsRollback = false := by
  cases h with
  | closed hclosed => cases hok
  | tornDown hopen hc => cases hc
  | happens hopen hhappens =>
    cases hhappens with
    | begun hr hp => exact ⟨hclean hr, hp, rfl, hr⟩
    | rolledBack hleft => exact ⟨rfl, rfl, rfl, rfl⟩

/-- A worker at a seat, with what is in the transaction there, also after it was closed. -/
structure Minds (f : Focus σ Database) (seat : Seat) (w : WriteWorker σ τ) (db : Database)
    (staged : List Entry) : Prop where
  posted : Posted f seat w db staged
  transaction : db.inTransaction seat.session = staged

theorem minds_fresh (f : Focus σ Database) (db : Database) (username : Option String)
    (sql : String) (setter : ParameterSetter τ) (size : Nat) :
    Minds f (db.nextSeat sql) (fresh f (db.nextSeat sql) setter size)
      (db.engaged username sql) [] :=
  ⟨posted_fresh f db username sql setter size, (db.open_engaged username sql).inTransaction⟩

theorem Minds.turn (h : Minds f seat w db staged) (switches : List Switch) :
    Minds f seat w (switches.foldl Switch.turn db) staged :=
  ⟨h.posted.turn switches, (Database.inTransaction_turn switches db seat.session).trans
    h.transaction⟩

theorem Minds.clean (h : Minds f seat w db staged) : w.needsRollback = false → staged = [] := by
  intro hr
  cases h.posted with
  | seated hhold hopen hplace hclean => exact hclean hr
  | closed hhold hclosed hp hstaged => exact hstaged

section Lawful

variable [f.Lawful] (world : σ)

/-- What is staged is rolled back when the next bundle begins. -/
theorem Minds.rollsBack (h : Minds f seat w db staged) (hs : staged ≠ []) :
    ∃ w' db', Does w.startBundle (f.set db world) (.ok (), w') (f.set db' world) ∧
      db'.inTransaction seat.session = [] ∧ db'.committed = db.committed ∧
      db'.stats.rollbacks = db.stats.rollbacks + 1 := by
  cases h.posted with
  | closed hhold hclosed hp hstaged => exact absurd hstaged hs
  | seated hhold hopen hplace hclean =>
    have hleft : w.needsRollback = true := by
      rw [← Bool.not_eq_false]
      intro hr
      exact hs (hclean hr)
    have hstart := startBundle_rollback world hhold hplace (.inl hleft)
    exact ⟨_, _, hstart, ((hplace.tally .rollback).stage []).inTransaction, rfl, rfl⟩

theorem Minds.call (h : Minds f seat w db staged) (c : Call τ) :
    let o := w.outcome db.failures seat.sql staged c
    ∃ db', Does (w.call c) (f.set db world) (o.answer, o.worker) (f.set db' world) ∧
      Minds f seat o.worker db' o.staged ∧ db'.committed = db.committed ++ o.published := by
  intro o
  obtain ⟨db', hcall, hposted, hcommitted, _⟩ := h.posted.call world c
  have hdb {db'' : Database} {r : Except Error Unit × WriteWorker σ τ}
      (hother : Does (w.call c) (f.set db world) r (f.set db'' world)) : db' = db'' := by
    have hworld := congrArg f.get (hcall.unique hother).2
    rwa [Focus.Lawful.get_set, Focus.Lawful.get_set] at hworld
  refine ⟨db', hcall, ⟨hposted, ?_⟩, hcommitted⟩
  cases hposted with
  | seated hhold hopen hplace hclean => exact hplace.inTransaction
  | closed hhold hclosed hp hstaged =>
    rw [hstaged]
    -- The worker was closed before, or it is this call that has closed it.
    cases h.posted with
    | closed hhold₀ hclosed₀ hp₀ hstaged₀ =>
      rw [hdb (call_closed hhold₀ hclosed₀ hp₀ c _), h.transaction, hstaged₀]
    | seated hhold₀ hopen₀ hplace₀ hclean₀ =>
      rcases (outcome_comes db.failures seat.sql staged w c).closes.mp hclosed with hc | rfl
      · exact absurd hc hopen₀
      · rw [hdb (teardown_open world hhold₀ hopen₀ hplace₀)]
        exact hplace₀.inTransaction_released

/-- Each call is fair, as it is seen. -/
theorem Minds.enact (h : Minds f seat w db staged) (c : Call τ) :
    ∃ s : Scene σ τ, Does (w.enact f c) (f.set db world) s (f.set s.after world) ∧
      Does (w.call c) (f.set db world) (s.answer, s.next) (f.set s.after world) ∧
      s.before = db ∧ s.Fair f world seat.sql seat.session ∧
      Minds f seat s.next s.after (s.after.inTransaction seat.session) := by
  have hcomes := outcome_comes db.failures seat.sql staged w c
  obtain ⟨db', hcall, hminds, hcommitted⟩ := h.call world c
  refine ⟨⟨c, _, w, db, _, db'⟩, ?_, hcall, rfl, ?_, ?_⟩
  · exact (does_get world).bind (hcall.bind ((does_get world).bind (Does.pure _ _)))
  · refine ⟨?_, ?_, ?_, ?_⟩
    · intro hleft switches
      obtain ⟨w', db₂, hstart, hempty, hsame, hcount⟩ :=
        (hminds.turn switches).rollsBack world (hminds.transaction ▸ hleft)
      obtain ⟨failures, he⟩ := Switch.foldl_turn switches db'
      rw [he] at hstart hsame hcount
      exact ⟨w', db₂, he ▸ hstart, hempty, hsame, hcount⟩
    · rintro ⟨hstart, hok⟩
      obtain rfl : c = .startBundle := hstart
      obtain ⟨hstaged, hpending, hindex, hneeds⟩ := hcomes.begins h.clean hok
      exact ⟨hminds.transaction.trans hstaged, hpending, hindex, hneeds⟩
    · intro hok hempty
      rw [h.transaction] at hempty
      exact hminds.transaction.trans (hcomes.stays_empty hempty hok)
    · intro hempty
      rw [h.transaction] at hempty
      exact hcommitted.trans (congrArg _ (hcomes.own_batch fun _ _ _ => hempty))
  · rw [hminds.transaction]
    exact hminds

/-- Calls are fair one after the other. -/
theorem Minds.enactAll (h : Minds f seat w db staged) (calls : List (Call τ)) :
    ∃ scenes r w' db' staged', Does (w.enactAll f calls) (f.set db world) (scenes, w')
        (f.set db' world) ∧
      Does (w.callAll calls) (f.set db world) (r, w') (f.set db' world) ∧
      Scene.Plays f world seat.sql seat.session staged scenes staged' ∧
      Minds f seat w' db' staged' := by
  induction calls generalizing w db staged with
  | nil => exact ⟨[], .ok (), w, db, staged, Does.pure _ _, Does.pure _ _, .nil staged, h⟩
  | cons c rest ih =>
    obtain ⟨⟨_, r, _, _, w₁, db₁⟩, henact, hcall, rfl, hfair, hminds⟩ := h.enact world c
    obtain rfl := h.transaction
    cases r with
    | error e =>
      exact ⟨_, _, w₁, db₁, _, henact.bind (Does.pure _ _), hcall.bind (Does.pure _ _),
        .cons hfair (.nil _), hminds⟩
    | ok u =>
      obtain ⟨scenes, r, w₂, db₂, staged₂, hscenes, hcalls, hplays, hlast⟩ := ih hminds
      exact ⟨_, r, w₂, db₂, staged₂, henact.bind (hscenes.bind (Does.pure _ _)),
        hcall.bind hcalls, .cons hfair hplays, hlast⟩

/-- What errands have come to, as they are run from `world₀` on and as each of their calls is
seen. -/
structure Staged (f : Focus σ Database) (world : σ) (seat : Seat) (w₀ : WriteWorker σ τ)
    (world₀ : σ) (staged₀ : List Entry) (errands : List (List Switch × Errand τ))
    (scenes : List (List (Scene σ τ))) (w : WriteWorker σ τ) (db : Database) : Prop where
  answers : ∃ answers, Does (w₀.runAll f errands) world₀ (answers, w) (f.set db world)
  plays : ∃ staged, Minds f seat w db staged ∧
    Scene.Plays f world seat.sql seat.session staged₀ scenes.flatten staged

theorem Staged.enactErrand {w₀ : WriteWorker σ τ} {world₀ : σ} {staged₀ : List Entry}
    {errands : List (List Switch × Errand τ)} {scenes : List (List (Scene σ τ))}
    (h : Staged f world seat w₀ world₀ staged₀ errands scenes w db)
    (item : List Switch × Errand τ) :
    ∃ more w' db', Does (w.enactErrand f item.2) (f.set (item.1.foldl Switch.turn db) world)
        (more, w') (f.set db' world) ∧
      Staged f world seat w₀ world₀ staged₀ (errands ++ [item]) (scenes ++ [more]) w' db' := by
  obtain ⟨⟨answers, hanswers⟩, staged, hminds, hplays⟩ := h
  obtain ⟨more, r, w', db', staged', henact, hcalls, hmore, hnext⟩ :=
    (hminds.turn item.1).enactAll world item.2.calls
  rw [← run_eq_callAll] at hcalls
  have hrun : Does (Switch.before f run w item) (f.set db world) (r, w') (f.set db' world) :=
    (Switch.does_make item.1 db world).bind hcalls
  refine ⟨more, w', db', henact, ⟨_, sequential_does.inTurn_concat hanswers hrun⟩, staged', hnext,
    ?_⟩
  rw [List.flatten_append, List.flatten_singleton]
  exact hplays.append hmore

/-- Errands are fair, whatever they answer and whatever is switched between them. -/
theorem Minds.stage (h : Minds f seat w db staged) (errands : List (List Switch × Errand τ)) :
    ∃ scenes answers w' db' staged', Does (w.stage f errands) (f.set db world) (scenes, w')
        (f.set db' world) ∧
      Does (w.runAll f errands) (f.set db world) (answers, w') (f.set db' world) ∧
      Scene.Plays f world seat.sql seat.session staged scenes staged' := by
  have hstart : Staged f world seat w (f.set db world) staged [] [] w db :=
    ⟨⟨[], Does.pure _ _⟩, staged, h, .nil staged⟩
  obtain ⟨scenes, w', db', hscenes, ⟨answers, hanswers⟩, staged', _, hplays⟩ :=
    Switch.does_inTurn world (WriteWorker.enactErrand f) _
      (fun item (_ : item ∈ errands) _ _ _ _ hstaged => hstaged.enactErrand world item) hstart
  exact ⟨_, answers, w', db', staged', hscenes.bind (Does.pure _ _), hanswers, hplays⟩

end Lawful

end WriteWorker

end BatchSql
