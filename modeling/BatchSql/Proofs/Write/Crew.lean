import Mathlib.Logic.Function.Basic
import BatchSql.Proofs.Write.Closing
import BatchSql.Proofs.Write.Life

namespace BatchSql
open Memory

/-- A step of a host with many workers: a switch is turned, or one of them is made to do
something. -/
inductive Move (ι τ : Type) where
  | turn (s : Switch)
  | duty (i : ι) (d : Duty τ)

namespace Switch

/-- The failures that are set after a switch is turned. -/
def failing (failures : List FailurePoint) : Switch → List FailurePoint
  | fail p => p :: failures
  | clear p => failures.filter (· ≠ p)

theorem turn_eq (db : Database) (s : Switch) :
    s.turn db = { db with failures := s.failing db.failures } := by
  cases s with
  | fail p => rfl
  | clear p => rfl

end Switch

namespace Move

variable {ι τ : Type} [DecidableEq ι]

/-- The duties of one worker, each with the failures set when it is done. -/
def duties (i : ι) : List FailurePoint → List (Move ι τ) → List (List FailurePoint × Duty τ)
  | _, [] => []
  | failures, .turn s :: rest => duties i (s.failing failures) rest
  | failures, .duty j d :: rest =>
    if j = i then (failures, d) :: duties i failures rest else duties i failures rest

/-- A move that one worker alone would see: its own duties, and every switch. -/
def concerns (i : ι) : Move ι τ → Bool
  | .turn _ => true
  | .duty j _ => j = i

/-- What others do does not change the duties of a worker. -/
theorem duties_filter (i : ι) (failures : List FailurePoint) (moves : List (Move ι τ)) :
    duties i failures (moves.filter (concerns i)) = duties i failures moves := by
  fun_induction duties i failures moves with
  | case1 failures => rfl
  | case2 failures s rest ih => exact ih
  | case3 failures d rest ih => simp [concerns, duties, ih]
  | case4 failures j d rest hji ih => simp [concerns, hji, ih]

end Move

/-- What was seen of one worker. -/
def featsOf {ι τ : Type} [DecidableEq ι] (i : ι) (records : List (ι × Feat τ)) : List (Feat τ) :=
  (records.filter fun r => r.1 = i).map Prod.snd

section FeatsOf

variable {ι τ : Type} [DecidableEq ι] (i : ι) (feats : List (Feat τ)) (records : List (ι × Feat τ))

theorem featsOf_own : featsOf i (feats.map (i, ·) ++ records) = feats ++ featsOf i records := by
  simp [featsOf, List.filter_map, Function.comp_def]

theorem featsOf_other {j : ι} (hj : j ≠ i) :
    featsOf i (feats.map (j, ·) ++ records) = featsOf i records := by
  simp [featsOf, hj]

end FeatsOf

namespace Crew

variable {ι σ τ : Type} [DecidableEq ι]

/-- A worker does its duty. One that is not there cannot be called, and one that is there is not
set up again. -/
def act (f : Focus σ Database) (registry : Registry σ) (connectors : ι → WriteConnector σ τ)
    (crew : ι → Option (WriteWorker σ τ)) (i : ι) :
    Duty τ → Step σ (List (Feat τ) × (ι → Option (WriteWorker σ τ)))
  | .setUp =>
    match crew i with
    | some _ => pure ([], crew)
    | none => do
      match ← ((connectors i).setup registry).run with
      | .ok w => pure ([.setUp (.ok ())], Function.update crew i (some w))
      | .error e => pure ([.setUp (.error e)], crew)
  | .call c =>
    match crew i with
    | none => pure ([], crew)
    | some w => do
      let (deed, w') ← w.watch f c
      pure ([.call deed (w.batch c w')], Function.update crew i (some w'))

/-- Many workers of one database, their calls in any order. -/
def run (f : Focus σ Database) (registry : Registry σ) (connectors : ι → WriteConnector σ τ)
    (crew : ι → Option (WriteWorker σ τ)) :
    List (Move ι τ) → Step σ (List (ι × Feat τ) × (ι → Option (WriteWorker σ τ)))
  | [] => pure ([], crew)
  | .turn s :: rest => do
    Switch.make f [s]
    run f registry connectors crew rest
  | .duty i d :: rest => do
    let (feats, crew) ← act f registry connectors crew i d
    let (records, crew) ← run f registry connectors crew rest
    pure (feats.map (i, ·) ++ records, crew)

end Crew

namespace Memory.Database

/-- Sessions and statements were added, and nothing else happened to the rows. -/
structure Grows (db db' : Database) : Prop where
  failures : db'.failures = db.failures
  committed : db'.committed = db.committed
  sessions : db.sessions <+: db'.sessions
  statements : db.statements <+: db'.statements

theorem Grows.refl (db : Database) : db.Grows db :=
  ⟨rfl, rfl, List.prefix_rfl, List.prefix_rfl⟩

end Memory.Database

/-- A worker that was set up now has the seat after all others. -/
structure Hired {σ τ : Type} (f : Focus σ Database) (db db' : Database) (w : WriteWorker σ τ)
    (p : Post σ τ) : Prop where
  grows : db.Grows db'
  alike : w.unheld = p.worker
  posted : w.Posted f (db.nextSeat p.sql) db' p.staged
  session : db.sessions.length < db'.sessions.length
  statement : db.statements.length < db'.statements.length

section Setup

variable {σ τ : Type} {f : Focus σ Database} {registry : Registry σ} {c : WriteConnector σ τ}
  {config : ConnectionConfig σ} {db : Database}

theorem grows_unprepared (db : Database) (username : Option String) :
    db.Grows (((db.opened username).stage db.sessions.length []).closeSession db.sessions.length
      (.staging [])) := by
  refine ⟨rfl, rfl, ?_, List.prefix_rfl⟩
  simp [Database.closeSession, Database.stage, Database.opened, Database.tally]

theorem grows_engaged (db : Database) (username : Option String) (sql : String) :
    db.Grows (db.engaged username sql) := by
  refine ⟨rfl, rfl, ?_, List.prefix_append _ _⟩
  rw [Database.sessions_engaged]
  exact List.prefix_append _ _

/-- Setting a worker up depends on the failures that are set, and on nothing else in the
database. -/
theorem setup_hires [f.Lawful] (world : σ) (hc : c.config = some config)
    (hr : Reaches f registry config) :
    (∃ p w db', c.hire db.failures = .ok p ∧
      Does (c.setup registry).run (f.set db world) (.ok w) (f.set db' world) ∧
      Hired f db db' w p) ∨
    ∃ e db', c.hire db.failures = .error e ∧
      Does (c.setup registry).run (f.set db world) (.error e) (f.set db' world) ∧
      db.Grows db' := by
  cases hv : c.validate with
  | error e =>
    refine .inr ⟨e, db, ?_, WriteConnector.setup_invalid hv _, .refl db⟩
    rw [WriteConnector.hire, hv]
  | ok u =>
    obtain ⟨_, sql, setter, _, hs, ht, _, _⟩ := WriteConnector.parts_of_valid hv
    rw [WriteConnector.hire, hv, hs, ht]
    dsimp only
    split
    · rename_i hconnect
      exact .inr ⟨_, db, rfl, WriteConnector.setup_unconnected world hv hc hr hconnect, .refl db⟩
    · rename_i hconnect
      split
      · rename_i hp
        obtain ⟨username, hsetup⟩ := WriteConnector.setup_unprepared world hv hc hr hconnect hp
        exact .inr ⟨_, _, rfl, hsetup, grows_unprepared db username⟩
      · rename_i hp
        obtain ⟨username, hsetup⟩ := WriteConnector.setup_ok world hv hc hr hs ht hconnect hp
        exact .inl ⟨_, _, _, rfl, hsetup, grows_engaged db username sql, rfl,
          WriteWorker.posted_fresh f db username sql setter c.batchSize,
          by simp, by simp⟩

end Setup

section Mans

variable {σ τ : Type} {f : Focus σ Database} {seat : Seat} {db db' : Database}

/-- A worker stands as its post says, at its seat, or there is none. -/
inductive Mans (f : Focus σ Database) (seat : Seat) (db : Database) :
    Option (WriteWorker σ τ) → Option (Post σ τ) → Prop where
  | absent : Mans f seat db none none
  | present {w : WriteWorker σ τ} {p : Post σ τ} (alike : w.unheld = p.worker)
      (sql : seat.sql = p.sql) (posted : w.Posted f seat db p.staged)
      (session : seat.session < db.sessions.length)
      (statement : seat.statement < db.statements.length) : Mans f seat db (some w) (some p)

variable {w : Option (WriteWorker σ τ)} {p : Option (Post σ τ)}

theorem Mans.turn (h : Mans f seat db w p) (s : Switch) : Mans f seat (s.turn db) w p := by
  cases h with
  | absent => exact .absent
  | present halike hsql hposted hsession hstatement =>
    have hturned := hposted.turn [s]
    rw [List.foldl_cons, List.foldl_nil, Switch.turn_eq] at hturned
    rw [Switch.turn_eq]
    exact .present halike hsql hturned hsession hstatement

/-- A worker is not moved by what is done at another seat. -/
theorem Mans.beside {other : Seat} (h : Mans f seat db w p) (hb : Database.Beside other db db')
    (hapart : w.isSome → seat.session ≠ other.session ∧ seat.statement ≠ other.statement) :
    Mans f seat db' w p := by
  cases h with
  | absent => exact .absent
  | present halike hsql hposted hlt hlt' =>
    obtain ⟨hsession, hstatement⟩ := hapart rfl
    refine .present halike hsql (hposted.elsewhere (hb.sessions _ hsession)
      (hb.statements _ hstatement)) ?_ ?_
    · rwa [hb.sessionCount]
    · rwa [hb.statementCount]

theorem Mans.grows (h : Mans f seat db w p) (hg : db.Grows db') : Mans f seat db' w p := by
  cases h with
  | absent => exact .absent
  | present halike hsql hposted hlt hlt' =>
    obtain ⟨more, hmore⟩ := hg.sessions
    obtain ⟨more', hmore'⟩ := hg.statements
    refine .present halike hsql (hposted.elsewhere ?_ ?_) (hlt.trans_le hg.sessions.length_le)
      (hlt'.trans_le hg.statements.length_le)
    · rw [← hmore, List.getElem?_append_left hlt]
    · rw [← hmore', List.getElem?_append_left hlt']

theorem Mans.inside (h : Mans f seat db w p) (hw : w.isSome) :
    seat.session < db.sessions.length ∧ seat.statement < db.statements.length := by
  cases h with
  | absent => cases hw
  | present halike hsql hposted hlt hlt' => exact ⟨hlt, hlt'⟩

end Mans

/-- All workers of a crew are at seats of their own. -/
structure Manned {ι σ τ : Type} (f : Focus σ Database) (db : Database)
    (crew : ι → Option (WriteWorker σ τ)) (posts : ι → Option (Post σ τ)) (seats : ι → Seat) :
    Prop where
  mans : ∀ i, Mans f (seats i) db (crew i) (posts i)
  apart : ∀ i j, i ≠ j → (crew i).isSome → (crew j).isSome →
    (seats i).session ≠ (seats j).session ∧ (seats i).statement ≠ (seats j).statement

section Manned

variable {ι σ τ : Type} {f : Focus σ Database} {registry : Registry σ}
  {connectors : ι → WriteConnector σ τ} {db : Database} {crew : ι → Option (WriteWorker σ τ)}
  {posts : ι → Option (Post σ τ)} {seats : ι → Seat}

theorem Manned.turn (h : Manned f db crew posts seats) (s : Switch) :
    Manned f (s.turn db) crew posts seats :=
  ⟨fun i => (h.mans i).turn s, h.apart⟩

theorem Manned.grows {db' : Database} (h : Manned f db crew posts seats) (hg : db.Grows db') :
    Manned f db' crew posts seats :=
  ⟨fun i => (h.mans i).grows hg, h.apart⟩

/-- What a duty of one worker has come to: the worker has gone on in its life, and the others are
where they were. -/
structure Advanced (f : Focus σ Database) (connectors : ι → WriteConnector σ τ) (db : Database)
    (posts : ι → Option (Post σ τ)) (i : ι) (d : Duty τ) (feats : List (Feat τ)) (db' : Database)
    (crew' : ι → Option (WriteWorker σ τ)) (posts' : ι → Option (Post σ τ)) : Prop where
  manned : ∃ seats', Manned f db' crew' posts' seats'
  failures : db'.failures = db.failures
  committed : db'.committed = db.committed ++ feats.flatMap Feat.committed
  own : ∀ rest, Post.life (connectors i) (posts i) ((db.failures, d) :: rest) =
    feats ++ Post.life (connectors i) (posts' i) rest
  others : ∀ j, j ≠ i → posts' j = posts j

/-- A duty that cannot be done changes nothing. -/
theorem Manned.idle (h : Manned f db crew posts seats) {i : ι} {d : Duty τ}
    (hown : ∀ rest, Post.life (connectors i) (posts i) ((db.failures, d) :: rest) =
      Post.life (connectors i) (posts i) rest) :
    Advanced f connectors db posts i d [] db crew posts :=
  ⟨⟨seats, h⟩, rfl, (List.append_nil _).symm, hown, fun _ _ => rfl⟩

variable [DecidableEq ι]

/-- A new worker gets a seat after all others. -/
theorem Manned.hired {db' : Database} {i : ι} {w : WriteWorker σ τ} {p : Post σ τ}
    (h : Manned f db crew posts seats) (hh : Hired f db db' w p) :
    Manned f db' (Function.update crew i (some w)) (Function.update posts i (some p))
      (Function.update seats i (db.nextSeat p.sql)) := by
  have hafter : ∀ {j}, (crew j).isSome → (seats j).session < db.sessions.length ∧
      (seats j).statement < db.statements.length := fun {j} hj => (h.mans j).inside hj
  constructor
  · intro j
    by_cases hj : j = i
    · subst hj
      simp only [Function.update_self]
      exact .present hh.alike rfl hh.posted hh.session hh.statement
    · simp only [Function.update_of_ne hj]
      exact (h.mans j).grows hh.grows
  · intro j k hjk hj hk
    by_cases hji : j = i
    · subst hji
      rw [Function.update_of_ne hjk.symm] at hk
      rw [Function.update_self, Function.update_of_ne hjk.symm]
      exact ⟨(hafter hk).1.ne', (hafter hk).2.ne'⟩
    · rw [Function.update_of_ne hji] at hj ⊢
      by_cases hki : k = i
      · subst hki
        rw [Function.update_self]
        exact ⟨(hafter hj).1.ne, (hafter hj).2.ne⟩
      · rw [Function.update_of_ne hki] at hk ⊢
        exact h.apart j k hjk hj hk

/-- A call of one worker leaves the others at their seats. -/
theorem Manned.called {db' : Database} {i : ι} {w w' : WriteWorker σ τ} {p : Post σ τ}
    (h : Manned f db crew posts seats) (hi : crew i = some w)
    (hb : Database.Beside (seats i) db db') (hp : Mans f (seats i) db' (some w') (some p)) :
    Manned f db' (Function.update crew i (some w')) (Function.update posts i (some p)) seats := by
  have hsome : ∀ j, (Function.update crew i (some w') j).isSome → (crew j).isSome := by
    intro j hj
    by_cases hji : j = i
    · rw [hji, hi]
      rfl
    · rwa [Function.update_of_ne hji] at hj
  constructor
  · intro j
    by_cases hj : j = i
    · subst hj
      simpa only [Function.update_self] using hp
    · simp only [Function.update_of_ne hj]
      exact (h.mans j).beside hb fun hsome => h.apart j i hj hsome (by rw [hi]; rfl)
  · exact fun j k hjk hj hk => h.apart j k hjk (hsome j hj) (hsome k hk)

variable [f.Lawful] (world : σ)

theorem Manned.setUp {config : ConnectionConfig σ} {i : ι}
    (hc : (connectors i).config = some config) (hr : Reaches f registry config)
    (h : Manned f db crew posts seats) :
    ∃ feats crew' posts' db', Does (Crew.act f registry connectors crew i .setUp) (f.set db world)
        (feats, crew') (f.set db' world) ∧
      Advanced f connectors db posts i .setUp feats db' crew' posts' := by
  have hi := h.mans i
  generalize hw : crew i = w at hi
  generalize hp : posts i = p at hi
  cases hi with
  | present halike hsql hposted hlt hlt' =>
    refine ⟨[], crew, posts, db, ?_, h.idle fun rest => by rw [hp]; rfl⟩
    rw [Crew.act, hw]
    exact Does.pure _ _
  | absent =>
    rcases setup_hires world hc hr with ⟨p, w, db', hhire, hsetup, hhired⟩ |
      ⟨e, db', hhire, hsetup, hgrows⟩
    · refine ⟨[.setUp (.ok ())], _, Function.update posts i (some p), db', ?_,
        ⟨_, h.hired hhired⟩, hhired.grows.failures, ?_, fun rest => ?_, fun j hj => ?_⟩
      · rw [Crew.act, hw]
        exact hsetup.bind (Does.pure _ _)
      · rw [hhired.grows.committed]
        exact (List.append_nil _).symm
      · rw [hp, Post.life, hhire, Function.update_self]
        rfl
      · exact Function.update_of_ne hj _ _
    · refine ⟨[.setUp (.error e)], crew, posts, db', ?_, ⟨seats, h.grows hgrows⟩,
        hgrows.failures, ?_, fun rest => ?_, fun _ _ => rfl⟩
      · rw [Crew.act, hw]
        exact hsetup.bind (Does.pure _ _)
      · rw [hgrows.committed]
        exact (List.append_nil _).symm
      · rw [hp, Post.life, hhire]
        rfl

theorem Manned.call (h : Manned f db crew posts seats) (i : ι) (c : Call τ) :
    ∃ feats crew' posts' db', Does (Crew.act f registry connectors crew i (.call c))
        (f.set db world) (feats, crew') (f.set db' world) ∧
      Advanced f connectors db posts i (.call c) feats db' crew' posts' := by
  have hi := h.mans i
  generalize hw : crew i = w at hi
  generalize hp : posts i = p at hi
  cases hi with
  | absent =>
    refine ⟨[], crew, posts, db, ?_, h.idle fun rest => by rw [hp]; rfl⟩
    rw [Crew.act, hw]
    exact Does.pure _ _
  | @present w p halike hsql hposted hlt hlt' =>
    obtain ⟨db', hwatch, hposted', hcommitted, hbeside⟩ := hposted.watch world c
    have ho : p.outcome db.failures c =
        (w.outcome db.failures (seats i).sql p.staged c).unheld := by
      rw [Post.outcome, ← halike, ← hsql, WriteWorker.outcome_unheld]
    have hmans : Mans f (seats i) db'
        (some (w.outcome db.failures (seats i).sql p.staged c).worker)
        (some (p.next (p.outcome db.failures c))) := by
      rw [ho]
      exact .present rfl hsql hposted' (hbeside.sessionCount ▸ hlt) (hbeside.statementCount ▸ hlt')
    refine ⟨[.call ((p.outcome db.failures c).deed c)
        (p.worker.batch c (p.outcome db.failures c).worker)], _,
      Function.update posts i (some (p.next (p.outcome db.failures c))), db', ?_,
      ⟨seats, h.called hw hbeside hmans⟩, hbeside.failures, ?_, fun rest => ?_, fun j hj => ?_⟩
    · rw [Crew.act, hw, ho, ← halike]
      exact hwatch.bind (Does.pure _ _)
    · rw [hcommitted, ho]
      simp [Feat.committed, Outcome.deed, Outcome.unheld]
    · rw [hp, Function.update_self]
      rfl
    · exact Function.update_of_ne hj _ _

/-- What is seen of each worker of a crew is its own life. -/
theorem Manned.run {config : ι → ConnectionConfig σ}
    (hc : ∀ i, (connectors i).config = some (config i)) (hr : ∀ i, Reaches f registry (config i))
    (h : Manned f db crew posts seats) (moves : List (Move ι τ)) :
    ∃ records crew' db', Does (Crew.run f registry connectors crew moves) (f.set db world)
        (records, crew') (f.set db' world) ∧
      db'.committed = db.committed ++ records.flatMap (fun r => r.2.committed) ∧
      ∀ i, featsOf i records =
        Post.life (connectors i) (posts i) (Move.duties i db.failures moves) := by
  induction moves generalizing db crew posts seats with
  | nil =>
    refine ⟨[], crew, db, Does.pure _ _, (List.append_nil _).symm, fun i => ?_⟩
    rw [Move.duties, Post.life.eq_1]
    rfl
  | cons move rest ih =>
    cases move with
    | turn s =>
      have hmade := Switch.does_make (f := f) [s] db world
      obtain ⟨records, crew', db', hrun, hcommitted, hlife⟩ := ih (h.turn s)
      rw [Switch.turn_eq] at hcommitted hlife
      exact ⟨records, crew', db', hmade.bind hrun, hcommitted, hlife⟩
    | duty i d =>
      obtain ⟨feats, crew₁, posts₁, db₁, hact, hadvanced⟩ : ∃ feats crew₁ posts₁ db₁,
          Does (Crew.act f registry connectors crew i d) (f.set db world) (feats, crew₁)
            (f.set db₁ world) ∧ Advanced f connectors db posts i d feats db₁ crew₁ posts₁ := by
        cases d with
        | setUp => exact h.setUp world (hc i) (hr i)
        | call c => exact h.call world i c
      obtain ⟨⟨seats₁, hmanned⟩, hfailures, hcommitted, hown, hothers⟩ := hadvanced
      obtain ⟨records, crew₂, db₂, hrun, hcommitted', hlife⟩ := ih hmanned
      refine ⟨_, crew₂, db₂, hact.bind (hrun.bind (Does.pure _ _)), ?_, fun j => ?_⟩
      · simp [hcommitted', hcommitted, List.flatMap_map]
      · rw [hfailures] at hlife
        by_cases hj : j = i
        · subst hj
          rw [featsOf_own, hlife, Move.duties, if_pos rfl, hown]
        · rw [featsOf_other _ _ _ (Ne.symm hj), hlife, Move.duties, if_neg (Ne.symm hj),
            hothers j hj]

end Manned

theorem Memory.Database.committedRows_batches {ι τ : Type} {db db' : Database} {sql : ι → String}
    {records : List (ι × Feat τ)}
    (h : db'.committed = db.committed ++
      records.flatMap fun r => r.2.batch.map (entry (sql r.1))) (text : String) :
    db'.committedRows text = db.committedRows text ++
      (records.filter fun r => Text.squeeze (sql r.1) = Text.squeeze text).flatMap
        fun r => r.2.batch := by
  rw [committedRows, h, List.filter_append, List.map_append, committedRows]
  congr 1
  clear h
  induction records with
  | nil => rfl
  | cons r rest ih =>
    rw [List.flatMap_cons, List.filter_append, List.map_append, ih, List.filter_cons]
    by_cases hr : Text.squeeze (sql r.1) = Text.squeeze text
    · simp [hr, entry, List.filter_map, Function.comp_def]
    · simp [hr, entry, List.filter_map, Function.comp_def]

theorem mem_featsOf {ι τ : Type} [DecidableEq ι] {records : List (ι × Feat τ)} {r : ι × Feat τ}
    (h : r ∈ records) : r.2 ∈ featsOf r.1 records :=
  List.mem_map.mpr ⟨r, List.mem_filter.mpr ⟨h, by simp⟩, rfl⟩

end BatchSql
