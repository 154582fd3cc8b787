import BatchSql.Proofs.Write.Attempts
import BatchSql.Proofs.Write.Outcome

namespace BatchSql
open Memory

/-- A call that was made, with what could be seen of it: its answer, the rows that were committed
in it, and the worker after it. -/
structure Deed (τ : Type) where
  call : Call τ
  answer : Except Error Unit
  committed : List Entry
  state : WorkerState
  pending : Nat
  stats : WriteStats

def Outcome.deed {σ τ : Type} (o : Outcome σ τ) (c : Call τ) : Deed τ :=
  ⟨c, o.answer, o.published, o.worker.state, o.worker.pending.length, o.worker.stats⟩

namespace WriteWorker

variable {σ τ : Type}

/-- A call is made and watched. -/
def watch (f : Focus σ Database) (w : WriteWorker σ τ) (c : Call τ) :
    Step σ (Deed τ × WriteWorker σ τ) := do
  let before ← Step.ofState f get
  let (r, w) ← w.call c
  let after ← Step.ofState f get
  pure (⟨c, r, after.committed.drop before.committed.length, w.state, w.pending.length, w.stats⟩, w)

/-- Calls are made one after the other, whatever they answer, and switches are turned before each
of them. -/
def drive (f : Focus σ Database) (w : WriteWorker σ τ) (calls : List (List Switch × Call τ)) :
    Step σ (List (Deed τ) × WriteWorker σ τ) :=
  Step.inTurn (Switch.before f (watch f)) w calls

variable {f : Focus σ Database} {seat : Seat} {db db' : Database} {staged : List Entry}
  {w w' : WriteWorker σ τ}

theorem Posted.turn (h : Posted f seat w db staged) (switches : List Switch) :
    Posted f seat w (switches.foldl Switch.turn db) staged := by
  obtain ⟨failures, he⟩ := Switch.foldl_turn switches db
  rw [he]
  cases h with
  | closed hhold hclosed hp hstaged => exact .closed hhold hclosed hp hstaged
  | seated hhold hopen hplace hclean =>
    exact .seated hhold hopen ⟨hplace.session, hplace.statement⟩ hclean

variable [f.Lawful] (world : σ)

theorem watch_does {c : Call τ} {r : Except Error Unit} {published : List Entry}
    (h : Does (w.call c) (f.set db world) (r, w') (f.set db' world))
    (hp : db'.committed = db.committed ++ published) :
    Does (w.watch f c) (f.set db world)
      (⟨c, r, published, w'.state, w'.pending.length, w'.stats⟩, w') (f.set db' world) := by
  have hdrop : db'.committed.drop db.committed.length = published := by
    rw [hp, List.drop_left]
  rw [← hdrop]
  exact (does_get world).bind (h.bind ((does_get world).bind (Does.pure _ _)))

/-- A call is seen as its outcome says. -/
theorem Posted.watch (h : Posted f seat w db staged) (c : Call τ) :
    let o := w.outcome db.failures seat.sql staged c
    ∃ db', Does (w.watch f c) (f.set db world) (o.deed c, o.worker) (f.set db' world) ∧
      Posted f seat o.worker db' o.staged ∧ db'.committed = db.committed ++ o.published ∧
      Database.Beside seat db db' := by
  obtain ⟨db', hcall, hposted, hcommitted, hbeside, _⟩ := h.call world c
  exact ⟨db', watch_does world hcall hcommitted, hposted, hcommitted, hbeside⟩

/-- What calls made one after the other have come to, with a property that each call keeps. -/
structure Driven (f : Focus σ Database) (seat : Seat) (start : Database)
    (holds : List (Deed τ) → WriteWorker σ τ → List Entry → Prop)
    (calls : List (List Switch × Call τ)) (deeds : List (Deed τ)) (w : WriteWorker σ τ)
    (db : Database) : Prop where
  posted : ∃ staged, Posted f seat w db staged ∧ holds deeds w staged
  calls : deeds.map Deed.call = calls.map Prod.snd
  committed : db.committed = start.committed ++ deeds.flatMap Deed.committed

variable {start : Database} {holds : List (Deed τ) → WriteWorker σ τ → List Entry → Prop}
  {calls : List (List Switch × Call τ)} {deeds : List (Deed τ)}

theorem Driven.call (h : Driven f seat start holds calls deeds w db)
    (hstep : ∀ deeds w staged failures c, holds deeds w staged →
      let o := w.outcome failures seat.sql staged c
      holds (deeds ++ [o.deed c]) o.worker o.staged) (item : List Switch × Call τ) :
    ∃ d w' db', Does (w.watch f item.2) (f.set (item.1.foldl Switch.turn db) world) (d, w')
        (f.set db' world) ∧
      Driven f seat start holds (calls ++ [item]) (deeds ++ [d]) w' db' := by
  obtain ⟨⟨staged, hposted, hholds⟩, hcalls, hcommitted⟩ := h
  obtain ⟨db', hwatch, hnext, hadded, _⟩ := (hposted.turn item.1).watch world item.2
  rw [committed_turn] at hadded
  refine ⟨_, _, db', hwatch, ⟨_, hnext, hstep deeds w staged _ item.2 hholds⟩, ?_, ?_⟩
  · rw [List.map_append, List.map_append, hcalls]
    rfl
  · rw [hadded, hcommitted, List.flatMap_append, List.flatMap_singleton, List.append_assoc]
    rfl

/-- What each call of a worker keeps, whatever fails in it, is kept by calls made one after the
other. -/
theorem Posted.drive (h : Posted f seat w db staged)
    (holds : List (Deed τ) → WriteWorker σ τ → List Entry → Prop)
    (hstep : ∀ deeds w staged failures c, holds deeds w staged →
      let o := w.outcome failures seat.sql staged c
      holds (deeds ++ [o.deed c]) o.worker o.staged)
    (hholds : holds [] w staged) (calls : List (List Switch × Call τ)) :
    ∃ deeds w' db', Does (w.drive f calls) (f.set db world) (deeds, w') (f.set db' world) ∧
      Driven f seat db holds calls deeds w' db' :=
  Switch.does_inTurn world (WriteWorker.watch f) (Driven f seat db holds)
    (fun item _ _ _ _ _ hdriven => hdriven.call world hstep item)
    ⟨⟨staged, h, hholds⟩, rfl, (List.append_nil _).symm⟩

end WriteWorker

end BatchSql
