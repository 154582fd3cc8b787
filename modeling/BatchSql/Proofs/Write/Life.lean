import Mathlib.Data.List.Chain
import BatchSql.Proofs.Write.Deeds

namespace BatchSql
open Memory

/-- What a host makes a worker do. -/
inductive Duty (τ : Type) where
  | setUp
  | call (c : Call τ)

/-- What could be seen of a duty, and the batch that was flushed in it. -/
inductive Feat (τ : Type) where
  | setUp (answer : Except Error Unit)
  | call (deed : Deed τ) (batch : List (List Value))

namespace Feat

variable {τ : Type}

def committed : Feat τ → List Entry
  | setUp _ => []
  | call d _ => d.committed

def batch : Feat τ → List (List Value)
  | setUp _ => []
  | call _ rows => rows

def Fails : Feat τ → Prop
  | setUp _ => False
  | call d _ => ∃ e, d.answer = .error e

/-- A bundle is begun, or the worker is torn down. -/
def Restarts : Feat τ → Prop
  | setUp _ => True
  | call d _ => d.call = .startBundle ∨ d.call = .teardown

instance : DecidablePred (Fails : Feat τ → Prop)
  | setUp _ => isFalse id
  | call ⟨_, .ok _, _, _, _, _⟩ _ => isFalse fun ⟨_, h⟩ => nomatch h
  | call ⟨_, .error e, _, _, _, _⟩ _ => isTrue ⟨e, rfl⟩

instance : DecidablePred (Restarts : Feat τ → Prop)
  | setUp _ => isTrue trivial
  | call ⟨.startBundle, _, _, _, _, _⟩ _ => isTrue (.inl rfl)
  | call ⟨.teardown, _, _, _, _, _⟩ _ => isTrue (.inr rfl)
  | call ⟨.process _, _, _, _, _, _⟩ _ => isFalse fun h => h.elim nofun nofun
  | call ⟨.flush, _, _, _, _, _⟩ _ => isFalse fun h => h.elim nofun nofun
  | call ⟨.finishBundle, _, _, _, _, _⟩ _ => isFalse fun h => h.elim nofun nofun

/-- After an error the host begins a bundle or tears the worker down. -/
def Heeded (feats : List (Feat τ)) : Prop :=
  feats.IsChain fun a b => a.Fails → b.Restarts

instance (feats : List (Feat τ)) : Decidable (Heeded feats) :=
  inferInstanceAs (Decidable (feats.IsChain fun a b => a.Fails → b.Restarts))

end Feat

namespace WriteWorker

variable {σ τ : Type} {failures : List FailurePoint} {sql : String} {staged : List Entry}
  {w : WriteWorker σ τ} {c : Call τ} {o : Outcome σ τ}

/-- The rows that are to be flushed when a call flushes. -/
def waiting (w : WriteWorker σ τ) : Call τ → List (List Value)
  | .process x => w.pending ++ (w.setter.row x).toOption.toList
  | _ => w.pending

/-- The rows that were flushed in a call, by the commits that the worker counts. -/
def batch (w : WriteWorker σ τ) (c : Call τ) (w' : WriteWorker σ τ) : List (List Value) :=
  if w'.stats.commits = w.stats.commits then [] else w.waiting c

theorem Flushes.batch (h : Flushes failures sql staged w o) (hs : staged = []) :
    o.published = (if o.worker.stats.commits = w.stats.commits then [] else w.pending).map
      (entry sql) := by
  cases h with
  | idle hp => rw [if_pos rfl, List.map_nil]
  | through hp hv => rw [if_neg (by simp [flushed]), hs, List.nil_append]
  | failed hp hv hpart => rw [if_pos (by simp [spoiled]), List.map_nil]

/-- A call that finds nothing staged commits the batch that it flushes and nothing else. -/
theorem Comes.own_batch (h : Comes failures sql staged w c o)
    (hempty : w.state ≠ .closed → c ≠ .startBundle → c ≠ .teardown → staged = []) :
    o.published = (w.batch c o.worker).map (entry sql) := by
  have hnone : o.published = [] → o.worker.stats.commits = w.stats.commits →
      o.published = (w.batch c o.worker).map (entry sql) := by
    intro hp hc
    rw [hp, WriteWorker.batch, if_pos hc, List.map_nil]
  cases h with
  | closed hclosed => exact hnone rfl rfl
  | tornDown hopen hc => exact hnone rfl rfl
  | happens hopen hhappens =>
    cases hhappens with
    | begun hr hp => exact hnone rfl rfl
    | rolledBack hleft => exact hnone rfl rfl
    | refused hx => exact hnone rfl rfl
    | taken hx hroom => exact hnone rfl rfl
    | filled hx hfull hflush =>
      rw [WriteWorker.batch, waiting, hx]
      exact hflush.batch (hempty hopen nofun nofun)
    | flush hflush => exact hflush.batch (hempty hopen nofun nofun)
    | finishBundle hflush => exact hflush.batch (hempty hopen nofun nofun)

/-- So does a call of a host that has what a failed one left rolled back first. -/
theorem Comes.batch (h : Comes failures sql staged w c o)
    (hclean : w.needsRollback = false → staged = [])
    (hheeds : w.state ≠ .closed → w.needsRollback = true → c = .startBundle ∨ c = .teardown) :
    o.published = (w.batch c o.worker).map (entry sql) := by
  refine h.own_batch fun hopen hstart hteardown => hclean (Bool.eq_false_iff.mpr fun hr => ?_)
  exact (hheeds hopen hr).elim hstart hteardown

theorem Flushes.fails (h : Flushes failures sql staged w o) (hr : o.worker.needsRollback = true) :
    w.needsRollback = true ∨ ∃ e, o.answer = .error e := by
  cases h with
  | idle hp => exact .inl hr
  | through hp hv => exact .inl hr
  | failed hp hv hpart => exact .inr ⟨_, rfl⟩

/-- What must be rolled back was left by a call that failed. -/
theorem Comes.fails (h : Comes failures sql staged w c o) (ho : o.worker.state ≠ .closed)
    (hheeds : w.state ≠ .closed → w.needsRollback = true → c = .startBundle ∨ c = .teardown)
    (hr : o.worker.needsRollback = true) : ∃ e, o.answer = .error e := by
  obtain ⟨hopen, hhappens⟩ := h.happened ho
  have hagain : c ≠ .startBundle → c ≠ .teardown → w.needsRollback ≠ true :=
    fun hstart hteardown hleft => (hheeds hopen hleft).elim hstart hteardown
  cases hhappens with
  | begun hclean hp => exact absurd (hclean.symm.trans hr) nofun
  | rolledBack hleft => exact absurd hr nofun
  | refused hx => exact ⟨_, rfl⟩
  | taken hx hroom => exact absurd hr (hagain nofun nofun)
  | filled hx hfull hflush => exact (hflush.fails hr).resolve_left (hagain nofun nofun)
  | flush hflush => exact (hflush.fails hr).resolve_left (hagain nofun nofun)
  | finishBundle hflush => exact (hflush.fails hr).resolve_left (hagain nofun nofun)

end WriteWorker

/-- A worker without its connection. -/
def WriteWorker.unheld {σ τ : Type} (w : WriteWorker σ τ) : WriteWorker σ τ :=
  { w with hold := none }

def Outcome.unheld {σ τ : Type} (o : Outcome σ τ) : Outcome σ τ :=
  { o with worker := o.worker.unheld }

section Unheld

variable {σ τ : Type} (failures : List FailurePoint) (sql : String) (staged : List Entry)
  (w : WriteWorker σ τ)

theorem WriteWorker.flushing_unheld :
    w.unheld.flushing failures sql staged = (w.flushing failures sql staged).unheld := by
  have hpending : w.unheld.pending = w.pending := rfl
  rw [flushing, flushing, hpending]
  split
  · rfl
  · cases batchVerdict failures sql w.pending with
    | ok u => rfl
    | error e => rfl

/-- What comes of a call is the same for any connection. -/
theorem WriteWorker.outcome_unheld (c : Call τ) :
    w.unheld.outcome failures sql staged c = (w.outcome failures sql staged c).unheld := by
  have hstate : w.unheld.state = w.state := rfl
  rw [outcome, outcome, hstate]
  split
  · rfl
  · cases c with
    | startBundle =>
      have hleft : w.unheld.needsRollback = w.needsRollback ∧ w.unheld.pending = w.pending :=
        ⟨rfl, rfl⟩
      rw [openOutcome, openOutcome, hleft.1, hleft.2]
      split
      · rfl
      · rfl
    | process x =>
      have hsame : w.unheld.setter = w.setter ∧ w.unheld.batchSize = w.batchSize ∧
          w.unheld.pending = w.pending := ⟨rfl, rfl, rfl⟩
      rw [openOutcome, openOutcome, hsame.1, hsame.2.1, hsame.2.2]
      cases w.setter.row x with
      | error e => rfl
      | ok row =>
        dsimp only
        split
        · exact flushing_unheld failures sql staged (w.taking row)
        · rfl
    | flush => exact flushing_unheld failures sql staged w
    | finishBundle => exact flushing_unheld failures sql staged w
    | teardown => rfl

end Unheld

/-- A worker as its duties determine it: without its connection, but with what is staged in it. -/
structure Post (σ τ : Type) where
  worker : WriteWorker σ τ
  sql : String
  staged : List Entry

/-- What setting a worker up comes to where the connection leads to the database. -/
def WriteConnector.hire {σ τ : Type} (c : WriteConnector σ τ) (failures : List FailurePoint) :
    Except Error (Post σ τ) :=
  match c.validate, c.statement, c.setter with
  | .error e, _, _ => .error e
  | .ok _, some sql, some setter =>
    if .connect ∈ failures then .error FailurePoint.connect.error
    else if .prepare ∈ failures then
      .error (.connectionFrom "write worker setup failed" FailurePoint.prepare.error)
    else .ok ⟨⟨none, setter, c.batchSize, [], 0, false, .ready, ⟨0, 0, 0, 0, 0⟩⟩, sql, []⟩
  | .ok _, _, _ => .error (.configuration "write: incomplete configuration")

namespace Post

variable {σ τ : Type}

/-- What the failures set make of a call. -/
def outcome (p : Post σ τ) (failures : List FailurePoint) (c : Call τ) : Outcome σ τ :=
  p.worker.outcome failures p.sql p.staged c

def next (p : Post σ τ) (o : Outcome σ τ) : Post σ τ :=
  ⟨o.worker, p.sql, o.staged⟩

/-- What is seen of one worker, given what it is made to do and the failures set each time. -/
def life (connector : WriteConnector σ τ) :
    Option (Post σ τ) → List (List FailurePoint × Duty τ) → List (Feat τ)
  | _, [] => []
  | none, (failures, .setUp) :: rest =>
    match connector.hire failures with
    | .ok p => .setUp (.ok ()) :: life connector (some p) rest
    | .error e => .setUp (.error e) :: life connector none rest
  | none, (_, .call _) :: rest => life connector none rest
  | some p, (_, .setUp) :: rest => life connector (some p) rest
  | some p, (failures, .call c) :: rest =>
    .call ((p.outcome failures c).deed c) (p.worker.batch c (p.outcome failures c).worker) ::
      life connector (some (p.next (p.outcome failures c))) rest

/-- Nothing is left to be rolled back, or the next call sees to it. -/
structure Sound (sql : String) (p : Post σ τ) (feats : List (Feat τ)) : Prop where
  sql : p.sql = sql
  clean : p.worker.needsRollback = false → p.staged = []
  heeds : p.worker.state ≠ .closed → p.worker.needsRollback = true →
    ∀ a ∈ feats.head?, a.Restarts

theorem sound_of_hire {connector : WriteConnector σ τ} {failures : List FailurePoint}
    {sql : String} {p : Post σ τ} (hs : connector.statement = some sql)
    (h : connector.hire failures = .ok p) (feats : List (Feat τ)) : p.Sound sql feats := by
  rw [WriteConnector.hire, hs] at h
  split at h
  · cases h
  · rename_i hsql _
    obtain rfl := Option.some.inj hsql
    split at h
    · cases h
    · split at h
      · cases h
      · obtain rfl := Except.ok.inj h
        exact ⟨rfl, fun _ => rfl, fun _ hr => absurd hr nofun⟩
  · cases h

/-- While errors are heeded, each call commits the batch that it flushes and nothing else. -/
theorem life_batches {connector : WriteConnector σ τ} {sql : String}
    (hs : connector.statement = some sql) {p : Option (Post σ τ)}
    {duties : List (List FailurePoint × Duty τ)} (hh : Feat.Heeded (life connector p duties))
    (hp : ∀ q ∈ p, q.Sound sql (life connector p duties)) :
    ∀ a ∈ life connector p duties, a.committed = a.batch.map (entry sql) := by
  fun_induction life connector p duties with
  | case1 p => exact nofun
  | case2 failures rest p hhire ih =>
    have hrest := ih hh.tail fun q hq => by
      obtain rfl := Option.mem_some.mp hq
      exact sound_of_hire hs hhire _
    exact List.forall_mem_cons.mpr ⟨rfl, hrest⟩
  | case3 failures rest e hhire ih =>
    exact List.forall_mem_cons.mpr ⟨rfl, ih hh.tail nofun⟩
  | case4 failures c rest ih => exact ih hh nofun
  | case5 p failures rest ih => exact ih hh hp
  | case6 p failures c rest ih =>
    obtain ⟨hsql, hclean, hheeds⟩ := hp p rfl
    have hcomes : WriteWorker.Comes failures p.sql p.staged p.worker c (p.outcome failures c) :=
      WriteWorker.outcome_comes failures p.sql p.staged p.worker c
    have hnow : p.worker.state ≠ .closed → p.worker.needsRollback = true →
        c = .startBundle ∨ c = .teardown := fun hopen hr => hheeds hopen hr _ rfl
    obtain ⟨hthen, htail⟩ := List.isChain_cons.mp hh
    have hrest := ih htail fun q hq => by
      obtain rfl := Option.mem_some.mp hq
      refine ⟨hsql, hcomes.clean hclean, fun hopen hr a ha => ?_⟩
      exact hthen a ha (hcomes.fails hopen hnow hr)
    refine List.forall_mem_cons.mpr ⟨?_, hrest⟩
    have hbatch := hcomes.batch hclean hnow
    rwa [hsql] at hbatch

end Post

end BatchSql
