import Mathlib.Data.List.DropRight
import Mathlib.Data.List.Induction
import BatchSql.Proofs.Write.Deeds

namespace BatchSql
open Memory

namespace Deed

variable {σ τ : Type} {d : Deed τ} {deeds : List (Deed τ)}

/-- A bundle was begun. -/
def begins (d : Deed τ) : Bool :=
  match d.call, d.answer with
  | .startBundle, .ok _ => true
  | _, _ => false

/-- A batch failed. -/
def Spoils (d : Deed τ) : Prop :=
  ∃ n e, d.answer = .error (.batchExecution n e)

/-- The row of an element that was bound. -/
def bound (setter : ParameterSetter τ) (d : Deed τ) : Option (List Value) :=
  match d.call with
  | .process x => (setter.row x).toOption
  | _ => none

/-- A bundle was finished by a worker that is open. -/
structure Finishes (d : Deed τ) : Prop where
  call : d.call = .finishBundle
  answer : d.answer = .ok ()
  isOpen : d.state ≠ .closed

instance (d : Deed τ) : Decidable d.Finishes :=
  match d with
  | ⟨.finishBundle, .ok _, _, state, _, _⟩ =>
    decidable_of_iff (state ≠ .closed) ⟨fun h => ⟨rfl, rfl, h⟩, Finishes.isOpen⟩
  | ⟨.finishBundle, .error _, _, _, _, _⟩ => isFalse fun h => nomatch h.answer
  | ⟨.startBundle, _, _, _, _, _⟩ => isFalse fun h => nomatch h.call
  | ⟨.process _, _, _, _, _, _⟩ => isFalse fun h => nomatch h.call
  | ⟨.flush, _, _, _, _, _⟩ => isFalse fun h => nomatch h.call
  | ⟨.teardown, _, _, _, _, _⟩ => isFalse fun h => nomatch h.call

/-- What was done since a bundle was last begun. -/
def sinceStart (deeds : List (Deed τ)) : List (Deed τ) :=
  deeds.rtakeWhile fun d => !d.begins

theorem sinceStart_begins (h : d.begins) : sinceStart (deeds ++ [d]) = [] :=
  List.rtakeWhile_concat_neg _ _ _ (by simp [h])

theorem sinceStart_goes_on (h : d.begins = false) :
    sinceStart (deeds ++ [d]) = sinceStart deeds ++ [d] :=
  List.rtakeWhile_concat_pos _ _ _ (by simp [h])

end Deed

theorem Outcome.bound_process {σ τ : Type} (o : Outcome σ τ) (setter : ParameterSetter τ) (x : τ) :
    (o.deed (.process x)).bound setter = (setter.row x).toOption := rfl

/-- A batch that was flushed, and how the flush was answered. -/
structure Batch where
  rows : List (List Value)
  answer : Except Error Unit

namespace Batch

def failed (b : Batch) : Bool :=
  !b.answer.isOk

/-- The rows of a batch that were written before its flush was answered: all of them where it was
committed, none where it was not executed, and else those before the first that does not fit. -/
def written (sql : String) (b : Batch) : List (List Value) :=
  match b.answer with
  | .ok _ => b.rows
  | .error e =>
    if e = .batchExecution b.rows.length FailurePoint.execute.error then []
    else b.rows.takeWhile fun row => row.length = placeholders sql

/-- What these batches have committed: what was written of them up to the last that was committed.
Its commit takes along what those that failed before it had left in the transaction. -/
def committed (sql : String) (batches : List Batch) : List Entry :=
  ((batches.rdropWhile failed).flatMap (written sql)).map (entry sql)

/-- What those that failed since the last commit have left in the transaction. -/
def staged (sql : String) (batches : List Batch) : List Entry :=
  ((batches.rtakeWhile failed).flatMap (written sql)).map (entry sql)

variable {sql : String} {batches : List Batch}

@[simp]
theorem failed_ok (rows : List (List Value)) : failed ⟨rows, .ok ()⟩ = false := rfl

@[simp]
theorem failed_error (rows : List (List Value)) (e : Error) : failed ⟨rows, .error e⟩ = true := rfl

theorem committed_concat_ok (sql : String) (batches : List Batch) (rows : List (List Value)) :
    committed sql (batches ++ [⟨rows, .ok ()⟩]) =
      committed sql batches ++ (staged sql batches ++ rows.map (entry sql)) := by
  have hall : batches.flatMap (written sql) = (batches.rdropWhile failed).flatMap (written sql) ++
      (batches.rtakeWhile failed).flatMap (written sql) := by
    rw [← List.flatMap_append, List.rdropWhile_append_rtakeWhile]
  rw [committed, List.rdropWhile_concat_neg _ _ _ (by simp), List.flatMap_append, hall,
    List.map_append, List.map_append, List.append_assoc, List.flatMap_singleton]
  rfl

theorem staged_concat_ok (sql : String) (batches : List Batch) (rows : List (List Value)) :
    staged sql (batches ++ [⟨rows, .ok ()⟩]) = [] := by
  rw [staged, List.rtakeWhile_concat_neg _ _ _ (by simp)]
  rfl

theorem committed_concat_error (sql : String) (batches : List Batch) (rows : List (List Value))
    (e : Error) : committed sql (batches ++ [⟨rows, .error e⟩]) = committed sql batches := by
  rw [committed, List.rdropWhile_concat_pos _ _ _ rfl]
  rfl

theorem staged_concat_error (sql : String) (batches : List Batch) (rows : List (List Value))
    (e : Error) :
    staged sql (batches ++ [⟨rows, .error e⟩]) =
      staged sql batches ++ (written sql ⟨rows, .error e⟩).map (entry sql) := by
  rw [staged, staged, List.rtakeWhile_concat_pos _ _ _ rfl, List.flatMap_append, List.map_append,
    List.flatMap_singleton]

/-- Where no batch has failed, all of their rows are committed. -/
theorem committed_of_none_failed (h : ∀ b ∈ batches, b.failed = false) :
    committed sql batches = (batches.flatMap rows).map (entry sql) := by
  have hwhole : batches.rdropWhile failed = batches :=
    List.rdropWhile_eq_self_iff.mpr fun hne => by simp [h _ (List.getLast_mem hne)]
  have hrows : ∀ b ∈ batches, written sql b = b.rows := by
    intro b hb
    obtain ⟨rows, answer⟩ := b
    cases answer with
    | ok u => rfl
    | error e => exact absurd (h _ hb) (by simp)
  rw [committed, hwhole, List.flatMap_congr hrows]

/-- A flush that failed has written the rows that its failure tells. -/
theorem written_of_verdict {failures : List FailurePoint} {rows : List (List Value)} {e : Error}
    (h : batchVerdict failures sql rows = .error e) :
    written sql ⟨rows, .error (.batchExecution rows.length e)⟩ =
      writtenRows failures sql rows := by
  rw [batchVerdict] at h
  rw [written, writtenRows]
  dsimp only
  split at h
  · rename_i he
    obtain rfl := Except.error.inj h
    rw [if_pos rfl, if_pos he]
  · rename_i he
    have hother : e ≠ FailurePoint.execute.error := by
      split at h
      · obtain rfl := Except.error.inj h
        intro hsame
        cases hsame
      · split at h
        · obtain rfl := Except.error.inj h
          decide
        · cases h
    rw [if_neg he, if_neg fun hsame => hother (Error.batchExecution.inj hsame).2]

end Batch

/-- What became of the rows that were bound: they were flushed in batches, or are pending. -/
structure Batching where
  batches : List Batch
  pending : List (List Value)

namespace Batching

/-- A row more is pending, if one was bound. -/
def taking (b : Batching) (row : Option (List Value)) : Batching :=
  { b with pending := b.pending ++ row.toList }

/-- The pending rows are a batch if a call that is answered so leaves none of them pending. -/
def settled (b : Batching) (left : Nat) (answer : Except Error Unit) : Batching :=
  if b.pending.isEmpty ∨ 0 < left then b else ⟨b.batches ++ [⟨b.pending, answer⟩], []⟩

/-- What became of the rows bound in calls, by what can be seen of the calls. -/
def of {τ : Type} (setter : ParameterSetter τ) (deeds : List (Deed τ)) : Batching :=
  deeds.foldl (fun b d => (b.taking (d.bound setter)).settled d.pending d.answer) ⟨[], []⟩

variable {τ : Type} {setter : ParameterSetter τ} {b : Batching} {answer : Except Error Unit}

theorem of_concat (setter : ParameterSetter τ) (deeds : List (Deed τ)) (d : Deed τ) :
    of setter (deeds ++ [d]) =
      ((of setter deeds).taking (d.bound setter)).settled d.pending d.answer :=
  List.foldl_concat _ _ _ _

theorem taking_none (b : Batching) : b.taking none = b := by
  rw [taking, Option.toList_none, List.append_nil]

theorem settled_waiting : b.settled b.pending.length answer = b := by
  rw [settled]
  cases hp : b.pending with
  | nil => exact if_pos (.inl rfl)
  | cons row rest => exact if_pos (.inr (Nat.zero_lt_succ _))

theorem settled_flushed (h : b.pending ≠ []) :
    b.settled 0 answer = ⟨b.batches ++ [⟨b.pending, answer⟩], []⟩ := by
  rw [settled, if_neg (by simpa using h)]

theorem rows_settled (b : Batching) (left : Nat) (answer : Except Error Unit) :
    (b.settled left answer).batches.flatMap Batch.rows ++ (b.settled left answer).pending =
      b.batches.flatMap Batch.rows ++ b.pending := by
  rw [settled]
  split
  · rfl
  · rw [List.flatMap_append, List.flatMap_singleton, List.append_nil]

/-- The rows that were bound are those of the batches and those that are pending. -/
theorem rows_of (setter : ParameterSetter τ) (deeds : List (Deed τ)) :
    (of setter deeds).batches.flatMap Batch.rows ++ (of setter deeds).pending =
      deeds.filterMap (Deed.bound setter) := by
  induction deeds using List.reverseRecOn with
  | nil => rfl
  | append_singleton deeds d ih =>
    rw [of_concat, rows_settled, List.filterMap_append, ← ih, taking, ← List.append_assoc]
    cases hd : d.bound setter with
    | none => simp [hd]
    | some row => simp [hd]

end Batching

/-- The rows that were bound in these calls have all been flushed, and those that were committed
are what their batches have committed. No row is missing where no batch has failed. -/
structure Kept {τ : Type} (setter : ParameterSetter τ) (sql : String) (deeds : List (Deed τ)) :
    Prop where
  flushed : (Batching.of setter deeds).batches.flatMap Batch.rows =
    deeds.filterMap (Deed.bound setter)
  committed : deeds.flatMap Deed.committed = Batch.committed sql (Batching.of setter deeds).batches
  whole : (∀ d ∈ deeds, ¬d.Spoils) →
    deeds.flatMap Deed.committed = (deeds.filterMap (Deed.bound setter)).map (entry sql)

namespace WriteWorker

variable {σ τ : Type} {setter : ParameterSetter τ} {sql : String} {staged : List Entry}
  {w : WriteWorker σ τ}

/-- What is pending, committed and staged since a bundle was begun is so by its batches. -/
structure Balance (sql : String) (committed : List Entry) (b : Batching) (spoilt : Prop)
    (w : WriteWorker σ τ) (staged : List Entry) : Prop where
  pending : w.pending = b.pending
  committed : committed = Batch.committed sql b.batches
  staged : staged = Batch.staged sql b.batches
  spoilt : ∀ batch ∈ b.batches, batch.failed = true → spoilt

section Balance

variable {failures : List FailurePoint} {committed : List Entry} {b : Batching} {spoilt : Prop}
  {o : Outcome σ τ}

theorem balance_start (spoilt : Prop) (hp : w.pending = []) (hs : staged = []) :
    Balance sql [] ⟨[], []⟩ spoilt w staged :=
  ⟨hp, rfl, hs, nofun⟩

theorem Balance.taking (h : Balance sql committed b spoilt w staged) (row : List Value) :
    Balance sql committed (b.taking (some row)) spoilt (w.taking row) staged :=
  ⟨congrArg (· ++ [row]) h.pending, h.committed, h.staged, h.spoilt⟩

theorem Balance.waits {spoilt' : Prop} (h : Balance sql committed b spoilt w staged)
    (hs : spoilt → spoilt') (answer : Except Error Unit) :
    Balance sql (committed ++ []) (b.settled w.pending.length answer) spoilt' w staged := by
  rw [h.pending, Batching.settled_waiting, List.append_nil]
  exact ⟨h.pending, h.committed, h.staged, fun batch hb hf => hs (h.spoilt batch hb hf)⟩

/-- A flush settles what becomes of the rows that were pending. -/
theorem Balance.flush (h : Balance sql committed b spoilt w staged)
    (ho : Flushes failures sql staged w o) :
    Balance sql (committed ++ o.published) (b.settled o.worker.pending.length o.answer)
      (spoilt ∨ ∃ n e, o.answer = .error (.batchExecution n e)) o.worker o.staged := by
  cases ho with
  | idle hp => exact h.waits .inl _
  | through hp hv =>
    obtain ⟨hpending, hcommitted, hstaged, hspoilt⟩ := h
    rw [hpending] at hp
    change Balance sql _ (b.settled 0 (.ok ())) _ _ _
    rw [Batching.settled_flushed hp, hpending]
    refine ⟨rfl, ?_, (Batch.staged_concat_ok _ _ _).symm, fun batch hb hf => ?_⟩
    · rw [Batch.committed_concat_ok, hcommitted, hstaged]
    · rcases List.mem_append.mp hb with hb | hb
      · exact .inl (hspoilt batch hb hf)
      · obtain rfl := List.mem_singleton.mp hb
        cases hf
  | failed hp hv hpart =>
    obtain ⟨hpending, hcommitted, hstaged, hspoilt⟩ := h
    rw [hpending] at hp hv hpart
    rw [hpending]
    change Balance sql _ (b.settled 0 _) _ _ _
    rw [Batching.settled_flushed hp]
    refine ⟨rfl, ?_, ?_, fun _ _ _ => .inr ⟨_, _, rfl⟩⟩
    · rw [List.append_nil, Batch.committed_concat_error, hcommitted]
    · rw [Batch.staged_concat_error, Batch.written_of_verdict hv, hpart, hstaged]

end Balance

/-- How a worker stands after these calls. -/
def Stands (setter : ParameterSetter τ) (sql : String) (deeds : List (Deed τ))
    (w : WriteWorker σ τ) (staged : List Entry) : Prop :=
  let since := Deed.sinceStart deeds
  Balance sql (since.flatMap Deed.committed) (Batching.of setter since)
    (∃ d ∈ since, d.Spoils) w staged

section Stands

variable {failures : List FailurePoint} {deeds : List (Deed τ)} {d : Deed τ} {c : Call τ}
  {o : Outcome σ τ}

theorem stands_begins (hd : d.begins) (hp : w.pending = []) (hs : staged = []) :
    Stands setter sql (deeds ++ [d]) w staged := by
  rw [Stands, Deed.sinceStart_begins hd]
  exact balance_start _ hp hs

theorem stands_goes_on (row : Option (List Value)) (hd : (o.deed c).begins = false)
    (hrow : (o.deed c).bound setter = row)
    (h : Balance sql ((Deed.sinceStart deeds).flatMap Deed.committed ++ o.published)
      (((Batching.of setter (Deed.sinceStart deeds)).taking row).settled o.worker.pending.length
        o.answer)
      ((∃ d ∈ Deed.sinceStart deeds, d.Spoils) ∨ ∃ n e, o.answer = .error (.batchExecution n e))
      o.worker o.staged) :
    Stands setter sql (deeds ++ [o.deed c]) o.worker o.staged := by
  rw [← hrow] at h
  rw [Stands, Deed.sinceStart_goes_on hd, Batching.of_concat, List.flatMap_append]
  simp only [List.mem_append, List.mem_singleton, or_and_right, exists_or, exists_eq_left,
    List.flatMap_singleton]
  exact h

/-- A call of an open worker is accounted for. -/
theorem Stands.step (h : Stands w.setter sql deeds w staged)
    (hclean : w.needsRollback = false → staged = []) (ho : Happens failures sql staged w c o) :
    Stands w.setter sql (deeds ++ [o.deed c]) o.worker o.staged := by
  cases ho with
  | begun hr hp => exact stands_begins rfl hp (hclean hr)
  | rolledBack hleft => exact stands_begins rfl rfl rfl
  | refused hx =>
    refine stands_goes_on none rfl (by rw [Outcome.bound_process, hx]; rfl) ?_
    rw [Batching.taking_none]
    exact Balance.waits h .inl _
  | @taken x row hx hroom =>
    refine stands_goes_on (some row) rfl (by rw [Outcome.bound_process, hx]; rfl) ?_
    exact (h.taking row).waits .inl _
  | @filled x row o hx hfull hflush =>
    refine stands_goes_on (some row) rfl (by rw [Outcome.bound_process, hx]; rfl) ?_
    exact (h.taking row).flush hflush
  | flush hflush =>
    refine stands_goes_on none rfl rfl ?_
    rw [Batching.taking_none]
    exact Balance.flush h hflush
  | finishBundle hflush =>
    refine stands_goes_on none rfl rfl ?_
    rw [Batching.taking_none]
    exact Balance.flush h hflush

/-- Where nothing is pending, what was committed is as the batches have it. -/
theorem Stands.kept (h : Stands setter sql deeds w staged) (hp : w.pending = []) :
    Kept setter sql (Deed.sinceStart deeds) := by
  obtain ⟨hpending, hcommitted, -, hspoilt⟩ := h
  have hrows := Batching.rows_of setter (Deed.sinceStart deeds)
  rw [← hpending, hp, List.append_nil] at hrows
  refine ⟨hrows, hcommitted, fun hnone => ?_⟩
  rw [hcommitted, Batch.committed_of_none_failed fun batch hb => ?_, hrows]
  rw [← Bool.not_eq_true]
  intro hf
  obtain ⟨d, hd, hspoils⟩ := hspoilt batch hb hf
  exact hnone d hd hspoils

end Stands

/-- What is so of the calls that were made of a worker, in any order. -/
structure Promised (setter : ParameterSetter τ) (sql : String) (deeds : List (Deed τ))
    (w : WriteWorker σ τ) (staged : List Entry) : Prop where
  binds : w.setter = setter
  clean : w.needsRollback = false → staged = []
  stands : w.state ≠ .closed → Stands setter sql deeds w staged
  kept : ∀ front d back, deeds = front ++ d :: back → d.Finishes →
    Kept setter sql (Deed.sinceStart (front ++ [d]))

theorem promised_fresh (f : Focus σ Database) (seat : Seat) (setter : ParameterSetter τ)
    (size : Nat) : Promised setter sql [] (fresh f seat setter size) [] where
  binds := rfl
  clean _ := rfl
  stands _ := balance_start _ rfl rfl
  kept front d back he := by simp at he

/-- Whenever a bundle is finished, the promise of it is kept. -/
theorem Promised.call {deeds : List (Deed τ)} (h : Promised setter sql deeds w staged)
    (failures : List FailurePoint) (c : Call τ) :
    let o := w.outcome failures sql staged c
    Promised setter sql (deeds ++ [o.deed c]) o.worker o.staged := by
  intro o
  obtain ⟨rfl, hclean, hstands, hkept⟩ := h
  have hcomes : Comes failures sql staged w c o := outcome_comes failures sql staged w c
  have hnext : o.worker.state ≠ .closed →
      Stands w.setter sql (deeds ++ [o.deed c]) o.worker o.staged := by
    intro ho
    obtain ⟨hopen, hhappens⟩ := hcomes.happened ho
    exact (hstands hopen).step hclean hhappens
  refine ⟨hcomes.setter, hcomes.clean hclean, hnext, forall_cut_concat hkept ?_⟩
  intro hfinishes
  refine (hnext hfinishes.isOpen).kept ?_
  obtain ⟨_, hhappens⟩ := hcomes.happened hfinishes.isOpen
  obtain rfl : c = .finishBundle := hfinishes.call
  generalize o = o' at hhappens
  cases hhappens with
  | finishBundle hflush => exact hflush.emptied

end WriteWorker

/-- In whatever order the calls of a worker are made and whatever fails in them, the rows bound
since a bundle was begun have all been flushed when it is finished. Committed are, in their order,
those of the batches that did not fail, with what a batch that failed before one of these had left
in the transaction, and so all of them where no batch has failed. -/
theorem finished_bundles_kept {σ τ : Type} {f : Focus σ Database} [f.Lawful]
    {registry : Registry σ} {c : WriteConnector σ τ} {config : ConnectionConfig σ}
    {db : Database} (world : σ) {s : σ} {w : WriteWorker σ τ} (hc : c.config = some config)
    (hr : Reaches f registry config) (h : Does (c.setup registry).run (f.set db world) (.ok w) s)
    (calls : List (List Switch × Call τ)) :
    ∃ sql setter deeds w' db', c.statement = some sql ∧ c.setter = some setter ∧
      Does (w.drive f calls) s (deeds, w') (f.set db' world) ∧
      deeds.map Deed.call = calls.map Prod.snd ∧
      db'.committed = db.committed ++ deeds.flatMap Deed.committed ∧
      ∀ front d back, deeds = front ++ d :: back → d.Finishes →
        Kept setter sql (Deed.sinceStart (front ++ [d])) := by
  obtain ⟨sql, setter, username, hs, ht, _, rfl, rfl⟩ := WriteConnector.of_setup_ok world hc hr h
  obtain ⟨deeds, w', db', hdrive, ⟨_, _, hpromised⟩, hcalls, hcommitted⟩ :=
    (WriteWorker.posted_fresh f db username sql setter c.batchSize).drive world
      (WriteWorker.Promised setter sql) (fun _ _ _ failures call h => h.call failures call)
      (WriteWorker.promised_fresh f (db.nextSeat sql) setter c.batchSize) calls
  exact ⟨sql, setter, deeds, w', db', hs, ht, hdrive, hcalls, hcommitted, hpromised.kept⟩

/-- A flush that fails, a bundle that begins again after it, a batch that is full and one that is
not. -/
theorem finished_bundles_kept_again :
    let setter : ParameterSetter Int64 := ⟨"one value", fun n => .ok ⟨[some (.int64 n)]⟩⟩
    let config : ConnectionConfig Database := .ofSource (dataSource .self)
    let c : WriteConnector Database Int64 := ⟨some config, some "SET ?", some setter, 2⟩
    let w : WriteWorker Database Int64 := .fresh .self ⟨"SET ?", 0, 0⟩ setter 2
    let s : Database := Database.empty.engaged none "SET ?"
    let calls : List (List Switch × Call Int64) := [([], .process 1), ([.fail .commit], .flush),
      ([.clear .commit], .startBundle), ([], .process 1), ([], .process 2), ([], .process 3),
      ([], .finishBundle)]
    (c.config = some config ∧ Reaches .self [] config ∧
      Does (c.setup []).run Database.empty (.ok w) s) ∧
    ∃ sql setter' deeds w' db', c.statement = some sql ∧ c.setter = some setter' ∧
      Does (w.drive .self calls) s (deeds, w') db' ∧
      db'.committed = deeds.flatMap Deed.committed ∧
      (∀ front d back, deeds = front ++ d :: back → d.Finishes →
        Kept setter' sql (Deed.sinceStart (front ++ [d]))) ∧
      deeds.map (fun d => (d.answer.isOk, d.committed.length)) =
        [(true, 0), (false, 0), (true, 0), (true, 0), (true, 2), (true, 0), (true, 1)] := by
  intro setter config c w s calls
  have hreaches : Reaches .self [] config := .source rfl
  have hsetup : Does (c.setup []).run Database.empty (.ok w) s := fun _ => ⟨_, rfl⟩
  have hseen : ((w.drive .self calls).run ⟨s, #[]⟩).1.1.map
      (fun d => (d.answer.isOk, d.committed.length)) =
        [(true, 0), (false, 0), (true, 0), (true, 0), (true, 2), (true, 0), (true, 1)] := by
    decide +kernel
  obtain ⟨sql, setter', deeds, w', db', hs, ht, hdrive, _, hcommitted, hkept⟩ :=
    finished_bundles_kept (f := .self) Database.empty rfl hreaches hsetup calls
  rw [(hdrive.run #[]).1] at hseen
  exact ⟨⟨rfl, hreaches, hsetup⟩, sql, setter', deeds, w', db', hs, ht, hdrive, hcommitted, hkept,
    hseen⟩

/-- Where the calls go on after a batch has failed, a row that was not executed is lost, and one
that was not committed is committed with the next batch. -/
theorem finished_bundle_of_failed_batches :
    let setter : ParameterSetter Int64 := ⟨"one value", fun n => .ok ⟨[some (.int64 n)]⟩⟩
    let config : ConnectionConfig Database := .ofSource (dataSource .self)
    let c : WriteConnector Database Int64 := ⟨some config, some "SET ?", some setter, 2⟩
    let w : WriteWorker Database Int64 := .fresh .self ⟨"SET ?", 0, 0⟩ setter 2
    let s : Database := Database.empty.engaged none "SET ?"
    let calls : List (List Switch × Call Int64) := [([], .startBundle), ([], .process 1),
      ([.fail .execute], .flush), ([.clear .execute], .process 2), ([.fail .commit], .flush),
      ([.clear .commit], .process 3), ([], .finishBundle)]
    Does (c.setup []).run Database.empty (.ok w) s ∧
    ∃ deeds w' db', Does (w.drive .self calls) s (deeds, w') db' ∧
      (∃ d ∈ deeds.getLast?, d.Finishes) ∧
      ((Deed.sinceStart deeds).flatMap Deed.committed).map (fun e => e.2.map Value.toInt64?) =
        [[some 2], [some 3]] ∧
      ((Deed.sinceStart deeds).filterMap (Deed.bound setter)).map (·.map Value.toInt64?) =
        [[some 1], [some 2], [some 3]] := by
  intro setter config c w s calls
  have hsetup : Does (c.setup []).run Database.empty (.ok w) s := fun _ => ⟨_, rfl⟩
  obtain ⟨deeds, w', db', hdrive⟩ :
      ∃ deeds w' db', Does (w.drive .self calls) s (deeds, w') db' := by
    obtain ⟨deeds, w', db', hdrive, _⟩ :=
      (WriteWorker.posted_fresh .self Database.empty none "SET ?" setter 2).drive Database.empty
        (fun _ _ _ => True) (fun _ _ _ _ _ _ => trivial) trivial calls
    exact ⟨deeds, w', db', hdrive⟩
  have hlast : ∃ d ∈ ((w.drive .self calls).run ⟨s, #[]⟩).1.1.getLast?, d.Finishes := by
    decide +kernel
  have hcommitted : ((Deed.sinceStart ((w.drive .self calls).run ⟨s, #[]⟩).1.1).flatMap
      Deed.committed).map (fun e => e.2.map Value.toInt64?) = [[some 2], [some 3]] := by
    decide +kernel
  have hbound : ((Deed.sinceStart ((w.drive .self calls).run ⟨s, #[]⟩).1.1).filterMap
      (Deed.bound setter)).map (·.map Value.toInt64?) = [[some 1], [some 2], [some 3]] := by
    decide +kernel
  rw [(hdrive.run #[]).1] at hlast hcommitted hbound
  exact ⟨hsetup, deeds, w', db', hdrive, hlast, hcommitted, hbound⟩

end BatchSql
