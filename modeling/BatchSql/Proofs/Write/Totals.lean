import Mathlib.Algebra.GroupWithZero.Nat
import BatchSql.Proofs.Write.Bundle

namespace BatchSql
open Memory

namespace Memory.Database

variable {db db' : Database} {sql : String} {rows : List (List Value)}

theorem committedRows_appended (h : db'.committed = db.committed ++ rows.map (entry sql)) :
    db'.committedRows sql = db.committedRows sql ++ rows := by
  have hsame : (rows.map (entry sql)).filter (fun e => e.1 = Text.squeeze sql) =
      rows.map (entry sql) := by
    simp [entry]
  rw [committedRows, h, List.filter_append, hsame, List.map_append, List.map_map]
  congr 1
  exact List.map_id rows

theorem committedRows_elsewhere (h : db'.committed = db.committed ++ rows.map (entry sql))
    {other : String} (hother : Text.squeeze sql ≠ Text.squeeze other) :
    db'.committedRows other = db.committedRows other := by
  have hnone : (rows.map (entry sql)).filter (fun e => e.1 = Text.squeeze other) = [] := by
    simp [entry, hother]
  rw [committedRows, h, List.filter_append, hnone, List.append_nil]
  rfl

end Memory.Database

namespace WriteWorker

variable {σ τ : Type} {f : Focus σ Database} {job : Job τ} {s₀ : WriteStats}
  {w w' : WriteWorker σ τ} {db₀ db db' : Database} {rows more : List (List Value)}
  {batches batches' done : Nat}

/-- A worker that has written all rows it was given since `s₀` was counted and `db₀` was there. -/
structure Written (f : Focus σ Database) (job : Job τ) (s₀ : WriteStats) (db₀ : Database)
    (rows : List (List Value)) (batches : Nat) (w : WriteWorker σ τ) (db : Database) : Prop
    extends Seated f job w db where
  clean : w.needsRollback = false
  pending : w.pending = []
  stats : w.stats = s₀.advance rows.length batches rows.length
  committed : db.committed = db₀.committed ++ rows.map (entry job.seat.sql)
  counted : db.stats = db₀.stats.advance batches rows.length

theorem Underway.written (h : Underway f job s₀ db₀ rows batches rows.length w db) :
    Written f job s₀ db₀ rows batches w db where
  toSeated := h.toSeated
  clean := h.clean
  pending := by rw [h.pending, List.drop_length]
  stats := h.stats
  committed := by rw [h.committed, List.take_length]
  counted := h.counted

theorem Seated.unwritten (h : Seated f job w db) (hr : w.needsRollback = false)
    (hp : w.pending = []) : Written f job w.stats db [] 0 w db where
  toSeated := h
  clean := hr
  pending := hp
  stats := rfl
  committed := by simp
  counted := rfl

/-- What is written in two parts is written. -/
theorem Written.trans (h : Written f job s₀ db₀ rows batches w db)
    (h' : Written f job w.stats db more batches' w' db') :
    Written f job s₀ db₀ (rows ++ more) (batches + batches') w' db' where
  toSeated := h'.toSeated
  clean := h'.clean
  pending := h'.pending
  stats := by
    rw [h'.stats, h.stats]
    simp [WriteStats.advance, Nat.add_assoc]
  committed := by
    rw [h'.committed, h.committed, List.append_assoc, List.map_append]
  counted := by
    rw [h'.counted, h.counted]
    simp [Stats.advance, Nat.add_assoc]

variable [f.Lawful] (world : σ)

/-- Elements with rows that fit are all taken up. -/
theorem Underway.processAll_ok (h : Underway f job s₀ db₀ rows batches done w db)
    (hw : Whole job.batchSize rows.length batches done) (hf : db.failures = [])
    (hrows : ∀ row ∈ rows, job.seat.Fits row) {xs : List τ}
    (hxs : xs.map job.setter.row = more.map .ok) (hmore : ∀ row ∈ more, job.seat.Fits row)
    (n : Nat) :
    ∃ batches' done' w' db', Does (w.processAll n xs) (f.set db world) (.ok (), n + xs.length, w')
        (f.set db' world) ∧
      Underway f job s₀ db₀ (rows ++ more) batches' done' w' db' ∧
      Whole job.batchSize (rows ++ more).length batches' done' ∧ db'.failures = [] := by
  induction xs generalizing rows more batches done w db n with
  | nil =>
    obtain rfl : more = [] := by simpa using hxs
    rw [List.append_nil]
    exact ⟨batches, done, w, db, Does.pure _ _, h, hw, hf⟩
  | cons x xs ih =>
    obtain ⟨row, more, rfl, hx, hxs⟩ := List.map_eq_cons_iff.mp hxs.symm
    rw [List.forall_mem_cons] at hmore
    obtain ⟨hrow, hmore⟩ := hmore
    have hfits : ∀ r ∈ rows ++ [row], job.seat.Fits r :=
      List.forall_mem_append.mpr ⟨hrows, List.forall_mem_singleton.mpr hrow⟩
    have hwaiting : ∀ r ∈ w.pending, job.seat.Fits r := by
      intro r hr
      rw [h.pending] at hr
      exact hrows r (List.mem_of_mem_drop hr)
    have ha : db.Accepts job.seat (w.pending ++ [row]) := by
      refine ⟨by simp [hf], by simp [hf], ?_⟩
      exact List.forall_mem_append.mpr ⟨hwaiting, List.forall_mem_singleton.mpr hrow⟩
    obtain ⟨_, _, w₁, db₁, hstep, hnext, hwhole, hkept⟩ := h.process_ok world hw hx.symm fun _ => ha
    obtain ⟨batches', done', w₂, db₂, hloop, hall⟩ :=
      ih hnext hwhole (hkept.trans hf) hfits hxs.symm hmore (n + 1)
    rw [List.append_assoc] at hall
    rw [List.length_cons, Nat.add_comm xs.length, ← Nat.add_assoc]
    exact ⟨batches', done', w₂, db₂, hstep.bind hloop, hall⟩

theorem Written.writeBundle_ok (h : Written f job s₀ db₀ rows batches w db)
    (hsize : 0 < job.batchSize) (hf : db.failures = []) {xs : List τ}
    (hxs : xs.map job.setter.row = more.map .ok) (hmore : ∀ row ∈ more, job.seat.Fits row) :
    ∃ w' db', Does (w.writeBundle xs) (f.set db world) (.ok (), w') (f.set db' world) ∧
      Written f job s₀ db₀ (rows ++ more) (batches + batchCount job.batchSize xs.length) w' db' ∧
      db'.failures = [] := by
  have hstart := startBundle_clean h.hold h.clean h.pending (f.set db world)
  have hbegun := h.begun h.clean h.pending
  obtain ⟨_, _, w₁, db₁, hloop, hall, hwhole, hkept⟩ :=
    hbegun.processAll_ok world (.zero hsize) hf (by simp) hxs hmore 0
  have ha : db₁.Accepts job.seat w₁.pending := by
    refine ⟨by simp [hkept], by simp [hkept], fun row hrow => hmore row ?_⟩
    rw [hall.pending] at hrow
    exact List.mem_of_mem_drop hrow
  obtain ⟨w₂, db₂, hfinish, hdone, hkept'⟩ := hall.finish_ok world hwhole fun _ => ha
  refine ⟨w₂, db₂, hstart.bind (hloop.bind hfinish), ?_, hkept'.trans hkept⟩
  rw [length_of_map_ok hxs]
  exact h.trans hdone.written

theorem Written.writeBundles_ok (h : Written f job s₀ db₀ rows batches w db)
    (hsize : 0 < job.batchSize) (hf : db.failures = []) {bundles : List (List τ)}
    (hxs : bundles.flatten.map job.setter.row = more.map .ok)
    (hmore : ∀ row ∈ more, job.seat.Fits row) :
    ∃ w' db', Does (w.writeBundles bundles) (f.set db world) (.ok (), w') (f.set db' world) ∧
      Written f job s₀ db₀ (rows ++ more)
        (batches + (bundles.map fun b => batchCount job.batchSize b.length).sum) w' db' ∧
      db'.failures = [] := by
  induction bundles generalizing rows more batches w db with
  | nil =>
    obtain rfl : more = [] := by simpa using hxs
    rw [List.append_nil]
    exact ⟨w, db, Does.pure _ _, h, hf⟩
  | cons bundle rest ih =>
    rw [List.flatten_cons, List.map_append] at hxs
    obtain ⟨front, back, rfl, hfront, hback⟩ := List.append_eq_map_iff.mp hxs
    rw [List.forall_mem_append] at hmore
    obtain ⟨w₁, db₁, hbundle, hwritten, hkept⟩ :=
      h.writeBundle_ok world hsize hf hfront.symm hmore.1
    obtain ⟨w₂, db₂, hrest, hall⟩ := ih hwritten hkept hback.symm hmore.2
    rw [List.append_assoc, Nat.add_assoc] at hall
    exact ⟨w₂, db₂, hbundle.bind hrest, hall⟩

end WriteWorker

/-- Where nothing fails, bundles are written in full: in as few batches as their lengths allow,
each committed at once, over one connection and one statement that are closed again. -/
theorem bundles_written_in_full {σ τ : Type} {f : Focus σ Database} [f.Lawful]
    {registry : Registry σ} {c : WriteConnector σ τ} {config : ConnectionConfig σ}
    {sql : String} {setter : ParameterSetter τ} {db : Database} (world : σ)
    (hv : c.validate = .ok ()) (hc : c.config = some config) (hr : Reaches f registry config)
    (hs : c.statement = some sql) (ht : c.setter = some setter) (hf : db.failures = [])
    (bundles : List (List τ))
    (hrows : ∀ bundle ∈ bundles, ∀ x ∈ bundle,
      ∃ row, setter.row x = .ok row ∧ row.length = placeholders sql) :
    let elements := (bundles.map List.length).sum
    let batches := (bundles.map fun b => batchCount c.batchSize b.length).sum
    ∃ (rows : List (List Value)) (db' : Database), bundles.flatten.map setter.row = rows.map .ok ∧
      Does (c.writeBundles registry bundles).run (f.set db world)
        (.ok ⟨elements, elements, batches, batches, 0⟩) (f.set db' world) ∧
      db'.committedRows sql = db.committedRows sql ++ rows ∧
      (∀ other, Text.squeeze sql ≠ Text.squeeze other →
        db'.committedRows other = db.committedRows other) ∧
      ∃ username, db'.stats =
        { db.stats with
          connectionsOpened := db.stats.connectionsOpened + 1
          statementsPrepared := db.stats.statementsPrepared + 1
          statementsClosed := db.stats.statementsClosed + 1
          batchExecutions := db.stats.batchExecutions + batches
          statementsExecuted := db.stats.statementsExecuted + elements
          commits := db.stats.commits + batches
          lastUsername := username } := by
  intro elements batches
  obtain ⟨_, _, _, _, _, _, hsize, _⟩ := WriteConnector.parts_of_valid hv
  have hall : ∀ x ∈ bundles.flatten, ∃ row, setter.row x = .ok row ∧
      row.length = placeholders sql := by
    intro x hx
    obtain ⟨bundle, hbundle, hx⟩ := List.mem_flatten.mp hx
    exact hrows bundle hbundle x hx
  obtain ⟨rows, hbound, hfits⟩ := exists_map_ok hall
  have hcount : rows.length = elements := by
    rw [← length_of_map_ok hbound, List.length_flatten]
  have hnever : ∀ p, p ∉ db.failures := by
    simp [hf]
  obtain ⟨username, hsetup⟩ :=
    WriteConnector.setup_ok world hv hc hr hs ht (hnever .connect) (hnever .prepare)
  have hseated := WriteWorker.seated_fresh f db username sql setter c.batchSize
  obtain ⟨w, db₁, hwrite, hwritten, hkept⟩ :=
    (hseated.unwritten rfl rfl).writeBundles_ok world hsize hf hbound hfits
  rw [List.nil_append, Nat.zero_add] at hwritten
  have hteardown := WriteWorker.teardown_open world hwritten.hold hwritten.isOpen
    (hwritten.toSeated.nothing_staged hwritten.clean)
  have hstats : w.stats = ⟨elements, elements, batches, batches, 0⟩ := by
    rw [hwritten.stats, hcount]
    simp [WriteWorker.fresh, WriteStats.advance, batches]
  have hquiet : ((db₁.verdict .statementClose).bind fun _ => db₁.verdict .connectionClose) =
      .ok () := by
    simp [Database.verdict, hkept, Except.bind]
  rw [hquiet] at hteardown
  refine ⟨rows, db₁.released (db.nextSeat sql) [], hbound, ?_, ?_, ?_, ?_⟩
  · rw [← hstats]
    refine Does.task_bind hsetup (Does.task_bind (Does.lift hwrite)
      (Does.task_bind (Does.lift hteardown) ?_))
    exact Does.task_bind (Does.ofExcept _ _) (Does.task_bind (Does.ofExcept _ _) (Does.pure _ _))
  · exact Database.committedRows_appended hwritten.committed
  · intro other hother
    exact Database.committedRows_elsewhere hwritten.committed hother
  · refine ⟨username.or db.stats.lastUsername, ?_⟩
    change (Stats.disconnect ∘ Stats.closeStatement) db₁.stats = _
    rw [hwritten.counted, hcount]
    rfl

/-- A bundle that ends in a smaller batch, an empty one and one of a whole batch, beside rows that
were there before. -/
theorem bundles_written_in_full_beside_others :
    let setter : ParameterSetter Int64 := ⟨"one value", fun n => .ok ⟨[some (.int64 n)]⟩⟩
    let config : ConnectionConfig Database := .ofSource (dataSource .self)
    let c : WriteConnector Database Int64 := ⟨some config, some "SET ?", some setter, 2⟩
    let db : Database := { Database.empty with committed := [("SET ?", [.null]), ("KEEP", [])] }
    let bundles : List (List Int64) := [[1, 2, 3], [], [4, 5]]
    (c.validate = .ok () ∧ Reaches .self [] config ∧ db.failures = [] ∧
      ∀ bundle ∈ bundles, ∀ x ∈ bundle,
        ∃ row, setter.row x = .ok row ∧ row.length = placeholders "SET ?") ∧
    ∃ (rows : List (List Value)) (db' : Database),
      bundles.flatten.map setter.row = rows.map .ok ∧
      Does (c.writeBundles [] bundles).run db (.ok ⟨5, 5, 3, 3, 0⟩) db' ∧
      db'.committedRows "SET ?" = db.committedRows "SET ?" ++ rows ∧
      ∃ username, db'.stats = ⟨1, 0, 0, 1, 1, 3, 5, 3, 0, username⟩ := by
  intro setter config c db bundles
  have hv : c.validate = .ok () := rfl
  have hreaches : Reaches .self [] config := .source rfl
  have hrows : ∀ bundle ∈ bundles, ∀ x ∈ bundle,
      ∃ row, setter.row x = .ok row ∧ row.length = placeholders "SET ?" :=
    fun _ _ x _ => ⟨[.int64 x], rfl, (by decide : 1 = placeholders "SET ?")⟩
  have hf : db.failures = [] := rfl
  have helements : (bundles.map List.length).sum = 5 := by decide
  have hbatches : (bundles.map fun b => batchCount c.batchSize b.length).sum = 3 := by decide
  obtain ⟨rows, db', hbound, hdoes, hsame, _, username, hstats⟩ :=
    bundles_written_in_full (f := .self) db hv rfl hreaches rfl rfl hf bundles hrows
  rw [helements, hbatches] at hdoes hstats
  exact ⟨⟨hv, hreaches, hf, hrows⟩, rows, db', hbound, hdoes, hsame, username, hstats⟩

end BatchSql
