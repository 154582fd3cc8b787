import BatchSql.Proofs.Read.Noting

namespace BatchSql
open Memory

/-- What could be seen of a call: what the query found, the answer, what was asked of the host, and
the records that were left in the barrier. -/
structure Visit (τ : Type) where
  found : Except Error Cursor
  answer : Except Error Nat
  asked : Asked τ
  left : Option (List Keyed)

/-- Whatever the grouping gave back in a call had been given to it in this call. -/
def Visit.GivesBack {τ : Type} (v : Visit τ) : Prop :=
  ∀ keyed groups, (keyed, .ok groups) ∈ v.asked.grouped →
    ∀ bs ∈ groups.flatMap Prod.snd, bs ∈ keyed.map Prod.snd

namespace ReadWorker

variable {σ η τ : Type}

/-- What the query of a worker finds. -/
def find (w : ReadWorker σ τ) (t : Traced σ) : Except Error Cursor :=
  match w.connection with
  | none => .error (.connection "read worker is closed")
  | some connection => ((connection.queryStream w.query []).run.run t).1

/-- A call is made and watched. -/
def visit (w : ReadWorker σ τ) (host : Host η τ) : Step (σ × η) (Visit τ × ReadWorker σ τ) := do
  let t ← get
  let ((r, w'), t') := (w.process host.noting).run ⟨(t.world.1, t.world.2, .nothing), t.events⟩
  set (Traced.mk (t'.world.1, t'.world.2.1) t'.events)
  pure (⟨w.find ⟨t.world.1, t.events⟩, r, t'.world.2.2, w'.barrier.map FusionBarrier.keyed⟩, w')

/-- Does what comes before a call. -/
def after (act : ReadWorker σ τ → Host η τ → Step (σ × η) (ν × ReadWorker σ τ))
    (w : ReadWorker σ τ) (call : Step (σ × η) Unit × Host η τ) :
    Step (σ × η) (ν × ReadWorker σ τ) := do
  call.1
  act w call.2

/-- Calls are made one after the other, each with a host of its own, and anything may be done
before each of them. -/
def processAll (w : ReadWorker σ τ) (calls : List (Step (σ × η) Unit × Host η τ)) :
    Step (σ × η) (List (Except Error Nat) × ReadWorker σ τ) :=
  Step.inTurn (after process) w calls

/-- The same calls are watched. -/
def visitAll (w : ReadWorker σ τ) (calls : List (Step (σ × η) Unit × Host η τ)) :
    Step (σ × η) (List (Visit τ) × ReadWorker σ τ) :=
  Step.inTurn (after visit) w calls

/-- To note more of each call than its answer changes nothing in them. -/
theorem run_processAll {ν : Type}
    {act : ReadWorker σ τ → Host η τ → Step (σ × η) (ν × ReadWorker σ τ)}
    {answer : ν → Except Error Nat}
    (h : ∀ host w, (fun p => (answer p.1, p.2)) <$> act w host = w.process host)
    {w w' : ReadWorker σ τ} {calls : List (Step (σ × η) Unit × Host η τ)} {notes : List ν}
    {t t' : Traced (σ × η)} (hnotes : (Step.inTurn (after act) w calls).run t = ((notes, w'), t')) :
    (w.processAll calls).run t = ((notes.map answer, w'), t') := by
  have hsame : (fun p => (p.1.map answer, p.2)) <$> Step.inTurn (after act) w calls =
      w.processAll calls := by
    refine Step.map_inTurn answer (fun w call => ?_) calls
    rw [after, after, ← h, map_bind]
  rw [← hsame, StateT.run_map, hnotes]
  rfl

/-- What each call keeps is kept by calls made one after the other. -/
theorem run_inTurn {ν : Type}
    {act : ReadWorker σ τ → Host η τ → Step (σ × η) (ν × ReadWorker σ τ)}
    (holds : List ν → ReadWorker σ τ → Prop) {calls : List (Step (σ × η) Unit × Host η τ)}
    (hstep : ∀ call ∈ calls, ∀ noted w t, holds noted w →
      ∃ note w' t', (act w call.2).run t = ((note, w'), t') ∧ holds (noted ++ [note]) w')
    {w : ReadWorker σ τ} (h : holds [] w) (t : Traced (σ × η)) :
    ∃ notes w' t', (Step.inTurn (after act) w calls).run t = ((notes, w'), t') ∧
      notes.length = calls.length ∧ holds notes w' := by
  refine sequential_run.inTurn
    (fun done notes w _ => notes.length = done.length ∧ holds notes w) ?_ ⟨rfl, h⟩
  rintro call hcall done noted w t ⟨hlength, hnoted⟩
  rcases hbefore : call.1.run t with ⟨⟨⟩, t₁⟩
  obtain ⟨note, w', t', hact, hnext⟩ := hstep call hcall noted w t₁ hnoted
  refine ⟨note, w', t', (run_step_bind hbefore).trans hact, ?_, hnext⟩
  rw [List.length_append, List.length_append, hlength]
  rfl

section Watching

variable {η' : Type} {host : Host η τ} {forget : η' → η} {more : Host η' τ}

theorem pass_shadowed (h : host.Shadows forget more) (barrier : Option (FusionBarrier τ))
    (record : τ) : Shadowed forget (pass host barrier record) (pass more barrier record) := by
  cases barrier with
  | none => exact .bind (h.emit record) fun _ => .pure _
  | some b => exact .pure _

theorem scan_shadowed (h : host.Shadows forget more) (mapper : RowMapper τ)
    (last : Except Error (Option Row)) (coming : List (Except Error (Option Row))) (index : Nat)
    (barrier : Option (FusionBarrier τ)) :
    Shadowed forget (scan mapper host last coming index barrier)
      (scan mapper more last coming index barrier) := by
  induction coming generalizing index barrier with
  | nil => exact .pure _
  | cons next rest ih =>
    rcases next with e | none | row
    · exact .pure _
    · exact .pure _
    · rw [scan, scan]
      cases mapper.map row with
      | error e => exact .pure _
      | ok record =>
        refine .bind (pass_shadowed h barrier record) fun passed => ?_
        rcases passed with ⟨e | u, barrier⟩
        · exact .pure _
        · exact .bind (.log _ _ _) fun _ => ih (index + 1) barrier

theorem settle_shadowed (h : host.Shadows forget more) (s : Scanned τ) :
    Shadowed forget (settle host s) (settle more s) := by
  rcases s with ⟨e | u, rows, none | b⟩
  · exact .pure _
  · exact .pure _
  · exact .pure _
  · exact .bind (h.flush b) fun _ => .pure _

theorem process_shadowed (h : host.Shadows forget more) (w : ReadWorker σ τ) :
    Shadowed (Prod.map id forget) (w.process host) (w.process more) := by
  rw [process, process]
  cases w.connection with
  | none => exact .pure _
  | some connection =>
    have hself : Shadowed id (connection.queryStream w.query []).run
        (connection.queryStream w.query []).run := fun _ => rfl
    refine .bind (hself.within (fun _ => rfl) fun _ _ => rfl) fun found => ?_
    cases found with
    | error e => exact .pure _
    | ok cursor =>
      refine .bind ((scan_shadowed h _ _ _ _ _).within (fun _ => rfl) fun _ _ => rfl) fun s => ?_
      refine .bind (.log _ _ _) fun _ => ?_
      exact .bind ((settle_shadowed h s).within (fun _ => rfl) fun _ _ => rfl) fun _ => .pure _

/-- A call that is watched is made as it is without. -/
theorem visit_answer (host : Host η τ) (w : ReadWorker σ τ) :
    (fun p => (p.1.answer, p.2)) <$> w.visit host = w.process host := by
  funext t
  exact (process_shadowed (noting_shadows host) w ⟨(t.world.1, t.world.2, .nothing), t.events⟩).symm

end Watching

/-- The encodings of all rows of a cursor, or the first failure to read, map or encode one. -/
def gather (mapper : RowMapper τ) (codec : Codec τ) (last : Except Error (Option Row)) :
    List (Except Error (Option Row)) → Nat → Except Error (List Octets)
  | [], _ => last.map fun _ => []
  | .error e :: _, _ => .error e
  | .ok none :: _, _ => .ok []
  | .ok (some row) :: rest, index =>
    match mapper.map row with
    | .error e => .error (.rowMapping index e)
    | .ok record =>
      match codec.encodeAlone record with
      | .error e => .error e
      | .ok bs => (gather mapper codec last rest (index + 1)).map (bs :: ·)

variable {mapper : RowMapper τ} {last : Except Error (Option Row)}

/-- The encodings of the records that rows are mapped to. -/
structure Encodes (mapper : RowMapper τ) (codec : Codec τ) (rows : List Row) (records : List τ)
    (bss : List Octets) : Prop where
  mapped : rows.map mapper.map = records.map .ok
  encoded : records.map codec.encodeAlone = bss.map .ok

/-- What is gathered are the encodings of all rows, in their order. -/
theorem encodes_of_gather {codec : Codec τ} {coming : List (Except Error (Option Row))}
    {index : Nat} {bss : List Octets} (h : gather mapper codec last coming index = .ok bss) :
    ∃ rows records, Cursor.collectFrom last coming = .ok rows ∧
      Encodes mapper codec rows records bss := by
  fun_induction gather mapper codec last coming index generalizing bss with
  | case1 index =>
    cases last with
    | error e => cases h
    | ok row =>
      obtain rfl := Except.ok.inj h
      exact ⟨[], [], rfl, rfl, rfl⟩
  | case2 e rest index => cases h
  | case3 rest index =>
    obtain rfl := Except.ok.inj h
    exact ⟨[], [], rfl, rfl, rfl⟩
  | case4 row rest index e hrow => cases h
  | case5 row rest index record hrow e hencode => cases h
  | case6 row rest index record hrow bs hencode ih =>
    cases hrest : gather mapper codec last rest (index + 1) with
    | error e => simp [hrest, Except.map] at h
    | ok more =>
      rw [hrest] at h
      obtain rfl := Except.ok.inj h
      obtain ⟨rows, records, hrows, hmapped, hencoded⟩ := ih hrest
      refine ⟨row :: rows, record :: records, ?_, ?_, ?_⟩
      · rw [Cursor.collectFrom, hrows]
        rfl
      · rw [List.map_cons, List.map_cons, hrow, hmapped]
      · rw [List.map_cons, List.map_cons, hencode, hencoded]

/-- The number of rows before the first that is not read, mapped or encoded. -/
def reach (mapper : RowMapper τ) (codec : Codec τ) : List (Except Error (Option Row)) → Nat
  | .ok (some row) :: rest =>
    match mapper.map row with
    | .error _ => 0
    | .ok record =>
      match codec.encodeAlone record with
      | .error _ => 0
      | .ok _ => reach mapper codec rest + 1
  | _ => 0

/-- A key is drawn for a record that has no encoding, but the barrier does not take it in. -/
theorem pass_unencoded {host : Host η τ} {b : FusionBarrier τ} {record : τ} {e : Error}
    (h : b.codec.encodeAlone record = .error e) (s : η) :
    Does (pass host (some b) record) s (.error e, some { b with drawn := b.drawn + 1 }) s := by
  rw [pass]
  dsimp only
  rw [FusionBarrier.emit_error h]
  exact Does.pure _ _

/-- Behind a barrier, a scan takes in what it gathers, and the host sees nothing of it. -/
theorem scan_gathers (mapper : RowMapper τ) (host : Host η τ) (b : FusionBarrier τ)
    (coming : List (Except Error (Option Row))) (index : Nat) (s : η) :
    ∃ drawn more, Does (scan mapper host last coming index (some b)) s
        ⟨(gather mapper b.codec last coming index).map fun _ => (),
          index + reach mapper b.codec coming, some { b with drawn, keyed := b.keyed ++ more }⟩ s ∧
      more.length = reach mapper b.codec coming ∧
      ∀ bss, gather mapper b.codec last coming index = .ok bss → more.map Prod.snd = bss := by
  have hstop : ∀ (b : FusionBarrier τ) (r : Except Error Unit) (index drawn : Nat),
      Does (pure ⟨r, index, some { b with drawn }⟩ : Step η (Scanned τ)) s
        ⟨r, index + 0, some { b with drawn, keyed := b.keyed ++ [] }⟩ s := by
    intro b r index drawn
    rw [List.append_nil]
    exact Does.pure _ s
  induction coming generalizing index b with
  | nil =>
    rw [gather, scan]
    cases last with
    | error e => exact ⟨b.drawn, [], hstop b _ _ _, rfl, fun bss h => by cases h⟩
    | ok row => exact ⟨b.drawn, [], hstop b _ _ _, rfl, fun bss h => Except.ok.inj h⟩
  | cons next rest ih =>
    rcases next with e | none | row
    · exact ⟨b.drawn, [], hstop b _ _ _, rfl, fun bss h => by cases h⟩
    · exact ⟨b.drawn, [], hstop b _ _ _, rfl, fun bss h => Except.ok.inj h⟩
    · rw [gather, scan, reach]
      cases hrow : mapper.map row with
      | error e => exact ⟨b.drawn, [], hstop b _ _ _, rfl, fun bss h => by cases h⟩
      | ok record =>
        dsimp only
        cases hencode : b.codec.encodeAlone record with
        | error e =>
          exact ⟨b.drawn + 1, [], (pass_unencoded hencode s).bind (hstop b _ _ _), rfl,
            fun bss h => by cases h⟩
        | ok bs =>
          obtain ⟨drawn, more, hscan, hlength, hmore⟩ := ih (b.taking bs) (index + 1)
          have hkeyed : (b.taking bs).keyed ++ more =
              b.keyed ++ (b.keys b.drawn, bs) :: more := by
            rw [FusionBarrier.taking, List.append_assoc]
            rfl
          have hcodec : (b.taking bs).codec = b.codec := rfl
          rw [hkeyed, hcodec, Nat.add_assoc, Nat.add_comm 1] at hscan
          rw [hcodec] at hlength hmore
          refine ⟨drawn, (b.keys b.drawn, bs) :: more, ?_, congrArg (· + 1) hlength, ?_⟩
          · have hdrop : ∀ r : Except Error (List Octets),
                (r.map (bs :: ·)).map (fun _ => ()) = r.map fun _ => () := by
              rintro (e | bss)
              · rfl
              · rfl
            rw [hdrop]
            exact (pass_held hencode s).bind (Does.after_log hscan)
          · intro bss h
            cases hrest : gather mapper b.codec last rest (index + 1) with
            | error e => simp [hrest, Except.map] at h
            | ok more' =>
              rw [hrest] at h
              obtain rfl := Except.ok.inj h
              rw [List.map_cons, hmore more' hrest]

/-- All that can be seen of a call of a worker with an empty barrier, which is left empty. -/
inductive Confined (mapper : RowMapper τ) (codec : Codec τ) : Visit τ → Prop where
  | unfound (e : Error) : Confined mapper codec ⟨.error e, .error e, ⟨[], []⟩, some []⟩
  | failed {cursor : Cursor} {e : Error}
      (failure : gather mapper codec cursor.last cursor.coming 0 = .error e) :
      Confined mapper codec ⟨.ok cursor, .error e, ⟨[], []⟩, some []⟩
  | gathered {cursor : Cursor} {rows : List Row} {records : List τ} {keyed : List Keyed}
      {answer : Except Error Nat} {asked : Asked τ} (collected : cursor.collect = .ok rows)
      (encodes : Encodes mapper codec rows records (keyed.map Prod.snd))
      (flushed : Flushed codec keyed answer asked) :
      Confined mapper codec ⟨.ok cursor, answer, asked, some []⟩

/-- A record is the decoding of the encoding of what a row of this very call was mapped to. -/
inductive Owns (mapper : RowMapper τ) (codec : Codec τ) (v : Visit τ) (record : τ) : Prop where
  | row {cursor : Cursor} {rows : List Row} {row : Row} {own : τ} {bs : Octets}
      (found : v.found = .ok cursor) (collected : cursor.collect = .ok rows) (mem : row ∈ rows)
      (mapped : mapper.map row = .ok own) (encoded : codec.encodeAlone own = .ok bs)
      (decoded : codec.decodeAlone bs = .ok record)

theorem Confined.owns {mapper : RowMapper τ} {codec : Codec τ} {v : Visit τ}
    (h : Confined mapper codec v) (hback : v.GivesBack) {record : τ}
    (hr : record ∈ v.asked.emitted) : Owns mapper codec v record := by
  cases h with
  | unfound e => cases hr
  | failed hfailure => cases hr
  | @gathered cursor rows records keyed answer asked hcollected hencodes hflushed =>
    cases hflushed with
    | ungrouped e => cases hr
    | grouped groups hreleased =>
      obtain ⟨bs, hbs, hdecode⟩ := mem_of_map_ok hreleased.decoded hr
      have hgiven := hback keyed groups (List.mem_singleton_self _) bs (List.mem_of_mem_take hbs)
      obtain ⟨own, hown, hencode⟩ := mem_of_map_ok hencodes.encoded hgiven
      obtain ⟨row, hrow, hmap⟩ := mem_of_map_ok hencodes.mapped hown
      exact .row rfl hcollected hrow hmap hencode hdecode

/-- A worker that maps rows in this way and has nothing in its barrier. -/
structure Idle (mapper : RowMapper τ) (codec : Codec τ) (w : ReadWorker σ τ) : Prop where
  mapper : w.mapper = mapper
  barrier : ∃ b, w.barrier = some b ∧ b.codec = codec ∧ b.keyed = []

/-- A call that gathers the encodings of its rows flushes them, and one that fails before drops
what it has gathered. -/
theorem settle_noting (mapper : RowMapper τ) (host : Host η τ) {b : FusionBarrier τ} (rows : Nat)
    {cursor : Cursor} {scanned : Except Error (List Octets)} (world : η) (events : Array Event)
    (hscanned : gather mapper b.codec cursor.last cursor.coming 0 = scanned)
    (hkeyed : ∀ bss, scanned = .ok bss → b.keyed.map Prod.snd = bss) :
    ∃ answer asked world' events',
      (settle host.noting ⟨scanned.map fun _ => (), rows, some b⟩).run
          ⟨(world, .nothing), events⟩ =
        ((answer, some b.clear), ⟨(world', asked), events'⟩) ∧
      Confined mapper b.codec ⟨.ok cursor, answer, asked, some []⟩ := by
  cases scanned with
  | error e => exact ⟨.error e, .nothing, world, events, rfl, .failed hscanned⟩
  | ok bss =>
    obtain ⟨rows, records, hrows, hencodes⟩ := encodes_of_gather hscanned
    obtain ⟨answer, asked, world', events', hflush, hflushed⟩ := flush_noting host world events b
    rw [← hkeyed bss rfl] at hencodes
    exact ⟨answer, asked, world', events', run_step_bind hflush, .gathered hrows hencodes hflushed⟩

variable {codec : Codec τ} {w : ReadWorker σ τ}

section Process

variable {host : Host η τ} {connection : Connection σ} {world world₁ : σ} {s s₁ s₂ : η}
  {events events₁ events₂ events₃ : Array Event}

theorem run_process_unfound {e : Error} (hw : w.connection = some connection)
    (hquery : (connection.queryStream w.query []).run.run ⟨world, events⟩ =
      (.error e, ⟨world₁, events₁⟩)) :
    (w.process host).run ⟨(world, s), events⟩ = ((.error e, w), ⟨(world₁, s), events₁⟩) := by
  obtain ⟨held, query, mapper, barrier, stats⟩ := w
  obtain rfl : held = some connection := hw
  exact run_step_bind (run_within_of (f := .first) (world, s) hquery)

/-- A call in the order of its parts. -/
theorem run_process {cursor : Cursor} {scanned : Scanned τ} {answer : Except Error Nat}
    {barrier : Option (FusionBarrier τ)} (hw : w.connection = some connection)
    (hquery : (connection.queryStream w.query []).run.run ⟨world, events⟩ =
      (.ok cursor, ⟨world₁, events₁⟩))
    (hscan : (scan w.mapper host cursor.last cursor.coming 0 w.barrier).run ⟨s, events₁⟩ =
      (scanned, ⟨s₁, events₂⟩))
    (hsettle : (settle host scanned).run ⟨s₁, events₂.push
        ⟨.debug, "Query finished", [("rows", toString scanned.rows)]⟩⟩ =
      ((answer, barrier), ⟨s₂, events₃⟩)) :
    (w.process host).run ⟨(world, s), events⟩ =
      ((answer, { w with
        barrier
        stats := ⟨w.stats.queries + 1, w.stats.rowsRead + scanned.rows⟩ }),
        ⟨(world₁, s₂), events₃⟩) := by
  obtain ⟨held, query, mapper, barrier', stats⟩ := w
  obtain rfl : held = some connection := hw
  have hfirst := run_within_of (f := .first) (world, s) hquery
  have hsecond := run_within_of (f := .second) (world₁, s) hscan
  have hlast := run_within_of (f := .second) (world₁, s₁) hsettle
  exact (run_step_bind hfirst).trans ((run_step_bind hsecond).trans
    ((run_step_bind (run_step_log _ _ _ _)).trans (run_step_bind hlast)))

end Process

theorem Idle.process (h : w.Idle mapper codec) (host : Host η τ) (world : σ) (world' : η)
    (events : Array Event) :
    ∃ answer asked w' after after' events',
      (w.process host.noting).run ⟨(world, world', .nothing), events⟩ =
        ((answer, w'), ⟨(after, after', asked), events'⟩) ∧
      w'.Idle mapper codec ∧
      Confined mapper codec ⟨w.find ⟨world, events⟩, answer, asked, some []⟩ := by
  obtain ⟨held, query, m, barrier, stats⟩ := w
  obtain ⟨rfl, b, rfl, rfl, hkeyed⟩ := h
  cases held with
  | none =>
    exact ⟨_, .nothing, _, world, world', events, rfl, ⟨rfl, b, rfl, rfl, hkeyed⟩, .unfound _⟩
  | some connection =>
    rcases hquery : (connection.queryStream query []).run.run ⟨world, events⟩ with
      ⟨found, world₁, events₁⟩
    have hfound : find ⟨some connection, query, m, some b, stats⟩ ⟨world, events⟩ = found :=
      congrArg Prod.fst hquery
    rw [hfound]
    cases found with
    | error e =>
      exact ⟨_, .nothing, _, world₁, world', events₁, run_process_unfound rfl hquery,
        ⟨rfl, b, rfl, rfl, hkeyed⟩, .unfound e⟩
    | ok cursor =>
      obtain ⟨drawn, more, hscan, -, hmore⟩ := scan_gathers m host.noting b cursor.coming 0
        (world', .nothing)
      generalize 0 + reach m b.codec cursor.coming = rows at hscan
      rw [hkeyed, List.nil_append] at hscan
      obtain ⟨events₂, hscanned⟩ := hscan events₁
      obtain ⟨answer, asked, world₂, events₃, hsettle, hconfined⟩ :=
        settle_noting m (b := { b with drawn, keyed := more }) host rows world'
          (events₂.push ⟨.debug, "Query finished", [("rows", toString rows)]⟩) rfl hmore
      exact ⟨answer, asked, _, world₁, world₂, events₃, run_process rfl hquery hscanned hsettle,
        ⟨rfl, _, rfl, rfl, rfl⟩, hconfined⟩

theorem Idle.visit (h : w.Idle mapper codec) (host : Host η τ) (t : Traced (σ × η)) :
    ∃ v w' t', (w.visit host).run t = ((v, w'), t') ∧ w'.Idle mapper codec ∧
      Confined mapper codec v := by
  obtain ⟨answer, asked, w', after, after', events', hprocess, hidle, hconfined⟩ :=
    h.process host t.world.1 t.world.2 t.events
  obtain ⟨b, hb, -, hkeyed⟩ := hidle.barrier
  have hleft : w'.barrier.map FusionBarrier.keyed = some [] := by rw [hb, Option.map_some, hkeyed]
  refine ⟨⟨w.find ⟨t.world.1, t.events⟩, answer, asked, some []⟩, w',
    ⟨(after, after'), events'⟩, ?_, hidle, hconfined⟩
  rw [← hleft]
  exact congrArg (fun p : (Except Error Nat × ReadWorker σ τ) × Traced (σ × η × Asked τ) =>
    ((Visit.mk (w.find ⟨t.world.1, t.events⟩) p.1.1 p.2.world.2.2
      (p.1.2.barrier.map FusionBarrier.keyed), p.1.2),
      Traced.mk (p.2.world.1, p.2.world.2.1) p.2.events)) hprocess

theorem Idle.visitAll (h : w.Idle mapper codec) (calls : List (Step (σ × η) Unit × Host η τ))
    (t : Traced (σ × η)) :
    ∃ visits w' t', (w.visitAll calls).run t = ((visits, w'), t') ∧
      visits.length = calls.length ∧ w'.Idle mapper codec ∧
      ∀ v ∈ visits, Confined mapper codec v := by
  refine run_inTurn (fun visits w' => w'.Idle mapper codec ∧ ∀ v ∈ visits, Confined mapper codec v)
    ?_ ⟨h, nofun⟩ t
  rintro call - visits w' t' ⟨hidle, hall⟩
  obtain ⟨v, w'', t'', hvisit, hidle', hconfined⟩ := hidle.visit call.2 t'
  exact ⟨v, w'', t'', hvisit, hidle',
    List.forall_mem_append.mpr ⟨hall, List.forall_mem_singleton.mpr hconfined⟩⟩

end ReadWorker

namespace ReadConnector

variable {σ η τ : Type} {c : ReadConnector σ τ} {registry : Registry σ} {keys : Nat → UInt32}
  {w : ReadWorker σ τ}

theorem parts_of_valid (h : c.validate = .ok ()) :
    ∃ config query mapper codec, c.config = some config ∧ c.query = some query ∧
      c.mapper = some mapper ∧ c.codec = some codec := by
  obtain ⟨config, query, mapper, codec, fusion⟩ := c
  rw [validate] at h
  cases query with
  | none => cases h
  | some query =>
    dsimp only at h
    split at h
    · cases h
    · cases mapper with
      | none => cases h
      | some mapper =>
        cases codec with
        | none => cases h
        | some codec =>
          cases config with
          | none => cases h
          | some config => exact ⟨config, query, mapper, codec, rfl, rfl, rfl, rfl⟩

/-- The worker that is set up, if one is. -/
theorem parts_of_setup {t t' : Traced σ} (h : (c.setup registry keys).run.run t = (.ok w, t')) :
    ∃ connection query mapper codec, c.mapper = some mapper ∧ c.codec = some codec ∧
      w = ⟨some connection, query, mapper,
        if c.fusionBarrier then some (.create codec keys) else none, ⟨0, 0⟩⟩ := by
  have hvalid := run_ofExcept c.validate t
  rw [setup] at h
  cases hv : c.validate with
  | error e =>
    rw [hv] at hvalid h
    rw [run_bind_error hvalid] at h
    cases h
  | ok u =>
    obtain ⟨config, query, mapper, codec, hconfig, hquery, hmapper, hcodec⟩ := parts_of_valid hv
    rw [hv] at hvalid h
    rw [run_bind_ok hvalid] at h
    simp only [hconfig, hquery, hmapper, hcodec] at h
    rcases hacquire : (config.acquire registry).run.run t with ⟨e | connection, t₁⟩
    · rw [run_bind_error hacquire] at h
      cases h
    · rw [run_bind_ok hacquire, run_bind_ok (run_task_log _ _ _ _)] at h
      cases h
      exact ⟨connection, query, mapper, codec, hmapper, hcodec, rfl⟩

/-- A worker with a barrier has nothing in it when it is set up. -/
theorem idle_of_setup {t t' : Traced σ} (hc : c.fusionBarrier = true)
    (h : (c.setup registry keys).run.run t = (.ok w, t')) :
    ∃ mapper codec, c.mapper = some mapper ∧ c.codec = some codec ∧ w.Idle mapper codec := by
  obtain ⟨connection, query, mapper, codec, hmapper, hcodec, rfl⟩ := parts_of_setup h
  exact ⟨mapper, codec, hmapper, hcodec, rfl, _, if_pos hc, rfl, rfl⟩

end ReadConnector

/-- Calls behind a barrier are kept apart, wherever they fail. After each of them the barrier is
empty; the records that are given out to be grouped are the encodings of all rows of that call, in
their order; and where a call fails before, nothing is grouped and nothing is handed on. So what is
handed on in a call, if the grouping makes up nothing, comes from the rows of this call. -/
theorem barriers_keep_calls_apart {σ η τ : Type} {c : ReadConnector σ τ} {registry : Registry σ}
    {keys : Nat → UInt32} {w : ReadWorker σ τ} {t₀ t₁ : Traced σ} (hc : c.fusionBarrier = true)
    (hsetup : (c.setup registry keys).run.run t₀ = (.ok w, t₁))
    (calls : List (Step (σ × η) Unit × Host η τ)) (t : Traced (σ × η)) :
    ∃ mapper codec visits w' t', c.mapper = some mapper ∧ c.codec = some codec ∧
      (w.visitAll calls).run t = ((visits, w'), t') ∧
      (w.processAll calls).run t = ((visits.map Visit.answer, w'), t') ∧
      visits.length = calls.length ∧ w'.Idle mapper codec ∧
      ∀ v ∈ visits, ReadWorker.Confined mapper codec v ∧
        (v.GivesBack → ∀ record ∈ v.asked.emitted, ReadWorker.Owns mapper codec v record) := by
  obtain ⟨mapper, codec, hmapper, hcodec, hidle⟩ := ReadConnector.idle_of_setup hc hsetup
  obtain ⟨visits, w', t', hvisits, hlength, hidle', hall⟩ := hidle.visitAll calls t
  refine ⟨mapper, codec, visits, w', t', hmapper, hcodec, hvisits,
    ReadWorker.run_processAll ReadWorker.visit_answer hvisits, hlength, hidle', ?_⟩
  intro v hv
  exact ⟨hall v hv, fun hback _ hr => (hall v hv).owns hback hr⟩

/-- A call that fails at its second row, one at the query, one in the grouping, one that goes
well, and one that gets back an encoding that it did not give out. -/
theorem barriers_keep_calls_apart_failing :
    let c : ReadConnector Database Int64 := ⟨some (.ofSource (dataSource .self)),
      some "SELECT n", some ⟨"first column", fun row => row.int64 0⟩, some .int64, true⟩
    let w : ReadWorker Database Int64 := ⟨some (connection .self 0), "SELECT n",
      ⟨"first column", fun row => row.int64 0⟩, some (.create .int64 UInt32.ofNat), 0, 0⟩
    let change (g : Database → Database) : Step (Database × Unit × List Int64) Unit :=
      modify fun t => ⟨(g t.world.1, t.world.2), t.events⟩
    let rows (values : List Value) : List Row := values.map fun v => ⟨[("n", v)]⟩
    let grouping (g : List Octets → Except Error (List Octets)) :
        Host (Unit × List Int64) Int64 :=
      .collecting fun keyed => do
        let bss ← Task.ofExcept (g (keyed.map Prod.snd))
        pure [(0, bss)]
    let turned := grouping fun bss => .ok bss.reverse
    let calls := [
      (change (·.seed "SELECT n" (rows [.int64 1, .null])), turned),
      (change (·.failOn .query), turned),
      (change fun db => (db.clearFailure .query).seed "SELECT n" (rows [.int64 3]),
        grouping fun _ => .error (.query "no grouping" none)),
      (change (·.seed "SELECT n" (rows [.int64 4, .int64 5])), turned),
      (change (·.seed "SELECT n" (rows [.int64 6, .int64 7])), grouping fun bss => .ok (bss ++ [[]]))]
    let ready := Database.empty.opened none
    (c.fusionBarrier = true ∧
      ∃ events, (c.setup [] UInt32.ofNat).run.run ⟨Database.empty, #[]⟩ = (.ok w, ⟨ready, events⟩)) ∧
    ∃ mapper codec visits w' t', c.mapper = some mapper ∧ c.codec = some codec ∧
      (w.visitAll calls).run ⟨(ready, (), []), #[]⟩ = ((visits, w'), t') ∧
      w'.Idle mapper codec ∧
      (∀ v ∈ visits, ReadWorker.Confined mapper codec v ∧
        (v.GivesBack → ∀ record ∈ v.asked.emitted, ReadWorker.Owns mapper codec v record)) ∧
      visits.map (fun v => (v.answer.toOption, v.asked.grouped.map (·.1.length), v.asked.emitted)) =
        [(none, [], []), (none, [], []), (none, [1], []), (some 2, [2], [5, 4]),
          (none, [2], [6, 7])] := by
  intro c w change rows grouping turned calls ready
  have hsetup : (c.setup [] UInt32.ofNat).run.run ⟨Database.empty, #[]⟩ = (.ok w, ⟨ready, _⟩) := rfl
  have hseen : ((w.visitAll calls).run ⟨(ready, (), []), #[]⟩).1.1.map
      (fun v => (v.answer.toOption, v.asked.grouped.map (·.1.length), v.asked.emitted)) =
        [(none, [], []), (none, [], []), (none, [1], []), (some 2, [2], [5, 4]),
          (none, [2], [6, 7])] := by decide +kernel
  obtain ⟨mapper, codec, visits, w', t', hmapper, hcodec, hvisits, -, -, hidle, hall⟩ :=
    barriers_keep_calls_apart rfl hsetup calls ⟨(ready, (), []), #[]⟩
  rw [hvisits] at hseen
  exact ⟨⟨rfl, _, hsetup⟩, mapper, codec, visits, w', t', hmapper, hcodec, hvisits, hidle, hall,
    hseen⟩

end BatchSql
