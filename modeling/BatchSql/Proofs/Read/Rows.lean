import BatchSql.Proofs.Read.Calls
import BatchSql.Proofs.Read.Passage
import Mathlib.Algebra.GroupWithZero.Nat

namespace BatchSql
open Memory FusionBarrier

section Host

variable {η τ : Type}

/-- A host that does as another does, and keeps the records that it accepts. -/
def Host.tallying (host : Host η τ) : Host (η × List τ) τ where
  group keyed := Task.within .first (host.group keyed)
  emit record := do
    Task.within .first (host.emit record)
    modify fun t => { t with world := (t.world.1, t.world.2 ++ [record]) }

variable {host : Host η τ} {codec : Codec τ} {b : FusionBarrier τ} {record : τ}
  {records taken : List τ} {r : Except Error Unit} {answer : Except Error Nat} {bss : List Octets}
  {t t' : Traced (η × List τ)}

theorem emit_tallying {world world' : η} {events events' : Array Event}
    (h : (host.emit record).run.run ⟨world, events⟩ = (r, ⟨world', events'⟩)) (accepted : List τ) :
    (host.tallying.emit record).run.run ⟨(world, accepted), events⟩ =
      (r, ⟨(world', accepted ++ if r.isOk then [record] else []), events'⟩) := by
  have hfirst : (Task.within .first (host.emit record)).run.run ⟨(world, accepted), events⟩ =
      (r, ⟨(world', accepted), events'⟩) :=
    run_within_of (f := .first) (world, accepted) h
  rw [Host.tallying]
  cases r with
  | error e =>
    rw [if_neg (by simp [Except.isOk, Except.toBool]), List.append_nil]
    exact run_bind_error hfirst
  | ok u => exact run_bind_ok hfirst

theorem tallying_shadows (host : Host η τ) : host.Shadows Prod.fst host.tallying where
  group keyed _ := rfl
  emit record := by
    rintro ⟨⟨world, accepted⟩, events⟩
    rcases hemit : (host.emit record).run.run ⟨world, events⟩ with ⟨r, world', events'⟩
    rw [emit_tallying hemit]

theorem Host.Regroups.tallying (h : host.Regroups) : host.tallying.Regroups := by
  intro keyed t groups t' hgroup
  refine h keyed ⟨t.world.1, t.events⟩ groups ⟨t'.world.1, t'.events⟩ ?_
  rw [(tallying_shadows host).group keyed t, hgroup]

theorem accepted_of_emit (h : (host.tallying.emit record).run.run t = (r, t')) :
    t'.world.2 = t.world.2 ++ if r.isOk then [record] else [] := by
  obtain ⟨⟨world, accepted⟩, events⟩ := t
  rcases hemit : (host.emit record).run.run ⟨world, events⟩ with ⟨r', world', events'⟩
  rw [emit_tallying hemit] at h
  cases h
  rfl

theorem accepted_of_takes (h : host.tallying.Takes t records t') :
    t'.world.2 = t.world.2 ++ records := by
  induction h with
  | nil t => exact (List.append_nil _).symm
  | cons haccepted hrest ih =>
    rw [ih, accepted_of_emit haccepted, List.append_assoc]
    rfl

theorem accepted_of_handsOn (h : HandsOn codec host.tallying t bss records answer t') :
    t'.world.2 = t.world.2 ++ records := by
  cases h with
  | all hdecoded htakes => exact accepted_of_takes htakes
  | undecoded front hdecoded htakes hfault => exact accepted_of_takes htakes
  | refused front hdecoded htakes hnext hrefusal =>
    rw [accepted_of_emit hrefusal, accepted_of_takes htakes]
    exact List.append_nil _

/-- As many are accepted as are counted, and of what fails fewer than there are. -/
theorem length_of_handsOn {host : Host η τ} {t t' : Traced η}
    (h : HandsOn codec host t bss records answer t') :
    (answer = .ok bss.length ∧ records.length = bss.length) ∨
      ∃ e, answer = .error e ∧ records.length < bss.length := by
  have hfewer : ∀ {front : List Octets} {bs : Octets} {back : List Octets},
      front.map codec.decodeAlone = records.map .ok →
        records.length < (front ++ bs :: back).length := by
    intro front bs back hdecoded
    rw [← length_of_map_ok hdecoded, List.length_append, List.length_cons]
    omega
  cases h with
  | all hdecoded htakes => exact .inl ⟨rfl, (length_of_map_ok hdecoded).symm⟩
  | undecoded front hdecoded htakes hfault => exact .inr ⟨_, rfl, hfewer hdecoded⟩
  | refused front hdecoded htakes hnext hrefusal => exact .inr ⟨_, rfl, hfewer hdecoded⟩

theorem accepted_of_flushes (h : b.Flushes host.tallying t taken answer t') :
    t'.world.2 = t.world.2 ++ taken := by
  cases h with
  | ungrouped hfault =>
    have hworld := congrArg (fun p => p.2.world.2) hfault
    exact hworld.symm.trans (List.append_nil _).symm
  | grouped hgrouping hhands =>
    have hworld := congrArg (fun p => p.2.world.2) hgrouping
    rw [accepted_of_handsOn hhands]
    exact congrArg (· ++ _) hworld.symm

/-- A flush that goes well hands on as many as wait, and one that fails hands on fewer, or none. -/
theorem length_of_flushes {host : Host η τ} {t t' : Traced η}
    (h : b.Flushes host t taken answer t') (hh : host.Regroups) :
    (answer = .ok b.keyed.length ∧ taken.length = b.keyed.length) ∨
      ∃ e, answer = .error e ∧ (taken = [] ∨ taken.length < b.keyed.length) := by
  cases h with
  | @ungrouped e t' hfault => exact .inr ⟨e, rfl, .inl rfl⟩
  | @grouped groups taken answer t₁ t' hgrouping hhands =>
    have hlength := (hh _ _ _ _ hgrouping).length_eq
    rw [List.length_map] at hlength
    rw [← hlength]
    rcases length_of_handsOn hhands with hall | ⟨e, he, hfewer⟩
    · exact .inl hall
    · exact .inr ⟨e, he, .inr hfewer⟩

end Host

/-- What could be seen of a call: what the query found, the answer, by how much the count of rows
went up, and the records that the host accepted. -/
structure Tally (τ : Type) where
  found : Except Error Cursor
  answer : Except Error Nat
  counted : Nat
  accepted : List τ

namespace ReadWorker

variable {σ η τ : Type}

/-- A call is made and what its host accepts is kept. -/
def tally (w : ReadWorker σ τ) (host : Host η τ) : Step (σ × η) (Tally τ × ReadWorker σ τ) := do
  let t ← get
  let ((r, w'), t') := (w.process host.tallying).run ⟨(t.world.1, t.world.2, []), t.events⟩
  set (Traced.mk (t'.world.1, t'.world.2.1) t'.events)
  pure (⟨w.find ⟨t.world.1, t.events⟩, r, w'.stats.rowsRead - w.stats.rowsRead, t'.world.2.2⟩, w')

/-- The calls of `processAll`, with what their hosts accept. -/
def tallyAll (w : ReadWorker σ τ) (calls : List (Step (σ × η) Unit × Host η τ)) :
    Step (σ × η) (List (Tally τ) × ReadWorker σ τ) :=
  Step.inTurn (after tally) w calls

theorem tally_answer (host : Host η τ) (w : ReadWorker σ τ) :
    (fun p => (p.1.answer, p.2)) <$> w.tally host = w.process host := by
  funext t
  exact (process_shadowed (tallying_shadows host) w ⟨(t.world.1, t.world.2, []), t.events⟩).symm

/-- A worker that maps rows in this way, and in whose barrier, which has this codec if there is
one, nothing waits. -/
structure Rests (mapper : RowMapper τ) (codec : Option (Codec τ)) (w : ReadWorker σ τ) : Prop where
  mapper : w.mapper = mapper
  codec : w.barrier.map FusionBarrier.codec = codec
  empty : ∀ b, w.barrier = some b → b.keyed = []

/-- How the rows counted in a call compare with the records accepted in it. Without a barrier they
are as many. Behind one, the rows that are taken in count, and they are as many only if the call
goes well: before the barrier a failure lets none of them out, and behind it not all. -/
inductive Accounts (mapper : RowMapper τ) : Option (Codec τ) → Tally τ → Prop where
  | unfound (codec : Option (Codec τ)) (e : Error) :
      Accounts mapper codec ⟨.error e, .error e, 0, []⟩
  | direct (cursor : Cursor) {answer : Except Error Nat} (accepted : List τ)
      (whole : ∀ n, answer = .ok n → n = accepted.length) :
      Accounts mapper none ⟨.ok cursor, answer, accepted.length, accepted⟩
  | failed {codec : Codec τ} {cursor : Cursor} {e : Error}
      (failure : gather mapper codec cursor.last cursor.coming 0 = .error e) :
      Accounts mapper (some codec) ⟨.ok cursor, .error e, reach mapper codec cursor.coming, []⟩
  | flushed {codec : Codec τ} {cursor : Cursor} {bss : List Octets} {accepted : List τ}
      (gathered : gather mapper codec cursor.last cursor.coming 0 = .ok bss)
      (all : accepted.length = reach mapper codec cursor.coming) :
      Accounts mapper (some codec)
        ⟨.ok cursor, .ok accepted.length, accepted.length, accepted⟩
  | spilt {codec : Codec τ} {cursor : Cursor} {bss : List Octets} {e : Error} {accepted : List τ}
      (gathered : gather mapper codec cursor.last cursor.coming 0 = .ok bss)
      (fewer : accepted = [] ∨ accepted.length < reach mapper codec cursor.coming) :
      Accounts mapper (some codec)
        ⟨.ok cursor, .error e, reach mapper codec cursor.coming, accepted⟩

variable {mapper : RowMapper τ} {codec : Option (Codec τ)} {v : Tally τ} {tallies : List (Tally τ)}
  {w : ReadWorker σ τ} {host : Host η τ} {last : Except Error (Option Row)}

theorem Accounts.length_le (h : Accounts mapper codec v) : v.accepted.length ≤ v.counted := by
  cases h with
  | unfound codec e => exact Nat.le_refl _
  | direct cursor accepted whole => exact Nat.le_refl _
  | failed failure => exact Nat.zero_le _
  | flushed gathered all => exact Nat.le_refl _
  | spilt gathered fewer =>
    rcases fewer with rfl | fewer
    · exact Nat.zero_le _
    · exact Nat.le_of_lt fewer

/-- Only a call that fails behind a barrier counts rows that nobody accepts, and it does so
whenever it counts any. -/
theorem Accounts.eq_length_iff (h : Accounts mapper codec v) :
    v.counted = v.accepted.length ↔ codec = none ∨ v.answer.isOk = true ∨ v.counted = 0 := by
  cases h with
  | unfound codec e => simp
  | direct cursor accepted whole => simp
  | failed failure => simp [Except.isOk, Except.toBool]
  | flushed gathered all => simp [Except.isOk, Except.toBool]
  | spilt gathered fewer =>
    rcases fewer with rfl | fewer
    · simp [Except.isOk, Except.toBool]
    · simp only [Except.isOk, Except.toBool, reduceCtorEq, Bool.false_eq_true, false_or]
      omega

/-- Without a barrier each row that counts has been accepted. -/
theorem scan_accepts (mapper : RowMapper τ) (host : Host η τ) (last : Except Error (Option Row))
    (coming : List (Except Error (Option Row))) (index : Nat) (t : Traced (η × List τ)) :
    ∃ outcome accepted t', (scan mapper host.tallying last coming index none).run t =
        (⟨outcome, index + accepted.length, none⟩, t') ∧ t'.world.2 = t.world.2 ++ accepted := by
  have hstop : t.world.2 = t.world.2 ++ [] := (List.append_nil _).symm
  induction coming generalizing index t with
  | nil => exact ⟨_, [], t, rfl, hstop⟩
  | cons next rest ih =>
    rcases next with e | none | row
    · exact ⟨_, [], t, rfl, hstop⟩
    · exact ⟨_, [], t, rfl, hstop⟩
    · rw [scan]
      cases mapper.map row with
      | error e => exact ⟨_, [], t, rfl, hstop⟩
      | ok record =>
        rcases hemit : (host.tallying.emit record).run.run t with ⟨e | u, t₁⟩
        · have hpass : (pass host.tallying none record).run t = ((.error e, none), t₁) :=
            run_step_bind hemit
          exact ⟨.error e, [], t₁, run_step_bind hpass, accepted_of_emit hemit⟩
        · have hpass : (pass host.tallying none record).run t = ((.ok u, none), t₁) :=
            run_step_bind hemit
          have htaken : t₁.world.2 = t.world.2 ++ [record] := accepted_of_emit hemit
          obtain ⟨outcome, accepted, t', hrest, hworld⟩ := ih (index + 1)
            { t₁ with events := t₁.events.push ⟨.trace, "Emitted row", [("row", toString index)]⟩ }
            (List.append_nil _).symm
          refine ⟨outcome, record :: accepted, t', ?_, ?_⟩
          · rw [List.length_cons, Nat.add_comm accepted.length, ← Nat.add_assoc]
            exact (run_step_bind hpass).trans ((run_step_bind (run_step_log _ _ _ _)).trans hrest)
          · rw [hworld, htaken, List.append_assoc]
            rfl

/-- A call without a barrier, from where its query has found rows. -/
theorem settle_accepts (mapper : RowMapper τ) (host : Host η τ) (cursor : Cursor) (world : η)
    (events : Array Event) :
    ∃ scanned answer counted accepted world' events',
      (scan mapper host.tallying cursor.last cursor.coming 0 none).run ⟨(world, []), events⟩ =
        (⟨scanned, counted, none⟩, ⟨(world', accepted), events'⟩) ∧
      (∀ t, (settle host.tallying ⟨scanned, counted, none⟩).run t = ((answer, none), t)) ∧
      Accounts mapper none ⟨.ok cursor, answer, counted, accepted⟩ := by
  obtain ⟨scanned, accepted, ⟨⟨world', all⟩, events'⟩, hscan, hall⟩ :=
    scan_accepts mapper host cursor.last cursor.coming 0 ⟨(world, []), events⟩
  obtain rfl : all = accepted := hall
  rw [Nat.zero_add] at hscan
  cases scanned with
  | error e => exact ⟨_, _, _, _, _, _, hscan, fun _ => rfl, .direct cursor all nofun⟩
  | ok u =>
    refine ⟨_, _, _, _, _, _, hscan, fun _ => rfl, .direct cursor all fun n hn => ?_⟩
    exact (Except.ok.inj hn).symm

/-- A call behind a barrier, from where its rows have been scanned. -/
theorem settle_spills (mapper : RowMapper τ) {host : Host η τ} (hh : host.Regroups)
    {b : FusionBarrier τ} {cursor : Cursor} {scanned : Except Error (List Octets)} (world : η)
    (events : Array Event)
    (hscanned : gather mapper b.codec cursor.last cursor.coming 0 = scanned)
    (hlength : b.keyed.length = reach mapper b.codec cursor.coming) :
    ∃ answer accepted world' events',
      (settle host.tallying ⟨scanned.map fun _ => (), reach mapper b.codec cursor.coming,
          some b⟩).run ⟨(world, []), events⟩ =
        ((answer, some b.clear), ⟨(world', accepted), events'⟩) ∧
      Accounts mapper (some b.codec)
        ⟨.ok cursor, answer, reach mapper b.codec cursor.coming, accepted⟩ := by
  cases scanned with
  | error e => exact ⟨.error e, [], world, events, rfl, .failed hscanned⟩
  | ok bss =>
    obtain ⟨taken, answer, ⟨⟨world', all⟩, events'⟩, hflushes⟩ :=
      exists_flushes b host.tallying ⟨(world, []), events⟩
    obtain rfl : all = taken := accepted_of_flushes hflushes
    refine ⟨answer, all, world', events', run_step_bind hflushes.run, ?_⟩
    have hcount := length_of_flushes hflushes hh.tallying
    rw [hlength] at hcount
    rcases hcount with ⟨rfl, hall⟩ | ⟨e, rfl, hfewer⟩
    · rw [← hall]
      exact .flushed hscanned hall
    · exact .spilt hscanned hfewer

/-- One call keeps the barrier empty, and counts what it accounts for. -/
theorem Rests.process (h : w.Rests mapper codec) (hh : host.Regroups) (world : σ) (world' : η)
    (events : Array Event) :
    ∃ answer counted accepted w' after after' events',
      (w.process host.tallying).run ⟨(world, world', []), events⟩ =
        ((answer, w'), ⟨(after, after', accepted), events'⟩) ∧
      w'.Rests mapper codec ∧ w'.stats.rowsRead = w.stats.rowsRead + counted ∧
      Accounts mapper codec ⟨w.find ⟨world, events⟩, answer, counted, accepted⟩ := by
  obtain ⟨held, query, m, barrier, stats⟩ := w
  obtain ⟨rfl, rfl, hempty⟩ := h
  cases held with
  | none =>
    exact ⟨_, 0, [], _, world, world', events, rfl, ⟨rfl, rfl, hempty⟩, rfl, .unfound _ _⟩
  | some connection =>
    rcases hquery : (connection.queryStream query []).run.run ⟨world, events⟩ with
      ⟨found, world₁, events₁⟩
    have hfound : find ⟨some connection, query, m, barrier, stats⟩ ⟨world, events⟩ = found :=
      congrArg Prod.fst hquery
    rw [hfound]
    cases found with
    | error e =>
      exact ⟨_, 0, [], _, world₁, world', events₁, run_process_unfound rfl hquery,
        ⟨rfl, rfl, hempty⟩, rfl, .unfound _ e⟩
    | ok cursor =>
      cases barrier with
      | none =>
        obtain ⟨scanned, answer, counted, accepted, world₂, events₂, hscan, hsettle, haccounts⟩ :=
          settle_accepts m host cursor world' events₁
        exact ⟨answer, counted, accepted, _, world₁, world₂, _,
          run_process rfl hquery hscan (hsettle _), ⟨rfl, rfl, nofun⟩, rfl, haccounts⟩
      | some b =>
        obtain ⟨drawn, more, hscan, hlength, -⟩ := scan_gathers m host.tallying b cursor.coming 0
          (world', [])
        rw [hempty b rfl, List.nil_append, Nat.zero_add] at hscan
        obtain ⟨events₂, hscanned⟩ := hscan events₁
        obtain ⟨answer, accepted, world₂, events₃, hsettle, haccounts⟩ :=
          settle_spills m hh (b := { b with drawn, keyed := more }) world' (events₂.push
            ⟨.debug, "Query finished", [("rows", toString (reach m b.codec cursor.coming))]⟩) rfl
            hlength
        refine ⟨answer, _, accepted, _, world₁, world₂, events₃,
          run_process rfl hquery hscanned hsettle, ⟨rfl, rfl, ?_⟩, rfl, haccounts⟩
        rintro _ ⟨⟩
        rfl

theorem Rests.tally (h : w.Rests mapper codec) (hh : host.Regroups) (t : Traced (σ × η)) :
    ∃ v w' t', (w.tally host).run t = ((v, w'), t') ∧ w'.Rests mapper codec ∧
      w'.stats.rowsRead = w.stats.rowsRead + v.counted ∧ Accounts mapper codec v := by
  obtain ⟨answer, counted, accepted, w', after, after', events', hprocess, hrests, hcounted,
    haccounts⟩ := h.process hh t.world.1 t.world.2 t.events
  refine ⟨⟨w.find ⟨t.world.1, t.events⟩, answer, counted, accepted⟩, w',
    ⟨(after, after'), events'⟩, ?_, hrests, hcounted, haccounts⟩
  have hdifference : w'.stats.rowsRead - w.stats.rowsRead = counted := by omega
  rw [← hdifference]
  exact congrArg (fun p : (Except Error Nat × ReadWorker σ τ) × Traced (σ × η × List τ) =>
    ((Tally.mk (w.find ⟨t.world.1, t.events⟩) p.1.1 (p.1.2.stats.rowsRead - w.stats.rowsRead)
      p.2.world.2.2, p.1.2), Traced.mk (p.2.world.1, p.2.world.2.1) p.2.events)) hprocess

/-- The count of a worker goes up by what is counted in its calls. -/
theorem Rests.tallyAll (h : w.Rests mapper codec) {calls : List (Step (σ × η) Unit × Host η τ)}
    (hh : ∀ call ∈ calls, call.2.Regroups) (t : Traced (σ × η)) :
    ∃ tallies w' t', (w.tallyAll calls).run t = ((tallies, w'), t') ∧
      tallies.length = calls.length ∧ w'.Rests mapper codec ∧
      w'.stats.rowsRead = w.stats.rowsRead + (tallies.map Tally.counted).sum ∧
      ∀ v ∈ tallies, Accounts mapper codec v := by
  refine run_inTurn (fun tallies w' => w'.Rests mapper codec ∧
    w'.stats.rowsRead = w.stats.rowsRead + (tallies.map Tally.counted).sum ∧
      ∀ v ∈ tallies, Accounts mapper codec v) ?_ ⟨h, rfl, nofun⟩ t
  rintro call hcall tallies w' t' ⟨hrests, hsum, hall⟩
  obtain ⟨v, w'', t'', htally, hrests', hcounted, haccounts⟩ := hrests.tally (hh call hcall) t'
  refine ⟨v, w'', t'', htally, hrests', ?_,
    List.forall_mem_append.mpr ⟨hall, List.forall_mem_singleton.mpr haccounts⟩⟩
  rw [hcounted, hsum, List.map_append, List.sum_append, List.map_singleton, List.sum_singleton,
    Nat.add_assoc]

/-- Over all calls as over each of them: no more is accepted than counts, and as much only if as
much is in each call. -/
theorem Accounts.sums (h : ∀ v ∈ tallies, Accounts mapper codec v) :
    (tallies.flatMap Tally.accepted).length ≤ (tallies.map Tally.counted).sum ∧
      ((tallies.map Tally.counted).sum = (tallies.flatMap Tally.accepted).length ↔
        ∀ v ∈ tallies, v.counted = v.accepted.length) := by
  induction tallies with
  | nil => exact ⟨Nat.le_refl _, fun _ => nofun, fun _ => rfl⟩
  | cons v tallies ih =>
    rw [List.forall_mem_cons] at h ⊢
    obtain ⟨hle, hiff⟩ := ih h.2
    have hfirst := h.1.length_le
    rw [List.flatMap_cons, List.length_append, List.map_cons, List.sum_cons]
    refine ⟨Nat.add_le_add hfirst hle, ?_⟩
    rw [← hiff]
    omega

end ReadWorker

open ReadWorker

/-- The count of rows read goes by what is taken in, not by what is handed on. Over any calls, it
is the sum of what their rows count; no more records are accepted; and it is their number if and
only if there is no barrier, or no call behind it fails after it has taken in a row. -/
theorem rows_count_as_they_are_taken_in {σ η τ : Type} {c : ReadConnector σ τ}
    {registry : Registry σ} {keys : Nat → UInt32} {w : ReadWorker σ τ} {t₀ t₁ : Traced σ}
    (hsetup : (c.setup registry keys).run.run t₀ = (.ok w, t₁))
    {calls : List (Step (σ × η) Unit × Host η τ)} (hh : ∀ call ∈ calls, call.2.Regroups)
    (t : Traced (σ × η)) :
    ∃ mapper codec tallies w' t', c.mapper = some mapper ∧ c.codec = some codec ∧
      (w.tallyAll calls).run t = ((tallies, w'), t') ∧
      (w.processAll calls).run t = ((tallies.map Tally.answer, w'), t') ∧
      tallies.length = calls.length ∧
      (∀ v ∈ tallies, Accounts mapper (if c.fusionBarrier then some codec else none) v) ∧
      w'.stats.rowsRead = (tallies.map Tally.counted).sum ∧
      (tallies.flatMap Tally.accepted).length ≤ w'.stats.rowsRead ∧
      (w'.stats.rowsRead = (tallies.flatMap Tally.accepted).length ↔
        c.fusionBarrier = false ∨ ∀ v ∈ tallies, v.answer.isOk = true ∨ v.counted = 0) := by
  obtain ⟨connection, query, mapper, codec, hmapper, hcodec, rfl⟩ :=
    ReadConnector.parts_of_setup hsetup
  have hrests : Rests mapper (if c.fusionBarrier then some codec else none)
      (⟨some connection, query, mapper,
        if c.fusionBarrier then some (.create codec keys) else none, ⟨0, 0⟩⟩ :
          ReadWorker σ τ) := by
    cases c.fusionBarrier with
    | false => exact ⟨rfl, rfl, nofun⟩
    | true =>
      refine ⟨rfl, rfl, ?_⟩
      rintro _ ⟨⟩
      rfl
  obtain ⟨tallies, w', t', htallies, hlength, _, hsum, hall⟩ := hrests.tallyAll hh t
  rw [Nat.zero_add] at hsum
  obtain ⟨hle, hiff⟩ := Accounts.sums hall
  refine ⟨mapper, codec, tallies, w', t', hmapper, hcodec, htallies,
    run_processAll tally_answer htallies, hlength, hall, hsum, hsum ▸ hle, ?_⟩
  rw [hsum, hiff]
  have heach : ∀ v ∈ tallies, (v.counted = v.accepted.length ↔
      c.fusionBarrier = false ∨ v.answer.isOk = true ∨ v.counted = 0) := by
    intro v hv
    rw [(hall v hv).eq_length_iff]
    cases c.fusionBarrier <;> simp
  cases hbarrier : c.fusionBarrier with
  | false => exact ⟨fun _ => .inl rfl, fun _ v hv => (heach v hv).mpr (.inl hbarrier)⟩
  | true =>
    simp only [hbarrier, reduceCtorEq, false_or] at heach ⊢
    exact forall₂_congr heach

/-- A call that goes well and one whose first row is not mapped: as many rows count as records are
accepted. -/
theorem rows_count_as_they_are_taken_in_whole :
    let c : ReadConnector Database Int64 := ⟨some (.ofSource (dataSource .self)),
      some "SELECT n", some ⟨"first column", fun row => row.int64 0⟩, some .int64, true⟩
    let w : ReadWorker Database Int64 := ⟨some (connection .self 0), "SELECT n",
      ⟨"first column", fun row => row.int64 0⟩, some (.create .int64 UInt32.ofNat), 0, 0⟩
    let seed (values : List Value) : Step (Database × Unit) Unit := modify fun t =>
      ⟨(t.world.1.seed "SELECT n" (values.map fun v => ⟨[("n", v)]⟩), t.world.2), t.events⟩
    let host : Host Unit Int64 :=
      ⟨fun keyed => pure [(0, (keyed.map Prod.snd).reverse)], fun _ => pure ()⟩
    let calls := [(seed [.int64 4, .int64 5], host), (seed [.null, .int64 6], host)]
    let ready := Database.empty.opened none
    (∃ events,
      (c.setup [] UInt32.ofNat).run.run ⟨Database.empty, #[]⟩ = (.ok w, ⟨ready, events⟩)) ∧
    (∀ call ∈ calls, call.2.Regroups) ∧
    ∃ tallies w' t', (w.tallyAll calls).run ⟨(ready, ()), #[]⟩ = ((tallies, w'), t') ∧
      tallies.map (fun v => (v.answer.isOk, v.counted, v.accepted)) =
        [(true, 2, [5, 4]), (false, 0, [])] ∧
      w'.stats.rowsRead = (tallies.flatMap Tally.accepted).length := by
  intro c w seed host calls ready
  have hsetup : (c.setup [] UInt32.ofNat).run.run ⟨Database.empty, #[]⟩ = (.ok w, ⟨ready, _⟩) := rfl
  have hhost : host.Regroups := by
    intro keyed t groups t' h
    obtain rfl := Except.ok.inj (congrArg Prod.fst h)
    simp
  have hh : ∀ call ∈ calls, call.2.Regroups := by
    simp only [calls, List.forall_mem_cons, List.not_mem_nil, false_imp_iff, implies_true, and_true]
    exact ⟨hhost, hhost⟩
  have hseen : ((w.tallyAll calls).run ⟨(ready, ()), #[]⟩).1.1.map
      (fun v => (v.answer.isOk, v.counted, v.accepted)) =
        [(true, 2, [5, 4]), (false, 0, [])] := by decide +kernel
  obtain ⟨_, _, tallies, w', t', -, -, htallies, -, -, -, -, -, hiff⟩ :=
    rows_count_as_they_are_taken_in hsetup hh ⟨(ready, ()), #[]⟩
  rw [htallies] at hseen
  refine ⟨⟨_, hsetup⟩, hh, tallies, w', t', htallies, hseen, hiff.mpr (.inr fun v hv => ?_)⟩
  have hmem : (v.answer.isOk, v.counted, v.accepted) ∈
      [(true, 2, [5, 4]), (false, 0, [])] := by
    rw [← hseen]
    exact List.mem_map_of_mem hv
  simp only [List.mem_cons, List.not_mem_nil, or_false, Prod.mk.injEq] at hmem
  exact hmem.imp And.left fun h => h.2.1

/-- A call that fails at its second row: the first counts, and nothing is accepted. -/
theorem rows_of_failed_calls_count :
    let w : ReadWorker Database Int64 := ⟨some (connection .self 0), "SELECT n",
      ⟨"first column", fun row => row.int64 0⟩, some (.create .int64 UInt32.ofNat), 0, 0⟩
    let host : Host Unit Int64 := ⟨fun keyed => pure [(0, keyed.map Prod.snd)], fun _ => pure ()⟩
    let db := (Database.empty.opened none).seed "SELECT n" [⟨[("n", .int64 1)]⟩, ⟨[("n", .null)]⟩]
    let p := (w.tally host).run ⟨(db, ()), #[]⟩
    host.Regroups ∧ p.1.2.stats.rowsRead = 1 ∧ p.1.1.accepted = [] := by
  intro w host db p
  refine ⟨?_, by decide +kernel⟩
  intro keyed t groups t' h
  obtain rfl := Except.ok.inj (congrArg Prod.fst h)
  simp

end BatchSql
