import BatchSql.Memory.Connection
import BatchSql.Proofs.Encoding.RoundTrip
import BatchSql.Proofs.Memory.Actions
import BatchSql.Read

namespace BatchSql
open Memory

variable {η τ : Type} {host : Host η τ} {taken : η → List τ}

/-- A host that takes every record it is handed, and that gives back the records it groups, in
any order and split into any groups. `taken` are the records it took. -/
structure Host.Faithful (host : Host η τ) (taken : η → List τ) : Prop where
  group : ∀ keyed s, ∃ groups s', Does (host.group keyed).run s (.ok groups) s' ∧
    (groups.flatMap Prod.snd).Perm (keyed.map Prod.snd) ∧ taken s' = taken s
  emit : ∀ record s, ∃ s', Does (host.emit record).run s (.ok ()) s' ∧
    taken s' = taken s ++ [record]

/-- What there is to answer for rows: they all become records, or those do that come before the
first that the mapper rejects. -/
inductive Reads (mapper : RowMapper τ) : List Row → List τ → Except Error Nat → Prop where
  | all {rows : List Row} {records : List τ} (mapped : rows.map mapper.map = records.map .ok) :
      Reads mapper rows records (.ok rows.length)
  | upTo (front : List Row) {back : List Row} {row : Row} {records : List τ} {e : Error}
      (mapped : front.map mapper.map = records.map .ok) (rejected : mapper.map row = .error e) :
      Reads mapper (front ++ row :: back) records (.error (.rowMapping front.length e))

theorem exists_reads (mapper : RowMapper τ) (rows : List Row) :
    ∃ records answer, Reads mapper rows records answer := by
  induction rows with
  | nil => exact ⟨[], _, .all rfl⟩
  | cons row rows ih =>
    cases hrow : mapper.map row with
    | error e => exact ⟨[], _, .upTo [] rfl hrow⟩
    | ok record =>
      obtain ⟨records, _, hreads⟩ := ih
      cases hreads with
      | all hmapped =>
        refine ⟨record :: records, _, .all ?_⟩
        rw [List.map_cons, List.map_cons, hrow, hmapped]
      | upTo front hmapped hbad =>
        refine ⟨record :: records, _, .upTo (row :: front) ?_ hbad⟩
        rw [List.map_cons, List.map_cons, hrow, hmapped]

/-- What a barrier lets out when records have come in: all of them, in some order, or none after
a failure. -/
def LetOut (records out : List τ) : Except Error Nat → Prop
  | .ok _ => out.Perm records
  | .error _ => out = []

/-- Good answers in another order are the same records in another order. -/
theorem records_perm {answers : List (Except Error τ)} {records : List τ}
    (h : answers.Perm (records.map .ok)) :
    ∃ out : List τ, answers = out.map .ok ∧ out.Perm records := by
  have hall : ∀ a ∈ answers, ∃ r, id a = .ok r ∧ True := by
    intro a ha
    obtain ⟨r, _, rfl⟩ := List.mem_map.mp (h.mem_iff.mp ha)
    exact ⟨r, rfl, trivial⟩
  obtain ⟨out, hout, _⟩ := exists_map_ok hall
  rw [List.map_id] at hout
  refine ⟨out, hout, ?_⟩
  have hperm := h.filterMap Except.toOption
  rw [hout] at hperm
  simpa [List.filterMap_map, Function.comp_def, Except.toOption] using hperm

namespace FusionBarrier

/-- The records that wait in a barrier, as they will be decoded. -/
def Holds (b : FusionBarrier τ) (records : List τ) : Prop :=
  (b.keyed.map Prod.snd).map b.codec.decodeAlone = records.map .ok

/-- An encoding waits under the next key. -/
def taking (b : FusionBarrier τ) (bs : Octets) : FusionBarrier τ :=
  { b with drawn := b.drawn + 1, keyed := b.keyed ++ [(b.keys b.drawn, bs)] }

theorem emit_ok {b : FusionBarrier τ} {record : τ} {bs : Octets}
    (h : b.codec.encodeAlone record = .ok bs) : b.emit record = (.ok (), b.taking bs) := by
  rw [emit]
  dsimp only
  rw [h]
  rfl

/-- A record that has no encoding uses up a key all the same. -/
theorem emit_error {b : FusionBarrier τ} {record : τ} {e : Error}
    (h : b.codec.encodeAlone record = .error e) :
    b.emit record = (.error e, { b with drawn := b.drawn + 1 }) := by
  rw [emit]
  dsimp only
  rw [h]

theorem Holds.taking {b : FusionBarrier τ} {records : List τ} {record : τ} {bs : Octets}
    (h : b.Holds records) (hbs : b.codec.decodeAlone bs = .ok record) :
    (b.taking bs).Holds (records ++ [record]) := by
  unfold Holds at h ⊢
  simp only [FusionBarrier.taking, List.map_append, h]
  simp [hbs]

theorem release_ok (hh : host.Faithful taken) {codec : Codec τ} {bss : List Octets} {out : List τ}
    (h : bss.map codec.decodeAlone = out.map .ok) (n : Nat) (s : η) :
    ∃ s', Does (release codec host n bss).run s (.ok (n + bss.length)) s' ∧
      taken s' = taken s ++ out := by
  induction bss generalizing out n s with
  | nil =>
    obtain rfl : out = [] := by simpa using h
    exact ⟨s, Does.pure _ s, by simp⟩
  | cons bs rest ih =>
    obtain ⟨record, out, rfl, hbs, hrest⟩ := List.map_eq_cons_iff.mp h.symm
    obtain ⟨s₁, hemit, htaken⟩ := hh.emit record s
    obtain ⟨s₂, hloop, hall⟩ := ih hrest.symm (n + 1) s₁
    refine ⟨s₂, ?_, ?_⟩
    · rw [release, ← hbs, List.length_cons, Nat.add_comm rest.length, ← Nat.add_assoc]
      exact Does.task_bind (Does.ofExcept _ s) (Does.task_bind hemit hloop)
    · rw [hall, htaken, List.append_assoc]
      rfl

/-- The barrier lets out the records it holds, in some order. -/
theorem flush_ok (hh : host.Faithful taken) {b : FusionBarrier τ} {records : List τ}
    (h : b.Holds records) (s : η) :
    ∃ out s', Does (b.flush host) s (.ok records.length, b.clear) s' ∧
      taken s' = taken s ++ out ∧ out.Perm records := by
  obtain ⟨groups, s₁, hgroup, hperm, hkept⟩ := hh.group b.keyed s
  have hdecoded := hperm.map b.codec.decodeAlone
  rw [h] at hdecoded
  obtain ⟨out, hout, hrecords⟩ := records_perm hdecoded
  obtain ⟨s₂, hrelease, htaken⟩ := release_ok hh hout 0 s₁
  have hcount : (groups.flatMap Prod.snd).length = records.length := by
    simpa only [List.length_map] using hdecoded.length_eq
  rw [Nat.zero_add, hcount] at hrelease
  refine ⟨out, s₂, ?_, by rw [htaken, hkept], hrecords⟩
  exact Does.bind (Does.task_bind hgroup (Does.after_task_log hrelease)) (Does.pure _ _)

end FusionBarrier

namespace ReadWorker

variable {σ : Type} {mapper : RowMapper τ} {front : List Row} {records : List τ}
  {answer : Except Error Nat} {b : FusionBarrier τ}

/-- A barrier takes a record in without the host. -/
theorem pass_held {record : τ} {bs : Octets} (h : b.codec.encodeAlone record = .ok bs) (s : η) :
    Does (pass host (some b) record) s (.ok (), some (b.taking bs)) s := by
  rw [pass]
  dsimp only
  rw [FusionBarrier.emit_ok h]
  exact Does.pure _ _

/-- Without a barrier, the host takes the records as they come. -/
theorem scan_direct (hh : host.Faithful taken) (h : front.map mapper.map = records.map .ok)
    (rest : List (Except Error (Option Row))) (index : Nat) (s : η) :
    ∃ s₁, taken s₁ = taken s ++ records ∧
      ∀ {a s'}, Does (scan mapper host (.ok none) rest (index + records.length) none) s₁ a s' →
        Does (scan mapper host (.ok none) ((Cursor.ofRows front).coming ++ rest) index none) s a
          s' := by
  induction front generalizing records index s with
  | nil =>
    obtain rfl : records = [] := by simpa using h
    exact ⟨s, by simp, id⟩
  | cons row front ih =>
    obtain ⟨record, records, rfl, hrow, hfront⟩ := List.map_eq_cons_iff.mp h.symm
    obtain ⟨s₁, hemit, htaken⟩ := hh.emit record s
    obtain ⟨s₂, hall, hscan⟩ := ih hfront.symm (index + 1) s₁
    refine ⟨s₂, ?_, ?_⟩
    · rw [hall, htaken, List.append_assoc]
      rfl
    · intro a s' hrest
      rw [List.length_cons, Nat.add_comm records.length, ← Nat.add_assoc] at hrest
      have hpass : Does (pass host none record) s (.ok (), none) s₁ := hemit.bind (Does.pure _ _)
      change Does (scan mapper host (.ok none)
        (.ok (some row) :: ((Cursor.ofRows front).coming ++ rest)) index none) s a s'
      rw [scan, ← hrow]
      exact hpass.bind (Does.after_log (hscan hrest))

/-- With a barrier, the records wait in it and the host sees none of them. -/
theorem scan_held {before : List τ} (hb : b.Holds before)
    (hk : ∀ record ∈ records, b.codec.Keeps record)
    (h : front.map mapper.map = records.map .ok) (rest : List (Except Error (Option Row)))
    (index : Nat) :
    ∃ drawn keyed, { b with drawn, keyed }.Holds (before ++ records) ∧
      ∀ {a s s'}, Does (scan mapper host (.ok none) rest (index + records.length)
          (some { b with drawn, keyed })) s a s' →
        Does (scan mapper host (.ok none) ((Cursor.ofRows front).coming ++ rest) index (some b)) s a
          s' := by
  induction front generalizing records index b before with
  | nil =>
    obtain rfl : records = [] := by simpa using h
    rw [List.append_nil]
    exact ⟨b.drawn, b.keyed, hb, id⟩
  | cons row front ih =>
    obtain ⟨record, records, rfl, hrow, hfront⟩ := List.map_eq_cons_iff.mp h.symm
    rw [List.forall_mem_cons] at hk
    obtain ⟨⟨bs, hencode, hdecode⟩, hk⟩ := hk
    obtain ⟨drawn, keyed, hall, hscan⟩ := ih (hb.taking hdecode) hk hfront.symm (index + 1)
    rw [List.append_assoc] at hall
    refine ⟨drawn, keyed, hall, ?_⟩
    intro a s s' hrest
    rw [List.length_cons, Nat.add_comm records.length, ← Nat.add_assoc] at hrest
    change Does (scan mapper host (.ok none)
      (.ok (some row) :: ((Cursor.ofRows front).coming ++ rest)) index (some b)) s a s'
    rw [scan, ← hrow]
    exact (pass_held hencode s).bind (Does.after_log (hscan hrest))

/-- Without a barrier, an answer is given as it is. -/
theorem settle_direct (answer : Except Error Nat) (h : ∀ n, answer = .ok n → n = records.length)
    (s : η) :
    Does (settle host ⟨answer.map fun _ => (), records.length, none⟩) s (answer, none) s := by
  cases answer with
  | error e => exact Does.pure _ s
  | ok n =>
    rw [h n rfl]
    exact Does.pure _ s

/-- With a barrier, its records are let out or, after a failure, dropped. -/
theorem settle_held (hh : host.Faithful taken) (hb : b.Holds records) (answer : Except Error Nat)
    (h : ∀ n, answer = .ok n → n = records.length) (s : η) :
    ∃ out s', Does (settle host ⟨answer.map fun _ => (), records.length, some b⟩) s
        (answer, some b.clear) s' ∧
      taken s' = taken s ++ out ∧ LetOut records out answer := by
  cases answer with
  | error e => exact ⟨[], s, Does.pure _ s, (List.append_nil _).symm, rfl⟩
  | ok n =>
    obtain ⟨out, s', hflush, htaken, hout⟩ := FusionBarrier.flush_ok hh hb s
    obtain rfl := h n rfl
    exact ⟨out, s', hflush.bind (Does.pure _ s'), htaken, hout⟩

/-- A call with all its parts. -/
theorem process_does {world world' : σ} {w : ReadWorker σ τ}
    {connection : Connection σ} {cursor : Cursor} {s s₁ s₂ : η} {scanned : Scanned τ}
    {barrier : Option (FusionBarrier τ)} (hw : w.connection = some connection)
    (hquery : Does (connection.queryStream w.query []).run world (.ok cursor) world')
    (hscan : Does (scan w.mapper host cursor.last cursor.coming 0 w.barrier) s scanned s₁)
    (hsettle : Does (settle host scanned) s₁ (answer, barrier) s₂) :
    Does (w.process host) (world, s)
      (answer, { w with
        barrier
        stats := ⟨w.stats.queries + 1, w.stats.rowsRead + scanned.rows⟩ })
      (world', s₂) := by
  have hfirst := does_task_within (f := .first) (world, s) hquery
  have hsecond := does_within (f := .second) (world', s) hscan
  have hlast := does_within (f := .second) (world', s) hsettle
  obtain ⟨held, query, mapper, barrier', stats⟩ := w
  obtain rfl : held = some connection := hw
  exact Does.bind hfirst (Does.bind hsecond (Does.after_log (Does.bind hlast (Does.pure _ _))))

end ReadWorker

namespace Reads

variable {mapper : RowMapper τ} {rows : List Row} {records : List τ} {answer : Except Error Nat}
  {b : FusionBarrier τ}

theorem length_of_ok (h : Reads mapper rows records answer) :
    ∀ n, answer = .ok n → n = records.length := by
  intro n hn
  cases h with
  | all hmapped =>
    obtain rfl := Except.ok.inj hn
    exact length_of_map_ok hmapped
  | upTo front hmapped hrejected => cases hn

/-- The rows of the records are passed on, and what comes after them ends the scan. -/
theorem passing (h : Reads mapper rows records answer) (host : Host η τ) :
    ∃ front rest, front.map mapper.map = records.map .ok ∧
      (Cursor.ofRows rows).coming = (Cursor.ofRows front).coming ++ rest ∧
      ∀ s barrier, Does (ReadWorker.scan mapper host (.ok none) rest records.length barrier) s
        ⟨answer.map fun _ => (), records.length, barrier⟩ s := by
  cases h with
  | all hmapped =>
    exact ⟨rows, [], hmapped, (List.append_nil _).symm, fun s barrier => Does.pure _ s⟩
  | @upTo front back row _ e hmapped hrejected =>
    refine ⟨front, (Cursor.ofRows (row :: back)).coming, hmapped, List.map_append, ?_⟩
    intro s barrier
    change Does (ReadWorker.scan mapper host (.ok none)
      (.ok (some row) :: (Cursor.ofRows back).coming) records.length barrier) s _ s
    rw [ReadWorker.scan, hrejected, length_of_map_ok hmapped]
    exact Does.pure _ s

theorem scan_direct (hh : host.Faithful taken) (h : Reads mapper rows records answer) (s : η) :
    ∃ s', Does (ReadWorker.scan mapper host (.ok none) (Cursor.ofRows rows).coming 0 none) s
        ⟨answer.map fun _ => (), records.length, none⟩ s' ∧ taken s' = taken s ++ records := by
  obtain ⟨front, rest, hmapped, hrows, hend⟩ := h.passing host
  obtain ⟨s', htaken, hscan⟩ := ReadWorker.scan_direct hh hmapped rest 0 s
  rw [Nat.zero_add, ← hrows] at hscan
  exact ⟨s', hscan (hend s' none), htaken⟩

theorem scan_held (h : Reads mapper rows records answer) (hb : b.Holds [])
    (hk : ∀ record ∈ records, b.codec.Keeps record) (host : Host η τ) (s : η) :
    ∃ drawn keyed, { b with drawn, keyed }.Holds records ∧
      Does (ReadWorker.scan mapper host (.ok none) (Cursor.ofRows rows).coming 0 (some b)) s
        ⟨answer.map fun _ => (), records.length, some { b with drawn, keyed }⟩ s := by
  obtain ⟨front, rest, hmapped, hrows, hend⟩ := h.passing host
  obtain ⟨drawn, keyed, hall, hscan⟩ := ReadWorker.scan_held hb hk hmapped rest 0
  rw [Nat.zero_add, ← hrows] at hscan
  exact ⟨drawn, keyed, hall, hscan (hend s _)⟩

/-- The records come from the rows. -/
theorem mem_records (h : Reads mapper rows records answer) {record : τ} (hr : record ∈ records) :
    ∃ row ∈ rows, mapper.map row = .ok record := by
  cases h with
  | all hmapped => exact mem_of_map_ok hmapped hr
  | upTo front hmapped hrejected =>
    obtain ⟨row, hrow, he⟩ := mem_of_map_ok hmapped hr
    exact ⟨row, List.mem_append_left _ hrow, he⟩

end Reads

/-- A barrier changes neither the answer of a read, nor its statistics, nor what the database
sees: it only lets out the records in another order, or none of them after a failure. -/
theorem fusion_barrier_keeps_the_reading {σ : Type} {f : Focus σ Database} [f.Lawful]
    (hh : host.Faithful taken) {w : ReadWorker σ τ} {b : FusionBarrier τ} {db : Database}
    {i : Nat} {session : Session} {rows : List Row} (world : σ) (s : η)
    (hw : w.connection = some (Memory.connection f i)) (hsession : db.sessions[i]? = some session)
    (hopen : session.closed = false) (hquery : .query ∉ db.failures)
    (hplain : placeholders w.query = 0)
    (hseeded : Assoc.get? (Text.squeeze w.query) db.results = some rows) (hb : b.keyed = [])
    (hk : ∀ row ∈ rows, ∀ record, w.mapper.map row = .ok record → b.codec.Keeps record) :
    ∃ answer records out drawn s₁ s₂, Reads w.mapper rows records answer ∧
      (let stats := ⟨w.stats.queries + 1, w.stats.rowsRead + records.length⟩
      Does ({ w with barrier := none }.process host) (f.set db world, s)
        (answer, { w with barrier := none, stats }) (f.set (db.tally .query) world, s₁) ∧
      Does ({ w with barrier := some b }.process host) (f.set db world, s)
        (answer, { w with barrier := some { b with drawn }, stats })
        (f.set (db.tally .query) world, s₂)) ∧
      taken s₁ = taken s ++ records ∧ taken s₂ = taken s ++ out ∧ LetOut records out answer := by
  obtain ⟨records, answer, hreads⟩ := exists_reads w.mapper rows
  have hkeeps : ∀ record ∈ records, b.codec.Keeps record := by
    intro record hr
    obtain ⟨row, hrow, he⟩ := hreads.mem_records hr
    exact hk row hrow record he
  have hrun : (Action.query i w.query []).run.run db = (.ok rows, db.tally .query) :=
    Action.run_query hsession hopen hquery hplain hseeded
  have hcursor : Does ((Memory.connection f i).queryStream w.query []).run (f.set db world)
      (.ok (.ofRows rows)) (f.set (db.tally .query) world) :=
    Does.task_bind (does_task_ofState world hrun) (Does.pure _ _)
  have hempty : b.Holds [] := by simp [FusionBarrier.Holds, hb]
  obtain ⟨s₁, hdirect, htaken⟩ := hreads.scan_direct hh s
  obtain ⟨drawn, keyed, hholds, hheld⟩ := hreads.scan_held hempty hkeeps host s
  obtain ⟨out, s₂, hreleased, htaken', hout⟩ :=
    ReadWorker.settle_held hh hholds answer hreads.length_of_ok s
  have hdropped : { b with drawn, keyed }.clear = { b with drawn } := by
    rw [FusionBarrier.clear, ← hb]
  rw [hdropped] at hreleased
  refine ⟨answer, records, out, drawn, s₁, s₂, hreads, ⟨?_, ?_⟩, htaken, htaken', hout⟩
  · exact ReadWorker.process_does (w := { w with barrier := none }) hw hcursor hdirect
      (ReadWorker.settle_direct answer hreads.length_of_ok s₁)
  · exact ReadWorker.process_does (w := { w with barrier := some b }) hw hcursor hheld hreleased

theorem Host.faithful_collecting {ζ : Type} {group : List Keyed → Task ζ (List Group)}
    (h : ∀ keyed s, ∃ groups s', Does (group keyed).run s (.ok groups) s' ∧
      (groups.flatMap Prod.snd).Perm (keyed.map Prod.snd)) :
    (Host.collecting (τ := τ) group).Faithful Prod.snd where
  group keyed s := by
    obtain ⟨groups, s', hgroup, hperm⟩ := h keyed s.1
    exact ⟨groups, (s', s.2), does_task_within (f := .first) s hgroup, hperm, rfl⟩
  emit record s := ⟨(s.1, s.2 ++ [record]), fun _ => ⟨_, rfl⟩, rfl⟩

/-- A grouping that turns the records around. -/
theorem fusion_barrier_keeps_the_reading_reversed :
    let mapper : RowMapper Int64 := ⟨"first column", fun row => row.int64 0⟩
    let rows : List Row := [⟨[("n", .int64 1)]⟩, ⟨[("n", .int64 2)]⟩]
    let db : Database := (Database.empty.opened none).seed "SELECT n" rows
    let w : ReadWorker Database Int64 :=
      ⟨some (Memory.connection .self 0), "SELECT n", mapper, none, ⟨0, 0⟩⟩
    let b : FusionBarrier Int64 := .create .int64 UInt32.ofNat
    let host : Host (Unit × List Int64) Int64 :=
      .collecting fun keyed => pure [(0, (keyed.map Prod.snd).reverse)]
    (host.Faithful Prod.snd ∧ db.sessions[0]? = some .fresh ∧ .query ∉ db.failures ∧
      placeholders w.query = 0 ∧ Assoc.get? (Text.squeeze w.query) db.results = some rows ∧
      ∀ row ∈ rows, ∀ record, mapper.map row = .ok record → b.codec.Keeps record) ∧
    ∃ answer records out s₁ s₂, Reads mapper rows records answer ∧
      (∃ w', Does ({ w with barrier := none }.process host) (db, (), []) (answer, w')
        (db.tally .query, s₁)) ∧
      (∃ w', Does ({ w with barrier := some b }.process host) (db, (), []) (answer, w')
        (db.tally .query, s₂)) ∧
      s₁.2 = records ∧ s₂.2 = out ∧ LetOut records out answer := by
  intro mapper rows db w b host
  have hh : host.Faithful Prod.snd :=
    Host.faithful_collecting fun keyed s => ⟨_, s, Does.pure _ s, by simp⟩
  have hplain : placeholders w.query = 0 := by decide
  have hseeded : Assoc.get? (Text.squeeze w.query) db.results = some rows :=
    (Assoc.get?_put _ _ _ _).trans (if_pos rfl)
  have hsession : db.sessions[0]? = some .fresh := rfl
  have hquery : .query ∉ db.failures := List.not_mem_nil
  have hk : ∀ row ∈ rows, ∀ record, mapper.map row = .ok record → b.codec.Keeps record :=
    fun _ _ record _ => (Codec.int64_round_trips .outer record).alone
  obtain ⟨answer, records, out, drawn, s₁, s₂, hreads, ⟨hdirect, hheld⟩, htaken, htaken', hout⟩ :=
    fusion_barrier_keeps_the_reading (f := .self) (b := b) hh db ((), []) rfl hsession rfl hquery
      hplain hseeded rfl hk
  exact ⟨⟨hh, hsession, hquery, hplain, hseeded, hk⟩, answer, records, out, s₁, s₂, hreads,
    ⟨_, hdirect⟩, ⟨_, hheld⟩, htaken, htaken', hout⟩

end BatchSql
