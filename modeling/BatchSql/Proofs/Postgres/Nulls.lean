import BatchSql.Proofs.Postgres.Calls
import Mathlib.Data.List.Forall2

namespace BatchSql.Postgres

/-- The values that belong to a type. -/
inductive Belongs : ColumnType → Value → Prop where
  | bool (b : Bool) : Belongs .bool (.bool b)
  | int2 (n : Int16) : Belongs .int2 (.int16 n)
  | int4 (n : Int32) : Belongs .int4 (.int32 n)
  | int8 (n : Int64) : Belongs .int8 (.int64 n)
  | float4 (x : Binary32) : Belongs .float4 (.float32 x)
  | float8 (x : Binary64) : Belongs .float8 (.float64 x)
  | numeric (d : Decimal) : Belongs .numeric (.decimal d)
  | bytea (bs : Octets) : Belongs .bytea (.bytes bs)
  | date (d : Date) : Belongs .date (.date d)
  | time (t : Time) : Belongs .time (.time t)
  | timestamp (t : DateTime) : Belongs .timestamp (.dateTime t)
  | timestamptz (t : Instant) : Belongs .timestamptz (.instant t)
  | uuid (u : Uuid) : Belongs .uuid (.uuid u)
  | json (j : Document) : Belongs .json (.json j)
  | jsonb (j : Document) : Belongs .jsonb (.json j)
  | text {t : ColumnType} (s : String) (isText : t.isText = true) : Belongs t (.string s)

theorem Belongs.written {t : ColumnType} {v : Value} (h : Belongs t v) :
    v ≠ .null ∧ ∃ octets, t.write? v = some (some octets) := by
  cases h with
  | text s isText =>
    refine ⟨by simp, t.textFront ++ Utf8.ofString s, ?_⟩
    simp only [ColumnType.write?, if_pos isText]
  | _ => exact ⟨by simp, _, rfl⟩

/-- Only the integers of four octets take a null. -/
theorem write_null (t : ColumnType) :
    t.write? .null = if t = .int4 then some none else none := by
  cases t with
  | int4 => rfl
  | _ => simp [ColumnType.write?]

theorem write_fits {t : ColumnType} {v : Value} (h : v = .null ∨ Belongs t v) :
    (v = .null ∧ t ≠ .int4 ∧ t.write? v = none) ∨
      (v = .null → t = .int4) ∧ ∃ o, t.write? v = some o ∧ (o = none ↔ v = .null) := by
  rcases h with rfl | hbelongs
  · rw [write_null]
    by_cases ht : t = .int4
    · exact .inr ⟨fun _ => ht, none, if_pos ht, by simp⟩
    · exact .inl ⟨rfl, ht, if_neg ht⟩
  · obtain ⟨hne, octets, hoctets⟩ := hbelongs.written
    exact .inr ⟨fun hnull => absurd hnull hne, some octets, hoctets, by simp [hne]⟩

/-- A row of parameters: each is null or a value that belongs to its type. -/
def Fits (types : List ColumnType) (row : List Value) : Prop :=
  List.Forall₂ (fun t v => v = .null ∨ Belongs t v) types row

/-- Every null is for a parameter of the type that takes it. -/
def Placed (types : List ColumnType) (row : List Value) : Prop :=
  List.Forall₂ (fun t v => v = .null → t = .int4) types row

/-- The first null for a parameter of another type: its position and the type. -/
inductive Misplaced : Nat → ColumnType → List ColumnType → List Value → Prop where
  | here {t : ColumnType} {ts : List ColumnType} {vs : List Value} (other : t ≠ .int4) :
      Misplaced 0 t (t :: ts) (.null :: vs)
  | later {k : Nat} {t t' : ColumnType} {ts : List ColumnType} {v : Value} {vs : List Value}
      (placed : v = .null → t' = .int4) (rest : Misplaced k t ts vs) :
      Misplaced (k + 1) t (t' :: ts) (v :: vs)

theorem Misplaced.not_placed {k : Nat} {t : ColumnType} {types : List ColumnType}
    {row : List Value} (h : Misplaced k t types row) : ¬Placed types row := by
  induction h with
  | here other =>
    rintro (_ | ⟨hplaced, -⟩)
    exact other (hplaced rfl)
  | later placed rest ih =>
    rintro (_ | ⟨-, hrest⟩)
    exact ih hrest

/-- The parameters as they are sent: what is null, and nothing else, is sent as NULL. -/
def Nulls (row : List Value) (params : List (Option Octets)) : Prop :=
  List.Forall₂ (fun v o => o = none ↔ v = .null) row params

/-- A null that is out of place is the error of its row. -/
theorem encodeFrom_fits {types : List ColumnType} {row : List Value} (h : Fits types row)
    (position : Nat) :
    (Placed types row ∧ ∃ params, encodeFrom position types row = .ok params ∧ Nulls row params) ∨
      ∃ k t, Misplaced k t types row ∧
        encodeFrom position types row = .error (.parameter (position + k) .null t) := by
  induction h generalizing position with
  | nil => exact .inl ⟨.nil, [], rfl, .nil⟩
  | @cons t v ts vs hv hvs ih =>
    rcases write_fits hv with ⟨rfl, ht, hnone⟩ | ⟨hplaced, o, ho, hnull⟩
    · refine .inr ⟨0, t, .here ht, ?_⟩
      rw [encodeFrom, hnone]
      rfl
    · rcases ih (position + 1) with ⟨hrest, params, hparams, hnulls⟩ | ⟨k, t', hmisplaced, herror⟩
      · refine .inl ⟨.cons hplaced hrest, o :: params, ?_, .cons hnull hnulls⟩
        rw [encodeFrom, ho]
        dsimp only
        rw [hparams]
        rfl
      · refine .inr ⟨k + 1, t', .later hplaced hmisplaced, ?_⟩
        rw [encodeFrom, ho]
        dsimp only
        rw [herror, Nat.add_right_comm]
        rfl

theorem encode_fits {types : List ColumnType} {row : List Value} (h : Fits types row) :
    (Placed types row ∧ ∃ params, encode types row = .ok params ∧ Nulls row params) ∨
      ∃ k t, Misplaced k t types row ∧ encode types row = .error (.parameter k .null t) := by
  rw [encode, if_pos h.length_eq]
  rcases encodeFrom_fits h 0 with hsent | ⟨k, t, hmisplaced, herror⟩
  · exact .inl hsent
  · rw [Nat.zero_add] at herror
    exact .inr ⟨k, t, hmisplaced, herror⟩

theorem encodes_iff {types : List ColumnType} {row : List Value} (h : Fits types row) :
    (∃ params, encode types row = .ok params) ↔ Placed types row := by
  rcases encode_fits h with ⟨hplaced, params, hparams, -⟩ | ⟨k, t, hmisplaced, herror⟩
  · exact ⟨fun _ => hplaced, fun _ => ⟨params, hparams⟩⟩
  · rw [herror]
    refine ⟨?_, fun hplaced => absurd hplaced hmisplaced.not_placed⟩
    rintro ⟨params, hparams⟩
    cases hparams

/-- Runs a statement with parameters that are written already. -/
def Client.submit {S : Type} (server : Server S) (i : Nat) (p : Prepared)
    (params : List (Option Octets)) : Client S Nat := do
  let outcome ← sendOver i (.execute p.sql params) (server.execute p.sql params)
  match outcome.ending with
  | .ok tag => pure (affected tag)
  | .error message => throw (.refused message)

variable {S : Type} {server : Server S} {i : Nat} {p : Prepared} {n n' n'' : Network S}

/-- Between two states of a network a statement was sent with some sets of parameters. -/
structure Sends (p : Prepared) (n : Network S) (sets : List (List (Option Octets)))
    (n' : Network S) : Prop where
  sessions : n'.sessions = n.sessions
  sent : n'.sent.map Sent.request = n.sent.map Sent.request ++ sets.map (.execute p.sql)

theorem Sends.refl (p : Prepared) (n : Network S) : Sends p n [] n :=
  ⟨rfl, (List.append_nil _).symm⟩

theorem Sends.trans {xs ys : List (List (Option Octets))} (h : Sends p n xs n')
    (h' : Sends p n' ys n'') : Sends p n (xs ++ ys) n'' where
  sessions := by rw [h'.sessions, h.sessions]
  sent := by rw [h'.sent, h.sent, List.map_append, List.append_assoc]

theorem Sends.linked {sets : List (List (Option Octets))} (h : Sends p n sets n')
    (hl : (n.session i).linked = true) : (n'.session i).linked = true := by
  rw [Network.session, h.sessions]
  exact hl

/-- Over a link that holds, only the server refuses. -/
theorem submit_sends (server : Server S) (p : Prepared) (hl : (n.session i).linked = true)
    (params : List (Option Octets)) : ∃ (answer : Except String Nat) (n' : Network S),
      (Client.submit server i p params).run.run n = (answer.mapError .refused, n') ∧
        Sends p n [params] n' := by
  let answered := (server.execute p.sql params).run n.server
  let next : Network S :=
    ⟨answered.2, n.sent ++ [⟨.execute p.sql params, answered.1.isOk⟩], n.sessions⟩
  have hsend : (Client.sendOver i (.execute p.sql params) (server.execute p.sql params)).run.run n =
      (answered.1.mapError .refused, next) := by
    rw [Client.sendOver, run_bind_ok run_get, if_neg (by simp [hl])]
    rfl
  have hsends : Sends p n [params] next := ⟨rfl, by simp [next]⟩
  cases ha : answered.1 with
  | error message =>
    rw [ha] at hsend
    exact ⟨.error message, next, run_bind_error hsend, hsends⟩
  | ok outcome =>
    rw [ha] at hsend
    obtain ⟨rows, ending⟩ := outcome
    cases ending with
    | ok tag => exact ⟨.ok (affected tag), next, run_bind_ok hsend, hsends⟩
    | error message => exact ⟨.error message, next, run_bind_ok hsend, hsends⟩

theorem run_client_ofExcept {α : Type} (r : Except ClientError α) (n : Network S) :
    (MonadExcept.ofExcept r : Client S α).run.run n = (r, n) := by
  cases r with
  | ok a => rfl
  | error e => rfl

theorem execute_eq (server : Server S) (i : Nat) (p : Prepared) (row : List Value) :
    Client.execute server i p row =
      MonadExcept.ofExcept (encode p.description.params row) >>= Client.submit server i p := by
  rw [Client.execute, Client.perform, bind_assoc]
  rfl

/-- What comes of a row of parameters. -/
inductive Binds (server : Server S) (i : Nat) (p : Prepared) (n : Network S) (row : List Value) :
    Except ClientError Nat → Network S → Prop where
  | sent {params : List (Option Octets)} {answer : Except String Nat} {n' : Network S}
      (placed : Placed p.description.params row)
      (written : encode p.description.params row = .ok params) (nulls : Nulls row params)
      (answered : (Client.submit server i p params).run.run n = (answer.mapError .refused, n'))
      (sends : Sends p n [params] n') :
      Binds server i p n row (answer.mapError .refused) n'
  | held {k : Nat} {t : ColumnType} (misplaced : Misplaced k t p.description.params row) :
      Binds server i p n row (.error (.parameter k .null t)) n

theorem execute_binds (server : Server S) (hl : (n.session i).linked = true) {row : List Value}
    (hf : Fits p.description.params row) :
    ∃ r n', (Client.execute server i p row).run.run n = (r, n') ∧ Binds server i p n row r n' := by
  rw [execute_eq]
  rcases encode_fits hf with ⟨hplaced, params, hparams, hnulls⟩ | ⟨k, t, hmisplaced, herror⟩
  · obtain ⟨answer, n', hrun, hsends⟩ := submit_sends server p hl params
    have hencode := run_client_ofExcept (encode p.description.params row) n
    rw [hparams] at hencode ⊢
    exact ⟨_, n', (run_bind_ok hencode).trans hrun, .sent hplaced hparams hnulls hrun hsends⟩
  · have hencode := run_client_ofExcept (encode p.description.params row) n
    rw [herror] at hencode ⊢
    exact ⟨_, n, run_bind_error hencode, .held hmisplaced⟩

/-- What comes of rows of parameters, each tried after the one before it. -/
inductive BindsEach (server : Server S) (i : Nat) (p : Prepared) :
    Network S → List (List Value) → List (Except ClientError Nat) → Network S → Prop where
  | nil (n : Network S) : BindsEach server i p n [] [] n
  | cons {n n' n'' : Network S} {row : List Value} {rows : List (List Value)}
      {r : Except ClientError Nat} {rs : List (Except ClientError Nat)}
      (head : Binds server i p n row r n') (tail : BindsEach server i p n' rows rs n'') :
      BindsEach server i p n (row :: rows) (r :: rs) n''

theorem Binds.linked {row : List Value} {r : Except ClientError Nat}
    (h : Binds server i p n row r n') (hl : (n.session i).linked = true) :
    (n'.session i).linked = true := by
  cases h with
  | sent placed written nulls answered sends => exact sends.linked hl
  | held misplaced => exact hl

theorem unsent?_refused (answer : Except String Nat) :
    Client.unsent? (answer.mapError .refused) = none := by
  cases answer with
  | ok k => rfl
  | error message => rfl

theorem executeEach_binds (server : Server S) {rows : List (List Value)}
    (hl : (n.session i).linked = true) (hf : ∀ row ∈ rows, Fits p.description.params row) :
    ∃ rs n', (rows.mapM fun row => (Client.execute server i p row).run).run n = (rs, n') ∧
      BindsEach server i p n rows rs n' := by
  induction rows generalizing n with
  | nil => exact ⟨[], n, rfl, .nil n⟩
  | cons row rows ih =>
    rw [List.forall_mem_cons] at hf
    obtain ⟨r, n', hrun, hbinds⟩ := execute_binds server hl hf.1
    obtain ⟨rs, n'', hruns, hrest⟩ := ih (hbinds.linked hl) hf.2
    refine ⟨r :: rs, n'', ?_, .cons hbinds hrest⟩
    rw [List.mapM_cons]
    exact (run_step_bind hrun).trans (run_step_bind hruns)

/-- The rows up to the first that cannot be sent. -/
theorem executeSendable_binds (server : Server S) {rows : List (List Value)}
    (hl : (n.session i).linked = true) (hf : ∀ row ∈ rows, Fits p.description.params row) :
    ∃ front back rs n', rows = front ++ back ∧
      (Client.executeSendable server i p rows).run n = (rs, n') ∧
      BindsEach server i p n front rs n' ∧ (rs.findSome? Client.unsent? = none → back = []) := by
  induction rows generalizing n with
  | nil => exact ⟨[], [], [], n, rfl, rfl, .nil n, fun _ => rfl⟩
  | cons row rows ih =>
    rw [List.forall_mem_cons] at hf
    obtain ⟨r, n', hrun, hbinds⟩ := execute_binds server hl hf.1
    obtain ⟨front, back, rs, n'', hrows, hruns, hrest, hback⟩ := ih (hbinds.linked hl) hf.2
    cases hbinds with
    | @sent params answer _ placed written nulls answered sends =>
      refine ⟨row :: front, back, answer.mapError .refused :: rs, n'', ?_, ?_,
        .cons (.sent placed written nulls answered sends) hrest, ?_⟩
      · rw [hrows, List.cons_append]
      · rw [Client.executeSendable]
        refine (run_step_bind hrun).trans ?_
        cases answer with
        | ok k => exact run_step_bind hruns
        | error message => exact run_step_bind hruns
      · rw [List.findSome?_cons, unsent?_refused]
        exact hback
    | @held k t misplaced =>
      refine ⟨[row], rows, [.error (.parameter k .null t)], n, rfl, run_step_bind hrun,
        .cons (.held misplaced) (.nil n), ?_⟩
      intro hnone
      cases hnone

/-- All rows are sent, each null as NULL, and the server answers each of them. -/
structure SendsAll (server : Server S) (i : Nat) (p : Prepared) (n : Network S)
    (rows : List (List Value)) (sets : List (List (Option Octets)))
    (answers : List (Except String Nat)) (n' : Network S) : Prop where
  placed : ∀ row ∈ rows, Placed p.description.params row
  written : List.Forall₂
    (fun row params => encode p.description.params row = .ok params ∧ Nulls row params) rows sets
  answered : (sets.mapM fun params => (Client.submit server i p params).run).run n =
    (answers.map (Except.mapError .refused), n')
  sends : Sends p n sets n'

/-- What comes of a batch. Where a null is out of place it fails, and no row that has one is
sent. -/
inductive BindsAll (server : Server S) (i : Nat) (p : Prepared) (n : Network S)
    (batch : List (List Value)) : Except ClientError (List Nat) → Network S → Prop where
  | sent {sets : List (List (Option Octets))} {answers : List (Except String Nat)} {n' : Network S}
      (all : SendsAll server i p n batch sets answers n') :
      BindsAll server i p n batch (Client.inOrder (answers.map (Except.mapError .refused))) n'
  | held {row : List Value} {k : Nat} {t : ColumnType} {e : ClientError}
      {sets : List (List (Option Octets))} {n' : Network S} (among : row ∈ batch)
      (misplaced : Misplaced k t p.description.params row)
      (failure : (∃ message, e = .refused message) ∨ ∃ row ∈ batch, ∃ k t,
        Misplaced k t p.description.params row ∧ e = .parameter k .null t)
      (sendable : sets.Sublist
        (batch.filterMap fun row => (encode p.description.params row).toOption))
      (sends : Sends p n sets n') : BindsAll server i p n batch (.error e) n'

section Each

variable {rows front back : List (List Value)} {rs : List (Except ClientError Nat)}

theorem BindsEach.sends_all (h : BindsEach server i p n rows rs n')
    (hs : rs.findSome? Client.unsent? = none) :
    ∃ sets answers, rs = answers.map (Except.mapError .refused) ∧
      SendsAll server i p n rows sets answers n' := by
  induction h with
  | nil n => exact ⟨[], [], rfl, List.forall_mem_nil _, .nil, rfl, .refl p n⟩
  | cons head tail ih =>
    cases head with
    | held misplaced => cases hs
    | @sent params answer _ placed written nulls answered sends =>
      rw [List.findSome?_cons, unsent?_refused] at hs
      obtain ⟨sets, answers, rfl, hall⟩ := ih hs
      refine ⟨params :: sets, answer :: answers, rfl,
        List.forall_mem_cons.mpr ⟨placed, hall.placed⟩, .cons ⟨written, nulls⟩ hall.written, ?_,
        sends.trans hall.sends⟩
      rw [List.mapM_cons]
      exact (run_step_bind answered).trans (run_step_bind hall.answered)

theorem BindsEach.sent (h : BindsEach server i p n rows rs n')
    (hs : rs.findSome? Client.unsent? = none) :
    BindsAll server i p n rows (Client.inOrder rs) n' := by
  obtain ⟨sets, answers, rfl, hall⟩ := h.sends_all hs
  exact .sent hall

/-- What was sent of some rows, and how the others failed. -/
theorem BindsEach.failures (h : BindsEach server i p n rows rs n') :
    (∃ sets : List (List (Option Octets)), sets.Sublist
        (rows.filterMap fun row => (encode p.description.params row).toOption) ∧
      Sends p n sets n') ∧
    ∀ e, .error e ∈ rs → (∃ message, e = .refused message) ∨ ∃ row ∈ rows, ∃ k t,
      Misplaced k t p.description.params row ∧ e = .parameter k .null t := by
  induction h with
  | nil n => exact ⟨⟨[], .slnil, .refl p n⟩, fun e he => absurd he (List.not_mem_nil)⟩
  | @cons n n' n'' row rows r rs head tail ih =>
    obtain ⟨⟨sets, hsendable, hsends⟩, hfailures⟩ := ih
    have hrest : ∀ e, .error e ∈ rs → (∃ message, e = .refused message) ∨
        ∃ row' ∈ row :: rows, ∃ k t,
          Misplaced k t p.description.params row' ∧ e = .parameter k .null t := by
      intro e he
      rcases hfailures e he with hrefused | ⟨row', hmem, hmisplaced⟩
      · exact .inl hrefused
      · exact .inr ⟨row', List.mem_cons_of_mem row hmem, hmisplaced⟩
    cases head with
    | @sent params answer _ placed written nulls answered sends =>
      refine ⟨⟨params :: sets, ?_, sends.trans hsends⟩, ?_⟩
      · rw [List.filterMap_cons, written]
        exact hsendable.cons_cons params
      · intro e he
        rcases List.mem_cons.mp he with hhead | htail
        · cases answer with
          | ok k => cases hhead
          | error message =>
            cases hhead
            exact .inl ⟨message, rfl⟩
        · exact hrest e htail
    | @held k t misplaced =>
      refine ⟨⟨sets, hsendable.trans ?_, hsends⟩, ?_⟩
      · exact ((List.sublist_cons_self row rows).filterMap _)
      · intro e he
        rcases List.mem_cons.mp he with hhead | htail
        · cases hhead
          exact .inr ⟨row, List.mem_cons_self, k, t, misplaced, rfl⟩
        · exact hrest e htail

theorem mem_of_unsent {e : ClientError} (h : rs.findSome? Client.unsent? = some e) :
    .error e ∈ rs ∧ e.isUnsent = true := by
  obtain ⟨r, hr, he⟩ := List.exists_of_findSome?_eq_some h
  cases r with
  | ok k => cases he
  | error e' =>
    rw [Client.unsent?] at he
    split at he
    · cases he
      exact ⟨hr, ‹_›⟩
    · cases he

/-- Rows of which one could not be sent are a failed batch, with any rows behind them. -/
theorem BindsEach.held {e unsent : ClientError} (h : BindsEach server i p n front rs n')
    (hs : rs.findSome? Client.unsent? = some unsent) (he : .error e ∈ rs) :
    BindsAll server i p n (front ++ back) (.error e) n' := by
  obtain ⟨⟨sets, hsendable, hsends⟩, hfailures⟩ := h.failures
  obtain ⟨hmem, hunsent⟩ := mem_of_unsent hs
  rcases hfailures unsent hmem with ⟨message, rfl⟩ | ⟨row, hrow, k, t, hmisplaced, -⟩
  · cases hunsent
  · refine .held (List.mem_append_left back hrow) hmisplaced ?_ ?_ hsends
    · rcases hfailures e he with hrefused | ⟨row', hrow', hmisplaced'⟩
      · exact .inl hrefused
      · exact .inr ⟨row', List.mem_append_left back hrow', hmisplaced'⟩
    · rw [List.filterMap_append]
      exact hsendable.trans (List.sublist_append_left _ _)

theorem inOrder_error {e : ClientError} (h : .error e ∈ rs) :
    ∃ e', Client.inOrder rs = .error e' ∧ .error e' ∈ rs := by
  induction rs with
  | nil => cases h
  | cons r rs ih =>
    cases r with
    | error e' => exact ⟨e', rfl, List.mem_cons_self⟩
    | ok k =>
      rcases List.mem_cons.mp h with hhead | htail
      · cases hhead
      · obtain ⟨e', horder, hmem⟩ := ih htail
        refine ⟨e', ?_, List.mem_cons_of_mem _ hmem⟩
        rw [Client.inOrder, horder]
        rfl

/-- Rows that were all tried are a batch. -/
theorem BindsEach.all (h : BindsEach server i p n rows rs n') :
    BindsAll server i p n rows (Client.inOrder rs) n' := by
  cases hs : rs.findSome? Client.unsent? with
  | none => exact h.sent hs
  | some unsent =>
    obtain ⟨e, horder, he⟩ := inOrder_error (mem_of_unsent hs).1
    rw [horder, ← List.append_nil rows]
    exact h.held hs he

end Each

theorem run_client_lift {α : Type} {m : StateM (Network S) α} {a : α}
    (h : m.run n = (a, n')) : (ExceptT.lift m : Client S α).run.run n = (.ok a, n') := by
  rw [ExceptT.run_lift, StateT.run_map, h]
  rfl

theorem executeBatch_binds (server : Server S) (hl : (n.session i).linked = true)
    {batch : List (List Value)} (hf : ∀ row ∈ batch, Fits p.description.params row) :
    ∃ r n', (Client.executeBatch server i p batch).run.run n = (r, n') ∧
      BindsAll server i p n batch r n' := by
  rw [Client.executeBatch]
  split
  · obtain ⟨front, back, rs, n', rfl, hrun, heach, hback⟩ := executeSendable_binds server hl hf
    rw [Client.executeShort, run_bind_ok (run_client_lift hrun)]
    cases hs : rs.findSome? Client.unsent? with
    | none =>
      rw [hback hs, List.append_nil]
      exact ⟨_, n', run_client_ofExcept _ n', heach.sent hs⟩
    | some e => exact ⟨_, n', rfl, heach.held hs (mem_of_unsent hs).1⟩
  · cases batch with
    | nil => exact ⟨_, n, rfl, (BindsEach.nil n).all⟩
    | cons row rows =>
      rw [List.forall_mem_cons] at hf
      obtain ⟨r, n', hrun, hbinds⟩ := execute_binds server hl hf.1
      obtain ⟨rs, n'', hruns, hrest⟩ := executeEach_binds server (hbinds.linked hl) hf.2
      rw [Client.executeLong, run_bind_ok (run_client_lift hrun)]
      cases hu : Client.unsent? r with
      | none =>
        dsimp only
        rw [run_bind_ok (run_client_lift hruns)]
        exact ⟨_, n'', run_client_ofExcept _ n'', (BindsEach.cons hbinds hrest).all⟩
      | some e =>
        have hs : [r].findSome? Client.unsent? = some e := by
          rw [List.findSome?_cons, hu]
        exact ⟨_, n', rfl, (BindsEach.cons hbinds (.nil n')).held hs (mem_of_unsent hs).1⟩

/-- A prepared statement sends a row of parameters, each null in it as NULL, if and only if every
null is for an integer of four octets. A null for any other type is an error of the client, and its
row is not sent. A batch is sent as a whole, or fails over a row that cannot be sent. -/
theorem nulls_are_sent_to_int4 {σ : Type} (server : Server S) (f : Focus σ (Network S)) [f.Lawful]
    (p : Prepared) (hbegin : (Action.beginIfNeeded server i).run.run n = (.ok (), n'))
    (hl : (n'.session i).linked = true) (world : σ) :
    (∀ row, Fits p.description.params row →
      ((∃ params, encode p.description.params row = .ok params) ↔
        Placed p.description.params row) ∧
      ∃ r n'', Binds server i p n' row r n'' ∧
        Does ((statement server f i p).execute row).run (f.set n world)
          (r.mapError fun e => .queryFault (some p.sql) e.fault) (f.set n'' world)) ∧
    ∀ batch, (∀ row ∈ batch, Fits p.description.params row) →
      ∃ r n'', BindsAll server i p n' batch r n'' ∧
        Does ((statement server f i p).executeBatch batch).run (f.set n world)
          (r.mapError fun e => .queryFault (some p.sql) e.fault) (f.set n'' world) := by
  constructor
  · intro row hf
    obtain ⟨r, n'', hrun, hbinds⟩ := execute_binds server hl hf
    have hexecute : (Action.executePrepared server i p row).run.run n =
        (r.mapError fun e => .queryFault (some p.sql) e.fault, n'') := by
      rw [Action.executePrepared, run_bind_ok hbegin]
      exact run_forSql hrun p.sql
    exact ⟨encodes_iff hf, r, n'', hbinds, does_task_ofState world hexecute⟩
  · intro batch hf
    obtain ⟨r, n'', hrun, hbinds⟩ := executeBatch_binds server hl hf
    have hexecute : (Action.executeBatch server i p batch).run.run n =
        (r.mapError fun e => .queryFault (some p.sql) e.fault, n'') := by
      rw [Action.executeBatch, run_bind_ok hbegin]
      exact run_forSql hrun p.sql
    exact ⟨r, n'', hbinds, does_task_ofState world hexecute⟩

/-- A server that takes what it is sent. -/
def taking : Server Unit where
  user _ := ""
  reach _ _ _ := .ok ()
  greet _ := pure (.ok .accepted)
  query _ := pure (.ok ⟨[], .ok ""⟩)
  prepare _ := pure (.ok ⟨[], []⟩)
  execute _ _ := pure (.ok ⟨[], .ok "INSERT 0 1"⟩)

/-- A null for a number goes out beside a text. -/
theorem nulls_are_sent_to_int4_beside_text :
    let n : Network Unit := ((Network.start ()).addSession false).2
    let p : Prepared := ⟨"W", [.int4, .text], []⟩
    let row : List Value := [.null, .string "x"]
    (Action.beginIfNeeded taking 0).run.run n = (.ok (), n) ∧ (n.session 0).linked = true ∧
    Fits p.description.params row ∧
    ∃ r n', Binds taking 0 p n row r n' ∧
      n'.sent.map Sent.request = [.execute "W" [none, some [0x78]]] := by
  intro n p row
  have hbegin : (Action.beginIfNeeded taking 0).run.run n = (.ok (), n) := rfl
  have hfits : Fits p.description.params row :=
    .cons (.inl rfl) (.cons (.inr (.text "x" rfl)) .nil)
  have hsent : (((statement taking .self 0 p).execute row).run.run ⟨n, #[]⟩).2.world.sent.map
      Sent.request = [.execute "W" [none, some [0x78]]] := by
    decide +kernel
  obtain ⟨hrows, -⟩ := nulls_are_sent_to_int4 taking .self p hbegin rfl n
  obtain ⟨-, r, n', hbinds, hdoes⟩ := hrows row hfits
  have hworld : (((statement taking .self 0 p).execute row).run.run ⟨n, #[]⟩).2.world = n' :=
    (hdoes.run #[]).2
  rw [hworld] at hsent
  exact ⟨hbegin, rfl, hfits, r, n', hbinds, hsent⟩

/-- A null for a text is not sent. -/
theorem nulls_are_not_sent_to_text :
    let n : Network Unit := ((Network.start ()).addSession false).2
    let p : Prepared := ⟨"W", [.text], []⟩
    Fits p.description.params [.null] ∧
    ((statement taking .self 0 p).execute [.null]).run.run ⟨n, #[]⟩ =
      (.error (.queryFault (some "W") (ClientError.parameter 0 .null .text).fault), ⟨n, #[]⟩) ∧
    n.sent = [] :=
  ⟨.cons (.inl rfl) .nil, rfl, rfl⟩

end BatchSql.Postgres
