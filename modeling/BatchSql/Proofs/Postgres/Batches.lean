import BatchSql.Proofs.Postgres.Nulls

namespace BatchSql.Postgres

/-- The error of a run of a statement, as it is told. -/
def Prepared.told (p : Prepared) (e : ClientError) : Error :=
  .queryFault (some p.sql) e.fault

variable {σ S α β : Type} {server : Server S} {i : Nat} {p : Prepared} {n n' n₁ : Network S}

/-- Work that leaves all sessions as they are. -/
def KeepsSessions (m : StateM (Network S) α) : Prop :=
  ∀ n, (m.run n).2.sessions = n.sessions

section Sessions

theorem keepsSessions_pure (a : α) : KeepsSessions (pure a : StateM (Network S) α) :=
  fun _ => rfl

theorem KeepsSessions.bind {m : StateM (Network S) α} {k : α → StateM (Network S) β}
    (hm : KeepsSessions m) (hk : ∀ a, KeepsSessions (k a)) : KeepsSessions (m >>= k) := by
  intro n
  rw [StateT.run_bind]
  exact (hk _ _).trans (hm n)

theorem KeepsSessions.andThen {ε : Type} {x : ExceptT ε (StateM (Network S)) α}
    {k : α → ExceptT ε (StateM (Network S)) β} (hx : KeepsSessions x.run)
    (hk : ∀ a, KeepsSessions (k a).run) : KeepsSessions (x >>= k).run := by
  rw [ExceptT.run_bind]
  refine hx.bind fun r => ?_
  cases r with
  | ok a => exact hk a
  | error e => exact keepsSessions_pure _

theorem keepsSessions_sendOver (i : Nat) (request : Request)
    (answer : StateM S (Except String α)) :
    KeepsSessions (Client.sendOver i request answer).run := by
  intro n
  rw [Client.sendOver, run_bind_ok run_get]
  split
  · rfl
  · rfl

theorem keepsSessions_command (server : Server S) (i : Nat) (sql : String) :
    KeepsSessions (Client.command server i sql).run := by
  refine (keepsSessions_sendOver i _ _).andThen fun o => ?_
  cases o.ending with
  | ok tag => exact keepsSessions_pure _
  | error message => exact keepsSessions_pure _

theorem keepsSessions_execute (server : Server S) (i : Nat) (p : Prepared) (values : List Value) :
    KeepsSessions (Client.execute server i p values).run := by
  rw [execute_eq]
  refine KeepsSessions.andThen ?_ fun params => ?_
  · cases encode p.description.params values with
    | ok params => exact keepsSessions_pure _
    | error e => exact keepsSessions_pure _
  · refine (keepsSessions_sendOver i _ _).andThen fun o => ?_
    cases o.ending with
    | ok tag => exact keepsSessions_pure _
    | error message => exact keepsSessions_pure _

end Sessions

/-- An open session that needs no transaction to be begun. -/
structure Session.Ready (s : Session) : Prop where
  isOpen : s.closed = false
  begun : s.autoCommit = true ∨ s.inTransaction = true

section Beginning
open Postgres.Action

theorem run_openSession_eq (i : Nat) (n : Network S) : (openSession i).run.run n =
    (if (n.session i).closed then .error (.connection "connection is closed")
      else .ok (n.session i), n) := by
  rw [openSession, run_bind_ok run_get]
  dsimp only
  cases (n.session i).closed with
  | true => rfl
  | false => rfl

theorem begin_of_ready (h : (n.session i).Ready) :
    (beginIfNeeded server i).run.run n = (.ok (), n) := by
  have hopen := run_openSession_eq i n
  rw [if_neg (by simp [h.isOpen])] at hopen
  have hneedless : ¬(!(n.session i).autoCommit && !(n.session i).inTransaction) = true := by
    rcases h.begun with hauto | hbusy
    · simp [hauto]
    · simp [hbusy]
  rw [beginIfNeeded, run_bind_ok hopen, if_neg hneedless]
  rfl

theorem ready_setInTransaction (hi : i < n.sessions.length) (ho : (n.session i).closed = false) :
    ((n.setSession i { n.session i with inTransaction := true }).session i).Ready := by
  have hset : (n.setSession i { n.session i with inTransaction := true }).session i =
      { n.session i with inTransaction := true } := by
    rw [Network.session, Network.setSession, List.getElem?_set_self hi]
    rfl
  rw [hset]
  exact ⟨ho, .inr rfl⟩

theorem lt_length_of_open (h : (n.session i).closed = false) : i < n.sessions.length := by
  by_contra hge
  rw [Network.session, List.getElem?_eq_none (Nat.le_of_not_lt hge)] at h
  cases h

/-- Where a transaction is begun if it is needed, the session is ready. -/
theorem ready_of_begin (h : (beginIfNeeded server i).run.run n = (.ok (), n₁)) :
    (n₁.session i).Ready := by
  obtain ⟨s, mid, hopen, hrest⟩ := of_run_bind_ok h
  rw [run_openSession_eq] at hopen
  cases hc : (n.session i).closed with
  | true =>
    rw [hc] at hopen
    cases hopen
  | false =>
    rw [hc] at hopen
    cases hopen
    split at hrest
    · obtain ⟨u, n₂, hcommand, hset⟩ := of_run_bind_ok hrest
      have hsessions : n₂.sessions = n.sessions := by
        obtain ⟨r, n₃, hsent⟩ : ∃ r n₃, (Client.command server i "BEGIN").run.run n = (r, n₃) :=
          ⟨_, _, rfl⟩
        have hkept := keepsSessions_command server i "BEGIN" n
        rw [run_forSql hsent] at hcommand
        rw [hsent] at hkept
        obtain ⟨-, rfl⟩ := Prod.mk.inj hcommand
        exact hkept
      have hopen : (n₂.session i).closed = false := by
        rw [Network.session, hsessions]
        exact hc
      obtain rfl : n₂.setSession i { n₂.session i with inTransaction := true } = n₁ :=
        (Prod.mk.inj hset).2
      exact ready_setInTransaction (lt_length_of_open hopen) hopen
    · rename_i hneedless
      obtain ⟨-, rfl⟩ := Prod.mk.inj hrest
      exact ⟨hc, by simpa [Classical.or_iff_not_imp_left] using hneedless⟩

end Beginning

namespace Client

theorem unsent?_error (e : ClientError) :
    unsent? (.error e) = if e.isUnsent then some e else none :=
  rfl

theorem unsent?_eq_some_iff {r : Except ClientError Nat} {e : ClientError} :
    unsent? r = some e ↔ r = .error e ∧ e.isUnsent = true := by
  cases r with
  | ok k => simp [unsent?]
  | error e' =>
    rw [unsent?_error]
    constructor
    · intro h
      split at h
      · cases h
        exact ⟨rfl, ‹_›⟩
      · cases h
    · rintro ⟨he, hunsent⟩
      cases he
      exact if_pos hunsent

/-- What comes of each set of parameters when it is tried after those before it, whatever came of
them. -/
def outcomes (server : Server S) (i : Nat) (p : Prepared) (batch : List (List Value))
    (n : Network S) : List (Except ClientError Nat) :=
  ((batch.mapM fun values => (execute server i p values).run).run n).1

theorem outcomes_cons {values : List Value} {r : Except ClientError Nat}
    (h : (execute server i p values).run.run n = (r, n₁)) (rest : List (List Value)) :
    outcomes server i p (values :: rest) n = r :: outcomes server i p rest n₁ := by
  rw [outcomes, List.mapM_cons, run_step_bind h]
  rfl

theorem length_outcomes (server : Server S) (i : Nat) (p : Prepared) (batch : List (List Value))
    (n : Network S) : (outcomes server i p batch n).length = batch.length := by
  induction batch generalizing n with
  | nil => rfl
  | cons values rest ih =>
    rcases hexecute : (execute server i p values).run.run n with ⟨r, n₁⟩
    rw [outcomes_cons hexecute, List.length_cons, ih, List.length_cons]

/-- The answer to a batch whose sets are all sent before one of them is answered: if it is short,
the first set that could not be sent is noticed first. -/
def pipelined (rs : List (Except ClientError Nat)) : Except ClientError (List Nat) :=
  if rs.length ≤ shortBatch then
    match rs.findSome? unsent? with
    | some e => .error e
    | none => inOrder rs
  else inOrder rs

/-- Sets are sent up to the first that cannot be. -/
theorem run_executeSendable (server : Server S) (i : Nat) (p : Prepared)
    (batch : List (List Value)) (n : Network S) :
    ∃ results n', (executeSendable server i p batch).run n = (results, n') ∧
      results.findSome? unsent? = (outcomes server i p batch n).findSome? unsent? ∧
      ((outcomes server i p batch n).findSome? unsent? = none →
        results = outcomes server i p batch n) := by
  induction batch generalizing n with
  | nil => exact ⟨[], n, rfl, rfl, fun _ => rfl⟩
  | cons values rest ih =>
    rcases hexecute : (execute server i p values).run.run n with ⟨r, n₁⟩
    obtain ⟨results, n', hrest, hfirst, hall⟩ := ih n₁
    rw [outcomes_cons hexecute, executeSendable, List.findSome?_cons]
    cases r with
    | ok k =>
      refine ⟨.ok k :: results, n', ?_, hfirst, fun hnone => congrArg (_ :: ·) (hall hnone)⟩
      exact (run_step_bind hexecute).trans (run_step_bind hrest)
    | error e =>
      cases he : e.isUnsent with
      | true =>
        have hunsent : unsent? (.error e) = some e := if_pos he
        refine ⟨[.error e], n₁, ?_, by rw [List.findSome?_cons, hunsent], ?_⟩
        · refine (run_step_bind hexecute).trans ?_
          dsimp only
          rw [if_pos he]
          rfl
        · intro hnone
          rw [hunsent] at hnone
          cases hnone
      | false =>
        have hsent : unsent? (.error e) = none := if_neg (by simp [he])
        rw [hsent]
        refine ⟨.error e :: results, n', ?_, ?_, fun hnone => congrArg (_ :: ·) (hall hnone)⟩
        · refine (run_step_bind hexecute).trans ?_
          dsimp only
          rw [if_neg (by simp [he])]
          exact run_step_bind hrest
        · rw [List.findSome?_cons, hsent]
          exact hfirst

theorem run_executeShort {batch : List (List Value)} (h : batch.length ≤ shortBatch)
    (n : Network S) : ∃ n', (executeShort server i p batch).run.run n =
      (pipelined (outcomes server i p batch n), n') := by
  obtain ⟨results, n', hrun, hfirst, hall⟩ := run_executeSendable server i p batch n
  refine ⟨n', ?_⟩
  rw [executeShort, run_bind_ok (run_client_lift hrun), hfirst, pipelined, length_outcomes,
    if_pos h]
  cases hnone : (outcomes server i p batch n).findSome? unsent? with
  | some e => rfl
  | none =>
    rw [hall hnone]
    exact run_client_ofExcept _ n'

/-- A long batch answers with the first failure in order, also when it is not sent as a whole. -/
theorem run_executeLong (server : Server S) (i : Nat) (p : Prepared) (batch : List (List Value))
    (n : Network S) : ∃ n', (executeLong server i p batch).run.run n =
      (inOrder (outcomes server i p batch n), n') := by
  cases batch with
  | nil => exact ⟨n, rfl⟩
  | cons values rest =>
    rcases hexecute : (execute server i p values).run.run n with ⟨first, n₁⟩
    rw [outcomes_cons hexecute, executeLong, run_bind_ok (run_client_lift hexecute)]
    cases hunsent : unsent? first with
    | some e =>
      obtain ⟨rfl, -⟩ := unsent?_eq_some_iff.mp hunsent
      exact ⟨n₁, rfl⟩
    | none =>
      rcases hrest : (rest.mapM fun values => (execute server i p values).run).run n₁ with
        ⟨results, n'⟩
      have hresults : outcomes server i p rest n₁ = results := congrArg Prod.fst hrest
      refine ⟨n', ?_⟩
      dsimp only
      rw [run_bind_ok (run_client_lift hrest), hresults]
      exact run_client_ofExcept _ n'

theorem run_executeBatch (server : Server S) (i : Nat) (p : Prepared) (batch : List (List Value))
    (n : Network S) : ∃ n', (executeBatch server i p batch).run.run n =
      (pipelined (outcomes server i p batch n), n') := by
  rw [executeBatch]
  by_cases h : batch.length ≤ shortBatch
  · rw [if_pos h]
    exact run_executeShort h n
  · rw [if_neg h, pipelined, length_outcomes, if_neg h]
    exact run_executeLong server i p batch n

theorem inOrder_counts (counts : List Nat) : inOrder (counts.map .ok) = .ok counts := by
  induction counts with
  | nil => rfl
  | cons k counts ih =>
    rw [List.map_cons, inOrder, ih]
    rfl

theorem inOrder_failed (counts : List Nat) (e : ClientError)
    (back : List (Except ClientError Nat)) :
    inOrder (counts.map .ok ++ .error e :: back) = .error e := by
  induction counts with
  | nil => rfl
  | cons k counts ih =>
    rw [List.map_cons, List.cons_append, inOrder, ih]
    rfl

/-- All sets succeed, or one is the first to fail. -/
theorem counted_or_failed (rs : List (Except ClientError Nat)) :
    (∃ counts : List Nat, rs = counts.map Except.ok) ∨
      ∃ (counts : List Nat) (e : ClientError) (back : List (Except ClientError Nat)),
        rs = counts.map Except.ok ++ .error e :: back := by
  induction rs with
  | nil => exact .inl ⟨[], rfl⟩
  | cons r rs ih =>
    cases r with
    | error e => exact .inr ⟨[], e, rs, rfl⟩
    | ok k =>
      rcases ih with ⟨counts, rfl⟩ | ⟨counts, e, back, rfl⟩
      · exact .inl ⟨k :: counts, rfl⟩
      · exact .inr ⟨k :: counts, e, back, rfl⟩

theorem unsent?_counts (counts : List Nat) (rest : List (Except ClientError Nat)) :
    (counts.map Except.ok ++ rest).findSome? unsent? = rest.findSome? unsent? := by
  induction counts with
  | nil => rfl
  | cons k counts ih => exact ih

end Client

theorem ne_append {s t : String} (u : String) (h : s.toList.head? ≠ t.toList.head?)
    (ht : t ≠ "") : s ≠ t ++ u := by
  rintro rfl
  rw [String.toList_append, List.head?_append] at h
  cases hc : t.toList with
  | nil => exact ht (String.toList_eq_nil_iff.mp hc)
  | cons c cs =>
    rw [hc] at h
    exact h rfl

/-- What is noticed before anything is sent is told otherwise than a refusal. -/
theorem text_of_unsent {e : ClientError} (h : e.isUnsent = true) : "db error" ≠ e.fault.text := by
  cases e with
  | refused message => cases h
  | parameterCount expected actual =>
    change "db error" ≠
      "expected " ++ toString expected ++ " parameters but got " ++ toString actual
    rw [String.append_assoc, String.append_assoc]
    exact ne_append _ (by decide) (by decide)
  | parameter position value type =>
    exact ne_append (t := "error serializing parameter ") _ (by decide) (by decide)
  | closed => exact (by decide : "db error" ≠ "connection closed")
  | malformedReply => exact (by decide : "db error" ≠ "error parsing response from server")
  | unexpectedReply => exact (by decide : "db error" ≠ "unexpected message from server")
  | embeddedNull => exact (by decide : "db error" ≠ "error encoding message to server")
  | configuration reason => exact (by decide : "db error" ≠ "invalid configuration")
  | unreachable reason => exact (by decide : "db error" ≠ "error connecting to server")
  | unbound => exact (by decide : "db error" ≠ "authentication error")
  | unencrypted | unnamed => exact (by decide : "db error" ≠ "error performing TLS handshake")

theorem told_refused_ne (p : Prepared) (message : String) {e : ClientError}
    (h : e.isUnsent = true) : p.told (.refused message) ≠ p.told e := by
  intro htold
  exact text_of_unsent h (congrArg Fault.text (Error.queryFault.inj htold).2)

/-- One set after the other, up to the first that fails. -/
theorem executeEach_does {f : Focus σ (Network S)} [f.Lawful] (world : σ)
    (hbegin : (Action.beginIfNeeded server i).run.run n = (.ok (), n₁))
    (batch : List (List Value)) : ∃ n',
      Does ((statement server f i p).executeEach batch).run (f.set n world)
        ((Client.inOrder (Client.outcomes server i p batch n₁)).mapError p.told)
        (f.set n' world) := by
  induction batch generalizing n n₁ with
  | nil => exact ⟨n, Does.pure _ _⟩
  | cons values rest ih =>
    rcases hexecute : (Client.execute server i p values).run.run n₁ with ⟨r, n₂⟩
    have hprepared : (Action.executePrepared server i p values).run.run n =
        (r.mapError p.told, n₂) := by
      rw [Action.executePrepared, run_bind_ok hbegin]
      exact run_forSql hexecute p.sql
    have hfirst : Does ((statement server f i p).execute values).run (f.set n world)
        (r.mapError p.told) (f.set n₂ world) :=
      does_task_ofState world hprepared
    rw [Client.outcomes_cons hexecute]
    cases r with
    | error e => exact ⟨n₂, Does.task_bind_error hfirst⟩
    | ok k =>
      -- The session stays as the first run found it, so nothing has to be begun again.
      have hready : (n₂.session i).Ready := by
        have hkept := keepsSessions_execute server i p values n₁
        rw [hexecute] at hkept
        rw [Network.session, hkept]
        exact ready_of_begin hbegin
      obtain ⟨n', hrest⟩ := ih (begin_of_ready hready)
      refine ⟨n', Does.task_bind hfirst ?_⟩
      rw [Client.inOrder]
      cases horder : Client.inOrder (Client.outcomes server i p rest n₂) with
      | ok counts =>
        rw [horder] at hrest
        exact Does.task_bind hrest (Does.pure _ _)
      | error e =>
        rw [horder] at hrest
        exact Does.task_bind_error hrest

theorem executeBatch_does {f : Focus σ (Network S)} [f.Lawful] (world : σ)
    (hbegin : (Action.beginIfNeeded server i).run.run n = (.ok (), n₁))
    (batch : List (List Value)) : ∃ n',
      Does ((statement server f i p).executeBatch batch).run (f.set n world)
        ((Client.pipelined (Client.outcomes server i p batch n₁)).mapError p.told)
        (f.set n' world) := by
  obtain ⟨n', hrun⟩ := Client.run_executeBatch server i p batch n₁
  have hbatch : (Action.executeBatch server i p batch).run.run n =
      ((Client.pipelined (Client.outcomes server i p batch n₁)).mapError p.told, n') := by
    rw [Action.executeBatch, run_bind_ok hbegin]
    exact run_forSql hrun p.sql
  exact ⟨n', does_task_ofState world hbatch⟩

/-- What a batch comes to in turn and at once alike: its counts in order, or the first failure in
order. -/
inductive Agrees (server : Server S) (i : Nat) (p : Prepared) (n : Network S)
    (batch : List (List Value)) : Except Error (List Nat) → Prop where
  | unbegun {e : Error} {n₁ : Network S} (nonempty : batch ≠ [])
      (begins : (Action.beginIfNeeded server i).run.run n = (.error e, n₁)) :
      Agrees server i p n batch (.error e)
  | counted {n₁ : Network S} {counts : List Nat}
      (begins : (Action.beginIfNeeded server i).run.run n = (.ok (), n₁))
      (all : Client.outcomes server i p batch n₁ = counts.map .ok) :
      Agrees server i p n batch (.ok counts)
  | failed {n₁ : Network S} {counts : List Nat} {e : ClientError}
      {back : List (Except ClientError Nat)}
      (begins : (Action.beginIfNeeded server i).run.run n = (.ok (), n₁))
      (first : Client.outcomes server i p batch n₁ = counts.map .ok ++ .error e :: back)
      (inTurn : Client.shortBatch < batch.length ∨ e.isUnsent = true ∨
        ∀ r ∈ back, Client.unsent? r = none) :
      Agrees server i p n batch (.error (p.told e))

/-- What a batch comes to in turn, and what else at once: a transaction that cannot be begun fails
a batch without sets, and in a short batch a set that cannot be sent is told instead of one before
it that the server refuses. -/
inductive Parts (server : Server S) (i : Nat) (p : Prepared) (n : Network S)
    (batch : List (List Value)) : Except Error (List Nat) → Except Error (List Nat) → Prop where
  | needless {e : Error} {n₁ : Network S} (empty : batch = [])
      (begins : (Action.beginIfNeeded server i).run.run n = (.error e, n₁)) :
      Parts server i p n batch (.ok []) (.error e)
  | overtaken {n₁ : Network S} {counts : List Nat} {message : String} {e : ClientError}
      {between back : List (Except ClientError Nat)}
      (begins : (Action.beginIfNeeded server i).run.run n = (.ok (), n₁))
      (short : batch.length ≤ Client.shortBatch)
      (first : Client.outcomes server i p batch n₁ =
        counts.map .ok ++ .error (.refused message) :: (between ++ .error e :: back))
      (sent : ∀ r ∈ between, Client.unsent? r = none) (unsent : e.isUnsent = true) :
      Parts server i p n batch (.error (p.told (.refused message))) (.error (p.told e))

/-- In a batch that fails, the first failure is the one told, or a later one that is noticed
earlier. -/
theorem agrees_or_parts_failed (hbegin : (Action.beginIfNeeded server i).run.run n = (.ok (), n₁))
    {batch : List (List Value)} {counts : List Nat} {e : ClientError}
    {back : List (Except ClientError Nat)}
    (hfirst : Client.outcomes server i p batch n₁ = counts.map .ok ++ .error e :: back) :
    ∃ e', Client.pipelined (Client.outcomes server i p batch n₁) = .error e' ∧
      ((p.told e = p.told e' ∧ Agrees server i p n batch (.error (p.told e))) ∨
        (p.told e ≠ p.told e' ∧
          Parts server i p n batch (.error (p.told e)) (.error (p.told e')))) := by
  rw [Client.pipelined, Client.length_outcomes, hfirst, Client.inOrder_failed,
    Client.unsent?_counts, List.findSome?_cons]
  by_cases hshort : batch.length ≤ Client.shortBatch
  · rw [if_pos hshort]
    cases he : Client.unsent? (.error e) with
    | some e' =>
      obtain ⟨heq, hunsent⟩ := Client.unsent?_eq_some_iff.mp he
      cases heq
      exact ⟨e, rfl, .inl ⟨rfl, .failed hbegin hfirst (.inr (.inl hunsent))⟩⟩
    | none =>
      cases hback : back.findSome? Client.unsent? with
      | none =>
        have hsent := List.findSome?_eq_none_iff.mp hback
        exact ⟨e, rfl, .inl ⟨rfl, .failed hbegin hfirst (.inr (.inr hsent))⟩⟩
      | some e' =>
        obtain ⟨between, r, rest, rfl, hr, hsent⟩ := List.findSome?_eq_some_iff.mp hback
        obtain ⟨rfl, hunsent⟩ := Client.unsent?_eq_some_iff.mp hr
        cases e with
        | refused message =>
          exact ⟨e', rfl, .inr ⟨told_refused_ne p message hunsent,
            .overtaken hbegin hshort hfirst hsent hunsent⟩⟩
        | _ => cases he
  · rw [if_neg hshort]
    exact ⟨e, rfl, .inl ⟨rfl, .failed hbegin hfirst (.inl (Nat.lt_of_not_le hshort))⟩⟩

/-- A batch that is sent at once comes to what its sets come to in turn, unless it is overtaken: a
set that cannot be sent is told before a refusal of a set ahead of it, and a transaction is begun
also for no sets at all. -/
theorem batches_agree_unless_overtaken (server : Server S) (f : Focus σ (Network S)) [f.Lawful]
    (i : Nat) (p : Prepared) (n : Network S) (world : σ) (batch : List (List Value)) :
    ∃ plain pipelined n₁ n₂,
      Does ((statement server f i p).executeEach batch).run (f.set n world) plain
        (f.set n₁ world) ∧
      Does ((statement server f i p).executeBatch batch).run (f.set n world) pipelined
        (f.set n₂ world) ∧
      ((plain = pipelined ∧ Agrees server i p n batch plain) ∨
        (plain ≠ pipelined ∧ Parts server i p n batch plain pipelined)) := by
  rcases hbegin : (Action.beginIfNeeded server i).run.run n with ⟨e | ⟨⟩, n₁⟩
  · have hbatch : (Action.executeBatch server i p batch).run.run n = (.error e, n₁) :=
      run_bind_error hbegin
    cases batch with
    | nil =>
      exact ⟨.ok [], .error e, n, n₁, Does.pure _ _, does_task_ofState world hbatch,
        .inr ⟨nofun, .needless rfl hbegin⟩⟩
    | cons values rest =>
      have hprepared : (Action.executePrepared server i p values).run.run n = (.error e, n₁) :=
        run_bind_error hbegin
      have hfirst : Does ((statement server f i p).execute values).run (f.set n world) (.error e)
          (f.set n₁ world) :=
        does_task_ofState world hprepared
      exact ⟨.error e, .error e, n₁, n₁, Does.task_bind_error hfirst,
        does_task_ofState world hbatch, .inl ⟨rfl, .unbegun nofun hbegin⟩⟩
  · obtain ⟨n₂, hplain⟩ := executeEach_does (f := f) (p := p) world hbegin batch
    obtain ⟨n₃, hpipelined⟩ := executeBatch_does (f := f) (p := p) world hbegin batch
    refine ⟨_, _, n₂, n₃, hplain, hpipelined, ?_⟩
    rcases Client.counted_or_failed (Client.outcomes server i p batch n₁) with
      ⟨counts, hall⟩ | ⟨counts, e, back, hfirst⟩
    · have hnone : (counts.map Except.ok ++ []).findSome? Client.unsent? = none :=
        Client.unsent?_counts counts []
      rw [List.append_nil] at hnone
      refine .inl ?_
      rw [Client.pipelined, hall, Client.inOrder_counts, hnone, ite_self]
      exact ⟨rfl, .counted hbegin hall⟩
    · obtain ⟨e', hpipelined, hcases⟩ := agrees_or_parts_failed hbegin hfirst
      rw [hpipelined, hfirst, Client.inOrder_failed]
      rcases hcases with ⟨htold, hagrees⟩ | ⟨htold, hparts⟩
      · exact .inl ⟨congrArg Except.error htold, hagrees⟩
      · exact .inr ⟨fun h => htold (Except.error.inj h), hparts⟩

/-- A server that prepares all statements and runs none. -/
def refusing : Server Unit where
  user _ := ""
  reach _ _ _ := .ok ()
  greet _ := pure (.ok .accepted)
  query _ := pure (.ok ⟨[], .ok ""⟩)
  prepare _ := pure (.ok ⟨[], []⟩)
  execute _ _ := pure (.ok ⟨[], .error "no"⟩)

/-- Two refusals are told alike, by the first of them. -/
theorem batches_agree_over_refusals :
    let n : Network Unit := ((Network.start ()).addSession false).2
    let p : Prepared := ⟨"W", [.int8], []⟩
    let batch : List (List Value) := [[.int64 1], [.int64 2]]
    ∃ plain pipelined n₁ n₂,
      Does ((statement refusing .self 0 p).executeEach batch).run n plain n₁ ∧
      Does ((statement refusing .self 0 p).executeBatch batch).run n pipelined n₂ ∧
      plain = pipelined ∧ Agrees refusing 0 p n batch plain := by
  intro n p batch
  obtain ⟨plain, pipelined, n₁, n₂, hplain, hpipelined, hagrees | ⟨hne, -⟩⟩ :=
    batches_agree_unless_overtaken refusing .self 0 p n n batch
  · exact ⟨plain, pipelined, n₁, n₂, hplain, hpipelined, hagrees⟩
  · have hfirst : plain = .error (p.told (.refused "no")) := (hplain.run #[]).1.symm
    have hfirst' : pipelined = .error (p.told (.refused "no")) := (hpipelined.run #[]).1.symm
    exact absurd (hfirst.trans hfirst'.symm) hne

/-- A text for a number is told before the refusal of the set ahead of it. -/
theorem batches_part_over_text :
    let n : Network Unit := ((Network.start ()).addSession false).2
    let p : Prepared := ⟨"W", [.int8], []⟩
    let batch : List (List Value) := [[.int64 1], [.string "x"]]
    (((statement refusing .self 0 p).executeEach batch).run.run ⟨n, #[]⟩).1 =
        .error (p.told (.refused "no")) ∧
      (((statement refusing .self 0 p).executeBatch batch).run.run ⟨n, #[]⟩).1 =
        .error (p.told (.parameter 0 (.string "x") .int8)) :=
  ⟨rfl, rfl⟩

end BatchSql.Postgres
