import BatchSql.Postgres.Session
import BatchSql.Proofs.Work

namespace BatchSql.Postgres

/-- A request that a server has met, and whether it did what it was asked to. -/
structure Served where
  request : Request
  done : Bool
deriving DecidableEq

/-- Whether the request is to prepare or to run a statement of a user. -/
def Request.ofUser : Request → Bool
  | .prepare _ | .execute _ _ => true
  | _ => false

namespace Server

variable {S α : Type}

/-- An answer, and a note of it. -/
def noted (request : Request) (done : α → Bool) (answer : StateM S (Except String α)) :
    StateM (S × List Served) (Except String α) := fun s =>
  let (r, next) := answer.run s.1
  (r, next, s.2 ++ [⟨request, r.toOption.any done⟩])

/-- A server that answers as before, and notes what it was asked and whether it did it. -/
def noting (server : Server S) : Server (S × List Served) where
  user s := server.user s.1
  reach s := server.reach s.1
  greet parameters := noted (.startup parameters) (fun _ => true) (server.greet parameters)
  query sql := noted (.query sql) (fun o => o.ending.isOk) (server.query sql)
  prepare sql := noted (.prepare sql) (fun _ => true) (server.prepare sql)
  execute sql params :=
    noted (.execute sql params) (fun o => o.ending.isOk) (server.execute sql params)

end Server

variable {S α β : Type} {i : Nat}

/-- Between two states of a network the server was sent some requests, and a session has become
another. -/
structure Turns (i : Nat) (n : Network (S × List Served)) (xs : List Served) (s : Session)
    (n' : Network (S × List Served)) : Prop where
  sessions : n'.sessions = n.sessions.set i s
  noted : n'.server.2 = n.server.2 ++ xs
  sent : n'.sent.map Sent.request = n.sent.map Sent.request ++ xs.map Served.request

section Turns

variable {n n' n'' : Network (S × List Served)} {xs ys : List Served} {s s' : Session}

theorem Turns.refl (h : n.sessions[i]? = some s) : Turns i n [] s n := by
  obtain ⟨hlt, he⟩ := List.getElem?_eq_some_iff.mp h
  refine ⟨?_, (List.append_nil _).symm, (List.append_nil _).symm⟩
  rw [← he, List.set_getElem_self]

theorem turns_setSession (i : Nat) (n : Network (S × List Served)) (s : Session) :
    Turns i n [] s (n.setSession i s) :=
  ⟨rfl, (List.append_nil _).symm, (List.append_nil _).symm⟩

theorem Turns.trans (h : Turns i n xs s n') (h' : Turns i n' ys s' n'') :
    Turns i n (xs ++ ys) s' n'' where
  sessions := by rw [h'.sessions, h.sessions, List.set_set]
  noted := by rw [h'.noted, h.noted, List.append_assoc]
  sent := by rw [h'.sent, h.sent, List.map_append, List.append_assoc]

theorem Turns.get (h : Turns i n xs s' n') (hs : n.sessions[i]? = some s) :
    n'.sessions[i]? = some s' := by
  rw [h.sessions]
  exact List.getElem?_set_self (List.getElem?_eq_some_iff.mp hs).1

theorem session_of_get (h : n.sessions[i]? = some s) : n.session i = s := by
  rw [Network.session, h]
  rfl

end Turns

/-- Over a link that holds, the request goes out and the answer comes back. -/
theorem run_sendOver {n : Network (S × List Served)} {s : Session}
    (hs : n.sessions[i]? = some s) (hl : s.linked = true) (request : Request) (done : α → Bool)
    (answer : StateM S (Except String α)) :
    ∃ (r : Except String α) (n' : Network (S × List Served)),
      (Client.sendOver i request (Server.noted request done answer)).run.run n =
          (r.mapError .refused, n') ∧
        Turns i n [⟨request, r.toOption.any done⟩] s n' := by
  let r := (answer.run n.server.1).1
  refine ⟨r, ⟨((answer.run n.server.1).2, n.server.2 ++ [⟨request, r.toOption.any done⟩]),
    n.sent ++ [⟨request, r.isOk⟩], n.sessions⟩, ?_, (Turns.refl hs).sessions, rfl, by simp⟩
  rw [Client.sendOver, run_bind_ok run_get, if_neg (by simp [session_of_get hs, hl])]
  rfl

/-- Work that sends nothing but statements of a user. -/
def Utters (i : Nat) (m : StateM (Network (S × List Served)) α) : Prop :=
  ∀ n s, n.sessions[i]? = some s → s.linked = true →
    ∃ xs, Turns i n xs s (m.run n).2 ∧ ∀ x ∈ xs, x.request.ofUser = true

theorem utters_pure (i : Nat) (a : α) :
    Utters i (pure a : StateM (Network (S × List Served)) α) :=
  fun _ _ hs _ => ⟨[], .refl hs, List.forall_mem_nil _⟩

theorem Utters.bind {m : StateM (Network (S × List Served)) α}
    {k : α → StateM (Network (S × List Served)) β} (hm : Utters i m)
    (hk : ∀ a, Utters i (k a)) : Utters i (m >>= k) := by
  intro n s hs hl
  obtain ⟨xs, hxs, huser⟩ := hm n s hs hl
  obtain ⟨ys, hys, huser'⟩ := hk (m.run n).1 (m.run n).2 s (hxs.get hs) hl
  exact ⟨xs ++ ys, hxs.trans hys, List.forall_mem_append.mpr ⟨huser, huser'⟩⟩

/-- Work that may fail goes on after what succeeds. -/
theorem Utters.andThen {ε : Type} {x : ExceptT ε (StateM (Network (S × List Served))) α}
    {k : α → ExceptT ε (StateM (Network (S × List Served))) β} (hx : Utters i x.run)
    (hk : ∀ a, Utters i (k a).run) : Utters i (x >>= k).run := by
  rw [ExceptT.run_bind]
  refine hx.bind fun r => ?_
  cases r with
  | ok a => exact hk a
  | error e => exact utters_pure i _

theorem Utters.lift {ε : Type} {m : StateM (Network (S × List Served)) α} (h : Utters i m) :
    Utters i (ExceptT.lift m : ExceptT ε (StateM (Network (S × List Served))) α).run :=
  h.bind fun _ => utters_pure i _

theorem utters_except (i : Nat) (r : Except ClientError α) :
    Utters i (MonadExcept.ofExcept r : Client (S × List Served) α).run := by
  cases r with
  | ok a => exact utters_pure i _
  | error e => exact utters_pure i _

theorem utters_sendOver {request : Request} (huser : request.ofUser = true) (done : α → Bool)
    (answer : StateM S (Except String α)) :
    Utters i (Client.sendOver i request (Server.noted request done answer)).run := by
  intro n s hs hl
  obtain ⟨r, n', hrun, hturns⟩ := run_sendOver hs hl request done answer
  refine ⟨[⟨request, r.toOption.any done⟩], ?_, List.forall_mem_singleton.mpr huser⟩
  rw [hrun]
  exact hturns

section Client
open Client

variable (server : Server S) (i : Nat) (p : Prepared)

theorem utters_prepare (sql : String) : Utters i (Client.prepare server.noting i sql).run := by
  rw [Client.prepare]
  split
  · exact utters_pure i _
  · exact (utters_sendOver rfl _ _).andThen fun d => utters_pure i _

theorem utters_perform (values : List Value) :
    Utters i (perform server.noting i p values).run :=
  (utters_except i _).andThen fun _ => utters_sendOver rfl _ _

theorem utters_execute (values : List Value) :
    Utters i (Client.execute server.noting i p values).run := by
  refine (utters_perform server i p values).andThen fun o => ?_
  cases o.ending with
  | ok tag => exact utters_pure i _
  | error message => exact utters_pure i _

theorem utters_executeSendable (batch : List (List Value)) :
    Utters i (executeSendable server.noting i p batch) := by
  induction batch with
  | nil => exact utters_pure i _
  | cons values rest ih =>
    refine (utters_execute server i p values).bind fun r => ?_
    cases r with
    | ok k => exact ih.bind fun results => utters_pure i _
    | error e =>
      dsimp only
      split
      · exact utters_pure i _
      · exact ih.bind fun results => utters_pure i _

theorem utters_executeEach (batch : List (List Value)) :
    Utters i (batch.mapM fun vs => (Client.execute server.noting i p vs).run) := by
  induction batch with
  | nil => exact utters_pure i _
  | cons values rest ih =>
    rw [List.mapM_cons]
    exact (utters_execute server i p values).bind fun r => ih.bind fun rs => utters_pure i _

theorem utters_executeShort (batch : List (List Value)) :
    Utters i (executeShort server.noting i p batch).run := by
  refine (utters_executeSendable server i p batch).lift.andThen fun results => ?_
  split
  · exact utters_pure i _
  · exact utters_except i _

theorem utters_executeLong (batch : List (List Value)) :
    Utters i (executeLong server.noting i p batch).run := by
  cases batch with
  | nil => exact utters_pure i _
  | cons values rest =>
    refine (utters_execute server i p values).lift.andThen fun first => ?_
    split
    · exact utters_pure i _
    · exact (utters_executeEach server i p rest).lift.andThen fun results => utters_except i _

/-- A batch sends its statement, however often. -/
theorem utters_executeBatch (batch : List (List Value)) :
    Utters i (Client.executeBatch server.noting i p batch).run := by
  rw [Client.executeBatch]
  split
  · exact utters_executeShort server i p batch
  · exact utters_executeLong server i p batch

end Client

/-- A call of a connection, or of a statement that was prepared on it. -/
inductive Call where
  | query (sql : String) (params : List Value)
  | execute (sql : String) (params : List Value)
  | prepare (sql : String)
  | setAutoCommit (on : Bool)
  | commit
  | rollback
  | isValid
  | close
  | executePrepared (p : Prepared) (params : List Value)
  | executeBatch (p : Prepared) (batch : List (List Value))

namespace Call

variable {σ : Type}

/-- Whether the call runs statements of the user. -/
def works : Call → Bool
  | .query _ _ | .execute _ _ | .executePrepared _ _ | .executeBatch _ _ => true
  | _ => false

/-- The call as it is made on the connection of a session. What it answers is not kept. -/
def run (server : Server S) (f : Focus σ (Network S)) (i : Nat) : Call → Task σ Unit
  | .query sql params => do
    let _ ← (connection server f i).queryStream sql params
  | .execute sql params => do
    let _ ← (connection server f i).execute sql params
  | .prepare sql => do
    let _ ← (connection server f i).prepare sql
  | .setAutoCommit on => (connection server f i).setAutoCommit on
  | .commit => (connection server f i).commit
  | .rollback => (connection server f i).rollback
  | .isValid => do
    let _ ← ExceptT.lift (connection server f i).isValid
  | .close => (connection server f i).close
  | .executePrepared p params => do
    let _ ← (statement server f i p).execute params
  | .executeBatch p batch => do
    let _ ← (statement server f i p).executeBatch batch

end Call

/-- What a session sends in a call, and what it is after it. -/
inductive Speaks (s : Session) : Call → List Served → Session → Prop where
  | closed (c : Call) (isClosed : s.closed = true) : Speaks s c [] s
  | unbegun {c : Call} (works : c.works = true) (isOpen : s.closed = false)
      (manual : s.autoCommit = false) (idle : s.inTransaction = false) :
      Speaks s c [⟨.query "BEGIN", false⟩] s
  | begun {c : Call} {xs : List Served} (works : c.works = true) (isOpen : s.closed = false)
      (manual : s.autoCommit = false) (idle : s.inTransaction = false)
      (user : ∀ x ∈ xs, x.request.ofUser = true) :
      Speaks s c (⟨.query "BEGIN", true⟩ :: xs) { s with inTransaction := true }
  | worked {c : Call} {xs : List Served} (works : c.works = true) (isOpen : s.closed = false)
      (ready : s.autoCommit = true ∨ s.inTransaction = true)
      (user : ∀ x ∈ xs, x.request.ofUser = true) : Speaks s c xs s
  | prepared {xs : List Served} (sql : String) (isOpen : s.closed = false)
      (user : ∀ x ∈ xs, x.request.ofUser = true) : Speaks s (.prepare sql) xs s
  | idle {c : Call} (ends : c = .commit ∨ c = .rollback) (isOpen : s.closed = false)
      (idle : s.inTransaction = false) : Speaks s c [] s
  | committed (done : Bool) (isOpen : s.closed = false) (busy : s.inTransaction = true) :
      Speaks s .commit [⟨.query "COMMIT", done⟩] { s with inTransaction := false }
  | rolledBack (done : Bool) (isOpen : s.closed = false) (busy : s.inTransaction = true) :
      Speaks s .rollback [⟨.query "ROLLBACK", done⟩] { s with inTransaction := false }
  | switched {on : Bool} (isOpen : s.closed = false) (calm : on = true → s.inTransaction = false) :
      Speaks s (.setAutoCommit on) [] { s with autoCommit := on }
  | switchedOn (isOpen : s.closed = false) (busy : s.inTransaction = true) :
      Speaks s (.setAutoCommit true) [⟨.query "COMMIT", true⟩]
        { s with inTransaction := false, autoCommit := true }
  | unswitched (isOpen : s.closed = false) (busy : s.inTransaction = true) :
      Speaks s (.setAutoCommit true) [⟨.query "COMMIT", false⟩] { s with inTransaction := false }
  | asked (done : Bool) (isOpen : s.closed = false) :
      Speaks s .isValid [⟨.query "SELECT 1", done⟩] s
  | left (isOpen : s.closed = false) (idle : s.inTransaction = false) :
      Speaks s .close [] { s with closed := true, inTransaction := false }
  | abandoned (done : Bool) (isOpen : s.closed = false) (busy : s.inTransaction = true) :
      Speaks s .close [⟨.query "ROLLBACK", done⟩] { s with closed := true, inTransaction := false }

section Action
open Postgres.Action

variable (server : Server S) {n : Network (S × List Served)} {s : Session}

/-- A command is sent once, and the client knows whether it was done. -/
theorem run_command (hs : n.sessions[i]? = some s) (hl : s.linked = true) (sql : String) :
    ∃ (r : Except ClientError Unit) (n' : Network (S × List Served)),
      (Client.command server.noting i sql).run.run n = (r, n') ∧
        Turns i n [⟨.query sql, r.isOk⟩] s n' := by
  obtain ⟨r, n', hrun, hturns⟩ :=
    run_sendOver hs hl (.query sql) (fun o => o.ending.isOk) (server.query sql)
  cases r with
  | error message => exact ⟨_, n', run_bind_error hrun, hturns⟩
  | ok o =>
    obtain ⟨rows, ending⟩ := o
    cases ending with
    | ok tag => exact ⟨_, n', run_bind_ok hrun, hturns⟩
    | error message => exact ⟨_, n', run_bind_ok hrun, hturns⟩

/-- What fails for a text of SQL is told as a failure of the text. -/
theorem run_forSql {S : Type} {n n' : Network S} {m : Client S α} {r : Except ClientError α}
    (h : m.run.run n = (r, n')) (sql : String) : (forSql sql m).run.run n =
      (r.mapError fun e => .queryFault (some sql) e.fault, n') :=
  run_step_bind h

theorem run_forSql_command (hs : n.sessions[i]? = some s) (hl : s.linked = true)
    (sql : String) :
    ∃ (r : Except Error Unit) (n' : Network (S × List Served)),
      (forSql sql (Client.command server.noting i sql)).run.run n = (r, n') ∧
        Turns i n [⟨.query sql, r.isOk⟩] s n' := by
  obtain ⟨r, n', hrun, hturns⟩ := run_command server hs hl sql
  have hmapped := run_forSql hrun sql
  cases r with
  | ok u => exact ⟨_, n', hmapped, hturns⟩
  | error e => exact ⟨_, n', hmapped, hturns⟩

theorem Utters.forSql {m : Client (S × List Served) α} (h : Utters i m.run) (sql : String) :
    Utters i (Action.forSql sql m).run :=
  h.bind fun _ => utters_pure i _

theorem run_openSession (hs : n.sessions[i]? = some s) (ho : s.closed = false) :
    (openSession i).run.run n = (.ok s, n) := by
  rw [openSession, run_bind_ok run_get]
  dsimp only
  rw [session_of_get hs, if_neg (by simp [ho])]
  rfl

theorem run_openSession_closed (hs : n.sessions[i]? = some s) (hc : s.closed = true) :
    (openSession i).run.run n = (.error (.connection "connection is closed"), n) := by
  rw [openSession, run_bind_ok run_get]
  dsimp only
  rw [session_of_get hs, if_pos hc]
  rfl

/-- What comes of beginning a transaction where one is needed. -/
inductive Begins (s : Session) : Except Error Unit → List Served → Session → Prop where
  | closed (e : Error) (isClosed : s.closed = true) : Begins s (.error e) [] s
  | ready (isOpen : s.closed = false) (ready : s.autoCommit = true ∨ s.inTransaction = true) :
      Begins s (.ok ()) [] s
  | begun (isOpen : s.closed = false) (manual : s.autoCommit = false)
      (idle : s.inTransaction = false) :
      Begins s (.ok ()) [⟨.query "BEGIN", true⟩] { s with inTransaction := true }
  | failed (e : Error) (isOpen : s.closed = false) (manual : s.autoCommit = false)
      (idle : s.inTransaction = false) : Begins s (.error e) [⟨.query "BEGIN", false⟩] s

theorem beginIfNeeded_begins (hs : n.sessions[i]? = some s) (hl : s.linked = true) :
    ∃ r n' xs s', (beginIfNeeded server.noting i).run.run n = (r, n') ∧ Turns i n xs s' n' ∧
      s'.linked = true ∧ Begins s r xs s' := by
  rw [beginIfNeeded]
  cases hc : s.closed with
  | true =>
    exact ⟨_, n, [], s, run_bind_error (run_openSession_closed hs hc), .refl hs, hl, .closed _ hc⟩
  | false =>
    by_cases hneeded : (!s.autoCommit && !s.inTransaction) = true
    · have hflags : s.autoCommit = false ∧ s.inTransaction = false := by simpa using hneeded
      obtain ⟨r, n', hbegin, hturns⟩ := run_forSql_command server hs hl "BEGIN"
      cases r with
      | error e =>
        refine ⟨.error e, n', _, s, ?_, hturns, hl, .failed e hc hflags.1 hflags.2⟩
        rw [run_bind_ok (run_openSession hs hc), if_pos hneeded]
        exact run_bind_error hbegin
      | ok u =>
        have hset := turns_setSession i n' { s with inTransaction := true }
        refine ⟨.ok (), _, _, _, ?_, hturns.trans hset, hl, .begun hc hflags.1 hflags.2⟩
        rw [run_bind_ok (run_openSession hs hc), if_pos hneeded]
        refine (run_bind_ok hbegin).trans ?_
        rw [← session_of_get (hturns.get hs)]
        rfl
    · have hready : s.autoCommit = true ∨ s.inTransaction = true := by
        simpa [Classical.or_iff_not_imp_left] using hneeded
      refine ⟨.ok (), n, [], s, ?_, .refl hs, hl, .ready hc hready⟩
      rw [run_bind_ok (run_openSession hs hc), if_neg hneeded]
      rfl

/-- What comes of ending a transaction where one is open. -/
inductive Ends (s : Session) (command : String) :
    Except Error Unit → List Served → Session → Prop where
  | closed (e : Error) (isClosed : s.closed = true) : Ends s command (.error e) [] s
  | idle (isOpen : s.closed = false) (idle : s.inTransaction = false) :
      Ends s command (.ok ()) [] s
  | ended (r : Except Error Unit) (isOpen : s.closed = false) (busy : s.inTransaction = true) :
      Ends s command r [⟨.query command, r.isOk⟩] { s with inTransaction := false }

theorem endTransaction_ends (hs : n.sessions[i]? = some s) (hl : s.linked = true)
    (command : String) :
    ∃ r n' xs s', (endTransaction server.noting i command).run.run n = (r, n') ∧
      Turns i n xs s' n' ∧ s'.linked = true ∧ Ends s command r xs s' := by
  rw [endTransaction]
  cases hc : s.closed with
  | true =>
    exact ⟨_, n, [], s, run_bind_error (run_openSession_closed hs hc), .refl hs, hl, .closed _ hc⟩
  | false =>
    cases hbusy : s.inTransaction with
    | false =>
      refine ⟨.ok (), n, [], s, ?_, .refl hs, hl, .idle hc hbusy⟩
      rw [run_bind_ok (run_openSession hs hc), if_neg (by simp [hbusy])]
      rfl
    | true =>
      have hset := turns_setSession i n { s with inTransaction := false }
      have hclear : (setInTransaction i false : Action (S × List Served) Unit).run.run n =
          (.ok (), n.setSession i { s with inTransaction := false }) := by
        rw [← session_of_get hs]
        rfl
      obtain ⟨r, n', hcommand, hturns⟩ :=
        run_forSql_command server (hset.get hs) hl command
      refine ⟨r, n', _, _, ?_, hset.trans hturns, hl, .ended r hc hbusy⟩
      rw [run_bind_ok (run_openSession hs hc), if_pos hbusy]
      exact (run_bind_ok hclear).trans hcommand

/-- Whatever state its session is in, work goes as a call can go. -/
def Talks (i : Nat) (m : StateM (Network (S × List Served)) α) (c : Call) : Prop :=
  ∀ n s, n.sessions[i]? = some s → s.linked = true →
    ∃ xs s', Turns i n xs s' (m.run n).2 ∧ s'.linked = true ∧ Speaks s c xs s'

/-- Statements of a user are sent where their transaction, if they need one, could be begun. -/
theorem talks_works {c : Call} (hc : c.works = true) {k : Action (S × List Served) α}
    (hk : Utters i k.run) : Talks i (beginIfNeeded server.noting i >>= fun _ => k).run c := by
  intro n s hs hl
  obtain ⟨r, n', xs, s', hrun, hturns, hl', hbegins⟩ := beginIfNeeded_begins server hs hl
  cases hbegins with
  | closed e isClosed =>
    rw [run_bind_error hrun]
    exact ⟨[], s, hturns, hl, .closed c isClosed⟩
  | ready isOpen ready =>
    obtain ⟨ys, hys, huser⟩ := hk n' s (hturns.get hs) hl
    rw [run_bind_ok hrun]
    exact ⟨ys, s, hturns.trans hys, hl, .worked hc isOpen ready huser⟩
  | begun isOpen manual idle =>
    obtain ⟨ys, hys, huser⟩ := hk n' _ (hturns.get hs) hl'
    rw [run_bind_ok hrun]
    exact ⟨_, _, hturns.trans hys, hl', .begun hc isOpen manual idle huser⟩
  | failed e isOpen manual idle =>
    rw [run_bind_error hrun]
    exact ⟨_, s, hturns, hl, .unbegun hc isOpen manual idle⟩

theorem talks_query (sql : String) (params : List Value) :
    Talks i (Action.query server.noting i sql params).run (.query sql params) :=
  talks_works server (c := .query sql params) rfl (((utters_prepare server i sql).andThen fun p =>
    (utters_perform server i p params).andThen fun _ => utters_pure i _).forSql sql)

theorem talks_execute (sql : String) (params : List Value) :
    Talks i (Action.execute server.noting i sql params).run (.execute sql params) :=
  talks_works server (c := .execute sql params) rfl (((utters_prepare server i sql).andThen fun p =>
    utters_execute server i p params).forSql sql)

theorem talks_executePrepared (p : Prepared) (params : List Value) :
    Talks i (executePrepared server.noting i p params).run (.executePrepared p params) :=
  talks_works server (c := .executePrepared p params) rfl
    ((utters_execute server i p params).forSql p.sql)

theorem talks_executeBatch (p : Prepared) (batch : List (List Value)) :
    Talks i (Action.executeBatch server.noting i p batch).run (.executeBatch p batch) :=
  talks_works server (c := .executeBatch p batch) rfl
    ((utters_executeBatch server i p batch).forSql p.sql)

theorem talks_prepare (sql : String) :
    Talks i (Action.prepare server.noting i sql).run (.prepare sql) := by
  intro n s hs hl
  cases hc : s.closed with
  | true =>
    rw [Action.prepare, run_bind_error (run_openSession_closed hs hc)]
    exact ⟨[], s, .refl hs, hl, .closed _ hc⟩
  | false =>
    obtain ⟨xs, hturns, huser⟩ := ((utters_prepare server i sql).forSql sql) n s hs hl
    rw [Action.prepare, run_bind_ok (run_openSession hs hc)]
    exact ⟨xs, s, hturns, hl, .prepared sql hc huser⟩

theorem talks_commit : Talks i (commit server.noting i).run .commit := by
  intro n s hs hl
  obtain ⟨r, n', xs, s', hrun, hturns, hl', hends⟩ := endTransaction_ends server hs hl "COMMIT"
  rw [commit, hrun]
  refine ⟨xs, s', hturns, hl', ?_⟩
  cases hends with
  | closed e isClosed => exact .closed _ isClosed
  | idle isOpen idle => exact .idle (.inl rfl) isOpen idle
  | ended r isOpen busy => exact .committed _ isOpen busy

theorem talks_rollback : Talks i (rollback server.noting i).run .rollback := by
  intro n s hs hl
  obtain ⟨r, n', xs, s', hrun, hturns, hl', hends⟩ := endTransaction_ends server hs hl "ROLLBACK"
  rw [rollback, hrun]
  refine ⟨xs, s', hturns, hl', ?_⟩
  cases hends with
  | closed e isClosed => exact .closed _ isClosed
  | idle isOpen idle => exact .idle (.inr rfl) isOpen idle
  | ended r isOpen busy => exact .rolledBack _ isOpen busy

theorem turns_switch (hs : n.sessions[i]? = some s) (on : Bool) :
    Turns i n [] { s with autoCommit := on }
      ((modify fun n => n.setSession i { n.session i with autoCommit := on } :
        Action (S × List Served) Unit).run.run n).2 := by
  rw [← session_of_get hs]
  exact turns_setSession i n _

theorem talks_setAutoCommit (on : Bool) :
    Talks i (setAutoCommit server.noting i on).run (.setAutoCommit on) := by
  intro n s hs hl
  rw [setAutoCommit]
  cases hc : s.closed with
  | true =>
    rw [run_bind_error (run_openSession_closed hs hc)]
    exact ⟨[], s, .refl hs, hl, .closed _ hc⟩
  | false =>
    rw [run_bind_ok (run_openSession hs hc)]
    cases on with
    | false =>
      rw [if_neg (by simp)]
      exact ⟨[], _, turns_switch hs false, hl, .switched hc nofun⟩
    | true =>
      obtain ⟨r, n', xs, s', hrun, hturns, hl', hends⟩ := endTransaction_ends server hs hl "COMMIT"
      rw [if_pos rfl]
      cases hends with
      | closed e isClosed => exact absurd (hc.symm.trans isClosed) nofun
      | idle isOpen idle =>
        rw [commit, run_bind_ok hrun]
        exact ⟨_, _, hturns.trans (turns_switch (hturns.get hs) true), hl,
          .switched hc fun _ => idle⟩
      | ended r isOpen busy =>
        cases r with
        | ok u =>
          rw [commit, run_bind_ok hrun]
          exact ⟨_, _, hturns.trans (turns_switch (hturns.get hs) true), hl, .switchedOn hc busy⟩
        | error e =>
          rw [commit, run_bind_error hrun]
          exact ⟨_, _, hturns, hl, .unswitched hc busy⟩

theorem talks_isValid : Talks i (isValid server.noting i) .isValid := by
  intro n s hs hl
  rw [isValid, run_step_bind run_step_get, session_of_get hs]
  dsimp only
  cases hc : s.closed with
  | true =>
    rw [if_pos (by simp)]
    exact ⟨[], s, .refl hs, hl, .closed _ hc⟩
  | false =>
    obtain ⟨r, n', hrun, hturns⟩ := run_command server hs hl "SELECT 1"
    rw [if_neg (by simp [hl]), run_step_bind hrun]
    exact ⟨_, s, hturns, hl, .asked _ hc⟩

theorem talks_close : Talks i (close server.noting i) .close := by
  intro n s hs hl
  rw [close, run_step_bind run_step_get, session_of_get hs]
  dsimp only
  cases hc : s.closed with
  | true =>
    rw [if_pos rfl]
    exact ⟨[], s, .refl hs, hl, .closed _ hc⟩
  | false =>
    have hset := turns_setSession i n { s with closed := true, inTransaction := false }
    have hmodify : (modify (·.setSession i { s with closed := true, inTransaction := false }) :
        StateM (Network (S × List Served)) Unit).run n =
          ((), n.setSession i { s with closed := true, inTransaction := false }) := rfl
    rw [if_neg nofun, run_step_bind hmodify]
    cases hbusy : s.inTransaction with
    | false =>
      rw [if_neg nofun]
      exact ⟨[], _, hset, hl, .left hc hbusy⟩
    | true =>
      obtain ⟨r, n', hrun, hturns⟩ := run_command server (hset.get hs) hl "ROLLBACK"
      rw [if_pos rfl, run_step_bind hrun]
      refine ⟨_, { s with closed := true, inTransaction := false }, ?_, hl,
        .abandoned r.isOk hc hbusy⟩
      cases r with
      | ok u => exact hset.trans hturns
      | error e => exact hset.trans hturns

end Action

section Connection

variable {σ : Type} {f : Focus σ (Network (S × List Served))} (world : σ)
  {n : Network (S × List Served)} {s : Session}

/-- A call of the connection goes on the network as its session speaks. -/
def Goes (f : Focus σ (Network (S × List Served))) (world : σ) (i : Nat)
    (n : Network (S × List Served)) (s : Session) (x : Task σ α) (c : Call) : Prop :=
  ∃ r n' xs s', Does x.run (f.set n world) r (f.set n' world) ∧ Turns i n xs s' n' ∧
    s'.linked = true ∧ Speaks s c xs s'

theorem Goes.andThen {x : Task σ α} {c : Call} (h : Goes f world i n s x c) (g : α → β) :
    Goes f world i n s (x >>= fun a => pure (g a)) c := by
  obtain ⟨r, n', xs, s', hx, hspeaks⟩ := h
  cases r with
  | ok a => exact ⟨_, n', xs, s', Does.task_bind hx (Does.pure _ _), hspeaks⟩
  | error e => exact ⟨_, n', xs, s', Does.task_bind_error hx, hspeaks⟩

variable [f.Lawful] (server : Server S)

theorem Talks.goes {x : Action (S × List Served) α} {c : Call} (h : Talks i x.run c)
    (hs : n.sessions[i]? = some s) (hl : s.linked = true) :
    Goes f world i n s (Task.ofState f x) c := by
  obtain ⟨xs, s', hturns, hl', hspeaks⟩ := h n s hs hl
  exact ⟨_, _, xs, s', does_task_ofState world rfl, hturns, hl', hspeaks⟩

theorem Talks.goes_lift {m : StateM (Network (S × List Served)) α} {c : Call} (h : Talks i m c)
    (hs : n.sessions[i]? = some s) (hl : s.linked = true) :
    Goes f world i n s (ExceptT.lift (Step.ofState f m)) c := by
  obtain ⟨xs, s', hturns, hl', hspeaks⟩ := h n s hs hl
  have hdoes : Does (Step.ofState f m) (f.set n world) (m.run n).1 (f.set (m.run n).2 world) :=
    does_ofState world rfl
  exact ⟨_, _, xs, s', hdoes.lift, hturns, hl', hspeaks⟩

/-- A rollback that fails when the connection is closed is noted in the journal, and no more. -/
theorem close_goes (hs : n.sessions[i]? = some s) (hl : s.linked = true) :
    Goes f world i n s (connection server.noting f i).close .close := by
  obtain ⟨xs, s', hturns, hl', hspeaks⟩ := talks_close server n s hs hl
  obtain ⟨r, n', hrun⟩ : ∃ r n', (Action.close server.noting i).run n = (r, n') := ⟨_, _, rfl⟩
  rw [hrun] at hturns
  have hclose := does_ofState (f := f) world hrun
  refine ⟨.ok (), n', xs, s', Does.lift (hclose.bind ?_), hturns, hl', hspeaks⟩
  cases r with
  | none => exact Does.pure _ _
  | some e => exact Does.log _ _ _ _

/-- Every call sends what its session speaks. -/
theorem call_goes (c : Call) (hs : n.sessions[i]? = some s) (hl : s.linked = true) :
    Goes f world i n s (c.run server.noting f i) c := by
  cases c with
  | query sql params => exact ((talks_query server sql params).goes world hs hl).andThen world _
  | execute sql params => exact ((talks_execute server sql params).goes world hs hl).andThen world _
  | prepare sql =>
    exact (((talks_prepare server sql).goes world hs hl).andThen world _).andThen world _
  | setAutoCommit on => exact (talks_setAutoCommit server on).goes world hs hl
  | commit => exact (talks_commit server).goes world hs hl
  | rollback => exact (talks_rollback server).goes world hs hl
  | isValid => exact ((talks_isValid server).goes_lift world hs hl).andThen world _
  | close => exact close_goes world server hs hl
  | executePrepared p params =>
    exact ((talks_executePrepared server p params).goes world hs hl).andThen world _
  | executeBatch p batch =>
    exact ((talks_executeBatch server p batch).goes world hs hl).andThen world _

end Connection

end BatchSql.Postgres
