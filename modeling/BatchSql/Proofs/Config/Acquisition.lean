import BatchSql.Proofs.Memory.Acquire

namespace BatchSql

variable {σ : Type}

/-- A call that changes which drivers are known. -/
inductive RegistryCall (σ : Type) where
  | register (name : String) (factory : ConnectionFactory σ)
  | deregister (name : String)

namespace RegistryCall

/-- What a call leaves under a name, if it is about the name. -/
def leaves? (name : String) : RegistryCall σ → Option (Option (ConnectionFactory σ))
  | register n factory => if n = name then some (some factory) else none
  | deregister n => if n = name then some none else none

/-- What is under a name after some calls: what the last of them that was about it left there. -/
def latest (start : Registry σ) (calls : List (RegistryCall σ)) (name : String) :
    Option (ConnectionFactory σ) :=
  ((calls.filterMap (leaves? name)).getLast?).getD (Assoc.get? name start)

end RegistryCall

namespace Registry

def call (r : Registry σ) : RegistryCall σ → Step σ (Registry σ)
  | .register name factory => r.register name factory
  | .deregister name => pure (r.deregister name)

/-- The registry after a history of calls. -/
def after (start : Registry σ) : List (RegistryCall σ) → Step σ (Registry σ)
  | [] => pure start
  | c :: calls => do
    let r ← start.call c
    r.after calls

theorem get?_call (r : Registry σ) (c : RegistryCall σ) (t : Traced σ) (name : String) :
    Assoc.get? name ((r.call c).run t).1 = (c.leaves? name).getD (Assoc.get? name r) := by
  cases c with
  | register n factory =>
    change Assoc.get? name (Assoc.put n factory r) = _
    rw [Assoc.get?_put, RegistryCall.leaves?]
    split
    · rfl
    · rfl
  | deregister n =>
    change Assoc.get? name (Assoc.erase n r) = _
    rw [Assoc.get?_erase, RegistryCall.leaves?]
    split
    · rfl
    · rfl

/-- Under each name there is what was left there last. -/
theorem get?_after (start : Registry σ) (calls : List (RegistryCall σ)) (t : Traced σ)
    (name : String) :
    Assoc.get? name ((start.after calls).run t).1 = RegistryCall.latest start calls name := by
  induction calls generalizing start t with
  | nil => rfl
  | cons c calls ih =>
    change Assoc.get? name ((((start.call c).run t).1.after calls).run ((start.call c).run t).2).1 =
      _
    rw [ih, RegistryCall.latest, RegistryCall.latest, get?_call, List.filterMap_cons]
    cases hc : c.leaves? name with
    | none => rfl
    | some left =>
      simp only [Option.getD_some, List.getLast?_cons]

theorem lookup_eq (r : Registry σ) (name : String) :
    r.lookup name = match Assoc.get? name r with
      | some factory => .ok factory
      | none => .error (.configuration ("no driver registered under '" ++ name ++ "'")) := rfl

end Registry

/-- The same world, with more in its journal. -/
def Traced.noting (t : Traced σ) (noted : List Event) : Traced σ :=
  { t with events := t.events ++ noted.toArray }

theorem run_logged {α : Type} (level : Level) (message : String)
    (fields : List (String × String)) (m : Task σ α) (t : Traced σ) :
    (Task.log level message fields >>= fun _ => m).run.run t =
      m.run.run (t.noting [⟨level, message, fields⟩]) := by
  rw [run_bind_ok (run_task_log level message fields t), Traced.noting,
    Array.push_eq_append]

theorem Traced.noting_noting (t : Traced σ) (xs ys : List Event) :
    (t.noting xs).noting ys = t.noting (xs ++ ys) := by
  simp [Traced.noting]

namespace ConnectionConfig

/-- The options that the driver form hands to a factory: a password only beside a user name. -/
def options (c : ConnectionConfig σ) (url : String) : ConnectOptions :=
  match c.username with
  | some username => (ConnectOptions.ofUrl url).withCredentials username c.password
  | none => .ofUrl url

/-- The one call that is made for a connection: of the source at hand, in someone's name or not, or
of the factory that is under the name of the driver. -/
inductive Asks (registered : String → Option (ConnectionFactory σ)) (c : ConnectionConfig σ) :
    Task σ (Connection σ) → Prop where
  | source {s : DataSource σ} (origin : c.origin = .source s) (nameless : c.username = none) :
      Asks registered c s.connection
  | sourceAs {s : DataSource σ} {username : String} (origin : c.origin = .source s)
      (named : c.username = some username) :
      Asks registered c (s.connectionAs username c.password)
  | driver {name url : String} {factory : ConnectionFactory σ}
      (origin : c.origin = .driver name url)
      (valid : c.validate = .ok ()) (known : registered name = some factory) :
      Asks registered c (factory.connect (c.options url))

/-- Why no call is made for a connection: the driver form is not valid, or there is no factory under
the name of the driver. -/
inductive Lacks (registered : String → Option (ConnectionFactory σ)) (c : ConnectionConfig σ) :
    Error → Prop where
  | invalid {name url : String} {e : Error} (origin : c.origin = .driver name url)
      (invalid : c.validate = .error e) :
      Lacks registered c (.connectionFrom "invalid connection configuration" e)
  | unknown {name url : String} (origin : c.origin = .driver name url)
      (valid : c.validate = .ok ()) (unknown : registered name = none) :
      Lacks registered c (.configuration ("no driver registered under '" ++ name ++ "'"))

variable {c : ConnectionConfig σ} {registry : Registry σ}
  {registered : String → Option (ConnectionFactory σ)}

theorem lacks_or_asks (registered : String → Option (ConnectionFactory σ))
    (c : ConnectionConfig σ) : (∃ e, c.Lacks registered e) ∨ ∃ call, c.Asks registered call := by
  cases horigin : c.origin with
  | source s =>
    right
    cases hu : c.username with
    | none => exact ⟨_, .source horigin hu⟩
    | some username => exact ⟨_, .sourceAs horigin hu⟩
  | driver name url =>
    cases hv : c.validate with
    | error e => exact .inl ⟨_, .invalid horigin hv⟩
    | ok u =>
      cases hr : registered name with
      | none => exact .inl ⟨_, .unknown horigin hv hr⟩
      | some factory => exact .inr ⟨_, .driver horigin hv hr⟩

/-- A failure without a call leaves everything as it was. -/
theorem Lacks.run {e : Error} (h : c.Lacks registered e)
    (hr : ∀ name, Assoc.get? name registry = registered name) (t : Traced σ) :
    (c.tryAcquire registry).run.run t = (.error e, t) := by
  cases h with
  | @invalid name url e horigin hinvalid =>
    have hsource : c.driverSource registry name url =
        .error (.connectionFrom "invalid connection configuration" e) := by
      simp only [driverSource, hinvalid]
      rfl
    rw [tryAcquire, horigin]
    simp only [hsource]
    exact run_bind_error (run_ofExcept _ t)
  | @unknown name url horigin hvalid hunknown =>
    have hsource : c.driverSource registry name url =
        .error (.configuration ("no driver registered under '" ++ name ++ "'")) := by
      simp only [driverSource, hvalid, Registry.lookup_eq, hr name, hunknown]
      rfl
    rw [tryAcquire, horigin]
    simp only [hsource]
    exact run_bind_error (run_ofExcept _ t)

/-- Else the call is made once, after some notes in the journal, and answers as it does. -/
theorem Asks.run {call : Task σ (Connection σ)} (h : c.Asks registered call)
    (hr : ∀ name, Assoc.get? name registry = registered name) :
    ∃ noted, ∀ t, (c.tryAcquire registry).run.run t = call.run.run (t.noting noted) := by
  cases h with
  | @source s horigin hnameless =>
    refine ⟨[⟨.debug, "Acquiring connection", [("data_source", s.name)]⟩], fun t => ?_⟩
    rw [tryAcquire, horigin]
    simp only [hnameless]
    exact run_logged ..
  | @sourceAs s username horigin hnamed =>
    refine ⟨[⟨.debug, "Acquiring connection", [("data_source", s.name)]⟩], fun t => ?_⟩
    rw [tryAcquire, horigin]
    simp only [hnamed]
    exact run_logged ..
  | @driver name url factory horigin hvalid hknown =>
    have hsource : c.driverSource registry name url = .ok ⟨factory, c.options url⟩ := by
      simp only [driverSource, hvalid, Registry.lookup_eq, hr name, hknown, options]
      rfl
    refine ⟨[
      ⟨.debug, "Acquiring connection", [("driver", factory.name), ("url", Url.redacted url)]⟩,
      ⟨.debug, "Opening connection", [
        ("driver", factory.name),
        ("url", Url.redacted (c.options url).url),
        ("username", (c.options url).username.getD "")]⟩], fun t => ?_⟩
    rw [tryAcquire, horigin]
    simp only [hsource]
    rw [run_bind_ok (run_ofExcept _ t), run_logged]
    change (DriverDataSource.openWith _ _).run.run _ = _
    rw [DriverDataSource.openWith, run_logged, Traced.noting_noting]
    rfl

/-- What comes of an attempt is told as it is, a failure as an error of connections. -/
theorem run_acquire (c : ConnectionConfig σ) (registry : Registry σ) (t : Traced σ) :
    (c.acquire registry).run.run t =
      (((c.tryAcquire registry).run.run t).1.mapError asConnectionError,
        ((c.tryAcquire registry).run.run t).2) := by
  cases h : (c.tryAcquire registry).run.run t with
  | mk r t' =>
    cases r with
    | ok conn => exact run_catch_ok h
    | error e => exact run_catch_error h

/-- With the call, all of the world changes that changes in an acquisition. -/
theorem Asks.does {call : Task σ (Connection σ)} (h : c.Asks registered call)
    (hr : ∀ name, Assoc.get? name registry = registered name) {s s' : σ}
    {r : Except Error (Connection σ)} (hcall : Does call.run s r s') :
    Does (c.acquire registry).run s (r.mapError asConnectionError) s' := by
  intro events
  obtain ⟨noted, hrun⟩ := h.run hr
  obtain ⟨events', hcall⟩ := hcall (events ++ noted.toArray)
  have hnoted : call.run.run ((⟨s, events⟩ : Traced σ).noting noted) = (r, ⟨s', events'⟩) := hcall
  refine ⟨events', ?_⟩
  rw [run_acquire, hrun, hnoted]

end ConnectionConfig

/-- How an error is told where only errors of connections may be: as it is if it is one, else from
behind one. -/
structure Error.ToldAs (e told : Error) : Prop where
  connection : told.category = .connection
  itself : e.category = .connection → told = e
  behind : e.category ≠ .connection → told.sources = e.message :: e.sources

theorem toldAs_asConnectionError (e : Error) :
    e.ToldAs (ConnectionConfig.asConnectionError e) := by
  refine ⟨ConnectionConfig.category_asConnectionError e, fun h => ?_, fun h => ?_⟩
  · rw [ConnectionConfig.asConnectionError, if_pos h]
  · rw [ConnectionConfig.asConnectionError, if_neg h]
    rfl

/-- Opens one connection where it answers with one, and none where it fails. -/
def OpensOne (opened : σ → Nat) (m : Task σ (Connection σ)) : Prop :=
  ∀ t, match m.run.run t with
    | (.ok _, t') => opened t'.world = opened t.world + 1
    | (.error _, t') => opened t'.world = opened t.world

/-- Acquisition opens what its call opens. -/
theorem OpensOne.acquire {c : ConnectionConfig σ} {registry : Registry σ}
    {registered : String → Option (ConnectionFactory σ)} {opened : σ → Nat}
    (hr : ∀ name, Assoc.get? name registry = registered name)
    (h : ∀ call, c.Asks registered call → OpensOne opened call) :
    OpensOne opened (c.acquire registry) := by
  intro t
  rw [ConnectionConfig.run_acquire]
  rcases c.lacks_or_asks registered with ⟨e, hlacks⟩ | ⟨call, hasks⟩
  · rw [hlacks.run hr]
    rfl
  · obtain ⟨noted, hrun⟩ := hasks.run hr
    have hcall := h call hasks (t.noting noted)
    rw [hrun]
    cases hc : call.run.run (t.noting noted) with
    | mk r t' =>
      rw [hc] at hcall
      cases r with
      | ok conn => exact hcall
      | error e => exact hcall

namespace Memory

variable {f : Focus σ Database} {c : ConnectionConfig σ}
  {registered : String → Option (ConnectionFactory σ)}

theorem asks_of_driver {name url : String} (origin : c.origin = .driver name url)
    (valid : c.validate = .ok ()) (known : registered name = some (factory f)) :
    c.Asks registered (connect f c.username) := by
  have husername : (c.options url).username = c.username := by
    rw [ConnectionConfig.options]
    cases c.username with
    | none => rfl
    | some username => rfl
  rw [← husername]
  exact .driver origin valid known

theorem asks_of_source (origin : c.origin = .source (dataSource f)) :
    c.Asks registered (connect f c.username) := by
  cases husername : c.username with
  | none => exact .source origin husername
  | some username => exact .sourceAs origin husername

/-- A database gives a connection or fails as it was told to. -/
theorem connect_gives_or_fails (f : Focus σ Database) (username : Option String) (s : σ) :
    Does (connect f username).run s (.ok (connection f (f.get s).sessions.length))
        (f.set ((f.get s).opened username) s) ∨
      Does (connect f username).run s (.error FailurePoint.connect.error) (f.set (f.get s) s) := by
  by_cases hfails : .connect ∈ (f.get s).failures
  · right
    have hopen : Does (Task.ofState f (Action.connect username)).run s
        (.error FailurePoint.connect.error) (f.set (f.get s) s) :=
      does_ofState_get (Action.run_connect_failing username hfails)
    exact Does.task_bind_error hopen
  · left
    have hopen : Does (Task.ofState f (Action.connect username)).run s
        (.ok (f.get s).sessions.length) (f.set ((f.get s).opened username) s) :=
      does_ofState_get (Action.run_connect username hfails)
    exact Does.task_bind hopen (Does.pure _ _)

/-- Its counter tells every connection that a database gave. -/
theorem connect_opensOne (f : Focus σ Database) [f.Lawful] (username : Option String) :
    OpensOne (fun s => (f.get s).stats.connectionsOpened) (connect f username) := by
  intro t
  rcases connect_gives_or_fails f username t.world with hgives | hfails
  · obtain ⟨events, hrun⟩ := hgives t.events
    change (connect f username).run.run t = _ at hrun
    rw [hrun]
    dsimp only
    rw [Focus.Lawful.get_set]
    rfl
  · obtain ⟨events, hrun⟩ := hfails t.events
    change (connect f username).run.run t = _ at hrun
    rw [hrun]
    dsimp only
    rw [Focus.Lawful.get_set]

end Memory

/-- After any registrations, an acquisition makes the one call that it asks for, or none where it
lacks something. It answers with the connection of the call or tells the failure as one of
connections, and opens what the call opens. By name or at hand, a database does the same for the
same user, and no password matters. -/
theorem acquisitions_make_one_call (c : ConnectionConfig σ) (start : Registry σ)
    (calls : List (RegistryCall σ)) (t₀ : Traced σ) :
    let registry := ((start.after calls).run t₀).1
    let registered := RegistryCall.latest start calls
    ((∃ e, c.Lacks registered e) ∨ ∃ call, c.Asks registered call) ∧
    (∀ e, c.Lacks registered e → ∃ told, e.ToldAs told ∧
      ∀ t, (c.acquire registry).run.run t = (.error told, t)) ∧
    (∀ call, c.Asks registered call → ∃ noted, ∀ t,
      match call.run.run (t.noting noted) with
      | (.ok conn, t') => (c.acquire registry).run.run t = (.ok conn, t')
      | (.error e, t') => ∃ told, e.ToldAs told ∧
        (c.acquire registry).run.run t = (.error told, t')) ∧
    (∀ opened, (∀ call, c.Asks registered call → OpensOne opened call) →
      OpensOne opened (c.acquire registry)) ∧
    ∀ (f : Focus σ Memory.Database) (handle : ConnectionConfig σ) (name url : String),
      c.origin = .driver name url → c.validate = .ok () →
      registered name = some (Memory.factory f) →
      handle.origin = .source (Memory.dataSource f) → handle.username = c.username →
      ∀ s, ∃ r s', Does (Memory.connect f c.username).run s r s' ∧
        Does (c.acquire registry).run s r s' ∧ Does (handle.acquire registry).run s r s' := by
  intro registry registered
  have hr : ∀ name, Assoc.get? name registry = registered name := Registry.get?_after start calls t₀
  refine ⟨c.lacks_or_asks registered, ?_, ?_, fun _ => OpensOne.acquire hr, ?_⟩
  · intro e hlacks
    refine ⟨_, toldAs_asConnectionError e, fun t => ?_⟩
    rw [ConnectionConfig.run_acquire, hlacks.run hr]
    rfl
  · intro call hasks
    obtain ⟨noted, hrun⟩ := hasks.run hr
    refine ⟨noted, fun t => ?_⟩
    rw [ConnectionConfig.run_acquire, hrun]
    cases call.run.run (t.noting noted) with
    | mk r t' =>
      cases r with
      | ok conn => rfl
      | error e => exact ⟨_, toldAs_asConnectionError e, rfl⟩
  · intro f handle name url hdriver hvalid hknown hsource husername s
    have hasks := Memory.asks_of_driver hdriver hvalid hknown
    have hasks' : handle.Asks registered (Memory.connect f c.username) :=
      husername ▸ Memory.asks_of_source hsource
    rcases Memory.connect_gives_or_fails f c.username s with hgives | hfails
    · exact ⟨_, _, hgives, hasks.does hr hgives, hasks'.does hr hgives⟩
    · exact ⟨_, _, hfails, hasks.does hr hfails, hasks'.does hr hfails⟩

/-- A driver that was taken away counts for nothing until it is registered again. -/
theorem acquisitions_make_one_call_again :
    let f : Focus Memory.Database Memory.Database := .self
    let away : List (RegistryCall Memory.Database) :=
      [.register "db" (Memory.factory f), .deregister "db"]
    let c : ConnectionConfig Memory.Database := ⟨.driver "db" "memory:", some "ann", some ⟨"one"⟩⟩
    let handle : ConnectionConfig Memory.Database :=
      ⟨.source (Memory.dataSource f), some "ann", some ⟨"two"⟩⟩
    let t₀ : Traced Memory.Database := ⟨.empty, #[]⟩
    let gone := ((Registry.after [] away).run t₀).1
    let back := ((Registry.after [] (away ++ [.register "db" (Memory.factory f)])).run t₀).1
    (∃ told : Error, told.category = .connection ∧
      told.sources = ["configuration error: no driver registered under 'db'"] ∧
      ∀ t, (c.acquire gone).run.run t = (.error told, t)) ∧
    OpensOne (fun db => db.stats.connectionsOpened) (c.acquire back) ∧
    ∀ s, ∃ r s', Does (Memory.connect f (some "ann")).run s r s' ∧
      Does (c.acquire back).run s r s' ∧ Does (handle.acquire back).run s r s' := by
  intro f away c handle t₀ gone back
  obtain ⟨-, hlacks, -, -, -⟩ := acquisitions_make_one_call c [] away t₀
  obtain ⟨-, -, -, hopens, hmemory⟩ :=
    acquisitions_make_one_call c [] (away ++ [.register "db" (Memory.factory f)]) t₀
  refine ⟨?_, hopens _ ?_, hmemory f handle "db" "memory:" rfl rfl rfl rfl rfl⟩
  · obtain ⟨told, htold, hrun⟩ := hlacks _ (.unknown rfl rfl rfl)
    exact ⟨told, htold.connection, htold.behind (by decide), hrun⟩
  · intro call hasks
    cases hasks with
    | source origin => cases origin
    | sourceAs origin => cases origin
    | driver origin valid known =>
      cases origin
      cases known
      exact Memory.connect_opensOne f (some "ann")

end BatchSql
