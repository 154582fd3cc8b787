import BatchSql.Proofs.Postgres.Calls

namespace BatchSql.Postgres

namespace Served

/-- A transaction was begun. -/
def begins (x : Served) : Bool :=
  x.request = .query "BEGIN" && x.done

/-- A transaction was to end, whether this was done or not. -/
def ends (x : Served) : Bool :=
  x.request = .query "COMMIT" || x.request = .query "ROLLBACK"

theorem begins_iff (x : Served) : x.begins = true ↔ x.request = .query "BEGIN" ∧ x.done = true := by
  simp [begins]

/-- What a user sends neither begins a transaction nor ends one. -/
theorem plain_of_ofUser {x : Served} (h : x.request.ofUser = true) :
    x.begins = false ∧ x.ends = false := by
  obtain ⟨request, done⟩ := x
  cases request with
  | prepare sql => exact ⟨rfl, rfl⟩
  | execute sql params => exact ⟨rfl, rfl⟩
  | _ => cases h

theorem not_begins_of_ends {x : Served} (h : x.ends = true) : x.begins = false := by
  obtain ⟨request, done⟩ := x
  have hcommand : request = .query "COMMIT" ∨ request = .query "ROLLBACK" := by simpa [ends] using h
  rcases hcommand with rfl | rfl
  · rfl
  · rfl

end Served

/-- A transaction was begun, and nothing was sent since to end it. -/
def Within (served : List Served) : Prop :=
  ∃ front x back, served = front ++ x :: back ∧ x.begins = true ∧ ∀ y ∈ back, y.ends = false

section Within

variable {past xs : List Served} {x : Served}

theorem not_within_nil : ¬Within [] := by
  rintro ⟨front, x, back, he, _⟩
  simp at he

theorem within_concat : Within (past ++ [x]) ↔ x.begins = true ∨ Within past ∧ x.ends = false := by
  constructor
  · rintro ⟨front, y, back, he, hbegins, hends⟩
    rcases List.eq_nil_or_concat back with rfl | ⟨rest, z, rfl⟩
    · obtain ⟨_, hy⟩ := List.append_inj' he rfl
      obtain rfl := List.singleton_inj.mp hy
      exact .inl hbegins
    · rw [List.concat_eq_append, ← List.cons_append, ← List.append_assoc] at he
      obtain ⟨rfl, hz⟩ := List.append_inj' he rfl
      obtain rfl := List.singleton_inj.mp hz
      rw [List.concat_eq_append, List.forall_mem_append] at hends
      exact .inr ⟨⟨front, y, rest, rfl, hbegins, hends.1⟩, hends.2 x (by simp)⟩
  · rintro (hbegins | ⟨⟨front, y, back, rfl, hbegins, hends⟩, hx⟩)
    · exact ⟨past, x, [], rfl, hbegins, List.forall_mem_nil _⟩
    · refine ⟨front, y, back ++ [x], by simp, hbegins, ?_⟩
      exact List.forall_mem_append.mpr ⟨hends, List.forall_mem_singleton.mpr hx⟩

/-- Where none is begun, a transaction is open that was open before. -/
theorem Within.before (hxs : ∀ x ∈ xs, x.begins = false) (h : Within (past ++ xs)) :
    Within past := by
  induction xs generalizing past with
  | nil => rwa [List.append_nil] at h
  | cons x xs ih =>
    rw [List.forall_mem_cons] at hxs
    rw [List.append_cons] at h
    rcases within_concat.mp (ih hxs.2 h) with hbegins | ⟨hpast, _⟩
    · rw [hxs.1] at hbegins
      cases hbegins
    · exact hpast

/-- Where nothing is sent to end it, a transaction stays open. -/
theorem Within.after (hxs : ∀ x ∈ xs, x.ends = false) (h : Within past) : Within (past ++ xs) := by
  obtain ⟨front, x, back, rfl, hbegins, hends⟩ := h
  exact ⟨front, x, back ++ xs, by simp, hbegins, List.forall_mem_append.mpr ⟨hends, hxs⟩⟩

theorem within_ofUser (hxs : ∀ x ∈ xs, x.request.ofUser = true) :
    Within (past ++ xs) ↔ Within past :=
  ⟨.before fun x hx => (Served.plain_of_ofUser (hxs x hx)).1,
    .after fun x hx => (Served.plain_of_ofUser (hxs x hx)).2⟩

theorem not_within_ended (hx : x.ends = true) : ¬Within (past ++ [x]) := by
  rw [within_concat, Served.not_begins_of_ends hx, hx]
  simp

end Within

/-- Transactions are begun outside of one and ended inside. -/
def Follows (past : List Served) : List Served → Prop
  | [] => True
  | x :: rest => (x.request = .query "BEGIN" → ¬Within past) ∧ (x.ends = true → Within past) ∧
      Follows (past ++ [x]) rest

section Follows

variable {past xs ys : List Served} {x : Served}

theorem Follows.append (hx : Follows past xs) (hy : Follows (past ++ xs) ys) :
    Follows past (xs ++ ys) := by
  induction xs generalizing past with
  | nil => rwa [List.append_nil] at hy
  | cons x xs ih =>
    obtain ⟨hbegins, hends, hrest⟩ := hx
    rw [List.append_cons] at hy
    exact ⟨hbegins, hends, ih hrest hy⟩

theorem Follows.at {front back : List Served} (h : Follows past (front ++ x :: back)) :
    (x.request = .query "BEGIN" → ¬Within (past ++ front)) ∧
      (x.ends = true → Within (past ++ front)) := by
  induction front generalizing past with
  | nil =>
    rw [List.append_nil]
    exact ⟨h.1, h.2.1⟩
  | cons y front ih =>
    rw [List.append_cons]
    exact ih h.2.2

theorem follows_ofUser (hxs : ∀ x ∈ xs, x.request.ofUser = true) : Follows past xs := by
  induction xs generalizing past with
  | nil => trivial
  | cons x xs ih =>
    rw [List.forall_mem_cons] at hxs
    refine ⟨fun he => ?_, fun he => ?_, ih hxs.2⟩
    · rw [he] at hxs
      cases hxs.1
    · rw [(Served.plain_of_ofUser hxs.1).2] at he
      cases he

/-- Between two transactions that were begun, the first is ended once. -/
theorem Follows.ends_once {front mid back : List Served} {y : Served}
    (h : Follows [] (front ++ x :: mid ++ y :: back)) (hx : x.begins = true) (hy : y.begins = true)
    (hmid : ∀ z ∈ mid, z.begins = false) : (mid.filter Served.ends).length = 1 := by
  cases hfilter : mid.filter Served.ends with
  | nil =>
    -- The first transaction is open still, and the second could not be begun.
    have hends : ∀ z ∈ mid, z.ends = false := by simpa [List.filter_eq_nil_iff] using hfilter
    have hwithin : Within (front ++ x :: mid) := ⟨front, x, mid, rfl, hx, hends⟩
    exact absurd hwithin (h.at.1 ((Served.begins_iff y).mp hy).1)
  | cons z rest =>
    cases rest with
    | nil => rfl
    | cons z' rest =>
      -- After its end there is no transaction that could be ended again.
      obtain ⟨before, between, rfl, _, hz, hlater⟩ := List.filter_eq_cons_iff.mp hfilter
      obtain ⟨between, after, rfl, _, hz', _⟩ := List.filter_eq_cons_iff.mp hlater
      have hcut : front ++ x :: (before ++ z :: (between ++ z' :: after)) ++ y :: back =
          (front ++ x :: before ++ [z] ++ between) ++ z' :: (after ++ y :: back) := by simp
      rw [hcut] at h
      have hagain : Within (front ++ x :: before ++ [z] ++ between) := h.at.2 hz'
      have hended : Within (front ++ x :: before ++ [z]) :=
        hagain.before fun a ha => hmid a (by simp [ha])
      exact absurd hended (not_within_ended hz)

end Follows

/-- The flag of a session tells whether a transaction is open. With automatic commits none is, and
none in a closed session. -/
structure Sound (past : List Served) (s : Session) : Prop where
  flag : s.inTransaction = true ↔ Within past
  auto : s.autoCommit = true → s.inTransaction = false
  shut : s.closed = true → s.inTransaction = false

theorem sound_ended {past : List Served} {x : Served} {s : Session} (hx : x.ends = true)
    (hs : s.inTransaction = false) : Sound (past ++ [x]) s where
  flag := ⟨fun hbusy => absurd (hs.symm.trans hbusy) nofun,
    fun hwithin => absurd hwithin (not_within_ended hx)⟩
  auto _ := hs
  shut _ := hs

section Speaks

variable {past xs : List Served} {s s' : Session} {c : Call}

theorem Speaks.sound (h : Speaks s c xs s') (hs : Sound past s) : Sound (past ++ xs) s' := by
  obtain ⟨hflag, hauto, hshut⟩ := hs
  cases h with
  | closed c isClosed => exact ⟨by rwa [List.append_nil], hauto, hshut⟩
  | unbegun works isOpen manual idle =>
    refine ⟨?_, hauto, hshut⟩
    simp [within_concat, Served.begins, Served.ends, hflag]
  | begun works isOpen manual idle user =>
    refine ⟨?_, fun ha => absurd (manual.symm.trans ha) nofun,
      fun hc => absurd (isOpen.symm.trans hc) nofun⟩
    rw [List.append_cons, within_ofUser user]
    simp [within_concat, Served.begins]
  | worked works isOpen ready user => exact ⟨by rwa [within_ofUser user], hauto, hshut⟩
  | prepared sql isOpen user => exact ⟨by rwa [within_ofUser user], hauto, hshut⟩
  | idle ends isOpen idle => exact ⟨by rwa [List.append_nil], hauto, hshut⟩
  | committed done isOpen busy => exact sound_ended rfl rfl
  | rolledBack done isOpen busy => exact sound_ended rfl rfl
  | switched isOpen calm => exact ⟨by rwa [List.append_nil], calm, hshut⟩
  | switchedOn isOpen busy => exact sound_ended rfl rfl
  | unswitched isOpen busy => exact sound_ended rfl rfl
  | asked done isOpen =>
    refine ⟨?_, hauto, hshut⟩
    simp [within_concat, Served.begins, Served.ends, hflag]
  | left isOpen idle =>
    refine ⟨?_, fun _ => rfl, fun _ => rfl⟩
    rw [List.append_nil, ← hflag, idle]
  | abandoned done isOpen busy => exact sound_ended rfl rfl

theorem Speaks.follows (h : Speaks s c xs s') (hs : Sound past s) : Follows past xs := by
  have hflag := hs.flag
  cases h with
  | closed c isClosed => trivial
  | unbegun works isOpen manual idle => simp [Follows, Served.ends, ← hflag, idle]
  | begun works isOpen manual idle user =>
    exact ⟨fun _ => by simp [← hflag, idle], by simp [Served.ends], follows_ofUser user⟩
  | worked works isOpen ready user => exact follows_ofUser user
  | prepared sql isOpen user => exact follows_ofUser user
  | idle ends isOpen idle => trivial
  | committed done isOpen busy => simp [Follows, ← hflag, busy]
  | rolledBack done isOpen busy => simp [Follows, ← hflag, busy]
  | switched isOpen calm => trivial
  | switchedOn isOpen busy => simp [Follows, ← hflag, busy]
  | unswitched isOpen busy => simp [Follows, ← hflag, busy]
  | asked done isOpen => simp [Follows, Served.ends]
  | left isOpen idle => trivial
  | abandoned done isOpen busy => simp [Follows, ← hflag, busy]

/-- A session sends BEGIN by itself, and not as a statement of a user. -/
theorem not_mem_ofUser (hxs : ∀ x ∈ xs, x.request.ofUser = true) {x : Served}
    (hbegin : x.request = .query "BEGIN") : x ∉ xs := by
  intro hx
  have huser := hxs x hx
  rw [hbegin] at huser
  cases huser

theorem Speaks.begins_manual (h : Speaks s c xs s') {x : Served} (hx : x ∈ xs)
    (hbegin : x.request = .query "BEGIN") : s.autoCommit = false ∧ s.inTransaction = false := by
  cases h with
  | unbegun works isOpen manual idle => exact ⟨manual, idle⟩
  | begun works isOpen manual idle user => exact ⟨manual, idle⟩
  | worked works isOpen ready user => exact absurd hx (not_mem_ofUser user hbegin)
  | prepared sql isOpen user => exact absurd hx (not_mem_ofUser user hbegin)
  | _ => simp_all

/-- Where a transaction could not be begun, nothing else is sent. -/
theorem Speaks.unbegun_alone (h : Speaks s c xs s') {x : Served} (hx : x ∈ xs)
    (hbegin : x.request = .query "BEGIN") (hdone : x.done = false) : xs = [x] := by
  cases h with
  | unbegun works isOpen manual idle => rw [List.mem_singleton.mp hx]
  | begun works isOpen manual idle user =>
    rcases List.mem_cons.mp hx with rfl | hlater
    · cases hdone
    · exact absurd hlater (not_mem_ofUser user hbegin)
  | worked works isOpen ready user => exact absurd hx (not_mem_ofUser user hbegin)
  | prepared sql isOpen user => exact absurd hx (not_mem_ofUser user hbegin)
  | _ => simp_all

/-- With automatic commits off, statements of a user are sent in a transaction. -/
theorem Speaks.works_within (h : Speaks s c xs s') (hs : Sound past s) (hworks : c.works = true)
    (hmanual : s.autoCommit = false) {front back : List Served} {x : Served}
    (hcut : xs = front ++ x :: back) (hx : x.request.ofUser = true) : Within (past ++ front) := by
  cases h with
  | closed c isClosed => simp at hcut
  | unbegun works isOpen manual idle =>
    obtain rfl : x = ⟨.query "BEGIN", false⟩ := by
      have hmem : x ∈ [(⟨.query "BEGIN", false⟩ : Served)] := by simp [hcut]
      exact List.mem_singleton.mp hmem
    cases hx
  | begun works isOpen manual idle user =>
    cases front with
    | nil =>
      obtain ⟨rfl, _⟩ := List.cons.inj hcut
      cases hx
    | cons first front =>
      obtain ⟨rfl, rfl⟩ := List.cons.inj hcut
      rw [List.append_cons, within_ofUser fun y hy => user y (List.mem_append_left _ hy)]
      exact within_concat.mpr (.inl rfl)
  | worked works isOpen ready user =>
    subst hcut
    rw [within_ofUser fun y hy => user y (List.mem_append_left _ hy), ← hs.flag]
    rcases ready with hauto | hbusy
    · exact absurd (hmanual.symm.trans hauto) nofun
    · exact hbusy
  | idle ends isOpen idle => simp at hcut
  | _ => cases hworks

/-- A session is closed in any case, and sends a ROLLBACK if it was open and in a transaction. -/
theorem Speaks.of_close (h : Speaks s .close xs s') :
    s'.closed = true ∧ ((s.closed = true ∧ xs = []) ∨ (s.inTransaction = false ∧ xs = []) ∨
      (s.inTransaction = true ∧ ∃ done, xs = [⟨.query "ROLLBACK", done⟩])) := by
  cases h with
  | closed c isClosed => exact ⟨isClosed, .inl ⟨isClosed, rfl⟩⟩
  | left isOpen idle => exact ⟨rfl, .inr (.inl ⟨idle, rfl⟩)⟩
  | abandoned done isOpen busy => exact ⟨rfl, .inr (.inr ⟨busy, done, rfl⟩)⟩
  | idle ends isOpen idle => simp at ends
  | unbegun works isOpen manual idle => cases works
  | begun works isOpen manual idle user => cases works
  | worked works isOpen ready user => cases works

theorem Speaks.abandons (h : Speaks s .close xs s') (hs : Sound past s) (hw : Within past) :
    ∃ done, xs = [⟨.query "ROLLBACK", done⟩] := by
  have hbusy := hs.flag.mpr hw
  rcases h.of_close.2 with ⟨hclosed, _⟩ | ⟨hidle, _⟩ | ⟨_, hrollback⟩
  · exact absurd (hbusy.symm.trans (hs.shut hclosed)) nofun
  · exact absurd (hbusy.symm.trans hidle) nofun
  · exact hrollback

theorem Speaks.leaves (h : Speaks s .close xs s') (hs : Sound past s) (hw : ¬Within past) :
    xs = [] := by
  rcases h.of_close.2 with ⟨_, hnone⟩ | ⟨_, hnone⟩ | ⟨hbusy, _⟩
  · exact hnone
  · exact hnone
  · exact absurd (hs.flag.mp hbusy) hw

/-- A closed session sends nothing and stays closed. -/
theorem Speaks.silent (h : Speaks s c xs s') (hc : s.closed = true) : xs = [] ∧ s' = s := by
  cases h with
  | closed c isClosed => exact ⟨rfl, rfl⟩
  | _ => simp_all

end Speaks

/-- A call, with its session before and after it, and what the server met in it. -/
structure Note where
  call : Call
  before : Session
  served : List Served
  after : Session

/-- How a call that follows upon `past` begins and ends transactions. -/
structure Note.Bracketed (past : List Served) (n : Note) : Prop where
  flag : n.after.inTransaction = true ↔ Within (past ++ n.served)
  auto : n.after.autoCommit = true → n.after.inTransaction = false
  begins : ∀ x ∈ n.served, x.request = .query "BEGIN" →
    n.before.autoCommit = false ∧ n.before.inTransaction = false
  unbegun : ∀ x ∈ n.served, x.request = .query "BEGIN" → x.done = false → n.served = [x]
  works : n.call.works = true → n.before.autoCommit = false → ∀ front x back,
    n.served = front ++ x :: back → x.request.ofUser = true → Within (past ++ front)
  ends : ∀ front x back, n.served = front ++ x :: back → x.ends = true → Within (past ++ front)
  abandons : n.call = .close → Within past → ∃ done, n.served = [⟨.query "ROLLBACK", done⟩]
  leaves : n.call = .close → ¬Within past → n.served = []

theorem Speaks.bracketed {past xs : List Served} {s s' : Session} {c : Call}
    (h : Speaks s c xs s') (hs : Sound past s) : Note.Bracketed past ⟨c, s, xs, s'⟩ where
  flag := (h.sound hs).flag
  auto := (h.sound hs).auto
  begins _ := h.begins_manual
  unbegun _ := h.unbegun_alone
  works hworks hmanual _ _ _ := h.works_within hs hworks hmanual
  ends front x back hcut := by
    obtain rfl : xs = front ++ x :: back := hcut
    exact (h.follows hs).at.2
  abandons hc hw := by
    obtain rfl : c = .close := hc
    exact h.abandons hs hw
  leaves hc hw := by
    obtain rfl : c = .close := hc
    exact h.leaves hs hw

/-- Calls that follow one another. -/
inductive Course : Session → List Note → Prop where
  | nil (s : Session) : Course s []
  | call {s s' : Session} {c : Call} {xs : List Served} {notes : List Note}
      (speaks : Speaks s c xs s') (rest : Course s' notes) : Course s (⟨c, s, xs, s'⟩ :: notes)

section Course

variable {past : List Served} {s : Session} {notes : List Note}

theorem Course.bracketed (h : Course s notes) (hs : Sound past s) {front back : List Note}
    {n : Note} (hcut : notes = front ++ n :: back) :
    n.Bracketed (past ++ front.flatMap Note.served) := by
  induction h generalizing past front with
  | nil s => simp at hcut
  | @call s s' c xs notes speaks rest ih =>
    cases front with
    | nil =>
      obtain ⟨rfl, _⟩ := List.cons.inj hcut
      rw [List.flatMap_nil, List.append_nil]
      exact speaks.bracketed hs
    | cons first front =>
      obtain ⟨rfl, hrest⟩ := List.cons.inj hcut
      rw [List.flatMap_cons, ← List.append_assoc]
      exact ih (speaks.sound hs) hrest

theorem Course.follows (h : Course s notes) (hs : Sound past s) :
    Follows past (notes.flatMap Note.served) := by
  induction h generalizing past with
  | nil s => trivial
  | call speaks rest ih => exact (speaks.follows hs).append (ih (speaks.sound hs))

/-- After a close nothing is sent. -/
theorem Course.silent (h : Course s notes) {front back : List Note} {n : Note}
    (hcut : notes = front ++ n :: back)
    (hc : s.closed = true ∨ ∃ m ∈ front, m.call = .close) : n.served = [] := by
  induction h generalizing front with
  | nil s => simp at hcut
  | @call s s' c xs notes speaks rest ih =>
    cases front with
    | nil =>
      obtain ⟨rfl, _⟩ := List.cons.inj hcut
      exact (speaks.silent (hc.resolve_right (by simp))).1
    | cons first front =>
      obtain ⟨rfl, hrest⟩ := List.cons.inj hcut
      refine ih hrest ?_
      rcases hc with hclosed | ⟨m, hm, hclose⟩
      · rw [(speaks.silent hclosed).2]
        exact .inl hclosed
      · rcases List.mem_cons.mp hm with rfl | hlater
        · obtain rfl : c = .close := hclose
          exact .inl speaks.of_close.1
        · exact .inr ⟨m, hlater, hclose⟩

end Course

/-- Calls are made one after the other, whatever they answer, and each is noted. -/
def observe {σ S : Type} (server : Server S) (f : Focus σ (Network (S × List Served))) (i : Nat) :
    List Call → Step σ (List Note)
  | [] => pure []
  | c :: rest => do
    let before ← Step.ofState f get
    let _ ← (c.run server.noting f i).run
    let after ← Step.ofState f get
    let served := after.server.2.drop before.server.2.length
    let notes ← observe server f i rest
    pure (⟨c, before.session i, served, after.session i⟩ :: notes)

theorem observe_course {σ S : Type} {f : Focus σ (Network (S × List Served))} [f.Lawful]
    (server : Server S) (world : σ) {i : Nat} {n : Network (S × List Served)} {s : Session}
    (hs : n.sessions[i]? = some s) (hl : s.linked = true) (calls : List Call) :
    ∃ notes n', Does (observe server f i calls) (f.set n world) notes (f.set n' world) ∧
      notes.map Note.call = calls ∧ Course s notes ∧
      n'.sent.map Sent.request =
        n.sent.map Sent.request ++ (notes.flatMap Note.served).map Served.request := by
  induction calls generalizing n s with
  | nil => exact ⟨[], n, Does.pure _ _, rfl, .nil s, (List.append_nil _).symm⟩
  | cons c rest ih =>
    obtain ⟨r, n₁, xs, s', hcall, hturns, hl', hspeaks⟩ := call_goes (f := f) world server c hs hl
    obtain ⟨notes, n', hrest, hcalls, hcourse, hsent⟩ := ih (hturns.get hs) hl'
    have hserved : n₁.server.2.drop n.server.2.length = xs := by
      rw [hturns.noted, List.drop_left]
    refine ⟨⟨c, s, xs, s'⟩ :: notes, n',
      (does_get world).bind (hcall.bind ((does_get world).bind ?_)), ?_, .call hspeaks hcourse, ?_⟩
    · rw [hserved, session_of_get hs, session_of_get (hturns.get hs)]
      exact hrest.bind (Does.pure _ _)
    · rw [List.map_cons, hcalls]
    · rw [hsent, hturns.sent, List.flatMap_cons, List.map_append, List.append_assoc]

/-- Whatever is called on a connection, in whatever order and whatever the server answers over a
link that holds, its transactions are bracketed: each is begun outside of one, with automatic
commits off and before the first statement that needs it, and is ended once. None is left open when
the connection is closed, and nothing is sent after that. -/
theorem transactions_are_bracketed {σ S : Type} {f : Focus σ (Network (S × List Served))}
    [f.Lawful] (server : Server S) (world : σ) (n : Network (S × List Served)) (watched : Bool)
    (calls : List Call) :
    let (i, start) := n.addSession watched
    ∃ notes n', Does (observe server f i calls) (f.set start world) notes (f.set n' world) ∧
      notes.map Note.call = calls ∧
      n'.sent.map Sent.request =
        n.sent.map Sent.request ++ (notes.flatMap Note.served).map Served.request ∧
      (∀ front m back, notes = front ++ m :: back →
        m.Bracketed (front.flatMap Note.served) ∧
          ((∃ p ∈ front, p.call = .close) → m.served = [])) ∧
      ∀ front x mid y back, notes.flatMap Note.served = front ++ x :: mid ++ y :: back →
        x.begins = true → y.begins = true → (∀ z ∈ mid, z.begins = false) →
        (mid.filter Served.ends).length = 1 := by
  have hs : (n.addSession watched).2.sessions[n.sessions.length]? = some (.fresh watched) :=
    List.getElem?_concat_length
  have hsound : Sound [] (Session.fresh watched) :=
    ⟨⟨nofun, fun h => absurd h not_within_nil⟩, fun _ => rfl, fun _ => rfl⟩
  obtain ⟨notes, n', hobserve, hcalls, hcourse, hsent⟩ :=
    observe_course (f := f) server world hs rfl calls
  refine ⟨notes, n', hobserve, hcalls, hsent, fun front m back hcut => ⟨?_, fun hclose => ?_⟩, ?_⟩
  · exact hcourse.bracketed hsound hcut
  · exact hcourse.silent hcut (.inr hclose)
  · intro front x mid y back hcut hx hy hmid
    have hfollows := hcourse.follows hsound
    rw [hcut] at hfollows
    exact hfollows.ends_once hx hy hmid

/-- A server that refuses the first BEGIN, a row of a batch, a COMMIT and the ROLLBACK of a
connection that is closed in a transaction. -/
theorem transactions_are_bracketed_refused :
    let answer : StateM (List Bool) (Except String Outcome) := fun s =>
      (.ok ⟨[], if s.headD false then .ok "DONE" else .error "refused"⟩, s.tail)
    let server : Server (List Bool) := ⟨fun _ => "", fun _ _ _ => .ok (),
      fun _ => pure (.ok .accepted), fun _ => answer, fun _ => pure (.ok ⟨[], []⟩),
      fun _ _ => answer⟩
    let n : Network (List Bool × List Served) := .start
      ([false, true, true, true, false, false, true, true, true, true, true, false], [])
    let calls : List Call := [.setAutoCommit false, .execute "W" [], .execute "W" [],
      .executeBatch ⟨"W", [], []⟩ [[], []], .commit, .query "R" [], .setAutoCommit true,
      .setAutoCommit false, .execute "W" [], .close, .execute "W" []]
    let command : String → Bool → Served := fun sql => Served.mk (.query sql)
    let prepared : String → Served := fun sql => ⟨.prepare sql, true⟩
    let executed : String → Bool → Served := fun sql => Served.mk (.execute sql [])
    ∃ notes n', Does (observe server .self 0 calls) (n.addSession false).2 notes n' ∧
      (∀ front m back, notes = front ++ m :: back → m.Bracketed (front.flatMap Note.served)) ∧
      notes.map Note.served = [[], [command "BEGIN" false],
        [command "BEGIN" true, prepared "W", executed "W" true],
        [executed "W" true, executed "W" false], [command "COMMIT" false],
        [command "BEGIN" true, prepared "R", executed "R" true], [command "COMMIT" true], [],
        [command "BEGIN" true, prepared "W", executed "W" true], [command "ROLLBACK" false],
        []] := by
  intro answer server n calls command prepared executed
  have hserved : ((observe server .self 0 calls).run ⟨(n.addSession false).2, #[]⟩).1.map
      Note.served = [[], [command "BEGIN" false],
        [command "BEGIN" true, prepared "W", executed "W" true],
        [executed "W" true, executed "W" false], [command "COMMIT" false],
        [command "BEGIN" true, prepared "R", executed "R" true], [command "COMMIT" true], [],
        [command "BEGIN" true, prepared "W", executed "W" true], [command "ROLLBACK" false],
        []] := by
    decide +kernel
  obtain ⟨notes, n', hobserve, _, _, hall, _⟩ :=
    transactions_are_bracketed (f := .self) server n n false calls
  have hrun : Does (observe server .self 0 calls) (n.addSession false).2 notes n' := hobserve
  rw [(hrun.run #[]).1] at hserved
  exact ⟨notes, n', hrun, fun front m back hcut => (hall front m back hcut).1, hserved⟩

end BatchSql.Postgres
