import BatchSql.Proofs.InTurn
import BatchSql.Proofs.Read.Barrier

namespace BatchSql

variable {η τ : Type}

/-- Whatever has an encoding is read back from it. -/
def Codec.ReadsBack (c : Codec τ) : Prop :=
  ∀ record bs, c.encodeAlone record = .ok bs → c.decodeAlone bs = .ok record

namespace Host

/-- The host accepts records, one after the other. -/
inductive Takes (host : Host η τ) : Traced η → List τ → Traced η → Prop where
  | nil (t : Traced η) : Takes host t [] t
  | cons {record : τ} {records : List τ} {t t₁ t' : Traced η}
      (accepted : (host.emit record).run.run t = (.ok (), t₁)) (rest : Takes host t₁ records t') :
      Takes host t (record :: records) t'

/-- What the grouping gives back is what it was given, in any order and split into any groups. It
may fail. -/
def Regroups (host : Host η τ) : Prop :=
  ∀ keyed t groups t', (host.group keyed).run.run t = (.ok groups, t') →
    (groups.flatMap Prod.snd).Perm (keyed.map Prod.snd)

/-- A host that accepts everything, and that gives back the records it groups. -/
structure Permuting (host : Host η τ) : Prop where
  group : host.Regroups
  emit : ∀ record t e t', (host.emit record).run.run t ≠ (.error e, t')

/-- Whether the grouping of a host fails depends neither on what it is given nor on the world. -/
def Steady (host : Host η τ) : Prop :=
  (∀ keyed t e t', (host.group keyed).run.run t ≠ (.error e, t')) ∨
    ∀ keyed t groups t', (host.group keyed).run.run t ≠ (.ok groups, t')

end Host

namespace FusionBarrier

/-- What comes of handing encodings to a host: it accepts the records of all of them, or of those
that come before the first that is not decoded or that it refuses. -/
inductive HandsOn (codec : Codec τ) (host : Host η τ) :
    Traced η → List Octets → List τ → Except Error Nat → Traced η → Prop where
  | all {bss : List Octets} {records : List τ} {t t' : Traced η}
      (decoded : bss.map codec.decodeAlone = records.map .ok) (takes : host.Takes t records t') :
      HandsOn codec host t bss records (.ok bss.length) t'
  | undecoded (front : List Octets) {back : List Octets} {bs : Octets} {records : List τ}
      {e : Error} {t t' : Traced η} (decoded : front.map codec.decodeAlone = records.map .ok)
      (takes : host.Takes t records t') (fault : codec.decodeAlone bs = .error e) :
      HandsOn codec host t (front ++ bs :: back) records (.error e) t'
  | refused (front : List Octets) {back : List Octets} {bs : Octets} {records : List τ}
      {record : τ} {e : Error} {t t₁ t' : Traced η}
      (decoded : front.map codec.decodeAlone = records.map .ok) (takes : host.Takes t records t₁)
      (next : codec.decodeAlone bs = .ok record)
      (refusal : (host.emit record).run.run t₁ = (.error e, t')) :
      HandsOn codec host t (front ++ bs :: back) records (.error e) t'

/-- The world in which groups are handed on: it has been noted how many there are. -/
def grouped (b : FusionBarrier τ) (groups : List Group) (t : Traced η) : Traced η :=
  { t with events := t.events.push ⟨.debug, "Flattening fusion barrier",
    [("records", toString b.size), ("groups", toString groups.length)]⟩ }

/-- All that a flush may do: nothing is handed on when the grouping fails, and else what it gives
back, group by group. `taken` are the records that the host accepts. -/
inductive Flushes (b : FusionBarrier τ) (host : Host η τ) (t : Traced η) :
    List τ → Except Error Nat → Traced η → Prop where
  | ungrouped {e : Error} {t' : Traced η}
      (fault : (host.group b.keyed).run.run t = (.error e, t')) : Flushes b host t [] (.error e) t'
  | grouped {groups : List Group} {taken : List τ} {answer : Except Error Nat} {t₁ t' : Traced η}
      (grouping : (host.group b.keyed).run.run t = (.ok groups, t₁))
      (handsOn : HandsOn b.codec host (b.grouped groups t₁) (groups.flatMap Prod.snd) taken answer
        t') : Flushes b host t taken answer t'

/-- A flush hands on exactly what waits, in some order, unless its grouping fails: then it hands
on nothing. -/
inductive AllOrNone (b : FusionBarrier τ) (host : Host η τ) (t : Traced η) (records : List τ) :
    List τ → Except Error Nat → Prop where
  | all {taken : List τ} {groups : List Group} {t₁ : Traced η}
      (grouping : (host.group b.keyed).run.run t = (.ok groups, t₁)) (perm : taken.Perm records) :
      AllOrNone b host t records taken (.ok records.length)
  | none {e : Error} {t₁ : Traced η} (fault : (host.group b.keyed).run.run t = (.error e, t₁)) :
      AllOrNone b host t records [] (.error e)

/-- A barrier with this codec, in which the encodings of these records wait, in their order. -/
structure Carries (b : FusionBarrier τ) (codec : Codec τ) (records : List τ) : Prop where
  encoder : b.codec = codec
  encoded : records.map codec.encodeAlone = (b.keyed.map Prod.snd).map .ok

/-- A call on a barrier. -/
inductive Call (η τ : Type) where
  | emit (record : τ)
  | clear
  | flush (host : Host η τ)

inductive Answer where
  | emitted (answer : Except Error Unit)
  | cleared
  | flushed (answer : Except Error Nat)

def call (b : FusionBarrier τ) : Call η τ → Step η (Answer × FusionBarrier τ)
  | .emit record => pure (.emitted (b.emit record).1, (b.emit record).2)
  | .clear => pure (.cleared, b.clear)
  | .flush host => do
    let (r, b) ← b.flush host
    pure (.flushed r, b)

/-- Calls are made one after the other, whatever they answer. -/
def callAll (b : FusionBarrier τ) (calls : List (Call η τ)) :
    Step η (List Answer × FusionBarrier τ) :=
  Step.inTurn call b calls

/-- A call that was made, with its answer; of a flush also the records that the host accepted. -/
inductive Deed (τ : Type) where
  | emitted (record : τ) (answer : Except Error Unit)
  | cleared
  | flushed (taken : List τ) (answer : Except Error Nat)

namespace Deed

def answer : Deed τ → Answer
  | .emitted _ answer => .emitted answer
  | .cleared => .cleared
  | .flushed _ answer => .flushed answer

/-- The record that came in. -/
def accepted : Deed τ → List τ
  | .emitted record (.ok _) => [record]
  | _ => []

def taken : Deed τ → List τ
  | .flushed taken _ => taken
  | _ => []

/-- What waits after it, of what waited before and came in. -/
def leave (records : List τ) : Deed τ → List τ
  | .emitted record (.ok _) => records ++ [record]
  | .emitted _ (.error _) => records
  | .cleared => []
  | .flushed _ _ => []

/-- What waited before it and is cleared or lost. -/
def drop (records : List τ) : Deed τ → List τ
  | .cleared => records
  | .flushed _ (.error _) => records
  | _ => []

/-- A flush that failed. -/
def fails : Deed τ → Bool
  | .flushed _ (.error _) => true
  | _ => false

/-- The same came in, was dropped and was left waiting. -/
structure Alike (d d₂ : Deed τ) : Prop where
  accepted : d.accepted = d₂.accepted
  drop : ∀ records, d.drop records = d₂.drop records
  leave : ∀ records, d.leave records = d₂.leave records

end Deed

/-- The records that came in since the last flush or clear. -/
def waiting (deeds : List (Deed τ)) : List τ :=
  deeds.foldl Deed.leave []

/-- The records that were cleared or lost to a failed flush. `records` wait at the start. -/
def dropped (records : List τ) : List (Deed τ) → List τ
  | [] => []
  | d :: rest => d.drop records ++ dropped (d.leave records) rest

/-- What a call may do. -/
inductive Happens : FusionBarrier τ → Traced η → Call η τ → Deed τ → FusionBarrier τ →
    Traced η → Prop where
  | emitted (b : FusionBarrier τ) (t : Traced η) (record : τ) :
      Happens b t (.emit record) (.emitted record (b.emit record).1) (b.emit record).2 t
  | cleared (b : FusionBarrier τ) (t : Traced η) : Happens b t .clear .cleared b.clear t
  | flushed {b : FusionBarrier τ} {t t' : Traced η} {host : Host η τ} {taken : List τ}
      {answer : Except Error Nat} (flushes : b.Flushes host t taken answer t') :
      Happens b t (.flush host) (.flushed taken answer) b.clear t'

/-- What calls made one after the other may do. -/
inductive Course : FusionBarrier τ → Traced η → List (Call η τ) → List (Deed τ) →
    FusionBarrier τ → Traced η → Prop where
  | nil (b : FusionBarrier τ) (t : Traced η) : Course b t [] [] b t
  | cons {b b₁ b' : FusionBarrier τ} {t t₁ t' : Traced η} {c : Call η τ} {calls : List (Call η τ)}
      {d : Deed τ} {deeds : List (Deed τ)} (first : Happens b t c d b₁ t₁)
      (rest : Course b₁ t₁ calls deeds b' t') : Course b t (c :: calls) (d :: deeds) b' t'

variable {b b' b₂ b₂' : FusionBarrier τ} {codec : Codec τ} {host : Host η τ} {bs : Octets}
  {bss : List Octets} {records taken : List τ} {record : τ} {answer : Except Error Nat}
  {t t₁ t' t₂ t₂' : Traced η} {c : Call η τ} {calls : List (Call η τ)} {d d₂ : Deed τ}
  {deeds deeds₂ : List (Deed τ)}

section Releasing

/-- What comes first and is accepted is counted, and the rest goes on from there. -/
theorem run_release_append (hdecoded : bss.map codec.decodeAlone = records.map .ok)
    (htakes : host.Takes t records t₁) (n : Nat) (back : List Octets) :
    (release codec host n (bss ++ back)).run.run t =
      (release codec host (n + bss.length) back).run.run t₁ := by
  induction htakes generalizing bss n with
  | nil t =>
    obtain rfl : bss = [] := by simpa using hdecoded
    rfl
  | @cons record records t t₁ t' haccepted hrest ih =>
    obtain ⟨bs, rest, rfl, hbs, hrecords⟩ := List.map_eq_cons_iff.mp hdecoded
    have hfirst := run_ofExcept (codec.decodeAlone bs) t
    rw [hbs] at hfirst
    rw [List.cons_append, release, hbs, run_bind_ok hfirst, run_bind_ok haccepted, ih hrecords,
      List.length_cons, Nat.add_assoc, Nat.add_comm 1]

theorem HandsOn.run (h : HandsOn codec host t bss records answer t') :
    (release codec host 0 bss).run.run t = (answer, t') := by
  cases h with
  | all hdecoded htakes =>
    have hrun := run_release_append hdecoded htakes 0 []
    rw [List.append_nil, Nat.zero_add] at hrun
    exact hrun
  | @undecoded front back bs records e t t' hdecoded htakes hfault =>
    have hnext := run_ofExcept (codec.decodeAlone bs) t'
    rw [hfault] at hnext
    rw [run_release_append hdecoded htakes, release, hfault]
    exact run_bind_error hnext
  | @refused front back bs records record e t t₁ t' hdecoded htakes hnext hrefusal =>
    have hrecord := run_ofExcept (codec.decodeAlone bs) t₁
    rw [hnext] at hrecord
    rw [run_release_append hdecoded htakes, release, hnext, run_bind_ok hrecord]
    exact run_bind_error hrefusal

/-- Another record that the host accepts comes first. -/
theorem HandsOn.cons (h : HandsOn codec host t₁ bss records answer t')
    (hbs : codec.decodeAlone bs = .ok record)
    (haccepted : (host.emit record).run.run t = (.ok (), t₁)) :
    ∃ answer, HandsOn codec host t (bs :: bss) (record :: records) answer t' := by
  have hdecoded : ∀ {front : List Octets} {records : List τ},
      front.map codec.decodeAlone = records.map .ok →
        (bs :: front).map codec.decodeAlone = (record :: records).map .ok := by
    intro front records hfront
    rw [List.map_cons, List.map_cons, hbs, hfront]
  cases h with
  | all hall htakes => exact ⟨_, .all (hdecoded hall) (.cons haccepted htakes)⟩
  | undecoded front hfront htakes hfault =>
    exact ⟨_, .undecoded (bs :: front) (hdecoded hfront) (.cons haccepted htakes) hfault⟩
  | refused front hfront htakes hnext hrefusal =>
    exact ⟨_, .refused (bs :: front) (hdecoded hfront) (.cons haccepted htakes) hnext hrefusal⟩

theorem exists_handsOn (codec : Codec τ) (host : Host η τ) (bss : List Octets) (t : Traced η) :
    ∃ records answer t', HandsOn codec host t bss records answer t' := by
  induction bss generalizing t with
  | nil => exact ⟨[], _, t, .all rfl (.nil t)⟩
  | cons bs rest ih =>
    cases hbs : codec.decodeAlone bs with
    | error e => exact ⟨[], _, t, .undecoded [] rfl (.nil t) hbs⟩
    | ok record =>
      rcases hemit : (host.emit record).run.run t with ⟨e | u, t₁⟩
      · exact ⟨[], _, t₁, .refused [] rfl (.nil t) hbs hemit⟩
      · obtain ⟨records, answer, t', hrest⟩ := ih t₁
        obtain ⟨answer, hall⟩ := hrest.cons hbs hemit
        exact ⟨record :: records, answer, t', hall⟩

/-- Nothing waits in the barrier after a flush, whatever it answers. -/
theorem Flushes.run (h : b.Flushes host t taken answer t') :
    (b.flush host).run t = ((answer, b.clear), t') := by
  rw [flush]
  cases h with
  | ungrouped hfault => exact run_step_bind (run_bind_error hfault)
  | @grouped groups _ _ t₁ _ hgrouping hhands =>
    refine run_step_bind ((run_bind_ok hgrouping).trans ?_)
    exact (run_bind_ok (run_task_log _ _ _ t₁)).trans hhands.run

theorem exists_flushes (b : FusionBarrier τ) (host : Host η τ) (t : Traced η) :
    ∃ taken answer t', b.Flushes host t taken answer t' := by
  rcases hgroup : (host.group b.keyed).run.run t with ⟨e | groups, t₁⟩
  · exact ⟨[], _, t₁, .ungrouped hgroup⟩
  · obtain ⟨taken, answer, t', hhands⟩ := exists_handsOn b.codec host
      (groups.flatMap Prod.snd) (b.grouped groups t₁)
    exact ⟨taken, answer, t', .grouped hgroup hhands⟩

end Releasing

section Running

theorem Happens.run (h : Happens b t c d b' t') : (b.call c).run t = ((d.answer, b'), t') := by
  cases h with
  | emitted record => rfl
  | cleared => rfl
  | flushed hflushes => exact run_step_bind hflushes.run

theorem exists_happens (b : FusionBarrier τ) (c : Call η τ) (t : Traced η) :
    ∃ d b' t', Happens b t c d b' t' := by
  cases c with
  | emit record => exact ⟨_, _, t, .emitted b t record⟩
  | clear => exact ⟨_, _, t, .cleared b t⟩
  | flush host =>
    obtain ⟨taken, answer, t', hflushes⟩ := exists_flushes b host t
    exact ⟨_, _, t', .flushed hflushes⟩

/-- Calls do what their course says. -/
theorem Course.run (h : Course b t calls deeds b' t') :
    (b.callAll calls).run t = ((deeds.map Deed.answer, b'), t') := by
  induction h with
  | nil b t => rfl
  | cons hfirst hrest ih => exact (run_step_bind hfirst.run).trans (run_step_bind ih)

theorem exists_course (b : FusionBarrier τ) (calls : List (Call η τ)) (t : Traced η) :
    ∃ deeds b' t', Course b t calls deeds b' t' := by
  induction calls generalizing b t with
  | nil => exact ⟨[], b, t, .nil b t⟩
  | cons c rest ih =>
    obtain ⟨d, b₁, t₁, hfirst⟩ := exists_happens b c t
    obtain ⟨deeds, b', t', hrest⟩ := ih b₁ t₁
    exact ⟨d :: deeds, b', t', .cons hfirst hrest⟩

/-- A course at one of its calls. -/
theorem Course.at {before after : List (Call η τ)}
    (h : Course b t (before ++ c :: after) deeds b' t') :
    ∃ earlier b₁ t₁ d b₂ t₂ later, deeds = earlier ++ d :: later ∧
      Course b t before earlier b₁ t₁ ∧ Happens b₁ t₁ c d b₂ t₂ ∧
      Course b₂ t₂ after later b' t' := by
  induction before generalizing b t deeds with
  | nil =>
    cases h with
    | cons hfirst hrest => exact ⟨[], b, t, _, _, _, _, rfl, .nil b t, hfirst, hrest⟩
  | cons c₁ before ih =>
    cases h with
    | @cons _ _ _ _ _ _ _ _ d₁ _ hfirst hrest =>
      obtain ⟨earlier, b₁, t₁, d, b₂, t₂, later, rfl, hearlier, hd, hlater⟩ := ih hrest
      exact ⟨d₁ :: earlier, b₁, t₁, d, b₂, t₂, later, rfl, .cons hfirst hearlier, hd, hlater⟩

end Running

section Carrying

theorem carries_create (codec : Codec τ) (keys : Nat → UInt32) :
    (create codec keys).Carries codec [] :=
  ⟨rfl, rfl⟩

theorem Carries.clear (h : b.Carries codec records) : b.clear.Carries codec [] :=
  ⟨h.encoder, rfl⟩

theorem Carries.holds (h : b.Carries codec records) (hc : codec.ReadsBack) : b.Holds records := by
  obtain ⟨rfl, hencoded⟩ := h
  rw [Holds]
  generalize b.keyed.map Prod.snd = bss at hencoded
  induction records generalizing bss with
  | nil =>
    obtain rfl : bss = [] := by simpa using hencoded.symm
    rfl
  | cons record records ih =>
    obtain ⟨bs, rest, rfl, hbs, hrest⟩ := List.map_eq_cons_iff.mp hencoded.symm
    rw [List.map_cons, List.map_cons, hc record bs hbs.symm, ih rest hrest.symm]

theorem emit_answer (b : FusionBarrier τ) (record : τ) :
    (b.emit record).1 = (b.codec.encodeAlone record).map fun _ => () := by
  cases hbs : b.codec.encodeAlone record with
  | error e =>
    rw [emit_error hbs]
    rfl
  | ok bs =>
    rw [emit_ok hbs]
    rfl

/-- A call leaves waiting what its deed says. -/
theorem Happens.carries (h : Happens b t c d b' t') (hb : b.Carries codec records) :
    b'.Carries codec (d.leave records) := by
  cases h with
  | emitted record =>
    obtain ⟨rfl, hencoded⟩ := hb
    cases hbs : b.codec.encodeAlone record with
    | error e =>
      rw [emit_error hbs]
      exact ⟨rfl, hencoded⟩
    | ok bs =>
      rw [emit_ok hbs]
      refine ⟨rfl, ?_⟩
      simp only [Deed.leave, taking, List.map_append, hencoded]
      simp [hbs]
  | cleared => exact hb.clear
  | flushed hflushes => exact hb.clear

theorem Course.carries (h : Course b t calls deeds b' t') (hb : b.Carries codec records) :
    b'.Carries codec (deeds.foldl Deed.leave records) := by
  induction h generalizing records with
  | nil b t => exact hb
  | cons hfirst hrest ih => exact ih (hfirst.carries hb)

end Carrying

section Conservation
open scoped List

theorem Flushes.allOrNone (h : b.Flushes host t taken answer t') (hb : b.Carries codec records)
    (hc : codec.ReadsBack) (hh : host.Permuting) : b.AllOrNone host t records taken answer := by
  have hholds := hb.holds hc
  obtain ⟨rfl, -⟩ := hb
  cases h with
  | ungrouped hfault => exact .none hfault
  | @grouped groups _ _ t₁ _ hgrouping hhands =>
    have hdecoded := (hh.group _ _ _ _ hgrouping).map b.codec.decodeAlone
    rw [hholds] at hdecoded
    obtain ⟨out, hout, hperm⟩ := records_perm hdecoded
    -- All that comes back is decoded and accepted, which leaves only the first case.
    generalize groups.flatMap Prod.snd = bss at hhands hout
    cases hhands with
    | all hall htakes =>
      obtain rfl : out = taken :=
        (List.map_inj_right fun _ _ => Except.ok.inj).mp (hout.symm.trans hall)
      rw [length_of_map_ok hout, hperm.length_eq]
      exact .all hgrouping hperm
    | @undecoded front back bs _ e _ _ hfront htakes hfault =>
      have hmem : b.codec.decodeAlone bs ∈ (front ++ bs :: back).map b.codec.decodeAlone :=
        List.mem_map_of_mem (List.mem_append_right _ List.mem_cons_self)
      rw [hout, hfault] at hmem
      obtain ⟨record, -, he⟩ := List.mem_map.mp hmem
      cases he
    | refused front hfront htakes hnext hrefusal => exact absurd hrefusal (hh.emit _ _ _ _)

/-- One call loses nothing and makes up nothing: what waited and what comes in is handed on,
dropped or left waiting. -/
theorem Happens.conserves (h : Happens b t c d b' t') (hb : b.Carries codec records)
    (hc : codec.ReadsBack) (hh : ∀ host, c = .flush host → host.Permuting) :
    (records ++ d.accepted).Perm (d.taken ++ (d.drop records ++ d.leave records)) := by
  cases h with
  | emitted record =>
    cases (b.emit record).1 with
    | error e => simp [Deed.accepted, Deed.taken, Deed.drop, Deed.leave]
    | ok u => exact List.Perm.refl _
  | cleared => exact List.Perm.refl _
  | flushed hflushes =>
    cases hflushes.allOrNone hb hc (hh _ rfl) with
    | all hgrouping hperm =>
      simpa [Deed.accepted, Deed.taken, Deed.drop, Deed.leave] using hperm.symm
    | none hfault => exact List.Perm.refl _

/-- No sequence of calls loses or makes up anything. -/
theorem Course.conserves (h : Course b t calls deeds b' t') (hb : b.Carries codec records)
    (hc : codec.ReadsBack) (hh : ∀ host, .flush host ∈ calls → host.Permuting) :
    (records ++ deeds.flatMap Deed.accepted).Perm
      (deeds.flatMap Deed.taken ++ (dropped records deeds ++ deeds.foldl Deed.leave records)) := by
  induction h generalizing records with
  | nil b t => simp [dropped]
  | @cons b b₁ b' t t₁ t' c calls d deeds hfirst hrest ih =>
    have hstep := hfirst.conserves hb hc fun host hcall =>
      hh host (hcall ▸ List.mem_cons_self)
    have hrun := ih (hfirst.carries hb) fun host hm => hh host (List.mem_cons_of_mem _ hm)
    rw [List.flatMap_cons, List.flatMap_cons, List.foldl_cons, dropped]
    -- What the first call leaves waiting goes into the rest of the calls with what comes in then.
    generalize deeds.foldl Deed.leave (d.leave records) = left at hrun ⊢
    generalize dropped (d.leave records) deeds = lost at hrun ⊢
    generalize deeds.flatMap Deed.accepted = came at hrun ⊢
    generalize deeds.flatMap Deed.taken = went at hrun ⊢
    calc
      _ = (records ++ d.accepted) ++ came := (List.append_assoc _ _ _).symm
      _ ~ (d.taken ++ (d.drop records ++ d.leave records)) ++ came := hstep.append_right came
      _ = d.taken ++ (d.drop records ++ (d.leave records ++ came)) := by
        rw [List.append_assoc, List.append_assoc]
      _ ~ d.taken ++ (d.drop records ++ (went ++ (lost ++ left))) :=
        (hrun.append_left _).append_left _
      _ ~ d.taken ++ (went ++ (d.drop records ++ (lost ++ left))) :=
        (List.perm_append_comm_assoc _ _ _).append_left _
      _ = (d.taken ++ went) ++ ((d.drop records ++ lost) ++ left) := by
        rw [List.append_assoc, List.append_assoc]

end Conservation

section Seeds

/-- A call does alike in two barriers with the same codec, if a flush fails in both or in none:
the key of a record plays no part. -/
theorem Happens.alike (h : Happens b t c d b' t') (h₂ : Happens b₂ t₂ c d₂ b₂' t₂')
    (hcodec : b.codec = b₂.codec) (hfails : d.fails = d₂.fails) : d.Alike d₂ := by
  cases h with
  | emitted record =>
    cases h₂ with
    | emitted =>
      rw [emit_answer, emit_answer, hcodec]
      exact ⟨rfl, fun _ => rfl, fun _ => rfl⟩
  | cleared =>
    cases h₂ with
    | cleared => exact ⟨rfl, fun _ => rfl, fun _ => rfl⟩
  | @flushed _ _ taken answer hflushes =>
    cases h₂ with
    | @flushed _ _ taken₂ answer₂ hflushes₂ =>
      cases answer with
      | ok n =>
        cases answer₂ with
        | ok n₂ => exact ⟨rfl, fun _ => rfl, fun _ => rfl⟩
        | error e₂ => cases hfails
      | error e =>
        cases answer₂ with
        | ok n₂ => cases hfails
        | error e₂ => exact ⟨rfl, fun _ => rfl, fun _ => rfl⟩

/-- A steady host does not group once and fail to group another time. -/
theorem AllOrNone.fails_eq {records₂ taken₂ : List τ} {answer₂ : Except Error Nat}
    (h : b.AllOrNone host t records taken answer)
    (h₂ : b₂.AllOrNone host t₂ records₂ taken₂ answer₂) (hs : host.Steady) :
    (Deed.flushed taken answer).fails = (Deed.flushed taken₂ answer₂).fails := by
  rcases hs with hnever | halways
  · cases h with
    | none hfault => exact absurd hfault (hnever _ _ _ _)
    | all =>
      cases h₂ with
      | none hfault₂ => exact absurd hfault₂ (hnever _ _ _ _)
      | all => rfl
  · cases h with
    | all hgrouping => exact absurd hgrouping (halways _ _ _ _)
    | none =>
      cases h₂ with
      | all hgrouping₂ => exact absurd hgrouping₂ (halways _ _ _ _)
      | none => rfl

theorem Happens.fails_eq (h : Happens b t c d b' t') (h₂ : Happens b₂ t₂ c d₂ b₂' t₂')
    (hb : b.Carries codec records) (hb₂ : b₂.Carries codec records) (hc : codec.ReadsBack)
    (hh : ∀ host, c = .flush host → host.Permuting ∧ host.Steady) : d.fails = d₂.fails := by
  cases h with
  | emitted record =>
    cases h₂ with
    | emitted => rfl
  | cleared =>
    cases h₂ with
    | cleared => rfl
  | flushed hflushes =>
    cases h₂ with
    | flushed hflushes₂ =>
      obtain ⟨hperm, hsteady⟩ := hh _ rfl
      exact (hflushes.allOrNone hb hc hperm).fails_eq (hflushes₂.allOrNone hb₂ hc hperm) hsteady

/-- Calls do alike in two barriers in which the same waits, if the same flushes fail. -/
theorem Course.alike (h : Course b t calls deeds b' t') (h₂ : Course b₂ t₂ calls deeds₂ b₂' t₂')
    (hb : b.Carries codec records) (hb₂ : b₂.Carries codec records)
    (hfails : deeds.map Deed.fails = deeds₂.map Deed.fails) :
    deeds.flatMap Deed.accepted = deeds₂.flatMap Deed.accepted ∧
      dropped records deeds = dropped records deeds₂ ∧
      deeds.foldl Deed.leave records = deeds₂.foldl Deed.leave records := by
  induction h generalizing b₂ t₂ records deeds₂ with
  | nil b t =>
    cases h₂ with
    | nil => exact ⟨rfl, rfl, rfl⟩
  | cons hfirst hrest ih =>
    cases h₂ with
    | cons hfirst₂ hrest₂ =>
      rw [List.map_cons, List.map_cons, List.cons.injEq] at hfails
      have halike := hfirst.alike hfirst₂ (hb.encoder.trans hb₂.encoder.symm) hfails.1
      have hcarries₂ := hfirst₂.carries hb₂
      rw [← halike.leave records] at hcarries₂
      obtain ⟨haccepted, hdropped, hleft⟩ := ih hrest₂ (hfirst.carries hb) hcarries₂ hfails.2
      refine ⟨?_, ?_, ?_⟩
      · rw [List.flatMap_cons, List.flatMap_cons, halike.accepted, haccepted]
      · rw [dropped, dropped, halike.drop, hdropped, halike.leave]
      · rw [List.foldl_cons, List.foldl_cons, hleft, halike.leave]

theorem Course.fails_eq (h : Course b t calls deeds b' t')
    (h₂ : Course b₂ t₂ calls deeds₂ b₂' t₂') (hb : b.Carries codec records)
    (hb₂ : b₂.Carries codec records) (hc : codec.ReadsBack)
    (hh : ∀ host, .flush host ∈ calls → host.Permuting ∧ host.Steady) :
    deeds.map Deed.fails = deeds₂.map Deed.fails := by
  induction h generalizing b₂ t₂ records deeds₂ with
  | nil b t =>
    cases h₂ with
    | nil => rfl
  | cons hfirst hrest ih =>
    cases h₂ with
    | cons hfirst₂ hrest₂ =>
      have hfails := hfirst.fails_eq hfirst₂ hb hb₂ hc fun host hcall =>
        hh host (hcall ▸ List.mem_cons_self)
      have halike := hfirst.alike hfirst₂ (hb.encoder.trans hb₂.encoder.symm) hfails
      have hcarries₂ := hfirst₂.carries hb₂
      rw [← halike.leave records] at hcarries₂
      rw [List.map_cons, List.map_cons, hfails, ih hrest₂ (hfirst.carries hb) hcarries₂
        fun host hm => hh host (List.mem_cons_of_mem _ hm)]

/-- What is handed on is the same for other keys, up to its order. -/
theorem Course.taken_perm (h : Course b t calls deeds b' t')
    (h₂ : Course b₂ t₂ calls deeds₂ b₂' t₂') (hb : b.Carries codec records)
    (hb₂ : b₂.Carries codec records) (hc : codec.ReadsBack)
    (hh : ∀ host, .flush host ∈ calls → host.Permuting)
    (hfails : deeds.map Deed.fails = deeds₂.map Deed.fails) :
    (deeds.flatMap Deed.taken).Perm (deeds₂.flatMap Deed.taken) := by
  -- Both runs share all terms of the sum but what is handed on.
  obtain ⟨haccepted, hdropped, hleft⟩ := h.alike h₂ hb hb₂ hfails
  have hall := h.conserves hb hc hh
  have hall₂ := h₂.conserves hb₂ hc hh
  rw [← haccepted, ← hdropped, ← hleft] at hall₂
  exact (List.perm_append_right_iff _).mp (hall.symm.trans hall₂)

end Seeds

end FusionBarrier

open FusionBarrier

/-- Whatever is called on a barrier, and whatever fails in it: what is given out to be grouped at
a flush are the encodings of the records that came in since the last flush or clear, in their
order; what comes back is handed on group by group, up to the first record that is not decoded or
that the host refuses; and after the flush the barrier is empty. Where the codec reads back what
it writes and the hosts permute, nothing is lost but what was cleared or waited at a failed flush,
nothing is handed on twice, and other keys change only the order. -/
theorem barriers_pass_on_what_came_in (codec : Codec τ) (keys : Nat → UInt32)
    (calls : List (FusionBarrier.Call η τ)) (t : Traced η) :
    ∃ deeds b' t', Course (create codec keys) t calls deeds b' t' ∧
      ((create codec keys).callAll calls).run t = ((deeds.map Deed.answer, b'), t') ∧
      b'.Carries codec (waiting deeds) ∧
      (∀ before host after, calls = before ++ .flush host :: after →
        ∃ earlier b₁ t₁ taken answer t₂ later, deeds = earlier ++ .flushed taken answer :: later ∧
          ((create codec keys).callAll before).run t = ((earlier.map Deed.answer, b₁), t₁) ∧
          b₁.Carries codec (waiting earlier) ∧ b₁.Flushes host t₁ taken answer t₂ ∧
          (b₁.flush host).run t₁ = ((answer, b₁.clear), t₂) ∧ b₁.clear.isEmpty = true ∧
          (codec.ReadsBack → host.Permuting →
            b₁.AllOrNone host t₁ (waiting earlier) taken answer)) ∧
      (codec.ReadsBack → (∀ host, .flush host ∈ calls → host.Permuting) →
        (deeds.flatMap Deed.accepted).Perm
          (deeds.flatMap Deed.taken ++ (dropped [] deeds ++ waiting deeds)) ∧
        ∀ keys₂ t₂ deeds₂ b₂' t₂', Course (create codec keys₂) t₂ calls deeds₂ b₂' t₂' →
          (∀ host, .flush host ∈ calls → host.Steady) ∨
            deeds.map Deed.fails = deeds₂.map Deed.fails →
          (deeds.flatMap Deed.taken).Perm (deeds₂.flatMap Deed.taken)) := by
  obtain ⟨deeds, b', t', hcourse⟩ := exists_course (create codec keys) calls t
  have hnone := carries_create codec keys
  refine ⟨deeds, b', t', hcourse, hcourse.run, hcourse.carries hnone, ?_, ?_⟩
  · rintro before host after rfl
    obtain ⟨earlier, b₁, t₁, d, b₂, t₂, later, rfl, hearlier, hflush, -⟩ := hcourse.at
    cases hflush with
    | @flushed _ _ taken answer hflushes =>
      have hcarries := hearlier.carries hnone
      exact ⟨earlier, b₁, t₁, taken, answer, t₂, later, rfl, hearlier.run, hcarries, hflushes,
        hflushes.run, rfl, hflushes.allOrNone hcarries⟩
  · intro hc hh
    refine ⟨hcourse.conserves hnone hc hh, ?_⟩
    intro keys₂ t₂ deeds₂ b₂' t₂' hcourse₂ hsame
    have hnone₂ := carries_create codec keys₂
    refine hcourse.taken_perm hcourse₂ hnone hnone₂ hc hh ?_
    rcases hsame with hsteady | hfails
    · exact hcourse.fails_eq hcourse₂ hnone hnone₂ hc fun host hm => ⟨hh host hm, hsteady host hm⟩
    · exact hfails

/-- A grouping that fails at one flush and one that turns the records around at the next; what came
in before the first of them is lost. -/
theorem barriers_pass_on_what_came_in_after_failures :
    let grouping (g : List Octets → Except Error (List Octets)) :
        Host (Unit × List Int64) Int64 :=
      .collecting fun keyed => do
        let bss ← Task.ofExcept (g (keyed.map Prod.snd))
        pure [(0, bss)]
    let failing := grouping fun _ => .error (.query "no grouping" none)
    let turned := grouping fun bss => .ok bss.reverse
    let calls : List (FusionBarrier.Call (Unit × List Int64) Int64) :=
      [.emit 3, .flush failing, .emit 4, .emit 5, .flush turned, .emit 6]
    (Codec.int64.ReadsBack ∧ ∀ host, .flush host ∈ calls → host.Permuting ∧ host.Steady) ∧
    ∃ deeds b' t', Course (create .int64 UInt32.ofNat) ⟨((), []), #[]⟩ calls deeds b' t' ∧
      b'.Carries .int64 (waiting deeds) ∧ b'.size = 1 ∧ t'.world.2 = [5, 4] ∧
      (deeds.flatMap Deed.accepted).Perm
        (deeds.flatMap Deed.taken ++ (dropped [] deeds ++ waiting deeds)) ∧
      ∃ deeds₂ b₂' t₂', Course (create .int64 fun n => .ofNat (7 * n)) ⟨((), []), #[]⟩ calls
          deeds₂ b₂' t₂' ∧
        (deeds.flatMap Deed.taken).Perm (deeds₂.flatMap Deed.taken) := by
  intro grouping failing turned calls
  have hc : Codec.int64.ReadsBack := by
    intro record bs hbs
    obtain ⟨bs', hencode, hdecode⟩ := (Codec.int64_round_trips .outer record).alone
    obtain rfl := Except.ok.inj (hencode.symm.trans hbs)
    exact hdecode
  have hfailing : failing.Permuting ∧ failing.Steady := by
    refine ⟨⟨?_, ?_⟩, .inr ?_⟩
    · intro keyed t groups t' h
      cases h
    · intro record t e t' h
      cases h
    · intro keyed t groups t' h
      cases h
  have hturned : turned.Permuting ∧ turned.Steady := by
    refine ⟨⟨?_, ?_⟩, .inl ?_⟩
    · intro keyed t groups t' h
      obtain rfl := Except.ok.inj (congrArg Prod.fst h)
      simp
    · intro record t e t' h
      cases h
    · intro keyed t e t' h
      cases h
  have hh : ∀ host, .flush host ∈ calls → host.Permuting ∧ host.Steady := by
    intro host hm
    simp only [calls, List.mem_cons, List.not_mem_nil, or_false, reduceCtorEq, false_or,
      FusionBarrier.Call.flush.injEq] at hm
    rcases hm with rfl | rfl
    · exact hfailing
    · exact hturned
  obtain ⟨deeds, b', t', hcourse, hrun, hcarries, -, hall⟩ :=
    barriers_pass_on_what_came_in .int64 UInt32.ofNat calls ⟨((), []), #[]⟩
  obtain ⟨deeds₂, b₂', t₂', hcourse₂⟩ := exists_course
    (create .int64 fun n => .ofNat (7 * n)) calls ⟨((), []), #[]⟩
  have hseen : (((create .int64 UInt32.ofNat).callAll calls).run ⟨((), []), #[]⟩).1.2.size = 1 ∧
      (((create .int64 UInt32.ofNat).callAll calls).run ⟨((), []), #[]⟩).2.world.2 = [5, 4] := by
    decide +kernel
  rw [hrun] at hseen
  obtain ⟨hperm, hseeds⟩ := hall hc fun host hm => (hh host hm).1
  exact ⟨⟨hc, hh⟩, deeds, b', t', hcourse, hcarries, hseen.1, hseen.2, hperm, deeds₂, b₂', t₂',
    hcourse₂, hseeds _ _ deeds₂ b₂' t₂' hcourse₂ (.inl fun host hm => (hh host hm).2)⟩

end BatchSql
