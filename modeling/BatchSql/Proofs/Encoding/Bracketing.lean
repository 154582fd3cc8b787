import Mathlib.Data.List.Forall2
import Mathlib.Logic.ExistsUnique
import BatchSql.Codec.Json
import BatchSql.Proofs.Encoding.Buffered

namespace BatchSql

open Buffered

namespace Codec

variable {α : Type}

/-- A value is written by these octets, whatever the buffer holds before them. -/
def Spells (c : Codec α) (context : Context) (a : α) (bs : Octets) : Prop :=
  ∀ b, (c.encode context a).run.run b = (.ok (), b ++ bs)

/-- A value is not written, and the buffer is left as it was. -/
def Refuses (c : Codec α) (context : Context) (a : α) (e : Error) : Prop :=
  ∀ b, (c.encode context a).run.run b = (.error e, b)

/-- A codec that writes all of a value behind what is in the buffer, or nothing. -/
def Orderly (c : Codec α) : Prop :=
  ∀ context a, (∃ bs, c.Spells context a bs) ∨ ∃ e, c.Refuses context a e

/-- The codecs that are not put together from others. -/
inductive Basic : {α : Type} → Codec α → Prop where
  | int64 : Basic int64
  | varUInt64 : Basic varUInt64
  | string : Basic string
  | bytes : Basic bytes
  | json {α : Type} (form : JsonForm α) : Basic (json form)

theorem Basic.orderly {c : Codec α} (h : c.Basic) : c.Orderly := by
  intro context a
  cases h with
  | int64 => exact .inl ⟨_, run_put _⟩
  | varUInt64 => exact .inl ⟨_, run_put _⟩
  | string => exact .inl ⟨_, run_putFrame context _⟩
  | bytes => exact .inl ⟨_, run_putFrame context _⟩
  | json form =>
    cases htext : form.text a with
    | error e =>
      refine .inr ⟨e, fun b => ?_⟩
      change (ofExcept (form.text a) >>= _).run.run b = _
      rw [htext]
      rfl
    | ok text =>
      refine .inl ⟨framed context (Utf8.encode text), fun b => ?_⟩
      change (ofExcept (form.text a) >>= _).run.run b = _
      rw [htext]
      exact run_putFrame context _ b

end Codec

/-- The context of a value that these others follow: only the last one stands where all of them
stand. -/
def Context.before {γ : Type _} (context : Context) : List γ → Context
  | [] => context
  | _ :: _ => .nested

/-- A codec of some type. -/
structure LeafCodec where
  carrier : Type
  codec : Codec carrier

/-- A value with the codec that it is written by. -/
structure Leaf extends LeafCodec where
  value : carrier

namespace Leaf

/-- Values are written one after the other. -/
def writeAll (context : Context) : List Leaf → Buffered Unit
  | [] => pure ()
  | l :: rest => do
    l.codec.encode (context.before rest) l.value
    writeAll context rest

theorem writeAll_append (context : Context) (front : List Leaf) {back : List Leaf}
    (h : back ≠ []) :
    writeAll context (front ++ back) = (do
      writeAll .nested front
      writeAll context back) := by
  obtain ⟨next, back, rfl⟩ := List.exists_cons_of_ne_nil h
  induction front with
  | nil => rw [List.nil_append, writeAll.eq_1, pure_bind]
  | cons l rest ih =>
    have hcontext : context.before (rest ++ next :: back) = Context.nested.before rest := by
      cases rest with
      | nil => rfl
      | cons m ms => rfl
    rw [List.cons_append, writeAll, writeAll, ih, hcontext, bind_assoc]

/-- What it comes to that values are written: all of them are, each but the last so that its end
shows, or those are that come before the first that is refused. -/
inductive Spelt (context : Context) : List Leaf → Except Error Unit → Octets → Prop where
  | all {leaves : List Leaf} {last : Leaf} {octets : List Octets} {bs : Octets}
      (spelt : List.Forall₂ (fun l => l.codec.Spells .nested l.value) leaves octets)
      (ends : last.codec.Spells context last.value bs) :
      Spelt context (leaves ++ [last]) (.ok ()) (octets.flatten ++ bs)
  | upTo {front back : List Leaf} {bad : Leaf} {octets : List Octets} {e : Error}
      (spelt : List.Forall₂ (fun l => l.codec.Spells .nested l.value) front octets)
      (refused : bad.codec.Refuses (context.before back) bad.value e) :
      Spelt context (front ++ bad :: back) (.error e) octets.flatten

theorem Spelt.cons {context : Context} {l : Leaf} {leaves : List Leaf} {r : Except Error Unit}
    {bs more : Octets} (hl : l.codec.Spells .nested l.value bs) (h : Spelt context leaves r more) :
    Spelt context (l :: leaves) r (bs ++ more) := by
  cases h with
  | all hspelt hends =>
    rw [← List.append_assoc, ← List.cons_append]
    exact .all (.cons hl hspelt) hends
  | upTo hspelt hrefused =>
    rw [← List.cons_append]
    exact .upTo (.cons hl hspelt) hrefused

theorem writeAll_spelt (context : Context) {leaves : List Leaf}
    (h : ∀ l ∈ leaves, l.codec.Orderly) (hne : leaves ≠ []) :
    ∃ r bs, Spelt context leaves r bs ∧
      ∀ b, (writeAll context leaves).run.run b = (r, b ++ bs) := by
  induction leaves with
  | nil => exact absurd rfl hne
  | cons l rest ih =>
    rw [List.forall_mem_cons] at h
    rcases h.1 (context.before rest) l.value with ⟨bs, hspells⟩ | ⟨e, hrefuses⟩
    · cases rest with
      | nil =>
        refine ⟨.ok (), bs, .all .nil hspells, fun b => ?_⟩
        rw [writeAll, run_bind_ok (hspells b)]
        rfl
      | cons m ms =>
        obtain ⟨r, more, hspelt, hrun⟩ := ih h.2 (List.cons_ne_nil m ms)
        refine ⟨r, bs ++ more, .cons hspells hspelt, fun b => ?_⟩
        rw [writeAll, run_bind_ok (hspells b), hrun, List.append_assoc]
    · refine ⟨.error e, [], .upTo .nil hrefuses, fun b => ?_⟩
      rw [writeAll, run_bind_error (hrefuses b), List.append_nil]

/-- Reads values from the front of a buffer. -/
abbrev Reader := Octets → Except Error (List Leaf) × Octets

/-- Reads with one reader and then, if that has not failed, with another. -/
def Reader.append (front back : Reader) : Reader := fun b =>
  match front b with
  | (.error e, rest) => (.error e, rest)
  | (.ok leaves, rest) =>
    match back rest with
    | (.error e, rest) => (.error e, rest)
    | (.ok more, rest) => (.ok (leaves ++ more), rest)

theorem Reader.append_assoc (first second third : Reader) :
    (first.append second).append third = first.append (second.append third) := by
  funext b
  simp only [append]
  rcases first b with ⟨_ | _, rest⟩
  · rfl
  · dsimp only
    rcases second rest with ⟨_ | _, rest⟩
    · rfl
    · dsimp only
      rcases third rest with ⟨_ | _, rest⟩
      · rfl
      · simp only [List.append_assoc]

theorem Reader.append_nothing (r : Reader) : (r.append fun b => (.ok [], b)) = r := by
  funext b
  simp only [append]
  rcases r b with ⟨_ | _, rest⟩
  · rfl
  · simp only [List.append_nil]

end Leaf

/-- Reads one value. -/
def LeafCodec.read (c : LeafCodec) (context : Context) : Leaf.Reader := fun b =>
  ((c.codec.decode context).run.run b).map (Except.map fun a => [⟨c, a⟩]) id

/-- Reads values one after the other. -/
def Leaf.readAll (context : Context) : List LeafCodec → Leaf.Reader
  | [] => fun b => (.ok [], b)
  | c :: rest => (c.read (context.before rest)).append (readAll context rest)

theorem Leaf.readAll_append (context : Context) (front : List LeafCodec) {back : List LeafCodec}
    (h : back ≠ []) :
    readAll context (front ++ back) = (readAll .nested front).append (readAll context back) := by
  obtain ⟨next, back, rfl⟩ := List.exists_cons_of_ne_nil h
  induction front with
  | nil =>
    funext b
    rw [List.nil_append, readAll.eq_1]
    simp only [Reader.append, List.nil_append]
    rcases readAll context (next :: back) b with ⟨_ | _, rest⟩
    · rfl
    · rfl
  | cons c rest ih =>
    have hcontext : context.before (rest ++ next :: back) = Context.nested.before rest := by
      cases rest with
      | nil => rfl
      | cons d ds => rfl
    rw [List.cons_append, readAll, readAll, ih, hcontext, Reader.append_assoc]

/-- Codecs joined by pairs, in some bracketing. -/
inductive Bracketing : Type → Type 1 where
  | leaf {α : Type} (c : Codec α) : Bracketing α
  | pair {ε ρ : Type} (element : Bracketing ε) (restriction : Bracketing ρ) :
      Bracketing (Restricted ε ρ)

namespace Bracketing

/-- The codec of the whole. -/
def codec : {α : Type} → Bracketing α → Codec α
  | _, leaf c => c
  | _, pair element restriction => .pair element.codec restriction.codec

/-- The codecs that are joined, from left to right. -/
def codecs : {α : Type} → Bracketing α → List LeafCodec
  | _, leaf c => [⟨_, c⟩]
  | _, pair element restriction => element.codecs ++ restriction.codecs

/-- The values in a value, from left to right. -/
def leaves : {α : Type} → Bracketing α → α → List Leaf
  | _, leaf c, a => [⟨⟨_, c⟩, a⟩]
  | _, pair element restriction, p => element.leaves p.element ++ restriction.leaves p.restriction

variable {α β : Type}

theorem codecs_ne_nil (t : Bracketing α) : t.codecs ≠ [] := by
  induction t with
  | leaf c => exact List.cons_ne_nil _ _
  | pair element restriction ihe ihr => exact List.append_ne_nil_of_left_ne_nil ihe _

theorem codecs_leaves (t : Bracketing α) (a : α) :
    (t.leaves a).map Leaf.toLeafCodec = t.codecs := by
  induction t with
  | leaf c => rfl
  | pair element restriction ihe ihr => rw [leaves, codecs, List.map_append, ihe, ihr]

theorem leaves_ne_nil (t : Bracketing α) (a : α) : t.leaves a ≠ [] := by
  intro h
  apply t.codecs_ne_nil
  rw [← t.codecs_leaves a, h]
  rfl

/-- Values of the codecs that are joined are those of exactly one value. -/
theorem existsUnique_leaves (t : Bracketing α) {leaves : List Leaf}
    (h : leaves.map Leaf.toLeafCodec = t.codecs) : ∃! a, t.leaves a = leaves := by
  induction t generalizing leaves with
  | leaf c =>
    obtain ⟨⟨_, a⟩, rfl, rfl⟩ := List.map_eq_singleton_iff.mp h
    refine ⟨a, rfl, fun b hb => ?_⟩
    cases hb
    rfl
  | pair element restriction ihe ihr =>
    obtain ⟨front, back, rfl, hfront, hback⟩ := List.map_eq_append_iff.mp h
    obtain ⟨e, he, hfirst⟩ := ihe hfront
    obtain ⟨r, hr, hsecond⟩ := ihr hback
    refine ⟨⟨e, r⟩, congrArg₂ (· ++ ·) he hr, fun p hp => ?_⟩
    have hlength : (element.leaves p.element).length = front.length := by
      rw [← List.length_map Leaf.toLeafCodec, codecs_leaves, ← hfront, List.length_map]
    obtain ⟨hpe, hpr⟩ := List.append_inj hp hlength
    obtain ⟨pe, pr⟩ := p
    rw [hfirst pe hpe, hsecond pr hpr]

/-- What is written depends on the values in a value alone. -/
theorem encode_eq_writeAll (t : Bracketing α) (context : Context) (a : α) :
    t.codec.encode context a = Leaf.writeAll context (t.leaves a) := by
  induction t generalizing context with
  | leaf c =>
    change c.encode context a = (do c.encode context a; pure ())
    rw [bind_pure_unit]
  | pair element restriction ihe ihr =>
    rw [leaves, Leaf.writeAll_append context _ (restriction.leaves_ne_nil _), ← ihe, ← ihr]
    rfl

/-- Reads the values in a value. -/
def read (t : Bracketing α) (context : Context) : Leaf.Reader := fun b =>
  ((t.codec.decode context).run.run b).map (Except.map t.leaves) id

theorem read_pair {ε ρ : Type} (element : Bracketing ε) (restriction : Bracketing ρ)
    (context : Context) :
    (pair element restriction).read context =
      (element.read .nested).append (restriction.read context) := by
  funext b
  simp only [read, Leaf.Reader.append]
  change ((element.codec.decode .nested >>= _).run.run b).map _ id = _
  rcases he : (element.codec.decode .nested).run.run b with ⟨_ | e, rest⟩
  · rw [run_bind_error he]
    rfl
  · rw [run_bind_ok he]
    rcases hr : (restriction.codec.decode context).run.run rest with ⟨_ | r, rest'⟩
    · rw [run_bind_error hr]
      simp only [Prod.map, Except.map, id, hr]
    · rw [run_bind_ok hr]
      simp only [Prod.map, Except.map, id, hr]
      rfl

/-- What is read depends on the codecs that are joined alone. -/
theorem read_eq_readAll (t : Bracketing α) (context : Context) :
    t.read context = Leaf.readAll context t.codecs := by
  induction t generalizing context with
  | leaf c => exact (Leaf.Reader.append_nothing _).symm
  | pair element restriction ihe ihr =>
    rw [read_pair, codecs, Leaf.readAll_append context _ restriction.codecs_ne_nil, ihe, ihr]

/-- What is read in two bracketings of the same codecs is the same, or fails in the same way. -/
theorem decodes_alike {t : Bracketing α} {t' : Bracketing β} (h : t.codecs = t'.codecs)
    (context : Context) (b : Octets) :
    ∃ rest, (∃ a a', t.leaves a = t'.leaves a' ∧
        (t.codec.decode context).run.run b = (.ok a, rest) ∧
        (t'.codec.decode context).run.run b = (.ok a', rest)) ∨
      ∃ e, (t.codec.decode context).run.run b = (.error e, rest) ∧
        (t'.codec.decode context).run.run b = (.error e, rest) := by
  have hread : t.read context b = t'.read context b := by
    rw [read_eq_readAll, read_eq_readAll, h]
  simp only [read] at hread
  rcases ht : (t.codec.decode context).run.run b with ⟨e | a, rest⟩
  · rcases ht' : (t'.codec.decode context).run.run b with ⟨e' | a', rest'⟩
    · rw [ht, ht'] at hread
      cases hread
      exact ⟨rest, .inr ⟨e, rfl, rfl⟩⟩
    · rw [ht, ht'] at hread
      cases hread
  · rcases ht' : (t'.codec.decode context).run.run b with ⟨e' | a', rest'⟩
    · rw [ht, ht'] at hread
      cases hread
    · rw [ht, ht'] at hread
      obtain ⟨hanswer, rfl⟩ := Prod.mk.inj hread
      exact ⟨rest, .inl ⟨a, a', Except.ok.inj hanswer, rfl, rfl⟩⟩

/-- Codecs that are orderly write what is written of them all in any bracketing. -/
theorem encode_spelt (t : Bracketing α) (h : ∀ c ∈ t.codecs, c.codec.Orderly) (context : Context)
    (a : α) :
    ∃ r bs, Leaf.Spelt context (t.leaves a) r bs ∧
      ∀ b, (t.codec.encode context a).run.run b = (r, b ++ bs) := by
  rw [encode_eq_writeAll]
  refine Leaf.writeAll_spelt context (fun l hl => ?_) (t.leaves_ne_nil a)
  apply h l.toLeafCodec
  rw [← t.codecs_leaves a]
  exact List.mem_map_of_mem hl

end Bracketing

/-- Brackets leave no trace. What is written of a value, and what is read, depends on the codecs
that are joined and on their order, and not on how pairs join them: to every value in one bracketing
there is one in any other of the same codecs; both are written by the same octets, behind what the
buffer held, or fail at the same part of them; and both are read from the same octets, or fail after
the same. -/
theorem brackets_leave_no_trace {α β : Type} {t : Bracketing α} {t' : Bracketing β}
    (h : t.codecs = t'.codecs) :
    (∀ a, ∃! a', t'.leaves a' = t.leaves a) ∧
    (∀ context a a', t'.leaves a' = t.leaves a →
      t'.codec.encode context a' = t.codec.encode context a ∧
      ((∀ c ∈ t.codecs, c.codec.Orderly) → ∃ r bs, Leaf.Spelt context (t.leaves a) r bs ∧
        ∀ b, (t.codec.encode context a).run.run b = (r, b ++ bs) ∧
          (t'.codec.encode context a').run.run b = (r, b ++ bs))) ∧
    (∀ context b, ∃ rest, (∃ a a', t.leaves a = t'.leaves a' ∧
        (t.codec.decode context).run.run b = (.ok a, rest) ∧
        (t'.codec.decode context).run.run b = (.ok a', rest)) ∨
      ∃ e, (t.codec.decode context).run.run b = (.error e, rest) ∧
        (t'.codec.decode context).run.run b = (.error e, rest)) ∧
    ∀ {γ : Type} (c : Codec γ), c.Basic → c.Orderly := by
  refine ⟨fun a => ?_, fun context a a' ha => ?_, Bracketing.decodes_alike h,
    fun c hc => hc.orderly⟩
  · exact t'.existsUnique_leaves ((t.codecs_leaves a).trans h)
  · have hsame : t'.codec.encode context a' = t.codec.encode context a := by
      rw [t'.encode_eq_writeAll, t.encode_eq_writeAll, ha]
    refine ⟨hsame, fun horderly => ?_⟩
    obtain ⟨r, bs, hspelt, hrun⟩ := t.encode_spelt horderly context a
    refine ⟨r, bs, hspelt, fun b => ⟨hrun b, ?_⟩⟩
    rw [hsame]
    exact hrun b

/-- A text, a map that has no form, and a number: only the text is written. -/
theorem brackets_leave_no_trace_refused :
    let t := Bracketing.pair (.pair (.leaf .string) (.leaf (.json .pairMap))) (.leaf .int64)
    let t' := Bracketing.pair (.leaf .string) (.pair (.leaf (.json .pairMap)) (.leaf .int64))
    let pairs : List ((Int64 × Int64) × Int64) := [((1, 2), 3)]
    let a : Restricted (Restricted String (List ((Int64 × Int64) × Int64))) Int64 :=
      ⟨⟨"ab", pairs⟩, 4⟩
    let a' : Restricted String (Restricted (List ((Int64 × Int64) × Int64)) Int64) :=
      ⟨"ab", ⟨pairs, 4⟩⟩
    (t.codecs = t'.codecs ∧ t'.leaves a' = t.leaves a ∧ ∀ c ∈ t.codecs, c.codec.Orderly) ∧
    t'.codec.encode .outer a' = t.codec.encode .outer a ∧
    ∃ r bs, Leaf.Spelt .outer (t.leaves a) r bs ∧
      (∀ b, (t.codec.encode .outer a).run.run b = (r, b ++ bs)) ∧
      r = .error (.encode "key must be a string") ∧ bs = [2, 97, 98] := by
  intro t t' pairs a a'
  have horderly : ∀ c ∈ t.codecs, c.codec.Orderly := by
    intro c hc
    rcases List.mem_cons.mp hc with rfl | hc
    · exact Codec.Basic.string.orderly
    · rcases List.mem_cons.mp hc with rfl | hc
      · exact (Codec.Basic.json .pairMap).orderly
      · obtain rfl := List.mem_singleton.mp hc
        exact Codec.Basic.int64.orderly
  have hlength : Varint.encode 2 = [2] := by rw [Varint.encode]; rfl
  have htext : (Codec.string.encode .nested "ab").run.run [] = (.ok (), [2, 97, 98]) :=
    (Buffered.run_putFrame .nested (Utf8.ofString "ab") []).trans
      (congrArg (fun bs => (Except.ok (), bs ++ [97, 98])) hlength)
  have hseen : (t.codec.encode .outer a).run.run [] =
      (.error (.encode "key must be a string"), [2, 97, 98]) :=
    run_bind_error ((run_bind_ok htext).trans rfl)
  have hcodecs : t.codecs = t'.codecs := rfl
  obtain ⟨hsame, hspelt⟩ := (brackets_leave_no_trace hcodecs).2.1 .outer a a' rfl
  obtain ⟨r, bs, hspelt, hrun⟩ := hspelt horderly
  obtain ⟨hr, hbs⟩ := Prod.mk.inj ((hrun []).1.symm.trans hseen)
  exact ⟨⟨rfl, rfl, horderly⟩, hsame, r, bs, hspelt, fun b => (hrun b).1, hr, hbs⟩

end BatchSql
