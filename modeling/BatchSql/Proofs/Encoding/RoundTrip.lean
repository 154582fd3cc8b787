import BatchSql.Codec.Layout
import BatchSql.Proofs.Encoding.Buffered
import BatchSql.Proofs.Encoding.Utf8

namespace BatchSql

namespace Codec

variable {α : Type}

/-- A value is written as octets of its own, wherever the buffer stands, and they are read back
as the value whatever the context lets follow. -/
def RoundTrips (c : Codec α) (context : Context) (a : α) : Prop :=
  ∃ bs, (∀ b, (c.encode context a).run.run b = (.ok (), b ++ bs)) ∧
    ∀ rest, context.Allows rest → (c.decode context).run.run (bs ++ rest) = (.ok a, rest)

/-- The encoding of a value that stands alone is read back as the value. -/
def Keeps (c : Codec α) (a : α) : Prop :=
  ∃ bs, c.encodeAlone a = .ok bs ∧ c.decodeAlone bs = .ok a

theorem RoundTrips.alone {c : Codec α} {a : α} (h : c.RoundTrips .outer a) : c.Keeps a := by
  obtain ⟨bs, hwrite, hread⟩ := h
  have hw : (c.encode .outer a).run.run [] = (.ok (), bs) := hwrite []
  have hr : (c.decode .outer).run.run bs = (.ok a, []) := by
    simpa using hread [] rfl
  exact ⟨bs, by simp only [encodeAlone, hw], by simp only [decodeAlone, hr]⟩

theorem int64_round_trips (context : Context) (v : Int64) : int64.RoundTrips context v := by
  refine ⟨Octets.ofInt 8 v.toInt, Buffered.run_put _, fun rest _ => ?_⟩
  have htake := Buffered.run_take (Octets.ofInt 8 v.toInt) rest
  rw [Octets.length_ofInt] at htake
  change (Buffered.take 8 >>= _).run.run _ = _
  rw [run_bind_ok htake, Octets.toInt_ofInt64, Int64.ofInt_toInt]
  rfl

theorem varUInt64_round_trips (context : Context) (v : UInt64) :
    varUInt64.RoundTrips context v := by
  refine ⟨Varint.encode v.toNat, Buffered.run_put _, fun rest _ => ?_⟩
  change (Buffered.varint >>= _).run.run _ = _
  rw [run_bind_ok (Buffered.run_varint v.toNat_lt rest), UInt64.ofNat_toNat]
  rfl

theorem bytes_round_trips (context : Context) {bs : Octets} (h : bs.length < 2 ^ 64) :
    bytes.RoundTrips context bs :=
  ⟨Buffered.framed context bs, Buffered.run_putFrame context bs,
    fun _ hrest => Buffered.run_frame h hrest⟩

theorem string_round_trips (context : Context) {s : String}
    (h : (Utf8.ofString s).length < 2 ^ 64) : string.RoundTrips context s := by
  refine ⟨Buffered.framed context (Utf8.ofString s), Buffered.run_putFrame context _,
    fun rest hrest => ?_⟩
  rw [run_decode_string (Buffered.run_frame h hrest), readText, Utf8.decode_ofString]
  dsimp only
  rw [String.ofList_toList]

/-- The end of the element shows, so the restriction may follow it; what follows the pair
follows the restriction. -/
theorem pair_round_trips {ε ρ : Type} {element : Codec ε} {restriction : Codec ρ}
    {context : Context} {p : Restricted ε ρ} (he : element.RoundTrips .nested p.element)
    (hr : restriction.RoundTrips context p.restriction) :
    (pair element restriction).RoundTrips context p := by
  obtain ⟨es, hewrite, heread⟩ := he
  obtain ⟨rs, hrwrite, hrread⟩ := hr
  refine ⟨es ++ rs, fun b => ?_, fun rest hrest => ?_⟩
  · rw [run_encode_pair (hewrite b), hrwrite, List.append_assoc]
  · rw [List.append_assoc]
    exact run_decode_pair (heread _ trivial) (hrread rest hrest)

end Codec

namespace Layout

/-- Layouts of numbers, texts, strings of octets, and pairs of these. -/
inductive Plain : Layout → Prop where
  | int64 : Plain .int64
  | varUInt64 : Plain .varUInt64
  | string : Plain .string
  | bytes : Plain .bytes
  | pair {a b : Layout} (element : Plain a) (restriction : Plain b) : Plain (.pair a b)

/-- Whatever is framed has a length of 64 bits, as every length has that is held in memory. -/
def Fits : (l : Layout) → l.Carrier → Prop
  | int64, _ => True
  | varUInt64, _ => True
  | string, s => (Utf8.ofString s).length < 2 ^ 64
  | bytes, bs => bs.length < 2 ^ 64
  | json kind, record =>
    ∀ bs, (Codec.json kind.form).encodeAlone record = .ok bs → bs.length < 2 ^ 64
  | pair a b, p => a.Fits p.element ∧ b.Fits p.restriction
  | optionalPair a b, p => ∀ q, p = some q → a.Fits q.element ∧ b.Fits q.restriction

theorem Plain.round_trips {l : Layout} (hl : l.Plain) {record : l.Carrier} (hf : l.Fits record)
    (context : Context) : l.codec.RoundTrips context record := by
  induction hl generalizing context with
  | int64 => exact Codec.int64_round_trips context record
  | varUInt64 => exact Codec.varUInt64_round_trips context record
  | string => exact Codec.string_round_trips context hf
  | bytes => exact Codec.bytes_round_trips context hf
  | pair _ _ ihe ihr => exact Codec.pair_round_trips (ihe hf.1 .nested) (ihr hf.2 context)

end Layout

/-- A record with the layout it is written in and the context of its place. -/
structure Piece where
  layout : Layout
  context : Context
  record : layout.Carrier

namespace Piece

/-- What a reader knows of a piece beforehand. -/
def shape (p : Piece) : Layout × Context :=
  (p.layout, p.context)

def writeAll : List Piece → Buffered Unit
  | [] => pure ()
  | p :: rest => do
    p.layout.codec.encode p.context p.record
    writeAll rest

def readAll : List (Layout × Context) → Buffered (List Piece)
  | [] => pure []
  | (layout, context) :: rest => do
    let record ← layout.codec.decode context
    let pieces ← readAll rest
    pure (⟨layout, context, record⟩ :: pieces)

/-- Pieces that show their ends, the last one apart, are read back in order. -/
theorem readAll_writeAll {pieces : List Piece}
    (hpieces : ∀ p ∈ pieces, p.layout.Plain ∧ p.layout.Fits p.record)
    (hends : ∀ p ∈ pieces.dropLast, p.context = .nested) :
    ∃ bs, (∀ b, (writeAll pieces).run.run b = (.ok (), b ++ bs)) ∧
      (readAll (pieces.map shape)).run.run bs = (.ok pieces, []) := by
  induction pieces with
  | nil =>
    refine ⟨[], fun b => ?_, rfl⟩
    rw [List.append_nil]
    rfl
  | cons p rest ih =>
    obtain ⟨hplain, hfits⟩ := hpieces p List.mem_cons_self
    obtain ⟨bs, hwrite, hread⟩ := hplain.round_trips hfits p.context
    have hrest : ∀ q ∈ rest.dropLast, q.context = .nested := by
      intro q hq
      cases rest with
      | nil => cases hq
      | cons r rs => exact hends q (List.mem_cons_of_mem _ hq)
    obtain ⟨cs, hwrites, hreads⟩ :=
      ih (fun q hq => hpieces q (List.mem_cons_of_mem _ hq)) hrest
    have hallows : p.context.Allows cs := by
      cases rest with
      | nil =>
        have hnil : ((.ok (), []) : Except Error Unit × Octets) = (.ok (), [] ++ cs) := hwrites []
        cases p.context with
        | nested => exact trivial
        | outer => exact (Prod.mk.inj hnil).2.symm
      | cons r rs =>
        rw [hends p List.mem_cons_self]
        exact trivial
    refine ⟨bs ++ cs, fun b => ?_, ?_⟩
    · change (p.layout.codec.encode p.context p.record >>= _).run.run b = _
      rw [run_bind_ok (hwrite b), hwrites, List.append_assoc]
    · change (p.layout.codec.decode p.context >>= _).run.run _ = _
      rw [run_bind_ok (hread cs hallows), run_bind_ok hreads]
      rfl

end Piece

/-- Records of plain layouts come back from what was written of them, alone, before any octets
that follow, and one after the other in one buffer. -/
theorem plain_records_read_back :
    (∀ (l : Layout) (record : l.Carrier), l.Plain → l.Fits record →
      (∃ bs, (∀ b, (l.codec.encode .nested record).run.run b = (.ok (), b ++ bs)) ∧
        ∀ rest, (l.codec.decode .nested).run.run (bs ++ rest) = (.ok record, rest)) ∧
      ∃ bs, l.codec.encodeAlone record = .ok bs ∧ l.codec.decodeAlone bs = .ok record) ∧
    ∀ pieces : List Piece, (∀ p ∈ pieces, p.layout.Plain ∧ p.layout.Fits p.record) →
      (∀ p ∈ pieces.dropLast, p.context = .nested) →
      ∃ bs, (∀ b, (Piece.writeAll pieces).run.run b = (.ok (), b ++ bs)) ∧
        (Piece.readAll (pieces.map Piece.shape)).run.run bs = (.ok pieces, []) := by
  refine ⟨fun l record hl hf => ⟨?_, ?_⟩, fun pieces hp he => Piece.readAll_writeAll hp he⟩
  · obtain ⟨bs, hwrite, hread⟩ := hl.round_trips hf .nested
    exact ⟨bs, hwrite, fun rest => hread rest trivial⟩
  · exact (hl.round_trips hf .outer).alone

/-- A pair of pairs before a text that ends the buffer. -/
theorem plain_records_read_back_mixed :
    let l : Layout := .pair (.pair .string .varUInt64) (.pair .bytes .int64)
    let record : l.Carrier := ⟨⟨"né", 300⟩, ⟨[0, 255], -2⟩⟩
    let pieces : List Piece := [⟨l, .nested, record⟩, ⟨.string, .outer, "end"⟩]
    (l.Plain ∧ l.Fits record ∧ (∀ p ∈ pieces, p.layout.Plain ∧ p.layout.Fits p.record) ∧
      ∀ p ∈ pieces.dropLast, p.context = .nested) ∧
    (∃ bs, l.codec.encodeAlone record = .ok bs ∧ l.codec.decodeAlone bs = .ok record) ∧
    ∃ bs, (∀ b, (Piece.writeAll pieces).run.run b = (.ok (), b ++ bs)) ∧
      (Piece.readAll (pieces.map Piece.shape)).run.run bs = (.ok pieces, []) := by
  intro l record pieces
  have hplain : l.Plain := .pair (.pair .string .varUInt64) (.pair .bytes .int64)
  have hfits : l.Fits record :=
    ⟨⟨(by decide : (Utf8.ofString "né").length < 2 ^ 64), trivial⟩,
      (by decide : ([0, 255] : Octets).length < 2 ^ 64), trivial⟩
  have hpieces : ∀ p ∈ pieces, p.layout.Plain ∧ p.layout.Fits p.record := by
    intro p hp
    rcases List.mem_cons.mp hp with rfl | hp
    · exact ⟨hplain, hfits⟩
    · obtain rfl := List.mem_singleton.mp hp
      refine ⟨.string, ?_⟩
      change (Utf8.ofString "end").length < 2 ^ 64
      decide
  have hends : ∀ p ∈ pieces.dropLast, p.context = .nested := by
    intro p hp
    obtain rfl := List.mem_singleton.mp hp
    rfl
  exact ⟨⟨hplain, hfits, hpieces, hends⟩,
    (plain_records_read_back.1 l record hplain hfits).2,
    plain_records_read_back.2 pieces hpieces hends⟩

end BatchSql
