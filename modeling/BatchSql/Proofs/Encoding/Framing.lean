import BatchSql.Proofs.Encoding.Canonical

namespace BatchSql

open Buffered

namespace Codec

/-- What is made of the octets of a JSON text. -/
def readJson {α : Type} (form : JsonForm α) (bs : Octets) : Except Error α :=
  match (Json.ofOctets? bs).bind form.read with
  | some a => .ok a
  | none => .error (.decode "<json>")

/-- Codecs that read a frame, and what they make of its content. -/
inductive Frames : {α : Type} → Codec α → (Octets → Except Error α) → Prop where
  | bytes : Frames bytes .ok
  | string : Frames string readText
  | json {α : Type} (form : JsonForm α) : Frames (json form) (readJson form)

variable {α : Type} {c : Codec α} {check : Octets → Except Error α}

/-- The content of a frame is looked at when the frame has been read. -/
theorem Frames.decode_eq (h : c.Frames check) (context : Context) :
    c.decode context = frame context >>= fun bs => Buffered.ofExcept (check bs) := by
  cases h with
  | bytes => exact (bind_pure (frame context)).symm
  | string => exact decode_string context
  | json form =>
    change (frame context >>= _) = _
    congr 1
    funext bs
    rw [readJson]
    cases (Json.ofOctets? bs).bind form.read with
    | some a => rfl
    | none => rfl

/-- Framing fails, or it does not and the content decides, and what is left does not depend on
that. -/
theorem Frames.run (h : c.Frames check) {context : Context} {b rest : Octets}
    {r : Except Error Octets} (hframe : (frame context).run.run b = (r, rest)) :
    (c.decode context).run.run b = (r.bind check, rest) := by
  rw [h.decode_eq]
  cases r with
  | error e => exact run_bind_error hframe
  | ok content =>
    rw [run_bind_ok hframe]
    exact Buffered.run_ofExcept (check content) rest

theorem Frames.check_fails (h : c.Frames check) {content : Octets} {e : Error}
    (he : check content = .error e) : ∃ message, e = .decode message := by
  cases h with
  | bytes => cases he
  | string =>
    rw [readText] at he
    split at he
    · cases he
    · cases he
      exact ⟨_, rfl⟩
  | json form =>
    rw [readJson] at he
    split at he
    · cases he
    · cases he
      exact ⟨_, rfl⟩

end Codec

namespace Varint

/-- A number is read from its octets whatever follows them. -/
theorem decode_append {v : Nat} {c : Octets} (h : decode c = (.ok v, [])) (t : Octets) :
    decode (c ++ t) = (.ok v, t) := by
  obtain ⟨c', hc, hreads⟩ := decodeFrom_front h
  rw [List.append_nil] at hc
  rw [hc]
  exact hreads t

end Varint

namespace Buffered

/-- A length that exceeds what is there is taken from the buffer, and nothing else. -/
theorem run_frame_overlong {n : Nat} {number rest : Octets}
    (hn : Varint.decode number = (.ok n, [])) (hlong : rest.length < n) :
    (frame .nested).run.run (number ++ rest) =
      (.error (.decode s!"need {n} bytes, only {rest.length} remaining"), rest) := by
  have hlength : varint.run.run (number ++ rest) = (.ok n, rest) := by
    rw [varint_run]
    exact Varint.decode_append hn rest
  rw [frame, run_bind_ok hlength, take, run_bind_ok run_get, if_pos hlong]
  rfl

theorem run_frame_complete {number content : Octets}
    (hn : Varint.decode number = (.ok content.length, [])) (rest : Octets) :
    (frame .nested).run.run (number ++ content ++ rest) = (.ok content, rest) := by
  have hlength : varint.run.run (number ++ (content ++ rest)) =
      (.ok content.length, content ++ rest) := by
    rw [varint_run]
    exact Varint.decode_append hn _
  rw [List.append_assoc, frame, run_bind_ok hlength, run_take]

end Buffered

/-- A complete frame: its length, in octets of any number, before its content, with the codec that
it is to be read by. -/
structure Frame extends LeafCodec where
  check : Octets → Except Error carrier
  frames : codec.Frames check
  number : Octets
  content : Octets
  length : Varint.decode number = (.ok content.length, [])

namespace Frame

def octets (f : Frame) : Octets :=
  f.number ++ f.content

/-- What is made of the content. -/
def answer (f : Frame) : Except Error Leaf :=
  (f.check f.content).map fun a => ⟨f.toLeafCodec, a⟩

theorem run_octets (f : Frame) (rest : Octets) :
    (f.codec.decode .nested).run.run (f.octets ++ rest) = (f.check f.content, rest) :=
  f.frames.run (run_frame_complete f.length rest)

end Frame

/-- Reads values one after the other, and goes on after those that are not read. -/
def LeafCodec.readEach : List (LeafCodec × Context) → Octets → List (Except Error Leaf) × Octets
  | [], b => ([], b)
  | (c, context) :: coming, b =>
    let (r, rest) := (c.codec.decode context).run.run b
    let (answers, rest) := readEach coming rest
    (r.map (fun a => ⟨c, a⟩) :: answers, rest)

/-- What is in complete frames does not reach what follows them. -/
theorem Frame.readEach_frames (frames : List Frame) (coming : List (LeafCodec × Context))
    (b : Octets) :
    LeafCodec.readEach (frames.map (fun f => (f.toLeafCodec, .nested)) ++ coming)
        (frames.flatMap octets ++ b) =
      (frames.map answer ++ (LeafCodec.readEach coming b).1, (LeafCodec.readEach coming b).2) := by
  induction frames with
  | nil => rfl
  | cons f frames ih =>
    rw [List.flatMap_cons, List.append_assoc, List.map_cons, List.cons_append, LeafCodec.readEach,
      f.run_octets]
    dsimp only
    rw [ih]
    rfl

/-- Framing does not depend on content. Texts and JSON are framed as octets are: where these fail,
they fail alike, and else what is in the frame decides, whatever it is, and leaves the same. A
length that exceeds what is there fails when it has been taken from the buffer. So after complete
frames the rest of a buffer is read as it would be without them, whatever was in them. -/
theorem framing_is_blind_to_content :
    (∀ {α : Type} (c : Codec α) (check : Octets → Except Error α), c.Frames check →
      (∀ context b r rest, (Codec.bytes.decode context).run.run b = (r, rest) →
        (c.decode context).run.run b = (r.bind check, rest)) ∧
      (∀ content e, check content = .error e → ∃ message, e = .decode message) ∧
      ∀ number n rest, Varint.decode number = (.ok n, []) → rest.length < n →
        (c.decode .nested).run.run (number ++ rest) =
          (.error (.decode s!"need {n} bytes, only {rest.length} remaining"), rest)) ∧
    ∀ (frames : List Frame) (coming : List (LeafCodec × Context)) (b : Octets),
      (∀ f ∈ frames, (f.codec.decode .nested).run.run f.octets = (f.check f.content, [])) ∧
      LeafCodec.readEach (frames.map (fun f => (f.toLeafCodec, .nested)) ++ coming)
          (frames.flatMap Frame.octets ++ b) =
        (frames.map Frame.answer ++ (LeafCodec.readEach coming b).1,
          (LeafCodec.readEach coming b).2) := by
  constructor
  · intro α c check hc
    refine ⟨fun context b r rest hframe => hc.run hframe, fun content e => hc.check_fails, ?_⟩
    intro number n rest hn hlong
    exact hc.run (run_frame_overlong hn hlong)
  · intro frames coming b
    refine ⟨fun f _ => ?_, Frame.readEach_frames frames coming b⟩
    have halone := f.run_octets []
    rwa [List.append_nil] at halone

/-- A text that is none, behind a length with an octet more than it needs, and a JSON text that
breaks off, before a number and a text that are read all the same. -/
theorem framing_is_blind_to_content_broken :
    let text : Frame := ⟨⟨String, .string⟩, Codec.readText, .string, [0x82, 0], [0xFF, 0x61], rfl⟩
    let json : Frame := ⟨⟨Bool, .json .bool⟩, Codec.readJson .bool, .json .bool, [2], [0x74, 0x72],
      rfl⟩
    let coming : List (LeafCodec × Context) :=
      [(⟨UInt64, .varUInt64⟩, .nested), (⟨String, .string⟩, .outer)]
    let b : Octets := [0xAC, 2, 0x6F, 0x6B]
    let fault := Error.decode "invalid UTF-8: invalid utf-8 sequence of 1 bytes from index 0"
    (Codec.string.Frames Codec.readText ∧
      (Codec.bytes.decode .nested).run.run (text.octets ++ b) = (.ok text.content, b) ∧
      Codec.readText text.content = .error fault ∧
      Varint.decode [5] = (.ok 5, []) ∧ b.length < 5 ∧ text ∈ [text, json]) ∧
    (Codec.string.decode .nested).run.run (text.octets ++ b) = (.error fault, b) ∧
    (∃ message, fault = .decode message) ∧
    (Codec.string.decode .nested).run.run (5 :: b) =
      (.error (.decode "need 5 bytes, only 4 remaining"), b) ∧
    (Codec.string.decode .nested).run.run text.octets = (.error fault, []) ∧
    LeafCodec.readEach
        ((text.toLeafCodec, .nested) :: (json.toLeafCodec, .nested) :: coming)
        (text.octets ++ json.octets ++ b) =
      ([.error fault, .error (.decode "<json>"), .ok ⟨⟨UInt64, .varUInt64⟩, 300⟩,
        .ok ⟨⟨String, .string⟩, "ok"⟩], []) := by
  intro text json coming b fault
  have hbytes : (Codec.bytes.decode .nested).run.run (text.octets ++ b) = (.ok text.content, b) :=
    run_frame_complete text.length b
  have hfault : Codec.readText text.content = .error fault := by decide +kernel
  have hfive : Varint.decode [5] = (.ok 5, []) := rfl
  have hmessage : s!"need {5} bytes, only {b.length} remaining" =
      "need 5 bytes, only 4 remaining" := by decide +kernel
  obtain ⟨hframed, hdecode, hlong⟩ :=
    framing_is_blind_to_content.1 Codec.string Codec.readText .string
  obtain ⟨halone, hreads⟩ := framing_is_blind_to_content.2 [text, json] coming b
  have htext := hframed .nested _ _ _ hbytes
  change _ = (Codec.readText text.content, b) at htext
  have htext' := halone text List.mem_cons_self
  change _ = (Codec.readText text.content, []) at htext'
  have hjson : json.answer = .error (.decode "<json>") := rfl
  have hanswer : text.answer = .error fault := congrArg (Except.map _) hfault
  have hrest : LeafCodec.readEach coming b =
      ([.ok ⟨⟨UInt64, .varUInt64⟩, 300⟩, .ok ⟨⟨String, .string⟩, "ok"⟩], []) := rfl
  have hanswers : [text, json].map Frame.answer = [.error fault, .error (.decode "<json>")] := by
    rw [List.map_cons, List.map_cons, List.map_nil, hanswer, hjson]
  rw [hrest, hanswers] at hreads
  rw [hfault] at htext htext'
  have hneed := hlong [5] 5 b hfive (by decide)
  rw [hmessage] at hneed
  exact ⟨⟨.string, hbytes, hfault, hfive, by decide, List.mem_cons_self⟩, htext,
    hdecode _ _ hfault, hneed, htext', hreads⟩

end BatchSql
