import BatchSql.Codec
import BatchSql.Proofs.Encoding.Numbers
import BatchSql.Proofs.Work

namespace BatchSql

/-- What may stand behind a value: anything where its end shows, else nothing. -/
def Context.Allows : Context → Octets → Prop
  | .nested, _ => True
  | .outer, rest => rest = []

namespace Buffered

theorem run_put (bs b : Octets) : (put bs).run.run b = (.ok (), b ++ bs) := rfl

theorem run_take (bs rest : Octets) : (take bs.length).run.run (bs ++ rest) = (.ok bs, rest) := by
  have hlen : ¬(bs ++ rest).length < bs.length := by simp
  rw [take, run_bind_ok run_get, if_neg hlen, List.drop_left, List.take_left]
  rfl

theorem run_varint {v : Nat} (hv : v < 2 ^ 64) (rest : Octets) :
    varint.run.run (Varint.encode v ++ rest) = (.ok v, rest) := by
  rw [varint, run_bind_ok run_get, Varint.decode_encode hv]
  rfl

/-- The octets of a frame. -/
def framed : Context → Octets → Octets
  | .nested, bs => Varint.encode bs.length ++ bs
  | .outer, bs => bs

theorem run_putFrame (context : Context) (bs b : Octets) :
    (putFrame bs context).run.run b = (.ok (), b ++ framed context bs) := by
  cases context with
  | nested =>
    rw [putFrame, run_bind_ok (run_put _ b), run_put, framed, List.append_assoc]
  | outer => exact run_put bs b

theorem run_frame {context : Context} {bs rest : Octets} (hbs : bs.length < 2 ^ 64)
    (hrest : context.Allows rest) :
    (frame context).run.run (framed context bs ++ rest) = (.ok bs, rest) := by
  cases context with
  | nested =>
    rw [framed, List.append_assoc, frame, run_bind_ok (run_varint hbs _), run_take]
  | outer =>
    obtain rfl : rest = [] := hrest
    rw [List.append_nil]
    rfl

theorem run_ofExcept {α : Type} (r : Except Error α) (b : Octets) :
    (ofExcept r).run.run b = (r, b) := by
  cases r with
  | ok a => rfl
  | error e => rfl

end Buffered

namespace Codec
open Buffered

variable {ε ρ : Type} {element : Codec ε} {restriction : Codec ρ} {context : Context}
  {b mid rest content : Octets}

/-- What is made of the octets of a text. -/
def readText (bs : Octets) : Except Error String :=
  match Utf8.decode bs with
  | .ok cs => .ok (String.ofList cs)
  | .error fault => .error (.decode ("invalid UTF-8: " ++ fault.message))

theorem decode_string (context : Context) :
    string.decode context = frame context >>= fun bs => Buffered.ofExcept (readText bs) := by
  change (frame context >>= _) = _
  congr 1
  funext bs
  rw [readText]
  cases Utf8.decode bs with
  | ok cs => rfl
  | error fault => rfl

theorem run_decode_string (h : (frame context).run.run b = (.ok content, rest)) :
    (string.decode context).run.run b = (readText content, rest) := by
  rw [decode_string, run_bind_ok h, Buffered.run_ofExcept]

theorem run_encode_pair {p : Restricted ε ρ}
    (h : (element.encode .nested p.element).run.run b = (.ok (), mid)) :
    ((pair element restriction).encode context p).run.run b =
      (restriction.encode context p.restriction).run.run mid :=
  run_bind_ok h

/-- The restriction is read from what the element leaves. -/
theorem run_decode_pair {e : ε} {r : Except Error ρ}
    (he : (element.decode .nested).run.run b = (.ok e, mid))
    (hr : (restriction.decode context).run.run mid = (r, rest)) :
    ((pair element restriction).decode context).run.run b = (r.map fun r => ⟨e, r⟩, rest) := by
  change (element.decode .nested >>= _).run.run b = _
  rw [run_bind_ok he]
  cases r with
  | ok r =>
    rw [run_bind_ok hr]
    rfl
  | error e =>
    rw [run_bind_error hr]
    rfl

end Codec

end BatchSql
