import BatchSql.Codec
import BatchSql.Host

namespace BatchSql

/-- Records on their way through a grouping by random keys, which keeps the work before it apart
from the work after it. `keys` is the random source and `drawn` counts the keys taken from it. -/
structure FusionBarrier (τ : Type) where
  codec : Codec τ
  keys : Nat → UInt32
  drawn : Nat
  keyed : List Keyed

namespace FusionBarrier

def create (codec : Codec τ) (keys : Nat → UInt32) : FusionBarrier τ :=
  ⟨codec, keys, 0, []⟩

def size (b : FusionBarrier τ) : Nat :=
  b.keyed.length

def isEmpty (b : FusionBarrier τ) : Bool :=
  b.keyed.isEmpty

def clear (b : FusionBarrier τ) : FusionBarrier τ :=
  { b with keyed := [] }

/-- Takes a record in under the next key, which is drawn even when the record has no encoding. -/
def emit (b : FusionBarrier τ) (record : τ) : Except Error Unit × FusionBarrier τ :=
  let key := b.keys b.drawn
  let b := { b with drawn := b.drawn + 1 }
  match b.codec.encodeAlone record with
  | .ok bs => (.ok (), { b with keyed := b.keyed ++ [(key, bs)] })
  | .error e => (.error e, b)

/-- Hands encoded records on one by one and counts them. -/
def release (codec : Codec τ) (host : Host η τ) : Nat → List Octets → Task η Nat
  | count, [] => pure count
  | count, bs :: rest => do
    let record ← Task.ofExcept (codec.decodeAlone bs)
    host.emit record
    release codec host (count + 1) rest

/-- Groups the waiting records and hands them on, group by group. None waits afterwards, even
when this fails. -/
def flush (b : FusionBarrier τ) (host : Host η τ) :
    Step η (Except Error Nat × FusionBarrier τ) := do
  let flushed : Task η Nat := do
    let groups ← host.group b.keyed
    Task.log .debug "Flattening fusion barrier" [
      ("records", toString b.size), ("groups", toString groups.length)]
    release b.codec host 0 (groups.flatMap Prod.snd)
  let r ← flushed.run
  pure (r, b.clear)

end FusionBarrier

end BatchSql
