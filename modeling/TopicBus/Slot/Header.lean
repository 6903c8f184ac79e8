import TopicBus.Bytes
import TopicBus.Kind
import TopicBus.Limits
import TopicBus.Text.Record

/-!
Headers in front of the payload of a slot. A byte topic notes epoch and length, a typed topic only
the epoch; numbers stand in little-endian order.
-/

namespace TopicBus

inductive Header
  | byte (epoch : UInt64) (length : UInt32)
  | typed (epoch : UInt64)
  deriving DecidableEq, Repr

namespace Header

def size : Kind → Nat
  | .byte => Limits.byteHeader
  | .typed => Limits.typedHeader

def kind : Header → Kind
  | byte _ _ => .byte
  | typed _ => .typed

def epoch : Header → UInt64
  | byte epoch _ => epoch
  | typed epoch => epoch

def bytes : Header → Bytes
  | byte epoch length => Bytes.ofNat 8 epoch.toNat ++ Bytes.ofNat 4 length.toNat
  | typed epoch => Bytes.ofNat 8 epoch.toNat

def encode (header : Header) (out : Bytes) : Except Fault Bytes :=
  Bytes.write 0 header.bytes out

def decode (kind : Kind) (source : Bytes) : Except Fault Header := do
  let epoch := UInt64.ofNat (Bytes.toNat (← Bytes.read 0 8 source))
  match kind with
  | .byte => return .byte epoch (UInt32.ofNat (Bytes.toNat (← Bytes.read 8 4 source)))
  | .typed => return .typed epoch

def inspect : Header → String
  | byte epoch length => Text.record "ByteSlotHeader"
      [("epoch", toString epoch.toNat), ("length", toString length.toNat)]
  | typed epoch => Text.record "TypedSlotHeader" [("epoch", toString epoch.toNat)]

theorem length_bytes (header : Header) : header.bytes.length = size header.kind := by
  cases header <;> simp [bytes, kind, size, Bytes.length_ofNat, Limits.byteHeader,
    Limits.typedHeader]

end Header

end TopicBus
