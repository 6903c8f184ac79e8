import TopicBus.Refusal
import TopicBus.Slot.Header

/-!
Layouts of slots: a header, then room for a payload. A byte layout takes payloads up to its room,
a typed layout only messages that fill it.
-/

namespace TopicBus

structure Layout where
  kind : Kind
  payloadSize : Nat
  payloadSize_pos : 0 < payloadSize
  payloadSize_le : payloadSize ≤ Limits.slotPayload
  deriving DecidableEq

namespace Layout

/-- The layout for payloads of up to, or messages of exactly, `payloadSize` bytes. -/
def create (kind : Kind) (payloadSize : Nat) : Except Refusal Layout :=
  if h : 0 < payloadSize ∧ payloadSize ≤ Limits.slotPayload then
    .ok ⟨kind, payloadSize, h.1, h.2⟩
  else
    .error (.sizeOutOfRange kind.sizeParameter Limits.slotPayload)

/-- The byte layout whose slots take `slotSize` bytes, header included. -/
def ofSlotSize (slotSize : Nat) : Except Refusal Layout :=
  if slotSize ≤ Limits.byteHeader then
    let header := Limits.byteHeader
    .error (.invalidParameter "slot_size" s!"must exceed the {header}-byte header")
  else
    create .byte (slotSize - Limits.byteHeader)

def default : Layout := ⟨.byte, Limits.defaultPayload, by decide, by decide⟩

def headerSize (layout : Layout) : Nat := Header.size layout.kind

def slotSize (layout : Layout) : Nat := layout.headerSize + layout.payloadSize

/-- The header of a slot that takes `length` bytes; a length is noted in 32 bits. -/
def header (layout : Layout) (epoch length : Nat) : Header :=
  match layout.kind with
  | .byte => .byte (UInt64.ofNat epoch) (UInt32.ofNat length)
  | .typed => .typed (UInt64.ofNat epoch)

/-- The payload length that a header stands for, never more than there is room for. -/
def payloadLength (layout : Layout) : Header → Nat
  | .byte _ length => min length.toNat layout.payloadSize
  | .typed _ => layout.payloadSize

def checkPayload (layout : Layout) (length : Nat) : Except Refusal Unit :=
  match layout.kind with
  | .byte =>
    if layout.payloadSize < length then .error (.payloadTooLarge length layout.payloadSize)
    else .ok ()
  | .typed =>
    if length ≠ layout.payloadSize then .error (.sizeMismatch layout.payloadSize length)
    else .ok ()

/-- Whether a buffer of this length may be read into. A byte layout leaves that to the payload. -/
def checkRoom (layout : Layout) (available : Nat) : Except Refusal Unit :=
  match layout.kind with
  | .byte => .ok ()
  | .typed =>
    if available ≠ layout.payloadSize then .error (.sizeMismatch layout.payloadSize available)
    else .ok ()

def inspect (layout : Layout) : String :=
  Text.record (layout.kind.label ++ "Layout")
    [(layout.kind.sizeParameter, toString layout.payloadSize)]

end Layout

end TopicBus
