import TopicBus.Refusal
import TopicBus.Limits

namespace TopicBus

structure TopicSpec where
  name : String
  kind : Kind
  capacity : Nat
  /-- Payload bound of a byte topic, message size of a typed topic. -/
  payloadSize : Nat
  deriving DecidableEq, Repr

namespace TopicSpec

def byte (name : String) (capacity : Nat) : TopicSpec :=
  ⟨name, .byte, capacity, Limits.defaultPayload⟩

def typed (name : String) (capacity messageSize : Nat) : TopicSpec :=
  ⟨name, .typed, capacity, messageSize⟩

def default : TopicSpec := byte "" Limits.defaultCapacity

/-- Why a topic cannot be created with these parameters, if it cannot. Name, capacity and size are
looked at in this order. -/
def check (spec : TopicSpec) : Except Refusal Unit :=
  let longest := Limits.topicName
  let most := Limits.topicCapacity
  if spec.name.isEmpty then
    .error (.invalidParameter "name" "Topic name cannot be empty")
  else if longest < spec.name.utf8ByteSize then
    .error (.invalidParameter "name" s!"Topic name exceeds {longest} bytes")
  else if spec.capacity = 0 ∨ most < spec.capacity then
    .error (.invalidParameter "capacity" s!"Capacity must be between 1 and {most}")
  else if spec.payloadSize = 0 ∨ Limits.slotPayload < spec.payloadSize then
    .error (.sizeOutOfRange spec.kind.sizeParameter Limits.slotPayload)
  else
    .ok ()

end TopicSpec

end TopicBus
