import TopicBus.Message.Codec
import TopicBus.Ring.Basic
import TopicBus.Topic.Counters

/-!
The storage that all handles of one topic share: its ring, its counters and whether it was
released. Once released, it answers every request for data with "not found". Requests pass the name
of the topic along, for messages and for the log.
-/

namespace TopicBus

structure Storage where
  ring : Ring
  counters : Counters := {}
  released : Bool := false

namespace Storage

variable {α : Type}

def requireLive (name : String) : Op Storage Unit := do
  if (← get).released then Op.refuse (.notFound name)

def count (step : Counters → Counters) : Op Storage Unit :=
  modify fun storage => { storage with counters := step storage.counters }

def onRing (op : Op Ring α) : Op Storage α :=
  op.within Storage.ring fun ring storage => { storage with ring }

def onReadingRing (op : Op (Reading Ring) α) : Op (Reading Storage) α :=
  op.within (fun call => ⟨call.source.ring, call.buffer⟩) fun inner call =>
    ⟨{ call.source with ring := inner.source }, inner.buffer⟩

/-- Appends a payload and says under which epoch. A publish that the ring refuses is counted and
logged, and so is the loss of unread entries. -/
def publish (name : String) (payload : Bytes) : Op Storage Nat := do
  requireLive name
  match ← (onRing (Ring.publish payload)).attempt with
  | .ok ⟨epoch, overwritten⟩ =>
    count Counters.countPublished
    if 0 < overwritten then
      count (Counters.countOverwritten overwritten)
      Op.log (.unreadOverwritten name overwritten epoch)
    return epoch
  | .error (.refused reason) =>
    count Counters.countRejected
    Op.log (.publishRejected name reason)
    Op.refuse reason
  | .error (.fault fault) => Op.fail fault

def readRing (name : String) (read : Op (Reading Ring) (Option Delivery))
    (step : Counters → Counters) : Op (Reading Storage) (Option Delivery) := do
  Op.onSource (requireLive name)
  let received ← onReadingRing read
  if received.isSome then
    Op.onSource (count step)
  return received

def receive (name : String) : Op (Reading Storage) (Option Delivery) :=
  readRing name Ring.receive Counters.countConsumed

def readLatest (name : String) : Op (Reading Storage) (Option Delivery) :=
  readRing name Ring.readLatest Counters.countPeeked

def readOldest (name : String) : Op (Reading Storage) (Option Delivery) :=
  readRing name Ring.readOldest Counters.countPeeked

def slotImage (name : String) (epoch : Nat) : Op Storage (Option Bytes) := do
  requireLive name
  (← get).ring.slotImage epoch

def resetCounters : Op Storage Unit := modify fun storage => { storage with counters := {} }

def setReleased : Op Storage Unit := modify fun storage => { storage with released := true }

def roomyBuffer : Op Storage Bytes := do
  return Bytes.zeros (← get).ring.layout.payloadSize

def entryIn (buffer : Bytes) (received : Delivery) : Bytes × Nat :=
  (buffer.take received.length, received.epoch)

def receivePayload (name : String) : Op Storage (Option (Bytes × Nat)) := do
  let (received, buffer) ← (receive name).lending (← roomyBuffer)
  return received.map (entryIn buffer)

def latestPayload (name : String) : Op Storage (Option (Bytes × Nat)) := do
  let (received, buffer) ← (readLatest name).lending (← roomyBuffer)
  return received.map (entryIn buffer)

/-- Consumes entries, at most `bound` of them, until none is unread; `taken` holds those that
came before, the latest first. -/
def drainUpTo (name : String) :
    (bound : Nat) → (taken : List (Bytes × Nat)) → Op (Reading Storage) (List (Bytes × Nat))
  | bound, taken => do
    match ← receive name with
    | none => return taken.reverse
    | some received =>
      let entry := entryIn (← get).buffer received
      match bound with
      | 0 => Op.fail .stalled
      | bound + 1 => drainUpTo name bound (entry :: taken)

def drain (name : String) : Op Storage (List (Bytes × Nat)) := do
  let unread := (← get).ring.length
  return (← (drainUpTo name unread []).lending (← roomyBuffer)).1

def checkShape (shape : Shape) : Op Storage Unit := do
  let expected := (← get).ring.layout.payloadSize
  if shape.size ≠ expected then Op.refuse (.sizeMismatch expected shape.size)

def publishMessage (name : String) (shape : Shape) (message : shape.Value) : Op Storage Nat := do
  checkShape shape
  publish name (← shape.encode message (Bytes.zeros shape.size))

def readMessage (shape : Shape) (read : Op (Reading Storage) (Option Delivery)) :
    Op Storage (Option (shape.Value × Nat)) := do
  checkShape shape
  let (received, buffer) ← read.lending (Bytes.zeros shape.size)
  match received with
  | none => return none
  | some received => return some (← shape.decode buffer, received.epoch)

def receiveMessage (name : String) (shape : Shape) : Op Storage (Option (shape.Value × Nat)) :=
  readMessage shape (receive name)

def latestMessage (name : String) (shape : Shape) : Op Storage (Option (shape.Value × Nat)) :=
  readMessage shape (readLatest name)

end Storage

end TopicBus
