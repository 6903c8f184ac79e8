import TopicBus.Bus
import TopicBus.Topic.Spec

/-!
Handles of topics. A handle knows its topic's name, kind and identity and refers to the storage;
all handles of one topic see the same messages.
-/

namespace TopicBus

structure Topic (kind : Kind) where
  name : String
  id : TopicId
  storage : Nat
  deriving DecidableEq, Repr

namespace Topic

variable {kind : Kind} {α : Type}

def create (kind : Kind) (spec : TopicSpec) (layout : Layout) (id : TopicId) :
    Op Bus (Topic kind) := do
  spec.check
  if spec.kind ≠ kind then
    Op.refuse (.kindMismatch spec.name kind spec.kind)
  else
    let ring ← Ring.create spec.capacity layout (← get).memory
    Op.log (.topicCreated kind spec.name spec.capacity ring.slotSize)
    return ⟨spec.name, id, ← Bus.addStorage { ring }⟩

def ofSpec (kind : Kind) (spec : TopicSpec) (id : TopicId) : Op Bus (Topic kind) := do
  spec.check
  create kind spec (← Layout.create kind spec.payloadSize) id

/-- A topic that belongs to no registry. -/
def detached (kind : Kind) (spec : TopicSpec) : Op Bus (Topic kind) :=
  ofSpec kind spec .detached

def forShape (shape : Shape) (name : String) (capacity : Nat) : Op Bus (Topic .typed) :=
  detached .typed (.typed name capacity shape.size)

def sharesStorage (a b : Topic kind) : Bool := a.storage == b.storage

def access (topic : Topic kind) (op : Op Storage α) : Op Bus α :=
  op.withinSome (fun bus => bus.storages[topic.storage]?)
    (fun storage bus =>
      { bus with storages := bus.storages.setIfInBounds topic.storage storage })
    (.fault .danglingHandle)

def accessReading (topic : Topic kind) (op : Op (Reading Storage) α) : Op (Reading Bus) α :=
  op.withinSome (fun call => (call.source.storages[topic.storage]?).map (⟨·, call.buffer⟩))
    (fun inner call =>
      let storages := call.source.storages.setIfInBounds topic.storage inner.source
      ⟨{ call.source with storages }, inner.buffer⟩)
    (.fault .danglingHandle)

def state (topic : Topic kind) : Op Bus Storage := topic.access get

def length (topic : Topic kind) : Op Bus Nat := do return (← topic.state).ring.length

def lastEpoch (topic : Topic kind) : Op Bus Nat := do return (← topic.state).ring.lastEpoch

def isReleased (topic : Topic kind) : Op Bus Bool := do return (← topic.state).released

def counters (topic : Topic kind) : Op Bus Counters := do return (← topic.state).counters

def resetCounters (topic : Topic kind) : Op Bus Unit := topic.access Storage.resetCounters

def setReleased (topic : Topic kind) : Op Bus Unit := topic.access Storage.setReleased

def inspect (topic : Topic kind) : Op Bus String := do
  let storage ← topic.state
  return Text.record "Topic"
    [("name", Text.quote topic.name), ("id", topic.id.inspect), ("kind", kind.label),
      ("ring", storage.ring.inspect), ("released", toString storage.released)]

def publish (topic : Topic kind) (payload : Bytes) : Op Bus Nat :=
  topic.access (Storage.publish topic.name payload)

def receive (topic : Topic kind) : Op (Reading Bus) (Option Delivery) :=
  topic.accessReading (Storage.receive topic.name)

def readLatest (topic : Topic kind) : Op (Reading Bus) (Option Delivery) :=
  topic.accessReading (Storage.readLatest topic.name)

def readOldest (topic : Topic kind) : Op (Reading Bus) (Option Delivery) :=
  topic.accessReading (Storage.readOldest topic.name)

def slotImage (topic : Topic kind) (epoch : Nat) : Op Bus (Option Bytes) :=
  topic.access (Storage.slotImage topic.name epoch)

def receivePayload (topic : Topic .byte) : Op Bus (Option (Bytes × Nat)) :=
  topic.access (Storage.receivePayload topic.name)

def latestPayload (topic : Topic .byte) : Op Bus (Option (Bytes × Nat)) :=
  topic.access (Storage.latestPayload topic.name)

def drain (topic : Topic .byte) : Op Bus (List (Bytes × Nat)) :=
  topic.access (Storage.drain topic.name)

def publishMessage (topic : Topic .typed) (shape : Shape) (message : shape.Value) : Op Bus Nat :=
  topic.access (Storage.publishMessage topic.name shape message)

def receiveMessage (topic : Topic .typed) (shape : Shape) :
    Op Bus (Option (shape.Value × Nat)) :=
  topic.access (Storage.receiveMessage topic.name shape)

def latestMessage (topic : Topic .typed) (shape : Shape) : Op Bus (Option (shape.Value × Nat)) :=
  topic.access (Storage.latestMessage topic.name shape)

end Topic

structure SomeTopic where
  kind : Kind
  topic : Topic kind

namespace SomeTopic

structure Summary where
  id : TopicId
  name : String
  kind : Kind
  capacity : Nat
  payloadSize : Nat
  length : Nat
  lastEpoch : Nat
  deriving DecidableEq, Repr

def ofKind? (handle : SomeTopic) (kind : Kind) : Option (Topic kind) :=
  if h : handle.kind = kind then some (h ▸ handle.topic) else none

def summary (handle : SomeTopic) : Op Bus Summary := do
  let ring := (← handle.topic.state).ring
  return ⟨handle.topic.id, handle.topic.name, handle.kind, ring.capacity, ring.layout.payloadSize,
    ring.length, ring.lastEpoch⟩

def inspect (handle : SomeTopic) : Op Bus String := do
  return Text.wrapped handle.kind.label (← handle.topic.inspect)

end SomeTopic

end TopicBus
