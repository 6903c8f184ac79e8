import TopicBus.Boundary.Argument
import TopicBus.Boundary.Status
import TopicBus.Registry.Basic

/-!
The interface for C callers. A registry is passed as a pointer, a topic as a word; every call
answers by numbers, and no fault gets past this module. A registry made here has a bus of its own.

Every call looks at its arguments in the same order: the registry, the handle, the payload to
publish, the topic that the handle designates, the buffer. Out-parameters and buffers are written
only by a call that has something to put there.
-/

namespace TopicBus

/-- A call on the registry behind a pointer. -/
abbrev Call (α : Type) := StateT (Option Session) (StateM Log) α

namespace Call

variable {σ α : Type}

/-- An operation whose failures are answered by values; a fault is logged. -/
def settle (refused : Refusal → α) (broken : α) (op : Op σ α) : StateT σ (StateM Log) α :=
  fun state log =>
    match op.exec state log with
    | ((.ok answer, state), log) => ((answer, state), log)
    | ((.error (.refused reason), state), log) => ((refused reason, state), log)
    | ((.error (.fault _), state), log) => ((broken, state), log.push .faultContained)

def statusCode (op : Op σ Status) : StateT σ (StateM Log) Int := do
  return (← settle Status.ofRefusal .internalFault op).code

def onRegistry (op : Op Session α) : Op (Option Session) α := do
  let session ← Argument.registry (← get)
  op.within (fun _ => session) fun session _ => some session

def resolve (handle : UInt64) : Op Session SomeTopic := do
  Registry.resolve (← Argument.topic handle)

def describe (handle : UInt64) (view : Storage → α) : Op (Option Session) α :=
  onRegistry do
    let existing ← resolve handle
    return view (← Registry.onBus existing.topic.state)

def newRegistry : Session := ⟨{}, {}⟩

def destroyRegistry : Call Unit := do
  if (← get).isSome then
    settle (fun _ => ()) () (onRegistry Registry.releaseAll)
    set (none : Option Session)

def topicCount : Call Nat :=
  settle (fun _ => 0) 0 (onRegistry do return (← get).registry.size)

/-- The handle of a topic, or 0; the status goes out through `status`. -/
def acquire {kind : Kind} (status : Option Int) (op : Op (Option Session) (Topic kind)) :
    Call (UInt64 × Option Int) := do
  let (handle, outcome) ←
    settle (fun reason => (0, Status.ofRefusal reason)) (0, Status.internalFault) do
      return ((← op).id.raw, Status.success)
  return (handle, Argument.store status outcome.code)

def getByteTopic (name : Option Bytes) (capacity : Nat) (status : Option Int) :
    Call (UInt64 × Option Int) :=
  acquire status <| onRegistry do
    Registry.obtainByte (← Argument.name name) capacity

def getTypedTopic (name : Option Bytes) (capacity messageSize : Nat) (status : Option Int) :
    Call (UInt64 × Option Int) :=
  acquire status <| onRegistry do
    Registry.obtainTyped (← Argument.name name) capacity messageSize

def releaseTopic (handle : UInt64) : Call Int :=
  statusCode <| onRegistry do
    Registry.release (← Argument.topic handle)
    return .success

def publish (kind : Kind) (handle : UInt64) (data : Option Bytes) (length : Nat) : Call Nat :=
  settle (fun _ => 0) 0 <| onRegistry do
    let id ← Argument.topic handle
    let payload ← Argument.payload data length
    let topic ← Registry.resolveKind kind id
    Registry.onBus (topic.publish payload)

structure Outputs where
  buffer : Option Bytes
  length : Option Nat := none
  epoch : Option Nat := none
  deriving DecidableEq, Repr

structure Transfer where
  registry : Option Session
  outputs : Outputs

def Transfer.onRegistry (op : Op Session α) : Op Transfer α :=
  (Call.onRegistry op).within Transfer.registry fun registry transfer =>
    { transfer with registry }

def Transfer.onBuffer (op : Op (Reading Session) α) : Op Transfer α := do
  let session ← Argument.registry (← get).registry
  let buffer ← Argument.buffer (← get).outputs.buffer
  op.within (fun _ => ⟨session, buffer⟩) fun call transfer =>
    ⟨some call.source, { transfer.outputs with buffer := some call.buffer }⟩

def Transfer.onReadingBus (op : Op (Reading Bus) α) : Op (Reading Session) α :=
  op.within (fun call => ⟨call.source.bus, call.buffer⟩) fun inner call =>
    ⟨{ call.source with bus := inner.source }, inner.buffer⟩

def Transfer.report (received : Option Delivery) : Op Transfer Status := do
  let outputs := (← get).outputs
  match received with
  | some entry =>
    let length := Argument.store outputs.length entry.length
    let epoch := Argument.store outputs.epoch entry.epoch
    modify fun transfer => { transfer with outputs := { outputs with length, epoch } }
    return .success
  | none =>
    let length := Argument.store outputs.length 0
    modify fun transfer => { transfer with outputs := { outputs with length } }
    return .noData

def read (kind : Kind) (handle : UInt64) (outputs : Outputs)
    (op : Topic kind → Op (Reading Bus) (Option Delivery)) : Call (Int × Outputs) :=
  fun registry log =>
    let reading : Op Transfer Status := do
      let topic ← Transfer.onRegistry do
        Registry.resolveKind kind (← Argument.topic handle)
      Transfer.report (← Transfer.onBuffer (Transfer.onReadingBus (op topic)))
    let ((code, transfer), log) := statusCode reading ⟨registry, outputs⟩ log
    (((code, transfer.outputs), transfer.registry), log)

def receiveByte (handle : UInt64) (buffer : Option Bytes) (length : Option Nat) :
    Call (Int × Outputs) :=
  read .byte handle { buffer, length } Topic.receive

def latestByte (handle : UInt64) (buffer : Option Bytes) (length epoch : Option Nat) :
    Call (Int × Outputs) :=
  read .byte handle { buffer, length, epoch } Topic.readLatest

def receiveTyped (handle : UInt64) (buffer : Option Bytes) : Call (Int × Outputs) :=
  read .typed handle { buffer } Topic.receive

def latestTyped (handle : UInt64) (buffer : Option Bytes) (epoch : Option Nat) :
    Call (Int × Outputs) :=
  read .typed handle { buffer, epoch } Topic.readLatest

def length (handle : UInt64) : Call Nat :=
  settle (fun _ => 0) 0 (describe handle fun storage => storage.ring.length)

/-- 1 if no entry is unread, 0 if one is, or the code of the refusal. -/
def isEmpty (handle : UInt64) : Call Int :=
  settle (fun reason => (Status.ofRefusal reason).code) Status.internalFault.code <|
    describe handle fun storage => if storage.ring.length = 0 then 1 else 0

def lastEpoch (handle : UInt64) : Call Nat :=
  settle (fun _ => 0) 0 (describe handle fun storage => storage.ring.lastEpoch)

def capacity (handle : UInt64) : Call Nat :=
  settle (fun _ => 0) 0 (describe handle fun storage => storage.ring.capacity)

end Call

end TopicBus
