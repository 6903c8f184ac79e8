import TopicBus.Boundary.Interface
import TopicBus.Proofs.Boundary.Argument
import TopicBus.Proofs.Bus.Sound
import TopicBus.Proofs.Registry.Effect

/-!
Calls of the C interface as data: what is passed to each, what it answers, and the call by values
that it stands for. The answer is told by one of five conventions, and the call does to the registry
what the call by values does.
-/

namespace TopicBus

open Op

namespace Call

inductive Read
  | receiveByte (buffer : Option Bytes) (length : Option Nat)
  | latestByte (buffer : Option Bytes) (length epoch : Option Nat)
  | receiveTyped (buffer : Option Bytes)
  | latestTyped (buffer : Option Bytes) (epoch : Option Nat)

namespace Read

def kind : Read → Kind
  | receiveByte _ _ | latestByte _ _ _ => .byte
  | receiveTyped _ | latestTyped _ _ => .typed

def outputs : Read → Outputs
  | receiveByte buffer length => { buffer, length }
  | latestByte buffer length epoch => { buffer, length, epoch }
  | receiveTyped buffer => { buffer }
  | latestTyped buffer epoch => { buffer, epoch }

def consumes : Read → Bool
  | receiveByte _ _ | receiveTyped _ => true
  | latestByte _ _ _ | latestTyped _ _ => false

def serve (handle : UInt64) : Read → Call (Int × Outputs)
  | receiveByte buffer length => Call.receiveByte handle buffer length
  | latestByte buffer length epoch => Call.latestByte handle buffer length epoch
  | receiveTyped buffer => Call.receiveTyped handle buffer
  | latestTyped buffer epoch => Call.latestTyped handle buffer epoch

end Read

inductive Aspect
  | length
  | isEmpty
  | lastEpoch
  | capacity

/-- A pointer is the memory behind it, or nothing if it is null. -/
inductive Request
  | destroy
  | topicCount
  | getByteTopic (name : Option Bytes) (capacity : Nat) (status : Option Int)
  | getTypedTopic (name : Option Bytes) (capacity messageSize : Nat) (status : Option Int)
  | releaseTopic (handle : UInt64)
  | publish (kind : Kind) (handle : UInt64) (data : Option Bytes) (length : Nat)
  | read (handle : UInt64) (call : Read)
  | state (handle : UInt64) (aspect : Aspect)

inductive Answer
  | done
  | number (n : Nat)
  | code (code : Int)
  | handle (handle : UInt64) (status : Option Int)
  | transfer (code : Int) (outputs : Outputs)
  deriving DecidableEq

def serve : Request → Call Answer
  | .destroy => do destroyRegistry; return .done
  | .topicCount => return .number (← topicCount)
  | .getByteTopic name capacity status => do
    let (handle, status) ← getByteTopic name capacity status
    return .handle handle status
  | .getTypedTopic name capacity messageSize status => do
    let (handle, status) ← getTypedTopic name capacity messageSize status
    return .handle handle status
  | .releaseTopic handle => return .code (← releaseTopic handle)
  | .publish kind handle data length => return .number (← publish kind handle data length)
  | .read handle call => do
    let (code, outputs) ← call.serve handle
    return .transfer code outputs
  | .state handle .length => return .number (← length handle)
  | .state handle .isEmpty => return .code (← isEmpty handle)
  | .state handle .lastEpoch => return .number (← lastEpoch handle)
  | .state handle .capacity => return .number (← capacity handle)

inductive Outcome
  | done
  | number (n : Nat)
  | flag (holds : Bool)
  | topic (id : TopicId)
  | read (found : Option (Bytes × Nat))
  deriving DecidableEq

def Aspect.of (storage : Storage) : Aspect → Outcome
  | length => .number storage.ring.length
  | isEmpty => .flag storage.ring.isEmpty
  | lastEpoch => .number storage.ring.lastEpoch
  | capacity => .number storage.ring.capacity

inductive Direct
  | drop
  | count
  | obtainByte (name : String) (capacity : Nat)
  | obtainTyped (name : String) (capacity messageSize : Nat)
  | release (id : TopicId)
  | publish (kind : Kind) (id : TopicId) (payload : Bytes)
  | receive (kind : Kind) (id : TopicId) (buffer : Bytes)
  | readLatest (kind : Kind) (id : TopicId) (buffer : Bytes)
  | locate (kind : Kind) (id : TopicId)
  | state (id : TopicId) (aspect : Aspect)

def Direct.perform : Direct → Op Session Outcome
  | drop => do Registry.releaseAll; return .done
  | count => return .number (← get).registry.size
  | obtainByte name capacity => return .topic (← Registry.obtainByte name capacity).id
  | obtainTyped name capacity messageSize =>
    return .topic (← Registry.obtainTyped name capacity messageSize).id
  | release id => do Registry.release id; return .done
  | publish kind id payload => do
    let topic ← Registry.resolveKind kind id
    return .number (← Registry.onBus (topic.publish payload))
  | receive kind id buffer => do
    let topic ← Registry.resolveKind kind id
    let (found, buffer) ← Registry.onBus (topic.receive.lending buffer)
    return .read (found.map (Storage.entryIn buffer))
  | readLatest kind id buffer => do
    let topic ← Registry.resolveKind kind id
    let (found, buffer) ← Registry.onBus (topic.readLatest.lending buffer)
    return .read (found.map (Storage.entryIn buffer))
  | locate kind id => do
    let _ ← Registry.resolveKind kind id
    Op.refuse (.invalidParameter "out" "null pointer")
  | state id aspect => do
    let existing ← Registry.resolve id
    return aspect.of (← Registry.onBus existing.topic.state)

def Read.direct (call : Read) (id : TopicId) : Direct :=
  match call.outputs.buffer with
  | none => .locate call.kind id
  | some buffer =>
    if call.consumes then .receive call.kind id buffer else .readLatest call.kind id buffer

namespace Request

/-- The call by values that a call stands for. -/
inductive Denotes : Request → Direct → Prop
  | destroy : Denotes .destroy .drop
  | topicCount : Denotes .topicCount .count
  | getByteTopic {bytes : Bytes} {name : String} (names : Argument.Names bytes name)
      (capacity : Nat) (status : Option Int) :
      Denotes (.getByteTopic (some bytes) capacity status) (.obtainByte name capacity)
  | getTypedTopic {bytes : Bytes} {name : String} (names : Argument.Names bytes name)
      (capacity messageSize : Nat) (status : Option Int) :
      Denotes (.getTypedTopic (some bytes) capacity messageSize status)
        (.obtainTyped name capacity messageSize)
  | releaseTopic {handle : UInt64} {id : TopicId} (designated : TopicId.Designated handle id) :
      Denotes (.releaseTopic handle) (.release id)
  | publish {handle : UInt64} {id : TopicId} (designated : TopicId.Designated handle id)
      {data : Option Bytes} {length : Nat} {payload : Bytes}
      (carries : Argument.Carries data length payload) (kind : Kind) :
      Denotes (.publish kind handle data length) (.publish kind id payload)
  | read {handle : UInt64} {id : TopicId} (designated : TopicId.Designated handle id)
      (call : Read) : Denotes (.read handle call) (call.direct id)
  | state {handle : UInt64} {id : TopicId} (designated : TopicId.Designated handle id)
      (aspect : Aspect) : Denotes (.state handle aspect) (.state id aspect)

def handle? : Request → Option UInt64
  | releaseTopic handle | publish _ handle _ _ | read handle _ | state handle _ => some handle
  | _ => none

def name? : Request → Option (Option Bytes)
  | getByteTopic name _ _ | getTypedTopic name _ _ _ => some name
  | _ => none

inductive Malformed : Request → Refusal → Prop
  | nullName {request : Request} (passed : request.name? = some none) :
      Malformed request (.invalidParameter "name" "null pointer")
  | foreignName {request : Request} {bytes : Bytes} (passed : request.name? = some (some bytes))
      (foreign : ∀ name, ¬Argument.Names bytes name) :
      Malformed request (.invalidParameter "name" "not valid UTF-8")
  | nullHandle {request : Request} {handle : UInt64} (passed : request.handle? = some handle)
      (small : handle.toNat < 2 ^ 32) : Malformed request (.invalidParameter "topic" "null handle")
  | nullData {handle : UInt64} (large : 2 ^ 32 ≤ handle.toNat) {length : Nat}
      (wanted : length ≠ 0) (kind : Kind) :
      Malformed (.publish kind handle none length) (.invalidParameter "data" "null pointer")

def Lent : Request → Prop
  | publish _ _ data length => Argument.Lent data length
  | _ => True

theorem denotes_or_malformed {request : Request} (h : request.Lent) :
    (∃ direct, request.Denotes direct) ∨ ∃ reason, request.Malformed reason := by
  have hname (bytes : Bytes) :
      (∃ name, Argument.Names bytes name) ∨ ∀ name, ¬Argument.Names bytes name := by
    rw [← not_exists]
    exact Classical.em _
  have hhandle (handle : UInt64) :
      handle.toNat < 2 ^ 32 ∨ 2 ^ 32 ≤ handle.toNat ∧ ∃ id, TopicId.Designated handle id := by
    rcases Nat.lt_or_ge handle.toNat (2 ^ 32) with hsmall | hlarge
    · exact .inl hsmall
    · exact .inr ⟨hlarge, TopicId.exists_designated hlarge⟩
  cases request with
  | destroy => exact .inl ⟨_, .destroy⟩
  | topicCount => exact .inl ⟨_, .topicCount⟩
  | getByteTopic name capacity status =>
      cases name with
      | none => exact .inr ⟨_, .nullName rfl⟩
      | some bytes =>
          rcases hname bytes with ⟨name, hnames⟩ | hforeign
          · exact .inl ⟨_, .getByteTopic hnames capacity status⟩
          · exact .inr ⟨_, .foreignName rfl hforeign⟩
  | getTypedTopic name capacity messageSize status =>
      cases name with
      | none => exact .inr ⟨_, .nullName rfl⟩
      | some bytes =>
          rcases hname bytes with ⟨name, hnames⟩ | hforeign
          · exact .inl ⟨_, .getTypedTopic hnames capacity messageSize status⟩
          · exact .inr ⟨_, .foreignName rfl hforeign⟩
  | releaseTopic handle =>
      rcases hhandle handle with hsmall | ⟨-, id, hid⟩
      · exact .inr ⟨_, .nullHandle rfl hsmall⟩
      · exact .inl ⟨_, .releaseTopic hid⟩
  | publish kind handle data length =>
      rcases hhandle handle with hsmall | ⟨hlarge, id, hid⟩
      · exact .inr ⟨_, .nullHandle rfl hsmall⟩
      · by_cases hnull : data = none → length = 0
        · obtain ⟨payload, hcarries⟩ := Argument.exists_carries h hnull
          exact .inl ⟨_, .publish hid hcarries kind⟩
        · obtain ⟨rfl, hwanted⟩ := Classical.not_imp.mp hnull
          exact .inr ⟨_, .nullData hlarge hwanted kind⟩
  | read handle call =>
      rcases hhandle handle with hsmall | ⟨-, id, hid⟩
      · exact .inr ⟨_, .nullHandle rfl hsmall⟩
      · exact .inl ⟨_, .read hid call⟩
  | state handle aspect =>
      rcases hhandle handle with hsmall | ⟨-, id, hid⟩
      · exact .inr ⟨_, .nullHandle rfl hsmall⟩
      · exact .inl ⟨_, .state hid aspect⟩

/-- A call with its arguments looked at in their order. -/
def decoded : Request → Op Session Outcome
  | destroy => Direct.drop.perform
  | topicCount => Direct.count.perform
  | getByteTopic name capacity _ => do
    (Direct.obtainByte (← Argument.name name) capacity).perform
  | getTypedTopic name capacity messageSize _ => do
    (Direct.obtainTyped (← Argument.name name) capacity messageSize).perform
  | releaseTopic handle => do (Direct.release (← Argument.topic handle)).perform
  | publish kind handle data length => do
    let id ← Argument.topic handle
    (Direct.publish kind id (← Argument.payload data length)).perform
  | read handle call => do (call.direct (← Argument.topic handle)).perform
  | state handle aspect => do (Direct.state (← Argument.topic handle) aspect).perform

variable {request : Request} {session : Session} {log : Log}

theorem Denotes.decoded_exec {direct : Direct} (h : request.Denotes direct) :
    request.decoded.exec session log = direct.perform.exec session log := by
  cases h with
  | destroy | topicCount => rfl
  | getByteTopic names capacity status =>
      simp only [decoded, exec_bind, exec_liftRefusal, Argument.name_eq names, Except.mapError]
  | getTypedTopic names capacity messageSize status =>
      simp only [decoded, exec_bind, exec_liftRefusal, Argument.name_eq names, Except.mapError]
  | releaseTopic hid | read hid call | state hid aspect =>
      simp only [decoded, exec_bind, exec_liftRefusal, Argument.topic_eq hid, Except.mapError]
  | publish hid hcarries kind =>
      simp only [decoded, exec_bind, exec_liftRefusal, Argument.topic_eq hid,
        Argument.payload_eq hcarries, Except.mapError]

theorem Malformed.decoded_exec {reason : Refusal} (h : request.Malformed reason) :
    request.decoded.exec session log = ((.error (.refused reason), session), log) := by
  cases h with
  | nullName passed =>
      cases request <;> cases passed
      all_goals rfl
  | foreignName passed foreign =>
      cases request <;> cases passed
      all_goals
        simp only [decoded, exec_bind, exec_liftRefusal, Argument.name_foreign foreign,
          Except.mapError]
  | nullHandle passed small =>
      cases request <;> cases passed
      all_goals
        simp only [decoded, exec_bind, exec_liftRefusal, Argument.topic_small small,
          Except.mapError]
  | @nullData handle large length wanted kind =>
      obtain ⟨id, hid⟩ := TopicId.exists_designated large
      simp only [decoded, exec_bind, exec_liftRefusal, Argument.topic_eq hid, Except.mapError,
        Argument.payload, wanted, if_false]

end Request

end Call

end TopicBus
