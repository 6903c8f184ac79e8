import TopicBus.Proofs.Bus.Frame
import TopicBus.Proofs.Ring.Ledger

/-!
Everything that users ask of a bus, through handles of topics, publishers and subscribers, and the
receipts that they get. Reads that consume nothing and looks at a state have empty receipts.
-/

namespace TopicBus

open Op

/-- What is asked through a handle of a topic; a read brings its buffer. -/
inductive Topic.Request : Kind → Type
  | look {kind : Kind} : Request kind
  | slotImage {kind : Kind} (epoch : Nat) : Request kind
  | resetCounters {kind : Kind} : Request kind
  | publish {kind : Kind} (payload : Bytes) : Request kind
  | receive {kind : Kind} (buffer : Bytes) : Request kind
  | readLatest {kind : Kind} (buffer : Bytes) : Request kind
  | readOldest {kind : Kind} (buffer : Bytes) : Request kind
  | receivePayload : Request .byte
  | latestPayload : Request .byte
  | drain : Request .byte
  | publishMessage (shape : Shape) (message : shape.Value) : Request .typed
  | receiveMessage (shape : Shape) : Request .typed
  | latestMessage (shape : Shape) : Request .typed

namespace Receipt

def ofRead (found : Option Delivery × Bytes) : Receipt :=
  { delivered := (found.1.map (Storage.entryIn found.2)).toList }

def ofPayload (found : Option (Bytes × Nat)) : Receipt := { delivered := found.toList }

def ofMessage (shape : Shape) (found : Option (shape.Value × Nat)) : Receipt :=
  { delivered := (found.map fun entry => (shape.bytes entry.1, entry.2)).toList }

end Receipt

namespace Topic

variable {kind : Kind}

/-- A publish and its receipt: the epochs that were unread before and are not unread any more
were overwritten. -/
def submit (topic : Topic kind) (payload : Bytes) (publish : Op Bus Nat) : Op Bus Receipt := do
  let before := (← topic.state).ring.unread
  let epoch ← publish
  let after := (← topic.state).ring.unread
  return { accepted := [(payload, epoch)], overwritten := before.filter (· ∉ after) }

def perform : {kind : Kind} → Topic kind → Topic.Request kind → Op Bus Receipt
  | _, topic, .look => do let _ ← topic.state; return {}
  | _, topic, .slotImage epoch => do let _ ← topic.slotImage epoch; return {}
  | _, topic, .resetCounters => do topic.resetCounters; return {}
  | _, topic, .publish payload => topic.submit payload (topic.publish payload)
  | _, topic, .receive buffer => do return .ofRead (← topic.receive.lending buffer)
  | _, topic, .readLatest buffer => do let _ ← topic.readLatest.lending buffer; return {}
  | _, topic, .readOldest buffer => do let _ ← topic.readOldest.lending buffer; return {}
  | _, topic, .receivePayload => do return .ofPayload (← topic.receivePayload)
  | _, topic, .latestPayload => do let _ ← topic.latestPayload; return {}
  | _, topic, .drain => do return { delivered := ← topic.drain }
  | _, topic, .publishMessage shape message =>
    topic.submit (shape.bytes message) (topic.publishMessage shape message)
  | _, topic, .receiveMessage shape => do return .ofMessage shape (← topic.receiveMessage shape)
  | _, topic, .latestMessage shape => do let _ ← topic.latestMessage shape; return {}

def Request.publishes : Topic.Request kind → Bool
  | .publish _ | .publishMessage _ _ => true
  | _ => false

def Request.consumes : Topic.Request kind → Bool
  | .receive _ | .receivePayload | .drain | .receiveMessage _ => true
  | _ => false

def Request.offered : Topic.Request kind → Option Bytes
  | .publish payload => some payload
  | .publishMessage shape message => some (shape.bytes message)
  | _ => none

def Held (topic : Topic kind) (bus : Bus) : Prop :=
  bus.storages[topic.storage]?.map (·.ring.layout.kind) = some kind

instance (topic : Topic kind) (bus : Bus) : Decidable (topic.Held bus) :=
  inferInstanceAs (Decidable (_ = _))

end Topic

inductive Publisher.Request : Kind → Type
  | publish {kind : Kind} (payload : Bytes) : Request kind
  | publishMessage (shape : Shape) (message : shape.Value) : Request .typed

def Publisher.perform : {kind : Kind} → Publisher kind → Publisher.Request kind → Op Bus Receipt
  | _, publisher, .publish payload => publisher.topic.submit payload (publisher.publish payload)
  | _, publisher, .publishMessage shape message =>
    publisher.topic.submit (shape.bytes message) (publisher.publishMessage shape message)

inductive Subscriber.Request : Kind → Type
  | look {kind : Kind} : Request kind
  | seeAll {kind : Kind} : Request kind
  | receive {kind : Kind} (buffer : Bytes) : Request kind
  | readLatest {kind : Kind} (buffer : Bytes) : Request kind
  | poll {kind : Kind} (buffer : Bytes) : Request kind
  | drain : Request .byte
  | receiveMessage (shape : Shape) : Request .typed
  | pollMessage (shape : Shape) : Request .typed

namespace Subscriber

variable {kind : Kind}

def perform : {kind : Kind} → Subscriber kind → Subscriber.Request kind → Op Bus Receipt
  | _, subscriber, .look => do let _ ← subscriber.isBehind; let _ ← subscriber.missed; return {}
  | _, subscriber, .seeAll => do subscriber.seeAll; return {}
  | _, subscriber, .receive buffer => do return .ofRead (← subscriber.receive.lending buffer)
  | _, subscriber, .readLatest buffer => do
    let _ ← subscriber.readLatest.lending buffer; return {}
  | _, subscriber, .poll buffer => do let _ ← subscriber.poll.lending buffer; return {}
  | _, subscriber, .drain => do return { delivered := ← subscriber.drain }
  | _, subscriber, .receiveMessage shape => do
    return .ofMessage shape (← subscriber.receiveMessage shape)
  | _, subscriber, .pollMessage shape => do let _ ← subscriber.pollMessage shape; return {}

def Request.consumes : Subscriber.Request kind → Bool
  | .receive _ | .drain | .receiveMessage _ => true
  | _ => false

def Held (subscriber : Subscriber kind) (bus : Bus) : Prop :=
  subscriber.topic.Held bus ∧ subscriber.mark < bus.seen.size

instance (subscriber : Subscriber kind) (bus : Bus) : Decidable (subscriber.Held bus) :=
  inferInstanceAs (Decidable (_ ∧ _))

end Subscriber

def Bus.provide (memory : Nat) : Op Bus Unit := modify fun bus => { bus with memory }

/-- What users do, and that the system has memory for larger blocks from now on or for smaller ones
only. -/
inductive Bus.Request : Type
  | create (kind : Kind) (spec : TopicSpec)
  | provide (memory : Nat)
  | subscribe {kind : Kind} (handle : Topic kind)
  | topic {kind : Kind} (handle : Topic kind) (request : Topic.Request kind)
  | publisher {kind : Kind} (handle : Publisher kind) (request : Publisher.Request kind)
  | subscriber {kind : Kind} (handle : Subscriber kind) (request : Subscriber.Request kind)

namespace Bus.Request

def perform : Bus.Request → Op Bus Receipt
  | create kind spec => do let _ ← Topic.detached kind spec; return {}
  | provide memory => do Bus.provide memory; return {}
  | subscribe handle => do let _ ← Subscriber.create handle; return {}
  | topic handle request => handle.perform request
  | publisher handle request => handle.perform request
  | subscriber handle request => handle.perform request

def Held : Bus.Request → Bus → Prop
  | create _ _, _ | provide _, _ => True
  | subscribe handle, bus => handle.Held bus
  | topic handle _, bus => handle.Held bus
  | publisher handle _, bus => handle.topic.Held bus
  | subscriber handle _, bus => handle.Held bus

instance : (request : Bus.Request) → (bus : Bus) → Decidable (request.Held bus)
  | create _ _, _ | provide _, _ => inferInstanceAs (Decidable True)
  | subscribe handle, bus => inferInstanceAs (Decidable (handle.Held bus))
  | topic handle _, bus => inferInstanceAs (Decidable (handle.Held bus))
  | publisher handle _, bus => inferInstanceAs (Decidable (handle.topic.Held bus))
  | subscriber handle _, bus => inferInstanceAs (Decidable (handle.Held bus))

/-- The storage whose entries a request may add to, drop or consume. -/
def touched : Bus.Request → Option Nat
  | topic handle request =>
    if request.publishes || request.consumes then some handle.storage else none
  | publisher handle _ => some handle.topic.storage
  | subscriber handle request => if request.consumes then some handle.topic.storage else none
  | _ => none

def publishes : Bus.Request → Bool
  | topic _ request => request.publishes
  | publisher _ _ => true
  | _ => false

end Bus.Request

def Topic.Request.Follows (rel : Storage → Storage → Prop) (name : String) :
    {kind : Kind} → Topic.Request kind → Prop
  | _, .look => True
  | _, .slotImage epoch => (Storage.slotImage name epoch).Follows rel
  | _, .resetCounters => Storage.resetCounters.Follows rel
  | _, .publish payload => (Storage.publish name payload).Follows rel
  | _, .receive _ => (Storage.receive name).Follows (InvImage rel Reading.source)
  | _, .readLatest _ => (Storage.readLatest name).Follows (InvImage rel Reading.source)
  | _, .readOldest _ => (Storage.readOldest name).Follows (InvImage rel Reading.source)
  | _, .receivePayload => (Storage.receivePayload name).Follows rel
  | _, .latestPayload => (Storage.latestPayload name).Follows rel
  | _, .drain => (Storage.drain name).Follows rel
  | _, .publishMessage shape message => (Storage.publishMessage name shape message).Follows rel
  | _, .receiveMessage shape => (Storage.receiveMessage name shape).Follows rel
  | _, .latestMessage shape => (Storage.latestMessage name shape).Follows rel

def Publisher.Request.asked : {kind : Kind} → Publisher.Request kind → Topic.Request kind
  | _, .publish payload => .publish payload
  | _, .publishMessage shape message => .publishMessage shape message

/-- What the topic of a subscriber is asked for, at most. -/
def Subscriber.Request.asked : {kind : Kind} → Subscriber.Request kind → Topic.Request kind
  | _, .look | _, .seeAll => .look
  | _, .receive buffer => .receive buffer
  | _, .readLatest buffer | _, .poll buffer => .readLatest buffer
  | _, .drain => .drain
  | _, .receiveMessage shape => .receiveMessage shape
  | _, .pollMessage shape => .latestMessage shape

def Bus.Request.Follows (rel : Nat → Storage → Storage → Prop) : Bus.Request → Prop
  | create _ _ | subscribe _ | provide _ => True
  | topic handle request => request.Follows (rel handle.storage) handle.name
  | publisher handle request => request.asked.Follows (rel handle.topic.storage) handle.topic.name
  | subscriber handle request => request.asked.Follows (rel handle.topic.storage) handle.topic.name

/-- The calls that all others on a storage are made of follow the relation. -/
structure Storage.Covered (way : Storage → Storage → Prop) : Prop where
  publish : ∀ name payload, (Storage.publish name payload).Follows way
  receive : ∀ name, (Storage.receive name).Follows (InvImage way Reading.source)
  readLatest : ∀ name, (Storage.readLatest name).Follows (InvImage way Reading.source)
  readOldest : ∀ name, (Storage.readOldest name).Follows (InvImage way Reading.source)
  resetCounters : Storage.resetCounters.Follows way

theorem Topic.Request.follows_covered {kind : Kind} {way : Storage → Storage → Prop}
    [IsPreorder Storage way] (h : Storage.Covered way) (request : Topic.Request kind)
    (name : String) : request.Follows way name := by
  cases request with
  | look => trivial
  | slotImage epoch => exact Storage.slotImage_follows epoch
  | resetCounters => exact h.resetCounters
  | publish payload => exact h.publish name payload
  | receive buffer => exact h.receive name
  | readLatest buffer => exact h.readLatest name
  | readOldest buffer => exact h.readOldest name
  | receivePayload => exact Storage.receivePayload_follows (h.receive name)
  | latestPayload => exact Storage.latestPayload_follows (h.readLatest name)
  | drain => exact Storage.drain_follows (h.receive name)
  | publishMessage shape message => exact Storage.publishMessage_follows message (h.publish name)
  | receiveMessage shape => exact Storage.readMessage_follows shape (h.receive name)
  | latestMessage shape => exact Storage.readMessage_follows shape (h.readLatest name)

section Along

variable {kind : Kind} {rel : Nat → Storage → Storage → Prop}
  [∀ index, IsPreorder Storage (rel index)]

theorem Topic.submit_along (topic : Topic kind) (payload : Bytes) {publish : Op Bus Nat}
    (h : publish.Follows (Bus.Along rel)) :
    (topic.submit payload publish).Follows (Bus.Along rel) := by
  refine topic.state_along.bind fun _ => h.bind fun _ => ?_
  exact topic.state_along.bind fun _ => .pure _

theorem Topic.perform_along (topic : Topic kind) (request : Topic.Request kind)
    (h : request.Follows (rel topic.storage) topic.name) :
    (topic.perform request).Follows (Bus.Along rel) := by
  cases request with
  | look => exact topic.state_along.bind fun _ => .pure _
  | publish payload | publishMessage shape message =>
      exact topic.submit_along _ (topic.access_along h)
  | receive buffer | readLatest buffer | readOldest buffer =>
      exact (Follows.lending buffer (topic.accessReading_along h)).bind fun _ => .pure _
  | slotImage epoch | receiveMessage shape | latestMessage shape | resetCounters | receivePayload |
    latestPayload | drain => exact (topic.access_along h).bind fun _ => .pure _

theorem Publisher.perform_along (publisher : Publisher kind) (request : Publisher.Request kind)
    (h : request.asked.Follows (rel publisher.topic.storage) publisher.topic.name) :
    (publisher.perform request).Follows (Bus.Along rel) := by
  cases request with
  | publish payload | publishMessage shape message =>
      exact publisher.topic.submit_along _ (publisher.topic.access_along h)

theorem Subscriber.perform_along (subscriber : Subscriber kind) (request : Subscriber.Request kind)
    (h : request.asked.Follows (rel subscriber.topic.storage) subscriber.topic.name) :
    (subscriber.perform request).Follows (Bus.Along rel) := by
  let topic := subscriber.topic
  cases request with
  | look =>
      refine subscriber.isBehind_along.bind fun _ => ?_
      exact subscriber.missed_along.bind fun _ => .pure _
  | seeAll => exact subscriber.seeAll_along.bind fun _ => .pure _
  | receive buffer =>
      have hreceive := subscriber.receive_along (topic.accessReading_along h)
      exact (hreceive.lending buffer).bind fun _ => .pure _
  | readLatest buffer =>
      exact (Follows.lending buffer (topic.accessReading_along h)).bind fun _ => .pure _
  | poll buffer =>
      have hpoll := subscriber.poll_along (topic.accessReading_along h)
      exact (hpoll.lending buffer).bind fun _ => .pure _
  | drain => exact (subscriber.drain_along (topic.access_along h)).bind fun _ => .pure _
  | receiveMessage shape =>
      exact (subscriber.receiveMessage_along shape (topic.access_along h)).bind fun _ => .pure _
  | pollMessage shape =>
      exact (subscriber.pollMessage_along shape (topic.access_along h)).bind fun _ => .pure _

theorem Bus.provide_along (memory : Nat) : (provide memory).Follows (Bus.Along rel) :=
  fun _ _ => ⟨Nat.le_refl _, fun _ old h => ⟨old, h, refl old⟩⟩

theorem Bus.Request.perform_along (request : Bus.Request) (h : request.Follows rel) :
    request.perform.Follows (Bus.Along rel) := by
  cases request with
  | create kind spec => exact (Topic.ofSpec_along kind spec .detached).bind fun _ => .pure _
  | provide memory => exact (Bus.provide_along memory).bind fun _ => .pure _
  | subscribe handle =>
      exact (Bus.addSubscriber_along.bind fun _ => .pure _).bind fun _ => .pure _
  | topic handle request => exact handle.perform_along request h
  | publisher handle request => exact handle.perform_along request h
  | subscriber handle request => exact handle.perform_along request h

/-- Whatever is asked of a bus, all its storages follow a relation that the calls follow which all
others are made of. -/
theorem Bus.Request.perform_covered (request : Bus.Request) {way : Storage → Storage → Prop}
    [IsPreorder Storage way] (h : Storage.Covered way) :
    request.perform.Follows (Bus.Along fun _ => way) := by
  apply request.perform_along
  cases request with
  | create kind spec | subscribe handle | provide memory => trivial
  | topic handle request => exact request.follows_covered h handle.name
  | publisher handle request => exact request.asked.follows_covered h handle.topic.name
  | subscriber handle request => exact request.asked.follows_covered h handle.topic.name

end Along

theorem Topic.Request.follows_spared {kind : Kind} (request : Topic.Request kind) {index : Nat}
    {touched : Option Nat} (name : String)
    (h : request.publishes || request.consumes → touched = some index) :
    request.Follows (Storage.Spared touched index) name := by
  have hlatest : (Storage.readLatest name).Follows
      (InvImage (Storage.Spared touched index) Reading.source) :=
    fun call log _ => Storage.readLatest_retains call log
  cases request with
  | look => trivial
  | slotImage epoch => exact Storage.slotImage_follows epoch
  | resetCounters => exact fun storage log _ => Storage.resetCounters_retains storage log
  | readLatest buffer => exact hlatest
  | readOldest buffer => exact fun call log _ => Storage.readOldest_retains call log
  | latestPayload => exact Storage.latestPayload_follows hlatest
  | latestMessage shape => exact Storage.readMessage_follows shape hlatest
  | publish payload | publishMessage shape message | receive buffer | receiveMessage shape |
    receivePayload | drain => exact fun _ _ hne => absurd (h rfl).symm hne

theorem Bus.Request.perform_apart (request : Bus.Request) :
    request.perform.Follows (Bus.Apart request.touched) := by
  have hspared : request.Follows (Storage.Spared request.touched) := by
    cases request with
    | create kind spec | subscribe handle | provide memory => trivial
    | topic handle request => exact request.follows_spared handle.name fun h => if_pos h
    | publisher handle request => exact request.asked.follows_spared handle.topic.name fun _ => rfl
    | subscriber handle request =>
        apply request.asked.follows_spared handle.topic.name
        cases request with
        | look | seeAll | readLatest buffer | poll buffer | pollMessage shape => rintro ⟨⟩
        | receive buffer | drain | receiveMessage shape => exact fun _ => rfl
  exact (request.perform_along hspared).mono fun _ _ => Bus.Along.apart

end TopicBus
