import TopicBus.Topic.Basic

/-!
The subscribing side of a topic. A subscriber remembers the latest epoch that it has seen, so it
can tell whether there is anything new and how much it missed. Reading the latest entry without
polling for it does not count as seeing it.
-/

namespace TopicBus

structure Subscriber (kind : Kind) where
  topic : Topic kind
  /-- Where the bus keeps the latest epoch seen. -/
  mark : Nat
  deriving DecidableEq, Repr

namespace Subscriber

variable {kind : Kind} {α : Type}

def create (topic : Topic kind) : Op Bus (Subscriber kind) := do
  return ⟨topic, ← Bus.addSubscriber⟩

def latestSeen (subscriber : Subscriber kind) : Op Bus Nat := do
  match (← get).seen[subscriber.mark]? with
  | some epoch => return epoch
  | none => Op.fail .danglingHandle

/-- Notes an epoch as seen; an older one than was seen before changes nothing. -/
def see (subscriber : Subscriber kind) (epoch : Nat) : Op Bus Unit := do
  let latest := max (← subscriber.latestSeen) epoch
  modify fun bus => { bus with seen := bus.seen.setIfInBounds subscriber.mark latest }

def isBehind (subscriber : Subscriber kind) : Op Bus Bool := do
  return decide ((← subscriber.latestSeen) < (← subscriber.topic.lastEpoch))

/-- How many epochs lie strictly between the latest seen and the latest of all. -/
def missed (subscriber : Subscriber kind) : Op Bus Nat := do
  return (← subscriber.topic.lastEpoch) - (← subscriber.latestSeen) - 1

def seeAll (subscriber : Subscriber kind) : Op Bus Unit := do
  subscriber.see (← subscriber.topic.lastEpoch)

def receive (subscriber : Subscriber kind) : Op (Reading Bus) (Option Delivery) := do
  let received ← subscriber.topic.receive
  if let some entry := received then
    Op.onSource (subscriber.see entry.epoch)
  return received

/-- Copies the latest entry; this does not count as seeing it. -/
def readLatest (subscriber : Subscriber kind) : Op (Reading Bus) (Option Delivery) :=
  subscriber.topic.readLatest

def accept (subscriber : Subscriber kind) (found : Option (α × Nat)) :
    Op Bus (Option (α × Nat)) := do
  match found with
  | none => return none
  | some (entry, epoch) =>
    if (← subscriber.latestSeen) < epoch then
      subscriber.see epoch
      return some (entry, epoch)
    else
      return none

def poll (subscriber : Subscriber kind) : Op (Reading Bus) (Option Delivery) := do
  if ← Op.onSource subscriber.isBehind then
    let found := (← subscriber.topic.readLatest).map fun entry => (entry, entry.epoch)
    return (← Op.onSource (subscriber.accept found)).map Prod.fst
  else
    return none

def drain (subscriber : Subscriber .byte) : Op Bus (List (Bytes × Nat)) := do
  let entries ← subscriber.topic.drain
  if let some (_, epoch) := entries.getLast? then
    subscriber.see epoch
  return entries

def receiveMessage (subscriber : Subscriber .typed) (shape : Shape) :
    Op Bus (Option (shape.Value × Nat)) := do
  let received ← subscriber.topic.receiveMessage shape
  if let some (_, epoch) := received then
    subscriber.see epoch
  return received

def pollMessage (subscriber : Subscriber .typed) (shape : Shape) :
    Op Bus (Option (shape.Value × Nat)) := do
  if ← subscriber.isBehind then
    subscriber.accept (← subscriber.topic.latestMessage shape)
  else
    return none

def inspect (subscriber : Subscriber kind) : Op Bus String := do
  return Text.record "Subscriber"
    [("topic", ← subscriber.topic.inspect), ("last_seen", toString (← subscriber.latestSeen))]

end Subscriber

end TopicBus
