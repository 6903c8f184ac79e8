import TopicBus.Registry.Settings
import TopicBus.Registry.Counters
import TopicBus.Registry.Directory

/-!
Registries: they own topics, create them when they are first asked for, find them by name or
identity, and release them. A request whose parameters disagree with the topic under the name is
refused, never bent.
-/

namespace TopicBus

structure Registry where
  settings : RegistrySettings := {}
  directory : Directory := {}
  counters : RegistryCounters := {}

structure Session where
  registry : Registry
  bus : Bus

namespace Registry

variable {α : Type}

def create (settings : RegistrySettings) : Except Refusal Registry := do
  settings.check
  return { settings }

def size (registry : Registry) : Nat := registry.directory.names.size

def contains (registry : Registry) (name : String) : Bool :=
  registry.directory.names.contains name

def onBus (op : Op Bus α) : Op Session α :=
  op.within Session.bus fun bus session => { session with bus }

/-- An operation on a new registry with the usual settings, which is forgotten afterwards. -/
def withNew (op : Op Session α) : Op Bus α :=
  op.within (fun bus => ⟨{}, bus⟩) fun session _ => session.bus

def getDirectory : Op Session Directory := do return (← get).registry.directory

def setDirectory (directory : Directory) : Op Session Unit :=
  modify fun session => { session with registry := { session.registry with directory } }

def count (step : RegistryCounters → RegistryCounters) : Op Session Unit :=
  modify fun session =>
    { session with registry :=
      { session.registry with counters := step session.registry.counters } }

/-- Whether the topic under a name is the one that was asked for; its payload size matters only
where the request is exact. -/
def matching (kind : Kind) (existing : SomeTopic) (ring : Ring) (spec : TopicSpec)
    (exact : Bool) : Except Refusal (Topic kind) :=
  match existing.ofKind? kind with
  | none => .error (.kindMismatch spec.name existing.kind kind)
  | some topic =>
    if ring.capacity ≠ spec.capacity then
      .error (.capacityMismatch spec.name ring.capacity spec.capacity)
    else if exact ∧ ring.layout.payloadSize ≠ spec.payloadSize then
      .error (.sizeMismatch ring.layout.payloadSize spec.payloadSize)
    else
      .ok topic

def obtainExisting (kind : Kind) (existing : SomeTopic) (spec : TopicSpec) (exact : Bool) :
    Op Session (Topic kind) := do
  let ring := (← onBus existing.topic.state).ring
  match matching kind existing ring spec exact with
  | .ok topic => return topic
  | .error reason =>
    count RegistryCounters.countMismatch
    Op.log (.lookupRefused spec.name reason)
    Op.refuse reason

def register (kind : Kind) (spec : TopicSpec) : Op Session (Topic kind) := do
  let registry := (← get).registry
  let max := registry.settings.maxTopics
  if max ≤ registry.size then
    Op.log (.registryFull max spec.name)
    Op.refuse (.allocationFailure s!"Registry limit of {max} topics reached")
  else
    let id ← registry.directory.freshId
    let topic ← onBus (Topic.ofSpec kind spec id)
    setDirectory (← registry.directory.insert id ⟨kind, topic⟩)
    count RegistryCounters.countCreated
    Op.log (.topicRegistered kind spec.name id)
    return topic

/-- The topic under the name of `spec`, created if there is none. -/
def obtain (kind : Kind) (spec : TopicSpec) (exact : Bool) : Op Session (Topic kind) := do
  spec.check
  count RegistryCounters.countLookup
  match (← getDirectory).named? spec.name with
  | some existing => obtainExisting kind existing spec exact
  | none => register kind spec

/-- A byte topic of any payload bound; a new one gets the bound of the registry. -/
def obtainByte (name : String) (capacity : Nat) : Op Session (Topic .byte) := do
  let payloadSize := (← get).registry.settings.payloadBound
  obtain .byte { TopicSpec.byte name capacity with payloadSize } false

def obtainBounded (name : String) (capacity payloadSize : Nat) : Op Session (Topic .byte) :=
  obtain .byte { TopicSpec.byte name capacity with payloadSize } true

def obtainTyped (name : String) (capacity messageSize : Nat) : Op Session (Topic .typed) :=
  obtain .typed (.typed name capacity messageSize) true

def find (kind : Kind) (name : String) : Op Session (Topic kind) := do
  count RegistryCounters.countLookup
  match (← getDirectory).named? name with
  | none => Op.refuse (.notFound name)
  | some existing =>
    match existing.ofKind? kind with
    | some topic => return topic
    | none =>
      count RegistryCounters.countMismatch
      Op.refuse (.kindMismatch name existing.kind kind)

def resolve (id : TopicId) : Op Session SomeTopic := do
  match (← getDirectory).get? id with
  | some existing => return existing
  | none => Op.refuse (.notFound id.text)

def resolveKind (kind : Kind) (id : TopicId) : Op Session (Topic kind) := do
  let existing ← resolve id
  match existing.ofKind? kind with
  | some topic => return topic
  | none => Op.refuse (.kindMismatch existing.topic.name existing.kind kind)

/-- All topics, sorted by name. -/
def topics : Op Session (List SomeTopic.Summary) := do
  let found ← onBus ((← getDirectory).entries.mapM SomeTopic.summary)
  return found.mergeSort fun a b => decide (a.name ≤ b.name)

def retire (entry : SomeTopic) (id : TopicId) : Op Session Unit := do
  onBus entry.topic.setReleased
  count RegistryCounters.countReleased
  Op.log (.topicReleased entry.kind entry.topic.name id)

def release (id : TopicId) : Op Session Unit := do
  match (← getDirectory).remove id with
  | none => Op.refuse (.notFound id.text)
  | some (entry, directory) =>
    setDirectory directory
    retire entry id

def releaseNamed (name : String) : Op Session Unit := do
  let directory ← getDirectory
  match directory.names[name]? with
  | none => Op.refuse (.notFound name)
  | some id =>
    match directory.remove id with
    | none => Op.refuse (.notFound name)
    | some (entry, directory) =>
      setDirectory directory
      retire entry entry.topic.id

def releaseAll : Op Session Unit := do
  let entries := (← getDirectory).entries
  setDirectory {}
  entries.forM fun entry => do
    onBus entry.topic.setReleased
    count RegistryCounters.countReleased
  if entries ≠ [] then
    Op.log (.registryDropped entries.length)

end Registry

end TopicBus
