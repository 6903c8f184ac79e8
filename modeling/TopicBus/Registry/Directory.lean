import Std.Data.TreeMap
import TopicBus.Topic.Basic

/-!
The directory of a registry: a row of places that hold topics, the names of the topics, and the
places that stand empty, the one emptied last first. A place changes its generation when its topic
leaves, so that identities issued before designate nothing any more.
-/

namespace TopicBus

structure Place where
  generation : UInt32
  entry : Option SomeTopic

structure Directory where
  names : Std.TreeMap String TopicId := {}
  places : Array Place := #[]
  free : List UInt32 := []

namespace Directory

def get? (directory : Directory) (id : TopicId) : Option SomeTopic :=
  match directory.places[id.index.toNat]? with
  | some place => if place.generation = id.generation then place.entry else none
  | none => none

def named? (directory : Directory) (name : String) : Option SomeTopic :=
  directory.names[name]?.bind directory.get?

def entries (directory : Directory) : List SomeTopic :=
  directory.places.toList.filterMap Place.entry

/-- An identity with the given parts; generation zero is never issued. -/
def issue (index generation : UInt32) : Except Failure TopicId :=
  if generation = 0 then .error (.fault .inconsistent) else .ok ⟨index, generation⟩

/-- The identity of the next topic: the place emptied last, or else a new one. -/
def freshId (directory : Directory) : Except Failure TopicId :=
  match directory.free with
  | index :: _ =>
    match directory.places[index.toNat]? with
    | some place => issue index place.generation
    | none => .error (.fault .outOfRange)
  | [] =>
    if directory.places.size < Limits.registryTopics then
      issue (UInt32.ofNat directory.places.size) 1
    else
      .error (.refused (.allocationFailure "Topic slab exhausted"))

def prepare (directory : Directory) (id : TopicId) : Except Fault Directory :=
  if directory.free.head? = some id.index then
    .ok { directory with free := directory.free.tail }
  else if directory.places.size = id.index.toNat then
    .ok { directory with places := directory.places.push ⟨id.generation, none⟩ }
  else
    .error .inconsistent

def insert (directory : Directory) (id : TopicId) (entry : SomeTopic) :
    Except Fault Directory := do
  let directory ← directory.prepare id
  match directory.places[id.index.toNat]? with
  | none => .error .outOfRange
  | some place =>
    let places := directory.places.setIfInBounds id.index.toNat { place with entry := some entry }
    return { directory with places, names := directory.names.insert entry.topic.name id }

/-- The topic that an identity designates, and the directory without it. -/
def remove (directory : Directory) (id : TopicId) : Option (SomeTopic × Directory) :=
  (directory.get? id).map fun entry =>
    let place := ⟨TopicId.nextGeneration id.generation, none⟩
    (entry, {
      names := directory.names.erase entry.topic.name
      places := directory.places.setIfInBounds id.index.toNat place
      free := id.index :: directory.free })

end Directory

end TopicBus
