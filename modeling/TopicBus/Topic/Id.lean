import TopicBus.Text.Record

/-!
Identities of topics: a place in the registry's table and the generation of that place. A place
changes its generation whenever its topic is released, so an old identity designates nothing.
-/

namespace TopicBus

structure TopicId where
  index : UInt32
  generation : UInt32
  deriving DecidableEq, Repr

namespace TopicId

def detached : TopicId := ⟨4294967295, 0⟩

def isDetached (id : TopicId) : Bool := id.generation == 0

/-- The identity as one word: the generation in the high half, the place in the low half. -/
def raw (id : TopicId) : UInt64 :=
  UInt64.ofNat (id.generation.toNat * 4294967296 + id.index.toNat)

/-- The identity that a word stands for; a word without a generation stands for none. -/
def ofRaw? (raw : UInt64) : Option TopicId :=
  let generation := UInt32.ofNat (raw.toNat / 4294967296)
  if generation = 0 then none else some ⟨UInt32.ofNat raw.toNat, generation⟩

/-- The generation after `g`; zero is left out, it marks detached topics. -/
def nextGeneration (g : UInt32) : UInt32 :=
  if g + 1 = 0 then 1 else g + 1

def text (id : TopicId) : String :=
  if id.isDetached then "topic#detached"
  else "topic#" ++ toString id.index.toNat ++ "v" ++ toString id.generation.toNat

def inspect (id : TopicId) : String :=
  Text.record "TopicId"
    [("index", toString id.index.toNat), ("generation", toString id.generation.toNat)]

end TopicId

end TopicBus
