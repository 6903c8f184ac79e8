import TopicBus.Topic.Storage

/-!
The shared state behind all handles: the storages of the topics, and for every subscriber the
latest epoch that it has seen. Both are only ever added, so a handle keeps its meaning for good.
-/

namespace TopicBus

structure Bus where
  storages : Array Storage := #[]
  seen : Array Nat := #[]
  /-- Blocks of memory from this size on cannot be had. -/
  memory : Nat := Limits.addressSpace

namespace Bus

def addStorage (storage : Storage) : Op Bus Nat := do
  let bus ← get
  set { bus with storages := bus.storages.push storage }
  return bus.storages.size

def addSubscriber : Op Bus Nat := do
  let bus ← get
  set { bus with seen := bus.seen.push 0 }
  return bus.seen.size

end Bus

end TopicBus
