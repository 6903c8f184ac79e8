/-!
Counters of a registry. They are 64-bit words and wrap around.
-/

namespace TopicBus

structure RegistryCounters where
  created : UInt64 := 0
  released : UInt64 := 0
  /-- Requests for a topic by name. -/
  lookups : UInt64 := 0
  mismatches : UInt64 := 0
  deriving DecidableEq, Repr

namespace RegistryCounters

def countCreated (c : RegistryCounters) : RegistryCounters := { c with created := c.created + 1 }

def countReleased (c : RegistryCounters) : RegistryCounters :=
  { c with released := c.released + 1 }

def countLookup (c : RegistryCounters) : RegistryCounters := { c with lookups := c.lookups + 1 }

def countMismatch (c : RegistryCounters) : RegistryCounters :=
  { c with mismatches := c.mismatches + 1 }

def active (c : RegistryCounters) : Nat := c.created.toNat - c.released.toNat

end RegistryCounters

end TopicBus
