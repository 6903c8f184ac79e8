/-!
Breaches of the bus's own invariants, and demands that no system can meet. A fault is never an
answer to a caller: an operation that meets one stops at once, and the boundary turns it into a
status of its own.
-/

namespace TopicBus

inductive Fault
  | overflow
  | oversized
  | outOfMemory
  | outOfWorkers
  | outOfRange
  | emptyChunk
  /-- Two records that must agree do not. -/
  | inconsistent
  /-- A retry that can only fail again. -/
  | stalled
  | danglingHandle
  deriving DecidableEq, Repr

end TopicBus
