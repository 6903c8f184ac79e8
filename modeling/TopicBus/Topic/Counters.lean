/-!
Counters of a topic. They are 64-bit words and wrap around.
-/

namespace TopicBus

structure Counters where
  published : UInt64 := 0
  consumed : UInt64 := 0
  overwritten : UInt64 := 0
  /-- Publishes refused for their size. -/
  rejected : UInt64 := 0
  /-- Entries handed out by reads that leave them in place. -/
  peeked : UInt64 := 0
  deriving DecidableEq, Repr

namespace Counters

def countPublished (c : Counters) : Counters := { c with published := c.published + 1 }

def countConsumed (c : Counters) : Counters := { c with consumed := c.consumed + 1 }

def countOverwritten (entries : Nat) (c : Counters) : Counters :=
  { c with overwritten := c.overwritten + UInt64.ofNat entries }

def countRejected (c : Counters) : Counters := { c with rejected := c.rejected + 1 }

def countPeeked (c : Counters) : Counters := { c with peeked := c.peeked + 1 }

/-- The share of published messages that were consumed; 1 if none was published. -/
def deliveredShare (c : Counters) : Float :=
  if c.published = 0 then 1.0 else c.consumed.toFloat / c.published.toFloat

end Counters

end TopicBus
