import TopicBus.Fault
import TopicBus.Limits

namespace TopicBus.Cli

def reserve (count size : Nat) : Except Fault Unit :=
  if Limits.block ≤ count * size then .error .oversized
  else if Limits.memory ≤ count * size then .error .outOfMemory
  else .ok ()

/-- Hires `count` workers beside those that run already. Each takes three words of memory. -/
def hire (running count : Nat) : Except Fault Unit := do
  reserve count 24
  if running + count < Limits.workers then return else throw .outOfWorkers

end TopicBus.Cli
