import TopicBus.Cli.Console
import TopicBus.Cli.Resources
import TopicBus.Publisher
import TopicBus.Subscriber
import TopicBus.Text.Span

namespace TopicBus.Cli

variable {m : Type → Type} [Monad m]

structure Observed where
  delays : List Nat := []
  skipped : Nat := 0

namespace Latency

structure Options where
  count : Nat
  interval : Nat
  capacity : Nat

def send (console : Console m) (topic : Topic .byte) : Work m Unit := do
  let sent ← console.clock
  let _ ← perform ((Publisher.mk topic).publish (Bytes.ofNat 8 sent))

def observe (console : Console m) (subscriber : Subscriber .byte) (observed : Observed) :
    Work m Observed := do
  let previous ← perform subscriber.latestSeen
  let (received, buffer) ← perform (subscriber.poll.lending (Bytes.zeros 8))
  match received with
  | none => return observed
  | some entry =>
    let now ← console.clock
    return ⟨(now - Bytes.toNat buffer) :: observed.delays,
      observed.skipped + (entry.epoch - previous - 1)⟩

def measure (console : Console m) (options : Options) (topic : Topic .byte)
    (subscriber : Subscriber .byte) : Nat → Observed → Work m Observed
  | 0, observed => return observed
  | count + 1, observed => do
    send console topic
    let observed ← observe console subscriber observed
    console.pause options.interval
    measure console options topic subscriber count observed

def micros (total count : Nat) : String := Text.fixed total (1000 * count) 2 ++ "\u03bcs"

def summary (observed : Observed) : List String :=
  let sorted := observed.delays.mergeSort
  let count := sorted.length
  let percentile (p : Nat) := micros (sorted.getD ((count - 1) * p / 100) 0) 1
  ["", "Results:",
    "  Observed: " ++ toString count ++ " (skipped " ++ toString observed.skipped ++ ")",
    "  Min: " ++ percentile 0, "  Avg: " ++ micros (sorted.foldl (· + ·) 0) count,
    "  P50: " ++ percentile 50, "  P99: " ++ percentile 99, "  Max: " ++ percentile 100]

def run (console : Console m) (options : Options) : Work m Unit := do
  console.print <| "Measuring latency over " ++ toString options.count ++ " messages (" ++
    Text.span options.interval ++ " apart)"
  let topic ← perform (Topic.detached .byte (.byte "/latency" options.capacity))
  let subscriber ← perform (Subscriber.create topic)
  reserve options.count 8
  let observed ← measure console options topic subscriber options.count {}
  if observed.delays.isEmpty then
    console.print "No messages observed"
  else
    console.printAll (summary observed)

end Latency

end TopicBus.Cli
