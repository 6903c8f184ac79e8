import TopicBus.Cli.Console
import TopicBus.Cli.Resources
import TopicBus.Publisher
import TopicBus.Registry.Basic
import TopicBus.Subscriber
import TopicBus.Text.Span
import TopicBus.Word

/-!
Puts one topic under load: publishers fill it with messages that can be checked, consumers empty it
and check them. The publishers take their turns one after the other, then the consumers do.
-/

namespace TopicBus.Cli

variable {m : Type → Type} [Monad m]

structure Haul where
  received : Nat := 0
  corrupt : Nat := 0

namespace Stress

structure Options where
  publishers : Nat
  consumers : Nat
  messages : Nat
  capacity : Nat

def publisherCount (options : Options) : Nat := options.publishers % 4294967296

/-- Hires the publishers, then the consumers, which are counted together by one word. Each publisher
keeps a row of the epochs that it was given. -/
def prepare (options : Options) : Except Fault Unit := do
  let publishers := publisherCount options
  let _ ← Word.add options.publishers options.consumers
  hire 0 publishers
  hire publishers options.consumers
  if 0 < publishers then reserve options.messages 8

/-- A message that can be checked: its publisher, its place in the row, and both combined. -/
def payload (publisher sequence : Nat) : Bytes :=
  Bytes.ofNat 4 publisher ++ Bytes.ofNat 4 sequence ++ Bytes.ofNat 8 (publisher ^^^ sequence)

def isIntact (bytes : Bytes) : Bool :=
  Bytes.toNat (bytes.drop 8) ==
    (Bytes.toNat (bytes.take 4) ^^^ Bytes.toNat ((bytes.drop 4).take 4))

def publishRow (publisher : Publisher .byte) (id total : Nat) :
    (left : Nat) → (epochs : List Nat) → Op Bus (List Nat)
  | 0, epochs => return epochs
  | left + 1, epochs => do
    let epoch ← publisher.publish (payload id (total - (left + 1)))
    publishRow publisher id total left (epoch :: epochs)

def publishRows (publisher : Publisher .byte) (publishers messages : Nat) :
    (left : Nat) → (epochs : List Nat) → Op Bus (List Nat)
  | 0, epochs => return epochs
  | left + 1, epochs => do
    let epochs ← publishRow publisher (publishers - (left + 1)) messages messages epochs
    publishRows publisher publishers messages left epochs

def consume (subscriber : Subscriber .byte) :
    (bound : Nat) → (haul : Haul) → Op Bus Haul
  | bound, haul => do
    let (received, buffer) ← subscriber.receive.lending (Bytes.zeros 16)
    match received, bound with
    | none, _ => return haul
    | some _, 0 => Op.fail .stalled
    | some _, bound + 1 =>
      let corrupt := haul.corrupt + if isIntact buffer then 0 else 1
      consume subscriber bound ⟨haul.received + 1, corrupt⟩

def consumeAll (topic : Topic .byte) : (consumers : Nat) → (haul : Haul) → Op Bus Haul
  | 0, haul => return haul
  | consumers + 1, haul => do
    let unread ← topic.length
    if unread = 0 then
      return haul
    else
      let haul ← consume (← Subscriber.create topic) unread haul
      consumeAll topic consumers haul

def isGapFree (epochs : List Nat) : Bool :=
  epochs.mergeSort == List.range' 1 epochs.length

def run (console : Console m) (options : Options) : Work m Unit := do
  console.print <| "Stress: " ++ toString options.publishers ++ " publishers x " ++
    toString options.messages ++ " messages, " ++ toString options.consumers ++
    " consumers, capacity " ++ toString options.capacity
  let topic ← perform (Registry.withNew (Registry.obtainByte "/stress" options.capacity))
  prepare options
  let start ← console.clock
  let publishers := publisherCount options
  let epochs ← perform (publishRows ⟨topic⟩ publishers options.messages publishers [])
  let haul ← perform (consumeAll topic options.consumers {})
  let elapsed := (← console.clock) - start
  let counters ← perform topic.counters
  let published := counters.published.toNat
  console.printAll
    ["", "Results:",
      "  Published: " ++ toString published,
      "  Consumed: " ++ toString haul.received,
      "  Overwritten: " ++ toString counters.overwritten.toNat,
      "  Corrupt payloads: " ++ toString haul.corrupt,
      "  Epochs gap-free: " ++ toString (isGapFree epochs),
      "  Total time: " ++ Text.fixed elapsed 1000000 2 ++ "ms",
      "  Publish rate: " ++ Text.fixed (published * 1000000000) elapsed 0 ++ " msgs/sec"]

end Stress

end TopicBus.Cli
