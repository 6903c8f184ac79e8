import TopicBus.Cli.Latency
import TopicBus.Cli.Stress
import TopicBus.Cli.Usage
import TopicBus.Text.Numeral

namespace TopicBus.Cli

variable {m : Type → Type} [Monad m]

inductive Ending
  | done
  | misused
  | failed (failure : Failure)
  deriving DecidableEq, Repr

namespace Ending

/-- The code that a run ends with. One that runs out of memory is ended by the system without a
code. -/
def exitCode : Ending → Option UInt32
  | done => some 0
  | misused => some 1
  | failed (.refused _) => some 1
  | failed (.fault .outOfMemory) => none
  | failed (.fault _) => some 101

def complaint : Ending → Option String
  | failed (.refused reason) => some ("Error: " ++ reason.inspect)
  | _ => none

end Ending

def number (bound : Nat) (values : List (String × String)) (parameter : String) :
    Except Refusal Nat :=
  match (values.lookup parameter).map (Text.numeral? bound) with
  | none => .error (.invalidParameter parameter "missing value")
  | some none => .error (.invalidParameter parameter "invalid number")
  | some (some n) => .ok n

def Latency.Options.ofValues (values : List (String × String)) :
    Except Refusal Latency.Options := do
  let count ← number Limits.word values "count"
  let interval ← number Limits.word values "interval"
  let capacity ← number Limits.word values "capacity"
  return ⟨count, interval, capacity⟩

def Stress.Options.ofValues (values : List (String × String)) :
    Except Refusal Stress.Options := do
  let publishers ← number Limits.word values "publishers"
  let consumers ← number Limits.word values "consumers"
  let messages ← number 4294967296 values "messages"
  let capacity ← number Limits.word values "capacity"
  return ⟨publishers, consumers, messages, capacity⟩

def info : List String :=
  ["epochbus", "Version: " ++ version.text, "",
    "Layout:",
    "  Byte slot: " ++ toString Limits.defaultSlot ++ " bytes (" ++
      toString Limits.byteHeader ++ "-byte header)",
    "  Default max payload: " ++ toString Limits.defaultPayload ++ " bytes",
    "  Typed header: " ++ toString Limits.typedHeader ++ " bytes", "",
    "Features:",
    "  \u2713 C API for foreign function interface"]

def serve (console : Console m) : Request → Work m Unit
  | .nothing => console.print "Use --help for usage information"
  | .usage subject => console.printAll subject.usage
  | .version command => console.print (command.elim Subject.program .command).heading
  | .run .latency values => do Latency.run console (← Latency.Options.ofValues values)
  | .run .stress values => do Stress.run console (← Stress.Options.ofValues values)
  | .run .info _ => console.printAll info

def run (console : Console m) (words : List String) : m Ending := do
  match parse words with
  | none => return .misused
  | some request =>
    match ← (serve console request).run.run' {} with
    | .ok _ => return .done
    | .error failure => return .failed failure

end TopicBus.Cli
