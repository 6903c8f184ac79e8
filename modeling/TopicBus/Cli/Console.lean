import TopicBus.Operation
import TopicBus.Bus

/-!
The surroundings of a command: where its lines go, and what time it is. Commands run in any monad
that provides a console, so they can be run against a clock that stands still as well.
-/

namespace TopicBus.Cli

variable {m : Type → Type} {α : Type}

structure Console (m : Type → Type) where
  print : String → m Unit
  /-- Nanoseconds on a clock that never goes back. -/
  clock : m Nat
  /-- Waits for that many microseconds. -/
  pause : Nat → m Unit

abbrev Work (m : Type → Type) (α : Type) := ExceptT Failure (StateT Bus m) α

/-- An operation of the bus as a step of a command; what it logs is dropped. -/
def perform [Monad m] (op : Op Bus α) : Work m α :=
  ExceptT.mk fun bus => pure (op.exec bus #[]).1

def Console.printAll [Monad m] (console : Console m) : List String → m Unit
  | [] => pure ()
  | line :: lines => do
    console.print line
    console.printAll lines

end TopicBus.Cli
