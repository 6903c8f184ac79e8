import TopicBus.Fault
import TopicBus.Kind
import TopicBus.Text.Quoted
import TopicBus.Text.Record

namespace TopicBus

inductive Refusal
  | notFound (name : String)
  | kindMismatch (name : String) (existing requested : Kind)
  | capacityMismatch (name : String) (existing requested : Nat)
  | sizeMismatch (expected actual : Nat)
  | payloadTooLarge (size max : Nat)
  | bufferTooSmall (required available : Nat)
  | allocationFailure (message : String)
  | invalidParameter (parameter message : String)
  deriving DecidableEq, Repr

namespace Refusal

def label : Refusal → String
  | notFound _ => "NotFound"
  | kindMismatch _ _ _ => "KindMismatch"
  | capacityMismatch _ _ _ => "CapacityMismatch"
  | sizeMismatch _ _ => "SizeMismatch"
  | payloadTooLarge _ _ => "PayloadTooLarge"
  | bufferTooSmall _ _ => "BufferTooSmall"
  | allocationFailure _ => "AllocationFailure"
  | invalidParameter _ _ => "InvalidParameter"

def message : Refusal → String
  | notFound name => s!"Topic not found: {name}"
  | kindMismatch name existing requested =>
    s!"Topic '{name}' is a {existing.text} topic, requested {requested.text}"
  | capacityMismatch name existing requested =>
    s!"Topic '{name}' has capacity {existing}, requested {requested}"
  | sizeMismatch expected actual =>
    s!"Size mismatch: expected {expected} bytes, got {actual}"
  | payloadTooLarge size max =>
    s!"Payload too large: {size} bytes exceeds maximum {max}"
  | bufferTooSmall required available =>
    s!"Buffer too small: need {required} bytes, have {available}"
  | allocationFailure message => s!"Allocation failure: {message}"
  | invalidParameter parameter message => s!"Invalid parameter: {parameter} - {message}"

def inspect (e : Refusal) : String :=
  Text.record e.label <| match e with
    | notFound name => [("name", Text.quote name)]
    | kindMismatch name existing requested =>
      [("name", Text.quote name), ("existing", existing.label), ("requested", requested.label)]
    | capacityMismatch name existing requested =>
      [("name", Text.quote name), ("existing", toString existing),
        ("requested", toString requested)]
    | sizeMismatch expected actual =>
      [("expected", toString expected), ("actual", toString actual)]
    | payloadTooLarge size max => [("size", toString size), ("max", toString max)]
    | bufferTooSmall required available =>
      [("required", toString required), ("available", toString available)]
    | allocationFailure message => [("message", Text.quote message)]
    | invalidParameter parameter message =>
      [("parameter", Text.quote parameter), ("message", Text.quote message)]

/-- Whether the same request can succeed with a larger buffer. -/
def canRetry : Refusal → Bool
  | bufferTooSmall _ _ => true
  | _ => false

def sizeOutOfRange (parameter : String) (max : Nat) : Refusal :=
  invalidParameter parameter s!"must be between 1 and {max} bytes"

end Refusal

/-- Why an operation did not finish: the bus refused it, or a fault broke it off. -/
inductive Failure
  | refused (reason : Refusal)
  | fault (fault : Fault)
  deriving DecidableEq, Repr

end TopicBus
