import TopicBus.Operation

namespace TopicBus.Argument

def name (pointer : Option Bytes) : Except Refusal String :=
  match pointer with
  | none => .error (.invalidParameter "name" "null pointer")
  | some bytes =>
    match String.fromUTF8? ⟨(bytes.takeWhile (· ≠ 0)).toArray⟩ with
    | some name => .ok name
    | none => .error (.invalidParameter "name" "not valid UTF-8")

def topic (handle : UInt64) : Except Refusal TopicId :=
  match TopicId.ofRaw? handle with
  | some id => .ok id
  | none => .error (.invalidParameter "topic" "null handle")

/-- The `length` bytes that a pointer points to; to read none, a null pointer will do. -/
def payload (pointer : Option Bytes) (length : Nat) : Except Refusal Bytes :=
  match pointer with
  | some bytes => .ok (bytes.take length)
  | none =>
    if length = 0 then .ok [] else .error (.invalidParameter "data" "null pointer")

def buffer (pointer : Option Bytes) : Except Refusal Bytes :=
  match pointer with
  | some bytes => .ok bytes
  | none => .error (.invalidParameter "out" "null pointer")

def registry {α : Type} (pointer : Option α) : Except Refusal α :=
  match pointer with
  | some registry => .ok registry
  | none => .error (.invalidParameter "registry" "null pointer")

def store {α : Type} (pointer : Option α) (value : α) : Option α := pointer.map fun _ => value

end TopicBus.Argument
