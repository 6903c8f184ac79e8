import TopicBus.Bytes
import TopicBus.Message.Shape

/-!
Messages as bytes: a number in little-endian order, an array as its elements one after the other. A
number needs a buffer that holds it; an array fills as many chunks of its buffer as there are.
-/

namespace TopicBus.Shape

variable {α : Type}

/-- Writes values into the chunks of `size` bytes that `out` consists of, while both last. -/
def encodeEach (size : Nat) (encode : α → Bytes → Except Fault Bytes) :
    List α → Bytes → Except Fault Bytes
  | [], out => .ok out
  | value :: values, out =>
    if out.length < size then .ok out
    else do
      let chunk ← encode value (out.take size)
      return chunk ++ (← encodeEach size encode values (out.drop size))

def encode : (shape : Shape) → shape.Value → Bytes → Except Fault Bytes
  | scalar s, (value : BitVec (8 * s.size)), out =>
    Bytes.write 0 (Bytes.ofNat s.size value.toNat) out
  | array element _, (values : Vector element.Value _), out =>
    if element.size = 0 then .error .emptyChunk
    else encodeEach element.size element.encode values.toList out

def decodeEach (size : Nat) (decode : Bytes → Except Fault α) (source : Bytes) :
    (count : Nat) → Except Fault (Vector α count)
  | 0 => .ok #v[]
  | count + 1 => do
    let values ← decodeEach size decode source count
    let chunk ← Bytes.read (count * size) size source
    return values.push (← decode chunk)

def decode : (shape : Shape) → Bytes → Except Fault shape.Value
  | scalar s, source => do
    let bytes ← Bytes.read 0 s.size source
    return BitVec.ofNat (8 * s.size) (Bytes.toNat bytes)
  | array element count, source => decodeEach element.size element.decode source count

end TopicBus.Shape
