/-!
Shapes of messages: numbers of fixed width, and arrays of a fixed count, nested as deep as one
likes. Every shape has a fixed size in bytes. The value of a number is its bit pattern, so that a
signed number stands in two's complement, and a float keeps every bit even when it is not a number.
-/

namespace TopicBus

inductive Scalar
  | uint8
  | uint16
  | uint32
  | uint64
  | int8
  | int16
  | int32
  | int64
  | float32
  | float64
  deriving DecidableEq, Repr

def Scalar.size : Scalar → Nat
  | uint8 | int8 => 1
  | uint16 | int16 => 2
  | uint32 | int32 | float32 => 4
  | uint64 | int64 | float64 => 8

inductive Shape
  | scalar (s : Scalar)
  | array (element : Shape) (count : Nat)
  deriving DecidableEq, Repr

namespace Shape

def size : Shape → Nat
  | scalar s => s.size
  | array element count => element.size * count

def Value : Shape → Type
  | scalar s => BitVec (8 * s.size)
  | array element count => Vector element.Value count

/-- Equality of messages is decided bit by bit. -/
def decideEq : (shape : Shape) → DecidableEq shape.Value
  | scalar s => inferInstanceAs (DecidableEq (BitVec (8 * s.size)))
  | array element count =>
    have := element.decideEq
    inferInstanceAs (DecidableEq (Vector element.Value count))

instance (shape : Shape) : DecidableEq shape.Value := shape.decideEq

end Shape

end TopicBus
