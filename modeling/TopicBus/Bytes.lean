import TopicBus.Fault

namespace TopicBus

abbrev Bytes := List UInt8

namespace Bytes

/-- The lowest `width` bytes of `n`, least significant first. -/
def ofNat : Nat → Nat → Bytes
  | 0, _ => []
  | width + 1, n => UInt8.ofNat n :: ofNat width (n / 256)

def toNat (bytes : Bytes) : Nat :=
  bytes.foldr (fun b n => b.toNat + 256 * n) 0

def zeros (length : Nat) : Bytes := List.replicate length 0

def read (start length : Nat) (source : Bytes) : Except Fault Bytes :=
  if start + length ≤ source.length then .ok ((source.drop start).take length)
  else .error .outOfRange

def write (start : Nat) (chunk target : Bytes) : Except Fault Bytes :=
  if start + chunk.length ≤ target.length then
    .ok (target.take start ++ (chunk ++ target.drop (start + chunk.length)))
  else .error .outOfRange

theorem read_eq_ok {start length : Nat} {source : Bytes} (h : start + length ≤ source.length) :
    read start length source = .ok ((source.drop start).take length) := if_pos h

theorem write_eq_ok {start : Nat} {chunk target : Bytes}
    (h : start + chunk.length ≤ target.length) :
    write start chunk target =
      .ok (target.take start ++ (chunk ++ target.drop (start + chunk.length))) := if_pos h

theorem length_ofNat (width n : Nat) : (ofNat width n).length = width := by
  induction width generalizing n with
  | zero => rfl
  | succ width ih => simp [ofNat, ih]

end Bytes

end TopicBus
