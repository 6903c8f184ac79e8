import TopicBus.Fault
import TopicBus.Limits

/-!
Arithmetic on 64-bit words, with numbers as carriers: a result out of range is a fault.
-/

namespace TopicBus.Word

def add (a b : Nat) : Except Fault Nat :=
  if a + b < Limits.word then .ok (a + b) else .error .overflow

def sub (a b : Nat) : Except Fault Nat :=
  if b ≤ a then .ok (a - b) else .error .overflow

def mul (a b : Nat) : Except Fault Nat :=
  if a * b < Limits.word then .ok (a * b) else .error .overflow

theorem add_eq_ok {a b : Nat} (h : a + b < Limits.word) : add a b = .ok (a + b) := if_pos h

theorem sub_eq_ok {a b : Nat} (h : b ≤ a) : sub a b = .ok (a - b) := if_pos h

theorem mul_eq_ok {a b : Nat} (h : a * b < Limits.word) : mul a b = .ok (a * b) := if_pos h

end TopicBus.Word
