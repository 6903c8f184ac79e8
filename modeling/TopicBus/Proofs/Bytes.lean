import Mathlib.Tactic
import TopicBus.Bytes

namespace TopicBus

namespace Bytes

theorem length_zeros (length : Nat) : (zeros length).length = length := List.length_replicate

theorem toNat_ofNat (width n : Nat) : toNat (ofNat width n) = n % 256 ^ width := by
  induction width generalizing n with
  | zero => simp [ofNat, toNat, Nat.mod_one]
  | succ width ih =>
      have h : toNat (ofNat (width + 1) n) =
          (UInt8.ofNat n).toNat + 256 * toNat (ofNat width (n / 256)) := rfl
      have hb : (UInt8.ofNat n).toNat = n % 256 := UInt8.toNat_ofNat'
      rw [h, hb, ih, pow_succ', Nat.mod_mul]

theorem ofNat_toNat (bytes : Bytes) : ofNat bytes.length (toNat bytes) = bytes := by
  induction bytes with
  | nil => rfl
  | cons b bytes ih =>
      have hb : b.toNat < 256 := b.toNat_lt
      have h : toNat (b :: bytes) = b.toNat + 256 * toNat bytes := rfl
      have hlow : UInt8.ofNat (b.toNat + 256 * toNat bytes) = b := by
        apply UInt8.toNat_inj.mp
        rw [UInt8.toNat_ofNat']
        omega
      have hhigh : (b.toNat + 256 * toNat bytes) / 256 = toNat bytes := by omega
      rw [h, List.length_cons, ofNat, hlow, hhigh, ih]

theorem toNat_lt (bytes : Bytes) : toNat bytes < 256 ^ bytes.length := by
  induction bytes with
  | nil => simp [toNat]
  | cons b bytes ih =>
      have hb : b.toNat < 256 := b.toNat_lt
      have h : toNat (b :: bytes) = b.toNat + 256 * toNat bytes := rfl
      rw [h, List.length_cons, pow_succ]
      omega

theorem read_append (front part back : Bytes) :
    read front.length part.length (front ++ (part ++ back)) = .ok part := by
  rw [read_eq_ok (by simp)]
  simp

theorem write_front (chunk target : Bytes) (h : chunk.length ≤ target.length) :
    write 0 chunk target = .ok (chunk ++ target.drop chunk.length) := by
  rw [write_eq_ok (by omega)]
  simp

section Parts

variable {start width : Nat} {source target chunk : Bytes}

theorem read_short (h : source.length < start + width) :
    read start width source = .error .outOfRange := if_neg (Nat.not_le.mpr h)

theorem write_short (h : target.length < start + chunk.length) :
    write start chunk target = .error .outOfRange := if_neg (Nat.not_le.mpr h)

theorem length_of_read (h : read start width source = .ok chunk) : chunk.length = width := by
  unfold read at h
  split at h
  · cases h
    rw [List.length_take, List.length_drop]
    omega
  · cases h

end Parts

/-- The `width` bytes from `start` on are the digits of `n` to base 256, least significant first. -/
def Spells (source : Bytes) (start width n : Nat) : Prop :=
  ∀ i < width, source[start + i]? = some (UInt8.ofNat (n / 256 ^ i))

section Spells

variable {start width n : Nat} {source : Bytes}

theorem getElem?_ofNat {i : Nat} (hi : i < width) :
    (ofNat width n)[i]? = some (UInt8.ofNat (n / 256 ^ i)) := by
  induction width generalizing n i with
  | zero => omega
  | succ width ih =>
      cases i with
      | zero => rw [ofNat, List.getElem?_cons_zero, pow_zero, Nat.div_one]
      | succ i =>
          rw [ofNat, List.getElem?_cons_succ, ih (Nat.lt_of_succ_lt_succ hi),
            Nat.div_div_eq_div_mul, pow_succ']

theorem spells_iff :
    source.Spells start width n ↔ (source.drop start).take width = ofNat width n := by
  constructor
  · intro h
    apply List.ext_getElem?
    intro i
    by_cases hi : i < width
    · rw [List.getElem?_take_of_lt hi, List.getElem?_drop, h i hi, getElem?_ofNat hi]
    · have hback : (ofNat width n).length ≤ i := by
        rw [length_ofNat]
        omega
      rw [List.getElem?_take_eq_none (Nat.le_of_not_lt hi), List.getElem?_eq_none hback]
  · intro h i hi
    rw [← List.getElem?_drop, ← List.getElem?_take_of_lt hi, h, getElem?_ofNat hi]

theorem exists_spells (h : start + width ≤ source.length) :
    ∃ n < 256 ^ width, source.Spells start width n := by
  have hlength : ((source.drop start).take width).length = width :=
    length_of_read (read_eq_ok h)
  have hlt := toNat_lt ((source.drop start).take width)
  have hrow := ofNat_toNat ((source.drop start).take width)
  rw [hlength] at hlt hrow
  exact ⟨_, hlt, spells_iff.mpr hrow.symm⟩

end Spells

end Bytes

end TopicBus
