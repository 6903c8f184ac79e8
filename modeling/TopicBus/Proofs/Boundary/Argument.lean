import Mathlib.Tactic
import TopicBus.Boundary.Argument

namespace TopicBus

/-- A word that stands for an identity; those below `2 ^ 32` stand for none. -/
structure TopicId.Designated (handle : UInt64) (id : TopicId) : Prop where
  generation_ne : id.generation ≠ 0
  raw_eq : handle = id.raw

namespace TopicId

variable {handle : UInt64} {id : TopicId}

theorem toNat_raw (id : TopicId) :
    id.raw.toNat = id.generation.toNat * 4294967296 + id.index.toNat := by
  have hgeneration := id.generation.toNat_lt
  have hindex := id.index.toNat_lt
  rw [raw, UInt64.toNat_ofNat']
  omega

theorem ofRaw?_raw (hid : id.generation ≠ 0) : ofRaw? id.raw = some id := by
  have hindex := id.index.toNat_lt
  have hhigh : id.raw.toNat / 4294967296 = id.generation.toNat := by
    rw [toNat_raw]
    omega
  have hlow : UInt32.ofNat id.raw.toNat = id.index := by
    apply UInt32.toNat_inj.mp
    rw [toNat_raw, UInt32.toNat_ofNat']
    omega
  simp only [ofRaw?, hhigh, UInt32.ofNat_toNat, hid, if_false, hlow]

theorem ofRaw?_small (h : handle.toNat < 2 ^ 32) : ofRaw? handle = none := by
  have hhigh : handle.toNat / 4294967296 = 0 := by omega
  simp only [ofRaw?, hhigh]
  rfl

theorem exists_designated (h : 2 ^ 32 ≤ handle.toNat) : ∃ id, Designated handle id := by
  have hlt := handle.toNat_lt
  refine ⟨⟨UInt32.ofNat handle.toNat, UInt32.ofNat (handle.toNat / 4294967296)⟩, ?_, ?_⟩
  · intro hzero
    have hnat := congrArg UInt32.toNat hzero
    rw [UInt32.toNat_ofNat', UInt32.toNat_zero] at hnat
    omega
  · apply UInt64.toNat_inj.mp
    rw [toNat_raw, UInt32.toNat_ofNat', UInt32.toNat_ofNat']
    omega

end TopicId

namespace Argument

variable {handle : UInt64} {id : TopicId} {bytes data : Bytes} {text : String} {count : Nat}

theorem topic_eq (h : TopicId.Designated handle id) : topic handle = .ok id := by
  rw [topic, h.raw_eq, TopicId.ofRaw?_raw h.generation_ne]

theorem topic_small (h : handle.toNat < 2 ^ 32) :
    topic handle = .error (.invalidParameter "topic" "null handle") := by
  rw [topic, TopicId.ofRaw?_small h]

/-- The name has the bytes before the first zero as its UTF-8 form. -/
def Names (bytes : Bytes) (text : String) : Prop :=
  text.toUTF8.data.toList = bytes.takeWhile (· ≠ 0)

instance : Decidable (Names bytes text) := inferInstanceAs (Decidable (_ = _))

theorem fromUTF8?_eq_some {bytes : ByteArray} :
    String.fromUTF8? bytes = some text ↔ text.toUTF8 = bytes := by
  unfold String.fromUTF8?
  constructor
  · intro h
    split at h
    · cases h
      rfl
    · cases h
  · rintro rfl
    rw [String.toUTF8_eq_toByteArray, dif_pos text.isValidUTF8]
    rfl

theorem names_iff :
    Names bytes text ↔
      String.fromUTF8? ⟨(bytes.takeWhile (· ≠ 0)).toArray⟩ = some text := by
  rw [fromUTF8?_eq_some, Names, ByteArray.ext_iff, ← Array.toList_inj]

theorem name_eq (h : Names bytes text) : name (some bytes) = .ok text := by
  rw [names_iff] at h
  simp only [name, h]

theorem name_foreign (h : ∀ text, ¬Names bytes text) :
    name (some bytes) = .error (.invalidParameter "name" "not valid UTF-8") := by
  have hnone : String.fromUTF8? ⟨(bytes.takeWhile (· ≠ 0)).toArray⟩ = none := by
    rw [Option.eq_none_iff_forall_ne_some]
    intro text htext
    exact h text (names_iff.mpr htext)
  simp only [name, hnone]

def Lent (pointer : Option Bytes) (count : Nat) : Prop :=
  ∀ bytes, pointer = some bytes → count ≤ bytes.length

/-- The payload is what stands in the `count` bytes behind the pointer. -/
inductive Carries : Option Bytes → Nat → Bytes → Prop
  | nothing : Carries none 0 []
  | front (data rest : Bytes) : Carries (some (data ++ rest)) data.length data

theorem payload_eq {pointer : Option Bytes} (h : Carries pointer count data) :
    payload pointer count = .ok data := by
  cases h with
  | nothing => rfl
  | front rest => simp only [payload, List.take_left]

theorem exists_carries {pointer : Option Bytes} (h : Lent pointer count)
    (hnull : pointer = none → count = 0) : ∃ data, Carries pointer count data := by
  cases pointer with
  | none =>
      rw [hnull rfl]
      exact ⟨[], .nothing⟩
  | some bytes =>
      have hfront := Carries.front (bytes.take count) (bytes.drop count)
      rw [List.take_append_drop, List.length_take, Nat.min_eq_left (h bytes rfl)] at hfront
      exact ⟨_, hfront⟩

end Argument

end TopicBus
