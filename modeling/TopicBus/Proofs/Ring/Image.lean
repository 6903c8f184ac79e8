import Mathlib.Order.Bounds.Basic
import TopicBus.Proofs.Ring.Memory

namespace TopicBus

/-- The epochs up to a given one that belong to its slot and whose payloads reach an offset. -/
def reaching (capacity : Nat) (history : List Bytes) (epoch offset : Nat) : Set Nat :=
  {e | 0 < e ∧ e ≤ epoch ∧ e ≡ epoch [MOD capacity] ∧
    ∃ payload, history[e - 1]? = some payload ∧ offset < payload.length}

/-- The byte that is found at an offset behind the header of a slot. -/
inductive Leaves (capacity : Nat) (history : List Bytes) (epoch offset : Nat) : UInt8 → Prop
  | latest {e : Nat} {payload : Bytes} {byte : UInt8}
      (greatest : IsGreatest (reaching capacity history epoch offset) e)
      (payload_eq : history[e - 1]? = some payload) (byte_eq : payload[offset]? = some byte) :
      Leaves capacity history epoch offset byte
  | never (none : reaching capacity history epoch offset = ∅) :
      Leaves capacity history epoch offset 0

/-- All bytes of the slot of an epoch: the header, the payload, and what older payloads left. -/
structure Image (layout : Layout) (capacity : Nat) (history : List Bytes) (epoch : Nat)
    (image : Bytes) : Prop where
  length_eq : image.length = layout.slotSize
  epoch_eq : image.take 8 = Bytes.ofNat 8 epoch
  byte : layout.kind = .byte → ∃ payload, history[epoch - 1]? = some payload ∧
    (image.drop 8).take 4 = Bytes.ofNat 4 payload.length ∧
    ∀ offset < layout.payloadSize, ∃ byte, image[12 + offset]? = some byte ∧
      Leaves capacity history epoch offset byte
  typed : layout.kind = .typed → history[epoch - 1]? = some (image.drop 8)

/-- What is found of an epoch: its image, for as long as no later epoch took its slot. -/
inductive Imaged (layout : Layout) (capacity : Nat) (history : List Bytes) (epoch : Nat) :
    Option Bytes → Prop
  | kept {image : Bytes} (pos : 1 ≤ epoch) (le : epoch ≤ history.length)
      (lt : history.length < epoch + capacity)
      (image_of : Image layout capacity history epoch image) :
      Imaged layout capacity history epoch (some image)
  | gone (out : ¬(1 ≤ epoch ∧ epoch ≤ history.length ∧ history.length < epoch + capacity)) :
      Imaged layout capacity history epoch none

variable {layout : Layout} {capacity epoch offset : Nat} {history : List Bytes} {payload : Bytes}
  {byte : UInt8}

theorem modEq_iff_home {e : Nat} (he : 0 < e) (hepoch : 0 < epoch) :
    e ≡ epoch [MOD capacity] ↔ (e - 1) % capacity = (epoch - 1) % capacity := by
  obtain ⟨a, rfl⟩ := Nat.exists_eq_add_of_lt he
  obtain ⟨b, rfl⟩ := Nat.exists_eq_add_of_lt hepoch
  simp only [Nat.zero_add, Nat.add_sub_cancel]
  exact ⟨Nat.ModEq.add_right_cancel' 1, Nat.ModEq.add_right 1⟩

theorem reaching_append (hnew : history.length + 1 ∉
      reaching capacity (history ++ [payload]) epoch offset) :
    reaching capacity (history ++ [payload]) epoch offset =
      reaching capacity history epoch offset := by
  ext e
  constructor
  · intro he
    have hne : e ≠ history.length + 1 := fun heq => hnew (heq ▸ he)
    obtain ⟨hpos, hle, hmod, found, hfound, hlong⟩ := he
    obtain ⟨hlt, -⟩ := List.getElem?_eq_some_iff.mp hfound
    rw [List.length_append, List.length_singleton] at hlt
    rw [List.getElem?_append_left (by omega)] at hfound
    exact ⟨hpos, hle, hmod, found, hfound, hlong⟩
  · rintro ⟨hpos, hle, hmod, found, hfound, hlong⟩
    obtain ⟨hlt, -⟩ := List.getElem?_eq_some_iff.mp hfound
    exact ⟨hpos, hle, hmod, found, (List.getElem?_append_left hlt).trans hfound, hlong⟩

theorem Leaves.append (h : Leaves capacity history epoch offset byte) (hnew : history.length + 1 ∉
      reaching capacity (history ++ [payload]) epoch offset) :
    Leaves capacity (history ++ [payload]) epoch offset byte := by
  have hsame := reaching_append hnew
  cases h with
  | latest greatest payload_eq byte_eq =>
      obtain ⟨hlt, -⟩ := List.getElem?_eq_some_iff.mp payload_eq
      rw [← hsame] at greatest
      exact .latest greatest ((List.getElem?_append_left hlt).trans payload_eq) byte_eq
  | never none => exact .never (hsame.trans none)

theorem Leaves.of_append (hpos : 0 < epoch) (hepoch : history.length < epoch)
    (hhome : history.length % capacity = (epoch - 1) % capacity)
    (hbyte : payload[offset]? = some byte) :
    Leaves capacity (history ++ [payload]) epoch offset byte := by
  have hlast : (history ++ [payload])[history.length + 1 - 1]? = some payload := by simp
  obtain ⟨hlong, -⟩ := List.getElem?_eq_some_iff.mp hbyte
  refine .latest ⟨⟨Nat.succ_pos _, hepoch, ?_, payload, hlast, hlong⟩, ?_⟩ hlast hbyte
  · exact (modEq_iff_home (Nat.succ_pos _) hpos).mpr hhome
  · rintro e ⟨-, -, -, found, hfound, -⟩
    obtain ⟨hlt, -⟩ := List.getElem?_eq_some_iff.mp hfound
    rw [List.length_append, List.length_singleton] at hlt
    omega

namespace Layout

theorem bytes_header_byte {length : Nat} (hkind : layout.kind = .byte)
    (hepoch : epoch < Limits.word) (hlength : length ≤ layout.payloadSize) :
    (layout.header epoch length).bytes = Bytes.ofNat 8 epoch ++ Bytes.ofNat 4 length := by
  have he : (UInt64.ofNat epoch).toNat = epoch := UInt64.toNat_ofNat_of_lt' hepoch
  have hl : (UInt32.ofNat length).toNat = length := by
    apply UInt32.toNat_ofNat_of_lt'
    exact Nat.lt_of_le_of_lt (hlength.trans layout.payloadSize_le) (by decide)
  rw [header, hkind, Header.bytes, he, hl]

theorem bytes_header_typed (length : Nat) (hkind : layout.kind = .typed)
    (hepoch : epoch < Limits.word) :
    (layout.header epoch length).bytes = Bytes.ofNat 8 epoch := by
  have he : (UInt64.ofNat epoch).toNat = epoch := UInt64.toNat_ofNat_of_lt' hepoch
  rw [header, hkind, Header.bytes, he]

theorem getElem?_fill (epoch : Nat) (payload old : Bytes) (offset : Nat) :
    (layout.fill epoch payload old)[layout.headerSize + offset]? =
      if offset < payload.length then payload[offset]? else old[layout.headerSize + offset]? := by
  have hheader := layout.length_header epoch payload.length
  rw [fill, List.getElem?_append_right (by omega), hheader, Nat.add_sub_cancel_left]
  by_cases hlong : offset < payload.length
  · rw [if_pos hlong, List.getElem?_append_left hlong]
  · rw [if_neg hlong, List.getElem?_append_right (by omega), List.getElem?_drop]
    congr 1
    omega

end Layout

theorem Queue.leaves_slotsAfter (hpos : 0 < epoch) (hlatest : history.length < epoch + capacity)
    (ho : offset < layout.payloadSize) :
    ∃ byte, (slotsAfter layout capacity history ((epoch - 1) % capacity)).bytes[
        layout.headerSize + offset]? = some byte ∧ Leaves capacity history epoch offset byte := by
  induction history using List.reverseRecOn with
  | nil =>
      refine ⟨0, ?_, .never ?_⟩
      · have hlt : layout.headerSize + offset < layout.slotSize := Nat.add_lt_add_left ho _
        exact List.getElem?_replicate_of_lt hlt
      · ext e
        simp [reaching]
  | append_singleton history payload ih =>
      rw [List.length_append, List.length_singleton] at hlatest
      obtain ⟨byte, hbyte, hleaves⟩ := ih (by omega)
      rw [slotsAfter_append]
      -- The last payload changes the byte only if it goes to this slot and reaches the offset.
      by_cases hhome : (epoch - 1) % capacity = history.length % capacity
      · have hnext : history.length < epoch := by
          by_contra hlater
          exact mod_ne_of_lt (show epoch - 1 < history.length by omega) (by omega) hhome.symm
        rw [← hhome, Function.update_self]
        dsimp only
        rw [Layout.getElem?_fill]
        by_cases hlong : offset < payload.length
        · have hfound : payload[offset]? = some payload[offset] := List.getElem?_eq_getElem hlong
          rw [if_pos hlong]
          exact ⟨_, hfound, .of_append hpos hnext hhome.symm hfound⟩
        · rw [if_neg hlong]
          refine ⟨byte, hbyte, hleaves.append ?_⟩
          rintro ⟨-, -, -, found, hfound, hreach⟩
          rw [Nat.add_sub_cancel, List.getElem?_concat_length] at hfound
          cases hfound
          exact hlong hreach
      · rw [Function.update_of_ne hhome]
        refine ⟨byte, hbyte, hleaves.append ?_⟩
        rintro ⟨-, -, hmod, -⟩
        exact hhome ((modEq_iff_home (Nat.succ_pos _) hpos).mp hmod).symm

namespace Ring

variable {ring : Ring} {queue : Queue}

theorem Holds.image (h : ring.Holds queue) (hfew : queue.history.length < 2 ^ 63)
    (hwindow : ring.Window epoch) :
    Image queue.layout queue.capacity queue.history epoch (ring.slot (ring.home epoch)).bytes := by
  rw [Window, h.written_eq, h.capacity_eq] at hwindow
  have hpos : 0 < epoch := by omega
  have hword : epoch < Limits.word := by
    simp only [Limits.word]
    omega
  have hc : queue.history[epoch - 1]? = some queue.history[epoch - 1] :=
    List.getElem?_eq_getElem (by omega)
  have hp := h.sound.fits _ (List.mem_of_getElem? hc)
  have hhome : ring.home epoch = (epoch - 1) % queue.capacity := by rw [home, h.capacity_eq]
  obtain ⟨old, hslot⟩ := h.slot_kept hc (by omega)
  rw [Nat.sub_add_cancel hpos, ← hhome, h.layout_eq] at hslot
  have hlength := h.length_slot (ring.home epoch)
  rw [slotSize, h.layout_eq, hslot] at hlength
  rw [hslot]
  constructor
  case length_eq => exact hlength
  case epoch_eq =>
    unfold Layout.fill
    cases hkind : queue.layout.kind with
    | byte =>
        rw [Layout.bytes_header_byte hkind hword (queue.layout.checkPayload_le hp),
          List.append_assoc, List.take_left' (Bytes.length_ofNat 8 epoch)]
    | typed =>
        rw [Layout.bytes_header_typed _ hkind hword, List.take_left' (Bytes.length_ofNat 8 epoch)]
  case byte =>
    intro hkind
    refine ⟨_, hc, ?_, ?_⟩
    · unfold Layout.fill
      rw [Layout.bytes_header_byte hkind hword (queue.layout.checkPayload_le hp),
        List.append_assoc, List.drop_left' (Bytes.length_ofNat 8 epoch),
        List.take_left' (Bytes.length_ofNat 4 _)]
    · intro offset ho
      have hheader : queue.layout.headerSize = 12 := by
        rw [Layout.headerSize, hkind]
        rfl
      have hleaves : ∃ byte, (queue.slots (ring.home epoch)).bytes[
          queue.layout.headerSize + offset]? = some byte ∧
          Leaves queue.capacity queue.history epoch offset byte := by
        rw [hhome]
        exact Queue.leaves_slotsAfter hpos (by omega) ho
      rwa [← h.slot_eq, hslot, hheader] at hleaves
  case typed =>
    intro hkind
    have hsize := Layout.checkPayload_typed hkind hp
    have hheader := Layout.bytes_header_typed queue.history[epoch - 1].length hkind hword
    have hroom : queue.layout.slotSize = 8 + queue.layout.payloadSize := by
      rw [Layout.slotSize, Layout.headerSize, hkind]
      rfl
    dsimp only [Layout.fill] at hlength ⊢
    rw [hheader] at hlength ⊢
    -- The message fills its room, so nothing of older ones is behind it.
    rw [List.length_append, List.length_append, Bytes.length_ofNat, hroom, hsize] at hlength
    have hrest : old.drop (queue.layout.headerSize + queue.layout.payloadSize) = [] :=
      List.eq_nil_of_length_eq_zero (by omega)
    rw [hc, List.drop_left' (Bytes.length_ofNat 8 epoch), hsize, hrest, List.append_nil]

theorem Holds.slotImage_imaged (h : ring.Holds queue) (hfew : queue.history.length < 2 ^ 63)
    (epoch : Nat) : ∃ found, ring.slotImage epoch = .ok found ∧
      Imaged queue.layout queue.capacity queue.history epoch found := by
  have hpos := h.sound.capacity_pos
  have hexec := (h.memory hfew).slotImage_eq hfew epoch
  refine ⟨_, hexec, ?_⟩
  by_cases hwindow : ring.Window epoch
  · rw [if_pos hwindow]
    have himage := h.image hfew hwindow
    rw [Window, h.written_eq, h.capacity_eq] at hwindow
    exact .kept (by omega) hwindow.2 (by omega) himage
  · rw [if_neg hwindow]
    rw [Window, h.written_eq, h.capacity_eq] at hwindow
    exact .gone (by omega)

end Ring

end TopicBus
