import TopicBus.Proofs.Ring.Refinement

/-!
What the memory of a ring looks like while the ring holds a queue. The latest epochs, as many as
there are slots, lie each in its own slot under its own stamp, whether they were consumed or not;
all other slots are blank, and no slot is left half written.
-/

namespace TopicBus

open Op

/-- The slot carries a payload under its epoch; what lies behind the payload is left open. -/
structure Slot.Shows (slot : Slot) (layout : Layout) (epoch : Nat) (payload : Bytes) : Prop where
  stamp_eq : slot.stamp = 2 * epoch
  header : ∃ header, Header.decode layout.kind slot.bytes = .ok header ∧
    header.epoch.toNat = epoch ∧ layout.payloadLength header = payload.length
  payload : Bytes.read layout.headerSize payload.length slot.bytes = .ok payload

theorem Layout.shows_fill {layout : Layout} {epoch : Nat} {payload : Bytes} (old : Bytes)
    (hepoch : epoch < Limits.word) (hp : layout.checkPayload payload.length = .ok ()) :
    Slot.Shows ⟨epoch * 2, layout.fill epoch payload old⟩ layout epoch payload where
  stamp_eq := Nat.mul_comm _ _
  header := ⟨_, decode_fill, layout.epoch_header _ hepoch, layout.payloadLength_header epoch hp⟩
  payload := read_fill

namespace Ring

/-- The epochs that lie in their slots, consumed or not. -/
def Window (ring : Ring) (epoch : Nat) : Prop :=
  ring.written - ring.capacity < epoch ∧ epoch ≤ ring.written

instance (ring : Ring) (epoch : Nat) : Decidable (ring.Window epoch) :=
  inferInstanceAs (Decidable (_ ∧ _))

def home (ring : Ring) (epoch : Nat) : Nat := (epoch - 1) % ring.capacity

/-- The memory of a ring that accepted the payloads of a history. -/
structure Memory (ring : Ring) (history : List Bytes) : Prop where
  written_eq : ring.written = history.length
  passed_le : ring.passed ≤ ring.written
  written_le : ring.written ≤ ring.passed + ring.capacity
  kept : ∀ epoch, ring.Window epoch → ∃ payload, history[epoch - 1]? = some payload ∧
    (ring.slot (ring.home epoch)).Shows ring.layout epoch payload
  blank : ∀ index, (∀ epoch, ring.Window epoch → ring.home epoch ≠ index) →
    ring.slot index = .blank ring.slotSize
  settled : ∀ index, Even (ring.slot index).stamp
  apart : ∀ epoch other, ring.Window epoch → ring.Window other →
    ring.home epoch = ring.home other → epoch = other
  length_slot : ∀ index, (ring.slot index).bytes.length = ring.slotSize
  inside : ∀ index < ring.capacity, (index + 1) * ring.slotSize ≤ ring.blockSize
  locate_eq : ∀ epoch, 0 < epoch → ring.locate epoch = .ok (ring.home epoch)

variable {ring : Ring} {queue : Queue} {history : List Bytes}

theorem Holds.memory (h : ring.Holds queue) (hfew : queue.history.length < 2 ^ 63) :
    ring.Memory queue.history := by
  have hpos := h.sound.capacity_pos
  have hwindow (epoch : Nat) : ring.Window epoch ↔
      queue.history.length - queue.capacity < epoch ∧ epoch ≤ queue.history.length := by
    rw [Window, h.written_eq, h.capacity_eq]
  have hhome (epoch : Nat) : ring.home epoch = (epoch - 1) % queue.capacity := by
    rw [home, h.capacity_eq]
  constructor
  case written_eq => exact h.written_eq
  case passed_le =>
    rw [h.passed_eq, h.written_eq]
    exact h.sound.read_le
  case written_le =>
    rw [h.written_eq, h.passed_eq, h.capacity_eq]
    exact h.sound.length_le
  case kept =>
    intro epoch hepoch
    rw [hwindow] at hepoch
    obtain ⟨count, rfl⟩ : ∃ count, epoch = count + 1 := ⟨epoch - 1, by omega⟩
    have hlt : count < queue.history.length := by omega
    have hc : queue.history[count]? = some queue.history[count] := List.getElem?_eq_getElem hlt
    obtain ⟨old, hslot⟩ := h.slot_kept hc (by omega)
    refine ⟨_, hc, ?_⟩
    rw [hhome, Nat.add_sub_cancel, hslot]
    apply Layout.shows_fill
    · simp only [Limits.word]
      omega
    · rw [h.layout_eq]
      exact h.sound.fits _ (List.getElem_mem hlt)
  case blank =>
    intro index hfree
    have hsize : ring.slotSize = queue.layout.slotSize := congrArg Layout.slotSize h.layout_eq
    rw [h.slot_eq, hsize]
    rcases h.sound.slots_cases index with ⟨-, hblank⟩ | ⟨count, hlt, old, hkept, hindex, -⟩
    · exact hblank
    · exact absurd ((hhome _).trans hindex) (hfree (count + 1) ((hwindow _).mpr (by omega)))
  case settled =>
    intro index
    rw [h.slot_eq]
    rcases h.sound.slots_cases index with ⟨-, hblank⟩ | ⟨count, hlt, old, -, -, hslot⟩
    · rw [hblank]
      exact ⟨0, rfl⟩
    · rw [hslot]
      exact ⟨count + 1, Nat.mul_two _⟩
  case apart =>
    intro epoch other hepoch hother hsame
    rw [hwindow] at hepoch hother
    rw [hhome, hhome] at hsame
    -- Two epochs of one window are less than a capacity apart.
    rcases Nat.lt_trichotomy (epoch - 1) (other - 1) with hless | heq | hmore
    · exact absurd hsame.symm (Queue.mod_ne_of_lt hless (by omega))
    · omega
    · exact absurd hsame (Queue.mod_ne_of_lt hmore (by omega))
  case length_slot => exact h.length_slot
  case inside => exact fun index hi => Nat.mul_le_mul_right _ hi
  case locate_eq => exact fun epoch hepoch => locate_eq_ok h.block_lt hepoch

namespace Memory

variable {epoch : Nat}

/-- The stamp of an epoch tells whether its slot still holds it. -/
theorem stamp_eq_iff (h : ring.Memory history) (hpos : 0 < epoch) :
    (ring.slot (ring.home epoch)).stamp = epoch * 2 ↔ ring.Window epoch := by
  constructor
  · intro hstamp
    by_contra hgone
    by_cases hused : ∃ other, ring.Window other ∧ ring.home other = ring.home epoch
    · obtain ⟨other, hother, hhome⟩ := hused
      obtain ⟨payload, -, hshows⟩ := h.kept other hother
      rw [← hhome, hshows.stamp_eq] at hstamp
      have hsame : other = epoch := by omega
      exact hgone (hsame ▸ hother)
    · push Not at hused
      rw [h.blank _ hused] at hstamp
      simp only [Slot.blank] at hstamp
      omega
  · intro hwindow
    obtain ⟨payload, -, hshows⟩ := h.kept epoch hwindow
    rw [hshows.stamp_eq, Nat.mul_comm]

theorem slotImage_eq (h : ring.Memory history) (hfew : history.length < 2 ^ 63) (epoch : Nat) :
    ring.slotImage epoch =
      .ok (if ring.Window epoch then some (ring.slot (ring.home epoch)).bytes else none) := by
  unfold slotImage lastEpoch
  by_cases hnever : epoch = 0 ∨ ring.written < epoch
  · have hout : ¬ring.Window epoch := by
      unfold Window
      omega
    rw [if_pos hnever, if_neg hout]
    rfl
  · have hpos : 0 < epoch := by omega
    have hdone : doneStamp epoch = .ok (epoch * 2) := by
      apply Word.mul_eq_ok
      rw [h.written_eq] at hnever
      simp only [Limits.word]
      omega
    rw [if_neg hnever]
    simp only [bind, Except.bind, h.locate_eq epoch hpos, hdone, h.stamp_eq_iff hpos]
    rfl

end Memory

end Ring

end TopicBus
