import TopicBus.Proofs.Ring.Trace

namespace TopicBus

namespace Ring

inductive Creates (capacity : Nat) (layout : Layout) (memory : Nat) : Except Refusal Ring → Prop
  | empty (hempty : capacity = 0) :
      Creates capacity layout memory
        (.error (.invalidParameter "capacity" "Capacity must be greater than 0"))
  | overflow (hpos : 0 < capacity) (hword : 2 ^ 64 ≤ capacity * layout.slotSize) :
      Creates capacity layout memory (.error (.allocationFailure "Ring size overflows usize"))
  | oversized (hpos : 0 < capacity) (hblock : 2 ^ 63 ≤ capacity * layout.slotSize)
      (hword : capacity * layout.slotSize < 2 ^ 64) :
      Creates capacity layout memory
        (.error (.allocationFailure "Failed to create layout for slot ring"))
  | denied (hpos : 0 < capacity) (hblock : capacity * layout.slotSize < 2 ^ 63)
      (hmemory : memory ≤ capacity * layout.slotSize) :
      Creates capacity layout memory (.error (.allocationFailure "Failed to allocate slot ring"))
  | made (ring : Ring) (hblock : capacity * layout.slotSize < 2 ^ 63)
      (hmemory : capacity * layout.slotSize < memory)
      (hlayout : ring.layout = layout) (hcapacity : ring.capacity = capacity) :
      Creates capacity layout memory (.ok ring)

theorem create_creates (capacity : Nat) (layout : Layout) (memory : Nat) :
    Creates capacity layout memory (create capacity layout memory) := by
  unfold create
  split
  · exact .empty ‹_›
  · have hpos : 0 < capacity := Nat.pos_of_ne_zero ‹_›
    split
    · exact .overflow hpos ‹_›
    · have hword : capacity * layout.slotSize < 2 ^ 64 := Nat.lt_of_not_le ‹_›
      split
      · exact .oversized hpos ‹_› hword
      · have hblock : capacity * layout.slotSize < 2 ^ 63 := Nat.lt_of_not_le ‹_›
        split
        · exact .denied hpos hblock ‹_›
        · exact .made _ hblock (Nat.lt_of_not_le ‹_›) rfl rfl

def block (ring : Ring) : Bytes :=
  (List.range ring.capacity).flatMap fun index => (ring.slot index).bytes

variable {ring : Ring} {index : Nat}

theorem length_slots (hslot : ∀ index, (ring.slot index).bytes.length = ring.slotSize)
    (indices : List Nat) :
    (indices.flatMap fun index => (ring.slot index).bytes).length =
      indices.length * ring.slotSize := by
  induction indices with
  | nil => simp
  | cons index indices ih =>
      rw [List.flatMap_cons, List.length_append, hslot, ih, List.length_cons]
      ring

theorem block_eq (ring : Ring) (h : index < ring.capacity) :
    ring.block = ((List.range index).flatMap fun i => (ring.slot i).bytes) ++
      ((ring.slot index).bytes ++
        (List.range' (index + 1) (ring.capacity - (index + 1))).flatMap fun i =>
          (ring.slot i).bytes) := by
  have hsplit : List.range ring.capacity = List.range index ++
      index :: List.range' (index + 1) (ring.capacity - (index + 1)) := by
    rw [List.range_eq_range', List.range_eq_range', ← List.range'_succ, Nat.sub_add_eq]
    have hlength : ring.capacity - index - 1 + 1 = ring.capacity - index := by omega
    have happend := @List.range'_append_1 0 index (ring.capacity - index)
    rw [Nat.zero_add] at happend
    rw [hlength, happend, Nat.add_sub_cancel' h.le]
  rw [block, hsplit, List.flatMap_append, List.flatMap_cons]

/-- The slots of a ring share out its block among them. -/
structure Tiled (ring : Ring) (capacity : Nat) (layout : Layout) : Prop where
  capacity_eq : ring.capacity = capacity
  layout_eq : ring.layout = layout
  length_block : ring.block.length = capacity * layout.slotSize
  start_eq : ∀ index < capacity, Word.mul index layout.slotSize = .ok (index * layout.slotSize)
  stop_eq : ∀ index < capacity, Word.add (index * layout.slotSize) layout.slotSize =
    .ok ((index + 1) * layout.slotSize)
  stop_le : ∀ index < capacity, (index + 1) * layout.slotSize ≤ ring.block.length
  read_eq : ∀ index < capacity,
    Bytes.read (index * layout.slotSize) layout.slotSize ring.block = .ok (ring.slot index).bytes

theorem Memory.tiled {history : List Bytes} (h : ring.Memory history)
    (hblock : ring.capacity * ring.layout.slotSize < 2 ^ 63) :
    ring.Tiled ring.capacity ring.layout := by
  have hlength : ring.block.length = ring.capacity * ring.layout.slotSize := by
    rw [block, length_slots h.length_slot, List.length_range]
    rfl
  have hstop {index : Nat} (hi : index < ring.capacity) :
      (index + 1) * ring.layout.slotSize ≤ ring.capacity * ring.layout.slotSize := h.inside index hi
  constructor
  case capacity_eq | layout_eq => rfl
  case length_block => exact hlength
  case start_eq =>
    intro index hi
    have hend := hstop hi
    apply Word.mul_eq_ok
    rw [Nat.succ_mul] at hend
    simp only [Limits.word]
    omega
  case stop_eq =>
    intro index hi
    have hend := hstop hi
    rw [Nat.succ_mul] at hend ⊢
    apply Word.add_eq_ok
    simp only [Limits.word]
    omega
  case stop_le =>
    intro index hi
    rw [hlength]
    exact hstop hi
  case read_eq =>
    intro index hi
    have hfront := length_slots h.length_slot (List.range index)
    rw [List.length_range] at hfront
    have hread := Bytes.read_append
      ((List.range index).flatMap fun i => (ring.slot i).bytes) (ring.slot index).bytes
      ((List.range' (index + 1) (ring.capacity - (index + 1))).flatMap fun i =>
        (ring.slot i).bytes)
    rw [← ring.block_eq hi, hfront, h.length_slot] at hread
    exact hread

/-- Which sizes make a ring, and which each refusal stands for. -/
structure Sized (capacity : Nat) (layout : Layout) (memory : Nat) : Prop where
  invalid_iff : (∃ parameter message,
    create capacity layout memory = .error (.invalidParameter parameter message)) ↔ capacity = 0
  overflow_iff : create capacity layout memory =
    .error (.allocationFailure "Ring size overflows usize") ↔
      2 ^ 64 ≤ capacity * layout.slotSize
  oversized_iff : create capacity layout memory =
    .error (.allocationFailure "Failed to create layout for slot ring") ↔
      2 ^ 63 ≤ capacity * layout.slotSize ∧ capacity * layout.slotSize < 2 ^ 64
  otherwise : capacity ≠ 0 → capacity * layout.slotSize < 2 ^ 63 →
    create capacity layout memory ≠ .error (.allocationFailure "Failed to allocate slot ring") →
    ∃ ring, create capacity layout memory = .ok ring
  denied_iff : create capacity layout memory =
    .error (.allocationFailure "Failed to allocate slot ring") ↔
      capacity ≠ 0 ∧ memory ≤ capacity * layout.slotSize ∧ capacity * layout.slotSize < 2 ^ 63
  tiled : ∀ ring events reached, create capacity layout memory = .ok ring →
    Run ring events reached → reached.Tiled capacity layout

theorem sized (capacity : Nat) (layout : Layout) (memory : Nat) :
    Sized capacity layout memory := by
  have hcreates := create_creates capacity layout memory
  constructor
  case invalid_iff =>
    generalize create capacity layout memory = outcome at hcreates
    cases hcreates with
    | empty hempty => simp [hempty]
    | overflow hpos hword | oversized hpos hblock hword | denied hpos hblock hmemory =>
        simp [Nat.ne_of_gt hpos]
    | made ring hblock hmemory hlayout hcapacity =>
        have hpos := ring.capacity_pos
        rw [hcapacity] at hpos
        simp [Nat.ne_of_gt hpos]
  case overflow_iff =>
    generalize create capacity layout memory = outcome at hcreates
    cases hcreates with
    | empty hempty => simp [hempty]
    | overflow hpos hword => exact iff_of_true rfl hword
    | oversized hpos hblock hword => exact iff_of_false (by simp) (by omega)
    | denied hpos hblock hmemory | made ring hblock hmemory hlayout hcapacity =>
        exact iff_of_false (by simp) (by omega)
  case oversized_iff =>
    generalize create capacity layout memory = outcome at hcreates
    cases hcreates with
    | empty hempty => simp [hempty]
    | overflow hpos hword => exact iff_of_false (by simp) (by omega)
    | oversized hpos hblock hword => exact iff_of_true rfl ⟨hblock, hword⟩
    | denied hpos hblock hmemory | made ring hblock hmemory hlayout hcapacity =>
        exact iff_of_false (by simp) (by omega)
  case otherwise =>
    intro hpos hblock hallocated
    generalize create capacity layout memory = outcome at hcreates hallocated
    cases hcreates with
    | empty hempty => exact absurd hempty hpos
    | overflow hpos' hword => omega
    | oversized hpos' hblock' hword => omega
    | denied hpos' hblock' hmemory => exact absurd rfl hallocated
    | made ring hblock' hmemory hlayout hcapacity => exact ⟨ring, rfl⟩
  case denied_iff =>
    generalize create capacity layout memory = outcome at hcreates
    cases hcreates with
    | empty hempty => simp [hempty]
    | overflow hpos hword | oversized hpos hblock hword => exact iff_of_false (by simp) (by omega)
    | denied hpos hblock hmemory => exact iff_of_true rfl ⟨Nat.ne_of_gt hpos, hmemory, hblock⟩
    | made ring hblock hmemory hlayout hcapacity => exact iff_of_false (by simp) (by omega)
  case tiled =>
    intro ring events reached hcreate hrun
    obtain ⟨rfl, rfl, hreached, -⟩ := memory_of_run hcreate hrun
    rw [hcreate] at hcreates
    cases hcreates with
    | made ring hblock hmemory hlayout hcapacity => exact hreached.tiled hblock

end Ring

end TopicBus
