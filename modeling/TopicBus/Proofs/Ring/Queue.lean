import TopicBus.Proofs.Slot
import TopicBus.Ring.Basic

/-!
Lossy queues: what a ring means to its users. A queue knows every payload that it ever accepted and
how many of them are read or dropped; it has neither slots nor stamps. Beside it stands what the
slots of a ring hold once the payloads of a queue were written into them in turn.
-/

namespace TopicBus

structure Queue where
  layout : Layout
  capacity : Nat
  /-- All payloads that were accepted, the oldest first. -/
  history : List Bytes := []
  read : Nat := 0

namespace Queue

def append (queue : Queue) (payload : Bytes) : Queue :=
  { queue with
    history := queue.history ++ [payload]
    read := max queue.read (queue.history.length + 1 - queue.capacity) }

def publish (queue : Queue) (payload : Bytes) : Except Refusal Published × Queue :=
  match queue.layout.checkPayload payload.length with
  | .error reason => (.error reason, queue)
  | .ok () =>
    (.ok ⟨queue.history.length + 1, (queue.append payload).read - queue.read⟩,
      queue.append payload)

def copy (queue : Queue) (count : Nat) (buffer : Bytes) :
    Except Refusal (Option Delivery) × Bytes :=
  match queue.layout.checkRoom buffer.length with
  | .error reason => (.error reason, buffer)
  | .ok () =>
    match queue.history[count]? with
    | none => (.ok none, buffer)
    | some payload =>
      if buffer.length < payload.length then
        (.error (.bufferTooSmall payload.length buffer.length), buffer)
      else
        (.ok (some ⟨payload.length, count + 1⟩), payload ++ buffer.drop payload.length)

def readLatest (queue : Queue) (buffer : Bytes) : Except Refusal (Option Delivery) × Bytes :=
  queue.copy (queue.history.length - 1) buffer

def readOldest (queue : Queue) (buffer : Bytes) : Except Refusal (Option Delivery) × Bytes :=
  queue.copy queue.read buffer

def advance (queue : Queue) (count : Nat) : Queue := { queue with read := queue.read + count }

def receive (queue : Queue) (buffer : Bytes) :
    (Except Refusal (Option Delivery) × Bytes) × Queue :=
  match queue.readOldest buffer with
  | (.ok (some received), buffer) => ((.ok (some received), buffer), queue.advance 1)
  | answer => (answer, queue)

section Copy

variable {queue : Queue} {count : Nat} {payload buffer : Bytes}

theorem copy_refused {reason : Refusal}
    (hroom : queue.layout.checkRoom buffer.length = .error reason) :
    queue.copy count buffer = (.error reason, buffer) := by
  simp only [copy, hroom]

theorem copy_none (hroom : queue.layout.checkRoom buffer.length = .ok ())
    (hc : queue.history[count]? = none) : queue.copy count buffer = (.ok none, buffer) := by
  simp only [copy, hroom, hc]

theorem copy_short (hroom : queue.layout.checkRoom buffer.length = .ok ())
    (hc : queue.history[count]? = some payload) (hshort : buffer.length < payload.length) :
    queue.copy count buffer =
      (.error (.bufferTooSmall payload.length buffer.length), buffer) := by
  simp only [copy, hroom, hc, hshort, if_true]

theorem copy_some (hroom : queue.layout.checkRoom buffer.length = .ok ())
    (hc : queue.history[count]? = some payload) (hlong : ¬buffer.length < payload.length) :
    queue.copy count buffer =
      (.ok (some ⟨payload.length, count + 1⟩), payload ++ buffer.drop payload.length) := by
  simp only [copy, hroom, hc, hlong, if_false]

theorem copy_cases (queue : Queue) (count : Nat) (buffer : Bytes) :
    (∃ outcome, (∀ found, outcome ≠ .ok (some found)) ∧
      queue.copy count buffer = (outcome, buffer)) ∨
    ∃ payload, queue.history[count]? = some payload ∧ payload.length ≤ buffer.length ∧
      queue.copy count buffer =
        (.ok (some ⟨payload.length, count + 1⟩), payload ++ buffer.drop payload.length) := by
  cases hroom : queue.layout.checkRoom buffer.length with
  | error reason => exact .inl ⟨_, by simp, copy_refused hroom⟩
  | ok =>
      cases hc : queue.history[count]? with
      | none => exact .inl ⟨_, by simp, copy_none hroom hc⟩
      | some payload =>
          by_cases hshort : buffer.length < payload.length
          · exact .inl ⟨_, by simp, copy_short hroom hc hshort⟩
          · exact .inr ⟨payload, rfl, Nat.le_of_not_lt hshort, copy_some hroom hc hshort⟩

theorem receive_cases (queue : Queue) (buffer : Bytes) :
    (∃ outcome, (∀ found, outcome ≠ .ok (some found)) ∧
      queue.receive buffer = ((outcome, buffer), queue)) ∨
    ∃ payload, queue.history[queue.read]? = some payload ∧ payload.length ≤ buffer.length ∧
      queue.receive buffer =
        ((.ok (some ⟨payload.length, queue.read + 1⟩), payload ++ buffer.drop payload.length),
          queue.advance 1) := by
  unfold receive readOldest
  rcases queue.copy_cases queue.read buffer with ⟨outcome, hidle, hcopy⟩ | ⟨payload, hc, hle, hcopy⟩
  · rw [hcopy]
    refine .inl ⟨outcome, hidle, ?_⟩
    rcases outcome with reason | _ | found
    · rfl
    · rfl
    · exact absurd rfl (hidle found)
  · rw [hcopy]
    exact .inr ⟨payload, hc, hle, rfl⟩

end Copy

/-- What every reachable queue satisfies: the read count runs at most one capacity behind, and no
payload was accepted that the layout refuses. -/
structure Sound (queue : Queue) : Prop where
  capacity_pos : 0 < queue.capacity
  read_le : queue.read ≤ queue.history.length
  length_le : queue.history.length ≤ queue.read + queue.capacity
  fits : ∀ payload ∈ queue.history, queue.layout.checkPayload payload.length = .ok ()

theorem sound_empty (layout : Layout) {capacity : Nat} (h : 0 < capacity) :
    Sound { layout, capacity } := ⟨h, Nat.le_refl _, Nat.zero_le _, by simp⟩

namespace Sound

variable {queue : Queue} {payload : Bytes}

theorem append (h : queue.Sound) (hp : queue.layout.checkPayload payload.length = .ok ()) :
    (queue.append payload).Sound where
  capacity_pos := h.capacity_pos
  read_le := by
    have hr := h.read_le
    have hc := h.capacity_pos
    simp only [Queue.append, List.length_append, List.length_singleton]
    omega
  length_le := by
    have hl := h.length_le
    simp only [Queue.append, List.length_append, List.length_singleton]
    omega
  fits := by
    intro p hmem
    rcases List.mem_append.mp hmem with hold | hnew
    · exact h.fits p hold
    · rw [List.mem_singleton.mp hnew]
      exact hp

theorem advance (h : queue.Sound) {count : Nat} (hc : queue.read + count ≤ queue.history.length) :
    (queue.advance count).Sound where
  capacity_pos := h.capacity_pos
  read_le := hc
  length_le := by
    have hl := h.length_le
    simp only [Queue.advance]
    omega
  fits := h.fits

theorem length_fits (h : queue.Sound) (hp : payload ∈ queue.history) :
    payload.length ≤ queue.layout.payloadSize := queue.layout.checkPayload_le (h.fits payload hp)

theorem length_typed (h : queue.Sound) (htyped : queue.layout.kind = .typed)
    (hp : payload ∈ queue.history) : payload.length = queue.layout.payloadSize :=
  Layout.checkPayload_typed htyped (h.fits payload hp)

end Sound

/-- What the slots hold once the payloads of a history were written into them in turn. -/
def slotsAfter (layout : Layout) (capacity : Nat) (history : List Bytes) : Nat → Slot :=
  history.zipIdx.foldl
    (fun slots entry =>
      let index := entry.2 % capacity
      let bytes := layout.fill (entry.2 + 1) entry.1 (slots index).bytes
      Function.update slots index ⟨(entry.2 + 1) * 2, bytes⟩)
    fun _ => .blank layout.slotSize

def slots (queue : Queue) : Nat → Slot := slotsAfter queue.layout queue.capacity queue.history

variable {layout : Layout} {capacity : Nat} {history : List Bytes}

theorem slotsAfter_append (payload : Bytes) :
    slotsAfter layout capacity (history ++ [payload]) =
      Function.update (slotsAfter layout capacity history) (history.length % capacity)
        ⟨(history.length + 1) * 2, layout.fill (history.length + 1) payload
          (slotsAfter layout capacity history (history.length % capacity)).bytes⟩ := by
  simp only [slotsAfter, List.zipIdx_append, List.foldl_append, List.zipIdx_cons,
    List.zipIdx_nil, List.foldl_cons, List.foldl_nil, Nat.zero_add]

theorem length_slotsAfter (hfits : ∀ payload ∈ history, payload.length ≤ layout.payloadSize)
    (index : Nat) : (slotsAfter layout capacity history index).bytes.length = layout.slotSize := by
  induction history using List.reverseRecOn generalizing index with
  | nil => exact Bytes.length_zeros _
  | append_singleton history payload ih =>
      have hold := ih fun p hp => hfits p (List.mem_append_left _ hp)
      rw [slotsAfter_append]
      by_cases hi : index = history.length % capacity
      · rw [hi, Function.update_self]
        exact Layout.length_fill (hfits payload (by simp)) (hold _)
      · rw [Function.update_of_ne hi]
        exact hold index

theorem mod_ne_of_lt {m n c : Nat} (hlt : m < n) (hn : n < m + c) : n % c ≠ m % c := by
  intro he
  have hd : c ∣ n - m := Nat.dvd_of_mod_eq_zero (Nat.sub_mod_eq_zero_of_mod_eq he)
  have hc : c ≤ n - m := Nat.le_of_dvd (by omega) hd
  omega

theorem slotsAfter_kept {count : Nat} (hlt : count < history.length)
    (hkept : history.length ≤ count + capacity) :
    slotsAfter layout capacity history (count % capacity) =
      ⟨(count + 1) * 2, layout.fill (count + 1) history[count]
        (slotsAfter layout capacity (history.take count) (count % capacity)).bytes⟩ := by
  induction history using List.reverseRecOn with
  | nil => exact absurd hlt (Nat.not_lt_zero _)
  | append_singleton history payload ih =>
      simp only [List.length_append, List.length_singleton] at hlt hkept
      rw [slotsAfter_append]
      by_cases hc : count = history.length
      · subst hc
        simp
      · have hlt' : count < history.length := by omega
        have hne : count % capacity ≠ history.length % capacity :=
          (mod_ne_of_lt hlt' (by omega)).symm
        rw [Function.update_of_ne hne, ih hlt' (by omega), List.getElem_append_left hlt',
          List.take_append_of_le_length (Nat.le_of_lt hlt')]

theorem slotsAfter_blank {index : Nat} (h : ∀ count < history.length, count % capacity ≠ index) :
    slotsAfter layout capacity history index = .blank layout.slotSize := by
  induction history using List.reverseRecOn with
  | nil => rfl
  | append_singleton history payload ih =>
      rw [List.length_append, List.length_singleton] at h
      rw [slotsAfter_append, Function.update_of_ne (h history.length (Nat.lt_succ_self _)).symm]
      exact ih fun count hlt => h count (Nat.lt_succ_of_lt hlt)

theorem exists_latest {index length : Nat} (hi : index < capacity) (hl : index < length) :
    ∃ count < length, length ≤ count + capacity ∧ count % capacity = index := by
  have hrest : (length - 1 - index) % capacity < capacity := Nat.mod_lt _ (by omega)
  have hwhole := Nat.mod_add_div (length - 1 - index) capacity
  refine ⟨index + capacity * ((length - 1 - index) / capacity), by omega, by omega, ?_⟩
  rw [Nat.add_mul_mod_self_left, Nat.mod_eq_of_lt hi]

theorem slots_append (queue : Queue) (payload : Bytes) :
    (queue.append payload).slots =
      Function.update queue.slots (queue.history.length % queue.capacity)
        ⟨(queue.history.length + 1) * 2, queue.layout.fill (queue.history.length + 1) payload
          (queue.slots (queue.history.length % queue.capacity)).bytes⟩ := slotsAfter_append payload

/-- A slot is blank, or the latest payload that belongs there was written into it. -/
theorem Sound.slots_cases {queue : Queue} (h : queue.Sound) (index : Nat) :
    ((∀ count < queue.history.length, count % queue.capacity ≠ index) ∧
      queue.slots index = .blank queue.layout.slotSize) ∨
    ∃ (count : Nat) (hlt : count < queue.history.length) (old : Bytes),
      queue.history.length ≤ count + queue.capacity ∧ count % queue.capacity = index ∧
      queue.slots index =
        ⟨(count + 1) * 2, queue.layout.fill (count + 1) queue.history[count] old⟩ := by
  by_cases hused : index < queue.capacity ∧ index < queue.history.length
  · obtain ⟨count, hlt, hkept, rfl⟩ := exists_latest hused.1 hused.2
    exact .inr ⟨count, hlt, _, hkept, rfl, slotsAfter_kept hlt hkept⟩
  · have hfree : ∀ count < queue.history.length, count % queue.capacity ≠ index := by
      intro count hlt he
      have hmod : count % queue.capacity < queue.capacity := Nat.mod_lt _ h.capacity_pos
      have hle : count % queue.capacity ≤ count := Nat.mod_le _ _
      exact hused ⟨by omega, by omega⟩
    exact .inl ⟨hfree, slotsAfter_blank hfree⟩

theorem Sound.length_slots {queue : Queue} (h : queue.Sound) (index : Nat) :
    (queue.slots index).bytes.length = queue.layout.slotSize :=
  length_slotsAfter (fun _ hp => h.length_fits hp) index

end Queue

end TopicBus
