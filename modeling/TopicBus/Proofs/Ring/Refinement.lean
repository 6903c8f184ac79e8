import TopicBus.Proofs.Operation
import TopicBus.Proofs.Ring.Queue

/-!
Rings as lossy queues. A ring holds a queue if its cursors count what the queue counts and its slots
are those of the queue; every operation on the ring then answers as the queue does and leaves a ring
that holds the new queue.
-/

namespace TopicBus

open Op

namespace Ring

/-- The ring keeps a queue: epoch `e` is the payload with `e - 1` older ones. -/
structure Holds (ring : Ring) (queue : Queue) : Prop where
  layout_eq : ring.layout = queue.layout
  capacity_eq : ring.capacity = queue.capacity
  written_eq : ring.written = queue.history.length
  passed_eq : ring.passed = queue.read
  slot_eq : ∀ index, ring.slot index = queue.slots index
  sound : queue.Sound
  block_lt : ring.blockSize < Limits.word

theorem create_holds {capacity memory : Nat} {layout : Layout} {ring : Ring}
    (h : create capacity layout memory = .ok ring) : ring.Holds { layout, capacity } := by
  unfold create at h
  split at h
  · cases h
  · rename_i hpos
    split at h
    · cases h
    · rename_i hword
      split at h
      · cases h
      · split at h
        · cases h
        · cases h
          exact ⟨rfl, rfl, rfl, rfl, fun _ => Std.TreeMap.getD_emptyc,
            Queue.sound_empty layout (Nat.pos_of_ne_zero hpos), Nat.lt_of_not_le hword⟩

def pass (ring : Ring) (passed : Nat) : Ring := { ring with passed }

theorem locate_eq_ok {ring : Ring} {epoch : Nat} (hb : ring.blockSize < Limits.word)
    (he : 0 < epoch) : ring.locate epoch = .ok ((epoch - 1) % ring.capacity) := by
  have hi : (epoch - 1) % ring.capacity < ring.capacity := Nat.mod_lt _ ring.capacity_pos
  have hend : (epoch - 1) % ring.capacity * ring.slotSize + ring.slotSize ≤ ring.blockSize := by
    rw [← Nat.succ_mul]
    exact Nat.mul_le_mul_right _ hi
  have hs : Word.sub epoch 1 = .ok (epoch - 1) := Word.sub_eq_ok he
  simp only [locate, bind, Except.bind, hs]
  rw [Word.mul_eq_ok (by omega)]
  exact if_pos hend

theorem busyStamp_eq_ok {epoch : Nat} (he : 0 < epoch) (hw : epoch * 2 < Limits.word) :
    busyStamp epoch = .ok (epoch * 2 - 1) := by
  simp only [busyStamp, bind, Except.bind, Word.mul_eq_ok hw]
  apply Word.sub_eq_ok
  omega

theorem makeRoom_exec (ring : Ring) (log : Log) {epoch : Nat} (hp : ring.passed ≤ epoch) :
    (makeRoom epoch).exec ring log =
      ((.ok (max ring.passed (epoch - ring.capacity) - ring.passed),
        ring.pass (max ring.passed (epoch - ring.capacity))), log) := by
  simp only [makeRoom, exec_bind, exec_get, Word.sub_eq_ok hp, exec_liftFault, Except.mapError]
  by_cases hroom : epoch - ring.passed ≤ ring.capacity
  · have hm : max ring.passed (epoch - ring.capacity) = ring.passed := by omega
    rw [if_pos hroom, exec_pure, hm, Nat.sub_self]
    rfl
  · have hm : max ring.passed (epoch - ring.capacity) = epoch - ring.capacity := by omega
    rw [if_neg hroom, hm]
    have hk : Word.sub epoch ring.capacity = .ok (epoch - ring.capacity) :=
      Word.sub_eq_ok (by omega)
    have hd : Word.sub (epoch - ring.capacity) ring.passed =
        .ok (epoch - ring.capacity - ring.passed) := Word.sub_eq_ok (by omega)
    simp only [exec_bind, hk, exec_liftFault, Except.mapError, claim, exec_get, if_true, exec_set,
      exec_pure, hd, pass]

theorem fill_exec {ring : Ring} (log : Log) {epoch index : Nat} {payload : Bytes}
    (hl : ring.locate epoch = .ok index) (he : 0 < epoch) (hw : epoch * 2 < Limits.word)
    (hp : payload.length ≤ ring.layout.payloadSize)
    (hs : (ring.slot index).bytes.length = ring.slotSize) :
    (fill epoch payload).exec ring log =
      ((.ok (), (ring.put index ⟨epoch * 2 - 1, (ring.slot index).bytes⟩).put index
        ⟨epoch * 2, ring.layout.fill epoch payload (ring.slot index).bytes⟩), log) := by
  obtain ⟨body, hbody, hencode⟩ := Layout.write_fill epoch hp hs
  have hd : doneStamp epoch = .ok (epoch * 2) := Word.mul_eq_ok hw
  simp only [fill, exec_bind, exec_get, hl, busyStamp_eq_ok he hw, hd, hbody, hencode,
    exec_liftFault, Except.mapError, exec_set, exec_modify]

theorem makeRoom_unrefused (epoch : Nat) : (makeRoom epoch).Unrefused := by
  have hclaim (seen next : Nat) : (claim seen next).Unrefused :=
    Unrefused.get.bind fun _ => .ite ((Unrefused.set _).bind fun _ => .pure _) (.pure _)
  refine Unrefused.get.bind fun ring => (Unrefused.liftFault _).bind fun _ => ?_
  refine .ite (.pure _) ((Unrefused.liftFault _).bind fun kept => (hclaim _ _).bind fun _ => ?_)
  exact .ite (.liftFault _) (.fail _)

theorem fill_unrefused (epoch : Nat) (payload : Bytes) : (fill epoch payload).Unrefused := by
  refine Unrefused.get.bind fun ring => (Unrefused.liftFault _).bind fun index => ?_
  refine (Unrefused.liftFault _).bind fun _ => (Unrefused.set _).bind fun _ => ?_
  refine (Unrefused.liftFault _).bind fun _ => (Unrefused.liftFault _).bind fun _ => ?_
  exact (Unrefused.liftFault _).bind fun _ => .modify _

/-- A payload that fits is never refused, even when the epochs run out. -/
theorem publish_unrefused {ring : Ring} {payload : Bytes} (log : Log)
    (hp : ring.layout.checkPayload payload.length = .ok ()) (reason : Refusal) :
    ((publish payload).exec ring log).1.1 ≠ .error (.refused reason) := by
  simp only [publish, exec_bind ring log get, exec_get, hp]
  suffices htail : Unrefused _ from htail ring log reason
  refine (Unrefused.liftOk _).bind fun _ => Unrefused.get.bind fun _ => ?_
  refine (Unrefused.liftFault _).bind fun epoch => (makeRoom_unrefused epoch).bind fun _ => ?_
  exact (fill_unrefused epoch payload).bind fun _ => (Unrefused.modify _).bind fun _ => .pure _

def store (ring : Ring) (epoch index passed : Nat) (payload : Bytes) : Ring :=
  let slot := ring.slot index
  { ((ring.pass passed).put index ⟨epoch * 2 - 1, slot.bytes⟩).put index
      ⟨epoch * 2, ring.layout.fill epoch payload slot.bytes⟩ with written := epoch }

theorem slot_store (ring : Ring) (epoch index passed : Nat) (payload : Bytes) (other : Nat) :
    (ring.store epoch index passed payload).slot other =
      if index = other then ⟨epoch * 2, ring.layout.fill epoch payload (ring.slot index).bytes⟩
      else ring.slot other := by
  -- A slot depends on neither cursor.
  show (((ring.pass passed).put index ⟨epoch * 2 - 1, (ring.slot index).bytes⟩).put index
    ⟨epoch * 2, ring.layout.fill epoch payload (ring.slot index).bytes⟩).slot other = _
  rw [slot_put]
  by_cases hi : index = other
  · rw [if_pos hi, if_pos hi]
  · rw [if_neg hi, if_neg hi, slot_put, if_neg hi]
    rfl

namespace Holds

variable {ring : Ring} {queue : Queue} {log : Log} {payload buffer : Bytes} {count : Nat}

theorem locate (h : ring.Holds queue) (count : Nat) :
    ring.locate (count + 1) = .ok (count % queue.capacity) := by
  rw [locate_eq_ok h.block_lt count.succ_pos, h.capacity_eq]
  rfl

theorem length_slot (h : ring.Holds queue) (index : Nat) :
    (ring.slot index).bytes.length = ring.slotSize := by
  rw [h.slot_eq, h.sound.length_slots, Ring.slotSize, h.layout_eq]

theorem length_typed (h : ring.Holds queue) (htyped : ring.layout.kind = .typed)
    (hc : queue.history[count]? = some payload) : payload.length = ring.layout.payloadSize := by
  rw [h.layout_eq] at htyped ⊢
  exact h.sound.length_typed htyped (List.mem_of_getElem? hc)

theorem publish_refused {reason : Refusal} (h : ring.Holds queue) (log : Log)
    (hr : queue.layout.checkPayload payload.length = .error reason) :
    (publish payload).exec ring log = ((.error (.refused reason), ring), log) := by
  simp only [Ring.publish, exec_bind, exec_get, h.layout_eq, hr, exec_liftRefusal, Except.mapError]

theorem store_holds (h : ring.Holds queue)
    (hp : queue.layout.checkPayload payload.length = .ok ()) :
    (ring.store (queue.history.length + 1) (queue.history.length % queue.capacity)
      (queue.append payload).read payload).Holds (queue.append payload) where
  layout_eq := h.layout_eq
  capacity_eq := h.capacity_eq
  written_eq := by
    simp only [store, Queue.append, List.length_append, List.length_singleton]
  passed_eq := rfl
  slot_eq := by
    intro index
    rw [slot_store, queue.slots_append, h.layout_eq, h.slot_eq, h.slot_eq]
    by_cases hi : queue.history.length % queue.capacity = index
    · rw [if_pos hi, ← hi, Function.update_self]
    · rw [if_neg hi, Function.update_of_ne (Ne.symm hi)]
  sound := h.sound.append hp
  block_lt := h.block_lt

/-- Room is made for the next payload by moving the read cursor as the queue does. -/
theorem makeRoom_next (h : ring.Holds queue) (log : Log) (payload : Bytes) :
    (makeRoom (queue.history.length + 1)).exec ring log =
      ((.ok ((queue.append payload).read - queue.read),
        ring.pass (queue.append payload).read), log) := by
  have hle : ring.passed ≤ queue.history.length + 1 := by
    rw [h.passed_eq]
    exact Nat.le_succ_of_le h.sound.read_le
  have hread : max ring.passed (queue.history.length + 1 - ring.capacity) =
      (queue.append payload).read := by
    rw [h.passed_eq, h.capacity_eq]
    rfl
  have hroom := makeRoom_exec ring log hle
  rw [hread, h.passed_eq] at hroom
  exact hroom

theorem publish_accepted (h : ring.Holds queue) (log : Log)
    (hp : queue.layout.checkPayload payload.length = .ok ())
    (hfew : queue.history.length + 1 < 2 ^ 63) :
    ∃ ring', (publish payload).exec ring log =
        ((.ok ⟨queue.history.length + 1, (queue.append payload).read - queue.read⟩, ring'), log) ∧
      ring'.Holds (queue.append payload) := by
  refine ⟨_, ?_, h.store_holds hp⟩
  have hcheck : ring.layout.checkPayload payload.length = .ok () := by
    rw [h.layout_eq]
    exact hp
  have hword : (queue.history.length + 1) * 2 < Limits.word := by
    simp only [Limits.word]
    omega
  have hnext : Word.add ring.written 1 = .ok (queue.history.length + 1) := by
    rw [h.written_eq]
    apply Word.add_eq_ok
    omega
  have hroom := h.makeRoom_next log payload
  -- The slot is filled with the read cursor already moved.
  have hlocate : (ring.pass (queue.append payload).read).locate (queue.history.length + 1) =
      .ok (queue.history.length % queue.capacity) := h.locate queue.history.length
  have hfill := fill_exec log hlocate (Nat.succ_pos _) hword
    (ring.layout.checkPayload_le hcheck) (h.length_slot _)
  simp only [Ring.publish, exec_bind, exec_get, hcheck, exec_liftRefusal, Except.mapError, hnext,
    exec_liftFault, hroom, hfill, exec_modify, exec_pure]
  rfl

/-- When the epochs have run out, a publish may still drop an unread entry before it breaks off. -/
theorem publish_exhausted (h : ring.Holds queue) (log : Log)
    (hp : queue.layout.checkPayload payload.length = .ok ())
    (hlast : queue.history.length + 1 = 2 ^ 63) :
    (publish payload).exec ring log =
      ((.error (.fault .overflow), ring.pass (queue.append payload).read), log) := by
  have hcheck : ring.layout.checkPayload payload.length = .ok () := by
    rw [h.layout_eq]
    exact hp
  have hnext : Word.add ring.written 1 = .ok (queue.history.length + 1) := by
    rw [h.written_eq]
    apply Word.add_eq_ok
    rw [hlast]
    decide
  have hroom := h.makeRoom_next log payload
  have hlocate : (ring.pass (queue.append payload).read).locate (queue.history.length + 1) =
      .ok (queue.history.length % queue.capacity) := h.locate queue.history.length
  have hbusy : busyStamp (queue.history.length + 1) = .error .overflow := by
    rw [hlast]
    rfl
  simp only [Ring.publish, exec_bind, exec_get, hcheck, exec_liftRefusal, Except.mapError, hnext,
    exec_liftFault, hroom, fill, hlocate, hbusy]

/-- An entry that is unread, or the latest, is still in its slot. -/
theorem slot_kept (h : ring.Holds queue) (hc : queue.history[count]? = some payload)
    (hkept : queue.history.length ≤ count + queue.capacity) :
    ∃ old, ring.slot (count % queue.capacity) =
      ⟨(count + 1) * 2, ring.layout.fill (count + 1) payload old⟩ := by
  obtain ⟨hlt, rfl⟩ := List.getElem?_eq_some_iff.mp hc
  rw [h.slot_eq, h.layout_eq]
  exact ⟨_, Queue.slotsAfter_kept hlt hkept⟩

theorem copyEntry_exec (h : ring.Holds queue) (log : Log) (buffer : Bytes)
    (hc : queue.history[count]? = some payload)
    (hkept : queue.history.length ≤ count + queue.capacity)
    (hfew : queue.history.length < 2 ^ 63) :
    (copyEntry (count + 1)).exec ⟨ring, buffer⟩ log =
      if buffer.length < payload.length then
        ((.error (.refused (.bufferTooSmall payload.length buffer.length)), ⟨ring, buffer⟩), log)
      else
        ((.ok ⟨payload.length, count + 1⟩, ⟨ring, payload ++ buffer.drop payload.length⟩),
          log) := by
  obtain ⟨old, hslot⟩ := h.slot_kept hc hkept
  obtain ⟨hlt, -⟩ := List.getElem?_eq_some_iff.mp hc
  have hp := h.sound.fits payload (List.mem_of_getElem? hc)
  have hword : (count + 1) * 2 < Limits.word := by
    simp only [Limits.word]
    omega
  have hstamp : doneStamp (count + 1) = .ok ((count + 1) * 2) := Word.mul_eq_ok hword
  have hlength : ring.layout.payloadLength (ring.layout.header (count + 1) payload.length) =
      payload.length := by
    rw [h.layout_eq]
    exact queue.layout.payloadLength_header _ hp
  have hepoch : (ring.layout.header (count + 1) payload.length).epoch.toNat = count + 1 :=
    ring.layout.epoch_header payload.length (by omega)
  simp only [copyEntry, copySlot, exec_bind, exec_get, h.locate, exec_liftFault, Except.mapError,
    hslot, hstamp, ne_eq, not_true, if_false, Layout.decode_fill, hlength]
  by_cases hroom : buffer.length < payload.length
  · simp only [hroom, if_true, exec_refuse]
  · have hwrite := Bytes.write_front payload buffer (Nat.le_of_not_lt hroom)
    simp only [hroom, if_false, exec_bind, exec_set, Layout.read_fill, exec_liftFault,
      Except.mapError, hwrite, hepoch, if_true, exec_pure]

theorem checkRoom_exec (h : ring.Holds queue) :
    checkRoom.exec ⟨ring, buffer⟩ log =
      (((queue.layout.checkRoom buffer.length).mapError .refused, ⟨ring, buffer⟩), log) := by
  rw [← h.layout_eq]
  rfl

theorem readLatest_exec (h : ring.Holds queue) (hfew : queue.history.length < 2 ^ 63) :
    readLatest.exec ⟨ring, buffer⟩ log =
      (((queue.readLatest buffer).1.mapError .refused, ⟨ring, (queue.readLatest buffer).2⟩),
        log) := by
  simp only [readLatest, exec_bind, h.checkRoom_exec, exec_get, Queue.readLatest]
  cases hroom : queue.layout.checkRoom buffer.length with
  | error reason => simp only [Queue.copy_refused hroom, Except.mapError]
  | ok =>
      cases hc : queue.history[queue.history.length - 1]? with
      | none =>
          have hle := List.getElem?_eq_none_iff.mp hc
          have hzero : ring.written = 0 := by
            rw [h.written_eq]
            omega
          simp only [Queue.copy_none hroom hc, Except.mapError, hzero, if_true, exec_pure]
      | some payload =>
          obtain ⟨hlt, -⟩ := List.getElem?_eq_some_iff.mp hc
          have hlast : ring.written = queue.history.length - 1 + 1 := by
            rw [h.written_eq]
            omega
          have hpos := h.sound.capacity_pos
          have hcopy := h.copyEntry_exec log buffer hc (by omega) hfew
          by_cases hshort : buffer.length < payload.length
          · simp only [Queue.copy_short hroom hc hshort, Except.mapError, hlast, Nat.succ_ne_zero,
              if_false, exec_bind, hcopy, hshort, if_true]
          · simp only [Queue.copy_some hroom hc hshort, Except.mapError, hlast, Nat.succ_ne_zero,
              if_false, exec_bind, hcopy, hshort, exec_pure]

theorem written_le_passed_iff (h : ring.Holds queue) :
    ring.written ≤ ring.passed ↔ queue.history[queue.read]? = none := by
  rw [List.getElem?_eq_none_iff, h.written_eq, h.passed_eq]

theorem next_passed (h : ring.Holds queue) (hfew : queue.history.length < 2 ^ 63) :
    Word.add ring.passed 1 = .ok (queue.read + 1) := by
  have hle := h.sound.read_le
  rw [h.passed_eq]
  apply Word.add_eq_ok
  simp only [Limits.word]
  omega

theorem pass_read (h : ring.Holds queue) : ring.pass queue.read = ring := by
  rw [← h.passed_eq]
  rfl

theorem readOldest_exec (h : ring.Holds queue) (hfew : queue.history.length < 2 ^ 63) :
    readOldest.exec ⟨ring, buffer⟩ log =
      (((queue.readOldest buffer).1.mapError .refused, ⟨ring, (queue.readOldest buffer).2⟩),
        log) := by
  simp only [readOldest, exec_bind, h.checkRoom_exec, exec_get, Queue.readOldest]
  cases hroom : queue.layout.checkRoom buffer.length with
  | error reason => simp only [Queue.copy_refused hroom, Except.mapError]
  | ok =>
      have hempty := h.written_le_passed_iff
      cases hc : queue.history[queue.read]? with
      | none =>
          simp only [Queue.copy_none hroom hc, Except.mapError, hempty.mpr hc, if_true, exec_pure]
      | some payload =>
          rw [hc] at hempty
          have hcopy := h.copyEntry_exec log buffer hc h.sound.length_le hfew
          by_cases hshort : buffer.length < payload.length
          · simp only [Queue.copy_short hroom hc hshort, Except.mapError, hempty, reduceCtorEq,
              if_false, exec_bind, h.next_passed hfew, exec_liftFault, hcopy, hshort, if_true]
          · simp only [Queue.copy_some hroom hc hshort, Except.mapError, hempty, reduceCtorEq,
              if_false, exec_bind, h.next_passed hfew, exec_liftFault, hcopy, hshort, exec_pure]

theorem receive_exec (h : ring.Holds queue) (hfew : queue.history.length < 2 ^ 63) :
    receive.exec ⟨ring, buffer⟩ log =
      (((queue.receive buffer).1.1.mapError .refused,
        ⟨ring.pass (queue.receive buffer).2.read, (queue.receive buffer).1.2⟩), log) := by
  simp only [receive, exec_bind, h.checkRoom_exec, exec_get, Queue.receive, Queue.readOldest]
  cases hroom : queue.layout.checkRoom buffer.length with
  | error reason => simp only [Queue.copy_refused hroom, Except.mapError, h.pass_read]
  | ok =>
      have hempty := h.written_le_passed_iff
      cases hc : queue.history[queue.read]? with
      | none =>
          simp only [Queue.copy_none hroom hc, Except.mapError, hempty.mpr hc, if_true, exec_pure,
            h.pass_read]
      | some payload =>
          rw [hc] at hempty
          have hcopy := h.copyEntry_exec log buffer hc h.sound.length_le hfew
          by_cases hshort : buffer.length < payload.length
          · simp only [Queue.copy_short hroom hc hshort, Except.mapError, hempty, reduceCtorEq,
              if_false, exec_bind, h.next_passed hfew, exec_liftFault, hcopy, hshort, if_true,
              h.pass_read]
          · simp only [Queue.copy_some hroom hc hshort, Except.mapError, hempty, reduceCtorEq,
              if_false, exec_bind, h.next_passed hfew, exec_liftFault, hcopy, hshort, exec_pure,
              exec_onSource, claim, exec_get, if_true, exec_set, Queue.advance, pass]

theorem lastEpoch_eq (h : ring.Holds queue) : ring.lastEpoch = queue.history.length := h.written_eq

theorem length_eq (h : ring.Holds queue) :
    ring.length = queue.history.length - queue.read := by
  have hle := h.sound.length_le
  rw [length, h.written_eq, h.passed_eq, h.capacity_eq]
  omega

theorem pass_holds (h : ring.Holds queue)
    (hc : queue.read + count ≤ queue.history.length) :
    (ring.pass (queue.read + count)).Holds (queue.advance count) where
  layout_eq := h.layout_eq
  capacity_eq := h.capacity_eq
  written_eq := h.written_eq
  passed_eq := rfl
  slot_eq := h.slot_eq
  sound := h.sound.advance hc
  block_lt := h.block_lt

/-- Room may be made for a payload that then is not written. -/
theorem pass_append_holds (h : ring.Holds queue) (payload : Bytes) :
    (ring.pass (queue.append payload).read).Holds
      (queue.advance ((queue.append payload).read - queue.read)) := by
  have hpos := h.sound.capacity_pos
  have hread := h.sound.read_le
  have hend : queue.read + ((queue.append payload).read - queue.read) =
      (queue.append payload).read := by
    simp only [Queue.append]
    omega
  have hle : queue.read + ((queue.append payload).read - queue.read) ≤ queue.history.length := by
    simp only [Queue.append]
    omega
  have hpass := h.pass_holds hle
  rwa [hend] at hpass

end Holds

end Ring

end TopicBus
