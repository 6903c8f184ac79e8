import TopicBus.Proofs.Ring.Retry
import TopicBus.Proofs.Slot.Laws

/-!
Reads of slots that may hold any bytes, such as a payload half replaced by another one under the
header of either. A reader believes the header that it finds; still it copies nothing from outside
of the slot and writes nothing behind its buffer, since no header tells of more than there is room
for.
-/

namespace TopicBus

open Op

namespace Ring

variable {ring : Ring} {epoch : Nat} {buffer : Bytes} {log : Log}

/-- All slots are as long as the layout wants them; what stands in them is left open. -/
def Uniform (ring : Ring) : Prop := ∀ index, (ring.slot index).bytes.length = ring.slotSize

def body (ring : Ring) (epoch length : Nat) : Bytes :=
  ((ring.slot (ring.home epoch)).bytes.drop ring.layout.headerSize).take length

/-- What can come of copying the payload of an epoch: the outcome, and the buffer afterwards. -/
inductive Glimpse (ring : Ring) (epoch : Nat) (buffer : Bytes) :
    Except Failure (Option Nat) → Bytes → Prop
  | overflow : Glimpse ring epoch buffer (.error (.fault .overflow)) buffer
  | gone : Glimpse ring epoch buffer (.ok none) buffer
  | short {required : Nat} (hlt : buffer.length < required)
      (hle : required ≤ ring.layout.payloadSize) :
      Glimpse ring epoch buffer (.error (.refused (.bufferTooSmall required buffer.length))) buffer
  /-- The header under the stamp of the epoch names another epoch. -/
  | foreign {length : Nat} (hroom : length ≤ buffer.length)
      (hle : length ≤ ring.layout.payloadSize) :
      Glimpse ring epoch buffer (.error (.fault .inconsistent))
        (ring.body epoch length ++ buffer.drop length)
  | copied {length : Nat} (hroom : length ≤ buffer.length)
      (hle : length ≤ ring.layout.payloadSize) :
      Glimpse ring epoch buffer (.ok (some length)) (ring.body epoch length ++ buffer.drop length)

def Glimpses (copy : Op (Reading Ring) (Option Nat)) (ring : Ring) (epoch : Nat) (buffer : Bytes)
    (log : Log) : Prop :=
  ∃ outcome buffer', copy.exec ⟨ring, buffer⟩ log = ((outcome, ⟨ring, buffer'⟩), log) ∧
    ring.Glimpse epoch buffer outcome buffer'

theorem Glimpses.lift {α : Type} {result : Except Fault α} {a : α}
    {next : α → Op (Reading Ring) (Option Nat)} (h : result = .ok a ∨ result = .error .overflow)
    (hnext : Glimpses (next a) ring epoch buffer log) :
    Glimpses (liftM result >>= next) ring epoch buffer log := by
  rcases h with rfl | rfl
  · exact hnext
  · exact ⟨_, _, rfl, .overflow⟩

theorem locate_cases (ring : Ring) (epoch : Nat) :
    ring.locate epoch = .ok (ring.home epoch) ∨ ring.locate epoch = .error .overflow := by
  have hi : ring.home epoch < ring.capacity := Nat.mod_lt _ ring.capacity_pos
  have hend : ring.home epoch * ring.slotSize + ring.slotSize ≤ ring.blockSize := by
    rw [← Nat.succ_mul]
    exact Nat.mul_le_mul_right _ hi
  have hhome : (epoch - 1) % ring.capacity = ring.home epoch := rfl
  by_cases hpos : 1 ≤ epoch
  · simp only [locate, bind, Except.bind, Word.sub_eq_ok hpos, hhome]
    by_cases hword : ring.home epoch * ring.slotSize < Limits.word
    · rw [Word.mul_eq_ok hword]
      exact .inl (if_pos hend)
    · have hover : Word.mul (ring.home epoch) ring.slotSize = .error .overflow := if_neg hword
      rw [hover]
      exact .inr rfl
  · have hnone : Word.sub epoch 1 = .error .overflow := if_neg hpos
    simp only [locate, bind, Except.bind, hnone]
    exact .inr trivial

theorem doneStamp_cases (epoch : Nat) :
    doneStamp epoch = .ok (epoch * 2) ∨ doneStamp epoch = .error .overflow := by
  unfold doneStamp Word.mul
  split
  · exact .inl rfl
  · exact .inr rfl

theorem Uniform.copySlot_glimpses (h : ring.Uniform) (epoch : Nat) (buffer : Bytes) (log : Log) :
    Glimpses (copySlot epoch) ring epoch buffer log := by
  obtain ⟨header, hdecode, hread⟩ := ring.layout.faithful.inside _ (h (ring.home epoch))
  have hle := ring.layout.payloadLength_le header
  have hbody := Bytes.length_of_read hread
  rw [copySlot, Glimpses, exec_bind, exec_get]
  refine Glimpses.lift (ring.locate_cases epoch) (.lift (doneStamp_cases epoch) ?_)
  split
  · exact ⟨_, _, rfl, .gone⟩
  · refine Glimpses.lift (.inl hdecode) ?_
    dsimp only
    split
    · exact ⟨_, _, rfl, .short ‹_› hle⟩
    · have hroom : ring.layout.payloadLength header ≤ buffer.length := Nat.le_of_not_lt ‹_›
      have hwrite := Bytes.write_front _ buffer (hbody.trans_le hroom)
      rw [hbody] at hwrite
      refine Glimpses.lift (.inl hread) (.lift (.inl hwrite) ?_)
      rw [Glimpses, exec_bind, exec_set]
      dsimp only
      split
      · exact ⟨_, _, rfl, .copied hroom hle⟩
      · exact ⟨_, _, rfl, .foreign hroom hle⟩

/-- An outcome of a read, and the buffer afterwards. An entry comes from the slot of its epoch, and
fits the slot and the buffer. -/
structure Inside (ring : Ring) (buffer : Bytes) (outcome : Except Failure (Option Delivery))
    (buffer' : Bytes) : Prop where
  ne_outOfRange : outcome ≠ .error (.fault .outOfRange)
  found : ∀ entry, outcome = .ok (some entry) →
    entry.length ≤ ring.layout.payloadSize ∧ entry.length ≤ buffer.length ∧
      buffer' = ring.body entry.epoch entry.length ++ buffer.drop entry.length

theorem Inside.of_failure {failure : Failure} {buffer' : Bytes}
    (h : failure ≠ .fault .outOfRange) : ring.Inside buffer (.error failure) buffer' :=
  ⟨by simpa using h, by simp⟩

def StaysInside (read : Op (Reading Ring) (Option Delivery)) (ring : Ring) (buffer : Bytes)
    (log : Log) : Prop :=
  ring.Inside buffer (read.exec ⟨ring, buffer⟩ log).1.1 (read.exec ⟨ring, buffer⟩ log).1.2.buffer

namespace StaysInside

theorem idle : StaysInside (pure none) ring buffer log := ⟨by simp, by simp⟩

theorem get_bind {next : Reading Ring → Op (Reading Ring) (Option Delivery)}
    (h : StaysInside (next ⟨ring, buffer⟩) ring buffer log) :
    StaysInside (get >>= next) ring buffer log := h

theorem checkRoom_bind {next : Unit → Op (Reading Ring) (Option Delivery)}
    (h : StaysInside (next ()) ring buffer log) :
    StaysInside (checkRoom >>= next) ring buffer log := by
  have hcheck : checkRoom.exec ⟨ring, buffer⟩ log =
      (((ring.layout.checkRoom buffer.length).mapError .refused, ⟨ring, buffer⟩), log) := rfl
  rw [StaysInside, exec_bind, hcheck]
  cases ring.layout.checkRoom buffer.length with
  | error reason => exact .of_failure (by simp)
  | ok => exact h

theorem add_bind {a b : Nat} {next : Nat → Op (Reading Ring) (Option Delivery)}
    (h : ∀ n, StaysInside (next n) ring buffer log) :
    StaysInside (liftM (Word.add a b) >>= next) ring buffer log := by
  by_cases hword : a + b < Limits.word
  · rw [Word.add_eq_ok hword]
    exact h _
  · have hover : Word.add a b = .error .overflow := if_neg hword
    rw [hover]
    exact Inside.of_failure (by simp)

theorem copyEntry_bind (h : ring.Uniform) {next : Delivery → Op (Reading Ring) (Option Delivery)}
    (hnext : ∀ entry buffer', ∃ ring', (next entry).exec ⟨ring, buffer'⟩ log =
      ((.ok (some entry), ⟨ring', buffer'⟩), log)) :
    StaysInside (copyEntry epoch >>= next) ring buffer log := by
  obtain ⟨outcome, buffer', hexec, hglimpse⟩ := h.copySlot_glimpses epoch buffer log
  rw [StaysInside, copyEntry, bind_assoc, exec_bind, hexec]
  cases hglimpse with
  | overflow | short | foreign | gone => exact .of_failure (by simp)
  | @copied length hroom hle =>
      obtain ⟨ring', hhanded⟩ := hnext ⟨length, epoch⟩ (ring.body epoch length ++ buffer.drop length)
      simp only [pure_bind, hhanded]
      refine ⟨by simp, ?_⟩
      rintro entry ⟨⟩
      exact ⟨hle, hroom, rfl⟩

end StaysInside

/-- No read of the ring reaches beyond a slot or behind its buffer. -/
structure Confined (ring : Ring) : Prop where
  copySlot : ∀ epoch buffer log, Glimpses (Ring.copySlot epoch) ring epoch buffer log
  receive : ∀ buffer log, StaysInside Ring.receive ring buffer log
  readLatest : ∀ buffer log, StaysInside Ring.readLatest ring buffer log
  readOldest : ∀ buffer log, StaysInside Ring.readOldest ring buffer log

theorem Uniform.confined (h : ring.Uniform) : ring.Confined := by
  constructor
  case copySlot => exact h.copySlot_glimpses
  case receive =>
    refine fun buffer log => .checkRoom_bind (.get_bind ?_)
    dsimp only
    split
    · exact .idle
    · refine .add_bind fun epoch => .copyEntry_bind h fun entry buffer' => ?_
      simp only [exec_bind, exec_onSource, claim_exec, if_true, exec_pure]
      exact ⟨_, rfl⟩
  case readLatest =>
    refine fun buffer log => .checkRoom_bind (.get_bind ?_)
    dsimp only
    split
    · exact .idle
    · exact .copyEntry_bind h fun _ _ => ⟨ring, rfl⟩
  case readOldest =>
    refine fun buffer log => .checkRoom_bind (.get_bind ?_)
    dsimp only
    split
    · exact .idle
    · exact .add_bind fun _ => .copyEntry_bind h fun _ _ => ⟨ring, rfl⟩

theorem uniform_of_run {capacity memory : Nat} {layout : Layout} {ring' : Ring} {events : List Event}
    (hring : create capacity layout memory = .ok ring) (hrun : Run ring events ring') :
    ring'.Uniform := by
  have hnone : ([] : List Bytes).length < 2 ^ 63 := by decide
  obtain ⟨queue, hholds, -⟩ := hrun.holds (create_holds hring) hnone
  exact hholds.length_slot

end Ring

/-- Headers of either kind are what their bytes spell, those of accepted payloads tell epoch and
length exactly, and those of any other origin lead no read out of its slot, in a ring that was
reached by any run or in one that only looks like it. -/
theorem headers_faithful :
    (∀ kind, Header.Lawful kind) ∧ (∀ layout : Layout, layout.Faithful) ∧
      (∀ ring : Ring, ring.Uniform → ring.Confined) ∧
      ∀ {capacity memory : Nat} {layout : Layout} {ring ring' : Ring} {events : List Ring.Event},
        Ring.create capacity layout memory = .ok ring → Ring.Run ring events ring' →
        ring'.Uniform ∧ ring'.Confined := by
  refine ⟨Header.lawful, Layout.faithful, fun _ h => h.confined, ?_⟩
  intro capacity memory layout ring ring' events hring hrun
  have huniform := Ring.uniform_of_run hring hrun
  exact ⟨huniform, huniform.confined⟩

/-- A header with all its digits, one for a payload, and one that tells of far more than its slot
has room for. -/
theorem headers_faithful_torn :
    let layout : Layout := ⟨.byte, 4, by decide, by decide⟩
    let header : Header := .byte 0x0102030405060708 3
    let wire : Bytes := [8, 7, 6, 5, 4, 3, 2, 1, 3, 0, 0, 0]
    let torn : Bytes := [1, 0, 0, 0, 0, 0, 0, 0, 255, 255, 255, 255, 10, 20, 30, 40]
    let ring : Ring := Ring.put ⟨layout, 1, by decide, {}, 1, 0⟩ 0 ⟨2, torn⟩
    (header.encode (List.replicate 14 9) = .ok (wire ++ [9, 9]) ∧
      Header.decode .byte (wire ++ [9, 9]) = .ok header) ∧
    (layout.checkPayload 3 = .ok () ∧ ∃ written found,
      (layout.header 258 3).encode (Bytes.zeros 12) = .ok written ∧
      Header.decode .byte written = .ok found ∧
      found.epoch.toNat = 258 ∧ layout.payloadLength found = 3) ∧
    ring.Uniform ∧
      (Ring.receive.exec ⟨ring, [9, 9, 9, 9, 9, 9]⟩ #[]).1.2.buffer = [10, 20, 30, 40, 9, 9] := by
  intro layout header wire torn ring
  have hencode : header.encode (List.replicate 14 9) = .ok (wire ++ [9, 9]) := rfl
  have hdecode := (headers_faithful.1 .byte).decode_encode header rfl _ _ hencode
  have hkept :=
    (headers_faithful.2.1 layout).kept 258 (by decide) 3 rfl (Bytes.zeros 12) (by decide)
  have huniform : ring.Uniform := by
    intro index
    rw [Ring.slot_put]
    split
    · rfl
    · rw [Ring.slot, Std.TreeMap.getD_emptyc]
      exact Bytes.length_zeros _
  have hinside := (headers_faithful.2.2.1 ring huniform).receive [9, 9, 9, 9, 9, 9] #[]
  have hreceived : (Ring.receive.exec ⟨ring, [9, 9, 9, 9, 9, 9]⟩ #[]).1.1 = .ok (some ⟨4, 1⟩) := by
    rfl
  obtain ⟨-, -, hbuffer⟩ := hinside.found _ hreceived
  refine ⟨⟨hencode, hdecode⟩, ⟨rfl, hkept⟩, huniform, hbuffer.trans ?_⟩
  rfl

end TopicBus
