import TopicBus.Proofs.Ring.Trace

/-!
Reads into lent buffers. A read brings the payload that it looks for to the front of the buffer, or
else it leaves the buffer and the source as they are. Where only the buffer was too small, any larger
one gets the same payload; a source of messages refuses all buffers but those of a message's size.
-/

namespace TopicBus

open Op

variable {σ : Type} {op : Op (Reading σ) (Option Delivery)} {state : σ} {queue : Queue} {count : Nat}
  {buffer : Bytes} {log : Log}

/-- What becomes of any buffer that is lent to a call which looks for the payload with `count` older
ones. -/
structure Reads (op : Op (Reading σ) (Option Delivery)) (state : σ) (layout : Layout)
    (history : List Bytes) (count : Nat) : Prop where
  found : ∀ buffer log entry, (op.exec ⟨state, buffer⟩ log).1.1 = .ok (some entry) →
    ∃ payload, history[count]? = some payload ∧ entry = ⟨payload.length, count + 1⟩ ∧
      payload.length ≤ buffer.length ∧
      (op.exec ⟨state, buffer⟩ log).1.2.buffer = payload ++ buffer.drop payload.length
  still : ∀ buffer log, (∀ entry, (op.exec ⟨state, buffer⟩ log).1.1 ≠ .ok (some entry)) →
    (op.exec ⟨state, buffer⟩ log).1.2 = ⟨state, buffer⟩
  short : ∀ buffer log required available, (op.exec ⟨state, buffer⟩ log).1.1 =
      .error (.refused (.bufferTooSmall required available)) →
    available = buffer.length ∧ available < required ∧ required ≤ layout.payloadSize ∧
      ∀ roomy log', required ≤ roomy.length →
        (op.exec ⟨state, roomy⟩ log').1.1 = .ok (some ⟨required, count + 1⟩)
  typed : layout.kind = .typed → ∀ buffer log required available,
    (op.exec ⟨state, buffer⟩ log).1.1 ≠ .error (.refused (.bufferTooSmall required available))

/-- A buffer of another size than that of a message is refused, whether or not there is one. -/
def Mismatches (op : Op (Reading σ) (Option Delivery)) (state : σ) (layout : Layout) : Prop :=
  layout.kind = .typed → ∀ buffer log, buffer.length ≠ layout.payloadSize →
    op.exec ⟨state, buffer⟩ log =
      ((.error (.refused (.sizeMismatch layout.payloadSize buffer.length)), ⟨state, buffer⟩), log)

/-- The call copies the payload with `count` older ones, and moves its source only for an entry. -/
def Copies (op : Op (Reading σ) (Option Delivery)) (state : σ) (queue : Queue) (count : Nat) : Prop :=
  ∀ buffer log, ∃ state', op.exec ⟨state, buffer⟩ log =
      (((queue.copy count buffer).1.mapError .refused, ⟨state', (queue.copy count buffer).2⟩), log) ∧
    ((∀ entry, (queue.copy count buffer).1 ≠ .ok (some entry)) → state' = state)

namespace Queue

theorem Sound.copy_eq_short (h : queue.Sound) {required available : Nat}
    (hcopy : (queue.copy count buffer).1 = .error (.bufferTooSmall required available)) :
    queue.layout.kind = .byte ∧ available = buffer.length ∧ available < required ∧
      ∃ payload, queue.history[count]? = some payload ∧ payload.length = required := by
  cases hroom : queue.layout.checkRoom buffer.length with
  | error reason =>
      rw [copy_refused hroom] at hcopy
      cases hcopy
      unfold Layout.checkRoom at hroom
      split at hroom
      · cases hroom
      · split at hroom <;> cases hroom
  | ok =>
      cases hc : queue.history[count]? with
      | none =>
          rw [copy_none hroom hc] at hcopy
          cases hcopy
      | some payload =>
          by_cases hshort : buffer.length < payload.length
          · rw [copy_short hroom hc hshort] at hcopy
            cases hcopy
            refine ⟨?_, rfl, hshort, payload, rfl, rfl⟩
            cases hkind : queue.layout.kind with
            | byte => rfl
            | typed =>
                -- The buffer has the size of a message, so it holds any payload.
                have hle := h.length_fits (List.mem_of_getElem? hc)
                simp only [Layout.checkRoom, hkind] at hroom
                split at hroom
                · cases hroom
                · omega
          · rw [copy_some hroom hc hshort] at hcopy
            cases hcopy

theorem copy_mismatch (htyped : queue.layout.kind = .typed)
    (hlength : buffer.length ≠ queue.layout.payloadSize) :
    queue.copy count buffer =
      (.error (.sizeMismatch queue.layout.payloadSize buffer.length), buffer) := by
  apply copy_refused
  simp only [Layout.checkRoom, htyped, ne_eq, hlength, not_false_eq_true, if_true]

theorem receive_fst (queue : Queue) (buffer : Bytes) :
    (queue.receive buffer).1 = queue.copy queue.read buffer := by
  unfold receive readOldest
  generalize queue.copy queue.read buffer = answer
  obtain ⟨_ | _ | _, _⟩ := answer <;> rfl

theorem receive_idle (h : ∀ entry, (queue.copy queue.read buffer).1 ≠ .ok (some entry)) :
    (queue.receive buffer).2 = queue := by
  unfold receive readOldest
  generalize queue.copy queue.read buffer = answer at h ⊢
  obtain ⟨_ | _ | entry, _⟩ := answer
  · rfl
  · rfl
  · exact absurd rfl (h entry)

end Queue

theorem Except.mapError_eq_ok {ε ε' α : Type} {f : ε → ε'} {outcome : Except ε α} {a : α}
    (h : outcome.mapError f = .ok a) : outcome = .ok a := by
  cases outcome with
  | error e => cases h
  | ok b => exact congrArg _ (Except.ok.inj h)

theorem Except.mapError_eq_refused {α : Type} {outcome : Except Refusal α} {reason : Refusal}
    (h : outcome.mapError Failure.refused = .error (.refused reason)) : outcome = .error reason := by
  cases outcome with
  | ok a => cases h
  | error e =>
      cases h
      rfl

theorem Copies.copy_eq_short (h : Copies op state queue count) {required available : Nat}
    (hexec : (op.exec ⟨state, buffer⟩ log).1.1 =
      .error (.refused (.bufferTooSmall required available))) :
    (queue.copy count buffer).1 = .error (.bufferTooSmall required available) := by
  obtain ⟨state', hcopies, -⟩ := h buffer log
  rw [hcopies] at hexec
  exact Except.mapError_eq_refused hexec

theorem Copies.reads (h : Copies op state queue count) (hsound : queue.Sound) :
    Reads op state queue.layout queue.history count := by
  constructor
  case found =>
    intro buffer log entry hexec
    obtain ⟨state', hcopies, -⟩ := h buffer log
    rw [hcopies] at hexec ⊢
    rcases queue.copy_cases count buffer with ⟨outcome, hidle, hcopy⟩ | ⟨payload, hc, hle, hcopy⟩
    · rw [hcopy] at hexec
      exact absurd (Except.mapError_eq_ok hexec) (hidle entry)
    · rw [hcopy] at hexec ⊢
      cases hexec
      exact ⟨payload, hc, rfl, hle, rfl⟩
  case still =>
    intro buffer log hexec
    obtain ⟨state', hcopies, hstate⟩ := h buffer log
    rw [hcopies] at hexec ⊢
    rcases queue.copy_cases count buffer with ⟨outcome, hidle, hcopy⟩ | ⟨payload, -, -, hcopy⟩
    · rw [hstate (by rw [hcopy]; exact hidle), hcopy]
    · rw [hcopy] at hexec
      exact absurd rfl (hexec _)
  case short =>
    intro buffer log required available hexec
    obtain ⟨hbyte, havailable, hlt, payload, hc, rfl⟩ := hsound.copy_eq_short (h.copy_eq_short hexec)
    refine ⟨havailable, hlt, hsound.length_fits (List.mem_of_getElem? hc), ?_⟩
    intro roomy log' hroom
    obtain ⟨state', hcopies, -⟩ := h roomy log'
    have hcheck : queue.layout.checkRoom roomy.length = .ok () := by
      simp only [Layout.checkRoom, hbyte]
    rw [hcopies, Queue.copy_some hcheck hc (Nat.not_lt.mpr hroom)]
    rfl
  case typed =>
    intro htyped buffer log required available hexec
    obtain ⟨hbyte, -⟩ := hsound.copy_eq_short (h.copy_eq_short hexec)
    rw [htyped] at hbyte
    cases hbyte

theorem Copies.mismatches (h : Copies op state queue count) : Mismatches op state queue.layout := by
  intro htyped buffer log hlength
  obtain ⟨state', hcopies, hstate⟩ := h buffer log
  rw [Queue.copy_mismatch htyped hlength] at hcopies hstate
  rw [hcopies, hstate (by simp)]
  rfl

theorem Reads.of_still {outcome : Except Failure (Option Delivery)} {layout : Layout}
    {history : List Bytes} (h : ∀ buffer log, op.exec ⟨state, buffer⟩ log =
      ((outcome, ⟨state, buffer⟩), log))
    (hnone : ∀ entry, outcome ≠ .ok (some entry))
    (hroom : ∀ required available, outcome ≠ .error (.refused (.bufferTooSmall required available))) :
    Reads op state layout history count := by
  constructor
  case found =>
    intro buffer log entry hexec
    rw [h] at hexec
    exact absurd hexec (hnone entry)
  case still =>
    intro buffer log _
    rw [h]
  case short =>
    intro buffer log required available hexec
    rw [h] at hexec
    exact absurd hexec (hroom required available)
  case typed =>
    intro _ buffer log required available
    rw [h]
    exact hroom required available

namespace Ring

variable {ring : Ring}

namespace Holds

variable (h : ring.Holds queue) (hfew : queue.history.length < 2 ^ 63)

include h hfew

theorem receive_copies : Copies receive ring queue queue.read := by
  intro buffer log
  refine ⟨ring.pass (queue.receive buffer).2.read, ?_, ?_⟩
  · rw [h.receive_exec hfew, queue.receive_fst]
  · intro hidle
    rw [Queue.receive_idle hidle, h.pass_read]

theorem readLatest_copies : Copies readLatest ring queue (queue.history.length - 1) :=
  fun _ _ => ⟨ring, h.readLatest_exec hfew, fun _ => rfl⟩

theorem readOldest_copies : Copies readOldest ring queue queue.read :=
  fun _ _ => ⟨ring, h.readOldest_exec hfew, fun _ => rfl⟩

end Holds

structure Atomic (ring : Ring) (layout : Layout) (history : List Bytes) : Prop where
  receive : Reads receive ring layout history ring.passed
  readLatest : Reads readLatest ring layout history (ring.lastEpoch - 1)
  readOldest : Reads readOldest ring layout history ring.passed
  receive_mismatches : Mismatches Ring.receive ring layout
  readLatest_mismatches : Mismatches Ring.readLatest ring layout
  readOldest_mismatches : Mismatches Ring.readOldest ring layout

theorem atomic_of_run {capacity memory : Nat} {layout : Layout} {ring' : Ring} {events : List Event}
    (hring : create capacity layout memory = .ok ring) (hrun : Run ring events ring') :
    ring'.Atomic layout (accepted events) := by
  have hnone : ([] : List Bytes).length < 2 ^ 63 := by decide
  obtain ⟨queue, h, htraced⟩ := hrun.holds (create_holds hring) hnone
  have hfew := htraced.length_lt
  have hlayout : layout = queue.layout := htraced.extends_eq.layout_eq.symm
  have hhistory : accepted events = queue.history := htraced.extends_eq.history_eq.symm
  rw [hlayout, hhistory]
  constructor
  case receive =>
    rw [h.passed_eq]
    exact (h.receive_copies hfew).reads h.sound
  case readLatest =>
    rw [h.lastEpoch_eq]
    exact (h.readLatest_copies hfew).reads h.sound
  case readOldest =>
    rw [h.passed_eq]
    exact (h.readOldest_copies hfew).reads h.sound
  case receive_mismatches => exact (h.receive_copies hfew).mismatches
  case readLatest_mismatches => exact (h.readLatest_copies hfew).mismatches
  case readOldest_mismatches => exact (h.readOldest_copies hfew).mismatches

end Ring

end TopicBus
