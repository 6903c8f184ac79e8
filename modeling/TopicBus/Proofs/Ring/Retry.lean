import TopicBus.Proofs.Ring.Read

/-!
Retry loops of a ring. Where a slot or the read cursor has changed under them, reads and publishes
start over, as often as that takes. Between two rounds of one caller nothing changes, so a loop ends
in its first round or not at all; on a ring that holds a queue every loop ends in its first round.
-/

namespace TopicBus

open Op

namespace Op

variable {σ ρ α : Type} {round : ρ → Op σ (ρ ⊕ α)} {seed : ρ} {state : σ} {log : Log} {count : Nat}
  {result : (Except Failure α × σ) × Log}

/-- A loop ends after so many rounds. A round hands a seed on to the next one; or it answers or
fails, and then it is the last. -/
inductive Loops (round : ρ → Op σ (ρ ⊕ α)) :
    ρ → σ → Log → Nat → (Except Failure α × σ) × Log → Prop
  | answers {seed : ρ} {state after : σ} {log log' : Log} {a : α}
      (call : (round seed).exec state log = ((.ok (.inr a), after), log')) :
      Loops round seed state log 1 ((.ok a, after), log')
  | fails {seed : ρ} {state after : σ} {log log' : Log} {failure : Failure}
      (call : (round seed).exec state log = ((.error failure, after), log')) :
      Loops round seed state log 1 ((.error failure, after), log')
  | again {seed next : ρ} {state middle : σ} {log log' : Log} {count : Nat}
      {result : (Except Failure α × σ) × Log}
      (call : (round seed).exec state log = ((.ok (.inl next), middle), log'))
      (others : Loops round next middle log' count result) :
      Loops round seed state log (count + 1) result

theorem Loops.unique {count' : Nat} {result' : (Except Failure α × σ) × Log}
    (h : Loops round seed state log count result)
    (h' : Loops round seed state log count' result') : count = count' ∧ result = result' := by
  -- The first round comes out the same way in both, and the rest by induction on the first of them.
  induction h generalizing count' with
  | answers call =>
      cases h' with
      | answers call' =>
          rw [call] at call'
          cases call'
          exact ⟨rfl, rfl⟩
      | fails call' | again call' others' =>
          rw [call] at call'
          cases call'
  | fails call =>
      cases h' with
      | fails call' =>
          rw [call] at call'
          cases call'
          exact ⟨rfl, rfl⟩
      | answers call' | again call' others' =>
          rw [call] at call'
          cases call'
  | again call others ih =>
      cases h' with
      | answers call' | fails call' =>
          rw [call] at call'
          cases call'
      | again call' others' =>
          rw [call] at call'
          cases call'
          obtain ⟨rfl, rfl⟩ := ih others'
          exact ⟨rfl, rfl⟩

/-- A round that leaves everything as it found it is followed by the same round. -/
theorem Loops.endless (h : Loops round seed state log count result) :
    (round seed).exec state log ≠ ((.ok (.inl seed), state), log) := by
  induction h with
  | answers call | fails call =>
      rw [call]
      simp
  | again call others ih =>
      intro hidle
      rw [call] at hidle
      cases hidle
      exact ih call

/-- The first round of a loop; that it asks for another one is a fault. -/
def once (round : ρ → Op σ (ρ ⊕ α)) (seed : ρ) : Op σ α := do
  match ← round seed with
  | .inr a => return a
  | .inl _ => Op.fail .stalled

/-- What stands for a loop without being one: where the loop ends, it ends after one round with this
result; where it does not, the result is a fault. -/
inductive Settles (round : ρ → Op σ (ρ ⊕ α)) (seed : ρ) (state : σ) (log : Log) :
    (Except Failure α × σ) × Log → Prop
  | ends {result : (Except Failure α × σ) × Log} (loop : Loops round seed state log 1 result) :
      Settles round seed state log result
  | never (endless : ∀ count result, ¬Loops round seed state log count result) :
      Settles round seed state log ((.error (.fault .stalled), state), log)

theorem once_settles (hidle : ∀ next after log',
      (round seed).exec state log = ((.ok (.inl next), after), log') →
        next = seed ∧ after = state ∧ log' = log) :
    Settles round seed state log ((once round seed).exec state log) := by
  rw [once, exec_bind]
  cases hround : (round seed).exec state log with
  | mk first log' =>
      obtain ⟨failure | next | a, after⟩ := first
      · exact .ends (.fails hround)
      · obtain ⟨rfl, rfl, rfl⟩ := hidle next after log' hround
        exact .never fun count result hloop => hloop.endless hround
      · exact .ends (.answers hround)

theorem Settles.loops (h : Settles round seed state log result)
    (hresult : result.1.1 ≠ .error (.fault .stalled)) : Loops round seed state log 1 result := by
  cases h with
  | ends loop => exact loop
  | never endless => exact absurd rfl hresult

end Op

namespace Ring

variable {ring : Ring} {queue : Queue} {buffer : Bytes} {log : Log}

def receiveRound (_ : Unit) : Op (Reading Ring) (Unit ⊕ Option Delivery) := do
  let ring := (← get).source
  if ring.written ≤ ring.passed then
    return .inr none
  let epoch ← Word.add ring.passed 1
  match ← copySlot epoch with
  | none => return .inl ()
  | some length =>
    if ← Op.onSource (claim ring.passed epoch) then
      return .inr (some ⟨length, epoch⟩)
    else
      return .inl ()

def readLatestRound (_ : Unit) : Op (Reading Ring) (Unit ⊕ Option Delivery) := do
  let ring := (← get).source
  if ring.written = 0 then
    return .inr none
  match ← copySlot ring.written with
  | none => return .inl ()
  | some length => return .inr (some ⟨length, ring.written⟩)

def readOldestRound (_ : Unit) : Op (Reading Ring) (Unit ⊕ Option Delivery) := do
  let ring := (← get).source
  if ring.written ≤ ring.passed then
    return .inr none
  let epoch ← Word.add ring.passed 1
  match ← copySlot epoch with
  | none => return .inl ()
  | some length => return .inr (some ⟨length, epoch⟩)

def makeRoomRound (epoch seen : Nat) : Op Ring (Nat ⊕ Nat) := do
  let ring ← get
  if (← Word.sub epoch seen) ≤ ring.capacity then
    return .inr 0
  let kept ← Word.sub epoch ring.capacity
  if ← claim seen kept then
    return .inr (← Word.sub kept seen)
  else
    return .inl (← get).passed

/-- All that copying a slot comes to. The ring stays as it is, and so does the buffer if the slot
holds another epoch. -/
inductive Copied (call : Reading Ring) (log : Log) :
    (Except Failure (Option Nat) × Reading Ring) × Log → Prop
  | changed : Copied call log ((.ok none, call), log)
  | copied (length : Nat) (buffer : Bytes) :
      Copied call log ((.ok (some length), ⟨call.source, buffer⟩), log)
  | failed (failure : Failure) (buffer : Bytes) :
      Copied call log ((.error failure, ⟨call.source, buffer⟩), log)

theorem Copied.lift {α : Type} {call : Reading Ring} (result : Except Fault α)
    {next : α → Op (Reading Ring) (Option Nat)}
    (hnext : ∀ a, Copied call log ((next a).exec call log)) :
    Copied call log (((liftM result : Op (Reading Ring) α) >>= next).exec call log) := by
  rw [exec_bind, exec_liftFault]
  cases result with
  | error fault => exact .failed _ call.buffer
  | ok a => exact hnext a

theorem copySlot_copied (epoch : Nat) (call : Reading Ring) (log : Log) :
    Copied call log ((copySlot epoch).exec call log) := by
  rw [copySlot, exec_bind, exec_get]
  refine .lift _ fun index => .lift _ fun stamp => ?_
  split
  · exact .changed
  · refine .lift _ fun header => ?_
    dsimp only
    split
    · exact .failed _ call.buffer
    · refine .lift _ fun payload => .lift _ fun filled => ?_
      rw [exec_bind, exec_set]
      dsimp only
      split
      · exact .copied _ filled
      · exact .failed _ filled

theorem claim_exec (ring : Ring) (next : Nat) (log : Log) :
    (claim ring.passed next).exec ring log = ((.ok true, ring.pass next), log) := by
  simp only [claim, exec_bind, exec_get, if_true, exec_set, exec_pure, pass]

/-- The read looks at its buffer and then is the first round of the loop; a round that asks for
another one has changed nothing. -/
structure Retries (read : Op (Reading Ring) (Option Delivery))
    (round : Unit → Op (Reading Ring) (Unit ⊕ Option Delivery)) : Prop where
  once_eq : read = (do checkRoom; once round ())
  idle : ∀ call log after log', (round ()).exec call log = ((.ok (.inl ()), after), log') →
    after = call ∧ log' = log

section Idle

variable {call after : Reading Ring} {log' : Log}

theorem idle_of_copySlot {epoch : Nat}
    {next : Option Nat → Op (Reading Ring) (Unit ⊕ Option Delivery)}
    (hnone : next none = pure (.inl ()))
    (hsome : ∀ length buffer log,
      ((next (some length)).exec ⟨call.source, buffer⟩ log).1.1 ≠ .ok (.inl ()))
    (h : (copySlot epoch >>= next).exec call log = ((.ok (.inl ()), after), log')) :
    after = call ∧ log' = log := by
  have hcopied := copySlot_copied epoch call log
  rw [exec_bind] at h
  generalize (copySlot epoch).exec call log = result at hcopied h
  cases hcopied with
  | changed =>
      dsimp only at h
      rw [hnone] at h
      cases h
      exact ⟨rfl, rfl⟩
  | copied length buffer =>
      dsimp only at h
      refine absurd ?_ (hsome length buffer log)
      rw [h]
  | failed failure buffer => cases h

end Idle

theorem receive_retries : Retries receive receiveRound where
  once_eq := by
    refine bind_congr fun _ => ?_
    rw [once, receiveRound, bind_assoc]
    refine bind_congr fun call => ?_
    dsimp only
    split
    · rw [pure_bind]
    · simp only [bind_assoc]
      refine bind_congr fun epoch => ?_
      rw [copyEntry, bind_assoc]
      refine bind_congr fun copied => ?_
      cases copied with
      | none => rfl
      | some length =>
          simp only [pure_bind, bind_assoc]
          refine bind_congr fun claimed => ?_
          cases claimed <;> rfl
  idle call log after log' hround := by
    rw [receiveRound, exec_bind, exec_get] at hround
    dsimp only at hround
    split at hround
    · cases hround
    · obtain ⟨epoch, hcopy⟩ := exec_liftFault_bind_eq_ok hround
      refine idle_of_copySlot rfl (fun length buffer log => ?_) hcopy
      -- The ring is the one whose read cursor was seen, so the exchange takes place.
      simp only [exec_bind, exec_onSource, claim_exec, if_true, exec_pure]
      simp

theorem readLatest_retries : Retries readLatest readLatestRound where
  once_eq := by
    refine bind_congr fun _ => ?_
    rw [once, readLatestRound, bind_assoc]
    refine bind_congr fun call => ?_
    dsimp only
    split
    · rw [pure_bind]
    · rw [copyEntry, bind_assoc, bind_assoc]
      refine bind_congr fun copied => ?_
      cases copied <;> rfl
  idle call log after log' hround := by
    rw [readLatestRound, exec_bind, exec_get] at hround
    dsimp only at hround
    split at hround
    · cases hround
    · exact idle_of_copySlot rfl (fun length buffer log => by simp) hround

theorem readOldest_retries : Retries readOldest readOldestRound where
  once_eq := by
    refine bind_congr fun _ => ?_
    rw [once, readOldestRound, bind_assoc]
    refine bind_congr fun call => ?_
    dsimp only
    split
    · rw [pure_bind]
    · simp only [bind_assoc]
      refine bind_congr fun epoch => ?_
      rw [copyEntry, bind_assoc]
      refine bind_congr fun copied => ?_
      cases copied <;> rfl
  idle call log after log' hround := by
    rw [readOldestRound, exec_bind, exec_get] at hround
    dsimp only at hround
    split at hround
    · cases hround
    · obtain ⟨epoch, hcopy⟩ := exec_liftFault_bind_eq_ok hround
      exact idle_of_copySlot rfl (fun length buffer log => by simp) hcopy

/-- On any ring whatsoever a read that takes its buffer is what its loop comes to. -/
theorem Retries.settles {read : Op (Reading Ring) (Option Delivery)}
    {round : Unit → Op (Reading Ring) (Unit ⊕ Option Delivery)} (h : Retries read round)
    (hroom : ring.layout.checkRoom buffer.length = .ok ()) (log : Log) :
    Settles round () ⟨ring, buffer⟩ log (read.exec ⟨ring, buffer⟩ log) := by
  have hchecked : checkRoom.exec ⟨ring, buffer⟩ log = ((.ok (), ⟨ring, buffer⟩), log) := by
    simp only [checkRoom, exec_bind, exec_get, hroom, exec_liftRefusal, Except.mapError]
  rw [h.once_eq, exec_bind, hchecked]
  exact once_settles fun _ after log' hround => ⟨rfl, h.idle _ _ after log' hround⟩

theorem makeRoomRound_exec (ring : Ring) (epoch : Nat) (log : Log) :
    (makeRoomRound epoch ring.passed).exec ring log =
      (Sum.inr <$> makeRoom epoch : Op Ring (Nat ⊕ Nat)).exec ring log := by
  simp only [makeRoom, makeRoomRound, exec_map, exec_bind, exec_get, exec_liftFault]
  cases Word.sub epoch ring.passed with
  | error fault => rfl
  | ok ahead =>
      simp only [Except.mapError]
      split
      · rfl
      · simp only [exec_bind, exec_liftFault]
        cases Word.sub epoch ring.capacity with
        | error fault => rfl
        | ok kept =>
            simp only [Except.mapError, exec_bind, claim_exec, if_true, exec_liftFault]
            cases Word.sub kept ring.passed <;> rfl

/-- The first exchange takes place on any ring, since the cursor has not moved since it was seen. -/
theorem makeRoom_loops (ring : Ring) (epoch : Nat) (log : Log) :
    Loops (makeRoomRound epoch) ring.passed ring log 1 ((makeRoom epoch).exec ring log) := by
  have hround := makeRoomRound_exec ring epoch log
  rw [exec_map] at hround
  generalize (makeRoom epoch).exec ring log = result at hround ⊢
  obtain ⟨⟨failure | dropped, after⟩, log'⟩ := result
  · exact .fails hround
  · exact .answers hround

structure ReadsOnce (read : Op (Reading Ring) (Option Delivery))
    (round : Unit → Op (Reading Ring) (Unit ⊕ Option Delivery)) (ring : Ring) : Prop where
  refused : ∀ buffer reason, ring.layout.checkRoom buffer.length = .error reason → ∀ log,
    read.exec ⟨ring, buffer⟩ log = ((.error (.refused reason), ⟨ring, buffer⟩), log)
  loops : ∀ buffer, ring.layout.checkRoom buffer.length = .ok () → ∀ log,
    Loops round () ⟨ring, buffer⟩ log 1 (read.exec ⟨ring, buffer⟩ log)
  whole : ∀ buffer log fault, (read.exec ⟨ring, buffer⟩ log).1.1 ≠ .error (.fault fault)

/-- No loop of the ring needs a second round: the slots that it looks at hold the epochs that it
looks for, and the read cursor stands where it was seen. -/
structure Prompt (ring : Ring) : Prop where
  oldest_kept : ring.passed < ring.written → ∀ buffer log,
    ((copySlot (ring.passed + 1)).exec ⟨ring, buffer⟩ log).1.1 ≠ .ok none
  latest_kept : ring.written ≠ 0 → ∀ buffer log,
    ((copySlot ring.written).exec ⟨ring, buffer⟩ log).1.1 ≠ .ok none
  source_kept : ∀ epoch buffer log, ((copySlot epoch).exec ⟨ring, buffer⟩ log).1.2.source = ring
  claims : ∀ next log, (claim ring.passed next).exec ring log = ((.ok true, ring.pass next), log)
  receive : ReadsOnce Ring.receive receiveRound ring
  readLatest : ReadsOnce Ring.readLatest readLatestRound ring
  readOldest : ReadsOnce Ring.readOldest readOldestRound ring
  makeRoom : ∀ log, ∃ dropped,
    (Ring.makeRoom (ring.written + 1)).exec ring log =
      ((.ok dropped, ring.pass (ring.passed + dropped)), log) ∧
    Loops (makeRoomRound (ring.written + 1)) ring.passed ring log 1
      ((.ok dropped, ring.pass (ring.passed + dropped)), log)

theorem Retries.readsOnce {read : Op (Reading Ring) (Option Delivery)}
    {round : Unit → Op (Reading Ring) (Unit ⊕ Option Delivery)} {count : Nat}
    (h : Retries read round) (hcopies : Copies read ring queue count) : ReadsOnce read round ring := by
  have hwhole : ∀ buffer log fault, (read.exec ⟨ring, buffer⟩ log).1.1 ≠ .error (.fault fault) := by
    intro buffer log fault
    obtain ⟨ring', hexec, -⟩ := hcopies buffer log
    rw [hexec]
    cases (queue.copy count buffer).1 <;> simp [Except.mapError]
  refine ⟨?_, ?_, hwhole⟩
  · intro buffer reason hroom log
    rw [h.once_eq, exec_bind]
    simp only [checkRoom, exec_bind, exec_get, hroom, exec_liftRefusal, Except.mapError]
  · intro buffer hroom log
    exact (h.settles hroom log).loops (hwhole buffer log .stalled)

namespace Holds

theorem copySlot_kept {count : Nat} (h : ring.Holds queue) (hfew : queue.history.length < 2 ^ 63)
    (hlt : count < queue.history.length) (hkept : queue.history.length ≤ count + queue.capacity)
    (buffer : Bytes) (log : Log) :
    ((copySlot (count + 1)).exec ⟨ring, buffer⟩ log).1.1 ≠ .ok none := by
  have hentry := h.copyEntry_exec log buffer (List.getElem?_eq_getElem hlt) hkept hfew
  rw [copyEntry, exec_bind] at hentry
  intro hchanged
  generalize (copySlot (count + 1)).exec ⟨ring, buffer⟩ log = result at hentry hchanged
  obtain ⟨⟨outcome, call⟩, log'⟩ := result
  subst hchanged
  simp only [exec_fail] at hentry
  split at hentry <;> cases hentry

theorem prompt (h : ring.Holds queue) (hfew : queue.history.length < 2 ^ 63) : ring.Prompt where
  oldest_kept hunread := by
    rw [h.passed_eq, h.written_eq] at hunread
    rw [h.passed_eq]
    exact h.copySlot_kept hfew hunread h.sound.length_le
  latest_kept hsome := by
    have hpos := h.sound.capacity_pos
    rw [h.written_eq] at hsome ⊢
    obtain ⟨count, hlast⟩ := Nat.exists_eq_succ_of_ne_zero hsome
    rw [hlast]
    exact h.copySlot_kept hfew (by omega) (by omega)
  source_kept epoch buffer log := by
    have hcopied := copySlot_copied epoch ⟨ring, buffer⟩ log
    generalize (copySlot epoch).exec ⟨ring, buffer⟩ log = result at hcopied ⊢
    cases hcopied <;> rfl
  claims := claim_exec ring
  receive := receive_retries.readsOnce (h.receive_copies hfew)
  readLatest := readLatest_retries.readsOnce (h.readLatest_copies hfew)
  readOldest := readOldest_retries.readsOnce (h.readOldest_copies hfew)
  makeRoom log := by
    -- How much room is made does not depend on the payload, so an empty one will do.
    have hroom := h.makeRoom_next log []
    have hloops := ring.makeRoom_loops (ring.written + 1) log
    have hle : queue.read ≤ (queue.append []).read := Nat.le_max_left _ _
    have hpassed : ring.passed + ((queue.append []).read - queue.read) = (queue.append []).read := by
      rw [h.passed_eq]
      exact Nat.add_sub_cancel' hle
    rw [h.written_eq, hroom] at hloops
    refine ⟨(queue.append []).read - queue.read, ?_, ?_⟩
    · rw [hpassed, h.written_eq, hroom]
    · rw [hpassed, h.written_eq]
      exact hloops

end Holds

theorem prompt_of_run {capacity memory : Nat} {layout : Layout} {ring' : Ring} {events : List Event}
    (hring : create capacity layout memory = .ok ring) (hrun : Run ring events ring') :
    ring'.Prompt := by
  have hnone : ([] : List Bytes).length < 2 ^ 63 := by decide
  obtain ⟨queue, hholds, htraced⟩ := hrun.holds (create_holds hring) hnone
  exact hholds.prompt htraced.length_lt

end Ring

end TopicBus
