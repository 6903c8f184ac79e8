import TopicBus.Proofs.Bus.Release
import TopicBus.Proofs.Bus.Trace

namespace TopicBus

open Op

namespace Op

variable {σ α : Type}

/-- Calls in their order, each on what the one before left, until one brings nothing. -/
inductive Exhausts : (Nat → Op σ (Option α)) → σ → Log → List α → σ → Log → Prop
  | done {calls : Nat → Op σ (Option α)} {state last : σ} {log log' : Log}
      (call : (calls 0).exec state log = ((.ok none, last), log')) :
      Exhausts calls state log [] last log'
  | more {calls : Nat → Op σ (Option α)} {state middle last : σ} {log log' log'' : Log} {entry : α}
      {entries : List α} (call : (calls 0).exec state log = ((.ok (some entry), middle), log'))
      (others : Exhausts (fun n => calls (n + 1)) middle log' entries last log'') :
      Exhausts calls state log (entry :: entries) last log''

variable {calls : Nat → Op σ (Option α)} {state : σ} {log : Log}

theorem Exhausts.unique {entries entries' : List α} {last last' : σ} {end₁ end₂ : Log}
    (h : Exhausts calls state log entries last end₁)
    (h' : Exhausts calls state log entries' last' end₂) :
    entries = entries' ∧ last = last' ∧ end₁ = end₂ := by
  induction h generalizing entries' with
  | done call =>
      cases h' with
      | done call' =>
          rw [call] at call'
          cases call'
          exact ⟨rfl, rfl, rfl⟩
      | more call' _ =>
          rw [call] at call'
          cases call'
  | more call _ ih =>
      cases h' with
      | done call' =>
          rw [call] at call'
          cases call'
      | more call' others' =>
          rw [call] at call'
          cases call'
          obtain ⟨rfl, rfl, rfl⟩ := ih others'
          exact ⟨rfl, rfl, rfl⟩

theorem Exhausts.of_stages {stage : Nat → σ → Prop} {entries : List α} (log : Log)
    (hmore : ∀ k (hk : k < entries.length) n state, stage k state →
      ∃ next, (calls n).exec state log = ((.ok (some entries[k]), next), log) ∧ stage (k + 1) next)
    (hdone : ∀ n state, stage entries.length state →
      (calls n).exec state log = ((.ok none, state), log)) (hstage : stage 0 state) :
    ∃ last, Exhausts calls state log entries last log ∧ stage entries.length last := by
  induction entries generalizing calls stage state with
  | nil => exact ⟨state, .done (hdone 0 state hstage), hstage⟩
  | cons entry entries ih =>
      obtain ⟨next, hcall, hnext⟩ := hmore 0 (Nat.zero_lt_succ _) 0 state hstage
      obtain ⟨last, hothers, hlast⟩ := @ih (fun n => calls (n + 1)) next (fun k => stage (k + 1))
        (fun k hk n => hmore (k + 1) (Nat.succ_lt_succ hk) (n + 1)) (fun n => hdone (n + 1)) hnext
      exact ⟨last, .more hcall hothers, hlast⟩

def entry (read : Op (Reading σ) (Option Delivery)) : Op (Reading σ) (Option (Bytes × Nat)) := do
  let received ← read
  return received.map (Storage.entryIn (← get).buffer)

def entryInto (buffer : Bytes) (read : Op (Reading σ) (Option Delivery)) :
    Op σ (Option (Bytes × Nat)) := do
  return (← (entry read).lending buffer).1

theorem entry_exec (read : Op (Reading σ) (Option Delivery)) (call : Reading σ) (log : Log) :
    (entry read).exec call log =
      (((read.exec call log).1.1.map (Option.map (Storage.entryIn (read.exec call log).1.2.buffer)),
        (read.exec call log).1.2), (read.exec call log).2) := by
  rw [entry, exec_bind]
  rcases read.exec call log with ⟨⟨_ | _, _⟩, _⟩ <;> rfl

theorem entryInto_exec (buffer : Bytes) (read : Op (Reading σ) (Option Delivery)) (state : σ)
    (log : Log) :
    (entryInto buffer read).exec state log =
      ((((entry read).exec ⟨state, buffer⟩ log).1.1,
        ((entry read).exec ⟨state, buffer⟩ log).1.2.source),
        ((entry read).exec ⟨state, buffer⟩ log).2) := by
  rw [entryInto, exec_bind, exec_lending]
  rcases (entry read).exec ⟨state, buffer⟩ log with ⟨⟨_ | _, _⟩, _⟩ <;> rfl

end Op

variable {bus : Bus} {storage : Storage} {queue : Queue} {index count : Nat} {mark : Option Nat}
  {log : Log} {payload buffer : Bytes}

def Storage.consume (storage : Storage) (count : Nat) : Storage :=
  storage.moved (storage.ring.passed + count) (Counters.countConsumed^[count] storage.counters)

def Bus.consume (bus : Bus) (index count : Nat) : Bus :=
  { bus with storages := bus.storages.modify index fun storage => storage.consume count }

def Bus.note (bus : Bus) (mark : Option Nat) (epoch : Nat) : Bus :=
  match mark with
  | none => bus
  | some mark => { bus with seen := bus.seen.modify mark fun seen => max seen epoch }

/-- What some reads in a row come to: entries consumed, and the last of them noted. -/
def Bus.taken (bus : Bus) (index : Nat) (mark : Option Nat) (read count : Nat) : Bus :=
  (bus.consume index count).note mark (if count = 0 then 0 else read + count)

theorem Storage.consume_zero (storage : Storage) : storage.consume 0 = storage := rfl

theorem Storage.consume_succ (storage : Storage) (count : Nat) :
    (storage.consume count).consume 1 = storage.consume (count + 1) := by
  have hcount := Function.iterate_succ_apply' Counters.countConsumed count storage.counters
  simp only [consume, moved, Ring.pass, hcount, Function.iterate_one, Nat.add_assoc]

namespace Bus

theorem getElem?_consume (h : bus.storages[index]? = some storage) (count : Nat) :
    (bus.consume index count).storages[index]? = some (storage.consume count) := by
  rw [consume, Array.getElem?_modify, if_pos rfl, h]
  rfl

theorem modify_modify {α : Type} (entries : Array α) (index : Nat) (first second : α → α) :
    (entries.modify index first).modify index second =
      entries.modify index fun entry => second (first entry) := by
  apply Array.ext_getElem?
  intro other
  simp only [Array.getElem?_modify]
  split
  · exact Option.map_map second first entries[other]?
  · rfl

theorem modify_same {α : Type} (entries : Array α) (index : Nat) {change : α → α}
    (h : ∀ entry, change entry = entry) : entries.modify index change = entries := by
  apply Array.ext_getElem?
  intro other
  rw [Array.getElem?_modify, funext h]
  split
  · exact Option.map_id'
  · rfl

theorem consume_succ (bus : Bus) (index count : Nat) :
    (bus.consume index count).consume index 1 = bus.consume index (count + 1) := by
  simp only [consume, modify_modify, Storage.consume_succ]

theorem storages_note (bus : Bus) (mark : Option Nat) (epoch : Nat) :
    (bus.note mark epoch).storages = bus.storages := by
  cases mark <;> rfl

theorem consume_note (bus : Bus) (index count : Nat) (mark : Option Nat) (epoch : Nat) :
    (bus.note mark epoch).consume index count = (bus.consume index count).note mark epoch := by
  cases mark <;> rfl

theorem note_note (bus : Bus) (mark : Option Nat) {earlier later : Nat} (h : earlier ≤ later) :
    (bus.note mark earlier).note mark later = bus.note mark later := by
  cases mark with
  | none => rfl
  | some mark => simp only [note, modify_modify, max_assoc, max_eq_right h]

theorem consume_zero (bus : Bus) (index : Nat) : bus.consume index 0 = bus := by
  rw [consume, modify_same bus.storages index Storage.consume_zero]

theorem taken_zero (bus : Bus) (index : Nat) (mark : Option Nat) (read : Nat) :
    bus.taken index mark read 0 = bus := by
  rw [taken, consume_zero]
  cases mark with
  | none => rfl
  | some mark => rw [if_pos rfl, note, modify_same _ _ Nat.max_zero]

theorem taken_some (bus : Bus) (index mark read count : Nat) :
    bus.taken index (some mark) read count =
      { bus.consume index count with
        seen := bus.seen.modify mark fun seen =>
          if count = 0 then seen else max seen (read + count) } := by
  rw [taken, note]
  by_cases hcount : count = 0
  · simp only [if_pos hcount, Nat.max_zero]
    rfl
  · simp only [if_neg hcount]
    rfl

theorem taken_succ (bus : Bus) (index : Nat) (mark : Option Nat) (read count : Nat) :
    ((bus.taken index mark read count).consume index 1).note mark (read + count + 1) =
      bus.taken index mark read (count + 1) := by
  rw [taken, consume_note, consume_succ, note_note]
  · rw [taken, if_neg (Nat.succ_ne_zero count), Nat.add_assoc]
  · split <;> omega

/-- A live byte topic whose ring holds the queue, beside the mark of a subscriber, if there is one. -/
structure Serves (bus : Bus) (index : Nat) (mark : Option Nat) (queue : Queue) : Prop where
  there : ∃ storage, bus.storages[index]? = some storage ∧ storage.released = false ∧
    storage.ring.Holds queue
  few : queue.history.length < 2 ^ 63
  byte : queue.layout.kind = .byte
  marked : ∀ place ∈ mark, place < bus.seen.size

theorem Serves.taken (h : bus.Serves index mark queue)
    (hcount : queue.read + count ≤ queue.history.length) :
    (bus.taken index mark queue.read count).Serves index mark (queue.advance count) := by
  obtain ⟨⟨storage, hstorage, hlive, hholds⟩, hfew, hbyte, hmarked⟩ := h
  refine ⟨⟨storage.consume count, ?_, hlive, ?_⟩, hfew, hbyte, ?_⟩
  · rw [Bus.taken, storages_note]
    exact getElem?_consume hstorage count
  · rw [Storage.consume, hholds.passed_eq]
    exact Storage.moved_holds hholds _ hcount
  · cases mark with
    | none => simp
    | some place =>
        rintro _ ⟨⟩
        simp only [Bus.taken, note, consume, Array.size_modify]
        exact hmarked place rfl

end Bus

theorem Storage.receive_long (hlive : storage.released = false) (h : storage.ring.Holds queue)
    (hfew : queue.history.length < 2 ^ 63) (hbyte : queue.layout.kind = .byte)
    (hlong : queue.layout.payloadSize ≤ buffer.length) (name : String) (log : Log) :
    (receive name).exec ⟨storage, buffer⟩ log =
      match queue.history[queue.read]? with
      | none => ((.ok none, ⟨storage, buffer⟩), log)
      | some payload => ((.ok (some ⟨payload.length, queue.read + 1⟩),
          ⟨storage.consume 1, payload ++ buffer.drop payload.length⟩), log) := by
  have hroom : queue.layout.checkRoom buffer.length = .ok () := by
    rw [Layout.checkRoom, hbyte]
  rw [receive_exec hlive h hfew]
  cases hc : queue.history[queue.read]? with
  | none =>
      simp only [Queue.receive, Queue.readOldest, Queue.copy_none hroom hc, Except.mapError, tally,
        moved_self h]
  | some payload =>
      have hfits := h.sound.length_fits (List.mem_of_getElem? hc)
      have hlonger : ¬buffer.length < payload.length := Nat.not_lt.mpr (hfits.trans hlong)
      simp only [Queue.receive, Queue.readOldest, Queue.copy_some hroom hc hlonger, Except.mapError,
        tally, Storage.consume, h.passed_eq]
      rfl

/-- The read consumes the oldest unread entry, notes it and copies it to the front of any buffer that
is long enough, or it finds nothing and changes nothing. -/
def Op.Consumes (read : Op (Reading Bus) (Option Delivery)) (index : Nat) (mark : Option Nat) : Prop :=
  ∀ (bus : Bus) (queue : Queue) (buffer : Bytes) (log : Log), bus.Serves index mark queue →
    queue.layout.payloadSize ≤ buffer.length →
    read.exec ⟨bus, buffer⟩ log =
      match queue.history[queue.read]? with
      | none => ((.ok none, ⟨bus, buffer⟩), log)
      | some payload => ((.ok (some ⟨payload.length, queue.read + 1⟩),
          ⟨(bus.consume index 1).note mark (queue.read + 1),
            payload ++ buffer.drop payload.length⟩), log)

theorem Bus.setIfInBounds_consume (h : bus.storages[index]? = some storage) (count : Nat) :
    { bus with storages := bus.storages.setIfInBounds index (storage.consume count) } =
      bus.consume index count := by
  rw [Bus.setIfInBounds_eq_modify h fun storage => storage.consume count]
  rfl

theorem Topic.receive_consumes (topic : Topic .byte) : topic.receive.Consumes topic.storage none := by
  intro bus queue buffer log h hlong
  obtain ⟨⟨storage, hstorage, hlive, hholds⟩, hfew, hbyte, -⟩ := h
  rw [Topic.receive, topic.accessReading_exec buffer hstorage,
    Storage.receive_long hlive hholds hfew hbyte hlong]
  cases queue.history[queue.read]? with
  | none =>
      dsimp only
      rw [topic.setIfInBounds_self hstorage]
  | some payload =>
      dsimp only
      rw [Bus.setIfInBounds_consume hstorage]
      rfl

theorem Subscriber.see_note (subscriber : Subscriber .byte) (h : subscriber.mark < bus.seen.size)
    (epoch : Nat) (log : Log) :
    (subscriber.see epoch).exec bus log = ((.ok ⟨⟩, bus.note (some subscriber.mark) epoch), log) := by
  have hmark := Array.getElem?_eq_getElem h
  rw [subscriber.see_exec hmark, Bus.setIfInBounds_eq_modify hmark fun seen => max seen epoch]
  rfl

theorem Subscriber.receive_consumes (subscriber : Subscriber .byte) :
    subscriber.receive.Consumes subscriber.topic.storage (some subscriber.mark) := by
  intro bus queue buffer log h hlong
  have htopic := subscriber.topic.receive_consumes bus queue buffer log
    ⟨h.there, h.few, h.byte, by simp⟩ hlong
  have hmark : subscriber.mark < (bus.consume subscriber.topic.storage 1).seen.size :=
    h.marked _ rfl
  rw [receive, exec_bind, htopic]
  cases queue.history[queue.read]? with
  | none => rfl
  | some payload =>
      simp only [Bus.note, exec_bind, exec_onSource]
      rw [subscriber.see_note hmark]
      rfl

/-- The call answers with the oldest unread entry, which it consumes and notes, or it finds nothing
and changes nothing; it can do so if no payload is longer than this. -/
def Op.Hands (call : Op Bus (Option (Bytes × Nat))) (index : Nat) (mark : Option Nat) (size : Nat) :
    Prop :=
  ∀ (bus : Bus) (queue : Queue) (log : Log), bus.Serves index mark queue →
    queue.layout.payloadSize ≤ size →
    call.exec bus log =
      match queue.history[queue.read]? with
      | none => ((.ok none, bus), log)
      | some payload => ((.ok (some (payload, queue.read + 1)),
          (bus.consume index 1).note mark (queue.read + 1)), log)

namespace Op.Consumes

variable {read : Op (Reading Bus) (Option Delivery)}

theorem entry_exec (h : read.Consumes index mark) (hserves : bus.Serves index mark queue)
    (hlong : queue.layout.payloadSize ≤ buffer.length) (log : Log) :
    (entry read).exec ⟨bus, buffer⟩ log =
      match queue.history[queue.read]? with
      | none => ((.ok none, ⟨bus, buffer⟩), log)
      | some payload => ((.ok (some (payload, queue.read + 1)),
          ⟨(bus.consume index 1).note mark (queue.read + 1),
            payload ++ buffer.drop payload.length⟩), log) := by
  rw [Op.entry_exec, h bus queue buffer log hserves hlong]
  cases queue.history[queue.read]? with
  | none => rfl
  | some payload =>
      simp only [Except.map, Option.map_some, Storage.entryIn_append]

theorem hands (h : read.Consumes index mark) {size : Nat} (hlong : size ≤ buffer.length) :
    (entryInto buffer read).Hands index mark size := by
  intro bus queue log hserves hsize
  rw [entryInto_exec, h.entry_exec hserves (hsize.trans hlong)]
  cases queue.history[queue.read]? <;> rfl

end Op.Consumes

theorem Topic.receivePayload_hands (topic : Topic .byte) (size : Nat) :
    topic.receivePayload.Hands topic.storage none size := by
  intro bus queue log h _
  obtain ⟨⟨storage, hstorage, hlive, hholds⟩, hfew, -, -⟩ := h
  rw [receivePayload, topic.access_exec hstorage, Storage.receivePayload_exec hlive hholds hfew]
  cases queue.history[queue.read]? with
  | none =>
      dsimp only
      rw [topic.setIfInBounds_self hstorage]
  | some payload =>
      have hconsumed : storage.moved (queue.read + 1) storage.counters.countConsumed =
          storage.consume 1 := by
        rw [Storage.consume, hholds.passed_eq]
        rfl
      dsimp only
      rw [hconsumed, Bus.setIfInBounds_consume hstorage]
      rfl

namespace Queue

theorem getElem_unread (queue : Queue) (hcount : count < queue.unread.length) :
    ∃ payload, queue.history[queue.read + count]? = some payload ∧
      queue.unread[count] = (payload, queue.read + count + 1) := by
  have hlt := hcount
  rw [queue.length_unread] at hlt
  have hthere : queue.read + count < queue.history.length := by omega
  refine ⟨queue.history[queue.read + count], List.getElem?_eq_getElem hthere, ?_⟩
  simp only [unread, List.getElem_zipIdx, List.getElem_drop, Nat.add_right_comm queue.read 1 count]

theorem history_end (queue : Queue) :
    queue.history[queue.read + queue.unread.length]? = none := by
  rw [List.getElem?_eq_none_iff, queue.length_unread]
  omega

end Queue

namespace Bus.Serves

variable {size : Nat}

theorem taken_le (hcount : count ≤ queue.unread.length) (h : bus.Serves index mark queue) :
    (bus.taken index mark queue.read count).Serves index mark (queue.advance count) := by
  obtain ⟨storage, -, -, hholds⟩ := h.there
  have hend := hholds.sound.read_add_unread
  exact h.taken (by omega)

theorem exhausts {calls : Nat → Op Bus (Option (Bytes × Nat))} (h : bus.Serves index mark queue)
    (hsize : queue.layout.payloadSize ≤ size) (hcalls : ∀ n, (calls n).Hands index mark size)
    (log : Log) :
    Exhausts calls bus log queue.unread
      (bus.taken index mark queue.read queue.unread.length) log := by
  let stage (k : Nat) (state : Bus) : Prop := state = bus.taken index mark queue.read k
  have hmore (k : Nat) (hk : k < queue.unread.length) (n : Nat) (state : Bus) (hstate : stage k state) :
      ∃ next, (calls n).exec state log = ((.ok (some queue.unread[k]), next), log) ∧
        stage (k + 1) next := by
    obtain ⟨payload, hpayload, hentry⟩ := queue.getElem_unread hk
    have hcall := hcalls n _ _ log (h.taken_le hk.le) hsize
    simp only [Queue.advance, hpayload, taken_succ, ← hentry] at hcall
    rw [hstate]
    exact ⟨_, hcall, rfl⟩
  have hdone (n : Nat) (state : Bus) (hstate : stage queue.unread.length state) :
      (calls n).exec state log = ((.ok none, state), log) := by
    have hcall := hcalls n _ _ log (h.taken_le le_rfl) hsize
    simp only [Queue.advance, queue.history_end] at hcall
    rw [hstate]
    exact hcall
  obtain ⟨last, hexhausts, hlast⟩ :=
    Exhausts.of_stages log hmore hdone (bus.taken_zero index mark queue.read).symm
  rw [← hlast]
  exact hexhausts

/-- Reads that all use one buffer bring all unread entries, whatever earlier ones left in it. -/
theorem exhausts_reusing {read : Op (Reading Bus) (Option Delivery)}
    (h : bus.Serves index mark queue) (hread : read.Consumes index mark)
    (hlong : queue.layout.payloadSize ≤ buffer.length) (log : Log) :
    ∃ buffer', Exhausts (fun _ => entry read) ⟨bus, buffer⟩ log queue.unread
      ⟨bus.taken index mark queue.read queue.unread.length, buffer'⟩ log := by
  -- What earlier entries left in the buffer does not matter, as long as it keeps its length.
  let stage (k : Nat) (call : Reading Bus) : Prop :=
    call.source = bus.taken index mark queue.read k ∧
      queue.layout.payloadSize ≤ call.buffer.length
  have hmore (k : Nat) (hk : k < queue.unread.length) (n : Nat) (call : Reading Bus)
      (hcall : stage k call) :
      ∃ next, (entry read).exec call log = ((.ok (some queue.unread[k]), next), log) ∧
        stage (k + 1) next := by
    obtain ⟨source, buffer⟩ := call
    obtain ⟨rfl, hlong⟩ := hcall
    obtain ⟨payload, hpayload, hentry⟩ := queue.getElem_unread hk
    have hexec := hread.entry_exec (h.taken_le hk.le) hlong log
    simp only [Queue.advance, hpayload, taken_succ, ← hentry] at hexec
    refine ⟨_, hexec, rfl, ?_⟩
    dsimp only at hlong ⊢
    rw [List.length_append, List.length_drop]
    omega
  have hdone (n : Nat) (call : Reading Bus) (hcall : stage queue.unread.length call) :
      (entry read).exec call log = ((.ok none, call), log) := by
    obtain ⟨source, buffer⟩ := call
    obtain ⟨rfl, hlong⟩ := hcall
    have hexec := hread.entry_exec (h.taken_le le_rfl) hlong log
    simp only [Queue.advance, queue.history_end] at hexec
    exact hexec
  have hstart : stage 0 ⟨bus, buffer⟩ := ⟨(bus.taken_zero index mark queue.read).symm, hlong⟩
  obtain ⟨⟨source, buffer'⟩, hexhausts, rfl, -⟩ := Exhausts.of_stages log hmore hdone hstart
  exact ⟨buffer', hexhausts⟩

end Bus.Serves

namespace Op

def Alike {σ α : Type} (calls : Nat → Op σ (Option α)) (whole : Op σ (List α)) (state : σ) : Prop :=
  ∀ log entries last log', Exhausts calls state log entries last log' ↔
    whole.exec state log = ((.ok entries, last), log')

theorem Alike.of_exhausts {σ α : Type} {calls : Nat → Op σ (Option α)} {whole : Op σ (List α)}
    {state last : σ} {entries : List α}
    (hcalls : ∀ log, Exhausts calls state log entries last log)
    (hwhole : ∀ log, whole.exec state log = ((.ok entries, last), log)) :
    Alike calls whole state := by
  intro log entries' last' log'
  constructor
  · intro h
    obtain ⟨rfl, rfl, rfl⟩ := (hcalls log).unique h
    exact hwhole log
  · intro h
    cases (hwhole log).symm.trans h
    exact hcalls log

/-- A drain brings these entries and leaves this bus, and reads until one finds nothing come to the
same, whether they bring a buffer each or one for all, if no buffer is shorter than this size. -/
structure Drains (drain : Op Bus (List (Bytes × Nat))) (read : Op (Reading Bus) (Option Delivery))
    (size : Nat) (bus : Bus) (entries : List (Bytes × Nat)) (last : Bus) : Prop where
  exec : ∀ log, drain.exec bus log = ((.ok entries, last), log)
  lent : ∀ buffers : Nat → Bytes, (∀ n, size ≤ (buffers n).length) →
    Alike (fun n => entryInto (buffers n) read) drain bus
  reused : ∀ buffer, size ≤ buffer.length → ∀ log, ∃ buffer',
    Exhausts (fun _ => entry read) ⟨bus, buffer⟩ log entries ⟨last, buffer'⟩ log

end Op

theorem Bus.Serves.drains {drain : Op Bus (List (Bytes × Nat))}
    {read : Op (Reading Bus) (Option Delivery)} (h : bus.Serves index mark queue)
    (hread : read.Consumes index mark)
    (hdrain : ∀ log, drain.exec bus log =
      ((.ok queue.unread, bus.taken index mark queue.read queue.unread.length), log)) :
    drain.Drains read queue.layout.payloadSize bus queue.unread
      (bus.taken index mark queue.read queue.unread.length) where
  exec := hdrain
  lent _ hlong := .of_exhausts
    (fun log => h.exhausts le_rfl (fun n => hread.hands (hlong n)) log) hdrain
  reused _ hlong log := h.exhausts_reusing hread hlong log

theorem Topic.drain_exec (topic : Topic .byte) (h : bus.Serves topic.storage none queue)
    (log : Log) :
    topic.drain.exec bus log =
      ((.ok queue.unread, bus.consume topic.storage queue.unread.length), log) := by
  obtain ⟨⟨storage, hstorage, hlive, hholds⟩, hfew, -, -⟩ := h
  have hend := hholds.sound.read_add_unread
  have hconsumed : storage.moved queue.history.length
      (Counters.countConsumed^[queue.unread.length] storage.counters) =
        storage.consume queue.unread.length := by
    rw [Storage.consume, hholds.passed_eq, hend]
  rw [drain, topic.access_exec hstorage, Storage.drain_exec hlive hholds hfew, hconsumed]
  dsimp only
  rw [Bus.setIfInBounds_consume hstorage]

theorem Queue.epoch_getLast? {payload : Bytes} {epoch : Nat}
    (h : queue.unread.getLast? = some (payload, epoch)) :
    queue.unread.length ≠ 0 ∧ epoch = queue.read + queue.unread.length := by
  rw [List.getLast?_eq_getElem?] at h
  obtain ⟨hlt, hentry⟩ := List.getElem?_eq_some_iff.mp h
  obtain ⟨_, -, hlast⟩ := queue.getElem_unread hlt
  cases hentry.symm.trans hlast
  omega

theorem Subscriber.drain_exec (subscriber : Subscriber .byte)
    (h : bus.Serves subscriber.topic.storage (some subscriber.mark) queue) (log : Log) :
    subscriber.drain.exec bus log =
      ((.ok queue.unread, bus.taken subscriber.topic.storage (some subscriber.mark) queue.read
        queue.unread.length), log) := by
  have htopic := subscriber.topic.drain_exec ⟨h.there, h.few, h.byte, by simp⟩ log
  have hmark : subscriber.mark <
      (bus.consume subscriber.topic.storage queue.unread.length).seen.size := h.marked _ rfl
  rw [drain, exec_bind, htopic]
  dsimp only
  cases hlast : queue.unread.getLast? with
  | none =>
      rw [List.getLast?_eq_none_iff] at hlast
      rw [hlast, List.length_nil, Bus.taken_zero, Bus.consume_zero]
      rfl
  | some found =>
      obtain ⟨payload, epoch⟩ := found
      obtain ⟨hsome, rfl⟩ := Queue.epoch_getLast? hlast
      simp only [exec_bind, subscriber.see_note hmark, exec_pure, Bus.taken, if_neg hsome]

/-- Whatever was asked of the bus since a byte topic was made: as long as it is live, draining it
brings what is unread, which are the last payloads that it accepted, each with its epoch. Reads until
one finds nothing bring the same and leave the same bus, with buffers of their own, with any buffers
that no payload is longer than, or with one buffer throughout. The drain of a subscriber notes the
last epoch alone, yet comes to the same as its reads; its mark never falls. -/
theorem Topic.drain_eq_receives {spec : TopicSpec} {id : TopicId} {before made after : Bus}
    {log log' : Log} {topic : Topic .byte} {events : List Bus.Event}
    (hmade : (Topic.ofSpec .byte spec id).exec before log = ((.ok topic, made), log'))
    (hrun : Bus.Run made events after) :
    ∃ storage, after.storages[topic.storage]? = some storage ∧
      (storage.released = false → ∃ unread : List (Bytes × Nat),
        unread.length = storage.ring.length ∧
        unread.map Prod.fst = (Bus.accepted topic.storage events).drop
          (storage.ring.lastEpoch - storage.ring.length) ∧
        unread.map Prod.snd = List.range' (storage.ring.lastEpoch - storage.ring.length + 1)
          storage.ring.length ∧
        (∀ handle : Topic .byte, handle.storage = topic.storage →
          handle.drain.Drains handle.receive spec.payloadSize after unread
            (after.consume topic.storage storage.ring.length) ∧
          Alike (fun _ => handle.receivePayload) handle.drain after) ∧
        ∀ subscriber : Subscriber .byte, subscriber.topic.storage = topic.storage →
          subscriber.mark < after.seen.size →
          subscriber.drain.Drains subscriber.receive spec.payloadSize after unread
            { after.consume topic.storage storage.ring.length with
              seen := after.seen.modify subscriber.mark fun seen =>
                if storage.ring.length = 0 then seen else max seen storage.ring.lastEpoch }) := by
  obtain ⟨storage, queue, hstorage, hqueue, hlayout, -, hhistory, hfew⟩ :=
    topic.storage_of_run hmade hrun
  have hlength : storage.ring.length = queue.unread.length := by
    rw [hqueue.length_eq, queue.length_unread]
  have hend := hqueue.sound.read_add_unread
  have hread : storage.ring.lastEpoch - storage.ring.length = queue.read := by
    rw [hqueue.lastEpoch_eq, hlength, ← hend, Nat.add_sub_cancel]
  obtain ⟨hkind, hsize⟩ := Layout.create_eq_ok hlayout
  refine ⟨storage, hstorage, fun hlive => ⟨queue.unread, hlength.symm, ?_, ?_, ?_, ?_⟩⟩
  · rw [hread, ← hhistory, Queue.unread, List.zipIdx_map_fst]
  · rw [hread, hlength, queue.epochs_unread, queue.length_unread]
  · intro handle hindex
    have hserves : after.Serves handle.storage none queue :=
      ⟨⟨storage, hindex ▸ hstorage, hlive, hqueue⟩, hfew, hkind, by simp⟩
    rw [← hsize, hlength, ← hindex]
    refine ⟨hserves.drains handle.receive_consumes (handle.drain_exec hserves), ?_⟩
    refine .of_exhausts (fun log => hserves.exhausts le_rfl (fun _ => ?_) log)
      (handle.drain_exec hserves)
    exact handle.receivePayload_hands queue.layout.payloadSize
  · intro subscriber hindex hmark
    have hserves : after.Serves subscriber.topic.storage (some subscriber.mark) queue :=
      ⟨⟨storage, hindex ▸ hstorage, hlive, hqueue⟩, hfew, hkind, by simpa using hmark⟩
    have hdrains := hserves.drains subscriber.receive_consumes (subscriber.drain_exec hserves)
    rw [Bus.taken_some, hend] at hdrains
    rw [← hsize, hlength, ← hindex, hqueue.lastEpoch_eq]
    exact hdrains

/-- A topic of two slots that lost its first payload and then took one byte after three: its
subscriber drains it, or reads it into the same three bytes of rubbish every time. -/
theorem Topic.drain_eq_receives_overwritten :
    ∃ (subscriber : Subscriber .byte) (bus last : Bus),
      (∀ log, subscriber.drain.exec bus log = ((.ok [([4, 5, 6], 2), ([7], 3)], last), log)) ∧
      last.seen = #[3] ∧
      Alike (fun _ => entryInto [9, 9, 9] subscriber.receive) subscriber.drain bus ∧
      ∃ buffer, Exhausts (fun _ => entry subscriber.receive) ⟨bus, [9, 9, 9]⟩ #[]
        [([4, 5, 6], 2), ([7], 3)] ⟨last, buffer⟩ #[] := by
  let topic : Topic .byte := ⟨"a", .detached, 0⟩
  let made := (Topic.ofSpec .byte ⟨"a", .byte, 2, 3⟩ .detached).exec {} #[]
  have hmade : made = ((.ok topic, made.1.2), made.2) := rfl
  let next (bus : Bus) (request : Bus.Request) : Bus := (request.report.exec bus #[]).1.2
  have hstep (bus : Bus) (request : Bus.Request) (held : request.Held bus) :
      Bus.Step bus (.call request (request.report.exec bus #[]).1.1) (next bus request) :=
    .call bus #[] request held
  let publish (entry : Bytes) : Bus.Request := .publisher ⟨topic⟩ (.publish entry)
  let bus := next (next (next (next made.1.2 (.subscribe topic)) (publish [1, 2, 3]))
    (publish [4, 5, 6])) (publish [7])
  have hfirst := (Bus.Run.nil made.1.2).snoc (hstep _ (.subscribe topic) (by decide +kernel))
  have hsecond := hfirst.snoc (hstep _ (publish [1, 2, 3]) (by decide +kernel))
  have hthird := hsecond.snoc (hstep _ (publish [4, 5, 6]) (by decide +kernel))
  have hfourth := hthird.snoc (hstep _ (publish [7]) (by decide +kernel))
  obtain ⟨storage, hstorage, hdrains⟩ := Topic.drain_eq_receives hmade hfourth
  have hstate : (bus.storages[0]?).map (fun storage =>
      (storage.released, storage.ring.length, storage.ring.lastEpoch)) = some (false, 2, 3) := by
    decide +kernel
  obtain ⟨found, hfound, hfields⟩ := Option.map_eq_some_iff.mp hstate
  obtain rfl : storage = found := Option.some.inj (hstorage.symm.trans hfound)
  simp only [Prod.mk.injEq] at hfields
  obtain ⟨hlive, hlength, hlast⟩ := hfields
  obtain ⟨unread, -, hpayloads, hepochs, -, hsubscribers⟩ := hdrains hlive
  rw [hlength, hlast] at hpayloads hepochs hsubscribers
  have hunread : unread = [([4, 5, 6], 2), ([7], 3)] := by
    rw [← List.zip_unzip unread, List.unzip_eq_map, hpayloads, hepochs]
    decide +kernel
  have hall := hsubscribers ⟨topic, 0⟩ rfl (by decide +kernel)
  rw [hunread] at hall
  exact ⟨⟨topic, 0⟩, bus, _, hall.exec, by decide +kernel, hall.lent _ fun _ => by decide,
    hall.reused [9, 9, 9] (by decide) #[]⟩

end TopicBus
