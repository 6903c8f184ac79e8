import TopicBus.Proofs.Bus.Request

/-!
Sound storages: the ring holds a queue, and there are epochs left. They stay sound whatever is asked
of them, since the publish that would use up the last epoch breaks off. A read of a sound storage
never breaks off, and it writes into the buffer only what was published.
-/

namespace TopicBus

open Op

def Storage.Sound (storage : Storage) : Prop :=
  ∃ queue : Queue, storage.ring.Holds queue ∧ queue.history.length < 2 ^ 63

def Bus.Sound (bus : Bus) : Prop :=
  ∀ (index : Nat) (storage : Storage), bus.storages[index]? = some storage → storage.Sound

def Storage.Sustains (before after : Storage) : Prop := before.Sound → after.Sound

instance : IsPreorder Storage Storage.Sustains where
  refl _ h := h
  trans _ _ _ hab hbc h := hbc (hab h)

/-- What a read brings, if anything, is the payload with `count` older ones; it comes to the front
of the buffer, which otherwise stays as it is. -/
inductive Queue.Fills (queue : Queue) (count : Nat) (buffer : Bytes) :
    Except Failure (Option Delivery) → Bytes → Prop
  | refused (reason : Refusal) : Fills queue count buffer (.error (.refused reason)) buffer
  | nothing : Fills queue count buffer (.ok none) buffer
  | found (payload : Bytes) (kept : queue.history[count]? = some payload)
      (fits : payload.length ≤ buffer.length) :
      Fills queue count buffer (.ok (some ⟨payload.length, count + 1⟩))
        (payload ++ buffer.drop payload.length)

variable {kind : Kind} {storage : Storage} {queue : Queue} {name : String} {payload buffer : Bytes}
  {log : Log}

theorem Queue.Fills.of_idle {count : Nat} {outcome : Except Refusal (Option Delivery)}
    (h : ∀ found, outcome ≠ .ok (some found)) :
    queue.Fills count buffer (outcome.mapError .refused) buffer := by
  rcases outcome with reason | _ | found
  · exact .refused reason
  · exact .nothing
  · exact absurd rfl (h found)

namespace Storage

theorem receive_fills (h : storage.ring.Holds queue) (hfew : queue.history.length < 2 ^ 63) :
    queue.Fills queue.read buffer ((receive name).exec ⟨storage, buffer⟩ log).1.1
      ((receive name).exec ⟨storage, buffer⟩ log).1.2.buffer := by
  cases hr : storage.released with
  | true =>
      rw [receive, readRing_released hr]
      exact .refused _
  | false =>
      rw [receive_exec hr h hfew]
      rcases queue.receive_cases buffer with ⟨outcome, hidle, hq⟩ | ⟨payload, hc, hle, hq⟩
      · rw [hq]
        exact .of_idle hidle
      · rw [hq]
        exact .found payload hc hle

theorem readLatest_fills (h : storage.ring.Holds queue) (hfew : queue.history.length < 2 ^ 63) :
    queue.Fills (queue.history.length - 1) buffer
      ((readLatest name).exec ⟨storage, buffer⟩ log).1.1
      ((readLatest name).exec ⟨storage, buffer⟩ log).1.2.buffer := by
  cases hr : storage.released with
  | true =>
      rw [readLatest, readRing_released hr]
      exact .refused _
  | false =>
      rw [readLatest_exec hr h hfew, Queue.readLatest]
      rcases queue.copy_cases (queue.history.length - 1) buffer with
        ⟨outcome, hidle, hq⟩ | ⟨payload, hc, hle, hq⟩
      · rw [hq]
        exact .of_idle hidle
      · rw [hq]
        exact .found payload hc hle

theorem publish_cases (h : storage.ring.Holds queue) (hfew : queue.history.length < 2 ^ 63)
    (name : String) (payload : Bytes) (log : Log) :
    (∃ failure storage' log', (publish name payload).exec storage log =
        ((.error failure, storage'), log') ∧
      storage'.Sound ∧ storage'.ring.lastEpoch = storage.ring.lastEpoch) ∨
    ∃ storage' log', (publish name payload).exec storage log =
        ((.ok (queue.history.length + 1), storage'), log') ∧
      storage'.ring.Holds (queue.append payload) ∧ queue.history.length + 1 < 2 ^ 63 := by
  have hpublishes := publishes h hfew name payload log
  generalize (publish name payload).exec storage log = result at hpublishes ⊢
  cases hpublishes with
  | withdrawn released => exact .inl ⟨_, _, _, rfl, ⟨queue, h, hfew⟩, rfl⟩
  | rejected live misfit => exact .inl ⟨_, _, _, rfl, ⟨queue, h, hfew⟩, rfl⟩
  | accepted live fits room holds => exact .inr ⟨_, _, rfl, holds, room⟩
  | exhausted live fits last =>
      exact .inl ⟨_, _, _, rfl, ⟨_, h.pass_append_holds payload, hfew⟩, rfl⟩

theorem publish_sustains : (publish name payload).Follows Sustains := by
  rintro storage log ⟨queue, h, hfew⟩
  rcases publish_cases h hfew name payload log with
    ⟨failure, storage', log', hexec, hsound, -⟩ | ⟨storage', log', hexec, hholds, hroom⟩
  · rw [hexec]
    exact hsound
  · rw [hexec]
    refine ⟨_, hholds, ?_⟩
    simpa [Queue.append] using hroom

theorem receive_sustains : (receive name).Follows (InvImage Sustains Reading.source) := by
  rintro ⟨storage, buffer⟩ log ⟨queue, h, hfew⟩
  cases hr : storage.released with
  | true =>
      rw [receive, readRing_released hr]
      exact ⟨queue, h, hfew⟩
  | false =>
      rw [receive_exec hr h hfew]
      rcases queue.receive_cases buffer with ⟨outcome, -, hq⟩ | ⟨payload, hc, -, hq⟩
      · rw [hq, moved, h.pass_read]
        exact ⟨queue, h, hfew⟩
      · obtain ⟨hlt, -⟩ := List.getElem?_eq_some_iff.mp hc
        rw [hq]
        exact ⟨_, moved_holds h _ hlt, hfew⟩

theorem Retains.sustains {before after : Storage} (h : before.Retains after) :
    before.Sustains after := by
  rintro ⟨queue, hholds, hfew⟩
  exact ⟨queue, h queue hfew hholds, hfew⟩

theorem covered_sustains : Covered Sustains where
  publish _ _ := publish_sustains
  receive _ := receive_sustains
  readLatest _ := readLatest_retains.mono fun _ _ => Retains.sustains
  readOldest _ := readOldest_retains.mono fun _ _ => Retains.sustains
  resetCounters := resetCounters_retains.mono fun _ _ => Retains.sustains

end Storage

namespace Bus

variable {bus : Bus}

theorem sound_empty : Bus.Sound {} := by
  rintro index storage ⟨⟩

theorem Sound.push (h : bus.Sound) (hnew : storage.Sound) :
    Bus.Sound { bus with storages := bus.storages.push storage } := by
  intro index found hfound
  rw [Array.getElem?_push] at hfound
  split at hfound
  · cases hfound
    exact hnew
  · exact h index found hfound

theorem Sound.set (h : bus.Sound) (index : Nat) (hnew : storage.Sound) :
    Bus.Sound { bus with storages := bus.storages.setIfInBounds index storage } := by
  intro other found hfound
  rw [Array.getElem?_setIfInBounds] at hfound
  split at hfound
  · split at hfound
    · cases hfound
      exact hnew
    · cases hfound
  · exact h other found hfound

theorem Sound.retire (h : bus.Sound) (index : Nat) : (bus.retire index).Sound := by
  intro other found hfound
  rw [bus.getElem?_retire] at hfound
  split at hfound
  · obtain ⟨storage, hstorage, rfl⟩ := Option.map_eq_some_iff.mp hfound
    exact h other storage hstorage
  · exact h other found hfound

end Bus

structure Bus.Sustains (before after : Bus) : Prop where
  size_le : before.storages.size ≤ after.storages.size
  sound : before.Sound → after.Sound

instance : IsPreorder Bus Bus.Sustains where
  refl _ := ⟨Nat.le_refl _, fun h => h⟩
  trans _ _ _ hab hbc := ⟨hab.size_le.trans hbc.size_le, fun h => hbc.sound (hab.sound h)⟩

namespace Topic

variable (topic : Topic kind) {α : Type}

theorem set_sustains {bus : Bus} {before after : Storage}
    (h : bus.storages[topic.storage]? = some before) (hafter : before.Sustains after) :
    bus.Sustains { bus with storages := bus.storages.setIfInBounds topic.storage after } := by
  refine ⟨?_, fun hbus => hbus.set _ (hafter (hbus _ _ h))⟩
  rw [Array.size_setIfInBounds]

theorem access_sustains {op : Op Storage α} (hop : op.Follows Storage.Sustains) :
    (topic.access op).Follows Bus.Sustains := by
  intro bus log
  cases hs : bus.storages[topic.storage]? with
  | none =>
      rw [topic.access_missing hs]
      exact refl bus
  | some storage =>
      rw [topic.access_exec hs]
      exact topic.set_sustains hs (hop storage log)

theorem accessReading_sustains {op : Op (Reading Storage) α}
    (hop : op.Follows (InvImage Storage.Sustains Reading.source)) :
    (topic.accessReading op).Follows (InvImage Bus.Sustains Reading.source) := by
  rintro ⟨bus, buffer⟩ log
  cases hs : bus.storages[topic.storage]? with
  | none =>
      rw [topic.accessReading_missing buffer hs]
      exact refl bus
  | some storage =>
      rw [topic.accessReading_exec buffer hs]
      exact topic.set_sustains hs (hop ⟨storage, buffer⟩ log)

end Topic

end TopicBus
