import TopicBus.Proofs.Bus.Service

/-!
Released storages. No call for data moves the flag, and once it is set none moves the ring. What
users are told then depends on the handle: a topic refuses every such call under its name, whereas a
subscriber that has seen everything is told that there is nothing new, and a message of a size that
the topic does not carry is refused for its size.
-/

namespace TopicBus

open Op

structure Storage.Endures (before after : Storage) : Prop where
  released_eq : after.released = before.released
  ring_eq : before.released = true → after.ring = before.ring

instance : IsPreorder Storage Storage.Endures where
  refl _ := ⟨rfl, fun _ => rfl⟩
  trans _ _ _ hab hbc := by
    refine ⟨hbc.released_eq.trans hab.released_eq, ?_⟩
    intro hreleased
    have hmiddle := hab.released_eq.trans hreleased
    exact (hbc.ring_eq hmiddle).trans (hab.ring_eq hreleased)

variable {α : Type} {kind : Kind} {bus : Bus} {storage : Storage} {name : String}

namespace Storage

abbrev FlagEq : Storage → Storage → Prop := InvImage (· = ·) released

theorem count_flag (step : Counters → Counters) : (count step).Follows FlagEq := fun _ _ => rfl

theorem publish_flag (name : String) (payload : Bytes) :
    (publish name payload).Follows FlagEq := by
  have hring : (onRing (Ring.publish payload)).Follows FlagEq := fun _ _ => rfl
  refine requireLive_follows.bind fun _ => hring.attempt.bind fun outcome => ?_
  rcases outcome with (reason | fault) | ⟨epoch, overwritten⟩
  · exact (count_flag _).bind fun _ => (Follows.log _).bind fun _ => .throw _
  · exact .throw _
  · refine (count_flag _).bind fun _ => ?_
    dsimp only
    split
    · exact (count_flag _).bind fun _ => (Follows.log _).bind fun _ => .pure _
    · exact .pure _

theorem readRing_flag (read : Op (Reading Ring) (Option Delivery)) (step : Counters → Counters) :
    (readRing name read step).Follows (InvImage FlagEq Reading.source) :=
  readRing_follows (fun _ _ => rfl) (count_flag step)

theorem readRing_endures (read : Op (Reading Ring) (Option Delivery)) (step : Counters → Counters) :
    (readRing name read step).Follows (InvImage Endures Reading.source) := by
  intro call log
  refine ⟨(readRing_flag read step call log).symm, ?_⟩
  intro hreleased
  rw [readRing_released hreleased]

theorem covered_endures : Covered Endures where
  publish name payload storage log := by
    refine ⟨(publish_flag name payload storage log).symm, ?_⟩
    intro hreleased
    rw [publish_released hreleased]
  receive _ := readRing_endures _ _
  readLatest _ := readRing_endures _ _
  readOldest _ := readRing_endures _ _
  resetCounters _ _ := ⟨rfl, fun _ => rfl⟩

/-- Why a released topic refuses a message of the shape: its size is looked at first. -/
def messageRefusal (storage : Storage) (name : String) (shape : Shape) : Refusal :=
  let expected := storage.ring.layout.payloadSize
  if shape.size ≠ expected then .sizeMismatch expected shape.size else .notFound name

theorem readMessage_released {shape : Shape} {step : Counters → Counters}
    {read : Op (Reading Ring) (Option Delivery)} (hreleased : storage.released = true) (log : Log) :
    (readMessage shape (readRing name read step)).exec storage log =
      ((.error (.refused (storage.messageRefusal name shape)), storage), log) := by
  unfold messageRefusal
  by_cases hsize : shape.size = storage.ring.layout.payloadSize
  · rw [readMessage_error hsize (readRing_released hreleased)]
    simp only [hsize, ne_eq, not_true, if_false]
  · rw [readMessage_misfit hsize]
    simp only [hsize, ne_eq, not_false_eq_true, if_true]

end Storage

namespace Topic

variable (topic : Topic kind)

def Refuses (bus : Bus) (op : Op Bus α) : Prop :=
  ∀ log, op.exec bus log = ((.error (.refused (.notFound topic.name)), bus), log)

def RefusesReading (bus : Bus) (op : Op (Reading Bus) α) : Prop :=
  ∀ buffer log, op.exec ⟨bus, buffer⟩ log =
    ((.error (.refused (.notFound topic.name)), ⟨bus, buffer⟩), log)

theorem access_still {op : Op Storage α} {outcome : Except Failure α} {log log' : Log}
    (h : bus.storages[topic.storage]? = some storage)
    (hop : op.exec storage log = ((outcome, storage), log')) :
    (topic.access op).exec bus log = ((outcome, bus), log') := by
  rw [topic.access_exec h, hop, topic.setIfInBounds_self h]

theorem accessReading_still {op : Op (Reading Storage) α} {outcome : Except Failure α}
    {buffer : Bytes} {log log' : Log} (h : bus.storages[topic.storage]? = some storage)
    (hop : op.exec ⟨storage, buffer⟩ log = ((outcome, ⟨storage, buffer⟩), log')) :
    (topic.accessReading op).exec ⟨bus, buffer⟩ log = ((outcome, ⟨bus, buffer⟩), log') := by
  rw [topic.accessReading_exec buffer h, hop, topic.setIfInBounds_self h]

/-- Every call for data is refused and changes nothing. -/
structure Withdrawn (topic : Topic kind) (bus : Bus) : Prop where
  publish : ∀ payload, topic.Refuses bus (topic.publish payload)
  publisher : ∀ payload, topic.Refuses bus (Publisher.publish ⟨topic⟩ payload)
  receive : topic.RefusesReading bus topic.receive
  readLatest : topic.RefusesReading bus topic.readLatest
  readOldest : topic.RefusesReading bus topic.readOldest
  slotImage : ∀ epoch, topic.Refuses bus (topic.slotImage epoch)
  payloads : ∀ byte : Topic .byte, SomeTopic.mk kind topic = ⟨.byte, byte⟩ →
    byte.Refuses bus byte.receivePayload ∧ byte.Refuses bus byte.latestPayload ∧
      byte.Refuses bus byte.drain

theorem withdrawn (h : bus.storages[topic.storage]? = some storage)
    (hreleased : storage.released = true) : topic.Withdrawn bus where
  publish _ _ := topic.access_still h (Storage.publish_released hreleased)
  publisher _ _ := topic.access_still h (Storage.publish_released hreleased)
  receive _ _ := topic.accessReading_still h (Storage.readRing_released hreleased)
  readLatest _ _ := topic.accessReading_still h (Storage.readRing_released hreleased)
  readOldest _ _ := topic.accessReading_still h (Storage.readRing_released hreleased)
  slotImage epoch _ := topic.access_still h (Storage.slotImage_released hreleased epoch)
  payloads := by
    rintro byte ⟨⟩
    refine ⟨fun _ => ?_, fun _ => ?_, fun _ => ?_⟩
    · exact byte.access_still h (Storage.receivePayload_released hreleased)
    · exact byte.access_still h (Storage.latestPayload_released hreleased)
    · exact byte.access_still h (Storage.drain_released hreleased)

theorem receiveMessage_released (topic : Topic .typed)
    (h : bus.storages[topic.storage]? = some storage) (hreleased : storage.released = true)
    (shape : Shape) (log : Log) :
    (topic.receiveMessage shape).exec bus log =
      ((.error (.refused (storage.messageRefusal topic.name shape)), bus), log) :=
  topic.access_still h (Storage.readMessage_released hreleased log)

theorem latestMessage_released (topic : Topic .typed)
    (h : bus.storages[topic.storage]? = some storage) (hreleased : storage.released = true)
    (shape : Shape) (log : Log) :
    (topic.latestMessage shape).exec bus log =
      ((.error (.refused (storage.messageRefusal topic.name shape)), bus), log) :=
  topic.access_still h (Storage.readMessage_released hreleased log)

end Topic

namespace Subscriber

variable (subscriber : Subscriber kind)

theorem latestSeen_exec {seen : Nat} (h : bus.seen[subscriber.mark]? = some seen) (log : Log) :
    subscriber.latestSeen.exec bus log = ((.ok seen, bus), log) := by
  simp only [latestSeen, exec_bind, exec_get, h, exec_pure]

theorem isBehind_exec {seen : Nat} (hstorage : bus.storages[subscriber.topic.storage]? = some storage)
    (hmark : bus.seen[subscriber.mark]? = some seen) (log : Log) :
    subscriber.isBehind.exec bus log =
      ((.ok (decide (seen < storage.ring.lastEpoch)), bus), log) := by
  simp only [isBehind, exec_bind, subscriber.latestSeen_exec hmark,
    subscriber.topic.lastEpoch_exec hstorage, exec_pure]

/-- Polling looks for something new before it asks the topic. -/
theorem poll_exec {seen : Nat} (hstorage : bus.storages[subscriber.topic.storage]? = some storage)
    (hmark : bus.seen[subscriber.mark]? = some seen) (buffer : Bytes) (log : Log) :
    subscriber.poll.exec ⟨bus, buffer⟩ log =
      if seen < storage.ring.lastEpoch then
        (do
          let found := (← subscriber.topic.readLatest).map fun entry => (entry, entry.epoch)
          return (← Op.onSource (subscriber.accept found)).map Prod.fst :
          Op (Reading Bus) (Option Delivery)).exec ⟨bus, buffer⟩ log
      else ((.ok none, ⟨bus, buffer⟩), log) := by
  rw [poll, exec_bind, exec_onSource, subscriber.isBehind_exec hstorage hmark]
  by_cases hnew : seen < storage.ring.lastEpoch
  · simp only [hnew, decide_true, if_true]
  · simp only [hnew, decide_false, Bool.false_eq_true, if_false, exec_pure]

theorem pollMessage_exec (subscriber : Subscriber .typed) {seen : Nat}
    (hstorage : bus.storages[subscriber.topic.storage]? = some storage)
    (hmark : bus.seen[subscriber.mark]? = some seen) (shape : Shape) (log : Log) :
    (subscriber.pollMessage shape).exec bus log =
      if seen < storage.ring.lastEpoch then
        (do subscriber.accept (← subscriber.topic.latestMessage shape) :
          Op Bus (Option (shape.Value × Nat))).exec bus log
      else ((.ok none, bus), log) := by
  rw [pollMessage, exec_bind, subscriber.isBehind_exec hstorage hmark]
  by_cases hnew : seen < storage.ring.lastEpoch
  · simp only [hnew, decide_true, if_true]
  · simp only [hnew, decide_false, Bool.false_eq_true, if_false, exec_pure]

/-- What a subscriber is told once its topic was released. -/
structure Orphaned (subscriber : Subscriber kind) (bus : Bus) (storage : Storage) (seen : Nat) :
    Prop where
  receive : subscriber.topic.RefusesReading bus subscriber.receive
  readLatest : subscriber.topic.RefusesReading bus subscriber.readLatest
  poll_behind : seen < storage.ring.lastEpoch →
    subscriber.topic.RefusesReading bus subscriber.poll
  poll_idle : storage.ring.lastEpoch ≤ seen → ∀ buffer log,
    subscriber.poll.exec ⟨bus, buffer⟩ log = ((.ok none, ⟨bus, buffer⟩), log)
  drain : ∀ byte : Subscriber .byte, Sigma.mk kind subscriber = ⟨.byte, byte⟩ →
    byte.topic.Refuses bus byte.drain
  receiveMessage : ∀ typed : Subscriber .typed, Sigma.mk kind subscriber = ⟨.typed, typed⟩ →
    ∀ shape log, (typed.receiveMessage shape).exec bus log =
      ((.error (.refused (storage.messageRefusal typed.topic.name shape)), bus), log)
  pollMessage_behind : seen < storage.ring.lastEpoch →
    ∀ typed : Subscriber .typed, Sigma.mk kind subscriber = ⟨.typed, typed⟩ →
    ∀ shape log, (typed.pollMessage shape).exec bus log =
      ((.error (.refused (storage.messageRefusal typed.topic.name shape)), bus), log)
  pollMessage_idle : storage.ring.lastEpoch ≤ seen →
    ∀ typed : Subscriber .typed, Sigma.mk kind subscriber = ⟨.typed, typed⟩ →
    ∀ shape log, (typed.pollMessage shape).exec bus log = ((.ok none, bus), log)

theorem orphaned {seen : Nat} (hstorage : bus.storages[subscriber.topic.storage]? = some storage)
    (hreleased : storage.released = true) (hmark : bus.seen[subscriber.mark]? = some seen) :
    subscriber.Orphaned bus storage seen := by
  have hlatest : subscriber.topic.RefusesReading bus subscriber.topic.readLatest :=
    (subscriber.topic.withdrawn hstorage hreleased).readLatest
  constructor
  case receive =>
    intro buffer log
    rw [receive, exec_bind, (subscriber.topic.withdrawn hstorage hreleased).receive]
  case readLatest => exact hlatest
  case poll_behind =>
    intro hnew buffer log
    rw [subscriber.poll_exec hstorage hmark, if_pos hnew, exec_bind, hlatest]
  case poll_idle =>
    intro hidle buffer log
    rw [subscriber.poll_exec hstorage hmark, if_neg (Nat.not_lt.mpr hidle)]
  case drain =>
    rintro byte ⟨⟩ log
    have hpayloads := (byte.topic.withdrawn hstorage hreleased).payloads byte.topic rfl
    rw [drain, exec_bind, hpayloads.2.2]
  case receiveMessage =>
    rintro typed ⟨⟩ shape log
    rw [receiveMessage, exec_bind, typed.topic.receiveMessage_released hstorage hreleased]
  case pollMessage_behind =>
    rintro hnew typed ⟨⟩ shape log
    rw [typed.pollMessage_exec hstorage hmark, if_pos hnew, exec_bind,
      typed.topic.latestMessage_released hstorage hreleased]
  case pollMessage_idle =>
    rintro hidle typed ⟨⟩ shape log
    rw [typed.pollMessage_exec hstorage hmark, if_neg (Nat.not_lt.mpr hidle)]

end Subscriber

end TopicBus
