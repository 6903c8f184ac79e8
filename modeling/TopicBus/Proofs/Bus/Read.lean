import TopicBus.Proofs.Bus.Trace
import TopicBus.Proofs.Ring.Read

namespace TopicBus

open Op

variable {kind : Kind} {bus : Bus} {storage : Storage} {queue : Queue} {count : Nat} {name : String}

namespace Storage

theorem readRing_copies {read : Op (Reading Ring) (Option Delivery)} {step : Counters → Counters}
    (h : Copies read storage.ring queue count) (hlive : storage.released = false) :
    Copies (readRing name read step) storage queue count := by
  intro buffer log
  obtain ⟨ring', hread, hring⟩ := h buffer log
  refine ⟨_, readRing_exec hlive hread, ?_⟩
  intro hidle
  rw [hring hidle]
  generalize (queue.copy count buffer).1 = outcome at hidle ⊢
  rcases outcome with reason | _ | entry
  · rfl
  · rfl
  · exact absurd rfl (hidle entry)

end Storage

theorem Topic.accessReading_copies (topic : Topic kind) {op : Op (Reading Storage) (Option Delivery)}
    (h : Copies op storage queue count) (hstorage : bus.storages[topic.storage]? = some storage) :
    Copies (topic.accessReading op) bus queue count := by
  intro buffer log
  obtain ⟨storage', hexec, hsame⟩ := h buffer log
  rw [topic.accessReading_exec buffer hstorage, hexec]
  refine ⟨_, rfl, ?_⟩
  intro hidle
  rw [hsame hidle, topic.setIfInBounds_self hstorage]

/-- All reads through a handle leave no trace but a whole entry. -/
structure Topic.Atomic (topic : Topic kind) (bus : Bus) (storage : Storage) (layout : Layout)
    (history : List Bytes) : Prop where
  receive : Reads topic.receive bus layout history storage.ring.passed
  readLatest : Reads topic.readLatest bus layout history (storage.ring.lastEpoch - 1)
  readOldest : Reads topic.readOldest bus layout history storage.ring.passed
  live : storage.released = false → Mismatches topic.receive bus layout ∧
    Mismatches topic.readLatest bus layout ∧ Mismatches topic.readOldest bus layout
  released : storage.released = true → topic.RefusesReading bus topic.receive ∧
    topic.RefusesReading bus topic.readLatest ∧ topic.RefusesReading bus topic.readOldest

theorem Topic.RefusesReading.reads {topic : Topic kind} {op : Op (Reading Bus) (Option Delivery)}
    (h : topic.RefusesReading bus op) (layout : Layout) (history : List Bytes) (count : Nat) :
    Reads op bus layout history count :=
  .of_still h (by simp) (by simp)

theorem Topic.atomic (topic : Topic kind) (hstorage : bus.storages[topic.storage]? = some storage)
    (h : storage.ring.Holds queue) (hfew : queue.history.length < 2 ^ 63) :
    topic.Atomic bus storage queue.layout queue.history := by
  cases hr : storage.released with
  | true =>
      have hwithdrawn := topic.withdrawn hstorage hr
      exact ⟨hwithdrawn.receive.reads _ _ _, hwithdrawn.readLatest.reads _ _ _,
        hwithdrawn.readOldest.reads _ _ _, by simp [hr],
        fun _ => ⟨hwithdrawn.receive, hwithdrawn.readLatest, hwithdrawn.readOldest⟩⟩
  | false =>
      have hreceive : Copies topic.receive bus queue queue.read :=
        topic.accessReading_copies (Storage.readRing_copies (h.receive_copies hfew) hr) hstorage
      have hlatest : Copies topic.readLatest bus queue (queue.history.length - 1) :=
        topic.accessReading_copies (Storage.readRing_copies (h.readLatest_copies hfew) hr) hstorage
      have holdest : Copies topic.readOldest bus queue queue.read :=
        topic.accessReading_copies (Storage.readRing_copies (h.readOldest_copies hfew) hr) hstorage
      have hlast : storage.ring.lastEpoch = queue.history.length := h.lastEpoch_eq
      refine ⟨?_, ?_, ?_, ?_, by simp [hr]⟩
      · rw [h.passed_eq]
        exact hreceive.reads h.sound
      · rw [hlast]
        exact hlatest.reads h.sound
      · rw [h.passed_eq]
        exact holdest.reads h.sound
      · exact fun _ => ⟨hreceive.mismatches, hlatest.mismatches, holdest.mismatches⟩

theorem Topic.copies_bind (topic : Topic kind) {op : Op (Reading Storage) (Option Delivery)}
    {note : Option Delivery → Op (Reading Bus) (Option Delivery)}
    (h : Copies op storage queue count) (hstorage : bus.storages[topic.storage]? = some storage)
    (hnone : note none = pure none)
    (hsome : ∀ entry call log, entry.epoch = count + 1 → call.source.seen = bus.seen →
      ∃ bus', (note (some entry)).exec call log = ((.ok (some entry), ⟨bus', call.buffer⟩), log)) :
    Copies (topic.accessReading op >>= note) bus queue count := by
  intro buffer log
  obtain ⟨bus', hexec, hsame⟩ := topic.accessReading_copies h hstorage buffer log
  have hseen : ((topic.accessReading op).exec ⟨bus, buffer⟩ log).1.2.source.seen = bus.seen := by
    rw [topic.accessReading_exec buffer hstorage]
  rw [hexec] at hseen
  rw [exec_bind, hexec]
  rcases queue.copy_cases count buffer with ⟨outcome, hidle, hcopy⟩ | ⟨payload, hc, hle, hcopy⟩
  · rw [hcopy] at hsame ⊢
    obtain rfl := hsame hidle
    refine ⟨bus', ?_, fun _ => rfl⟩
    rcases outcome with reason | _ | entry
    · rfl
    · simp only [Except.mapError, hnone, exec_pure]
    · exact absurd rfl (hidle entry)
  · rw [hcopy]
    obtain ⟨bus'', hnote⟩ := hsome ⟨payload.length, count + 1⟩ ⟨bus', payload ++ buffer.drop _⟩ log
      rfl hseen
    exact ⟨bus'', hnote, fun hidle => absurd rfl (hidle _)⟩

namespace Subscriber

variable (subscriber : Subscriber kind) {seen : Nat}

structure Atomic (subscriber : Subscriber kind) (bus : Bus) (storage : Storage) (layout : Layout)
    (history : List Bytes) : Prop where
  receive : Reads subscriber.receive bus layout history storage.ring.passed
  readLatest : Reads subscriber.readLatest bus layout history (storage.ring.lastEpoch - 1)
  poll : Reads subscriber.poll bus layout history (storage.ring.lastEpoch - 1)
  live : storage.released = false →
    Mismatches subscriber.receive bus layout ∧ Mismatches subscriber.readLatest bus layout

section Live

variable (hstorage : bus.storages[subscriber.topic.storage]? = some storage)
  (hmark : bus.seen[subscriber.mark]? = some seen) (hlive : storage.released = false)
  (h : storage.ring.Holds queue) (hfew : queue.history.length < 2 ^ 63)

include hstorage hmark hlive h hfew

theorem receive_copies : Copies subscriber.receive bus queue queue.read := by
  have hread : Copies (Storage.receive subscriber.topic.name) storage queue queue.read :=
    Storage.readRing_copies (h.receive_copies hfew) hlive
  refine subscriber.topic.copies_bind hread hstorage rfl fun entry call log _ hseen => ?_
  rw [← hseen] at hmark
  simp only [exec_bind, exec_onSource, subscriber.see_exec hmark, exec_pure]
  exact ⟨_, rfl⟩

theorem poll_copies (hnew : seen < storage.ring.lastEpoch) :
    Copies subscriber.poll bus queue (queue.history.length - 1) := by
  have hread : Copies (Storage.readLatest subscriber.topic.name) storage queue
      (queue.history.length - 1) := Storage.readRing_copies (h.readLatest_copies hfew) hlive
  let note (found : Option Delivery) : Op (Reading Bus) (Option Delivery) := do
    let accepted ← onSource (subscriber.accept (found.map fun entry => (entry, entry.epoch)))
    return accepted.map Prod.fst
  have hnone : note none = pure none := rfl
  have hnote := subscriber.topic.copies_bind hread hstorage hnone fun entry call log hepoch hseen => by
    rw [← hseen] at hmark
    rw [h.lastEpoch_eq] at hnew
    have hlater : seen < entry.epoch := by omega
    simp only [note, exec_bind, exec_onSource, Option.map_some, subscriber.accept_exec hmark, hlater,
      if_true, subscriber.see_exec hmark, exec_pure]
    exact ⟨_, rfl⟩
  intro buffer log
  rw [subscriber.poll_exec hstorage hmark, if_pos hnew]
  exact hnote buffer log

end Live

section Any

variable (hstorage : bus.storages[subscriber.topic.storage]? = some storage)
  (hmark : bus.seen[subscriber.mark]? = some seen) (h : storage.ring.Holds queue)
  (hfew : queue.history.length < 2 ^ 63)

include hstorage hmark h hfew

theorem poll_reads :
    Reads subscriber.poll bus queue.layout queue.history (storage.ring.lastEpoch - 1) := by
  by_cases hnew : seen < storage.ring.lastEpoch
  · cases hr : storage.released with
    | true => exact ((subscriber.orphaned hstorage hr hmark).poll_behind hnew).reads _ _ _
    | false =>
        have hlast : storage.ring.lastEpoch = queue.history.length := h.lastEpoch_eq
        rw [hlast]
        exact (subscriber.poll_copies hstorage hmark hr h hfew hnew).reads h.sound
  · have hidle (buffer : Bytes) (log : Log) :
        subscriber.poll.exec ⟨bus, buffer⟩ log = ((.ok none, ⟨bus, buffer⟩), log) := by
      rw [subscriber.poll_exec hstorage hmark, if_neg hnew]
    exact .of_still hidle (by simp) (by simp)

theorem atomic : subscriber.Atomic bus storage queue.layout queue.history := by
  have htopic := subscriber.topic.atomic hstorage h hfew
  have hpoll := subscriber.poll_reads hstorage hmark h hfew
  cases hr : storage.released with
  | true =>
      have hreceive := (subscriber.orphaned hstorage hr hmark).receive
      exact ⟨hreceive.reads _ _ _, htopic.readLatest, hpoll, by simp [hr]⟩
  | false =>
      have hreceive := subscriber.receive_copies hstorage hmark hr h hfew
      refine ⟨?_, htopic.readLatest, hpoll, fun _ => ⟨hreceive.mismatches, (htopic.live hr).2.1⟩⟩
      rw [h.passed_eq]
      exact hreceive.reads h.sound

end Any

end Subscriber

def Bus.Answers {α : Type} (bus : Bus) (op : Op Bus α) : Prop :=
  ∀ log, ∃ a, (op.exec bus log).1.1 = .ok a

section Payloads

variable (hlive : storage.released = false) (h : storage.ring.Holds queue)
  (hfew : queue.history.length < 2 ^ 63)

include hlive h hfew

theorem Topic.payloads_answered (topic : Topic .byte)
    (hstorage : bus.storages[topic.storage]? = some storage) :
    bus.Answers topic.receivePayload ∧ bus.Answers topic.latestPayload ∧ bus.Answers topic.drain := by
  refine ⟨fun log => ?_, fun log => ?_, fun log => ?_⟩
  · rw [receivePayload, topic.access_exec hstorage, Storage.receivePayload_exec hlive h hfew]
    cases queue.history[queue.read]? <;> exact ⟨_, rfl⟩
  · rw [latestPayload, topic.access_exec hstorage, Storage.latestPayload_exec hlive h hfew]
    cases queue.history[queue.history.length - 1]? <;> exact ⟨_, rfl⟩
  · rw [drain, topic.access_exec hstorage, Storage.drain_exec hlive h hfew]
    exact ⟨_, rfl⟩

theorem Subscriber.drain_answered (subscriber : Subscriber .byte) {seen : Nat}
    (hstorage : bus.storages[subscriber.topic.storage]? = some storage)
    (hmark : bus.seen[subscriber.mark]? = some seen) : bus.Answers subscriber.drain := by
  intro log
  obtain ⟨entries, hentries⟩ :=
    (subscriber.topic.payloads_answered hlive h hfew hstorage).2.2 log
  have hseen : (subscriber.topic.drain.exec bus log).1.2.seen = bus.seen := by
    rw [Topic.drain, subscriber.topic.access_exec hstorage]
  rw [drain, exec_bind]
  generalize subscriber.topic.drain.exec bus log = result at hseen hentries ⊢
  obtain ⟨⟨outcome, bus'⟩, log'⟩ := result
  cases hentries
  rw [← hseen] at hmark
  dsimp only
  rcases entries.getLast? with _ | ⟨payload, epoch⟩
  · exact ⟨_, rfl⟩
  · simp only [exec_bind, subscriber.see_exec hmark]
    exact ⟨_, rfl⟩

end Payloads

theorem Topic.atomic_of_run {spec : TopicSpec} {id : TopicId} {before made after : Bus}
    {log log' : Log} {topic : Topic kind} {events : List Bus.Event}
    (hmade : (Topic.ofSpec kind spec id).exec before log = ((.ok topic, made), log'))
    (hrun : Bus.Run made events after) :
    ∃ storage layout, after.storages[topic.storage]? = some storage ∧
      Layout.create kind spec.payloadSize = .ok layout ∧
      (∀ handle : Topic kind, handle.storage = topic.storage →
        handle.Atomic after storage layout (Bus.accepted topic.storage events)) ∧
      (∀ subscriber : Subscriber kind, subscriber.topic.storage = topic.storage →
        subscriber.mark < after.seen.size →
        subscriber.Atomic after storage layout (Bus.accepted topic.storage events)) ∧
      (storage.released = false →
        (∀ handle : Topic .byte, handle.storage = topic.storage →
          after.Answers handle.receivePayload ∧ after.Answers handle.latestPayload ∧
            after.Answers handle.drain) ∧
        ∀ subscriber : Subscriber .byte, subscriber.topic.storage = topic.storage →
          subscriber.mark < after.seen.size → after.Answers subscriber.drain) := by
  obtain ⟨storage, queue, hstorage, hqueue, hlayout, -, hhistory, hfew⟩ :=
    topic.storage_of_run hmade hrun
  refine ⟨storage, queue.layout, hstorage, hlayout, ?_, ?_, fun hlive => ⟨?_, ?_⟩⟩
  · intro handle hindex
    rw [← hindex] at hstorage
    rw [← hhistory]
    exact handle.atomic hstorage hqueue hfew
  · intro subscriber hindex hmark
    rw [← hindex] at hstorage
    rw [← hhistory]
    exact subscriber.atomic hstorage (Array.getElem?_eq_getElem hmark) hqueue hfew
  · intro handle hindex
    rw [← hindex] at hstorage
    exact handle.payloads_answered hlive hqueue hfew hstorage
  · intro subscriber hindex hmark
    rw [← hindex] at hstorage
    exact subscriber.drain_answered hlive hqueue hfew hstorage (Array.getElem?_eq_getElem hmark)

/-- Whatever was asked of a new ring, or of a bus since a topic was made: reads into lent buffers leave
no trace but a whole entry. A ring of messages, and a live topic of messages, refuses all buffers of
another size for their size; a released topic refuses every buffer under its name. With buffers of
their own the reads of a live topic do not fail. -/
theorem reads_atomic :
    (∀ {capacity memory : Nat} {layout : Layout} {ring ring' : Ring} {events : List Ring.Event},
      Ring.create capacity layout memory = .ok ring → Ring.Run ring events ring' →
      ring'.Atomic layout (Ring.accepted events)) ∧
    ∀ {kind : Kind} {spec : TopicSpec} {id : TopicId} {before made after : Bus} {log log' : Log}
      {topic : Topic kind} {events : List Bus.Event},
      (Topic.ofSpec kind spec id).exec before log = ((.ok topic, made), log') →
      Bus.Run made events after →
      ∃ storage layout, after.storages[topic.storage]? = some storage ∧
        Layout.create kind spec.payloadSize = .ok layout ∧
        (∀ handle : Topic kind, handle.storage = topic.storage →
          handle.Atomic after storage layout (Bus.accepted topic.storage events)) ∧
        (∀ subscriber : Subscriber kind, subscriber.topic.storage = topic.storage →
          subscriber.mark < after.seen.size →
          subscriber.Atomic after storage layout (Bus.accepted topic.storage events)) ∧
        (storage.released = false →
          (∀ handle : Topic .byte, handle.storage = topic.storage →
            after.Answers handle.receivePayload ∧ after.Answers handle.latestPayload ∧
              after.Answers handle.drain) ∧
          ∀ subscriber : Subscriber .byte, subscriber.topic.storage = topic.storage →
            subscriber.mark < after.seen.size → after.Answers subscriber.drain) :=
  ⟨Ring.atomic_of_run, Topic.atomic_of_run⟩

/-- A ring whose payload of three bytes is asked for with one and then with four, and a subscriber of
an empty topic of messages that brings too small a buffer. -/
theorem reads_atomic_short :
    let layout : Layout := ⟨.byte, 4, by decide, by decide⟩
    (∃ (ring : Ring) (events : List Ring.Event), ring.Atomic layout (Ring.accepted events) ∧
      (Ring.receive.exec ⟨ring, [9]⟩ #[]).1.1 = .error (.refused (.bufferTooSmall 3 1)) ∧
      (Ring.receive.exec ⟨ring, [9, 9, 9, 9]⟩ #[]).1.1 = .ok (some ⟨3, 1⟩) ∧
      (Ring.receive.exec ⟨ring, [9, 9, 9, 9]⟩ #[]).1.2.buffer = [1, 2, 3, 9]) ∧
    ∃ (subscriber : Subscriber .typed) (bus : Bus), ∀ log,
      subscriber.receive.exec ⟨bus, [9]⟩ log =
        ((.error (.refused (.sizeMismatch 2 1)), ⟨bus, [9]⟩), log) := by
  intro layout
  constructor
  · let empty : Ring := ⟨layout, 2, by decide, {}, 0, 0⟩
    have hring : Ring.create 2 layout = .ok empty := rfl
    have hrun := (Ring.Run.nil empty).snoc (.serve _ #[] (.publish [1, 2, 3]))
    have hatomic := reads_atomic.1 hring hrun
    obtain ⟨-, -, -, hretry⟩ := hatomic.receive.short [9] #[] 3 1 (by decide +kernel)
    refine ⟨_, _, hatomic, by decide +kernel, hretry [9, 9, 9, 9] #[] (by decide), by decide +kernel⟩
  · let topic : Topic .typed := ⟨"a", .detached, 0⟩
    let made := (Topic.ofSpec .typed ⟨"a", .typed, 1, 2⟩ .detached).exec {} #[]
    have hmade : made = ((.ok topic, made.1.2), made.2) := rfl
    have hrun := (Bus.Run.nil made.1.2).snoc (.call _ #[] (.subscribe topic) (by decide +kernel))
    obtain ⟨storage, layout, hstorage, hlayout, -, hsubscribers, -⟩ := reads_atomic.2 hmade hrun
    obtain rfl : _ = layout := Except.ok.inj hlayout
    obtain rfl := Option.some.inj hstorage
    have hatomic := hsubscribers ⟨topic, 0⟩ rfl (by decide +kernel)
    exact ⟨⟨topic, 0⟩, _, fun log => (hatomic.live rfl).1 rfl [9] log (by decide)⟩

/-- A released topic of messages does not look at the size of a buffer. -/
theorem mismatch_after_release :
    ∃ (events : List Bus.Event) (later : Bus) (topic : Topic .typed), Bus.Run {} events later ∧
      (later.storages[topic.storage]?).map (fun storage =>
        (storage.released, storage.ring.layout.kind, storage.ring.layout.payloadSize)) =
          some (true, .typed, 4) ∧
      (topic.receive.exec ⟨later, [0, 0]⟩ #[]).1.1 = .error (.refused (.notFound "a")) ∧
      (topic.readLatest.exec ⟨later, [0, 0]⟩ #[]).1.1 = .error (.refused (.notFound "a")) ∧
      (topic.readOldest.exec ⟨later, [0, 0]⟩ #[]).1.1 = .error (.refused (.notFound "a")) := by
  let registry : Registry := { settings := { maxTopics := 1 } }
  let obtained := ((Registry.perform (.obtainTyped "a" 1 4)).exec ⟨registry, {}⟩ #[]).1.2
  have hobtained := (Bus.Run.nil {}).snoc (.ask _ #[] registry (.obtainTyped "a" 1 4))
  have hreleased := hobtained.snoc (.ask _ #[] obtained.registry (.release ⟨0, 1⟩))
  refine ⟨_, _, ⟨"a", ⟨0, 1⟩, 0⟩, hreleased, ?_⟩
  decide +kernel

end TopicBus
