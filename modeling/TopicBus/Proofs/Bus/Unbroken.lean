import TopicBus.Proofs.Bus.Trace

namespace TopicBus

open Op

variable {kind : Kind} {storage storage' : Storage} {queue : Queue} {name : String} {log : Log}

namespace Storage

/-- The payload would be taken if there were an epoch left for it. -/
structure Exhausted (storage : Storage) (payload : Bytes) : Prop where
  live : storage.released = false
  fits : storage.ring.layout.checkPayload payload.length = .ok ()
  last : storage.ring.lastEpoch + 1 = 2 ^ 63

theorem Tells.whole {α : Type} {found : Bytes → Nat → Storage → Prop} {receipt : α → Receipt}
    {result : Except Failure α} (h : Tells found storage receipt result storage') :
    isFault result = false := by
  cases h <;> rfl

theorem submit_whole (payload : Bytes) {op : Op Storage Nat}
    (hop : op.exec storage log = (publish name payload).exec storage log)
    (h : storage.ring.Holds queue) (hfew : queue.history.length < 2 ^ 63)
    (hroom : ¬storage.Exhausted payload) :
    isFault ((submit payload op).exec storage log).1.1 = false := by
  have hpublishes := publishes h hfew name payload log
  simp only [submit, exec_bind, exec_get, hop]
  generalize (publish name payload).exec storage log = result at hpublishes ⊢
  cases hpublishes with
  | withdrawn released | rejected live misfit | accepted live fits room holds => rfl
  | exhausted live fits last =>
      refine absurd ⟨live, ?_, ?_⟩ hroom
      · rw [h.layout_eq, fits]
      · rw [h.lastEpoch_eq, last]

theorem report_whole (request : Topic.Request kind) (h : storage.ring.Holds queue)
    (hfew : queue.history.length < 2 ^ 63) (hkind : storage.ring.layout.kind = kind)
    (hroom : ∀ payload, request.offered = some payload → ¬storage.Exhausted payload)
    (name : String) (log : Log) :
    isFault ((report name request).exec storage log).1.1 = false := by
  cases request with
  | resetCounters | look => rfl
  | slotImage epoch =>
      simp only [report, ← map_eq_pure_bind, exec_map, isFault_map]
      cases hr : storage.released with
      | true =>
          rw [slotImage_released hr]
          rfl
      | false =>
          rw [slotImage_live hr ((h.memory hfew).slotImage_eq hfew epoch)]
          rfl
  | publish payload =>
      simp only [report, ← map_eq_pure_bind, exec_map, isFault_map]
      exact submit_whole payload rfl h hfew (hroom payload rfl)
  | publishMessage shape message =>
      simp only [report, ← map_eq_pure_bind, exec_map, isFault_map]
      by_cases hsize : shape.size = storage.ring.layout.payloadSize
      · exact submit_whole _ (publishMessage_fit hsize) h hfew (hroom _ rfl)
      · simp only [submit, exec_bind, exec_get, publishMessage_misfit hsize]
        rfl
  | receive buffer =>
      simp only [report, ← map_eq_pure_bind, exec_map, isFault_map]
      exact (lending_tells (receive_finds h hfew)).whole
  | receivePayload =>
      simp only [report, ← map_eq_pure_bind, exec_map, isFault_map]
      exact (payload_tells fun _ => receive_finds h hfew).whole
  | receiveMessage shape =>
      simp only [report, ← map_eq_pure_bind, exec_map, isFault_map]
      refine (message_tells (fun _ => receive_finds h hfew) ?_).whole
      exact fun _ _ _ hfound => h.length_typed hkind hfound.1
  | drain =>
      simp only [report, ← map_eq_pure_bind, exec_map, isFault_map]
      cases hr : storage.released with
      | true =>
          rw [drain_released hr]
          rfl
      | false =>
          rw [drain_exec hr h hfew]
          rfl
  | readLatest buffer =>
      simp only [report, ← map_eq_pure_bind, exec_map, isFault_map]
      exact (lending_tells (readLatest_finds h hfew)).whole
  | readOldest buffer =>
      simp only [report, ← map_eq_pure_bind, exec_map, isFault_map]
      exact (lending_tells (readOldest_finds h hfew)).whole
  | latestPayload =>
      simp only [report, ← map_eq_pure_bind, exec_map, isFault_map]
      exact (payload_tells fun _ => readLatest_finds h hfew).whole
  | latestMessage shape =>
      simp only [report, ← map_eq_pure_bind, exec_map, isFault_map]
      refine (message_tells (fun _ => readLatest_finds h hfew) ?_).whole
      exact fun _ _ _ hfound => h.length_typed hkind hfound.1

theorem report_sound (request : Topic.Request kind) (h : storage.ring.Holds queue)
    (hfew : queue.history.length < 2 ^ 63) (hkind : storage.ring.layout.kind = kind)
    (name : String) (log : Log) : ((report name request).exec storage log).1.2.Sound := by
  cases hreset : request.resets with
  | true =>
      obtain rfl := Topic.Request.eq_of_resets hreset
      exact ⟨queue, h, hfew⟩
  | false =>
      obtain ⟨next, hturned⟩ := report_turned request h hfew hkind hreset name log
      exact ⟨next, hturned.holds, hturned.turn.length_lt⟩

end Storage

def Bus.Request.offered : Bus.Request → Option Bytes
  | .topic _ request => request.offered
  | .publisher _ request => request.asked.offered
  | _ => none

def Bus.Request.Exhausts (request : Bus.Request) (bus : Bus) : Prop :=
  ∃ (index : Nat) (storage : Storage) (payload : Bytes), request.storage? = some index ∧
    bus.storages[index]? = some storage ∧ request.offered = some payload ∧
    storage.Exhausted payload

structure Bus.Withstands (exhausts : Prop) (outcome : Except Failure Report) (after : Bus) :
    Prop where
  whole : ¬exhausts → isFault outcome = false
  sound : after.Sound

variable {bus : Bus}

theorem Subscriber.Request.offered_asked (request : Subscriber.Request kind) :
    request.asked.offered = none := by
  cases request <;> rfl

theorem Topic.report_withstands (topic : Topic kind) (hbus : bus.Sound) (held : topic.Held bus)
    (request : Topic.Request kind) (log : Log) :
    Bus.Withstands ((Bus.Request.topic topic request).Exhausts bus)
      ((topic.report request).exec bus log).1.1 ((topic.report request).exec bus log).1.2 := by
  obtain ⟨storage, hstorage⟩ := held.exists_storage
  obtain ⟨queue, hholds, hfew⟩ := hbus _ _ hstorage
  have hkind := held.kind_eq hstorage
  rw [topic.report_exec hstorage, topic.access_exec hstorage]
  refine ⟨fun hroom => Storage.report_whole request hholds hfew hkind ?_ _ _,
    hbus.set _ (Storage.report_sound request hholds hfew hkind _ _)⟩
  intro payload hoffered hexhausted
  exact hroom ⟨_, storage, payload, rfl, hstorage, hoffered, hexhausted⟩

theorem Subscriber.report_withstands (subscriber : Subscriber kind) (hbus : bus.Sound)
    (held : subscriber.Held bus) (request : Subscriber.Request kind) (log : Log)
    (exhausts : Prop) :
    Bus.Withstands exhausts ((subscriber.report request).exec bus log).1.1
      ((subscriber.report request).exec bus log).1.2 := by
  obtain ⟨storage, hstorage⟩ := held.1.exists_storage
  obtain ⟨seen, hmark⟩ := held.exists_seen
  obtain ⟨queue, hholds, hfew⟩ := hbus _ _ hstorage
  have hkind := held.1.kind_eq hstorage
  by_cases hidle : request.polls ∧ storage.ring.lastEpoch ≤ seen
  · rw [subscriber.report_idle hstorage hmark request hidle.1 hidle.2]
    exact ⟨fun _ => rfl, hbus⟩
  · have hnew : request.polls → seen < storage.ring.lastEpoch :=
      fun hpolls => Nat.lt_of_not_le fun hle => hidle ⟨hpolls, hle⟩
    rw [subscriber.report_served hstorage hmark request hnew]
    refine ⟨fun _ => ?_, hbus.set _ (Storage.report_sound request.asked hholds hfew hkind _ _)⟩
    dsimp only
    rw [isFault_map]
    refine Storage.report_whole request.asked hholds hfew hkind ?_ _ _
    rw [request.offered_asked]
    rintro payload ⟨⟩

theorem Bus.Request.report_withstands (request : Bus.Request) (hbus : bus.Sound)
    (held : request.Held bus) (log : Log) :
    Bus.Withstands (request.Exhausts bus) (request.report.exec bus log).1.1
      (request.report.exec bus log).1.2 := by
  cases request with
  | create kind spec =>
      simp only [report, perform, Topic.detached, ← map_eq_pure_bind, exec_map]
      rcases Topic.ofSpec_cases kind spec bus with ⟨ring, hmakes⟩ | ⟨reason, hfails⟩
      · rw [Topic.ofSpec_exec hmakes]
        exact ⟨fun _ => rfl, hbus.push ⟨_, Ring.create_holds hmakes.ring_eq, Nat.two_pow_pos 63⟩⟩
      · rw [hfails]
        exact ⟨fun _ => rfl, hbus⟩
  | provide memory | subscribe handle => exact ⟨fun _ => rfl, hbus⟩
  | topic handle request => exact handle.report_withstands hbus held request log
  | publisher handle request =>
      rw [report, handle.report_eq]
      exact handle.topic.report_withstands hbus held request.asked log
  | subscriber handle request => exact handle.report_withstands hbus held request log _

end TopicBus
