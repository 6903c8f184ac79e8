import TopicBus.Proofs.Bus.Report

/-!
Polls of a subscriber that is behind. On a live topic a poll with the right room shows the latest
entry, which then counts as seen. Every other poll is refused and changes nothing, so the entry can
be polled for again.
-/

namespace TopicBus

open Op

variable {kind : Kind} {bus : Bus} {storage : Storage} {queue : Queue} {payload buffer : Bytes}
  {name : String} {log : Log}

/-- A payload needs a buffer that it fits into, a message one of exactly its size. -/
def Layout.Room (layout : Layout) (payload buffer : Bytes) : Prop :=
  match layout.kind with
  | .byte => payload.length ≤ buffer.length
  | .typed => buffer.length = layout.payloadSize

def Subscriber.Request.Fits (layout : Layout) (payload : Bytes) :
    {kind : Kind} → Subscriber.Request kind → Prop
  | _, .poll buffer => layout.Room payload buffer
  | _, .pollMessage shape => shape.size = layout.payloadSize
  | _, _ => False

theorem Subscriber.Request.Fits.polls {layout : Layout} {request : Subscriber.Request kind}
    (h : request.Fits layout payload) : request.polls := by
  cases request with
  | poll buffer | pollMessage shape => rfl
  | look | seeAll | receive buffer | readLatest buffer | drain | receiveMessage shape => cases h

theorem Layout.room_of_length_eq {layout : Layout} (hle : payload.length ≤ layout.payloadSize)
    (hb : buffer.length = layout.payloadSize) : layout.Room payload buffer := by
  unfold Room
  cases layout.kind with
  | byte => exact hle.trans hb.ge
  | typed => exact hb

namespace Queue

variable {count : Nat} (hc : queue.history[count]? = some payload)

include hc

theorem copy_fit (h : queue.Sound) (hroom : queue.layout.Room payload buffer) :
    queue.copy count buffer =
      (.ok (some ⟨payload.length, count + 1⟩), payload ++ buffer.drop payload.length) := by
  have hle := h.length_fits (List.mem_of_getElem? hc)
  cases hkind : queue.layout.kind with
  | byte =>
      simp only [Layout.Room, hkind] at hroom
      apply copy_some _ hc (Nat.not_lt.mpr hroom)
      simp only [Layout.checkRoom, hkind]
  | typed =>
      simp only [Layout.Room, hkind] at hroom
      exact copy_some (checkRoom_roomy hroom) hc (by omega)

theorem copy_misfit (hroom : ¬queue.layout.Room payload buffer) :
    ∃ reason, queue.copy count buffer = (.error reason, buffer) := by
  cases hkind : queue.layout.kind with
  | byte =>
      simp only [Layout.Room, hkind] at hroom
      refine ⟨_, copy_short ?_ hc (Nat.lt_of_not_le hroom)⟩
      simp only [Layout.checkRoom, hkind]
  | typed =>
      simp only [Layout.Room, hkind] at hroom
      refine ⟨.sizeMismatch queue.layout.payloadSize buffer.length, copy_refused ?_⟩
      simp only [Layout.checkRoom, hkind, ne_eq, hroom, not_false_eq_true, if_true]

end Queue

namespace Storage

def peeked (storage : Storage) : Storage :=
  { storage with counters := storage.counters.countPeeked }

variable (h : storage.ring.Holds queue) (hfew : queue.history.length < 2 ^ 63)
  (hlast : queue.history.getLast? = some payload)

include hlast in
theorem latest_entry :
    queue.history[queue.history.length - 1]? = some payload ∧
      queue.history.length - 1 + 1 = queue.history.length := by
  rw [List.getLast?_eq_getElem?] at hlast
  obtain ⟨hlt, -⟩ := List.getElem?_eq_some_iff.mp hlast
  exact ⟨hlast, by omega⟩

include h hfew hlast

theorem readLatest_fit (hlive : storage.released = false)
    (hroom : queue.layout.Room payload buffer) :
    (readLatest name).exec ⟨storage, buffer⟩ log =
      ((.ok (some ⟨payload.length, queue.history.length⟩),
        ⟨storage.peeked, payload ++ buffer.drop payload.length⟩), log) := by
  obtain ⟨hc, hpos⟩ := latest_entry hlast
  rw [readLatest_exec hlive h hfew, Queue.readLatest, Queue.copy_fit hc h.sound hroom, hpos]
  rfl

theorem readLatest_misfit (hmiss : ¬(storage.released = false ∧ queue.layout.Room payload buffer)) :
    ∃ reason, ∀ log, (readLatest name).exec ⟨storage, buffer⟩ log =
      ((.error (.refused reason), ⟨storage, buffer⟩), log) := by
  obtain ⟨hc, hpos⟩ := latest_entry hlast
  cases hr : storage.released with
  | true => exact ⟨_, fun _ => readRing_released hr⟩
  | false =>
      obtain ⟨reason, hcopy⟩ := Queue.copy_misfit hc fun hroom => hmiss ⟨hr, hroom⟩
      refine ⟨reason, fun log => ?_⟩
      rw [readLatest_exec hr h hfew, Queue.readLatest, hcopy]
      rfl

variable {request : Subscriber.Request kind} (hkind : queue.layout.kind = kind)

include hkind in
theorem report_poll_fit (hlive : storage.released = false)
    (hfits : request.Fits queue.layout payload) :
    (report name request.asked).exec storage log =
      ((.ok { shown := [(payload, queue.history.length)] }, storage.peeked), log) := by
  cases request with
  | look | seeAll | receive buffer | readLatest buffer | drain | receiveMessage shape => cases hfits
  | poll buffer =>
      rw [Subscriber.Request.asked, report, exec_bind, exec_lending,
        readLatest_fit h hfew hlast hlive hfits]
      simp only [Except.map, exec_pure, Report.showing, Receipt.ofRead, Option.map_some,
        entryIn_append, Option.toList_some]
  | pollMessage shape =>
      have hmem := List.mem_of_getLast? hlast
      have hsize : shape.size = storage.ring.layout.payloadSize := by
        rw [h.layout_eq]
        exact hfits
      have hroom := Layout.room_of_length_eq (h.sound.length_fits hmem) (length_zeros_fit h hsize)
      have hread : (readLatest name).exec ⟨storage, Bytes.zeros shape.size⟩ log = _ :=
        readLatest_fit h hfew hlast hlive hroom
      have hpayload : payload.length = shape.size :=
        (h.sound.length_typed hkind hmem).trans hfits.symm
      obtain ⟨message, hbytes, hexec⟩ := readMessage_some hsize hread (by simp [hpayload])
      rw [← hpayload, List.take_left] at hbytes
      rw [Subscriber.Request.asked, report, latestMessage, exec_bind, hexec]
      simp only [exec_pure, Report.showing, Receipt.ofMessage, Option.map_some, hbytes,
        Option.toList_some]

theorem report_poll_misfit (hpolls : request.polls)
    (hmiss : ¬(storage.released = false ∧ request.Fits queue.layout payload)) (name : String) :
    ∃ reason, ∀ log, (report name request.asked).exec storage log =
      ((.error (.refused reason), storage), log) := by
  cases request with
  | look | seeAll | drain => cases hpolls
  | receive buffer | readLatest buffer | receiveMessage shape => cases hpolls
  | poll buffer =>
      obtain ⟨reason, hread⟩ := readLatest_misfit h hfew hlast hmiss
      refine ⟨reason, fun log => ?_⟩
      rw [Subscriber.Request.asked, report, exec_bind, exec_lending, hread]
      rfl
  | pollMessage shape =>
      by_cases hsize : shape.size = storage.ring.layout.payloadSize
      · have hreleased : storage.released = true := by
          rw [← Bool.not_eq_false]
          intro hlive
          rw [h.layout_eq] at hsize
          exact hmiss ⟨hlive, hsize⟩
        refine ⟨storage.messageRefusal name shape, fun log => ?_⟩
        rw [Subscriber.Request.asked, report, latestMessage, exec_bind, readLatest,
          readMessage_released hreleased]
      · refine ⟨.sizeMismatch storage.ring.layout.payloadSize shape.size, fun log => ?_⟩
        rw [Subscriber.Request.asked, report, latestMessage, exec_bind, readMessage_misfit hsize]

end Storage

theorem Queue.exists_latest_entry (hfull : 0 < queue.history.length) :
    ∃ payload, queue.history.getLast? = some payload :=
  ⟨_, List.getLast?_eq_some_getLast (List.ne_nil_of_length_pos hfull)⟩

section Behind

variable {request : Subscriber.Request kind} {seen : Nat} (h : storage.ring.Holds queue)
  (hfew : queue.history.length < 2 ^ 63) (hkind : queue.layout.kind = kind)
  (hnew : seen < queue.history.length)

include h hfew hkind hnew

theorem Storage.handed_poll (hpolls : request.polls) (last : Nat) :
    ((report name request.asked).exec storage log).1.1.map (request.handed seen last) =
      ((report name request.asked).exec storage log).1.1 := by
  obtain ⟨payload, hlast⟩ := queue.exists_latest_entry (Nat.zero_lt_of_lt hnew)
  by_cases hfits : storage.released = false ∧ request.Fits queue.layout payload
  · rw [report_poll_fit h hfew hlast hkind hfits.1 hfits.2]
    simp [Except.map, Subscriber.Request.handed_poll hpolls, hnew]
  · obtain ⟨reason, hreport⟩ := report_poll_misfit h hfew hlast hpolls hfits name
    rw [hreport]
    rfl

namespace Subscriber

variable (subscriber : Subscriber kind)
  (hstorage : bus.storages[subscriber.topic.storage]? = some storage)
  (hmark : bus.seen[subscriber.mark]? = some seen) (hlast : queue.history.getLast? = some payload)

include hstorage hmark hlast

theorem poll_fit (hlive : storage.released = false) (hfits : request.Fits queue.layout payload)
    (log : Log) :
    (subscriber.report request).exec bus log =
      ((.ok { shown := [(payload, queue.history.length)] },
        { bus with
          storages := bus.storages.setIfInBounds subscriber.topic.storage storage.peeked
          seen := bus.seen.setIfInBounds subscriber.mark queue.history.length }), log) := by
  have hbehind : request.polls → seen < storage.ring.lastEpoch :=
    fun _ => hnew.trans_eq h.lastEpoch_eq.symm
  rw [subscriber.report_served hstorage hmark request hbehind,
    Storage.report_poll_fit h hfew hlast hkind hlive hfits]
  simp [Except.map, Report.ofOutcome, Request.handed_poll hfits.polls,
    Request.given_poll hfits.polls, hnew, Nat.le_of_lt]

omit hkind in
theorem poll_misfit (hpolls : request.polls)
    (hmiss : ¬(storage.released = false ∧ request.Fits queue.layout payload)) :
    ∃ reason, ∀ log, (subscriber.report request).exec bus log =
      ((.error (.refused reason), bus), log) := by
  have hbehind : request.polls → seen < storage.ring.lastEpoch :=
    fun _ => hnew.trans_eq h.lastEpoch_eq.symm
  obtain ⟨reason, hreport⟩ :=
    Storage.report_poll_misfit h hfew hlast hpolls hmiss subscriber.topic.name
  refine ⟨reason, fun log => ?_⟩
  rw [subscriber.report_settle hstorage hmark request hbehind,
    subscriber.topic.report_exec hstorage, subscriber.topic.access_still hstorage (hreport log)]
  rfl

end Subscriber

end Behind

end TopicBus
