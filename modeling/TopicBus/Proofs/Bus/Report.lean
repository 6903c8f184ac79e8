import TopicBus.Proofs.Bus.Release

/-!
Reports: all that users learn from their calls. Beside the receipt of a call stand the entries that
it showed and left in place, and the epoch up to which it counted everything as seen. A call on a
topic is one on its storage, and a call on a subscriber is one on its topic with a note of what was
found.
-/

namespace TopicBus

open Op

structure Report extends Receipt where
  shown : List (Bytes × Nat) := []
  marked : Option Nat := none

namespace Report

def ofReceipt (receipt : Receipt) : Report := { toReceipt := receipt }

def showing (receipt : Receipt) : Report := { shown := receipt.delivered }

def ofOutcome : Except Failure Report → Report
  | .ok report => report
  | .error _ => {}

end Report

variable {α β : Type} {kind : Kind} {bus : Bus} {storage : Storage} {log : Log}

def Topic.report : {kind : Kind} → Topic kind → Topic.Request kind → Op Bus Report
  | _, topic, .readLatest buffer => do
    return .showing (.ofRead (← topic.readLatest.lending buffer))
  | _, topic, .readOldest buffer => do
    return .showing (.ofRead (← topic.readOldest.lending buffer))
  | _, topic, .latestPayload => do return .showing (.ofPayload (← topic.latestPayload))
  | _, topic, .latestMessage shape => do
    return .showing (.ofMessage shape (← topic.latestMessage shape))
  | _, topic, request => do return .ofReceipt (← topic.perform request)

namespace Storage

def submit (payload : Bytes) (publish : Op Storage Nat) : Op Storage Receipt := do
  let before := (← get).ring.unread
  let epoch ← publish
  let after := (← get).ring.unread
  return { accepted := [(payload, epoch)], overwritten := before.filter (· ∉ after) }

def report (name : String) : {kind : Kind} → Topic.Request kind → Op Storage Report
  | _, .look => return {}
  | _, .slotImage epoch => do let _ ← slotImage name epoch; return {}
  | _, .resetCounters => do resetCounters; return {}
  | _, .publish payload => do return .ofReceipt (← submit payload (publish name payload))
  | _, .receive buffer => do return .ofReceipt (.ofRead (← (receive name).lending buffer))
  | _, .readLatest buffer => do return .showing (.ofRead (← (readLatest name).lending buffer))
  | _, .readOldest buffer => do return .showing (.ofRead (← (readOldest name).lending buffer))
  | _, .receivePayload => do return .ofReceipt (.ofPayload (← receivePayload name))
  | _, .latestPayload => do return .showing (.ofPayload (← latestPayload name))
  | _, .drain => do return .ofReceipt { delivered := ← drain name }
  | _, .publishMessage shape message => do
    return .ofReceipt (← submit (shape.bytes message) (publishMessage name shape message))
  | _, .receiveMessage shape => do
    return .ofReceipt (.ofMessage shape (← receiveMessage name shape))
  | _, .latestMessage shape => do
    return .showing (.ofMessage shape (← latestMessage name shape))

end Storage

namespace Topic

theorem report_toReceipt (topic : Topic kind) (request : Topic.Request kind) :
    Report.toReceipt <$> topic.report request = topic.perform request := by
  cases request <;> simp [report, perform, Report.ofReceipt, Report.showing]

variable (topic : Topic kind)

theorem access_map_exec (h : bus.storages[topic.storage]? = some storage) (f : α → β)
    (op : Op Storage α) :
    (f <$> topic.access op).exec bus log = (topic.access (f <$> op)).exec bus log := by
  rw [exec_map, topic.access_exec h, topic.access_exec h, exec_map]

theorem lending_map_exec (h : bus.storages[topic.storage]? = some storage) (buffer : Bytes)
    (f : α × Bytes → β) (op : Op (Reading Storage) α) :
    (f <$> (topic.accessReading op).lending buffer).exec bus log =
      (topic.access (f <$> op.lending buffer)).exec bus log := by
  rw [exec_map, topic.lending_exec buffer h, ← exec_map, topic.access_map_exec h]

theorem submit_map_exec (h : bus.storages[topic.storage]? = some storage) (payload : Bytes)
    (f : Receipt → β) (op : Op Storage Nat) :
    (f <$> topic.submit payload (topic.access op)).exec bus log =
      (topic.access (f <$> Storage.submit payload op)).exec bus log := by
  rw [exec_map, topic.submit_exec payload h, topic.access_exec h, exec_map]
  simp only [Storage.submit, exec_bind, exec_get]
  generalize op.exec storage log = result
  obtain ⟨⟨failure | epoch, storage'⟩, log'⟩ := result <;> rfl

theorem report_exec (h : bus.storages[topic.storage]? = some storage)
    (request : Topic.Request kind) (log : Log) :
    (topic.report request).exec bus log =
      (topic.access (Storage.report topic.name request)).exec bus log := by
  cases request with
  | look =>
      have hlook : topic.report .look = do let _ ← topic.state; return {} := by
        simp [report, perform, Report.ofReceipt]
      rw [hlook, exec_bind, topic.state_exec h]
      exact (topic.access_still h rfl).symm
  | publish payload | publishMessage shape message => exact topic.submit_map_exec h _ _ _
  | receive buffer =>
      simp only [report, perform, bind_assoc, pure_bind]
      exact topic.lending_map_exec h buffer _ _
  | readLatest buffer | readOldest buffer => exact topic.lending_map_exec h buffer _ _
  | slotImage epoch | receiveMessage shape | latestMessage shape | resetCounters | receivePayload |
    latestPayload | drain =>
      simp only [report, perform, bind_assoc, pure_bind]
      exact topic.access_map_exec h _ _

end Topic

def Publisher.report (publisher : Publisher kind) (request : Publisher.Request kind) :
    Op Bus Report := do return .ofReceipt (← publisher.perform request)

theorem Publisher.report_eq (publisher : Publisher kind) (request : Publisher.Request kind) :
    publisher.report request = publisher.topic.report request.asked := by
  cases request <;> rfl

def Subscriber.report : {kind : Kind} → Subscriber kind → Subscriber.Request kind → Op Bus Report
  | _, subscriber, .seeAll => do
    let epoch ← subscriber.topic.lastEpoch
    subscriber.seeAll
    return { marked := some epoch }
  | _, subscriber, .readLatest buffer => do
    return .showing (.ofRead (← subscriber.readLatest.lending buffer))
  | _, subscriber, .poll buffer => do
    return .showing (.ofRead (← subscriber.poll.lending buffer))
  | _, subscriber, .pollMessage shape => do
    return .showing (.ofMessage shape (← subscriber.pollMessage shape))
  | _, subscriber, request => do return .ofReceipt (← subscriber.perform request)

namespace Subscriber.Request

def polls : Subscriber.Request kind → Bool
  | .poll _ | .pollMessage _ => true
  | _ => false

def handed (seen last : Nat) : Subscriber.Request kind → Report → Report
  | .seeAll, _ => { marked := some last }
  | .poll _, report | .pollMessage _, report =>
    if ∀ entry ∈ report.shown, seen < entry.2 then report else {}
  | _, report => report

/-- The epochs that a subscriber is given or marks; reading the latest entry gives none. -/
def given : Subscriber.Request kind → Report → List Nat
  | .look, _ | .readLatest _, _ => []
  | _, report => report.marked.toList ++ (report.delivered ++ report.shown).map Prod.snd

theorem handed_poll {request : Subscriber.Request kind} (h : request.polls) (seen last : Nat)
    (report : Report) : request.handed seen last report =
      if ∀ entry ∈ report.shown, seen < entry.2 then report else {} := by
  cases request with
  | poll buffer | pollMessage shape => rfl
  | look | seeAll | receive buffer | readLatest buffer | drain | receiveMessage shape => cases h

theorem given_poll {request : Subscriber.Request kind} (h : request.polls) (report : Report) :
    request.given report =
      report.marked.toList ++ (report.delivered ++ report.shown).map Prod.snd := by
  cases request with
  | poll buffer | pollMessage shape => rfl
  | look | seeAll | receive buffer | readLatest buffer | drain | receiveMessage shape => cases h

theorem given_nothing (request : Subscriber.Request kind) : request.given {} = [] := by
  cases request <;> rfl

end Subscriber.Request

namespace Subscriber

variable (subscriber : Subscriber kind)

theorem report_toReceipt (request : Subscriber.Request kind) :
    Report.toReceipt <$> subscriber.report request = subscriber.perform request := by
  cases request with
  | receive buffer | readLatest buffer | poll buffer | receiveMessage shape | pollMessage shape |
    look | drain => simp [report, perform, Report.ofReceipt, Report.showing]
  | seeAll =>
      funext bus log
      show (Report.toReceipt <$> subscriber.report .seeAll).exec bus log =
        (subscriber.perform .seeAll).exec bus log
      cases h : bus.storages[subscriber.topic.storage]? with
      | none =>
          simp only [report, perform, seeAll, exec_map, exec_bind, Topic.lastEpoch, Topic.state,
            subscriber.topic.access_missing h]
          rfl
      | some storage =>
          simp only [report, perform, seeAll, exec_map, exec_bind,
            subscriber.topic.lastEpoch_exec h]
          generalize (subscriber.see storage.ring.lastEpoch).exec bus log = result
          obtain ⟨⟨failure | _, bus'⟩, log'⟩ := result <;> rfl

/-- A subscriber's call once its topic has answered: the report is handed on, and the last epoch
that it gives is noted as seen. -/
def settle (seen last : Nat) (request : Subscriber.Request kind) :
    (Except Failure Report × Bus) × Log → (Except Failure Report × Bus) × Log
  | ((.ok report, bus), log) =>
    let handed := request.handed seen last report
    let latest := max seen ((request.given handed).getLast?.getD 0)
    ((.ok handed, { bus with seen := bus.seen.setIfInBounds subscriber.mark latest }), log)
  | ((.error failure, bus), log) => ((.error failure, bus), log)

variable {seen : Nat}

theorem seen_same (hmark : bus.seen[subscriber.mark]? = some seen) :
    { bus with seen := bus.seen.setIfInBounds subscriber.mark seen } = bus := by
  obtain ⟨hlt, hget⟩ := Array.getElem?_eq_some_iff.mp hmark
  rw [Array.setIfInBounds, dif_pos hlt, ← hget, Array.set_getElem_self]

theorem settle_eq (hmark : bus.seen[subscriber.mark]? = some seen) (last : Nat)
    (request : Subscriber.Request kind) (outcome : Except Failure Report) :
    subscriber.settle seen last request ((outcome, bus), log) =
      let handed := outcome.map (request.handed seen last)
      let latest := max seen ((request.given (.ofOutcome handed)).getLast?.getD 0)
      ((handed, { bus with seen := bus.seen.setIfInBounds subscriber.mark latest }), log) := by
  cases outcome with
  | ok report => rfl
  | error failure =>
      simp only [settle, Except.map, Report.ofOutcome, Request.given_nothing, List.getLast?_nil,
        Option.getD_none, Nat.max_zero, subscriber.seen_same hmark]

theorem lending_poll_exec (hstorage : bus.storages[subscriber.topic.storage]? = some storage)
    (hmark : bus.seen[subscriber.mark]? = some seen) (hnew : seen < storage.ring.lastEpoch)
    (buffer : Bytes) :
    (subscriber.poll.lending buffer).exec bus log =
      (subscriber.topic.readLatest.lending buffer >>= fun found => do
        let accepted ← subscriber.accept (found.1.map fun entry => (entry, entry.epoch))
        return (accepted.map Prod.fst, found.2)).exec bus log := by
  rw [exec_lending, subscriber.poll_exec hstorage hmark, if_pos hnew]
  simp only [exec_bind, exec_lending]
  generalize subscriber.topic.readLatest.exec ⟨bus, buffer⟩ log = result
  obtain ⟨⟨failure | found, call⟩, log'⟩ := result
  · rfl
  · simp only [Except.map, exec_onSource]
    generalize (subscriber.accept _).exec call.source log' = result
    obtain ⟨⟨failure | accepted, bus'⟩, log''⟩ := result <;> rfl

theorem accept_exec (hmark : bus.seen[subscriber.mark]? = some seen) (found : Option (α × Nat)) :
    (subscriber.accept found).exec bus log =
      match found with
      | none => ((.ok none, bus), log)
      | some entry =>
        if seen < entry.2 then (do subscriber.see entry.2; return some entry).exec bus log
        else ((.ok none, bus), log) := by
  rcases found with _ | ⟨entry, epoch⟩
  · rfl
  · rw [accept, exec_bind, subscriber.latestSeen_exec hmark]
    dsimp only
    split <;> rfl

theorem settle_accept (hmark : bus.seen[subscriber.mark]? = some seen)
    (request : Subscriber.Request kind) (hpolls : request.polls) {last : Nat}
    {found : Option (α × Nat)} {f : Option (α × Nat) → Report} (hnone : f none = {})
    (hsome : ∀ entry, found = some entry → ∃ payload, f found = { shown := [(payload, entry.2)] }) :
    (f <$> subscriber.accept found).exec bus log =
      subscriber.settle seen last request ((.ok (f found), bus), log) := by
  have hidle : subscriber.settle seen last request ((.ok {}, bus), log) =
      ((.ok {}, bus), log) := by
    simp [settle, Request.handed_poll hpolls, Request.given_poll hpolls,
      subscriber.seen_same hmark]
  rw [exec_map, subscriber.accept_exec hmark]
  rcases found with _ | ⟨entry, epoch⟩
  · rw [hnone, hidle]
    simp [Except.map, hnone]
  · obtain ⟨payload, hfound⟩ := hsome _ rfl
    by_cases hnew : seen < epoch
    · simp [hnew, exec_map, subscriber.see_exec hmark, Except.map, hfound, settle,
        Request.handed_poll hpolls, Request.given_poll hpolls]
    · simp [hnew, Except.map, hnone, hfound, settle, Request.handed_poll hpolls,
        Request.given_poll hpolls, subscriber.seen_same hmark]

section Ask

variable (hstorage : bus.storages[subscriber.topic.storage]? = some storage)
  (hmark : bus.seen[subscriber.mark]? = some seen)

include hstorage hmark

theorem settle_bind (request : Subscriber.Request kind) {op : Op Bus α} {note : α → Op Bus β}
    {f : α → Report} {g : β → Report} {last : Nat}
    (hask : subscriber.topic.report request.asked = f <$> op)
    (hreport : (subscriber.report request).exec bus log = (g <$> (op >>= note)).exec bus log)
    (hnote : ∀ a bus' log', bus'.seen[subscriber.mark]? = some seen →
      (g <$> note a).exec bus' log' =
        subscriber.settle seen last request ((.ok (f a), bus'), log')) :
    (subscriber.report request).exec bus log =
      subscriber.settle seen last request
        ((subscriber.topic.report request.asked).exec bus log) := by
  have hseen : ((subscriber.topic.report request.asked).exec bus log).1.2.seen = bus.seen := by
    rw [subscriber.topic.report_exec hstorage, subscriber.topic.access_exec hstorage]
  rw [hask, exec_map] at hseen
  rw [hreport, hask, map_bind, exec_bind, exec_map]
  generalize op.exec bus log = result at hseen ⊢
  obtain ⟨⟨failure | a, bus'⟩, log'⟩ := result
  · rfl
  · apply hnote
    rw [show bus'.seen = bus.seen from hseen]
    exact hmark

theorem settle_note (request : Subscriber.Request kind) {op : Op Bus α} {note : α → Op Bus α}
    {f : α → Report} {last : Nat} (hask : subscriber.topic.report request.asked = f <$> op)
    (hreport : (subscriber.report request).exec bus log = (f <$> (op >>= note)).exec bus log)
    (hnote : ∀ a, request.handed seen last (f a) = f a ∧
      ((note a = pure a ∧ request.given (f a) = []) ∨
        ∃ epoch, note a = (do subscriber.see epoch; return a) ∧
          (request.given (f a)).getLast? = some epoch)) :
    (subscriber.report request).exec bus log =
      subscriber.settle seen last request
        ((subscriber.topic.report request.asked).exec bus log) := by
  apply subscriber.settle_bind hstorage hmark request hask hreport
  intro a bus' log' hmark'
  obtain ⟨hhanded, ⟨hnone, hgiven⟩ | ⟨epoch, hsome, hgiven⟩⟩ := hnote a
  · simp only [hnone, exec_map, exec_pure, Except.map, settle, hhanded, hgiven,
      List.getLast?_nil, Option.getD_none, Nat.max_zero, subscriber.seen_same hmark']
  · simp only [hsome, exec_map, exec_bind, subscriber.see_exec hmark', exec_pure, Except.map,
      settle, hhanded, hgiven, Option.getD_some]

theorem receive_settle (buffer : Bytes) (last : Nat) :
    (subscriber.report (.receive buffer)).exec bus log =
      subscriber.settle seen last (.receive buffer)
        ((subscriber.topic.report (.receive buffer)).exec bus log) := by
  have hask : subscriber.topic.report (.receive buffer) =
      (fun found => .ofReceipt (.ofRead found)) <$> subscriber.topic.receive.lending buffer := by
    simp [Topic.report, Topic.perform]
  have hreport : subscriber.report (.receive buffer) =
      (fun found => .ofReceipt (.ofRead found)) <$> subscriber.receive.lending buffer := by
    simp [report, perform]
  apply subscriber.settle_note hstorage hmark (.receive buffer) hask
  · rw [hreport, exec_map, subscriber.lending_receive_exec, ← exec_map]
  · rintro ⟨_ | entry, buffer'⟩
    · exact ⟨rfl, .inl ⟨rfl, rfl⟩⟩
    · exact ⟨rfl, .inr ⟨entry.epoch, rfl, rfl⟩⟩

theorem poll_settle (buffer : Bytes) (hnew : seen < storage.ring.lastEpoch) (last : Nat) :
    (subscriber.report (.poll buffer)).exec bus log =
      subscriber.settle seen last (.poll buffer)
        ((subscriber.topic.report (.readLatest buffer)).exec bus log) := by
  let tell (found : Option Delivery × Bytes) : Report := .showing (.ofRead found)
  let note (found : Option Delivery × Bytes) : Op Bus (Option Delivery × Bytes) := do
    let accepted ← subscriber.accept (found.1.map fun entry => (entry, entry.epoch))
    return (accepted.map Prod.fst, found.2)
  have hask : subscriber.topic.report (.readLatest buffer) =
      tell <$> subscriber.topic.readLatest.lending buffer := by
    simp [Topic.report, tell]
  have hreport : (subscriber.report (.poll buffer)).exec bus log =
      (tell <$> (subscriber.topic.readLatest.lending buffer >>= note)).exec bus log := by
    have hpoll : subscriber.report (.poll buffer) = tell <$> subscriber.poll.lending buffer := by
      simp [report, tell]
    rw [hpoll, exec_map, subscriber.lending_poll_exec hstorage hmark hnew, exec_map]
  apply subscriber.settle_bind hstorage hmark (.poll buffer) hask hreport
  rintro ⟨found, buffer'⟩ bus' log' hmark'
  have hnote : tell <$> note (found, buffer') =
      (fun accepted => tell (accepted.map Prod.fst, buffer')) <$>
        subscriber.accept (found.map fun entry => (entry, entry.epoch)) := by
    simp [note]
  rw [hnote, subscriber.settle_accept hmark' (.poll buffer) rfl rfl]
  · cases found <;> rfl
  · rintro ⟨entry, epoch⟩ hfound
    obtain ⟨delivery, rfl, hentry⟩ := Option.map_eq_some_iff.mp hfound
    cases hentry
    exact ⟨_, rfl⟩

end Ask

theorem drain_settle (subscriber : Subscriber .byte)
    (hstorage : bus.storages[subscriber.topic.storage]? = some storage)
    (hmark : bus.seen[subscriber.mark]? = some seen) (last : Nat) :
    (subscriber.report .drain).exec bus log =
      subscriber.settle seen last .drain ((subscriber.topic.report .drain).exec bus log) := by
  have hask : subscriber.topic.report .drain =
      (fun entries => .ofReceipt { delivered := entries }) <$> subscriber.topic.drain := by
    simp [Topic.report, Topic.perform]
  have hreport : subscriber.report .drain =
      (fun entries => .ofReceipt { delivered := entries }) <$> subscriber.drain := by
    simp [report, perform]
  apply subscriber.settle_note hstorage hmark .drain hask
  · rw [hreport]
    rfl
  · intro entries
    refine ⟨rfl, ?_⟩
    cases hlast : entries.getLast? with
    | none =>
        rw [List.getLast?_eq_none_iff.mp hlast]
        exact .inl ⟨rfl, rfl⟩
    | some entry =>
        refine .inr ⟨entry.2, rfl, ?_⟩
        simp [Request.given, Report.ofReceipt, List.getLast?_map, hlast]

section Message

variable (subscriber : Subscriber .typed)
  (hstorage : bus.storages[subscriber.topic.storage]? = some storage)
  (hmark : bus.seen[subscriber.mark]? = some seen) (shape : Shape)

include hstorage hmark

theorem receiveMessage_settle (last : Nat) :
    (subscriber.report (.receiveMessage shape)).exec bus log =
      subscriber.settle seen last (.receiveMessage shape)
        ((subscriber.topic.report (.receiveMessage shape)).exec bus log) := by
  have hask : subscriber.topic.report (.receiveMessage shape) =
      (fun found => .ofReceipt (.ofMessage shape found)) <$>
        subscriber.topic.receiveMessage shape := by
    simp [Topic.report, Topic.perform]
  have hreport : subscriber.report (.receiveMessage shape) =
      (fun found => .ofReceipt (.ofMessage shape found)) <$> subscriber.receiveMessage shape := by
    simp [report, perform]
  apply subscriber.settle_note hstorage hmark (.receiveMessage shape) hask
  · rw [hreport]
    rfl
  · rintro (_ | ⟨message, epoch⟩)
    · exact ⟨rfl, .inl ⟨rfl, rfl⟩⟩
    · exact ⟨rfl, .inr ⟨epoch, rfl, rfl⟩⟩

theorem pollMessage_settle (hnew : seen < storage.ring.lastEpoch) (last : Nat) :
    (subscriber.report (.pollMessage shape)).exec bus log =
      subscriber.settle seen last (.pollMessage shape)
        ((subscriber.topic.report (.latestMessage shape)).exec bus log) := by
  let tell (found : Option (shape.Value × Nat)) : Report := .showing (.ofMessage shape found)
  have hask : subscriber.topic.report (.latestMessage shape) =
      tell <$> subscriber.topic.latestMessage shape := by
    simp [Topic.report, tell]
  have hreport : (subscriber.report (.pollMessage shape)).exec bus log =
      (tell <$> (subscriber.topic.latestMessage shape >>= subscriber.accept)).exec bus log := by
    have hpoll : subscriber.report (.pollMessage shape) =
        tell <$> subscriber.pollMessage shape := by
      simp [report, tell]
    rw [hpoll, exec_map, subscriber.pollMessage_exec hstorage hmark, if_pos hnew, exec_map]
  apply subscriber.settle_bind hstorage hmark (.pollMessage shape) hask hreport
  intro found bus' log' hmark'
  apply subscriber.settle_accept hmark' (.pollMessage shape) rfl rfl
  rintro ⟨message, epoch⟩ rfl
  exact ⟨_, rfl⟩

end Message

section Report

variable (hstorage : bus.storages[subscriber.topic.storage]? = some storage)
  (hmark : bus.seen[subscriber.mark]? = some seen) (request : Subscriber.Request kind)

include hstorage hmark

/-- A poll with nothing new to find does not ask the topic. -/
theorem report_idle (hpolls : request.polls) (hidle : storage.ring.lastEpoch ≤ seen) (log : Log) :
    (subscriber.report request).exec bus log = ((.ok {}, bus), log) := by
  cases request with
  | look | seeAll | drain => cases hpolls
  | receive buffer | readLatest buffer | receiveMessage shape => cases hpolls
  | poll buffer =>
      rw [report, exec_bind, exec_lending, subscriber.poll_exec hstorage hmark,
        if_neg (Nat.not_lt.mpr hidle)]
      rfl
  | pollMessage shape =>
      rw [report, exec_bind, subscriber.pollMessage_exec hstorage hmark,
        if_neg (Nat.not_lt.mpr hidle)]
      rfl

theorem report_settle (hnew : request.polls → seen < storage.ring.lastEpoch) (log : Log) :
    (subscriber.report request).exec bus log =
      subscriber.settle seen storage.ring.lastEpoch request
        ((subscriber.topic.report request.asked).exec bus log) := by
  have hlook : (subscriber.topic.report .look).exec bus log = ((.ok {}, bus), log) := by
    rw [subscriber.topic.report_exec hstorage]
    exact subscriber.topic.access_still hstorage rfl
  cases request with
  | look =>
      have hreport : subscriber.report .look = do
          let _ ← subscriber.isBehind
          let _ ← subscriber.missed
          return {} := by simp [report, perform, Report.ofReceipt]
      rw [Request.asked, hlook, hreport]
      simp only [exec_bind, subscriber.isBehind_exec hstorage hmark, missed,
        subscriber.topic.lastEpoch_exec hstorage, subscriber.latestSeen_exec hmark, exec_pure]
      simp [settle, Request.handed, Request.given, subscriber.seen_same hmark]
  | seeAll =>
      rw [Request.asked, hlook]
      simp only [report, exec_bind, seeAll, subscriber.topic.lastEpoch_exec hstorage,
        subscriber.see_exec hmark, exec_pure]
      rfl
  | readLatest buffer =>
      have hask : subscriber.report (.readLatest buffer) =
          (fun found => .showing (.ofRead found)) <$>
            (subscriber.topic.readLatest.lending buffer >>= pure) := by simp [report, readLatest]
      apply subscriber.settle_note hstorage hmark (.readLatest buffer) rfl (by rw [hask])
      exact fun _ => ⟨rfl, .inl ⟨rfl, rfl⟩⟩
  | receive buffer => exact subscriber.receive_settle hstorage hmark buffer _
  | poll buffer => exact subscriber.poll_settle hstorage hmark buffer (hnew rfl) _
  | drain => exact subscriber.drain_settle hstorage hmark _
  | receiveMessage shape => exact subscriber.receiveMessage_settle hstorage hmark shape _
  | pollMessage shape => exact subscriber.pollMessage_settle hstorage hmark shape (hnew rfl) _

theorem report_served (hnew : request.polls → seen < storage.ring.lastEpoch) (log : Log) :
    (subscriber.report request).exec bus log =
      let answer := (Storage.report subscriber.topic.name request.asked).exec storage log
      let handed := answer.1.1.map (request.handed seen storage.ring.lastEpoch)
      let latest := max seen ((request.given (.ofOutcome handed)).getLast?.getD 0)
      ((handed, { bus with
          storages := bus.storages.setIfInBounds subscriber.topic.storage answer.1.2
          seen := bus.seen.setIfInBounds subscriber.mark latest }), answer.2) := by
  rw [subscriber.report_settle hstorage hmark request hnew,
    subscriber.topic.report_exec hstorage, subscriber.topic.access_exec hstorage]
  apply subscriber.settle_eq
  exact hmark

end Report

end Subscriber

namespace Bus.Request

def report : Bus.Request → Op Bus Report
  | topic handle request => handle.report request
  | publisher handle request => handle.report request
  | subscriber handle request => handle.report request
  | request => do return .ofReceipt (← request.perform)

def storage? : Bus.Request → Option Nat
  | create _ _ | subscribe _ | provide _ => none
  | topic handle _ => some handle.storage
  | publisher handle _ => some handle.topic.storage
  | subscriber handle _ => some handle.topic.storage

theorem report_toReceipt (request : Bus.Request) :
    Report.toReceipt <$> request.report = request.perform := by
  cases request with
  | create kind spec | subscribe handle | provide memory => simp [report, Report.ofReceipt]
  | topic handle request => exact handle.report_toReceipt request
  | publisher handle request => simp [report, perform, Publisher.report, Report.ofReceipt]
  | subscriber handle request => exact handle.report_toReceipt request

theorem report_bus (request : Bus.Request) (bus : Bus) (log : Log) :
    (request.report.exec bus log).1.2 = (request.perform.exec bus log).1.2 := by
  rw [← request.report_toReceipt, exec_map]

theorem report_follows {request : Bus.Request} {way : Bus → Bus → Prop}
    (h : request.perform.Follows way) : request.report.Follows way := by
  rw [← request.report_toReceipt] at h
  exact h.of_map

end Bus.Request

def Storage.Untouched (touched : Option Nat) (index : Nat) (before after : Storage) : Prop :=
  some index ≠ touched → after = before

instance (touched : Option Nat) (index : Nat) :
    IsPreorder Storage (Storage.Untouched touched index) where
  refl _ _ := rfl
  trans _ _ _ hab hbc hi := (hbc hi).trans (hab hi)

theorem Topic.Request.follows_untouched (request : Topic.Request kind) (index : Nat)
    (name : String) : request.Follows (Storage.Untouched (some index) index) name := by
  have hany (before after : Storage) : Storage.Untouched (some index) index before after :=
    fun hne => absurd rfl hne
  exact request.follows_covered ⟨fun _ _ _ _ => hany _ _, fun _ _ _ => hany _ _,
    fun _ _ _ => hany _ _, fun _ _ _ => hany _ _, fun _ _ => hany _ _⟩ name

theorem Bus.Request.report_untouched (request : Bus.Request) :
    request.report.Follows (Bus.Along (Storage.Untouched request.storage?)) := by
  apply report_follows
  apply request.perform_along
  cases request with
  | create kind spec | subscribe handle | provide memory => trivial
  | topic handle request => exact request.follows_untouched handle.storage handle.name
  | publisher handle request =>
      exact request.asked.follows_untouched handle.topic.storage handle.topic.name
  | subscriber handle request =>
      exact request.asked.follows_untouched handle.topic.storage handle.topic.name

end TopicBus
