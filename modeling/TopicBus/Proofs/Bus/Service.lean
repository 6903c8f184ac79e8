import TopicBus.Proofs.Bus.Request

namespace TopicBus

open Op

variable {α : Type} {kind : Kind} {queue : Queue} {bus : Bus} {storage : Storage} {log : Log}

namespace Receipt

def isRefusal : Except Failure α → Bool
  | .error (.refused _) => true
  | _ => false

def cost (publishes : Bool) (outcome : Except Failure α) : Nat :=
  if publishes && !isRefusal outcome then 1 else 0

end Receipt

open Receipt

/-- The bus holds what a call with this outcome made of a queue. -/
def Bus.HoldsNext (bus : Bus) (index : Nat) (queue : Queue) (publishes : Bool)
    (outcome : Except Failure Receipt) : Prop :=
  ∃ next, bus.Holds index next ∧ queue.Step (.ofOutcome outcome) next ∧
    next.history.length = queue.history.length + cost publishes outcome

/-- A call on a storage handed out the oldest unread entries, or none. -/
def Storage.Takes (queue : Queue) (receipt : α → Receipt)
    (result : (Except Failure α × Storage) × Log) : Prop :=
  ∃ count, queue.read + count ≤ queue.history.length ∧
    result.1.2.ring.Holds (queue.advance count) ∧
    ofOutcome (result.1.1.map receipt) = { delivered := queue.unread.take count }

namespace Storage

theorem takes_none {receipt : α → Receipt} {outcome : Except Failure α}
    (h : storage.ring.Holds queue) (ho : ofOutcome (outcome.map receipt) = {}) :
    Takes queue receipt ((outcome, storage), log) := ⟨0, h.sound.read_le, h, ho⟩

theorem takes_one {receipt : α → Receipt} {a : α} {payload : Bytes} (h : storage.ring.Holds queue)
    (counters : Counters) (hc : queue.history[queue.read]? = some payload)
    (ha : receipt a = { delivered := [(payload, queue.read + 1)] }) :
    Takes queue receipt ((.ok a, storage.moved (queue.read + 1) counters), log) := by
  obtain ⟨hlt, -⟩ := List.getElem?_eq_some_iff.mp hc
  refine ⟨1, hlt, moved_holds h counters hlt, ?_⟩
  rw [Queue.unread_eq_cons hc]
  exact ha

theorem receive_takes (h : storage.ring.Holds queue) (hfew : queue.history.length < 2 ^ 63)
    (name : String) (buffer : Bytes) (log : Log) :
    Takes queue .ofRead (((receive name).lending buffer).exec storage log) := by
  rw [exec_lending]
  cases hr : storage.released with
  | true =>
      rw [receive, readRing_released hr]
      exact takes_none h rfl
  | false =>
      rw [receive_exec hr h hfew]
      rcases queue.receive_cases buffer with ⟨outcome, hidle, hq⟩ | ⟨payload, hc, -, hq⟩
      · rw [hq]
        have hsame : (storage.moved queue.read
            (tally Counters.countConsumed outcome storage.counters)).ring.Holds queue := by
          rw [moved, h.pass_read]
          exact h
        apply takes_none hsame
        rcases outcome with reason | _ | found
        · rfl
        · rfl
        · exact absurd rfl (hidle found)
      · rw [hq]
        apply takes_one h _ hc
        simp only [ofRead, Option.map_some, entryIn_append, Option.toList_some]

theorem receivePayload_takes (h : storage.ring.Holds queue)
    (hfew : queue.history.length < 2 ^ 63) (name : String) (log : Log) :
    Takes queue .ofPayload ((receivePayload name).exec storage log) := by
  cases hr : storage.released with
  | true =>
      rw [receivePayload_released hr]
      exact takes_none h rfl
  | false =>
      rw [receivePayload_exec hr h hfew]
      cases hc : queue.history[queue.read]? with
      | none => exact takes_none h rfl
      | some payload => exact takes_one h _ hc rfl

theorem drain_takes (h : storage.ring.Holds queue) (hfew : queue.history.length < 2 ^ 63)
    (name : String) (log : Log) :
    Takes queue (fun entries => { delivered := entries }) ((drain name).exec storage log) := by
  cases hr : storage.released with
  | true =>
      rw [drain_released hr]
      exact takes_none h rfl
  | false =>
      rw [drain_exec hr h hfew]
      have hend := h.sound.read_add_unread
      refine ⟨queue.unread.length, Nat.le_of_eq hend, ?_, ?_⟩
      · rw [← hend]
        exact moved_holds h _ (Nat.le_of_eq hend)
      · rw [List.take_length]
        rfl

theorem receiveMessage_takes (h : storage.ring.Holds queue)
    (hfew : queue.history.length < 2 ^ 63) (hkind : storage.ring.layout.kind = .typed)
    (name : String) (shape : Shape) (log : Log) :
    Takes queue (.ofMessage shape) ((receiveMessage name shape).exec storage log) := by
  rw [h.layout_eq] at hkind
  by_cases hsize : shape.size = storage.ring.layout.payloadSize
  · cases hr : storage.released with
    | true =>
        obtain ⟨failure, hexec⟩ := receiveMessage_released hr name shape log
        rw [hexec]
        exact takes_none h rfl
    | false =>
        cases hc : queue.history[queue.read]? with
        | none =>
            rw [receiveMessage_none hr h hfew hsize hc]
            exact takes_none h rfl
        | some payload =>
            obtain ⟨message, hbytes, hexec⟩ :=
              receiveMessage_some hr h hfew hkind hsize hc name log
            rw [hexec]
            apply takes_one h _ hc
            rw [← hbytes]
            rfl
  · rw [receiveMessage, readMessage_misfit hsize]
    exact takes_none h rfl

end Storage

def Bus.Takes (index : Nat) (queue : Queue) (receipt : α → Receipt)
    (result : (Except Failure α × Bus) × Log) : Prop :=
  ∃ count, queue.read + count ≤ queue.history.length ∧
    result.1.2.Holds index (queue.advance count) ∧
    ofOutcome (result.1.1.map receipt) = { delivered := queue.unread.take count }

theorem Bus.Takes.next {index : Nat} {receipt : α → Receipt} {op : Op Bus α}
    (h : Bus.Takes index queue receipt (op.exec bus log)) :
    ((do return receipt (← op) : Op Bus Receipt).exec bus log).1.2.HoldsNext index queue false
      ((do return receipt (← op) : Op Bus Receipt).exec bus log).1.1 := by
  obtain ⟨count, hcount, hholds, hreceipt⟩ := h
  rw [← map_eq_pure_bind, exec_map]
  refine ⟨queue.advance count, hholds, ?_, rfl⟩
  rw [hreceipt]
  exact .take queue count hcount

namespace Topic

theorem Held.exists_storage {topic : Topic kind} (hheld : topic.Held bus) :
    ∃ storage, bus.storages[topic.storage]? = some storage := by
  obtain ⟨storage, hstorage, -⟩ := Option.map_eq_some_iff.mp hheld
  exact ⟨storage, hstorage⟩

theorem Held.kind_eq {topic : Topic kind} (hheld : topic.Held bus)
    (h : bus.storages[topic.storage]? = some storage) : storage.ring.layout.kind = kind := by
  rw [Held, h, Option.map_some, Option.some.injEq] at hheld
  exact hheld

theorem Held.layout_kind {topic : Topic kind} (hheld : topic.Held bus)
    (hstorage : bus.storages[topic.storage]? = some storage) (hholds : storage.ring.Holds queue) :
    queue.layout.kind = kind := by
  rw [← hholds.layout_eq]
  exact hheld.kind_eq hstorage

variable (topic : Topic kind)

theorem access_takes {op : Op Storage α} {receipt : α → Receipt}
    (h : bus.storages[topic.storage]? = some storage)
    (htakes : Storage.Takes queue receipt (op.exec storage log)) :
    Bus.Takes topic.storage queue receipt ((topic.access op).exec bus log) := by
  obtain ⟨count, hcount, hholds, hreceipt⟩ := htakes
  obtain ⟨hlt, -⟩ := Array.getElem?_eq_some_iff.mp h
  rw [topic.access_exec h]
  exact ⟨count, hcount, ⟨_, Array.getElem?_setIfInBounds_self_of_lt hlt, hholds⟩, hreceipt⟩

theorem lending_exec (buffer : Bytes) (h : bus.storages[topic.storage]? = some storage)
    (op : Op (Reading Storage) α) :
    ((topic.accessReading op).lending buffer).exec bus log =
      (topic.access (op.lending buffer)).exec bus log := by
  rw [exec_lending, topic.accessReading_exec buffer h, topic.access_exec h, exec_lending]

end Topic

namespace Subscriber

variable (subscriber : Subscriber kind)

theorem see_exec {seen : Nat} (h : bus.seen[subscriber.mark]? = some seen) (epoch : Nat)
    (log : Log) :
    (subscriber.see epoch).exec bus log = ((.ok ⟨⟩, { bus with
      seen := bus.seen.setIfInBounds subscriber.mark (max seen epoch) }), log) := by
  simp only [see, latestSeen, exec_bind, exec_get, h, exec_pure, exec_modify]

theorem takes_seen {index : Nat} {receipt : α → Receipt} {op : Op Bus α} {note : α → Op Bus α}
    (hop : op.Follows (Bus.Apart (some index))) (hmark : subscriber.mark < bus.seen.size)
    (hnote : ∀ a, note a = pure a ∨ ∃ epoch, note a = do subscriber.see epoch; return a)
    (h : Bus.Takes index queue receipt (op.exec bus log)) :
    Bus.Takes index queue receipt ((op >>= note).exec bus log) := by
  have hseen := (hop bus log).seen_le
  rw [exec_bind]
  generalize op.exec bus log = result at h hseen ⊢
  obtain ⟨⟨failure | a, bus'⟩, log'⟩ := result
  · exact h
  · rcases hnote a with hnone | ⟨epoch, hsome⟩
    · simp only [hnone, exec_pure]
      exact h
    · have hthere := Array.getElem?_eq_getElem (hmark.trans_le hseen)
      have hsee := subscriber.see_exec hthere epoch log'
      simp only [hsome, exec_bind, hsee, exec_pure]
      exact h

theorem lending_receive_exec (buffer : Bytes) :
    (subscriber.receive.lending buffer).exec bus log =
      (subscriber.topic.receive.lending buffer >>= fun found =>
        match found.1 with
        | none => pure found
        | some entry => do subscriber.see entry.epoch; return found).exec bus log := by
  simp only [receive, exec_bind, exec_lending]
  generalize subscriber.topic.receive.exec ⟨bus, buffer⟩ log = result
  obtain ⟨⟨failure | _ | entry, call⟩, log'⟩ := result
  · rfl
  · rfl
  · simp only [Except.map, exec_bind, exec_onSource]
    generalize (subscriber.see entry.epoch).exec call.source log' = seen
    obtain ⟨⟨failure | _, bus'⟩, log''⟩ := seen <;> rfl

end Subscriber

theorem filter_notMem_range' {start count next : Nat} (rest : Nat) (h : count ≤ next)
    (hrest : next ≤ count + rest) :
    (List.range' start next).filter (· ∉ List.range' (start + count) rest) =
      List.range' start count := by
  have hsplit : next = count + (next - count) := by omega
  rw [hsplit, ← List.range'_append_1, List.filter_append]
  have hfront : (List.range' start count).filter (· ∉ List.range' (start + count) rest) =
      List.range' start count := by
    rw [List.filter_eq_self]
    intro epoch hepoch
    rw [decide_eq_true_iff, List.mem_range'_1]
    rw [List.mem_range'_1] at hepoch
    omega
  have hback : (List.range' (start + count) (next - count)).filter
      (· ∉ List.range' (start + count) rest) = [] := by
    rw [List.filter_eq_nil_iff]
    intro epoch hepoch
    rw [decide_eq_true_iff, List.mem_range'_1, not_not]
    rw [List.mem_range'_1] at hepoch
    omega
  rw [hfront, hback, List.append_nil]

theorem Ring.Holds.overwritten_eq {ring ring' : Ring} {payload : Bytes} (h : ring.Holds queue)
    (h' : ring'.Holds (queue.append payload)) :
    ring.unread.filter (· ∉ ring'.unread) =
      List.range' (queue.read + 1) ((queue.append payload).read - queue.read) := by
  have hread := h.sound.read_le
  have hpos := h.sound.capacity_pos
  have hstart : (queue.append payload).read + 1 =
      queue.read + 1 + ((queue.append payload).read - queue.read) := by
    simp only [Queue.append]
    omega
  rw [h.unread_eq, h'.unread_eq, hstart]
  apply filter_notMem_range'
  · simp only [Queue.append]
    omega
  · simp only [Queue.append, List.length_append, List.length_singleton]
    omega

namespace Topic

variable (topic : Topic kind)

theorem submit_exec (payload : Bytes) (h : bus.storages[topic.storage]? = some storage)
    (op : Op Storage Nat) (log : Log) :
    (topic.submit payload (topic.access op)).exec bus log =
      ((((op.exec storage log).1.1.map fun epoch =>
          { accepted := [(payload, epoch)]
            overwritten := storage.ring.unread.filter
              (· ∉ (op.exec storage log).1.2.ring.unread) }), { bus with
        storages := bus.storages.setIfInBounds topic.storage (op.exec storage log).1.2 }),
        (op.exec storage log).2) := by
  obtain ⟨hlt, -⟩ := Array.getElem?_eq_some_iff.mp h
  simp only [submit, exec_bind, topic.state_exec h, topic.access_exec h]
  generalize op.exec storage log = result
  obtain ⟨⟨failure | epoch, storage'⟩, log'⟩ := result
  · rfl
  · have h' : ({ bus with storages := bus.storages.setIfInBounds topic.storage storage' } :
        Bus).storages[topic.storage]? = some storage' := Array.getElem?_setIfInBounds_self_of_lt hlt
    simp only [topic.state_exec h', exec_pure, Except.map]

theorem submit_refused {payload : Bytes} {op : Op Storage Nat} {reason : Refusal}
    {storage' : Storage} {log' : Log} (h : bus.storages[topic.storage]? = some storage)
    (hop : op.exec storage log = ((.error (.refused reason), storage'), log'))
    (hholds : storage'.ring.Holds queue) :
    ((topic.submit payload (topic.access op)).exec bus log).1.2.HoldsNext topic.storage queue true
      ((topic.submit payload (topic.access op)).exec bus log).1.1 := by
  obtain ⟨hlt, -⟩ := Array.getElem?_eq_some_iff.mp h
  rw [topic.submit_exec payload h, hop]
  exact ⟨queue, ⟨storage', Array.getElem?_setIfInBounds_self_of_lt hlt, hholds⟩, .idle queue, rfl⟩

theorem submit_next {payload : Bytes} {op : Op Storage Nat} {name : String}
    (h : bus.storages[topic.storage]? = some storage) (hholds : storage.ring.Holds queue)
    (hop : op.exec storage log = (Storage.publish name payload).exec storage log)
    (hroom : queue.history.length +
      cost true ((topic.submit payload (topic.access op)).exec bus log).1.1 < 2 ^ 63) :
    ((topic.submit payload (topic.access op)).exec bus log).1.2.HoldsNext topic.storage queue true
      ((topic.submit payload (topic.access op)).exec bus log).1.1 := by
  obtain ⟨hlt, -⟩ := Array.getElem?_eq_some_iff.mp h
  have hpublishes := Storage.publishes hholds (Nat.lt_of_le_of_lt (Nat.le_add_right _ _) hroom)
    name payload log
  generalize hresult : (Storage.publish name payload).exec storage log = result at hpublishes
  have hexec := hop.trans hresult
  cases hpublishes with
  | withdrawn released | rejected live misfit => exact topic.submit_refused h hexec hholds
  | accepted live fits room holds =>
      rw [topic.submit_exec payload h, hexec]
      refine ⟨queue.append payload, ⟨_, Array.getElem?_setIfInBounds_self_of_lt hlt, holds⟩, ?_, ?_⟩
      · have hstep := Queue.Step.publish queue payload fits
        rw [← hholds.overwritten_eq holds] at hstep
        exact hstep
      · simp [Queue.append, cost, isRefusal, Except.map]
  | exhausted live fits last =>
      -- The publish was not refused, so it would use up one epoch too many.
      rw [topic.submit_exec payload h, hexec] at hroom
      exact absurd last (Nat.ne_of_lt hroom)

theorem perform_next (request : Topic.Request kind)
    (h : bus.storages[topic.storage]? = some storage) (hholds : storage.ring.Holds queue)
    (hkind : storage.ring.layout.kind = kind) (htouch : request.publishes || request.consumes)
    (hroom : queue.history.length +
      cost request.publishes ((topic.perform request).exec bus log).1.1 < 2 ^ 63) :
    ((topic.perform request).exec bus log).1.2.HoldsNext topic.storage queue request.publishes
      ((topic.perform request).exec bus log).1.1 := by
  have hfew : queue.history.length < 2 ^ 63 := by omega
  cases request with
  | look | slotImage epoch | resetCounters | readLatest buffer | readOldest buffer |
    latestPayload | latestMessage shape => cases htouch
  | publish payload => exact topic.submit_next h hholds rfl hroom
  | publishMessage shape message =>
      by_cases hsize : shape.size = storage.ring.layout.payloadSize
      · exact topic.submit_next h hholds (Storage.publishMessage_fit hsize) hroom
      · exact topic.submit_refused h (Storage.publishMessage_misfit hsize) hholds
  | receive buffer =>
      apply Bus.Takes.next
      rw [receive, topic.lending_exec buffer h]
      exact topic.access_takes h (Storage.receive_takes hholds hfew _ _ _)
  | receivePayload =>
      exact (topic.access_takes h (Storage.receivePayload_takes hholds hfew _ _)).next
  | drain => exact (topic.access_takes h (Storage.drain_takes hholds hfew _ _)).next
  | receiveMessage shape =>
      exact (topic.access_takes h (Storage.receiveMessage_takes hholds hfew hkind _ _ _)).next

end Topic

theorem Publisher.perform_next (publisher : Publisher kind) (request : Publisher.Request kind)
    (h : bus.storages[publisher.topic.storage]? = some storage) (hholds : storage.ring.Holds queue)
    (hkind : storage.ring.layout.kind = kind)
    (hroom : queue.history.length +
      cost true ((publisher.perform request).exec bus log).1.1 < 2 ^ 63) :
    ((publisher.perform request).exec bus log).1.2.HoldsNext publisher.topic.storage queue true
      ((publisher.perform request).exec bus log).1.1 := by
  cases request with
  | publish payload =>
      exact publisher.topic.perform_next (.publish payload) h hholds hkind rfl hroom
  | publishMessage shape message =>
      exact publisher.topic.perform_next (.publishMessage shape message) h hholds hkind rfl hroom

theorem Subscriber.perform_next (subscriber : Subscriber kind) (request : Subscriber.Request kind)
    (h : bus.storages[subscriber.topic.storage]? = some storage) (hholds : storage.ring.Holds queue)
    (hkind : storage.ring.layout.kind = kind) (hmark : subscriber.mark < bus.seen.size)
    (htouch : request.consumes) (hfew : queue.history.length < 2 ^ 63) :
    ((subscriber.perform request).exec bus log).1.2.HoldsNext subscriber.topic.storage queue false
      ((subscriber.perform request).exec bus log).1.1 := by
  let topic := subscriber.topic
  have hseen {α : Type} {op : Op Storage α} :
      (topic.access op).Follows (Bus.Apart (some topic.storage)) :=
    topic.access_apart fun hne => absurd rfl hne
  cases request with
  | look | seeAll | readLatest buffer | poll buffer | pollMessage shape => cases htouch
  | receive buffer =>
      apply Bus.Takes.next
      rw [subscriber.lending_receive_exec]
      refine subscriber.takes_seen (Follows.lending buffer ?_) hmark ?_ ?_
      · exact topic.accessReading_apart fun hne => absurd rfl hne
      · rintro ⟨_ | entry, buffer'⟩
        · exact .inl rfl
        · exact .inr ⟨_, rfl⟩
      · rw [Topic.receive, topic.lending_exec buffer h]
        exact topic.access_takes h (Storage.receive_takes hholds hfew _ _ _)
  | drain =>
      refine Bus.Takes.next (subscriber.takes_seen hseen hmark ?_ ?_)
      · intro entries
        cases hlast : entries.getLast? with
        | none => exact .inl rfl
        | some entry => exact .inr ⟨_, rfl⟩
      · exact topic.access_takes h (Storage.drain_takes hholds hfew _ _)
  | receiveMessage shape =>
      refine Bus.Takes.next (subscriber.takes_seen hseen hmark ?_ ?_)
      · intro found
        cases found with
        | none => exact .inl rfl
        | some entry => exact .inr ⟨_, rfl⟩
      · exact topic.access_takes h (Storage.receiveMessage_takes hholds hfew hkind _ _ _)

theorem Bus.Request.perform_next (request : Bus.Request) {index : Nat}
    (htouched : request.touched = some index) (hheld : request.Held bus)
    (hholds : bus.Holds index queue)
    (hroom : queue.history.length +
      cost request.publishes (request.perform.exec bus log).1.1 < 2 ^ 63) :
    (request.perform.exec bus log).1.2.HoldsNext index queue request.publishes
      (request.perform.exec bus log).1.1 := by
  obtain ⟨storage, hstorage, hholds⟩ := hholds
  cases request with
  | create kind spec | subscribe handle | provide memory => cases htouched
  | topic handle request =>
      by_cases htouch : request.publishes || request.consumes
      · simp only [touched, htouch, if_true, Option.some.injEq] at htouched
        subst htouched
        exact handle.perform_next request hstorage hholds (hheld.kind_eq hstorage) htouch hroom
      · simp only [touched, htouch] at htouched
        cases htouched
  | publisher handle request =>
      simp only [touched, Option.some.injEq] at htouched
      subst htouched
      exact handle.perform_next request hstorage hholds (Topic.Held.kind_eq hheld hstorage) hroom
  | subscriber handle request =>
      by_cases htouch : request.consumes
      · simp only [touched, htouch, if_true, Option.some.injEq] at htouched
        subst htouched
        have hkind := hheld.1.kind_eq hstorage
        exact handle.perform_next request hstorage hholds hkind hheld.2 htouch (by omega)
      · simp only [touched, htouch] at htouched
        cases htouched

end TopicBus
