import TopicBus.Proofs.Message.Codec
import TopicBus.Proofs.Operation
import TopicBus.Proofs.Ring.Refinement
import TopicBus.Topic.Storage

namespace TopicBus

open Op

namespace Queue

def unread (queue : Queue) : List (Bytes × Nat) :=
  (queue.history.drop queue.read).zipIdx (queue.read + 1)

variable {queue : Queue} {payload buffer : Bytes}

theorem unread_eq_nil (hc : queue.history[queue.read]? = none) : queue.unread = [] := by
  rw [unread, List.drop_of_length_le (List.getElem?_eq_none_iff.mp hc)]
  rfl

theorem unread_eq_cons (hc : queue.history[queue.read]? = some payload) :
    queue.unread = (payload, queue.read + 1) :: (queue.advance 1).unread := by
  obtain ⟨hlt, rfl⟩ := List.getElem?_eq_some_iff.mp hc
  rw [unread, List.drop_eq_getElem_cons hlt, List.zipIdx_cons]
  rfl

theorem length_unread (queue : Queue) :
    queue.unread.length = queue.history.length - queue.read := by
  rw [unread, List.length_zipIdx, List.length_drop]

theorem Sound.read_add_unread (h : queue.Sound) :
    queue.read + queue.unread.length = queue.history.length := by
  have hle := h.read_le
  rw [queue.length_unread]
  omega

theorem checkRoom_roomy (hb : buffer.length = queue.layout.payloadSize) :
    queue.layout.checkRoom buffer.length = .ok () := by
  unfold Layout.checkRoom
  cases queue.layout.kind with
  | byte => rfl
  | typed => exact if_neg (not_not_intro hb)

theorem copy_roomy {count : Nat} (h : queue.Sound) (hb : buffer.length = queue.layout.payloadSize) :
    queue.copy count buffer =
      match queue.history[count]? with
      | none => (.ok none, buffer)
      | some payload =>
        (.ok (some ⟨payload.length, count + 1⟩), payload ++ buffer.drop payload.length) := by
  have hroom := checkRoom_roomy hb
  cases hc : queue.history[count]? with
  | none => exact copy_none hroom hc
  | some payload =>
      have hfits := h.length_fits (List.mem_of_getElem? hc)
      apply copy_some hroom hc
      omega

theorem receive_none (hb : buffer.length = queue.layout.payloadSize)
    (hc : queue.history[queue.read]? = none) :
    queue.receive buffer = ((.ok none, buffer), queue) := by
  simp only [receive, readOldest, copy_none (checkRoom_roomy hb) hc]

theorem receive_some (h : queue.Sound) (hb : buffer.length = queue.layout.payloadSize)
    (hc : queue.history[queue.read]? = some payload) :
    queue.receive buffer =
      ((.ok (some ⟨payload.length, queue.read + 1⟩), payload ++ buffer.drop payload.length),
        queue.advance 1) := by
  simp only [receive, readOldest, copy_roomy h hb, hc]

end Queue

namespace Storage

variable {α ε : Type} {storage : Storage} {queue : Queue} {name : String} {log : Log}
  {payload buffer : Bytes}

theorem requireLive_live (hlive : storage.released = false) :
    (requireLive name).exec storage log = ((.ok (), storage), log) := by
  simp only [requireLive, exec_bind, exec_get, hlive, Bool.false_eq_true, if_false, exec_pure]

theorem requireLive_released (hreleased : storage.released = true) :
    (requireLive name).exec storage log =
      ((.error (.refused (.notFound name)), storage), log) := by
  simp only [requireLive, exec_bind, exec_get, hreleased, if_true, exec_refuse]

theorem publish_released (hreleased : storage.released = true) :
    (publish name payload).exec storage log =
      ((.error (.refused (.notFound name)), storage), log) := by
  simp only [publish, exec_bind, requireLive_released hreleased]

theorem readRing_released {read : Op (Reading Ring) (Option Delivery)}
    {step : Counters → Counters} (hreleased : storage.released = true) :
    (readRing name read step).exec ⟨storage, buffer⟩ log =
      ((.error (.refused (.notFound name)), ⟨storage, buffer⟩), log) := by
  simp only [readRing, exec_bind, exec_onSource, requireLive_released hreleased]

theorem slotImage_released (hreleased : storage.released = true) (epoch : Nat) :
    (slotImage name epoch).exec storage log =
      ((.error (.refused (.notFound name)), storage), log) := by
  simp only [slotImage, exec_bind, requireLive_released hreleased]

theorem roomyBuffer_exec :
    roomyBuffer.exec storage log =
      ((.ok (Bytes.zeros storage.ring.layout.payloadSize), storage), log) := rfl

theorem receivePayload_released (hreleased : storage.released = true) :
    (receivePayload name).exec storage log =
      ((.error (.refused (.notFound name)), storage), log) := by
  simp only [receivePayload, exec_bind, roomyBuffer_exec, exec_lending, receive,
    readRing_released hreleased, Except.map]

theorem latestPayload_released (hreleased : storage.released = true) :
    (latestPayload name).exec storage log =
      ((.error (.refused (.notFound name)), storage), log) := by
  simp only [latestPayload, exec_bind, roomyBuffer_exec, exec_lending, readLatest,
    readRing_released hreleased, Except.map]

theorem drainUpTo_released (hreleased : storage.released = true) (bound : Nat)
    (taken : List (Bytes × Nat)) :
    (drainUpTo name bound taken).exec ⟨storage, buffer⟩ log =
      ((.error (.refused (.notFound name)), ⟨storage, buffer⟩), log) := by
  rw [drainUpTo]
  simp only [exec_bind, receive, readRing_released hreleased]

theorem drain_released (hreleased : storage.released = true) :
    (drain name).exec storage log =
      ((.error (.refused (.notFound name)), storage), log) := by
  simp only [drain, exec_bind, exec_get, roomyBuffer_exec, exec_lending,
    drainUpTo_released hreleased, Except.map]

theorem publish_refused {reason : Refusal} (hlive : storage.released = false)
    (h : storage.ring.Holds queue)
    (hr : queue.layout.checkPayload payload.length = .error reason) :
    (publish name payload).exec storage log =
      ((.error (.refused reason),
        { storage with counters := storage.counters.countRejected }),
        log.push (.publishRejected name reason)) := by
  have hring := h.publish_refused log hr
  simp only [publish, exec_bind, requireLive_live hlive, exec_attempt, onRing, exec_within, hring,
    count, exec_modify, exec_log, exec_refuse]

def countAccepted (overwritten : Nat) (counters : Counters) : Counters :=
  if 0 < overwritten then counters.countPublished.countOverwritten overwritten
  else counters.countPublished

theorem publish_accepted (hlive : storage.released = false) (h : storage.ring.Holds queue)
    (hp : queue.layout.checkPayload payload.length = .ok ())
    (hfew : queue.history.length + 1 < 2 ^ 63) (name : String) (log : Log) :
    ∃ ring' log', (publish name payload).exec storage log =
        ((.ok (queue.history.length + 1),
          { storage with
            ring := ring'
            counters := countAccepted ((queue.append payload).read - queue.read)
              storage.counters }), log') ∧
      ring'.Holds (queue.append payload) := by
  obtain ⟨ring', hring, hholds⟩ := h.publish_accepted log hp hfew
  refine ⟨ring', ?_⟩
  simp only [publish, exec_bind, requireLive_live hlive, exec_attempt, onRing, exec_within, hring,
    count, exec_modify, countAccepted]
  by_cases hlost : 0 < (queue.append payload).read - queue.read
  · simp only [hlost, if_true, exec_bind, exec_modify, exec_log, exec_pure]
    exact ⟨_, rfl, hholds⟩
  · simp only [hlost, if_false, exec_pure]
    exact ⟨_, rfl, hholds⟩

/-- When the epochs have run out, a publish breaks off; it may have dropped an unread entry. -/
theorem publish_exhausted (hlive : storage.released = false) (h : storage.ring.Holds queue)
    (hp : queue.layout.checkPayload payload.length = .ok ())
    (hlast : queue.history.length + 1 = 2 ^ 63) (name : String) (log : Log) :
    (publish name payload).exec storage log =
      ((.error (.fault .overflow),
        { storage with ring := storage.ring.pass (queue.append payload).read }), log) := by
  have hring := h.publish_exhausted log hp hlast
  simp only [publish, exec_bind, requireLive_live hlive, exec_attempt, onRing, exec_within, hring,
    exec_fail]

/-- All that can become of a publish. -/
inductive Publishes (queue : Queue) (storage : Storage) (name : String) (payload : Bytes) (log : Log) :
    (Except Failure Nat × Storage) × Log → Prop
  | withdrawn (released : storage.released = true) :
      Publishes queue storage name payload log
        ((.error (.refused (.notFound name)), storage), log)
  | rejected {reason : Refusal} (live : storage.released = false)
      (misfit : queue.layout.checkPayload payload.length = .error reason) :
      Publishes queue storage name payload log
        ((.error (.refused reason),
          { storage with counters := storage.counters.countRejected }),
          log.push (.publishRejected name reason))
  | accepted {ring' : Ring} {log' : Log} (live : storage.released = false)
      (fits : queue.layout.checkPayload payload.length = .ok ())
      (room : queue.history.length + 1 < 2 ^ 63) (holds : ring'.Holds (queue.append payload)) :
      Publishes queue storage name payload log
        ((.ok (queue.history.length + 1),
          { storage with
            ring := ring'
            counters := countAccepted ((queue.append payload).read - queue.read)
              storage.counters }), log')
  | exhausted (live : storage.released = false)
      (fits : queue.layout.checkPayload payload.length = .ok ())
      (last : queue.history.length + 1 = 2 ^ 63) :
      Publishes queue storage name payload log
        ((.error (.fault .overflow),
          { storage with ring := storage.ring.pass (queue.append payload).read }), log)

theorem publishes (h : storage.ring.Holds queue) (hfew : queue.history.length < 2 ^ 63)
    (name : String) (payload : Bytes) (log : Log) :
    Publishes queue storage name payload log ((publish name payload).exec storage log) := by
  cases hr : storage.released with
  | true =>
      rw [publish_released hr]
      exact .withdrawn hr
  | false =>
      cases hp : queue.layout.checkPayload payload.length with
      | error reason =>
          rw [publish_refused hr h hp]
          exact .rejected hr hp
      | ok =>
          by_cases hroom : queue.history.length + 1 < 2 ^ 63
          · obtain ⟨ring', log', hexec, hholds⟩ := publish_accepted hr h hp hroom name log
            rw [hexec]
            exact .accepted hr hp hroom hholds
          · have hlast : queue.history.length + 1 = 2 ^ 63 := by omega
            rw [publish_exhausted hr h hp hlast]
            exact .exhausted hr hp hlast

theorem publish_unrefused (hlive : storage.released = false)
    (hp : storage.ring.layout.checkPayload payload.length = .ok ()) (name : String) (log : Log)
    (reason : Refusal) :
    ((publish name payload).exec storage log).1.1 ≠ .error (.refused reason) := by
  have hring := Ring.publish_unrefused log hp
  simp only [publish, exec_bind, requireLive_live hlive, exec_attempt, onRing, exec_within]
  generalize (Ring.publish payload).exec storage.ring log = result at hring ⊢
  obtain ⟨⟨(refusal | fault) | published, ring'⟩, log'⟩ := result
  · exact absurd rfl (hring refusal)
  · simp only [exec_fail, ne_eq, Except.error.injEq, reduceCtorEq, not_false_eq_true]
  · simp only [count, exec_bind, exec_modify]
    split <;> simp [exec_bind, exec_map, Except.map]

/-- The counters after a read, which counts only what it found. -/
def tally (step : Counters → Counters) (outcome : Except ε (Option Delivery))
    (counters : Counters) : Counters :=
  match outcome with
  | .ok (some _) => step counters
  | _ => counters

theorem readRing_exec {read : Op (Reading Ring) (Option Delivery)} {step : Counters → Counters}
    {outcome : Except Refusal (Option Delivery)} {ring' : Ring} {buffer' : Bytes}
    (hlive : storage.released = false)
    (hread : read.exec ⟨storage.ring, buffer⟩ log =
      ((outcome.mapError .refused, ⟨ring', buffer'⟩), log)) :
    (readRing name read step).exec ⟨storage, buffer⟩ log =
      ((outcome.mapError .refused,
        ⟨{ storage with ring := ring', counters := tally step outcome storage.counters },
          buffer'⟩), log) := by
  simp only [readRing, exec_bind, exec_onSource, requireLive_live hlive, onReadingRing, exec_within,
    hread]
  cases outcome with
  | error reason => rfl
  | ok received => cases received <;> rfl

def moved (storage : Storage) (passed : Nat) (counters : Counters) : Storage :=
  { storage with ring := storage.ring.pass passed, counters }

theorem receive_exec (hlive : storage.released = false) (h : storage.ring.Holds queue)
    (hfew : queue.history.length < 2 ^ 63) :
    (receive name).exec ⟨storage, buffer⟩ log =
      (((queue.receive buffer).1.1.mapError .refused,
        ⟨storage.moved (queue.receive buffer).2.read
          (tally Counters.countConsumed (queue.receive buffer).1.1 storage.counters),
          (queue.receive buffer).1.2⟩), log) :=
  readRing_exec hlive (h.receive_exec hfew)

theorem readLatest_exec (hlive : storage.released = false) (h : storage.ring.Holds queue)
    (hfew : queue.history.length < 2 ^ 63) :
    (readLatest name).exec ⟨storage, buffer⟩ log =
      (((queue.readLatest buffer).1.mapError .refused,
        ⟨{ storage with
            counters := tally Counters.countPeeked (queue.readLatest buffer).1 storage.counters },
          (queue.readLatest buffer).2⟩), log) :=
  readRing_exec hlive (h.readLatest_exec hfew)

theorem length_roomy (h : storage.ring.Holds queue) :
    (Bytes.zeros storage.ring.layout.payloadSize).length = queue.layout.payloadSize := by
  rw [Bytes.length_zeros, h.layout_eq]

theorem moved_self (h : storage.ring.Holds queue) :
    storage.moved queue.read storage.counters = storage := by
  rw [moved, h.pass_read]

theorem receive_exec_none (hlive : storage.released = false) (h : storage.ring.Holds queue)
    (hfew : queue.history.length < 2 ^ 63) (hb : buffer.length = queue.layout.payloadSize)
    (hc : queue.history[queue.read]? = none) :
    (receive name).exec ⟨storage, buffer⟩ log = ((.ok none, ⟨storage, buffer⟩), log) := by
  rw [receive_exec hlive h hfew, Queue.receive_none hb hc]
  simp only [Except.mapError, tally, moved_self h]

theorem receive_exec_some (hlive : storage.released = false) (h : storage.ring.Holds queue)
    (hfew : queue.history.length < 2 ^ 63) (hb : buffer.length = queue.layout.payloadSize)
    (hc : queue.history[queue.read]? = some payload) (name : String) (log : Log) :
    (receive name).exec ⟨storage, buffer⟩ log =
      ((.ok (some ⟨payload.length, queue.read + 1⟩),
        ⟨storage.moved (queue.read + 1) storage.counters.countConsumed,
          payload ++ buffer.drop payload.length⟩), log) := by
  rw [receive_exec hlive h hfew, Queue.receive_some h.sound hb hc]
  rfl

theorem moved_holds {count : Nat} (h : storage.ring.Holds queue) (counters : Counters)
    (hc : queue.read + count ≤ queue.history.length) :
    (storage.moved (queue.read + count) counters).ring.Holds (queue.advance count) :=
  h.pass_holds hc

theorem entryIn_append (payload rest : Bytes) (epoch : Nat) :
    entryIn (payload ++ rest) ⟨payload.length, epoch⟩ = (payload, epoch) := by
  simp only [entryIn, List.take_left]

theorem receivePayload_exec (hlive : storage.released = false) (h : storage.ring.Holds queue)
    (hfew : queue.history.length < 2 ^ 63) (name : String) (log : Log) :
    (receivePayload name).exec storage log =
      match queue.history[queue.read]? with
      | none => ((.ok none, storage), log)
      | some payload => ((.ok (some (payload, queue.read + 1)),
          storage.moved (queue.read + 1) storage.counters.countConsumed), log) := by
  have hb := length_roomy h
  simp only [receivePayload, exec_bind, roomyBuffer_exec, exec_lending]
  cases hc : queue.history[queue.read]? with
  | none =>
      simp only [receive_exec_none hlive h hfew hb hc, Except.map, exec_pure, Option.map_none]
  | some payload =>
      simp only [receive_exec_some hlive h hfew hb hc, Except.map, exec_pure, Option.map_some,
        entryIn_append]

theorem latestPayload_exec (hlive : storage.released = false) (h : storage.ring.Holds queue)
    (hfew : queue.history.length < 2 ^ 63) (name : String) (log : Log) :
    (latestPayload name).exec storage log =
      match queue.history[queue.history.length - 1]? with
      | none => ((.ok none, storage), log)
      | some payload => ((.ok (some (payload, queue.history.length - 1 + 1)),
          { storage with counters := storage.counters.countPeeked }), log) := by
  have hb := length_roomy h
  simp only [latestPayload, exec_bind, roomyBuffer_exec, exec_lending,
    readLatest_exec hlive h hfew, Queue.readLatest, Queue.copy_roomy h.sound hb]
  cases hc : queue.history[queue.history.length - 1]? with
  | none => simp only [Except.mapError, Except.map, tally, exec_pure, Option.map_none]
  | some payload =>
      simp only [Except.mapError, Except.map, tally, exec_pure, Option.map_some, entryIn_append]

theorem drainUpTo_none (bound : Nat) (hlive : storage.released = false)
    (h : storage.ring.Holds queue) (hfew : queue.history.length < 2 ^ 63)
    (hb : buffer.length = queue.layout.payloadSize) (hc : queue.history[queue.read]? = none)
    (taken : List (Bytes × Nat)) :
    (drainUpTo name bound taken).exec ⟨storage, buffer⟩ log =
      ((.ok taken.reverse, ⟨storage, buffer⟩), log) := by
  unfold drainUpTo
  rw [exec_bind, receive_exec_none hlive h hfew hb hc]
  exact exec_pure _ _ _

theorem drainUpTo_exec {bound : Nat} (hlive : storage.released = false)
    (h : storage.ring.Holds queue) (hfew : queue.history.length < 2 ^ 63)
    (hb : buffer.length = queue.layout.payloadSize) (hbound : queue.unread.length ≤ bound)
    (taken : List (Bytes × Nat)) (name : String) (log : Log) :
    ∃ buffer', (drainUpTo name bound taken).exec ⟨storage, buffer⟩ log =
      ((.ok (taken.reverse ++ queue.unread),
        ⟨storage.moved (queue.read + queue.unread.length)
          (Counters.countConsumed^[queue.unread.length] storage.counters), buffer'⟩), log) := by
  induction bound generalizing storage queue buffer taken with
  | zero =>
      have hc : queue.history[queue.read]? = none := by
        rw [queue.length_unread] at hbound
        apply List.getElem?_eq_none_iff.mpr
        omega
      refine ⟨buffer, ?_⟩
      rw [drainUpTo_none 0 hlive h hfew hb hc, Queue.unread_eq_nil hc, List.append_nil,
        List.length_nil, Nat.add_zero, Function.iterate_zero_apply, moved_self h]
  | succ bound ih =>
      cases hc : queue.history[queue.read]? with
      | none =>
          refine ⟨buffer, ?_⟩
          rw [drainUpTo_none _ hlive h hfew hb hc, Queue.unread_eq_nil hc, List.append_nil,
            List.length_nil, Nat.add_zero, Function.iterate_zero_apply, moved_self h]
      | some payload =>
          obtain ⟨hlt, -⟩ := List.getElem?_eq_some_iff.mp hc
          have hunread := Queue.unread_eq_cons hc
          -- What is left after one read holds the queue without its oldest entry, and the buffer is
          -- as long as before; so the rest is drained as well, for one unit of the bound less.
          let storage' := storage.moved (queue.read + 1) storage.counters.countConsumed
          have hlive' : storage'.released = false := hlive
          have hnext : storage'.ring.Holds (queue.advance 1) := moved_holds h _ hlt
          have hfits := h.sound.length_fits (List.mem_of_getElem? hc)
          have hb' : (payload ++ buffer.drop payload.length).length =
              (queue.advance 1).layout.payloadSize := by
            rw [List.length_append, List.length_drop]
            exact (Nat.add_sub_cancel' (by omega)).trans hb
          rw [hunread, List.length_cons, Nat.add_le_add_iff_right] at hbound
          obtain ⟨buffer', hrest⟩ :=
            ih hlive' hnext hfew hb' hbound ((payload, queue.read + 1) :: taken)
          refine ⟨buffer', ?_⟩
          rw [drainUpTo]
          simp only [exec_bind, receive_exec_some hlive h hfew hb hc, exec_get, entryIn_append]
          have hread : queue.read + ((queue.advance 1).unread.length + 1) =
              (queue.advance 1).read + (queue.advance 1).unread.length := by
            simp only [Queue.advance]
            omega
          rw [hrest, hunread, List.length_cons, hread, List.reverse_cons, List.append_assoc]
          rfl

theorem drain_exec (hlive : storage.released = false) (h : storage.ring.Holds queue)
    (hfew : queue.history.length < 2 ^ 63) (name : String) (log : Log) :
    (drain name).exec storage log =
      ((.ok queue.unread, storage.moved queue.history.length
        (Counters.countConsumed^[queue.unread.length] storage.counters)), log) := by
  have hlength : storage.ring.length = queue.unread.length := by
    rw [h.length_eq, queue.length_unread]
  have hend := h.sound.read_add_unread
  obtain ⟨buffer', hdrain⟩ := drainUpTo_exec hlive h hfew (length_roomy h)
    (Nat.le_of_eq hlength.symm) [] name log
  rw [hend] at hdrain
  simp only [drain, exec_bind, exec_get, roomyBuffer_exec, exec_lending, hdrain, Except.map,
    exec_pure]
  rfl

section Message

variable {shape : Shape} {message : shape.Value}

theorem checkShape_fit (hsize : shape.size = storage.ring.layout.payloadSize) :
    (checkShape shape).exec storage log = ((.ok (), storage), log) := by
  simp only [checkShape, exec_bind, exec_get, hsize, ne_eq, not_true, if_false, exec_pure]

theorem checkShape_misfit (hsize : shape.size ≠ storage.ring.layout.payloadSize) :
    (checkShape shape).exec storage log =
      ((.error (.refused (.sizeMismatch storage.ring.layout.payloadSize shape.size)), storage),
        log) := by
  simp only [checkShape, exec_bind, exec_get, ne_eq, hsize, not_false_eq_true, if_true, exec_refuse]

theorem publishMessage_fit (hsize : shape.size = storage.ring.layout.payloadSize) :
    (publishMessage name shape message).exec storage log =
      (publish name (shape.bytes message)).exec storage log := by
  have hsolid : shape.Solid := by
    apply Shape.solid_of_size_pos
    rw [hsize]
    exact storage.ring.layout.payloadSize_pos
  simp only [publishMessage, exec_bind, checkShape_fit hsize, Shape.encode_zeros hsolid,
    exec_liftFault, Except.mapError]

theorem publishMessage_misfit (hsize : shape.size ≠ storage.ring.layout.payloadSize) :
    (publishMessage name shape message).exec storage log =
      ((.error (.refused (.sizeMismatch storage.ring.layout.payloadSize shape.size)), storage),
        log) := by
  simp only [publishMessage, exec_bind, checkShape_misfit hsize]

theorem readMessage_misfit {read : Op (Reading Storage) (Option Delivery)}
    (hsize : shape.size ≠ storage.ring.layout.payloadSize) :
    (readMessage shape read).exec storage log =
      ((.error (.refused (.sizeMismatch storage.ring.layout.payloadSize shape.size)), storage),
        log) := by
  simp only [readMessage, exec_bind, checkShape_misfit hsize]

section Read

variable {read : Op (Reading Storage) (Option Delivery)} {storage' : Storage} {source : Bytes}
  {received : Delivery} {failure : Failure} {log' : Log}

theorem readMessage_error (hsize : shape.size = storage.ring.layout.payloadSize)
    (hread : read.exec ⟨storage, Bytes.zeros shape.size⟩ log =
      ((.error failure, ⟨storage', source⟩), log')) :
    (readMessage shape read).exec storage log = ((.error failure, storage'), log') := by
  simp only [readMessage, exec_bind, checkShape_fit hsize, exec_lending, hread, Except.map]

theorem readMessage_none (hsize : shape.size = storage.ring.layout.payloadSize)
    (hread : read.exec ⟨storage, Bytes.zeros shape.size⟩ log =
      ((.ok none, ⟨storage', source⟩), log')) :
    (readMessage shape read).exec storage log = ((.ok none, storage'), log') := by
  simp only [readMessage, exec_bind, checkShape_fit hsize, exec_lending, hread, Except.map,
    exec_pure]

theorem readMessage_some (hsize : shape.size = storage.ring.layout.payloadSize)
    (hread : read.exec ⟨storage, Bytes.zeros shape.size⟩ log =
      ((.ok (some received), ⟨storage', source⟩), log'))
    (hlong : shape.size ≤ source.length) :
    ∃ message : shape.Value, shape.bytes message = source.take shape.size ∧
      (readMessage shape read).exec storage log =
        ((.ok (some (message, received.epoch)), storage'), log') := by
  obtain ⟨message, hdecode, hbytes⟩ := shape.bytes_decode hlong
  refine ⟨message, hbytes, ?_⟩
  simp only [readMessage, exec_bind, checkShape_fit hsize, exec_lending, hread, Except.map,
    hdecode, exec_liftFault, Except.mapError, exec_pure]

end Read

theorem length_zeros_fit (h : storage.ring.Holds queue)
    (hsize : shape.size = storage.ring.layout.payloadSize) :
    (Bytes.zeros shape.size).length = queue.layout.payloadSize := by
  rw [hsize, length_roomy h]

theorem receiveMessage_released (hreleased : storage.released = true) (name : String)
    (shape : Shape) (log : Log) :
    ∃ failure, (receiveMessage name shape).exec storage log =
      ((.error failure, storage), log) := by
  by_cases hsize : shape.size = storage.ring.layout.payloadSize
  · exact ⟨_, readMessage_error hsize (readRing_released hreleased)⟩
  · exact ⟨_, readMessage_misfit hsize⟩

theorem receiveMessage_none (hlive : storage.released = false) (h : storage.ring.Holds queue)
    (hfew : queue.history.length < 2 ^ 63)
    (hsize : shape.size = storage.ring.layout.payloadSize)
    (hc : queue.history[queue.read]? = none) :
    (receiveMessage name shape).exec storage log = ((.ok none, storage), log) :=
  readMessage_none hsize (receive_exec_none hlive h hfew (length_zeros_fit h hsize) hc)

theorem receiveMessage_some (hlive : storage.released = false) (h : storage.ring.Holds queue)
    (hfew : queue.history.length < 2 ^ 63) (hkind : queue.layout.kind = .typed)
    (hsize : shape.size = storage.ring.layout.payloadSize)
    (hc : queue.history[queue.read]? = some payload) (name : String) (log : Log) :
    ∃ message : shape.Value, shape.bytes message = payload ∧
      (receiveMessage name shape).exec storage log =
        ((.ok (some (message, queue.read + 1)),
          storage.moved (queue.read + 1) storage.counters.countConsumed), log) := by
  have hb := length_zeros_fit h hsize
  have hpayload : payload.length = shape.size := by
    rw [← Bytes.length_zeros shape.size, hb]
    exact h.sound.length_typed hkind (List.mem_of_getElem? hc)
  have hread := receive_exec_some hlive h hfew hb hc name log
  have hlong : shape.size ≤ (payload ++ (Bytes.zeros shape.size).drop payload.length).length := by
    rw [List.length_append]
    omega
  obtain ⟨message, hbytes, hexec⟩ := readMessage_some hsize hread hlong
  refine ⟨message, ?_, hexec⟩
  rw [hbytes, ← hpayload, List.take_left]

end Message

end Storage

end TopicBus
