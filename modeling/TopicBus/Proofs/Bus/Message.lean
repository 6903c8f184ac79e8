import TopicBus.Proofs.Bus.Trace
import TopicBus.Proofs.Message.Laws

namespace TopicBus

open Op

variable {α : Type} {bus : Bus} {storage : Storage} {queue : Queue} {shape : Shape} {index : Nat}
  {name : String} {log : Log}

def Bus.RefusesSize (bus : Bus) (expected : Nat) (shape : Shape) (op : Op Bus α) : Prop :=
  ∀ log, op.exec bus log = ((.error (.refused (.sizeMismatch expected shape.size)), bus), log)

structure Topic.Misfits (topic : Topic .typed) (bus : Bus) (expected : Nat) (shape : Shape) :
    Prop where
  publishMessage : ∀ message, bus.RefusesSize expected shape (topic.publishMessage shape message)
  publisher : ∀ message,
    bus.RefusesSize expected shape (Publisher.publishMessage ⟨topic⟩ shape message)
  receiveMessage : bus.RefusesSize expected shape (topic.receiveMessage shape)
  latestMessage : bus.RefusesSize expected shape (topic.latestMessage shape)
  subscriber : ∀ mark, bus.RefusesSize expected shape (Subscriber.receiveMessage ⟨topic, mark⟩ shape)

theorem Topic.misfits (topic : Topic .typed) (h : bus.storages[topic.storage]? = some storage)
    (hsize : shape.size ≠ storage.ring.layout.payloadSize) :
    topic.Misfits bus storage.ring.layout.payloadSize shape where
  publishMessage _ _ := topic.access_still h (Storage.publishMessage_misfit hsize)
  publisher _ _ := topic.access_still h (Storage.publishMessage_misfit hsize)
  receiveMessage _ := topic.access_still h (Storage.readMessage_misfit hsize)
  latestMessage _ := topic.access_still h (Storage.readMessage_misfit hsize)
  subscriber mark log := by
    have hreceive : (topic.receiveMessage shape).exec bus log = _ :=
      topic.access_still h (Storage.readMessage_misfit hsize)
    rw [Subscriber.receiveMessage, exec_bind, hreceive]

namespace Storage

theorem readMessage_genuine {read : Op (Reading Storage) (Option Delivery)}
    {found : Bytes → Nat → Storage → Prop} (h : storage.ring.Holds queue)
    (htyped : queue.layout.kind = .typed)
    (hfinds : ∀ buffer, Finds found storage buffer (read.exec ⟨storage, buffer⟩ log).1.1
      (read.exec ⟨storage, buffer⟩ log).1.2)
    (hfound : ∀ payload epoch storage', found payload epoch storage' →
      0 < epoch ∧ queue.history[epoch - 1]? = some payload)
    {message : shape.Value} {epoch : Nat}
    (hread : ((readMessage shape read).exec storage log).1.1 = .ok (some (message, epoch))) :
    0 < epoch ∧ queue.history[epoch - 1]? = some (shape.bytes message) := by
  have htells : Tells found storage (.ofMessage shape) _ _ :=
    message_tells hfinds fun payload epoch storage' hentry => by
      rw [h.layout_eq]
      exact h.sound.length_typed htyped (List.mem_of_getElem? (hfound _ _ _ hentry).2)
  rw [hread] at htells
  generalize ((readMessage shape read).exec storage log).1.2 = storage' at htells
  cases htells with
  | nothing told => cases told
  | entry hentry told =>
      simp only [Receipt.ofMessage, Option.map_some, Option.toList_some, Receipt.mk.injEq,
        List.cons.injEq, Prod.mk.injEq, and_true, true_and] at told
      obtain ⟨rfl, rfl⟩ := told
      exact hfound _ _ _ hentry

variable (h : storage.ring.Holds queue) (hfew : queue.history.length < 2 ^ 63)
  (htyped : queue.layout.kind = .typed) {message : shape.Value} {epoch : Nat}

include h hfew htyped

theorem receiveMessage_genuine
    (hread : ((receiveMessage name shape).exec storage log).1.1 = .ok (some (message, epoch))) :
    0 < epoch ∧ queue.history[epoch - 1]? = some (shape.bytes message) := by
  refine readMessage_genuine h htyped (fun _ => receive_finds h hfew) ?_ hread
  rintro payload _ storage' ⟨hc, rfl, -⟩
  exact ⟨Nat.succ_pos _, hc⟩

theorem latestMessage_genuine
    (hread : ((latestMessage name shape).exec storage log).1.1 = .ok (some (message, epoch))) :
    0 < epoch ∧ queue.history[epoch - 1]? = some (shape.bytes message) := by
  refine readMessage_genuine h htyped (fun _ => readLatest_finds h hfew) ?_ hread
  rintro payload _ storage' ⟨hc, rfl, -⟩
  exact ⟨Nat.succ_pos _, hc⟩

end Storage

namespace Subscriber

variable (subscriber : Subscriber .typed) {entry : shape.Value × Nat}

theorem topic_receiveMessage
    (h : ((subscriber.receiveMessage shape).exec bus log).1.1 = .ok (some entry)) :
    ((subscriber.topic.receiveMessage shape).exec bus log).1.1 = .ok (some entry) := by
  obtain ⟨received, bus', log', hreceive, hnote⟩ := exec_bind_eq_ok h
  rw [hreceive]
  cases received with
  | none => exact hnote
  | some received =>
      obtain ⟨_, _, _, -, hreturn⟩ := exec_bind_eq_ok hnote
      exact hreturn

theorem accept_yields (found : Option (α × Nat)) :
    (subscriber.accept found).Yields fun accepted => ∀ entry, accepted = some entry →
      found = some entry := by
  cases found with
  | none => exact .pure fun _ h => h
  | some found =>
      refine .bind _ fun latest => ?_
      split
      · exact .bind _ fun _ => .pure fun _ h => h
      · refine .pure ?_
        rintro _ ⟨⟩

theorem topic_latestMessage (hstorage : bus.storages[subscriber.topic.storage]? = some storage)
    (h : ((subscriber.pollMessage shape).exec bus log).1.1 = .ok (some entry)) :
    ((subscriber.topic.latestMessage shape).exec bus log).1.1 = .ok (some entry) := by
  cases hmark : bus.seen[subscriber.mark]? with
  | none => simp [pollMessage, isBehind, latestSeen, exec_bind, hmark] at h
  | some seen =>
      rw [subscriber.pollMessage_exec hstorage hmark] at h
      split at h
      · obtain ⟨found, bus', log', hlatest, haccept⟩ := exec_bind_eq_ok h
        rw [hlatest, subscriber.accept_yields found _ _ _ haccept entry rfl]
      · cases h

end Subscriber

/-- Of an epoch of a topic, readers of messages are only ever told that it is this message. -/
structure Bus.Recalls (bus : Bus) (index : Nat) (message : shape.Value) (epoch : Nat) : Prop where
  receiveMessage : ∀ topic : Topic .typed, topic.storage = index → ∀ log found,
    ((topic.receiveMessage shape).exec bus log).1.1 = .ok (some (found, epoch)) → found = message
  latestMessage : ∀ topic : Topic .typed, topic.storage = index → ∀ log found,
    ((topic.latestMessage shape).exec bus log).1.1 = .ok (some (found, epoch)) → found = message
  subscriber : ∀ subscriber : Subscriber .typed, subscriber.topic.storage = index → ∀ log found,
    ((subscriber.receiveMessage shape).exec bus log).1.1 = .ok (some (found, epoch)) →
      found = message
  pollMessage : ∀ subscriber : Subscriber .typed, subscriber.topic.storage = index → ∀ log found,
    ((subscriber.pollMessage shape).exec bus log).1.1 = .ok (some (found, epoch)) → found = message

theorem Bus.recalls (hstorage : bus.storages[index]? = some storage)
    (h : storage.ring.Holds queue) (hfew : queue.history.length < 2 ^ 63)
    (htyped : queue.layout.kind = .typed) {message : shape.Value} {count : Nat}
    (hc : queue.history[count]? = some (shape.bytes message)) :
    bus.Recalls index message (count + 1) := by
  have hsame {found : shape.Value} (hfound : 0 < count + 1 ∧
      queue.history[count + 1 - 1]? = some (shape.bytes found)) : found = message :=
    Shape.bytes_injective (Option.some.inj (hfound.2.symm.trans hc))
  have hreceive (topic : Topic .typed) (hindex : topic.storage = index) (log : Log)
      (found : shape.Value) (hread : ((topic.receiveMessage shape).exec bus log).1.1 =
        .ok (some (found, count + 1))) : found = message := by
    subst hindex
    rw [Topic.receiveMessage, topic.access_exec hstorage] at hread
    exact hsame (Storage.receiveMessage_genuine h hfew htyped hread)
  have hlatest (topic : Topic .typed) (hindex : topic.storage = index) (log : Log)
      (found : shape.Value) (hread : ((topic.latestMessage shape).exec bus log).1.1 =
        .ok (some (found, count + 1))) : found = message := by
    subst hindex
    rw [Topic.latestMessage, topic.access_exec hstorage] at hread
    exact hsame (Storage.latestMessage_genuine h hfew htyped hread)
  refine ⟨hreceive, hlatest, ?_, ?_⟩
  · intro subscriber hindex log found hread
    exact hreceive _ hindex log found (subscriber.topic_receiveMessage hread)
  · intro subscriber hindex log found hread
    subst hindex
    exact hlatest _ rfl log found (subscriber.topic_latestMessage hstorage hread)

theorem Layout.checkPayload_bytes {layout : Layout} (htyped : layout.kind = .typed)
    (hsize : shape.size = layout.payloadSize) (message : shape.Value) :
    layout.checkPayload (shape.bytes message).length = .ok () := by
  simp only [checkPayload, htyped, shape.length_bytes, hsize, ne_eq, not_true, if_false]

/-- What becomes of a message: while there are epochs it gets the next one, and from then on
readers are told of no other message under that epoch. -/
structure Topic.Carries (topic : Topic .typed) (bus : Bus) (last : Nat) (message : shape.Value) :
    Prop where
  published : last + 1 < 2 ^ 63 → ∀ log,
    ((topic.publishMessage shape message).exec bus log).1.1 = .ok (last + 1)
  recalled : last + 1 < 2 ^ 63 → ∀ log events later,
    Bus.Run ((topic.publishMessage shape message).exec bus log).1.2 events later →
    later.Recalls topic.storage message (last + 1)
  exhausted : ¬last + 1 < 2 ^ 63 → ∀ log,
    ((topic.publishMessage shape message).exec bus log).1.1 = .error (.fault .overflow)

theorem Topic.carries (topic : Topic .typed) (hstorage : bus.storages[topic.storage]? = some storage)
    (h : storage.ring.Holds queue) (hfew : queue.history.length < 2 ^ 63)
    (hlive : storage.released = false) (htyped : queue.layout.kind = .typed)
    (hsize : shape.size = storage.ring.layout.payloadSize) (message : shape.Value) :
    topic.Carries bus storage.ring.lastEpoch message := by
  have hfits : queue.layout.checkPayload (shape.bytes message).length = .ok () := by
    rw [h.layout_eq] at hsize
    exact Layout.checkPayload_bytes htyped hsize message
  have hpublish (log : Log) : (topic.publishMessage shape message).exec bus log =
      (topic.publish (shape.bytes message)).exec bus log := by
    rw [publishMessage, topic.access_exec hstorage, Storage.publishMessage_fit hsize, publish,
      topic.access_exec hstorage]
  rw [h.lastEpoch_eq]
  constructor
  case published =>
    intro hroom log
    obtain ⟨ring', log', hexec, -⟩ :=
      Storage.publish_accepted hlive h hfits hroom topic.name log
    rw [hpublish, publish, topic.access_exec hstorage, hexec]
  case recalled =>
    intro hroom log events later hrun
    obtain ⟨ring', log', hexec, hnext⟩ :=
      Storage.publish_accepted hlive h hfits hroom topic.name log
    rw [hpublish, publish, topic.access_exec hstorage, hexec] at hrun
    obtain ⟨hlt, -⟩ := Array.getElem?_eq_some_iff.mp hstorage
    obtain ⟨storage', next, hstorage', hnext', hmore, hlater⟩ :=
      hrun.extends (Array.getElem?_setIfInBounds_self_of_lt hlt) hnext
        (by simpa [Queue.append] using hroom)
    have htyped' : next.layout.kind = .typed := by
      rw [hmore.layout_eq]
      exact htyped
    -- The message is the first entry behind the old history, and a history only grows.
    apply Bus.recalls hstorage' hnext' hlater htyped'
    rw [hmore.history_eq]
    simp [Queue.append]
  case exhausted =>
    intro hnone log
    have hlast : queue.history.length + 1 = 2 ^ 63 := by omega
    rw [hpublish, publish, topic.access_exec hstorage,
      Storage.publish_exhausted hlive h hfits hlast]

/-- A new topic for messages, and any run of calls through handles of it and of other topics, with
registries at work. A call with messages of another size is refused and changes nothing; in
particular one with elements of no bytes. While the topic is live it takes every message of its
size, and hands out the same under its epoch, however many others come behind. -/
theorem Topic.messages_survive {spec : TopicSpec} {id : TopicId} {before made : Bus}
    {log log' : Log} {topic : Topic .typed} {events : List Bus.Event}
    (hmade : (Topic.ofSpec .typed spec id).exec before log = ((.ok topic, made), log'))
    (hrun : Bus.Run made events bus) :
    ∃ storage, bus.storages[topic.storage]? = some storage ∧
      storage.ring.lastEpoch = (Bus.accepted topic.storage events).length ∧
      storage.ring.lastEpoch < 2 ^ 63 ∧
      (∀ shape : Shape, ¬shape.Solid → shape.size ≠ spec.payloadSize) ∧
      ∀ handle : Topic .typed, handle.storage = topic.storage → ∀ shape : Shape,
        (shape.size ≠ spec.payloadSize → handle.Misfits bus spec.payloadSize shape) ∧
        (shape.size = spec.payloadSize → storage.released = false → ∀ message : shape.Value,
          handle.Carries bus storage.ring.lastEpoch message) := by
  obtain ⟨storage, queue, hstorage, hqueue, hlayout, -, hhistory, hfew⟩ :=
    topic.storage_of_run hmade hrun
  obtain ⟨hkind, hsize⟩ := Layout.create_eq_ok hlayout
  have hlast : storage.ring.lastEpoch = queue.history.length := hqueue.lastEpoch_eq
  rw [← hqueue.layout_eq] at hsize
  refine ⟨storage, hstorage, ?_, hlast ▸ hfew, ?_, ?_⟩
  · rw [hlast, hhistory]
  · intro shape hhollow hfits
    apply hhollow
    apply Shape.solid_of_size_pos
    rw [hfits, ← hsize]
    exact storage.ring.layout.payloadSize_pos
  · rintro handle hhandle shape
    rw [← hhandle] at hstorage
    rw [← hsize]
    exact ⟨handle.misfits hstorage,
      fun hfits hlive => handle.carries hstorage hqueue hfew hlive hkind hfits⟩

/-- A float that is no number comes out bit by bit, in a topic of two slots that wraps around before
and after it was published. -/
theorem Topic.messages_survive_wrapped :
    let shape : Shape := .array (.scalar .float32) 1
    let message : shape.Value := (#v[0x7fc00001] : Vector (BitVec 32) 1)
    ∃ (topic : Topic .typed) (bus later : Bus) (events : List Bus.Event),
      topic.Misfits bus 4 (.array (.scalar .uint8) 0) ∧
      ((topic.publishMessage shape message).exec bus #[]).1.1 = .ok 4 ∧
      Bus.Run ((topic.publishMessage shape message).exec bus #[]).1.2 events later ∧
      (Bus.accepted topic.storage events).length = 1 ∧
      ((topic.receiveMessage shape).exec later #[]).1.1 = .ok (some (message, 4)) ∧
      later.Recalls topic.storage message 4 := by
  intro shape message
  let topic : Topic .typed := ⟨"a", .detached, 0⟩
  let made := (Topic.ofSpec .typed ⟨"a", .typed, 2, 4⟩ .detached).exec {} #[]
  have hmade : made = ((.ok topic, made.1.2), made.2) := rfl
  let publish (entry : Bytes) : Bus.Request := .publisher ⟨topic⟩ (.publish entry)
  let next (bus : Bus) (entry : Bytes) : Bus := ((publish entry).report.exec bus #[]).1.2
  let bus := next (next (next made.1.2 [1, 0, 0, 0]) [2, 0, 0, 0]) [3, 0, 0, 0]
  let after := ((topic.publishMessage shape message).exec bus #[]).1.2
  have hstep (bus : Bus) (entry : Bytes) (held : (publish entry).Held bus) :
      Bus.Step bus (.call (publish entry) ((publish entry).report.exec bus #[]).1.1)
        (next bus entry) := .call bus #[] (publish entry) held
  have hfirst := (Bus.Run.nil made.1.2).snoc (hstep _ [1, 0, 0, 0] (by decide +kernel))
  have hsecond := hfirst.snoc (hstep _ [2, 0, 0, 0] (by decide +kernel))
  have hthird := hsecond.snoc (hstep _ [3, 0, 0, 0] (by decide +kernel))
  have hlater := (Bus.Run.nil after).snoc (hstep _ [5, 0, 0, 0] (by decide +kernel))
  obtain ⟨storage, hstorage, hlast, -, -, hhandles⟩ := Topic.messages_survive hmade hthird
  have hthree : storage.ring.lastEpoch = 3 := hlast.trans (by decide +kernel)
  have hlive : (bus.storages[0]?).map (·.released) = some false := by decide +kernel
  obtain ⟨found, hfound, hreleased⟩ := Option.map_eq_some_iff.mp hlive
  obtain rfl : storage = found := Option.some.inj (hstorage.symm.trans hfound)
  have hcarries : topic.Carries bus storage.ring.lastEpoch message :=
    (hhandles topic rfl shape).2 (by decide) hreleased message
  rw [hthree] at hcarries
  have hfar : 3 + 1 < 2 ^ 63 := by decide
  have hpublished : ((topic.publishMessage shape message).exec bus #[]).1.1 = .ok 4 :=
    hcarries.published hfar #[]
  refine ⟨topic, bus, next after [5, 0, 0, 0], _, (hhandles topic rfl _).1 (by decide),
    hpublished, hlater, ?_, ?_, hcarries.recalled hfar #[] _ _ hlater⟩
  · decide +kernel
  · decide +kernel

end TopicBus
