import TopicBus.Proofs.Topic.Storage
import TopicBus.Publisher
import TopicBus.Subscriber

/-!
What operations on a bus leave alone. Storages and marks are only ever added; a read that does not
consume leaves every ring with the queue that it holds, and so does any operation through a handle
of another storage.
-/

namespace TopicBus

open Op

def Storage.Retains (before after : Storage) : Prop :=
  ∀ queue : Queue, queue.history.length < 2 ^ 63 →
    before.ring.Holds queue → after.ring.Holds queue

instance : IsPreorder Storage Storage.Retains where
  refl _ _ _ h := h
  trans _ _ _ hab hbc queue hfew h := hbc queue hfew (hab queue hfew h)

def Bus.Holds (bus : Bus) (index : Nat) (queue : Queue) : Prop :=
  ∃ storage, bus.storages[index]? = some storage ∧ storage.ring.Holds queue

/-- Nothing went missing, and every ring goes on holding its queue but for the one touched. -/
structure Bus.Apart (touched : Option Nat) (before after : Bus) : Prop where
  storages_le : before.storages.size ≤ after.storages.size
  seen_le : before.seen.size ≤ after.seen.size
  holds : ∀ (index : Nat) (queue : Queue), some index ≠ touched → queue.history.length < 2 ^ 63 →
    before.Holds index queue → after.Holds index queue

instance (touched : Option Nat) : IsPreorder Bus (Bus.Apart touched) where
  refl _ := ⟨Nat.le_refl _, Nat.le_refl _, fun _ _ _ _ h => h⟩
  trans _ _ _ hab hbc :=
    ⟨hab.storages_le.trans hbc.storages_le, hab.seen_le.trans hbc.seen_le,
      fun index queue hi hfew h => hbc.holds index queue hi hfew (hab.holds index queue hi hfew h)⟩

/-- Nothing went missing, and every storage went as the relation for its place allows. -/
structure Bus.Along (rel : Nat → Storage → Storage → Prop) (before after : Bus) : Prop where
  seen_le : before.seen.size ≤ after.seen.size
  storage : ∀ (index : Nat) (old : Storage), before.storages[index]? = some old →
    ∃ new, after.storages[index]? = some new ∧ rel index old new

instance {rel : Nat → Storage → Storage → Prop} [∀ index, IsPreorder Storage (rel index)] :
    IsPreorder Bus (Bus.Along rel) where
  refl _ := ⟨Nat.le_refl _, fun _ old h => ⟨old, h, refl old⟩⟩
  trans _ _ _ hab hbc := by
    refine ⟨hab.seen_le.trans hbc.seen_le, ?_⟩
    intro index old h
    obtain ⟨middle, hmiddle, hfirst⟩ := hab.storage index old h
    obtain ⟨new, hnew, hsecond⟩ := hbc.storage index middle hmiddle
    exact ⟨new, hnew, IsTrans.trans _ _ _ hfirst hsecond⟩

def Storage.Spared (touched : Option Nat) (index : Nat) (before after : Storage) : Prop :=
  some index ≠ touched → before.Retains after

instance (touched : Option Nat) (index : Nat) :
    IsPreorder Storage (Storage.Spared touched index) where
  refl storage _ := refl storage
  trans _ _ _ hab hbc hi := IsTrans.trans _ _ _ (hab hi) (hbc hi)

theorem Bus.Along.size_le {rel : Nat → Storage → Storage → Prop} {before after : Bus}
    (h : before.Along rel after) : before.storages.size ≤ after.storages.size := by
  by_contra hlt
  obtain ⟨new, hnew, -⟩ := h.storage after.storages.size _
    (Array.getElem?_eq_getElem (Nat.lt_of_not_le hlt))
  rw [Array.getElem?_eq_none (Nat.le_refl _)] at hnew
  cases hnew

theorem Bus.Along.apart {touched : Option Nat} {before after : Bus}
    (h : before.Along (Storage.Spared touched) after) : before.Apart touched after := by
  refine ⟨h.size_le, h.seen_le, ?_⟩
  rintro index queue hi hfew ⟨old, hold, hholds⟩
  obtain ⟨new, hnew, hspared⟩ := h.storage index old hold
  exact ⟨new, hnew, hspared hi queue hfew hholds⟩

variable {α : Type} {touched : Option Nat} {name : String}

namespace Storage

theorem Retains.of_ring_eq {before after : Storage} (h : after.ring = before.ring) :
    before.Retains after := by
  intro queue _ hholds
  rw [h]
  exact hholds

theorem readRing_retains {read : Op (Reading Ring) (Option Delivery)} {step : Counters → Counters}
    (hread : ∀ ring buffer log queue, queue.history.length < 2 ^ 63 → Ring.Holds ring queue →
      ∃ (outcome : Except Refusal (Option Delivery)) (buffer' : Bytes),
        read.exec ⟨ring, buffer⟩ log = ((outcome.mapError .refused, ⟨ring, buffer'⟩), log)) :
    (readRing name read step).Follows (InvImage Retains Reading.source) := by
  rintro ⟨storage, buffer⟩ log queue hfew h
  cases hr : storage.released with
  | true =>
      rw [readRing_released hr]
      exact h
  | false =>
      obtain ⟨outcome, buffer', hexec⟩ := hread storage.ring buffer log queue hfew h
      rw [readRing_exec hr hexec]
      exact h

theorem readLatest_retains : (readLatest name).Follows (InvImage Retains Reading.source) :=
  readRing_retains fun _ _ _ _ hfew h => ⟨_, _, h.readLatest_exec hfew⟩

theorem readOldest_retains : (readOldest name).Follows (InvImage Retains Reading.source) :=
  readRing_retains fun _ _ _ _ hfew h => ⟨_, _, h.readOldest_exec hfew⟩

theorem resetCounters_retains : resetCounters.Follows Retains := fun _ _ => .of_ring_eq rfl

theorem setReleased_retains : setReleased.Follows Retains := fun _ _ => .of_ring_eq rfl

section Follows

variable {way : Storage → Storage → Prop} [IsPreorder Storage way]

theorem requireLive_follows : (requireLive name).Follows way :=
  Follows.get.bind fun _ => .ite (.throw _) (.pure _)

theorem readRing_follows {read : Op (Reading Ring) (Option Delivery)} {step : Counters → Counters}
    (hread : (onReadingRing read).Follows (InvImage way Reading.source))
    (hcount : (count step).Follows way) :
    (readRing name read step).Follows (InvImage way Reading.source) := by
  refine (Follows.onSource requireLive_follows).bind fun _ => hread.bind fun received => ?_
  dsimp only
  split
  · exact hcount.onSource.bind fun _ => .pure _
  · exact .pure _

theorem roomyBuffer_follows : roomyBuffer.Follows way := Follows.get.bind fun _ => .pure _

theorem slotImage_follows (epoch : Nat) : (slotImage name epoch).Follows way :=
  requireLive_follows.bind fun _ => Follows.get.bind fun _ => .liftFault _

theorem latestPayload_follows (hread : (readLatest name).Follows (InvImage way Reading.source)) :
    (latestPayload name).Follows way :=
  roomyBuffer_follows.bind fun buffer => (Follows.lending buffer hread).bind fun _ => .pure _

theorem receivePayload_follows (hread : (receive name).Follows (InvImage way Reading.source)) :
    (receivePayload name).Follows way :=
  roomyBuffer_follows.bind fun buffer => (Follows.lending buffer hread).bind fun _ => .pure _

theorem drainUpTo_follows (hread : (receive name).Follows (InvImage way Reading.source))
    (bound : Nat) (taken : List (Bytes × Nat)) :
    (drainUpTo name bound taken).Follows (InvImage way Reading.source) := by
  induction bound generalizing taken with
  | zero =>
      rw [drainUpTo]
      refine hread.bind fun received => ?_
      cases received with
      | none => exact .pure _
      | some received => exact Follows.get.bind fun _ => .throw _
  | succ bound ih =>
      rw [drainUpTo]
      refine hread.bind fun received => ?_
      cases received with
      | none => exact .pure _
      | some received => exact Follows.get.bind fun _ => ih _

theorem drain_follows (hread : (receive name).Follows (InvImage way Reading.source)) :
    (drain name).Follows way := by
  refine Follows.get.bind fun storage => roomyBuffer_follows.bind fun buffer => ?_
  exact ((drainUpTo_follows hread _ _).lending buffer).bind fun _ => .pure _

theorem checkShape_follows (shape : Shape) : (checkShape shape).Follows way :=
  Follows.get.bind fun _ => .ite (.throw _) (.pure _)

theorem publishMessage_follows {shape : Shape} (message : shape.Value)
    (hpublish : ∀ payload, (publish name payload).Follows way) :
    (publishMessage name shape message).Follows way :=
  (checkShape_follows shape).bind fun _ => (Follows.liftFault _).bind fun _ => hpublish _

theorem readMessage_follows (shape : Shape) {read : Op (Reading Storage) (Option Delivery)}
    (hread : read.Follows (InvImage way Reading.source)) :
    (readMessage shape read).Follows way := by
  refine (checkShape_follows shape).bind fun _ => ?_
  refine (Follows.lending _ hread).bind fun ⟨received, buffer⟩ => ?_
  cases received with
  | none => exact .pure _
  | some received => exact (Follows.liftFault _).bind fun _ => .pure _

end Follows

end Storage

variable {rel : Nat → Storage → Storage → Prop} [∀ index, IsPreorder Storage (rel index)]

namespace Topic

variable {kind : Kind} (topic : Topic kind)

theorem access_exec {bus : Bus} {storage : Storage}
    (h : bus.storages[topic.storage]? = some storage) (op : Op Storage α) (log : Log) :
    (topic.access op).exec bus log =
      (((op.exec storage log).1.1, { bus with
        storages := bus.storages.setIfInBounds topic.storage (op.exec storage log).1.2 }),
        (op.exec storage log).2) := by
  simp only [access, exec, withinSome, h]
  rfl

theorem access_missing {bus : Bus} (h : bus.storages[topic.storage]? = none) (op : Op Storage α)
    (log : Log) :
    (topic.access op).exec bus log = ((.error (.fault .danglingHandle), bus), log) := by
  simp only [access, exec, withinSome, h]

theorem accessReading_exec {bus : Bus} {storage : Storage} (buffer : Bytes)
    (h : bus.storages[topic.storage]? = some storage) (op : Op (Reading Storage) α) (log : Log) :
    (topic.accessReading op).exec ⟨bus, buffer⟩ log =
      (((op.exec ⟨storage, buffer⟩ log).1.1, ⟨{ bus with
        storages := bus.storages.setIfInBounds topic.storage
          (op.exec ⟨storage, buffer⟩ log).1.2.source },
        (op.exec ⟨storage, buffer⟩ log).1.2.buffer⟩),
        (op.exec ⟨storage, buffer⟩ log).2) := by
  simp only [accessReading, exec, withinSome, h]
  rfl

theorem accessReading_missing {bus : Bus} (buffer : Bytes)
    (h : bus.storages[topic.storage]? = none) (op : Op (Reading Storage) α) (log : Log) :
    (topic.accessReading op).exec ⟨bus, buffer⟩ log =
      ((.error (.fault .danglingHandle), ⟨bus, buffer⟩), log) := by
  simp only [accessReading, exec, withinSome, h]
  rfl

theorem along_set {bus : Bus} {before after : Storage}
    (h : bus.storages[topic.storage]? = some before) (hrel : rel topic.storage before after) :
    bus.Along rel { bus with storages := bus.storages.setIfInBounds topic.storage after } := by
  refine ⟨Nat.le_refl _, ?_⟩
  intro index old hold
  by_cases hs : topic.storage = index
  · subst hs
    rw [h] at hold
    cases hold
    obtain ⟨hlt, -⟩ := Array.getElem?_eq_some_iff.mp h
    exact ⟨after, Array.getElem?_setIfInBounds_self_of_lt hlt, hrel⟩
  · exact ⟨old, (Array.getElem?_setIfInBounds_ne hs).trans hold, refl old⟩

theorem access_along {op : Op Storage α} (hop : op.Follows (rel topic.storage)) :
    (topic.access op).Follows (Bus.Along rel) := by
  intro bus log
  cases h : bus.storages[topic.storage]? with
  | none =>
      rw [topic.access_missing h]
      exact refl bus
  | some storage =>
      rw [topic.access_exec h]
      exact topic.along_set h (hop storage log)

theorem accessReading_along {op : Op (Reading Storage) α}
    (hop : op.Follows (InvImage (rel topic.storage) Reading.source)) :
    (topic.accessReading op).Follows (InvImage (Bus.Along rel) Reading.source) := by
  rintro ⟨bus, buffer⟩ log
  cases h : bus.storages[topic.storage]? with
  | none =>
      rw [topic.accessReading_missing buffer h]
      exact refl bus
  | some storage =>
      rw [topic.accessReading_exec buffer h]
      exact topic.along_set h (hop ⟨storage, buffer⟩ log)

theorem access_apart {op : Op Storage α}
    (hop : some topic.storage ≠ touched → op.Follows Storage.Retains) :
    (topic.access op).Follows (Bus.Apart touched) := by
  have hspared : op.Follows (Storage.Spared touched topic.storage) :=
    fun storage log hi => hop hi storage log
  exact (topic.access_along hspared).mono fun _ _ => Bus.Along.apart

theorem accessReading_apart {op : Op (Reading Storage) α}
    (hop : some topic.storage ≠ touched → op.Follows (InvImage Storage.Retains Reading.source)) :
    (topic.accessReading op).Follows (InvImage (Bus.Apart touched) Reading.source) := by
  have hspared : op.Follows (InvImage (Storage.Spared touched topic.storage) Reading.source) :=
    fun call log hi => hop hi call log
  exact (topic.accessReading_along hspared).mono fun _ _ => Bus.Along.apart

theorem setIfInBounds_self {bus : Bus} {storage : Storage}
    (h : bus.storages[topic.storage]? = some storage) :
    bus.storages.setIfInBounds topic.storage storage = bus.storages := by
  obtain ⟨hlt, hget⟩ := Array.getElem?_eq_some_iff.mp h
  rw [Array.setIfInBounds, dif_pos hlt, ← hget, Array.set_getElem_self]

theorem state_exec {bus : Bus} {storage : Storage}
    (h : bus.storages[topic.storage]? = some storage) (log : Log) :
    topic.state.exec bus log = ((.ok storage, bus), log) := by
  rw [state, topic.access_exec h, exec_get, topic.setIfInBounds_self h]

section Look

variable {bus : Bus} {storage : Storage} (h : bus.storages[topic.storage]? = some storage) (log : Log)

include h

theorem length_exec : topic.length.exec bus log = ((.ok storage.ring.length, bus), log) := by
  simp only [length, exec_bind, topic.state_exec h, exec_pure]

theorem lastEpoch_exec : topic.lastEpoch.exec bus log = ((.ok storage.ring.lastEpoch, bus), log) := by
  simp only [lastEpoch, exec_bind, topic.state_exec h, exec_pure]

theorem isReleased_exec : topic.isReleased.exec bus log = ((.ok storage.released, bus), log) := by
  simp only [isReleased, exec_bind, topic.state_exec h, exec_pure]

end Look

theorem state_same : topic.state.Follows (· = ·) := by
  intro bus log
  cases h : bus.storages[topic.storage]? with
  | none => rw [state, topic.access_missing h]
  | some storage => rw [topic.state_exec h]

theorem state_along : topic.state.Follows (Bus.Along rel) := topic.access_along .get

theorem lastEpoch_along : topic.lastEpoch.Follows (Bus.Along rel) :=
  topic.state_along.bind fun _ => .pure _

end Topic

def Bus.retire (bus : Bus) (index : Nat) : Bus :=
  { bus with
    storages := bus.storages.modify index fun storage => { storage with released := true } }

theorem Bus.getElem?_retire (bus : Bus) (index other : Nat) :
    (bus.retire index).storages[other]? =
      if index = other then
        (bus.storages[other]?).map fun storage => { storage with released := true }
      else bus.storages[other]? := Array.getElem?_modify

theorem Bus.size_retire (bus : Bus) (index : Nat) :
    (bus.retire index).storages.size = bus.storages.size := Array.size_modify

theorem Bus.setIfInBounds_eq_modify {α : Type} {entries : Array α} {index : Nat} {entry : α}
    (h : entries[index]? = some entry) (change : α → α) :
    entries.setIfInBounds index (change entry) = entries.modify index change := by
  apply Array.ext_getElem?
  intro other
  rw [Array.getElem?_modify, Array.getElem?_setIfInBounds]
  by_cases hi : index = other
  · subst hi
    obtain ⟨hlt, -⟩ := Array.getElem?_eq_some_iff.mp h
    rw [if_pos rfl, if_pos rfl, if_pos hlt, h]
    rfl
  · rw [if_neg hi, if_neg hi]

theorem Topic.setReleased_exec {kind : Kind} (topic : Topic kind) {bus : Bus} {storage : Storage}
    (h : bus.storages[topic.storage]? = some storage) (log : Log) :
    topic.setReleased.exec bus log = ((.ok (), bus.retire topic.storage), log) := by
  rw [setReleased, topic.access_exec h, Storage.setReleased, exec_modify,
    Bus.setIfInBounds_eq_modify h fun storage => { storage with released := true }]
  rfl

theorem Bus.addStorage_along (storage : Storage) :
    (addStorage storage).Follows (Bus.Along rel) := by
  intro bus log
  refine ⟨Nat.le_refl _, ?_⟩
  intro index old hold
  obtain ⟨hlt, -⟩ := Array.getElem?_eq_some_iff.mp hold
  refine ⟨old, ?_, refl old⟩
  show (bus.storages.push storage)[index]? = some old
  rw [Array.getElem?_push, if_neg (Nat.ne_of_lt hlt), hold]

theorem Bus.addSubscriber_along : addSubscriber.Follows (Bus.Along rel) := by
  intro bus log
  refine ⟨?_, fun _ old h => ⟨old, h, refl old⟩⟩
  show bus.seen.size ≤ (bus.seen.push 0).size
  rw [Array.size_push]
  exact Nat.le_succ _

/-- A topic of the kind can be made to the spec with that much memory, and this is its ring. -/
structure TopicSpec.Makes (spec : TopicSpec) (memory : Nat) (kind : Kind) (ring : Ring) :
    Prop where
  check_eq : spec.check = .ok ()
  kind_eq : spec.kind = kind
  layout_eq : Layout.create kind spec.payloadSize = .ok ring.layout
  ring_eq : Ring.create spec.capacity ring.layout memory = .ok ring

theorem Topic.ofSpec_exec {kind : Kind} {spec : TopicSpec} {ring : Ring} {bus : Bus}
    (h : spec.Makes bus.memory kind ring) (id : TopicId) (log : Log) :
    (Topic.ofSpec kind spec id).exec bus log =
      ((.ok ⟨spec.name, id, bus.storages.size⟩,
        { bus with storages := bus.storages.push { ring } }),
        log.push (.topicCreated kind spec.name spec.capacity ring.slotSize)) := by
  simp only [Topic.ofSpec, Topic.create, exec_bind, exec_liftRefusal, h.check_eq, h.layout_eq,
    h.ring_eq, h.kind_eq, Except.mapError, ne_eq, not_true, if_false, exec_log, Bus.addStorage,
    exec_get, exec_set, exec_pure]

theorem Topic.ofSpec_cases (kind : Kind) (spec : TopicSpec) (bus : Bus) :
    (∃ ring, spec.Makes bus.memory kind ring) ∨ ∃ reason, ∀ (id : TopicId) (log : Log),
      (Topic.ofSpec kind spec id).exec bus log = ((.error (.refused reason), bus), log) := by
  simp only [Topic.ofSpec, Topic.create, exec_bind, exec_liftRefusal]
  cases hs : spec.check with
  | error reason => exact .inr ⟨_, fun _ _ => rfl⟩
  | ok =>
      cases hl : Layout.create kind spec.payloadSize with
      | error reason => exact .inr ⟨_, fun _ _ => rfl⟩
      | ok layout =>
          by_cases hk : spec.kind = kind
          · simp only [Except.mapError, ne_eq, hk, not_true, if_false, exec_bind, exec_get,
              exec_liftRefusal]
            cases hr : Ring.create spec.capacity layout bus.memory with
            | error reason => exact .inr ⟨_, fun _ _ => rfl⟩
            | ok ring =>
                have hlayout : ring.layout = layout := (Ring.create_holds hr).layout_eq
                subst hlayout
                exact .inl ⟨ring, hs, hk, hl, hr⟩
          · right
            simp only [Except.mapError, ne_eq, hk, not_false_eq_true, if_true, exec_refuse]
            exact ⟨_, fun _ _ => rfl⟩

theorem Topic.ofSpec_eq_ok {kind : Kind} {spec : TopicSpec} {id : TopicId} {before made : Bus}
    {log log' : Log} {topic : Topic kind}
    (h : (Topic.ofSpec kind spec id).exec before log = ((.ok topic, made), log')) :
    ∃ ring, spec.Makes before.memory kind ring ∧ topic = ⟨spec.name, id, before.storages.size⟩ ∧
      made = { before with storages := before.storages.push { ring } } := by
  rcases Topic.ofSpec_cases kind spec before with ⟨ring, hmakes⟩ | ⟨failure, hfails⟩
  · rw [Topic.ofSpec_exec hmakes] at h
    simp only [Prod.mk.injEq, Except.ok.injEq] at h
    exact ⟨ring, hmakes, h.1.1.symm, h.1.2.symm⟩
  · rw [hfails] at h
    cases h

theorem Topic.ofSpec_along (kind : Kind) (spec : TopicSpec) (id : TopicId) :
    (Topic.ofSpec kind spec id).Follows (Bus.Along rel) := by
  refine (Follows.liftRefusal _).bind fun _ => (Follows.liftRefusal _).bind fun layout => ?_
  refine (Follows.liftRefusal _).bind fun _ => .ite (.throw _) (Follows.get.bind fun _ => ?_)
  refine (Follows.liftRefusal _).bind fun ring => (Follows.log _).bind fun _ => ?_
  exact (Bus.addStorage_along _).bind fun _ => .pure _

theorem Topic.ofSpec_apart (kind : Kind) (spec : TopicSpec) (id : TopicId) :
    (Topic.ofSpec kind spec id).Follows (Bus.Apart touched) :=
  (Topic.ofSpec_along kind spec id).mono fun _ _ => Bus.Along.apart

namespace Subscriber

variable {kind : Kind} (subscriber : Subscriber kind)

theorem latestSeen_along : subscriber.latestSeen.Follows (Bus.Along rel) := by
  refine Follows.get.bind fun bus => ?_
  cases bus.seen[subscriber.mark]? with
  | none => exact .throw _
  | some epoch => exact .pure _

theorem see_along (epoch : Nat) : (subscriber.see epoch).Follows (Bus.Along rel) := by
  refine subscriber.latestSeen_along.bind fun latest bus log => ?_
  refine ⟨?_, fun _ old h => ⟨old, h, refl old⟩⟩
  exact Nat.le_of_eq Array.size_setIfInBounds.symm

theorem seeAll_along : subscriber.seeAll.Follows (Bus.Along rel) :=
  subscriber.topic.lastEpoch_along.bind fun epoch => subscriber.see_along epoch

theorem isBehind_along : subscriber.isBehind.Follows (Bus.Along rel) :=
  subscriber.latestSeen_along.bind fun _ => subscriber.topic.lastEpoch_along.bind fun _ => .pure _

theorem missed_along : subscriber.missed.Follows (Bus.Along rel) :=
  subscriber.topic.lastEpoch_along.bind fun _ => subscriber.latestSeen_along.bind fun _ => .pure _

theorem accept_along (found : Option (α × Nat)) :
    (subscriber.accept found).Follows (Bus.Along rel) := by
  cases found with
  | none => exact .pure _
  | some found =>
      refine subscriber.latestSeen_along.bind fun _ => .ite ?_ (.pure _)
      exact (subscriber.see_along _).bind fun _ => .pure _

theorem receive_along (hop : subscriber.topic.receive.Follows
      (InvImage (Bus.Along rel) Reading.source)) :
    subscriber.receive.Follows (InvImage (Bus.Along rel) Reading.source) := by
  refine hop.bind fun received => ?_
  cases received with
  | none => exact .pure _
  | some received => exact (subscriber.see_along _).onSource.bind fun _ => .pure _

theorem drain_along (subscriber : Subscriber .byte)
    (hop : subscriber.topic.drain.Follows (Bus.Along rel)) :
    subscriber.drain.Follows (Bus.Along rel) := by
  refine hop.bind fun entries => ?_
  cases entries.getLast? with
  | none => exact .pure _
  | some entry => exact (subscriber.see_along _).bind fun _ => .pure _

theorem receiveMessage_along (subscriber : Subscriber .typed) (shape : Shape)
    (hop : (subscriber.topic.receiveMessage shape).Follows (Bus.Along rel)) :
    (subscriber.receiveMessage shape).Follows (Bus.Along rel) := by
  refine hop.bind fun received => ?_
  cases received with
  | none => exact .pure _
  | some received => exact (subscriber.see_along _).bind fun _ => .pure _

theorem poll_along (hop : subscriber.topic.readLatest.Follows
      (InvImage (Bus.Along rel) Reading.source)) :
    subscriber.poll.Follows (InvImage (Bus.Along rel) Reading.source) := by
  refine subscriber.isBehind_along.onSource.bind fun _ => .ite ?_ (.pure _)
  refine hop.bind fun received => ?_
  exact (subscriber.accept_along _).onSource.bind fun _ => .pure _

theorem pollMessage_along (subscriber : Subscriber .typed) (shape : Shape)
    (hop : (subscriber.topic.latestMessage shape).Follows (Bus.Along rel)) :
    (subscriber.pollMessage shape).Follows (Bus.Along rel) := by
  refine subscriber.isBehind_along.bind fun _ => .ite ?_ (.pure _)
  exact hop.bind fun found => subscriber.accept_along found

end Subscriber

end TopicBus
