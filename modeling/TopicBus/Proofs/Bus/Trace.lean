import TopicBus.Proofs.Bus.Poll
import TopicBus.Proofs.Bus.Sound
import TopicBus.Proofs.Bus.Turn
import TopicBus.Proofs.Registry.Request

/-!
Traces of a bus: calls through handles of every kind, and all that any registries do beside them.
For one storage each step is a turn of its queue, or a reset of its counters.
-/

namespace TopicBus

open Op

structure Storage.Steady (before after : Storage) : Prop where
  ring_eq : after.ring = before.ring
  counters_eq : after.counters = before.counters

instance : IsPreorder Storage Storage.Steady where
  refl _ := ⟨rfl, rfl⟩
  trans _ _ _ hab hbc :=
    ⟨hbc.ring_eq.trans hab.ring_eq, hbc.counters_eq.trans hab.counters_eq⟩

theorem Registry.keeps_steady : Registry.Keeps (Bus.Along fun _ => Storage.Steady) where
  ofSpec kind spec id := Topic.ofSpec_along kind spec id
  setReleased topic := topic.access_along fun _ _ => ⟨rfl, rfl⟩

def Bus.Request.resets : Bus.Request → Bool
  | topic _ request => request.resets
  | _ => false

namespace Bus

/-- A call and what its user was told, or something that a registry did. -/
inductive Event
  | call (request : Request) (outcome : Except Failure Report)
  | registry

inductive Step : Bus → Event → Bus → Prop
  | call (bus : Bus) (log : Log) (request : Request) (held : request.Held bus) :
      Step bus (.call request (request.report.exec bus log).1.1) (request.report.exec bus log).1.2
  | ask (bus : Bus) (log : Log) (registry : Registry) (request : Registry.Request) :
      Step bus .registry ((Registry.perform request).exec ⟨registry, bus⟩ log).1.2.bus
  | drop (bus : Bus) (log : Log) (registry : Registry) :
      Step bus .registry (Registry.releaseAll.exec ⟨registry, bus⟩ log).1.2.bus

inductive Run : Bus → List Event → Bus → Prop
  | nil (bus : Bus) : Run bus [] bus
  | snoc {before middle after : Bus} {events : List Event} {event : Event}
      (run : Run before events middle) (step : Step middle event after) :
      Run before (events ++ [event]) after

namespace Event

def outcome (index : Nat) : Event → Except Failure Report
  | call request outcome => if request.storage? = some index then outcome else .ok {}
  | registry => .ok {}

def report (index : Nat) (event : Event) : Report := .ofOutcome (event.outcome index)

def resets (index : Nat) : Event → Bool
  | call request _ => decide (request.storage? = some index) && request.resets
  | registry => false

def breaks (index : Nat) (event : Event) : Bool := isFault (event.outcome index)

end Event

def told (index : Nat) (events : List Event) : Report where
  accepted := events.flatMap fun event => (event.report index).accepted
  overwritten := events.flatMap fun event => (event.report index).overwritten
  delivered := events.flatMap fun event => (event.report index).delivered
  shown := events.flatMap fun event => (event.report index).shown

theorem told_snoc (index : Nat) (events : List Event) (event : Event) :
    told index (events ++ [event]) =
      { accepted := (told index events).accepted ++ (event.report index).accepted
        overwritten := (told index events).overwritten ++ (event.report index).overwritten
        delivered := (told index events).delivered ++ (event.report index).delivered
        shown := (told index events).shown ++ (event.report index).shown } := by
  simp [told]

def accepted (index : Nat) (events : List Event) : List Bytes :=
  (told index events).accepted.map Prod.fst

theorem accepted_append (index : Nat) (front back : List Event) :
    accepted index (front ++ back) = accepted index front ++ accepted index back := by
  simp [accepted, told]

theorem accepted_snoc (index : Nat) (events : List Event) (event : Event) :
    accepted index (events ++ [event]) =
      accepted index events ++ (event.report index).accepted.map Prod.fst := by
  rw [accepted, told_snoc, List.map_append, accepted]

end Bus

variable {before after : Bus} {event : Bus.Event} {index : Nat} {storage : Storage} {queue : Queue}
  {kind : Kind} {log : Log}

theorem Subscriber.Held.exists_seen {subscriber : Subscriber kind} (h : subscriber.Held before) :
    ∃ seen, before.seen[subscriber.mark]? = some seen := ⟨_, Array.getElem?_eq_getElem h.2⟩

section Step

variable (hstorage : before.storages[index]? = some storage) (hholds : storage.ring.Holds queue)
  (hfew : queue.history.length < 2 ^ 63)

def Bus.Turned (index : Nat) (queue : Queue) (storage : Storage) (outcome : Except Failure Report)
    (after : Bus) : Prop :=
  ∃ storage' next, after.storages[index]? = some storage' ∧
    Storage.Turned queue next storage outcome storage'

include hholds hfew in
theorem Bus.turned_steady {storage' : Storage} (hstorage' : after.storages[index]? = some storage')
    (hsteady : storage.Steady storage') : after.Turned index queue storage (.ok {}) := by
  have hcounts : storage.counters.Counts {} storage'.counters := by
    rw [hsteady.counters_eq]
    exact Counters.counts_nothing _
  exact ⟨storage', queue, hstorage',
    Storage.turned_still hholds hfew rfl rfl rfl hsteady.ring_eq hcounts⟩

include hstorage hholds hfew

theorem Topic.report_turned (topic : Topic kind) (hindex : topic.storage = index)
    (request : Topic.Request kind) (hheld : topic.Held before) (hreset : request.resets = false) :
    Bus.Turned index queue storage ((topic.report request).exec before log).1.1
      ((topic.report request).exec before log).1.2 := by
  subst hindex
  obtain ⟨hlt, -⟩ := Array.getElem?_eq_some_iff.mp hstorage
  obtain ⟨next, hturned⟩ := Storage.report_turned request hholds hfew (hheld.kind_eq hstorage)
    hreset topic.name log
  rw [topic.report_exec hstorage, topic.access_exec hstorage]
  exact ⟨_, next, Array.getElem?_setIfInBounds_self_of_lt hlt, hturned⟩

theorem Publisher.report_turned (publisher : Publisher kind)
    (hindex : publisher.topic.storage = index) (request : Publisher.Request kind)
    (hheld : publisher.topic.Held before) :
    Bus.Turned index queue storage ((publisher.report request).exec before log).1.1
      ((publisher.report request).exec before log).1.2 := by
  rw [publisher.report_eq]
  apply publisher.topic.report_turned hstorage hholds hfew hindex request.asked hheld
  cases request <;> rfl

omit hstorage in
theorem Storage.handed_turned (request : Subscriber.Request kind) (hkind : queue.layout.kind = kind)
    {seen : Nat} (hnew : request.polls → seen < queue.history.length) (last : Nat) (name : String)
    (log : Log) :
    ∃ next, Turned queue next storage
      (((report name request.asked).exec storage log).1.1.map (request.handed seen last))
      ((report name request.asked).exec storage log).1.2 := by
  have hturned (hreset : request.asked.resets = false) :=
    report_turned request.asked hholds hfew (hholds.layout_eq ▸ hkind) hreset name log
  cases request with
  | seeAll => exact ⟨queue, turned_still hholds hfew rfl rfl rfl rfl (Counters.counts_nothing _)⟩
  | poll buffer | pollMessage shape =>
      rw [handed_poll hholds hfew hkind (hnew rfl) rfl]
      exact hturned rfl
  | look | receive buffer | readLatest buffer | drain | receiveMessage shape =>
      have hhanded := hturned rfl
      generalize (report name _).exec storage log = answer at hhanded ⊢
      obtain ⟨⟨failure | report, storage'⟩, log'⟩ := answer
      · exact hhanded
      · exact hhanded

theorem Subscriber.report_turned (subscriber : Subscriber kind)
    (hindex : subscriber.topic.storage = index) (request : Subscriber.Request kind)
    (hheld : subscriber.Held before) :
    Bus.Turned index queue storage ((subscriber.report request).exec before log).1.1
      ((subscriber.report request).exec before log).1.2 := by
  subst hindex
  obtain ⟨hlt, -⟩ := Array.getElem?_eq_some_iff.mp hstorage
  obtain ⟨seen, hmark⟩ := hheld.exists_seen
  have hkind := hheld.1.layout_kind hstorage hholds
  by_cases hidle : request.polls ∧ storage.ring.lastEpoch ≤ seen
  · rw [subscriber.report_idle hstorage hmark request hidle.1 hidle.2]
    exact Bus.turned_steady hholds hfew hstorage (refl storage)
  · have hnew : request.polls → seen < storage.ring.lastEpoch :=
      fun hpolls => Nat.lt_of_not_le fun hle => hidle ⟨hpolls, hle⟩
    rw [subscriber.report_served hstorage hmark request hnew]
    rw [hholds.lastEpoch_eq] at hnew
    obtain ⟨next, hturned⟩ := Storage.handed_turned hholds hfew request hkind hnew _ _ log
    exact ⟨_, next, Array.getElem?_setIfInBounds_self_of_lt hlt, hturned⟩

end Step

namespace Bus

theorem Step.steady (h : Step before .registry after) :
    before.Along (fun _ => Storage.Steady) after := by
  cases h with
  | ask log registry request =>
      exact Registry.perform_follows Registry.keeps_steady request ⟨registry, before⟩ log
  | drop log registry => exact Registry.releaseAll_follows Registry.keeps_steady ⟨registry, before⟩ log

theorem Step.turned (h : Step before event after)
    (hstorage : before.storages[index]? = some storage) (hholds : storage.ring.Holds queue)
    (hfew : queue.history.length < 2 ^ 63) (hreset : event.resets index = false) :
    Turned index queue storage (event.outcome index) after := by
  cases event with
  | registry =>
      obtain ⟨storage', hstorage', hsteady⟩ := h.steady.storage index storage hstorage
      exact turned_steady hholds hfew hstorage' hsteady
  | call request outcome =>
      obtain ⟨log, _, held⟩ := h
      by_cases hasked : request.storage? = some index
      · simp only [Event.outcome, Event.resets, hasked, if_true, decide_true, Bool.true_and]
          at hreset ⊢
        cases request with
        | create kind spec | subscribe handle | provide memory => cases hasked
        | topic handle request =>
            have hindex : handle.storage = index := Option.some.inj hasked
            exact handle.report_turned hstorage hholds hfew hindex request held hreset
        | publisher handle request =>
            have hindex : handle.topic.storage = index := Option.some.inj hasked
            exact handle.report_turned hstorage hholds hfew hindex request held
        | subscriber handle request =>
            have hindex : handle.topic.storage = index := Option.some.inj hasked
            exact handle.report_turned hstorage hholds hfew hindex request held
      · -- A call on another topic leaves this storage alone.
        have halong := request.report_untouched before log
        obtain ⟨storage', hstorage', huntouched⟩ := halong.storage index storage hstorage
        rw [huntouched (Ne.symm hasked)] at hstorage'
        rw [Event.outcome, if_neg hasked]
        exact turned_steady hholds hfew hstorage' (refl storage)

theorem Step.reset (h : Step before event after) (hstorage : before.storages[index]? = some storage)
    (hreset : event.resets index = true) :
    after.storages[index]? = some { storage with counters := {} } ∧
      event.outcome index = .ok {} := by
  cases h with
  | ask log registry request | drop log registry => cases hreset
  | call log request held =>
      rw [Event.resets, Bool.and_eq_true, decide_eq_true_iff] at hreset
      obtain ⟨hasked, hreset⟩ := hreset
      rw [Event.outcome, if_pos hasked]
      cases request with
      | create kind spec | subscribe handle | provide memory => cases hreset
      | publisher handle request | subscriber handle request => cases hreset
      | topic handle request =>
          obtain rfl : handle.storage = index := Option.some.inj hasked
          obtain rfl := Topic.Request.eq_of_resets hreset
          obtain ⟨hlt, -⟩ := Array.getElem?_eq_some_iff.mp hstorage
          rw [Request.report, handle.report_exec hstorage, handle.access_exec hstorage]
          exact ⟨Array.getElem?_setIfInBounds_self_of_lt hlt, rfl⟩

theorem Step.unbroken (h : Step before event after)
    (hstorage : before.storages[index]? = some storage) (hholds : storage.ring.Holds queue)
    (hroom : queue.history.length + 1 < 2 ^ 63) : event.breaks index = false := by
  cases hreset : event.resets index with
  | false =>
      obtain ⟨storage', next, -, hturned⟩ :=
        h.turned hstorage hholds (Nat.lt_of_succ_lt hroom) hreset
      exact hturned.turn.unbroken hroom
  | true =>
      obtain ⟨-, houtcome⟩ := h.reset hstorage hreset
      rw [Event.breaks, houtcome]
      rfl

theorem Run.append {middle : Bus} {front back : List Event} (h : Run before front middle)
    (h' : Run middle back after) : Run before (front ++ back) after := by
  induction h' with
  | nil => rwa [List.append_nil]
  | snoc run step ih =>
      rw [← List.append_assoc]
      exact ih.snoc step

def Extends (index : Nat) (queue : Queue) (payloads : List Bytes) (after : Bus) : Prop :=
  ∃ storage next, after.storages[index]? = some storage ∧ storage.ring.Holds next ∧
    queue.Extends payloads next ∧ next.history.length < 2 ^ 63

theorem Step.extends (h : Step before event after)
    (hstorage : before.storages[index]? = some storage) (hholds : storage.ring.Holds queue)
    (hfew : queue.history.length < 2 ^ 63) :
    Extends index queue ((event.report index).accepted.map Prod.fst) after := by
  cases hreset : event.resets index with
  | false =>
      obtain ⟨storage', next, hstorage', hturned⟩ := h.turned hstorage hholds hfew hreset
      exact ⟨storage', next, hstorage', hturned.holds, hturned.turn.extends_eq,
        hturned.turn.length_lt⟩
  | true =>
      obtain ⟨hstorage', houtcome⟩ := h.reset hstorage hreset
      rw [Event.report, houtcome]
      exact ⟨_, queue, hstorage', hholds, queue.extends_self, hfew⟩

theorem Run.extends {events : List Event} (h : Run before events after)
    (hstorage : before.storages[index]? = some storage) (hholds : storage.ring.Holds queue)
    (hfew : queue.history.length < 2 ^ 63) : Extends index queue (accepted index events) after := by
  induction h with
  | nil => exact ⟨storage, queue, hstorage, hholds, queue.extends_self, hfew⟩
  | snoc run step ih =>
      obtain ⟨middle, between, hmiddle, hbetween, hextends, hlength⟩ := ih
      obtain ⟨storage', next, hstorage', hnext, hstep, hlt⟩ := step.extends hmiddle hbetween hlength
      refine ⟨storage', next, hstorage', hnext, ?_, hlt⟩
      rw [accepted_snoc]
      exact hextends.trans hstep

theorem Run.unbroken {events : List Event} (h : Run before events after)
    (hstorage : before.storages[index]? = some storage) (hholds : storage.ring.Holds queue)
    (hroom : queue.history.length + (accepted index events).length + 1 < 2 ^ 63) :
    ∀ event ∈ events, event.breaks index = false := by
  induction h with
  | nil => simp
  | @snoc middle after events event run step ih =>
      rw [accepted_snoc, List.length_append] at hroom
      obtain ⟨between, next, hbetween, hnext, hextends, -⟩ :=
        run.extends hstorage hholds (by omega)
      -- Before the last step the history was as long as what had been accepted by then.
      have hgrown := congrArg List.length hextends.history_eq
      rw [List.length_append] at hgrown
      have hlast := step.unbroken hbetween hnext (by omega)
      intro other hother
      rcases List.mem_append.mp hother with hold | hnew
      · exact ih (by omega) other hold
      · rw [List.mem_singleton.mp hnew]
        exact hlast

end Bus

theorem Topic.made_storage {spec : TopicSpec} {id : TopicId} {made : Bus} {log' : Log}
    {topic : Topic kind}
    (hmade : (Topic.ofSpec kind spec id).exec before log = ((.ok topic, made), log')) :
    ∃ ring, spec.Makes before.memory kind ring ∧ made.storages[topic.storage]? = some { ring } ∧
      ring.Holds ⟨ring.layout, spec.capacity, [], 0⟩ := by
  obtain ⟨ring, hmakes, rfl, rfl⟩ := Topic.ofSpec_eq_ok hmade
  exact ⟨ring, hmakes, Array.getElem?_push_size, Ring.create_holds hmakes.ring_eq⟩

/-- A topic that was made to a spec, after a run: its ring holds what it accepted since. -/
theorem Topic.storage_of_run {spec : TopicSpec} {id : TopicId} {made : Bus} {log' : Log}
    {topic : Topic kind} {events : List Bus.Event}
    (hmade : (Topic.ofSpec kind spec id).exec before log = ((.ok topic, made), log'))
    (hrun : Bus.Run made events after) :
    ∃ storage queue, after.storages[topic.storage]? = some storage ∧ storage.ring.Holds queue ∧
      Layout.create kind spec.payloadSize = .ok queue.layout ∧ queue.capacity = spec.capacity ∧
      queue.history = Bus.accepted topic.storage events ∧ queue.history.length < 2 ^ 63 := by
  obtain ⟨ring, hmakes, hnew, hempty⟩ := topic.made_storage hmade
  have hnone : ([] : List Bytes).length < 2 ^ 63 := by decide
  obtain ⟨storage, queue, hstorage, hholds, hextends, hfew⟩ := hrun.extends hnew hempty hnone
  have hlayout : queue.layout = ring.layout := hextends.layout_eq
  refine ⟨storage, queue, hstorage, hholds, ?_, hextends.capacity_eq, hextends.history_eq, hfew⟩
  rw [hlayout]
  exact hmakes.layout_eq

theorem Topic.Held.of_layout {topic : Topic kind} {bus : Bus}
    (hstorage : bus.storages[topic.storage]? = some storage)
    (hkind : storage.ring.layout.kind = kind) : topic.Held bus := by
  rw [Held, hstorage, Option.map_some, hkind]

theorem Topic.Held.run {topic : Topic kind} {events : List Bus.Event} (h : topic.Held before)
    (hsound : before.Sound) (hrun : Bus.Run before events after) : topic.Held after := by
  obtain ⟨storage, hstorage⟩ := h.exists_storage
  obtain ⟨queue, hholds, hfew⟩ := hsound _ _ hstorage
  obtain ⟨storage', next, hstorage', hnext, hextends, -⟩ := hrun.extends hstorage hholds hfew
  apply Topic.Held.of_layout hstorage'
  rw [hnext.layout_eq, hextends.layout_eq, ← hholds.layout_eq]
  exact h.kind_eq hstorage

end TopicBus
