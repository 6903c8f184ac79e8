import TopicBus.Proofs.Bus.Message
import TopicBus.Proofs.Bus.Tally

namespace TopicBus

open Op

def Refusal.isSize : Refusal → Bool
  | payloadTooLarge _ _ | sizeMismatch _ _ => true
  | _ => false

def isSizeRefusal {α : Type} : Except Failure α → Bool
  | .error (.refused reason) => reason.isSize
  | _ => false

variable {α β : Type} {kind : Kind} {before after : Bus} {storage : Storage} {queue : Queue}
  {shape : Shape} {payload : Bytes} {index : Nat} {events : List Bus.Event} {event : Bus.Event}
  {name : String} {log : Log}

theorem isSizeRefusal_map (f : α → β) (outcome : Except Failure α) :
    isSizeRefusal (outcome.map f) = isSizeRefusal outcome := by
  rcases outcome with (reason | fault) | a <;> rfl

theorem Layout.isSize_of_checkPayload {layout : Layout} {length : Nat} {reason : Refusal}
    (h : layout.checkPayload length = .error reason) : reason.isSize = true := by
  unfold checkPayload at h
  split at h <;> split at h <;> cases h <;> rfl

namespace Storage

abbrev RejectedEq : Storage → Storage → Prop := InvImage (· = ·) (·.counters.rejected)

theorem readRing_rejected (read : Op (Reading Ring) (Option Delivery)) {step : Counters → Counters}
    (hstep : ∀ counters, (step counters).rejected = counters.rejected) :
    (readRing name read step).Follows (InvImage RejectedEq Reading.source) :=
  readRing_follows (fun _ _ => rfl) fun storage _ => (hstep storage.counters).symm

theorem countAccepted_rejected (overwritten : Nat) (counters : Counters) :
    (countAccepted overwritten counters).rejected = counters.rejected := by
  unfold countAccepted
  split <;> rfl

section Publish

variable (h : storage.ring.Holds queue) (hfew : queue.history.length < 2 ^ 63)

include h hfew

theorem publish_rejected (payload : Bytes) (name : String) (log : Log) :
    ((publish name payload).exec storage log).1.2.counters.rejected = storage.counters.rejected +
      if isSizeRefusal ((publish name payload).exec storage log).1.1 then 1 else 0 := by
  have hpublishes := publishes h hfew name payload log
  generalize (publish name payload).exec storage log = result at hpublishes ⊢
  cases hpublishes with
  | withdrawn released => exact (UInt64.add_zero _).symm
  | rejected live misfit =>
      simp only [isSizeRefusal, Layout.isSize_of_checkPayload misfit, if_true]
      rfl
  | accepted live fits room holds => simp [isSizeRefusal, countAccepted_rejected]
  | exhausted live fits last => exact (UInt64.add_zero _).symm

theorem publishMessage_rejected (htyped : queue.layout.kind = .typed) (message : shape.Value)
    (name : String) (log : Log) :
    ((publishMessage name shape message).exec storage log).1.2.counters.rejected =
      storage.counters.rejected := by
  by_cases hsize : shape.size = storage.ring.layout.payloadSize
  · have hpublishes := publishes h hfew name (shape.bytes message) log
    rw [publishMessage_fit hsize]
    rw [h.layout_eq] at hsize
    generalize (publish name (shape.bytes message)).exec storage log = result at hpublishes ⊢
    cases hpublishes with
    | withdrawn released | exhausted live fits last => rfl
    | accepted live fits room holds => exact countAccepted_rejected _ _
    | rejected live misfit =>
        rw [Layout.checkPayload_bytes htyped hsize message] at misfit
        cases misfit
  · rw [publishMessage_misfit hsize]

end Publish

theorem submit_storage (payload : Bytes) (op : Op Storage Nat) :
    ((submit payload op).exec storage log).1.2 = (op.exec storage log).1.2 := by
  simp only [submit, exec_bind, exec_get]
  rcases op.exec storage log with ⟨⟨_ | _, _⟩, _⟩ <;> rfl

theorem submit_isSizeRefusal (payload : Bytes) (op : Op Storage Nat) :
    isSizeRefusal ((submit payload op).exec storage log).1.1 =
      isSizeRefusal (op.exec storage log).1.1 := by
  simp only [submit, exec_bind, exec_get]
  rcases op.exec storage log with ⟨⟨(_ | _) | _, _⟩, _⟩ <;> rfl

end Storage

theorem Topic.Request.follows_rejected (request : Topic.Request kind)
    (hpublish : request.publishes = false) (hreset : request.resets = false) (name : String) :
    request.Follows Storage.RejectedEq name := by
  have hread (read : Op (Reading Ring) (Option Delivery)) {step : Counters → Counters}
      (hstep : ∀ counters, (step counters).rejected = counters.rejected) :
      (Storage.readRing name read step).Follows (InvImage Storage.RejectedEq Reading.source) :=
    Storage.readRing_rejected read hstep
  cases request with
  | look => trivial
  | resetCounters => cases hreset
  | publish payload | publishMessage shape message => cases hpublish
  | slotImage epoch => exact Storage.slotImage_follows epoch
  | receive buffer => exact hread _ fun _ => rfl
  | readLatest buffer | readOldest buffer => exact hread _ fun _ => rfl
  | receivePayload => exact Storage.receivePayload_follows (hread _ fun _ => rfl)
  | latestPayload => exact Storage.latestPayload_follows (hread _ fun _ => rfl)
  | drain => exact Storage.drain_follows (hread _ fun _ => rfl)
  | receiveMessage shape | latestMessage shape =>
      exact Storage.readMessage_follows shape (hread _ fun _ => rfl)

def Topic.Request.rejects : {kind : Kind} → Topic.Request kind → Except Failure α → Bool
  | _, .publish _, outcome => isSizeRefusal outcome
  | _, _, _ => false

theorem Topic.report_rejected (topic : Topic kind)
    (hstorage : before.storages[topic.storage]? = some storage) (h : storage.ring.Holds queue)
    (hfew : queue.history.length < 2 ^ 63) (hkind : queue.layout.kind = kind)
    (request : Topic.Request kind) (hpublish : request.publishes) (log : Log) :
    ∃ storage', ((topic.report request).exec before log).1.2.storages[topic.storage]? =
        some storage' ∧
      storage'.counters.rejected = storage.counters.rejected +
        if request.rejects ((topic.report request).exec before log).1.1 then 1 else 0 := by
  obtain ⟨hlt, -⟩ := Array.getElem?_eq_some_iff.mp hstorage
  rw [topic.report_exec hstorage, topic.access_exec hstorage]
  refine ⟨_, Array.getElem?_setIfInBounds_self_of_lt hlt, ?_⟩
  cases request with
  | look | slotImage epoch | resetCounters | drain => cases hpublish
  | receive buffer | readLatest buffer | readOldest buffer => cases hpublish
  | receivePayload | latestPayload => cases hpublish
  | receiveMessage shape | latestMessage shape => cases hpublish
  | publish payload =>
      have hcount := Storage.publish_rejected h hfew payload topic.name log
      rw [← Storage.submit_storage payload, ← Storage.submit_isSizeRefusal payload] at hcount
      simp only [Storage.report, ← map_eq_pure_bind, exec_map, Request.rejects, isSizeRefusal_map]
      exact hcount
  | publishMessage shape message =>
      have hcount := Storage.publishMessage_rejected h hfew hkind message topic.name log
      rw [← Storage.submit_storage (shape.bytes message)] at hcount
      simp only [Storage.report, ← map_eq_pure_bind, exec_map, Request.rejects]
      rw [hcount]
      exact (UInt64.add_zero _).symm

def Bus.Request.rejects : Bus.Request → Except Failure α → Bool
  | topic _ request, outcome => request.rejects outcome
  | publisher _ request, outcome => request.asked.rejects outcome
  | _, _ => false

def Bus.Event.rejects (index : Nat) : Bus.Event → Bool
  | call request outcome => decide (request.storage? = some index) && request.rejects outcome
  | registry => false

namespace Bus

def Rejected (index : Nat) (storage : Storage) (count : Nat) (after : Bus) : Prop :=
  ∃ storage', after.storages[index]? = some storage' ∧
    storage'.counters.rejected = storage.counters.rejected + .ofNat count

theorem rejected_nothing {storage' : Storage} (hstorage' : after.storages[index]? = some storage')
    (hsame : storage'.counters.rejected = storage.counters.rejected) :
    after.Rejected index storage 0 :=
  ⟨storage', hstorage', hsame.trans (UInt64.add_zero _).symm⟩

section Step

variable (hstorage : before.storages[index]? = some storage) (hholds : storage.ring.Holds queue)
  (hfew : queue.history.length < 2 ^ 63)

include hstorage

theorem Request.rejected_nothing (request : Bus.Request)
    (h : request.Follows fun _ => Storage.RejectedEq) (log : Log) :
    (request.report.exec before log).1.2.Rejected index storage 0 := by
  have halong := report_follows (request.perform_along h) before log
  obtain ⟨storage', hstorage', hsame⟩ := halong.storage index storage hstorage
  exact Bus.rejected_nothing hstorage' hsame.symm

include hholds hfew

theorem Request.report_rejected (request : Bus.Request) (hasked : request.storage? = some index)
    (hheld : request.Held before) (hreset : request.resets = false) (log : Log) :
    (request.report.exec before log).1.2.Rejected index storage
      (if request.rejects (request.report.exec before log).1.1 then 1 else 0) := by
  have hpublish {kind : Kind} (handle : Topic kind) (hindex : handle.storage = index)
      (hheld : handle.Held before) (request : Topic.Request kind) (hpublish : request.publishes) :
      ((handle.report request).exec before log).1.2.Rejected index storage
        (if request.rejects ((handle.report request).exec before log).1.1 then 1 else 0) := by
    subst hindex
    have hkind := hheld.kind_eq hstorage
    rw [hholds.layout_eq] at hkind
    obtain ⟨storage', hstorage', hcount⟩ :=
      handle.report_rejected hstorage hholds hfew hkind request hpublish log
    refine ⟨storage', hstorage', hcount.trans ?_⟩
    split <;> rfl
  cases request with
  | create kind spec | subscribe handle | provide memory => cases hasked
  | publisher handle request =>
      have hasks : handle.report request = handle.topic.report request.asked := handle.report_eq _
      simp only [report, rejects, hasks]
      refine hpublish handle.topic (Option.some.inj hasked) hheld request.asked ?_
      cases request <;> rfl
  | subscriber handle request =>
      apply Request.rejected_nothing hstorage
      apply Topic.Request.follows_rejected
      · cases request <;> rfl
      · cases request <;> rfl
  | topic handle request =>
      by_cases hp : request.publishes
      · exact hpublish handle (Option.some.inj hasked) hheld request hp
      · rw [Bool.not_eq_true] at hp
        have hrejects (outcome : Except Failure Report) : request.rejects outcome = false := by
          cases request <;> first | rfl | cases hp
        simp only [rejects, hrejects]
        exact Request.rejected_nothing hstorage (topic handle request)
          (request.follows_rejected hp hreset handle.name) log

theorem Step.rejected (h : Step before event after) (hreset : event.resets index = false) :
    after.Rejected index storage ([event].countP (Event.rejects index)) := by
  rw [List.countP_singleton]
  cases event with
  | registry =>
      obtain ⟨storage', hstorage', hsteady⟩ := h.steady.storage index storage hstorage
      exact rejected_nothing hstorage' (congrArg Counters.rejected hsteady.counters_eq)
  | call request outcome =>
      obtain ⟨log, _, held⟩ := h
      by_cases hasked : request.storage? = some index
      · simp only [Event.resets, Event.rejects, hasked, decide_true, Bool.true_and] at hreset ⊢
        exact request.report_rejected hstorage hholds hfew hasked held hreset log
      · have halong := request.report_untouched before log
        obtain ⟨storage', hstorage', huntouched⟩ := halong.storage index storage hstorage
        simp only [Event.rejects, hasked, decide_false, Bool.false_and]
        exact rejected_nothing hstorage'
          (congrArg (·.counters.rejected) (huntouched (Ne.symm hasked)))

end Step

theorem Run.rejected (h : Run before events after)
    (hstorage : before.storages[index]? = some storage) (hholds : storage.ring.Holds queue)
    (hfew : queue.history.length < 2 ^ 63)
    (hreset : ∀ event ∈ events, event.resets index = false) :
    after.Rejected index storage (events.countP (Event.rejects index)) := by
  induction h with
  | nil => exact rejected_nothing hstorage rfl
  | @snoc middle after events event run step ih =>
      obtain ⟨between, hbetween, hcount⟩ :=
        ih fun event hevent => hreset event (List.mem_append_left _ hevent)
      obtain ⟨found, queue', hfound, hholds', -, hfew'⟩ := run.extends hstorage hholds hfew
      obtain rfl := Option.some.inj (hfound.symm.trans hbetween)
      obtain ⟨storage', hstorage', hlast⟩ := step.rejected hbetween hholds' hfew'
        (hreset event (List.mem_append_right _ (List.mem_singleton_self _)))
      refine ⟨storage', hstorage', ?_⟩
      rw [List.countP_append]
      exact UInt64.eq_add_ofNat hcount hlast

/-- Since the last reset the counter says how many payloads were refused for their size. -/
theorem SinceReset.rejected {recent : List Event} {base : Nat}
    (h : SinceReset index before events after recent base)
    (hstorage : before.storages[index]? = some storage) (hholds : storage.ring.Holds queue)
    (hfew : queue.history.length < 2 ^ 63) (hnew : storage.counters = {})
    (hempty : storage.ring.length = 0) {last : Storage}
    (hlast : after.storages[index]? = some last) :
    last.counters.rejected = .ofNat (recent.countP (Event.rejects index)) := by
  obtain ⟨start, fresh, queue', hrun, hfresh, hholds', hfew', hzero, -, hnone, -⟩ :=
    h.exists_start hstorage hholds hfew hnew hempty
  obtain ⟨found, hfound, hcount⟩ := hrun.rejected hfresh hholds' hfew' hnone
  obtain rfl := Option.some.inj (hfound.symm.trans hlast)
  rw [hcount, hzero]
  exact UInt64.zero_add _

def countRejected (bus : Bus) (index : Nat) : Bus :=
  { bus with
    storages := bus.storages.modify index fun storage =>
      { storage with counters := storage.counters.countRejected } }

end Bus

/-- A payload is refused with notice: the reason is told, and logged under the name of the topic;
one more refusal is counted, and nothing else changes. -/
structure Topic.Rejects (topic : Topic kind) (bus : Bus) (payload : Bytes) (reason : Refusal) :
    Prop where
  publish : ∀ log, (topic.publish payload).exec bus log =
    ((.error (.refused reason), bus.countRejected topic.storage),
      log.push (.publishRejected topic.name reason))
  publisher : ∀ log, (Publisher.publish ⟨topic⟩ payload).exec bus log =
    ((.error (.refused reason), bus.countRejected topic.storage),
      log.push (.publishRejected topic.name reason))
  level : (LogEntry.publishRejected topic.name reason).level = .warn

/-- A live topic refuses the payloads that its layout refuses, with notice, and no others. -/
structure Topic.Judges (topic : Topic kind) (bus : Bus) (layout : Layout) (payload : Bytes) :
    Prop where
  refused : ∀ reason, layout.checkPayload payload.length = .error reason →
    reason.isSize ∧ topic.Rejects bus payload reason
  taken : layout.checkPayload payload.length = .ok () → ∀ log reason,
    ((topic.publish payload).exec bus log).1.1 ≠ .error (.refused reason)

/-- A live topic refuses the messages of another size than it carries, without notice, and no
others. -/
structure Topic.JudgesMessage (topic : Topic .typed) (bus : Bus) (layout : Layout)
    (message : shape.Value) : Prop where
  refused : shape.size ≠ layout.payloadSize →
    bus.RefusesSize layout.payloadSize shape (topic.publishMessage shape message) ∧
      bus.RefusesSize layout.payloadSize shape (Publisher.publishMessage ⟨topic⟩ shape message)
  taken : shape.size = layout.payloadSize → ∀ log reason,
    ((topic.publishMessage shape message).exec bus log).1.1 ≠ .error (.refused reason)

namespace Topic

section Judge

variable (hstorage : before.storages[index]? = some storage) (hlive : storage.released = false)

include hstorage hlive

theorem judges (topic : Topic kind) (hindex : topic.storage = index)
    (hholds : storage.ring.Holds queue) (payload : Bytes) :
    topic.Judges before storage.ring.layout payload where
  refused reason hp := by
    subst hindex
    have hnotice (log : Log) : (topic.publish payload).exec before log =
        ((.error (.refused reason), before.countRejected topic.storage),
          log.push (.publishRejected topic.name reason)) := by
      have hp' := hp
      rw [hholds.layout_eq] at hp'
      rw [publish, topic.access_exec hstorage, Storage.publish_refused hlive hholds hp',
        Bus.setIfInBounds_eq_modify hstorage fun storage =>
          { storage with counters := storage.counters.countRejected }]
      rfl
    exact ⟨Layout.isSize_of_checkPayload hp, hnotice, hnotice, rfl⟩
  taken hp log reason := by
    subst hindex
    rw [publish, topic.access_exec hstorage]
    exact Storage.publish_unrefused hlive hp topic.name log reason

theorem judgesMessage (topic : Topic .typed) (hindex : topic.storage = index)
    (htyped : storage.ring.layout.kind = .typed) (message : shape.Value) :
    topic.JudgesMessage before storage.ring.layout message where
  refused hsize := by
    subst hindex
    have hmisfits := topic.misfits hstorage hsize
    exact ⟨hmisfits.publishMessage message, hmisfits.publisher message⟩
  taken hsize log reason := by
    subst hindex
    rw [publishMessage, topic.access_exec hstorage, Storage.publishMessage_fit hsize]
    exact Storage.publish_unrefused hlive (Layout.checkPayload_bytes htyped hsize message) _ _ _

end Judge

/-- A new topic, and any run of calls through handles of it and of other topics, with registries at
work and counters reset at any time. While the topic is live, a payload of a size that it does not
take is refused with notice, and a message of such a size without. Since the last reset the counter
of refusals has counted those payloads and nothing else. -/
theorem rejections_counted {spec : TopicSpec} {id : TopicId} {made : Bus} {log log' : Log}
    {topic : Topic kind}
    (hmade : (Topic.ofSpec kind spec id).exec before log = ((.ok topic, made), log'))
    (hrun : Bus.Run made events after) :
    ∃ storage layout, after.storages[topic.storage]? = some storage ∧
      Layout.create kind spec.payloadSize = .ok layout ∧
      (∃ recent base, Bus.SinceReset topic.storage made events after recent base) ∧
      (∀ recent base, Bus.SinceReset topic.storage made events after recent base →
        storage.counters.rejected = .ofNat (recent.countP (Bus.Event.rejects topic.storage))) ∧
      (storage.released = false → ∀ handle : Topic kind, handle.storage = topic.storage →
        ∀ payload, handle.Judges after layout payload) ∧
      (storage.released = false → kind = .typed → ∀ handle : Topic .typed,
        handle.storage = topic.storage → ∀ (shape : Shape) (message : shape.Value),
        handle.JudgesMessage after layout message) := by
  obtain ⟨ring, hmakes, hnew, hholds⟩ := topic.made_storage hmade
  have hnone : ([] : List Bytes).length < 2 ^ 63 := by decide
  obtain ⟨storage, queue, hstorage, hqueue, hextends, hfew⟩ := hrun.extends hnew hholds hnone
  have hlayout : storage.ring.layout = ring.layout :=
    hqueue.layout_eq.trans hextends.layout_eq
  refine ⟨storage, ring.layout, hstorage, hmakes.layout_eq, hrun.sinceReset hnew hholds hnone,
    fun recent base hrecent => hrecent.rejected hnew hholds hnone rfl hholds.length_eq hstorage, ?_, ?_⟩
  · intro hlive handle hindex payload
    rw [← hlayout]
    exact handle.judges hstorage hlive hindex hqueue payload
  · intro hlive htyped handle hindex shape message
    have hkind : storage.ring.layout.kind = .typed := by
      rw [hlayout, (Layout.create_eq_ok hmakes.layout_eq).1, htyped]
    rw [← hlayout]
    exact handle.judgesMessage hstorage hlive hindex hkind message

/-- One payload and one message of two bytes, where four are asked for, and a payload of four: only
the first is a refusal that counts. -/
theorem rejections_counted_mixed :
    ∃ (topic : Topic .typed) (made after : Bus) (events : List Bus.Event) (storage : Storage),
      Bus.SinceReset topic.storage made events after events 0 ∧ events.length = 3 ∧
      after.storages[topic.storage]? = some storage ∧ storage.counters.rejected = 1 ∧
      topic.Rejects after [1, 2] (.sizeMismatch 4 2) := by
  let topic : Topic .typed := ⟨"a", .detached, 0⟩
  let made := (Topic.ofSpec .typed ⟨"a", .typed, 2, 4⟩ .detached).exec {} #[]
  have hmade : made = ((.ok topic, made.1.2), made.2) := rfl
  let message : (Shape.scalar .uint16).Value := (513 : BitVec 16)
  let ask (request : Topic.Request .typed) : Bus.Request := .topic topic request
  let next (bus : Bus) (request : Topic.Request .typed) : Bus :=
    ((ask request).report.exec bus #[]).1.2
  have hstep (bus : Bus) (request : Topic.Request .typed) (held : (ask request).Held bus) :
      Bus.Step bus (.call (ask request) ((ask request).report.exec bus #[]).1.1)
        (next bus request) := .call bus #[] (ask request) held
  have hpayload := (Bus.Run.nil made.1.2).snoc (hstep _ (.publish [1, 2]) (by decide +kernel))
  have hmessage := hpayload.snoc (hstep _ (.publishMessage _ message) (by decide +kernel))
  have hrun := hmessage.snoc (hstep _ (.publish [1, 2, 3, 4]) (by decide +kernel))
  have hsince : Bus.SinceReset topic.storage made.1.2 _ _ _ 0 := .never hrun (by decide +kernel)
  obtain ⟨storage, layout, hstorage, hlayout, -, hcount, hjudges, -⟩ :=
    rejections_counted hmade hrun
  have hlive : ((next (next (next made.1.2 (.publish [1, 2])) (.publishMessage _ message))
      (.publish [1, 2, 3, 4])).storages[0]?).map (·.released) = some false := by decide +kernel
  obtain ⟨found, hfound, hreleased⟩ := Option.map_eq_some_iff.mp hlive
  obtain rfl : storage = found := Option.some.inj (hstorage.symm.trans hfound)
  obtain rfl : _ = layout := Except.ok.inj hlayout
  have hone : storage.counters.rejected = 1 := (hcount _ _ hsince).trans (by decide +kernel)
  exact ⟨topic, made.1.2, _, _, storage, hsince, rfl, hstorage, hone,
    ((hjudges hreleased topic rfl [1, 2]).refused _ rfl).2⟩

/-- A message of two bytes for a topic of four: it is refused, but neither counted nor logged. -/
theorem misfit_unnoticed :
    let topic : Topic .typed := ⟨"a", .detached, 0⟩
    let made := (Topic.ofSpec .typed ⟨"a", .typed, 2, 4⟩ .detached).exec {} #[]
    let message : (Shape.scalar .uint16).Value := (1 : BitVec 16)
    let answer := (topic.publishMessage _ message).exec made.1.2 made.2
    answer.1.1 = .error (.refused (.sizeMismatch 4 2)) ∧
      (answer.1.2.storages[0]?).map (·.released) = some false ∧
      (answer.1.2.storages[0]?).map (·.counters.rejected) = some 0 ∧
      answer.2 = #[.topicCreated .typed "a" 2 12] := by
  decide +kernel

end Topic

end TopicBus
