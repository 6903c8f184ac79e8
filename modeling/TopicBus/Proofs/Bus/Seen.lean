import Mathlib.Order.Bounds.Basic
import TopicBus.Proofs.Bus.Trace

namespace TopicBus

open Op

namespace Bus

def Event.given (mark : Nat) : Event → List Nat
  | .call (.subscriber handle request) outcome =>
    if handle.mark = mark then request.given (.ofOutcome outcome) else []
  | _ => []

def Event.asks (mark : Nat) : Event → Bool
  | .call (.subscriber handle _) _ => decide (handle.mark = mark)
  | _ => false

def Event.Genuine (mark index : Nat) : Event → Prop
  | .call (.subscriber handle _) _ => handle.mark = mark → handle.topic.storage = index
  | _ => True

instance (mark index : Nat) : (event : Event) → Decidable (event.Genuine mark index)
  | .call (.subscriber handle _) _ =>
    inferInstanceAs (Decidable (handle.mark = mark → handle.topic.storage = index))
  | .call (.create _ _) _ | .call (.provide _) _ | .call (.subscribe _) _ | .call (.topic _ _) _ |
    .call (.publisher _ _) _ | .registry => inferInstanceAs (Decidable True)

def given (mark : Nat) (events : List Event) : List Nat := events.flatMap (Event.given mark)

theorem given_snoc (mark : Nat) (events : List Event) (event : Event) :
    given mark (events ++ [event]) = given mark events ++ event.given mark := by
  simp [given]

theorem Event.given_of_asks {mark : Nat} {event : Event} (h : event.asks mark = false) :
    event.given mark = [] := by
  cases event with
  | registry => rfl
  | call request outcome =>
      cases request with
      | create kind spec | subscribe handle | provide memory => rfl
      | topic handle request | publisher handle request => rfl
      | subscriber handle request => exact if_neg (of_decide_eq_false h)

theorem given_of_asks {mark : Nat} {events : List Event}
    (h : ∀ event ∈ events, event.asks mark = false) : given mark events = [] :=
  List.flatMap_eq_nil_iff.mpr fun event hevent => Event.given_of_asks (h event hevent)

end Bus

variable {kind : Kind} {bus before after : Bus} {event : Bus.Event} {events : List Bus.Event}
  {storage storage' : Storage} {queue : Queue} {mark index seen : Nat} {log : Log}

theorem Registry.keeps_seen : Registry.Keeps (InvImage (· = ·) Bus.seen) where
  ofSpec kind spec id := by
    intro bus log
    rcases Topic.ofSpec_cases kind spec bus with ⟨ring, hmakes⟩ | ⟨failure, hfails⟩
    · rw [Topic.ofSpec_exec hmakes]
      rfl
    · rw [hfails]
      rfl
  setReleased topic := by
    intro bus log
    cases h : bus.storages[topic.storage]? with
    | none =>
        rw [Topic.setReleased, topic.access_missing h]
        rfl
    | some storage =>
        rw [Topic.setReleased, topic.access_exec h]
        rfl

theorem Topic.report_seen (topic : Topic kind) (h : topic.Held bus) (request : Topic.Request kind)
    (log : Log) : ((topic.report request).exec bus log).1.2.seen = bus.seen := by
  obtain ⟨storage, hstorage⟩ := h.exists_storage
  rw [topic.report_exec hstorage, topic.access_exec hstorage]

theorem Subscriber.report_seen (subscriber : Subscriber kind) (h : subscriber.Held bus)
    (hmark : bus.seen[subscriber.mark]? = some seen) (request : Subscriber.Request kind)
    (log : Log) :
    let answer := ((subscriber.report request).exec bus log).1
    answer.2.seen = bus.seen.setIfInBounds subscriber.mark
      (max seen ((request.given (.ofOutcome answer.1)).getLast?.getD 0)) := by
  obtain ⟨storage, hstorage⟩ := h.1.exists_storage
  by_cases hidle : request.polls ∧ storage.ring.lastEpoch ≤ seen
  · rw [subscriber.report_idle hstorage hmark request hidle.1 hidle.2]
    simp only [Report.ofOutcome, Request.given_nothing, List.getLast?_nil, Option.getD_none,
      Nat.max_zero]
    exact (congrArg Bus.seen (subscriber.seen_same hmark)).symm
  · have hnew : request.polls → seen < storage.ring.lastEpoch :=
      fun hpolls => Nat.lt_of_not_le fun hle => hidle ⟨hpolls, hle⟩
    rw [subscriber.report_served hstorage hmark request hnew]

namespace Bus

theorem Step.seen_kept (h : Step before .registry after) : after.seen = before.seen := by
  cases h with
  | ask log registry request =>
      exact (Registry.perform_follows Registry.keeps_seen request ⟨registry, before⟩ log).symm
  | drop log registry =>
      exact (Registry.releaseAll_follows Registry.keeps_seen ⟨registry, before⟩ log).symm

theorem Step.seen_same (h : Step before event after) (hmark : before.seen[mark]? = some seen)
    (hasks : event.asks mark = false) : after.seen[mark]? = some seen := by
  cases event with
  | registry =>
      rw [h.seen_kept]
      exact hmark
  | call request outcome =>
      obtain ⟨log, _, held⟩ := h
      cases request with
      | create kind spec =>
          have hcreate : (Request.create kind spec).perform.Follows (InvImage (· = ·) Bus.seen) :=
            (Registry.keeps_seen.ofSpec kind spec .detached).bind fun _ => .pure _
          have hsame : before.seen = _ := Request.report_follows hcreate before log
          rw [← hsame]
          exact hmark
      | provide memory => exact hmark
      | subscribe handle =>
          obtain ⟨hlt, -⟩ := Array.getElem?_eq_some_iff.mp hmark
          show (before.seen.push 0)[mark]? = some seen
          rw [Array.getElem?_push, if_neg (Nat.ne_of_lt hlt), hmark]
      | topic handle request =>
          rw [Request.report, handle.report_seen held]
          exact hmark
      | publisher handle request =>
          rw [Request.report, handle.report_eq, handle.topic.report_seen held]
          exact hmark
      | subscriber handle request =>
          obtain ⟨seen', hmark'⟩ := held.exists_seen
          rw [Request.report, handle.report_seen held hmark',
            Array.getElem?_setIfInBounds_ne (of_decide_eq_false hasks)]
          exact hmark

/-- A step that asks a subscriber is one of its calls. -/
theorem Step.of_asks (h : Step before event after) (hasks : event.asks mark = true) :
    ∃ (kind : Kind) (subscriber : Subscriber kind) (request : Subscriber.Request kind) (log : Log),
      subscriber.mark = mark ∧ subscriber.Held before ∧
      event = .call (.subscriber subscriber request)
        ((subscriber.report request).exec before log).1.1 ∧
      after = ((subscriber.report request).exec before log).1.2 := by
  cases h with
  | ask log registry request | drop log registry => cases hasks
  | call log request held =>
      cases request with
      | create kind spec | subscribe handle | provide memory => cases hasks
      | topic handle request | publisher handle request => cases hasks
      | subscriber handle request =>
          exact ⟨_, handle, request, log, of_decide_eq_true hasks, held, rfl, rfl⟩

/-- The mark of a subscriber moves with what it is given or marks, and with nothing else. -/
theorem Step.seen_eq (h : Step before event after) (hmark : before.seen[mark]? = some seen) :
    after.seen[mark]? = some (max seen ((event.given mark).getLast?.getD 0)) := by
  cases hasks : event.asks mark with
  | false =>
      rw [Event.given_of_asks hasks]
      exact (h.seen_same hmark hasks).trans (congrArg some (Nat.max_zero seen).symm)
  | true =>
      obtain ⟨kind, subscriber, request, log, rfl, held, rfl, rfl⟩ := h.of_asks hasks
      obtain ⟨hlt, -⟩ := Array.getElem?_eq_some_iff.mp hmark
      rw [subscriber.report_seen held hmark, Event.given, if_pos rfl]
      exact Array.getElem?_setIfInBounds_self_of_lt hlt

end Bus

theorem Storage.report_unmarked (name : String) (request : Topic.Request kind) :
    (report name request).Yields fun report => report.marked = none := by
  cases request with
  | look => exact .pure rfl
  | slotImage epoch | publish payload | receive buffer | readLatest buffer | readOldest buffer |
    resetCounters | receivePayload | latestPayload | drain => exact .bind _ fun _ => .pure rfl
  | publishMessage shape message | receiveMessage shape | latestMessage shape =>
      exact .bind _ fun _ => .pure rfl

theorem Subscriber.Request.handed_unmarked {request : Subscriber.Request kind} {report : Report}
    (h : report.marked = none) (hmarks : request ≠ .seeAll) (seen last : Nat) :
    (request.handed seen last report).marked = none := by
  cases request with
  | seeAll => exact absurd rfl hmarks
  | poll buffer | pollMessage shape =>
      rw [handed_poll rfl]
      split
      · exact h
      · rfl
  | look | receive buffer | readLatest buffer | drain | receiveMessage shape => exact h

/-- A subscriber is given epochs in their order, and none that its topic has not reached. -/
theorem Storage.handed_given (request : Subscriber.Request kind) (hholds : storage.ring.Holds queue)
    (hfew : queue.history.length < 2 ^ 63) (hkind : queue.layout.kind = kind)
    (hnew : request.polls → seen < queue.history.length) (name : String) (log : Log) :
    let answer := ((report name request.asked).exec storage log).1
    let handed := Report.ofOutcome (answer.1.map (request.handed seen storage.ring.lastEpoch))
    (request.given handed).Pairwise (· < ·) ∧
      ∀ epoch ∈ request.given handed, epoch ≤ answer.2.ring.lastEpoch := by
  intro answer handed
  obtain ⟨next, hturned⟩ :=
    handed_turned hholds hfew request hkind hnew storage.ring.lastEpoch name log
  have hlast : answer.2.ring.lastEpoch = next.history.length := hturned.holds.lastEpoch_eq
  have hgrown := congrArg List.length hturned.turn.extends_eq.history_eq
  rw [List.length_append] at hgrown
  rw [hlast]
  have hsorted (hmarks : request ≠ .seeAll) (hgiven : request.given handed =
      handed.marked.toList ++ (handed.delivered ++ handed.shown).map Prod.snd) :
      (request.given handed).Pairwise (· < ·) ∧
        ∀ epoch ∈ request.given handed, epoch ≤ next.history.length := by
    have hunmarked : handed.marked = none := by
      show (Report.ofOutcome (answer.1.map _)).marked = none
      rcases houtcome : answer.1 with failure | report
      · rfl
      · have hreport := report_unmarked name request.asked storage log report houtcome
        exact Subscriber.Request.handed_unmarked hreport hmarks seen _
    rw [hgiven, hunmarked, Option.toList_none, List.nil_append]
    refine ⟨hturned.ordered, ?_⟩
    rintro epoch hepoch
    obtain ⟨entry, hentry, rfl⟩ := List.mem_map.mp hepoch
    have hlt := List.snd_lt_add_of_mem_zipIdx (hturned.genuine entry hentry)
    omega
  cases request with
  | look | readLatest buffer => exact ⟨.nil, by rintro _ ⟨⟩⟩
  | seeAll =>
      have hgiven : (.seeAll : Subscriber.Request kind).given handed =
          [storage.ring.lastEpoch] := rfl
      rw [hgiven, hholds.lastEpoch_eq]
      refine ⟨List.pairwise_singleton _ _, ?_⟩
      rintro epoch hepoch
      rw [List.mem_singleton.mp hepoch]
      omega
  | poll buffer | pollMessage shape | receive buffer | drain | receiveMessage shape =>
      exact hsorted (by rintro ⟨⟩) rfl

theorem Subscriber.report_given (subscriber : Subscriber kind) (hheld : subscriber.Held bus)
    (hstorage : bus.storages[subscriber.topic.storage]? = some storage)
    (hholds : storage.ring.Holds queue) (hfew : queue.history.length < 2 ^ 63)
    (request : Subscriber.Request kind) (log : Log)
    (hstorage' : ((subscriber.report request).exec bus log).1.2.storages[
      subscriber.topic.storage]? = some storage') :
    let given := request.given (.ofOutcome ((subscriber.report request).exec bus log).1.1)
    given.Pairwise (· < ·) ∧ ∀ epoch ∈ given, epoch ≤ storage'.ring.lastEpoch := by
  obtain ⟨hlt, -⟩ := Array.getElem?_eq_some_iff.mp hstorage
  obtain ⟨seen, hmark⟩ := hheld.exists_seen
  have hkind := hheld.1.layout_kind hstorage hholds
  by_cases hidle : request.polls ∧ storage.ring.lastEpoch ≤ seen
  · rw [subscriber.report_idle hstorage hmark request hidle.1 hidle.2]
    simp only [Report.ofOutcome, Request.given_nothing]
    exact ⟨.nil, by rintro _ ⟨⟩⟩
  · have hnew : request.polls → seen < storage.ring.lastEpoch :=
      fun hpolls => Nat.lt_of_not_le fun hle => hidle ⟨hpolls, hle⟩
    rw [subscriber.report_served hstorage hmark request hnew] at hstorage' ⊢
    have hsame := (Array.getElem?_setIfInBounds_self_of_lt hlt).symm.trans hstorage'
    rw [← Option.some.inj hsame]
    rw [hholds.lastEpoch_eq] at hnew
    exact Storage.handed_given request hholds hfew hkind hnew _ log

/-- The latest epoch seen is the greatest of the one before and of those given since. -/
def Subscriber.Saw (before : Nat) (given : List Nat) (latest : Nat) : Prop :=
  IsGreatest {epoch | epoch = before ∨ epoch ∈ given} latest

namespace Subscriber.Saw

variable {middle latest : Nat} {front back given : List Nat}

theorem nothing (seen : Nat) : Saw seen [] seen := by
  refine ⟨.inl rfl, ?_⟩
  rintro epoch (rfl | hepoch)
  · exact Nat.le_refl epoch
  · cases hepoch

theorem unique {latest' : Nat} (h : Saw seen given latest) (h' : Saw seen given latest') :
    latest = latest' := IsGreatest.unique h h'

theorem le (h : Saw seen given latest) : seen ≤ latest := h.2 (.inl rfl)

theorem le_of_mem (h : Saw seen given latest) {epoch : Nat} (hepoch : epoch ∈ given) :
    epoch ≤ latest := h.2 (.inr hepoch)

theorem trans (h : Saw seen front middle) (h' : Saw middle back latest) :
    Saw seen (front ++ back) latest := by
  constructor
  · rcases h'.1 with rfl | hmem
    · exact h.1.imp_right (List.mem_append_left back)
    · exact .inr (List.mem_append_right front hmem)
  · rintro epoch (rfl | hmem)
    · exact h.le.trans h'.le
    · rcases List.mem_append.mp hmem with hold | hnew
      · exact (h.le_of_mem hold).trans h'.le
      · exact h'.le_of_mem hnew

theorem of_sorted (h : given.Pairwise (· < ·)) :
    Saw seen given (max seen (given.getLast?.getD 0)) := by
  rcases List.eq_nil_or_concat given with rfl | ⟨init, last, rfl⟩
  · rw [List.getLast?_nil, Option.getD_none, Nat.max_zero]
    exact nothing seen
  · rw [List.concat_eq_append] at h ⊢
    rw [List.getLast?_append, List.getLast?_singleton, Option.some_or, Option.getD_some]
    obtain ⟨-, -, hlast⟩ := List.pairwise_append.mp h
    constructor
    · rcases Nat.le_total seen last with hle | hle
      · rw [Nat.max_eq_right hle]
        exact .inr (by simp)
      · rw [Nat.max_eq_left hle]
        exact .inl rfl
    · rintro epoch (rfl | hmem)
      · exact Nat.le_max_left _ _
      · refine Nat.le_trans ?_ (Nat.le_max_right _ _)
        rcases List.mem_append.mp hmem with hinit | hsame
        · exact Nat.le_of_lt (hlast epoch hinit last (List.mem_singleton_self last))
        · rw [List.mem_singleton.mp hsame]

theorem le_of_forall (h : Saw seen given latest) {bound : Nat} (hseen : seen ≤ bound)
    (hgiven : ∀ epoch ∈ given, epoch ≤ bound) : latest ≤ bound := by
  rcases h.1 with rfl | hmem
  · exact hseen
  · exact hgiven latest hmem

end Subscriber.Saw

namespace Bus

section Attend

variable (hstorage : before.storages[index]? = some storage) (hholds : storage.ring.Holds queue)
  (hfew : queue.history.length < 2 ^ 63)

include hstorage hholds hfew

theorem Step.given_sorted (h : Step before event after) (hgenuine : event.Genuine mark index)
    (hstorage' : after.storages[index]? = some storage') :
    (event.given mark).Pairwise (· < ·) ∧
      ∀ epoch ∈ event.given mark, epoch ≤ storage'.ring.lastEpoch := by
  cases hasks : event.asks mark with
  | false =>
      rw [Event.given_of_asks hasks]
      exact ⟨.nil, by rintro _ ⟨⟩⟩
  | true =>
      obtain ⟨kind, subscriber, request, log, rfl, held, rfl, rfl⟩ := h.of_asks hasks
      obtain rfl : subscriber.topic.storage = index := hgenuine rfl
      rw [Event.given, if_pos rfl]
      exact subscriber.report_given held hstorage hholds hfew request log hstorage'

theorem Step.attends (h : Step before event after) (hgenuine : event.Genuine mark index)
    (hmark : before.seen[mark]? = some seen) (hle : seen ≤ storage.ring.lastEpoch) :
    ∃ storage' seen', after.storages[index]? = some storage' ∧ after.seen[mark]? = some seen' ∧
      Subscriber.Saw seen (event.given mark) seen' ∧ seen' ≤ storage'.ring.lastEpoch := by
  obtain ⟨storage', next, hstorage', hnext, hextends, -⟩ := h.extends hstorage hholds hfew
  obtain ⟨hsorted, hreached⟩ := h.given_sorted hstorage hholds hfew hgenuine hstorage'
  have hsaw : Subscriber.Saw seen (event.given mark) _ := .of_sorted hsorted
  refine ⟨storage', _, hstorage', h.seen_eq hmark, hsaw, hsaw.le_of_forall ?_ hreached⟩
  have hgrown := congrArg List.length hextends.history_eq
  rw [List.length_append] at hgrown
  rw [hholds.lastEpoch_eq] at hle
  rw [hnext.lastEpoch_eq]
  omega

theorem Run.attends (h : Run before events after)
    (hgenuine : ∀ event ∈ events, event.Genuine mark index)
    (hmark : before.seen[mark]? = some seen) (hle : seen ≤ storage.ring.lastEpoch) :
    ∃ storage' seen', after.storages[index]? = some storage' ∧ after.seen[mark]? = some seen' ∧
      Subscriber.Saw seen (given mark events) seen' ∧ seen' ≤ storage'.ring.lastEpoch := by
  induction h with
  | nil => exact ⟨storage, seen, hstorage, hmark, .nothing seen, hle⟩
  | @snoc middle after events event run step ih =>
      obtain ⟨between, seen', hbetween, hseen', hsaw, hreached⟩ :=
        ih fun event hevent => hgenuine event (List.mem_append_left _ hevent)
      obtain ⟨found, queue', hfound, hholds', -, hfew'⟩ := run.extends hstorage hholds hfew
      obtain rfl := Option.some.inj (hbetween.symm.trans hfound)
      obtain ⟨storage', latest, hstorage', hlatest, hevent, hlast⟩ :=
        step.attends hbetween hholds' hfew' (hgenuine event (by simp)) hseen' hreached
      rw [given_snoc]
      exact ⟨storage', latest, hstorage', hlatest, hsaw.trans hevent, hlast⟩

end Attend

end Bus

namespace Subscriber

/-- How a poll goes: what there is to know is the latest entry, if it is new; and it is told only
of a live topic and to a buffer of the right size. -/
inductive Polls (subscriber : Subscriber kind) (request : Subscriber.Request kind) (bus : Bus)
    (storage : Storage) (seen : Nat) (given : List Nat) (accepted : List Bytes) : Prop
  | idle (old : storage.ring.lastEpoch ≤ seen)
      (exec : ∀ log, (subscriber.report request).exec bus log = ((.ok {}, bus), log))
  | news (new : seen < storage.ring.lastEpoch)
      (newer : ∀ epoch ∈ given, epoch < storage.ring.lastEpoch)
      {payload : Bytes} (latest : accepted.getLast? = some payload)
      (live : storage.released = false) (fits : request.Fits storage.ring.layout payload)
      {after : Bus} (exec : ∀ log, (subscriber.report request).exec bus log =
        ((.ok { shown := [(payload, storage.ring.lastEpoch)] }, after), log))
      (isBehind : ∀ log, subscriber.isBehind.exec after log = ((.ok false, after), log))
  | refused (new : seen < storage.ring.lastEpoch) {payload : Bytes}
      (latest : accepted.getLast? = some payload)
      (misses : ¬(storage.released = false ∧ request.Fits storage.ring.layout payload))
      {reason : Refusal} (exec : ∀ log, (subscriber.report request).exec bus log =
        ((.error (.refused reason), bus), log))

theorem polls_cases (subscriber : Subscriber kind)
    (hstorage : bus.storages[subscriber.topic.storage]? = some storage)
    (hholds : storage.ring.Holds queue) (hfew : queue.history.length < 2 ^ 63)
    (hkind : queue.layout.kind = kind) (hmark : bus.seen[subscriber.mark]? = some seen)
    {given : List Nat} (hgiven : ∀ epoch ∈ given, epoch ≤ seen) {request : Subscriber.Request kind}
    (hpolls : request.polls) :
    subscriber.Polls request bus storage seen given queue.history := by
  have hlength : storage.ring.lastEpoch = queue.history.length := hholds.lastEpoch_eq
  by_cases hnew : seen < queue.history.length
  · obtain ⟨payload, hlast⟩ := queue.exists_latest_entry (Nat.zero_lt_of_lt hnew)
    by_cases hfits : storage.released = false ∧ request.Fits queue.layout payload
    · have hexec := subscriber.poll_fit hholds hfew hkind hnew hstorage hmark hlast hfits.1 hfits.2
      obtain ⟨hlt, -⟩ := Array.getElem?_eq_some_iff.mp hstorage
      obtain ⟨hlt', -⟩ := Array.getElem?_eq_some_iff.mp hmark
      let next : Bus := { bus with
        storages := bus.storages.setIfInBounds subscriber.topic.storage storage.peeked
        seen := bus.seen.setIfInBounds subscriber.mark queue.history.length }
      have hnext : next.storages[subscriber.topic.storage]? = some storage.peeked :=
        Array.getElem?_setIfInBounds_self_of_lt hlt
      have hmark' : next.seen[subscriber.mark]? = some queue.history.length :=
        Array.getElem?_setIfInBounds_self_of_lt hlt'
      have htold : ∀ log, (subscriber.report request).exec bus log =
          ((.ok { shown := [(payload, storage.ring.lastEpoch)] }, next), log) := by
        rw [hlength]
        exact hexec
      have hidle : ¬queue.history.length < storage.peeked.ring.lastEpoch :=
        Nat.not_lt.mpr (Nat.le_of_eq hlength)
      have hbehind : ∀ log, subscriber.isBehind.exec next log = ((.ok false, next), log) := by
        intro log
        rw [subscriber.isBehind_exec hnext hmark', decide_eq_false hidle]
      rw [← hholds.layout_eq] at hfits
      rw [← hlength] at hnew
      exact .news hnew (fun epoch hepoch => (hgiven epoch hepoch).trans_lt hnew) hlast hfits.1
        hfits.2 htold hbehind
    · obtain ⟨reason, hexec⟩ :=
        subscriber.poll_misfit hholds hfew hnew hstorage hmark hlast hpolls hfits
      rw [← hholds.layout_eq] at hfits
      exact .refused (hlength ▸ hnew) hlast hfits hexec
  · have hold : storage.ring.lastEpoch ≤ seen := by omega
    exact .idle hold (subscriber.report_idle hstorage hmark request hpolls hold)

end Subscriber

theorem Subscriber.create_exec (topic : Topic kind) (bus : Bus) (log : Log) :
    (Subscriber.create topic).exec bus log =
      ((.ok ⟨topic, bus.seen.size⟩, { bus with seen := bus.seen.push 0 }), log) := rfl

theorem Subscriber.create_eq_ok {topic : Topic kind} {subscriber : Subscriber kind} {log' : Log}
    (h : (Subscriber.create topic).exec before log = ((.ok subscriber, after), log')) :
    subscriber.topic = topic ∧ after.storages = before.storages ∧
      after.seen[subscriber.mark]? = some 0 := by
  rw [create_exec] at h
  simp only [Prod.mk.injEq, Except.ok.injEq] at h
  obtain ⟨⟨rfl, rfl⟩, -⟩ := h
  exact ⟨rfl, rfl, Array.getElem?_push_size⟩

theorem Subscriber.storage_of_created {spec : TopicSpec} {id : TopicId} {made middle start : Bus}
    {log log' other other' : Log} {topic : Topic kind} {subscriber : Subscriber kind}
    {front : List Bus.Event}
    (hmade : (Topic.ofSpec kind spec id).exec before log = ((.ok topic, made), log'))
    (hfront : Bus.Run made front middle)
    (hcreated : (Subscriber.create topic).exec middle other = ((.ok subscriber, start), other')) :
    subscriber.topic = topic ∧ start.seen[subscriber.mark]? = some 0 ∧
      ∃ storage queue, start.storages[topic.storage]? = some storage ∧ storage.ring.Holds queue ∧
        queue.layout.kind = kind ∧ queue.history = Bus.accepted topic.storage front ∧
        queue.history.length < 2 ^ 63 := by
  obtain ⟨storage, queue, hstorage, hholds, hlayout, -, hhistory, hfew⟩ :=
    topic.storage_of_run hmade hfront
  obtain ⟨hsame, hstorages, hzero⟩ := Subscriber.create_eq_ok hcreated
  rw [← hstorages] at hstorage
  exact ⟨hsame, hzero, storage, queue, hstorage, hholds, (Layout.create_eq_ok hlayout).1, hhistory,
    hfew⟩

/-- A subscriber of any topic, and any run of calls by any number of users since it was made: the
latest epoch that it has seen is the greatest of those that it was given or marked itself, and by
that it is decided what a poll brings. -/
theorem Subscriber.attentive {spec : TopicSpec} {id : TopicId} {made middle start : Bus}
    {log log' other other' : Log} {topic : Topic kind} {subscriber : Subscriber kind}
    {front back : List Bus.Event}
    (hmade : (Topic.ofSpec kind spec id).exec before log = ((.ok topic, made), log'))
    (hfront : Bus.Run made front middle)
    (hcreated : (Subscriber.create topic).exec middle other = ((.ok subscriber, start), other'))
    (hback : Bus.Run start back after)
    (hgenuine : ∀ event ∈ back, event.Genuine subscriber.mark topic.storage) :
    (∀ log, subscriber.latestSeen.exec start log = ((.ok 0, start), log)) ∧
    ∃ storage seen, after.storages[topic.storage]? = some storage ∧
      storage.ring.lastEpoch = (Bus.accepted topic.storage (front ++ back)).length ∧
      (∀ log, subscriber.latestSeen.exec after log = ((.ok seen, after), log)) ∧
      (∀ log, subscriber.isBehind.exec after log =
        ((.ok (decide (seen < storage.ring.lastEpoch)), after), log)) ∧
      Subscriber.Saw 0 (Bus.given subscriber.mark back) seen ∧ seen ≤ storage.ring.lastEpoch ∧
      (∀ events later, Bus.Run after events later →
        (∀ event ∈ events, event.Genuine subscriber.mark topic.storage) →
        ∃ seen', later.seen[subscriber.mark]? = some seen' ∧ seen ≤ seen' ∧
          ((∀ event ∈ events, event.asks subscriber.mark = false) → seen' = seen)) ∧
      ∀ request : Subscriber.Request kind, request.polls →
        subscriber.Polls request after storage seen (Bus.given subscriber.mark back)
          (Bus.accepted topic.storage (front ++ back)) := by
  obtain ⟨rfl, hzero, first, queue₁, hfirst, hholds₁, hkind₁, hhistory₁, hfew₁⟩ :=
    subscriber.storage_of_created hmade hfront hcreated
  obtain ⟨storage, queue, hstorage, hholds, hextends, hfew⟩ := hback.extends hfirst hholds₁ hfew₁
  obtain ⟨found, seen, hfound, hmark, hsaw, hle⟩ :=
    hback.attends hfirst hholds₁ hfew₁ hgenuine hzero (Nat.zero_le _)
  obtain rfl := Option.some.inj (hfound.symm.trans hstorage)
  have hhistory : queue.history = Bus.accepted subscriber.topic.storage (front ++ back) := by
    rw [hextends.history_eq, hhistory₁, Bus.accepted_append]
  have hkind : queue.layout.kind = kind := by
    rw [hextends.layout_eq, hkind₁]
  refine ⟨fun log => subscriber.latestSeen_exec hzero log, found, seen, hstorage, ?_,
    fun log => subscriber.latestSeen_exec hmark log,
    fun log => subscriber.isBehind_exec hstorage hmark log, hsaw, hle, ?_, ?_⟩
  · rw [hholds.lastEpoch_eq, hhistory]
  · intro events later hlater hown
    obtain ⟨-, seen', -, hmark', hsaw', -⟩ := hlater.attends hstorage hholds hfew hown hmark hle
    refine ⟨seen', hmark', hsaw'.le, fun hothers => ?_⟩
    rw [Bus.given_of_asks hothers] at hsaw'
    exact hsaw'.unique (.nothing seen)
  · intro request hpolls
    have hlaw := subscriber.polls_cases hstorage hholds hfew hkind hmark
      (fun _ hepoch => hsaw.le_of_mem hepoch) hpolls
    rwa [hhistory] at hlaw

/-- A poll without the room for a new entry leaves all as it is, so that the next poll with room
for it still brings it. -/
theorem Subscriber.attentive_refused :
    ∃ (subscriber : Subscriber .byte) (events : List Bus.Event) (bus after : Bus),
      Bus.given subscriber.mark events = [1] ∧
      (∀ log, subscriber.latestSeen.exec bus log = ((.ok 1, bus), log)) ∧
      (∃ reason, ∀ log, (subscriber.report (.poll [0])).exec bus log =
        ((.error (.refused reason), bus), log)) ∧
      ∀ log, (subscriber.report (.poll [0, 0])).exec bus log =
        ((.ok { shown := [([2, 3], 2)] }, after), log) := by
  let topic : Topic .byte := ⟨"a", .detached, 0⟩
  let subscriber : Subscriber .byte := ⟨topic, 0⟩
  let made := (Topic.ofSpec .byte ⟨"a", .byte, 2, 4⟩ .detached).exec {} #[]
  have hmade : made = ((.ok topic, made.1.2), made.2) := rfl
  let first := ((Bus.Request.topic topic (.publish [1])).report.exec made.1.2 #[]).1.2
  obtain ⟨front, hfront, hone⟩ :
      ∃ front, Bus.Run made.1.2 front first ∧ Bus.accepted topic.storage front = [[1]] :=
    ⟨_, (Bus.Run.nil made.1.2).snoc (.call _ #[] _ (by decide +kernel)), by decide +kernel⟩
  let start : Bus := { first with seen := first.seen.push 0 }
  have hsize : first.seen.size = 0 := by decide +kernel
  have hcreated : (Subscriber.create topic).exec first #[] = ((.ok subscriber, start), #[]) := by
    rw [Subscriber.create_exec, hsize]
  have hreach {events : List Bus.Event} {bus : Bus} (hrun : Bus.Run start events bus)
      (hgenuine : ∀ event ∈ events, event.Genuine 0 0) (hgiven : Bus.given 0 events = [1])
      (haccepted : Bus.accepted topic.storage events = [[2, 3]])
      (hlive : (bus.storages[0]?).map (fun found => (found.released, found.ring.layout.kind)) =
        some (false, .byte)) :
      ∃ after, Bus.given subscriber.mark events = [1] ∧
        (∀ log, subscriber.latestSeen.exec bus log = ((.ok 1, bus), log)) ∧
        (∃ reason, ∀ log, (subscriber.report (.poll [0])).exec bus log =
          ((.error (.refused reason), bus), log)) ∧
        ∀ log, (subscriber.report (.poll [0, 0])).exec bus log =
          ((.ok { shown := [([2, 3], 2)] }, after), log) := by
    obtain ⟨-, storage, seen, hstorage, hlast, hseen, -, hsaw, -, -, hpolls⟩ :=
      Subscriber.attentive hmade hfront hcreated hrun hgenuine
    have hshort := hpolls (.poll [0]) rfl
    have hroomy := hpolls (.poll [0, 0]) rfl
    rw [Bus.accepted_append, hone, haccepted] at hlast hshort hroomy
    rw [hgiven] at hsaw
    obtain rfl : seen = 1 := hsaw.unique (.of_sorted (List.pairwise_singleton _ 1))
    have hnew : ¬storage.ring.lastEpoch ≤ 1 := by simp [hlast]
    obtain ⟨found, hfound, hpair⟩ := Option.map_eq_some_iff.mp hlive
    obtain rfl := Option.some.inj (hfound.symm.trans hstorage)
    obtain ⟨hreleased, hkind⟩ := Prod.mk.inj hpair
    have hrefused : ∃ reason, ∀ log, (subscriber.report (.poll [0])).exec bus log =
        ((.error (.refused reason), bus), log) := by
      cases hshort with
      | idle old => exact absurd old hnew
      | @news new newer payload latest live fits =>
          cases latest
          simp [Subscriber.Request.Fits, Layout.Room, hkind] at fits
      | refused new latest misses exec => exact ⟨_, exec⟩
    cases hroomy with
    | idle old => exact absurd old hnew
    | @news new newer payload latest live fits after exec =>
        rw [hlast] at exec
        cases latest
        exact ⟨after, hgiven, hseen, hrefused, exec⟩
    | @refused new payload latest misses =>
        cases latest
        refine absurd ⟨hreleased, ?_⟩ misses
        simp [Subscriber.Request.Fits, Layout.Room, hkind]
  let receive : Bus.Request := .subscriber subscriber (.receive [0])
  have hread := (Bus.Run.nil start).snoc (.call _ #[] receive (by decide +kernel))
  have hpublish := hread.snoc (.call _ #[] (.topic topic (.publish [2, 3])) (by decide +kernel))
  obtain ⟨after, hreached⟩ := hreach hpublish (by decide +kernel) (by decide +kernel)
    (by decide +kernel) (by decide +kernel)
  exact ⟨subscriber, _, _, after, hreached⟩

end TopicBus
