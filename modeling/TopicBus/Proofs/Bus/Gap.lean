import TopicBus.Proofs.Bus.Seen

/-!
Gaps of subscribers. The latest epoch of a topic is the latest that a subscriber has seen, and those
that it missed since, and one more if it is behind. A subscriber that does no more than poll passes
over some epochs whenever it is shown one: as many as it could tell right before. What it was shown
and what it passed over is all that it has seen.
-/

namespace TopicBus

open Op

variable {kind : Kind}

namespace Bus

structure Turn where
  before : Bus
  event : Event
  after : Bus
  step : Step before event after

inductive Path : Bus → List Turn → Bus → Prop
  | nil (bus : Bus) : Path bus [] bus
  | snoc {start : Bus} {turns : List Turn} (turn : Turn) (path : Path start turns turn.before) :
      Path start (turns ++ [turn]) turn.after

theorem Path.run {start bus : Bus} {turns : List Turn} (h : Path start turns bus) :
    Run start (turns.map Turn.event) bus := by
  induction h with
  | nil => exact .nil _
  | snoc turn path ih =>
      rw [List.map_append]
      exact ih.snoc turn.step

theorem Path.call {start bus : Bus} {turns : List Turn} (h : Path start turns bus)
    (request : Request) (held : request.Held bus) :
    Path start (turns ++ [⟨bus, _, _, .call bus #[] request held⟩])
      (request.report.exec bus #[]).1.2 :=
  .snoc ⟨bus, _, _, .call bus #[] request held⟩ h

end Bus

namespace Subscriber.Request

/-- Whether a request takes nothing and marks nothing, but for what it polls. -/
def watches : Subscriber.Request kind → Bool
  | .look | .readLatest _ | .poll _ | .pollMessage _ => true
  | _ => false

def shows (request : Subscriber.Request kind) : Except Failure Report → Bool
  | .ok report => request.polls && !report.shown.isEmpty
  | .error _ => false

theorem shows_of_polls_eq {request : Subscriber.Request kind} (h : request.polls = false)
    (outcome : Except Failure Report) : request.shows outcome = false := by
  cases outcome with
  | ok report => rw [shows, h, Bool.false_and]
  | error failure => rfl

end Subscriber.Request

namespace Bus.Event

def watches (mark : Nat) : Event → Bool
  | .call (.subscriber handle request) _ => decide (handle.mark ≠ mark) || request.watches
  | _ => true

def shows (mark : Nat) : Event → Bool
  | .call (.subscriber handle request) outcome =>
    decide (handle.mark = mark) && request.shows outcome
  | _ => false

theorem shows_of_asks {mark : Nat} {event : Event} (h : event.asks mark = false) :
    event.shows mark = false := by
  cases event with
  | registry => rfl
  | call request outcome =>
      cases request with
      | create kind spec | subscribe handle | provide memory => rfl
      | topic handle request | publisher handle request => rfl
      | subscriber handle request =>
          have hmark : decide (handle.mark = mark) = false := h
          rw [shows, hmark, Bool.false_and]

end Bus.Event

namespace Subscriber

variable (subscriber : Subscriber kind)

def gap (bus : Bus) : Nat := (subscriber.missed.exec bus #[]).1.1.toOption.getD 0

def skipped (turn : Bus.Turn) : Nat :=
  if turn.event.shows subscriber.mark then subscriber.gap turn.before else 0

structure Reckons (bus : Bus) (seen missed : Nat) (behind : Bool) : Prop where
  latestSeen_exec : ∀ log, subscriber.latestSeen.exec bus log = ((.ok seen, bus), log)
  missed_exec : ∀ log, subscriber.missed.exec bus log = ((.ok missed, bus), log)
  isBehind_exec : ∀ log, subscriber.isBehind.exec bus log = ((.ok behind, bus), log)
  lastEpoch_exec : ∀ log, subscriber.topic.lastEpoch.exec bus log =
    ((.ok (seen + missed + behind.toNat), bus), log)

/-- What a poll brings: an entry right behind the gap, which is the latest one seen from then on; or
else nothing, and nothing changes. -/
inductive Gains (before : Bus) (seen missed : Nat) : Except Failure Report → Bus → Prop
  | shown (payload : Bytes) (epoch : Nat) (after : Bus) (new : seen < epoch)
      (missed_eq : epoch - seen - 1 = missed)
      (latestSeen_exec : ∀ log, subscriber.latestSeen.exec after log = ((.ok epoch, after), log)) :
      Gains before seen missed (.ok { shown := [(payload, epoch)] }) after
  | nothing : Gains before seen missed (.ok {}) before
  | refused (reason : Refusal) : Gains before seen missed (.error (.refused reason)) before

end Subscriber

variable {bus start after : Bus} {event : Bus.Event} {storage : Storage} {queue : Queue}
  {mark index seen : Nat} {log : Log}

namespace Subscriber

variable (subscriber : Subscriber kind)
  (hstorage : bus.storages[subscriber.topic.storage]? = some storage)
  (hmark : bus.seen[subscriber.mark]? = some seen)

include hstorage hmark

theorem missed_exec (log : Log) :
    subscriber.missed.exec bus log = ((.ok (storage.ring.lastEpoch - seen - 1), bus), log) := by
  simp only [missed, exec_bind, subscriber.latestSeen_exec hmark,
    subscriber.topic.lastEpoch_exec hstorage, exec_pure]

theorem gap_eq : subscriber.gap bus = storage.ring.lastEpoch - seen - 1 := by
  rw [gap, subscriber.missed_exec hstorage hmark]
  rfl

theorem reckons (hle : seen ≤ storage.ring.lastEpoch) :
    subscriber.Reckons bus seen (storage.ring.lastEpoch - seen - 1)
      (decide (seen < storage.ring.lastEpoch)) where
  latestSeen_exec := subscriber.latestSeen_exec hmark
  missed_exec := subscriber.missed_exec hstorage hmark
  isBehind_exec := subscriber.isBehind_exec hstorage hmark
  lastEpoch_exec log := by
    have hsum : seen + (storage.ring.lastEpoch - seen - 1) +
        (decide (seen < storage.ring.lastEpoch)).toNat = storage.ring.lastEpoch := by
      by_cases hnew : seen < storage.ring.lastEpoch
      · rw [decide_eq_true hnew, Bool.toNat_true]
        omega
      · rw [decide_eq_false hnew, Bool.toNat_false]
        omega
    rw [hsum, subscriber.topic.lastEpoch_exec hstorage]

end Subscriber

section Polls

variable (subscriber : Subscriber kind) (hheld : subscriber.Held bus)
  (hstorage : bus.storages[subscriber.topic.storage]? = some storage)
  (hholds : storage.ring.Holds queue) (hfew : queue.history.length < 2 ^ 63)
  (hmark : bus.seen[subscriber.mark]? = some seen) {request : Subscriber.Request kind}

include hheld hstorage hholds hfew hmark

theorem Subscriber.report_polled (hpolls : request.polls) (log : Log) :
    let answer := ((subscriber.report request).exec bus log).1
    (∃ payload, seen < storage.ring.lastEpoch ∧
      answer.1 = .ok { shown := [(payload, storage.ring.lastEpoch)] } ∧
      answer.2.seen[subscriber.mark]? = some storage.ring.lastEpoch) ∨
    answer = (.ok {}, bus) ∨ ∃ reason, answer = (.error (.refused reason), bus) := by
  intro answer
  have hkind := hheld.1.layout_kind hstorage hholds
  have hlaw := subscriber.polls_cases hstorage hholds hfew hkind hmark
    (fun _ hepoch => absurd hepoch List.not_mem_nil) hpolls
  cases hlaw with
  | idle old exec => exact .inr (.inl (congrArg (·.1) (exec log)))
  | refused new latest misses exec => exact .inr (.inr ⟨_, congrArg (·.1) (exec log)⟩)
  | @news new newer payload latest live fits after exec isBehind =>
      have hanswer : answer = (.ok { shown := [(payload, storage.ring.lastEpoch)] }, after) :=
        congrArg (·.1) (exec log)
      have hseen : answer.2.seen = _ := subscriber.report_seen hheld hmark request log
      refine .inl ⟨payload, new, congrArg Prod.fst hanswer, ?_⟩
      rw [hseen, show ((subscriber.report request).exec bus log).1 = _ from hanswer]
      simp only [Report.ofOutcome, Request.given_poll hpolls, Option.toList_none, List.nil_append,
        List.map_cons, List.map_nil, List.getLast?_singleton, Option.getD_some,
        Nat.max_eq_right new.le]
      exact Array.getElem?_setIfInBounds_self_of_lt hheld.2

theorem Subscriber.report_gains (hpolls : request.polls) (log : Log) :
    subscriber.Gains bus seen (storage.ring.lastEpoch - seen - 1)
      ((subscriber.report request).exec bus log).1.1
      ((subscriber.report request).exec bus log).1.2 := by
  have hpolled := subscriber.report_polled hheld hstorage hholds hfew hmark hpolls log
  generalize ((subscriber.report request).exec bus log).1 = answer at hpolled ⊢
  obtain ⟨outcome, after⟩ := answer
  rcases hpolled with ⟨payload, hnew, rfl, hseen⟩ | hidle | ⟨reason, hrefused⟩
  · exact .shown payload _ after hnew rfl (subscriber.latestSeen_exec hseen)
  · cases hidle
    exact .nothing
  · cases hrefused
    exact .refused reason

/-- What watching adds to the epochs seen: one that is shown, and those missed before it. -/
theorem Subscriber.report_watched (hwatches : request.watches) (log : Log) :
    let answer := ((subscriber.report request).exec bus log).1
    answer.2.seen[subscriber.mark]? = some (seen + ((request.shows answer.1).toNat +
      if request.shows answer.1 then subscriber.gap bus else 0)) := by
  dsimp only
  cases hpolls : request.polls with
  | false =>
      have hseen := subscriber.report_seen hheld hmark request log
      have hgiven (report : Report) : request.given report = [] := by
        cases request with
        | look | readLatest buffer => rfl
        | poll buffer | pollMessage shape => cases hpolls
        | seeAll | receive buffer | drain | receiveMessage shape => cases hwatches
      rw [hseen, hgiven, Request.shows_of_polls_eq hpolls, List.getLast?_nil, Option.getD_none,
        Nat.max_zero]
      exact Array.getElem?_setIfInBounds_self_of_lt hheld.2
  | true =>
      have hgap := subscriber.gap_eq hstorage hmark
      have hpolled := subscriber.report_polled hheld hstorage hholds hfew hmark hpolls log
      generalize ((subscriber.report request).exec bus log).1 = answer at hpolled ⊢
      obtain ⟨outcome, after⟩ := answer
      rcases hpolled with ⟨payload, hnew, rfl, hseen⟩ | hidle | ⟨reason, hrefused⟩
      · have hshows : request.shows (.ok { shown := [(payload, storage.ring.lastEpoch)] }) = true := by
          rw [Request.shows, hpolls]
          rfl
        rw [hseen, hshows, Bool.toNat_true, if_pos rfl, hgap]
        congr 1
        omega
      · cases hidle
        have hshows : request.shows (.ok {}) = false := Bool.and_false _
        rw [hshows]
        exact hmark
      · cases hrefused
        exact hmark

end Polls

namespace Subscriber

variable (subscriber : Subscriber kind) {turns : List Bus.Turn}

theorem seen_turn (turn : Bus.Turn)
    (hstorage : turn.before.storages[subscriber.topic.storage]? = some storage)
    (hholds : storage.ring.Holds queue) (hfew : queue.history.length < 2 ^ 63)
    (hmark : turn.before.seen[subscriber.mark]? = some seen)
    (hgenuine : turn.event.Genuine subscriber.mark subscriber.topic.storage)
    (hwatches : turn.event.watches subscriber.mark) :
    turn.after.seen[subscriber.mark]? =
      some (seen + ((turn.event.shows subscriber.mark).toNat + subscriber.skipped turn)) := by
  obtain ⟨before, event, after, step⟩ := turn
  rw [skipped]
  cases hasks : event.asks subscriber.mark with
  | false =>
      rw [Bus.Event.shows_of_asks hasks]
      exact step.seen_same hmark hasks
  | true =>
      obtain ⟨kind, handle, request, log, hsame, held, rfl, rfl⟩ := step.of_asks hasks
      have hindex : handle.topic.storage = subscriber.topic.storage := hgenuine hsame
      have hwatch : request.watches := by
        simpa [Bus.Event.watches, hsame] using hwatches
      have hgap := subscriber.gap_eq hstorage hmark
      rw [← hsame] at hmark
      rw [← hindex] at hstorage
      rw [← handle.gap_eq hstorage hmark] at hgap
      have hseen := handle.report_watched held hstorage hholds hfew hmark hwatch log
      simp only [Bus.Event.shows, hsame, decide_true, Bool.true_and, hgap]
      rw [← hsame]
      exact hseen

/-- What a subscriber that only watches has seen is what it was shown, and what it passed over. -/
theorem seen_path (h : Bus.Path start turns bus)
    (hstorage : start.storages[subscriber.topic.storage]? = some storage)
    (hholds : storage.ring.Holds queue) (hfew : queue.history.length < 2 ^ 63)
    (hmark : start.seen[subscriber.mark]? = some seen)
    (hgenuine : ∀ turn ∈ turns, turn.event.Genuine subscriber.mark subscriber.topic.storage)
    (hwatches : ∀ turn ∈ turns, turn.event.watches subscriber.mark) :
    bus.seen[subscriber.mark]? = some (seen +
      (turns.countP (fun turn => turn.event.shows subscriber.mark) +
        (turns.map subscriber.skipped).sum)) := by
  induction h with
  | nil => exact hmark
  | snoc turn path ih =>
      have hbefore := ih (fun other hother => hgenuine other (List.mem_append_left _ hother))
        fun other hother => hwatches other (List.mem_append_left _ hother)
      obtain ⟨storage', queue', hstorage', hholds', -, hfew'⟩ :=
        path.run.extends hstorage hholds hfew
      have hturn := subscriber.seen_turn turn hstorage' hholds' hfew' hbefore
        (hgenuine turn (by simp)) (hwatches turn (by simp))
      rw [hturn, List.countP_append, List.countP_singleton, List.map_append, List.sum_append]
      congr 1
      rw [List.map_singleton, List.sum_singleton]
      cases turn.event.shows subscriber.mark <;> simp <;> omega

end Subscriber

/-- Whatever happens on a bus, what a subscriber has seen, what it missed since and what it is still
behind come to the latest epoch of its topic, and a poll brings the entry behind the gap or nothing.
A subscriber that was never used but to watch has seen the entries that its polls brought and those
that they passed over, and no others. -/
theorem Subscriber.gaps_add_up {spec : TopicSpec} {id : TopicId} {before made middle : Bus}
    {log' other other' : Log} {topic : Topic kind} {subscriber : Subscriber kind}
    {front : List Bus.Event} {turns : List Bus.Turn}
    (hmade : (Topic.ofSpec kind spec id).exec before log = ((.ok topic, made), log'))
    (hfront : Bus.Run made front middle)
    (hcreated : (Subscriber.create topic).exec middle other = ((.ok subscriber, start), other'))
    (hpath : Bus.Path start turns bus)
    (hgenuine : ∀ turn ∈ turns, turn.event.Genuine subscriber.mark topic.storage) :
    ∃ seen missed behind, subscriber.Reckons bus seen missed behind ∧
      (∀ request : Subscriber.Request kind, request.polls → ∀ log,
        subscriber.Gains bus seen missed ((subscriber.report request).exec bus log).1.1
          ((subscriber.report request).exec bus log).1.2) ∧
      ((∀ turn ∈ turns, turn.event.watches subscriber.mark) →
        let observed := turns.countP fun turn => turn.event.shows subscriber.mark
        let skipped := (turns.map subscriber.skipped).sum
        observed + skipped = seen ∧
        ∀ log, subscriber.topic.lastEpoch.exec bus log =
          ((.ok (observed + skipped + (missed + behind.toNat)), bus), log)) := by
  obtain ⟨rfl, hzero, first, queue₁, hfirst, hholds₁, hkind₁, -, hfew₁⟩ :=
    subscriber.storage_of_created hmade hfront hcreated
  obtain ⟨storage, queue, hstorage, hholds, hextends, hfew⟩ :=
    hpath.run.extends hfirst hholds₁ hfew₁
  have hevents : ∀ event ∈ turns.map Bus.Turn.event,
      event.Genuine subscriber.mark subscriber.topic.storage := by
    intro event hevent
    obtain ⟨turn, hturn, rfl⟩ := List.mem_map.mp hevent
    exact hgenuine turn hturn
  obtain ⟨found, seen, hfound, hmark, -, hle⟩ :=
    hpath.run.attends hfirst hholds₁ hfew₁ hevents hzero (Nat.zero_le _)
  obtain rfl := Option.some.inj (hfound.symm.trans hstorage)
  have hkind : found.ring.layout.kind = kind := by
    rw [hholds.layout_eq, hextends.layout_eq, hkind₁]
  have hheld : subscriber.Held bus :=
    ⟨.of_layout hstorage hkind, (Array.getElem?_eq_some_iff.mp hmark).1⟩
  have hreckons := subscriber.reckons hstorage hmark hle
  refine ⟨seen, _, _, hreckons, ?_, ?_⟩
  · exact fun request hpolls log =>
      subscriber.report_gains hheld hstorage hholds hfew hmark hpolls log
  · intro hwatches observed skipped
    have hseen : observed + skipped = seen := by
      have hsum := subscriber.seen_path hpath hfirst hholds₁ hfew₁ hzero hgenuine hwatches
      rw [Nat.zero_add] at hsum
      exact Option.some.inj (hsum.symm.trans hmark)
    refine ⟨hseen, fun log => ?_⟩
    rw [hseen, ← Nat.add_assoc]
    exact hreckons.lastEpoch_exec log

/-- Two entries are published and one of them is consumed by another user before the first poll; the
second poll has no room for what is new by then. -/
theorem Subscriber.gaps_add_up_refused :
    ∃ (subscriber : Subscriber .byte) (turns : List Bus.Turn) (bus : Bus), turns.length = 7 ∧
      (turns.countP fun turn => turn.event.shows subscriber.mark) = 1 ∧
      (turns.map subscriber.skipped).sum = 2 ∧ subscriber.Reckons bus 3 0 true := by
  let topic : Topic .byte := ⟨"a", .detached, 0⟩
  let subscriber : Subscriber .byte := ⟨topic, 0⟩
  let made := (Topic.ofSpec .byte ⟨"a", .byte, 1, 4⟩ .detached).exec {} #[]
  have hmade : made = ((.ok topic, made.1.2), made.2) := rfl
  let start : Bus := { made.1.2 with seen := made.1.2.seen.push 0 }
  have hsize : made.1.2.seen.size = 0 := by decide +kernel
  have hcreated : (Subscriber.create topic).exec made.1.2 #[] = ((.ok subscriber, start), #[]) := by
    rw [Subscriber.create_exec, hsize]
  have hreach {turns : List Bus.Turn} {bus : Bus} (hpath : Bus.Path start turns bus)
      (hgenuine : ∀ turn ∈ turns, turn.event.Genuine 0 0)
      (hwatches : ∀ turn ∈ turns, turn.event.watches 0)
      (hobserved : (turns.countP fun turn => turn.event.shows 0) = 1)
      (hskipped : (turns.map subscriber.skipped).sum = 2)
      (hmissed : (subscriber.missed.exec bus #[]).1.1 = .ok 0)
      (hbehind : (subscriber.isBehind.exec bus #[]).1.1 = .ok true) :
      (turns.countP fun turn => turn.event.shows subscriber.mark) = 1 ∧
        (turns.map subscriber.skipped).sum = 2 ∧ subscriber.Reckons bus 3 0 true := by
    obtain ⟨seen, missed, behind, hreckons, -, hwatched⟩ :=
      Subscriber.gaps_add_up hmade (.nil made.1.2) hcreated hpath hgenuine
    have hseen := (hwatched hwatches).1
    rw [hobserved, hskipped] at hseen
    rw [hreckons.missed_exec] at hmissed
    rw [hreckons.isBehind_exec] at hbehind
    cases hmissed
    cases hbehind
    cases hseen
    exact ⟨hobserved, hskipped, hreckons⟩
  have hpublished := ((Bus.Path.nil start).call (.topic topic (.publish [1])) (by decide +kernel)).call
    (.topic topic (.publish [2])) (by decide +kernel)
  have hread := hpublished.call (.topic topic (.receive [0])) (by decide +kernel)
  have hpolled := (hread.call (.topic topic (.publish [3])) (by decide +kernel)).call
    (.subscriber subscriber (.poll [0])) (by decide +kernel)
  have hlast := hpolled.call (.topic topic (.publish [4, 5])) (by decide +kernel)
  have hpath := hlast.call (.subscriber subscriber (.poll [0])) (by decide +kernel)
  exact ⟨subscriber, _, _, rfl, hreach hpath (by decide +kernel) (by decide +kernel)
    (by decide +kernel) (by decide +kernel) (by decide +kernel) (by decide +kernel)⟩

end TopicBus
