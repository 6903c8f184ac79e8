import TopicBus.Proofs.Session.Run

namespace TopicBus

open Op

namespace Session

variable {before after : Session} {event : Event} {events : List Event} {index : Nat}

def Event.receipts (index : Nat) : Event → List Receipt
  | .bus request outcome =>
    if request.touched = some index then [.ofOutcome outcome] else []
  | .registry _ _ => []

def Event.cost (index : Nat) : Event → Nat
  | .bus request outcome =>
    if request.touched = some index then Receipt.cost request.publishes outcome else 0
  | .registry _ _ => 0

def receipts (index : Nat) (events : List Event) : List Receipt :=
  events.flatMap (Event.receipts index)

def spent (index : Nat) (events : List Event) : Nat := (events.map (Event.cost index)).sum

theorem receipts_append (index : Nat) (events : List Event) (event : Event) :
    receipts index (events ++ [event]) = receipts index events ++ event.receipts index := by
  simp [receipts]

theorem spent_append (index : Nat) (events : List Event) (event : Event) :
    spent index (events ++ [event]) = spent index events + event.cost index := by
  simp [spent]

theorem Step.balanced (h : Step before event after) {queue : Queue} {receipts : List Receipt}
    (hholds : before.bus.Holds index queue) (hb : queue.Balanced receipts)
    (hroom : queue.history.length + event.cost index < 2 ^ 63) :
    ∃ next, after.bus.Holds index next ∧ next.Balanced (receipts ++ event.receipts index) ∧
      next.history.length = queue.history.length + event.cost index := by
  have hsound : queue.Sound := by
    obtain ⟨storage, -, hstorage⟩ := hholds
    exact hstorage.sound
  have hfew : queue.history.length < 2 ^ 63 := by omega
  cases h with
  | registry log request =>
      have hafter := (Registry.perform_aside request before log).holds index queue
        (by simp) hfew hholds
      refine ⟨queue, hafter, ?_, rfl⟩
      rw [Event.receipts, List.append_nil]
      exact hb
  | bus log request held =>
      by_cases htouched : request.touched = some index
      · simp only [Event.cost, Event.receipts, htouched, if_true] at hroom ⊢
        obtain ⟨next, hnext, hstep, hlength⟩ := request.perform_next htouched held hholds hroom
        exact ⟨next, hnext, hb.step hsound hstep, hlength⟩
      · have hafter := (request.perform_apart before.bus log).holds index queue
          (Ne.symm htouched) hfew hholds
        simp only [Event.cost, Event.receipts, htouched, if_false, List.append_nil]
        exact ⟨queue, hafter, hb, rfl⟩

theorem Run.balanced (h : Run before events after) {layout : Layout} {capacity : Nat}
    (hholds : before.bus.Holds index { layout, capacity }) (hfew : spent index events < 2 ^ 63) :
    ∃ queue, after.bus.Holds index queue ∧ queue.Balanced (receipts index events) ∧
      queue.history.length = spent index events := by
  induction h with
  | nil => exact ⟨_, hholds, Queue.balanced_empty layout capacity, rfl⟩
  | @snoc middle after events event run step ih =>
      rw [spent_append] at hfew
      obtain ⟨queue, hmiddle, hb, hlength⟩ := ih (by omega)
      obtain ⟨next, hafter, hnext, hcost⟩ := step.balanced hmiddle hb (by rwa [hlength])
      refine ⟨next, hafter, ?_, ?_⟩
      · rw [receipts_append]
        exact hnext
      · rw [hcost, hlength, spent_append]

end Session

/-- A new topic, and any run of requests through handles of it and of other topics and to a
registry: as long as fewer than 2^63 publishes on the topic are not refused, all of those are
accepted, and each epoch is delivered once, overwritten once, or unread. -/
theorem Topic.exactly_once {kind : Kind} {spec : TopicSpec} {id : TopicId} {before bus : Bus}
    {log log' : Log} {topic : Topic kind}
    (hmade : (Topic.ofSpec kind spec id).exec before log = ((.ok topic, bus), log'))
    {registry : Registry} {events : List Session.Event} {session : Session}
    (hrun : Session.Run ⟨registry, bus⟩ events session)
    (hfew : Session.spent topic.storage events < 2 ^ 63) :
    ∃ storage, session.bus.storages[topic.storage]? = some storage ∧
      storage.ring.lastEpoch = Session.spent topic.storage events ∧
      storage.ring.Accounted (Session.receipts topic.storage events) := by
  rcases Topic.ofSpec_cases kind spec before with ⟨ring, hmakes⟩ | ⟨failure, hfails⟩
  · rw [Topic.ofSpec_exec hmakes] at hmade
    simp only [Prod.mk.injEq, Except.ok.injEq] at hmade
    obtain ⟨⟨rfl, rfl⟩, -⟩ := hmade
    have hnew : Bus.Holds { before with storages := before.storages.push { ring } }
        before.storages.size ⟨ring.layout, spec.capacity, [], 0⟩ :=
      ⟨{ ring }, Array.getElem?_push_size, Ring.create_holds hmakes.ring_eq⟩
    obtain ⟨queue, ⟨storage, hstorage, hholds⟩, hb, hlength⟩ := hrun.balanced hnew hfew
    exact ⟨storage, hstorage, hholds.written_eq.trans hlength, hholds.accounted hb⟩
  · rw [hfails] at hmade
    cases hmade

/-- Two publishes into one slot and a read by a subscriber: the first is lost, the second found. -/
theorem Topic.exactly_once_overwritten :
    ∃ (events : List Session.Event) (session : Session) (storage : Storage),
      Session.spent 0 events = 2 ∧
      Receipt.allOverwritten (Session.receipts 0 events) = [1] ∧
      Receipt.allDelivered (Session.receipts 0 events) = [([2, 3], 2)] ∧
      session.bus.storages[0]? = some storage ∧ storage.ring.lastEpoch = 2 ∧
      storage.ring.Accounted (Session.receipts 0 events) := by
  let topic : Topic .byte := ⟨"a", .detached, 0⟩
  let made := (Topic.ofSpec .byte ⟨"a", .byte, 1, 4⟩ .detached).exec {} #[]
  have hmade : made = ((.ok topic, made.1.2), made.2) := rfl
  have hfirst := (Session.Run.nil ⟨{}, made.1.2⟩).snoc
    (.bus _ #[] (.publisher ⟨topic⟩ (.publish [1])) (by decide +kernel))
  have hsecond := hfirst.snoc (.bus _ #[] (.topic topic (.publish [2, 3])) (by decide +kernel))
  have hmark := hsecond.snoc (.bus _ #[] (.subscribe topic) (by decide +kernel))
  have hrun := hmark.snoc (.bus _ #[] (.subscriber ⟨topic, 0⟩ (.receive [0, 0, 0]))
    (by decide +kernel))
  obtain ⟨storage, hstorage, hlast, haccounted⟩ := Topic.exactly_once hmade hrun (by decide +kernel)
  refine ⟨_, _, storage, ?_, ?_, ?_, hstorage, hlast.trans ?_, haccounted⟩
  all_goals decide +kernel

end TopicBus
