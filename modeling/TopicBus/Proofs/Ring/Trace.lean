import TopicBus.Proofs.Ring.Memory
import TopicBus.Proofs.Ring.Run

/-!
Traces of a ring: publishes, reads and looks at raw slots in any order, without a bound on their
number. The ring holds the queue of what was accepted throughout; once the epochs have run out,
publishes break off, and nothing else ever does.
-/

namespace TopicBus

open Op

namespace Queue

structure Extends (queue : Queue) (payloads : List Bytes) (next : Queue) : Prop where
  layout_eq : next.layout = queue.layout
  capacity_eq : next.capacity = queue.capacity
  history_eq : next.history = queue.history ++ payloads

variable {queue middle next : Queue} {front back : List Bytes}

theorem extends_self (queue : Queue) : queue.Extends [] queue :=
  ⟨rfl, rfl, (List.append_nil _).symm⟩

theorem extends_append (queue : Queue) (payload : Bytes) :
    queue.Extends [payload] (queue.append payload) := ⟨rfl, rfl, rfl⟩

theorem extends_advance (queue : Queue) (count : Nat) : queue.Extends [] (queue.advance count) :=
  ⟨rfl, rfl, (List.append_nil _).symm⟩

theorem Extends.trans (h : queue.Extends front middle) (h' : middle.Extends back next) :
    queue.Extends (front ++ back) next where
  layout_eq := h'.layout_eq.trans h.layout_eq
  capacity_eq := h'.capacity_eq.trans h.capacity_eq
  history_eq := by rw [h'.history_eq, h.history_eq, List.append_assoc]

end Queue

namespace Ring

inductive Event
  | served (request : Request) (answer : Answer)
  | imaged (epoch : Nat) (outcome : Except Fault (Option Bytes))

inductive Step : Ring → Event → Ring → Prop
  | serve (ring : Ring) (log : Log) (request : Request) :
      Step ring (.served request (ring.serve log request).1.1) (ring.serve log request).1.2
  | image (ring : Ring) (epoch : Nat) : Step ring (.imaged epoch (ring.slotImage epoch)) ring

inductive Run : Ring → List Event → Ring → Prop
  | nil (ring : Ring) : Run ring [] ring
  | snoc {before middle after : Ring} {events : List Event} {event : Event}
      (run : Run before events middle) (step : Step middle event after) :
      Run before (events ++ [event]) after

def Event.accepted : Event → List Bytes
  | .served (.publish payload) (.published (.ok _)) => [payload]
  | _ => []

def accepted (events : List Event) : List Bytes := events.flatMap Event.accepted

def Event.fault? : Event → Option Fault
  | .served _ (.published (.error (.fault fault))) => some fault
  | .served _ (.read (.error (.fault fault)) _) => some fault
  | .imaged _ (.error fault) => some fault
  | _ => none

theorem accepted_snoc (events : List Event) (event : Event) :
    accepted (events ++ [event]) = accepted events ++ event.accepted := by
  simp [accepted]

variable {ring ring' : Ring} {queue : Queue} {event : Event} {events : List Event}

theorem Event.fault?_read (request : Request) (outcome : Except Refusal (Option Delivery))
    (buffer : Bytes) :
    fault? (.served request (.read (outcome.mapError .refused) buffer)) = none := by
  cases outcome <;> rfl

/-- A call adds what it accepts; it breaks off only if it would need one epoch more than there
are. -/
structure Event.Extends (event : Event) (queue next : Queue) : Prop where
  extends_eq : queue.Extends event.accepted next
  length_lt : next.history.length < 2 ^ 63
  fault_eq : ∀ fault, event.fault? = some fault → fault = .overflow ∧
    next.history.length + 1 = 2 ^ 63

theorem Step.holds (h : Step ring event ring') (hholds : ring.Holds queue)
    (hfew : queue.history.length < 2 ^ 63) :
    ∃ next, ring'.Holds next ∧ event.Extends queue next := by
  cases h with
  | image epoch =>
      refine ⟨queue, hholds, queue.extends_self, hfew, ?_⟩
      rw [(hholds.memory hfew).slotImage_eq hfew]
      rintro fault ⟨⟩
  | serve log request =>
      cases request with
      | publish payload =>
          cases hp : queue.layout.checkPayload payload.length with
          | error reason =>
              simp only [Ring.serve, hholds.publish_refused log hp]
              refine ⟨queue, hholds, queue.extends_self, hfew, ?_⟩
              rintro fault ⟨⟩
          | ok =>
              by_cases hroom : queue.history.length + 1 < 2 ^ 63
              · obtain ⟨ring', hexec, hnext⟩ := hholds.publish_accepted log hp hroom
                simp only [Ring.serve, hexec]
                refine ⟨queue.append payload, hnext, queue.extends_append payload, ?_, ?_⟩
                · simpa [Queue.append] using hroom
                · rintro fault ⟨⟩
              · have hlast : queue.history.length + 1 = 2 ^ 63 := by omega
                -- Room is made before the epoch turns out to be one too many.
                simp only [Ring.serve, hholds.publish_exhausted log hp hlast]
                refine ⟨_, hholds.pass_append_holds payload, queue.extends_advance _, hfew, ?_⟩
                rintro fault ⟨⟩
                exact ⟨rfl, hlast⟩
      | receive buffer =>
          simp only [Ring.serve, answerRead, hholds.receive_exec hfew]
          have hextends : queue.Extends [] (queue.receive buffer).2 := by
            rcases queue.receive_snd buffer with hsame | ⟨-, hnext⟩
            · rw [hsame]
              exact queue.extends_self
            · rw [hnext]
              exact queue.extends_advance 1
          refine ⟨_, hholds.receive_holds buffer, hextends, ?_, ?_⟩
          · rwa [hextends.history_eq, List.append_nil]
          · simp [Event.fault?_read]
      | readLatest buffer =>
          simp only [Ring.serve, answerRead, hholds.readLatest_exec hfew]
          exact ⟨queue, hholds, queue.extends_self, hfew, by simp [Event.fault?_read]⟩
      | readOldest buffer =>
          simp only [Ring.serve, answerRead, hholds.readOldest_exec hfew]
          exact ⟨queue, hholds, queue.extends_self, hfew, by simp [Event.fault?_read]⟩

structure Traced (queue : Queue) (events : List Event) (next : Queue) : Prop where
  extends_eq : queue.Extends (accepted events) next
  length_lt : next.history.length < 2 ^ 63
  fault_eq : ∀ event ∈ events, ∀ fault, event.fault? = some fault → fault = .overflow ∧
    next.history.length + 1 = 2 ^ 63

theorem Run.holds (h : Run ring events ring') (hholds : ring.Holds queue)
    (hfew : queue.history.length < 2 ^ 63) :
    ∃ next, ring'.Holds next ∧ Traced queue events next := by
  induction h with
  | nil => exact ⟨queue, hholds, queue.extends_self, hfew, by simp⟩
  | @snoc middle after events event run step ih =>
      obtain ⟨between, hbetween, htraced⟩ := ih
      obtain ⟨next, hnext, hevent⟩ := step.holds hbetween htraced.length_lt
      refine ⟨next, hnext, ?_, hevent.length_lt, ?_⟩
      · rw [accepted_snoc]
        exact htraced.extends_eq.trans hevent.extends_eq
      · intro other hmem fault hfault
        rcases List.mem_append.mp hmem with hold | hnew
        · -- The history only grows, and it was as long as it can be already.
          obtain ⟨hoverflow, hlast⟩ := htraced.fault_eq other hold fault hfault
          have hgrown := congrArg List.length hevent.extends_eq.history_eq
          have hlt := hevent.length_lt
          rw [List.length_append] at hgrown
          exact ⟨hoverflow, by omega⟩
        · rw [List.mem_singleton.mp hnew] at hfault
          exact hevent.fault_eq fault hfault

/-- Whatever is asked of a new ring, its memory is that of a ring which accepted the payloads that
it did accept, and no call breaks off while there is an epoch left. -/
theorem memory_of_run {capacity memory : Nat} {layout : Layout}
    (hring : create capacity layout memory = .ok ring) (hrun : Run ring events ring') :
    ring'.layout = layout ∧ ring'.capacity = capacity ∧ ring'.Memory (accepted events) ∧
      ∀ event ∈ events, ∀ fault, event.fault? = some fault →
        fault = .overflow ∧ (accepted events).length + 1 = 2 ^ 63 := by
  have hnone : ([] : List Bytes).length < 2 ^ 63 := by decide
  obtain ⟨queue, hholds, htraced⟩ := hrun.holds (create_holds hring) hnone
  have hhistory : queue.history = accepted events := htraced.extends_eq.history_eq
  rw [← hhistory]
  exact ⟨hholds.layout_eq.trans htraced.extends_eq.layout_eq,
    hholds.capacity_eq.trans htraced.extends_eq.capacity_eq, hholds.memory htraced.length_lt,
    htraced.fault_eq⟩

/-- Three payloads for two slots, one that is refused, a read, and a look at what is gone. -/
theorem memory_of_run_wrapped :
    let layout : Layout := ⟨.byte, 4, by decide, by decide⟩
    ∃ ring events ring', create 2 layout = .ok ring ∧ Run ring events ring' ∧
      accepted events = [[1], [2, 3], [4]] ∧ ring'.passed = 2 ∧
      ring'.Memory [[1], [2, 3], [4]] ∧ ∀ event ∈ events, event.fault? = none := by
  intro layout
  let empty : Ring := ⟨layout, 2, by decide, {}, 0, 0⟩
  have hring : create 2 layout = .ok empty := rfl
  have hreach {events : List Event} {ring' : Ring} (hrun : Run empty events ring')
      (haccepted : accepted events = [[1], [2, 3], [4]]) :
      ring'.Memory [[1], [2, 3], [4]] ∧ ∀ event ∈ events, event.fault? = none := by
    obtain ⟨-, -, hmemory, hfault⟩ := memory_of_run hring hrun
    rw [haccepted] at hmemory hfault
    refine ⟨hmemory, fun event hevent => ?_⟩
    by_contra hbroken
    obtain ⟨fault, hsome⟩ := Option.ne_none_iff_exists'.mp hbroken
    exact absurd (hfault event hevent fault hsome).2 (by decide)
  have hfirst := (Run.nil empty).snoc (.serve _ #[] (.publish [1]))
  have hsecond := hfirst.snoc (.serve _ #[] (.publish [2, 3]))
  have hthird := hsecond.snoc (.serve _ #[] (.publish [4]))
  have hrefused := hthird.snoc (.serve _ #[] (.publish [5, 5, 5, 5, 5]))
  have hread := hrefused.snoc (.serve _ #[] (.receive [0, 0]))
  have hrun := hread.snoc (.image _ 1)
  exact ⟨empty, _, _, hring, hrun, by decide +kernel, by decide +kernel,
    hreach hrun (by decide +kernel)⟩

end Ring

end TopicBus
