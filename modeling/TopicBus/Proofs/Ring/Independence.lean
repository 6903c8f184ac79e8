import TopicBus.Proofs.Ring.Trace

namespace TopicBus

open Op

namespace Layout

/-- The epoch that a payload gets behind a history, or why it gets none. -/
def epochFor (layout : Layout) (history : List Bytes) (payload : Bytes) : Except Failure Nat :=
  match layout.checkPayload payload.length with
  | .error reason => .error (.refused reason)
  | .ok () =>
    if history.length + 1 < 2 ^ 63 then .ok (history.length + 1) else .error (.fault .overflow)

def offered (layout : Layout) (history : List Bytes) (payload : Bytes) : List Bytes :=
  match layout.epochFor history payload with
  | .ok _ => history ++ [payload]
  | .error _ => history

/-- What producers are told of payloads that they offer in turn, and the history afterwards. -/
def produce (layout : Layout) (payloads : List Bytes) : List (Except Failure Nat) × List Bytes :=
  payloads.foldl
    (fun told payload =>
      (told.1 ++ [layout.epochFor told.2 payload], layout.offered told.2 payload))
    ([], [])

theorem produce_snoc (layout : Layout) (payloads : List Bytes) (payload : Bytes) :
    layout.produce (payloads ++ [payload]) =
      ((layout.produce payloads).1 ++ [layout.epochFor (layout.produce payloads).2 payload],
        layout.offered (layout.produce payloads).2 payload) := by
  simp only [produce, List.foldl_append, List.foldl_cons, List.foldl_nil]

end Layout

namespace Ring

def Event.submitted : Event → List Bytes
  | .served (.publish payload) _ => [payload]
  | _ => []

/-- What the producer of a call is told: the epoch, not how much was dropped for it. -/
def Event.answered : Event → List (Except Failure Nat)
  | .served _ (.published outcome) => [outcome.map Published.epoch]
  | _ => []

def submitted (events : List Event) : List Bytes := events.flatMap Event.submitted

def answered (events : List Event) : List (Except Failure Nat) := events.flatMap Event.answered

theorem submitted_snoc (events : List Event) (event : Event) :
    submitted (events ++ [event]) = submitted events ++ event.submitted := by
  simp [submitted]

theorem answered_snoc (events : List Event) (event : Event) :
    answered (events ++ [event]) = answered events ++ event.answered := by
  simp [answered]

/-- A call offers nothing and adds nothing, or it is a publish that the history decides. -/
inductive Event.Offers (event : Event) (layout : Layout) (history : List Bytes) : Prop
  | nothing (submitted_eq : event.submitted = []) (answered_eq : event.answered = [])
      (accepted_eq : event.accepted = [])
  | payload (payload : Bytes) (submitted_eq : event.submitted = [payload])
      (answered_eq : event.answered = [layout.epochFor history payload])
      (accepted_eq : history ++ event.accepted = layout.offered history payload)

variable {ring ring' other : Ring} {queue queue' : Queue} {event : Event} {events : List Event}

theorem Step.offers (h : Step ring event ring') (hholds : ring.Holds queue)
    (hfew : queue.history.length < 2 ^ 63) : event.Offers queue.layout queue.history := by
  cases h with
  | image epoch => exact .nothing rfl rfl rfl
  | serve log request =>
      cases request with
      | receive buffer | readLatest buffer | readOldest buffer => exact .nothing rfl rfl rfl
      | publish payload =>
          cases hp : queue.layout.checkPayload payload.length with
          | error reason =>
              have hepoch : queue.layout.epochFor queue.history payload =
                  .error (.refused reason) := by
                simp only [Layout.epochFor, hp]
              simp only [Ring.serve, hholds.publish_refused log hp]
              refine .payload payload rfl ?_ ?_
              · rw [hepoch]
                rfl
              · rw [Layout.offered, hepoch]
                exact List.append_nil _
          | ok =>
              by_cases hroom : queue.history.length + 1 < 2 ^ 63
              · have hepoch : queue.layout.epochFor queue.history payload =
                    .ok (queue.history.length + 1) := by
                  simp only [Layout.epochFor, hp, hroom, if_true]
                obtain ⟨ring', hexec, -⟩ := hholds.publish_accepted log hp hroom
                simp only [Ring.serve, hexec]
                refine .payload payload rfl ?_ ?_
                · rw [hepoch]
                  rfl
                · rw [Layout.offered, hepoch]
                  rfl
              · have hepoch : queue.layout.epochFor queue.history payload =
                    .error (.fault .overflow) := by
                  simp only [Layout.epochFor, hp, hroom, if_false]
                have hlast : queue.history.length + 1 = 2 ^ 63 := by omega
                simp only [Ring.serve, hholds.publish_exhausted log hp hlast]
                refine .payload payload rfl ?_ ?_
                · rw [hepoch]
                  rfl
                · rw [Layout.offered, hepoch]
                  exact List.append_nil _

/-- A run tells its producers, and leaves as a history, what the payloads alone decide. -/
theorem Run.produces (h : Run ring events ring') (hholds : ring.Holds queue)
    (hnone : queue.history = []) :
    queue.layout.produce (submitted events) = (answered events, accepted events) := by
  induction h with
  | nil => rfl
  | @snoc middle after events event run step ih =>
      have hfew : queue.history.length < 2 ^ 63 := by
        rw [hnone]
        decide
      obtain ⟨between, hbetween, htraced⟩ := run.holds hholds hfew
      have hoffers := step.offers hbetween htraced.length_lt
      rw [htraced.extends_eq.layout_eq, htraced.extends_eq.history_eq, hnone, List.nil_append]
        at hoffers
      rw [submitted_snoc, answered_snoc, accepted_snoc]
      cases hoffers with
      | nothing hsubmitted hanswered haccepted =>
          rw [hsubmitted, hanswered, haccepted, List.append_nil, List.append_nil, List.append_nil]
          exact ih
      | payload payload hsubmitted hanswered haccepted =>
          rw [hsubmitted, Layout.produce_snoc, ih, hanswered, haccepted]

/-- Nothing but reads that consume, or count what is left, can tell the rings apart. -/
structure Agrees (ring other : Ring) : Prop where
  slotSize_eq : ring.slotSize = other.slotSize
  capacity_eq : ring.capacity = other.capacity
  lastEpoch_eq : ring.lastEpoch = other.lastEpoch
  slot_eq : ∀ index, ring.slot index = other.slot index
  slotImage_eq : ∀ epoch, ring.slotImage epoch = other.slotImage epoch
  readLatest_eq : ∀ buffer log log',
    (readLatest.exec ⟨ring, buffer⟩ log).1.1 = (readLatest.exec ⟨other, buffer⟩ log').1.1 ∧
      (readLatest.exec ⟨ring, buffer⟩ log).1.2.buffer =
        (readLatest.exec ⟨other, buffer⟩ log').1.2.buffer

theorem Holds.agrees (h : ring.Holds queue) (h' : other.Holds queue')
    (hlayout : queue.layout = queue'.layout) (hcapacity : queue.capacity = queue'.capacity)
    (hhistory : queue.history = queue'.history) (hfew : queue.history.length < 2 ^ 63) :
    ring.Agrees other := by
  have hslots : queue.slots = queue'.slots := by
    rw [Queue.slots, Queue.slots, hlayout, hcapacity, hhistory]
  have hsame : ring.layout = other.layout := by rw [h.layout_eq, h'.layout_eq, hlayout]
  have hslotSize : ring.slotSize = other.slotSize := by rw [slotSize, slotSize, hsame]
  have hcount : ring.capacity = other.capacity := by
    rw [h.capacity_eq, h'.capacity_eq, hcapacity]
  have hlast : ring.lastEpoch = other.lastEpoch := by
    rw [h.lastEpoch_eq, h'.lastEpoch_eq, hhistory]
  have hslot (index : Nat) : ring.slot index = other.slot index := by
    rw [h.slot_eq, h'.slot_eq, hslots]
  have hlatest (buffer : Bytes) : queue.readLatest buffer = queue'.readLatest buffer := by
    simp only [Queue.readLatest, Queue.copy, hlayout, hhistory]
  have hlocate (epoch : Nat) : ring.locate epoch = other.locate epoch := by
    rw [Ring.locate, Ring.locate, Ring.blockSize, Ring.blockSize, hslotSize, hcount]
  refine ⟨hslotSize, hcount, hlast, hslot, fun epoch => ?_, fun buffer log log' => ?_⟩
  · simp only [slotImage, hlocate, hlast, hslot]
  · rw [h.readLatest_exec hfew, h'.readLatest_exec (hhistory ▸ hfew), hlatest]
    exact ⟨rfl, rfl⟩

/-- Two runs of a new ring with the same publishes, whatever is read between them: producers are
told the same, and the rings agree in all that readers of the latest entry and of raw slots see. -/
theorem agrees_of_submitted_eq {capacity memory : Nat} {layout : Layout}
    (hring : create capacity layout memory = .ok ring) {after after' : Ring}
    {reads reads' : List Event}
    (hrun : Run ring reads after) (hrun' : Run ring reads' after')
    (hsame : submitted reads = submitted reads') :
    after.Agrees after' ∧ answered reads = answered reads' := by
  have hholds := create_holds hring
  have hnone : ([] : List Bytes).length < 2 ^ 63 := by decide
  have hproduced := hrun.produces hholds rfl
  rw [hsame, hrun'.produces hholds rfl, Prod.mk.injEq] at hproduced
  obtain ⟨hanswered, haccepted⟩ := hproduced
  obtain ⟨queue, hqueue, htraced⟩ := hrun.holds hholds hnone
  obtain ⟨queue', hqueue', htraced'⟩ := hrun'.holds hholds hnone
  refine ⟨hqueue.agrees hqueue' ?_ ?_ ?_ htraced.length_lt, hanswered.symm⟩
  · rw [htraced.extends_eq.layout_eq, htraced'.extends_eq.layout_eq]
  · rw [htraced.extends_eq.capacity_eq, htraced'.extends_eq.capacity_eq]
  · rw [htraced.extends_eq.history_eq, htraced'.extends_eq.history_eq, haccepted]

/-- One slot, with and without a consumer: the second payload drops the first only where no one
consumed it, and only there an entry is left at the end. -/
theorem agrees_of_submitted_eq_drained :
    let layout : Layout := ⟨.byte, 4, by decide, by decide⟩
    ∃ ring reads reads' after after', create 1 layout = .ok ring ∧ Run ring reads after ∧
      Run ring reads' after' ∧ submitted reads = [[1], [2, 3], [4, 4, 4, 4, 4]] ∧
      submitted reads = submitted reads' ∧ after.passed = 2 ∧ after'.passed = 1 ∧
      after.Agrees after' ∧ answered reads = answered reads' := by
  intro layout
  let empty : Ring := ⟨layout, 1, by decide, {}, 0, 0⟩
  have hring : create 1 layout = .ok empty := rfl
  have hfirst := (Run.nil empty).snoc (.serve _ #[] (.publish [1]))
  have hread := hfirst.snoc (.serve _ #[] (.receive [0, 0]))
  have hsecond := hread.snoc (.serve _ #[] (.publish [2, 3]))
  have hdrained := hsecond.snoc (.serve _ #[] (.receive [0, 0]))
  have hrun := hdrained.snoc (.serve _ #[] (.publish [4, 4, 4, 4, 4]))
  have hsecond' := hfirst.snoc (.serve _ #[] (.publish [2, 3]))
  have hlook' := hsecond'.snoc (.image _ 1)
  have hrun' := hlook'.snoc (.serve _ #[] (.publish [4, 4, 4, 4, 4]))
  refine ⟨empty, _, _, _, _, hring, hrun, hrun', ?_, ?_, ?_, ?_,
    agrees_of_submitted_eq hring hrun hrun' ?_⟩
  all_goals decide +kernel

end Ring

end TopicBus
