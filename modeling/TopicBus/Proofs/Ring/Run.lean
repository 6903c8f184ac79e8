import TopicBus.Proofs.Ring.Refinement

namespace TopicBus

open Op

namespace Ring

inductive Request
  | publish (payload : Bytes)
  | receive (buffer : Bytes)
  | readLatest (buffer : Bytes)
  | readOldest (buffer : Bytes)

inductive Answer
  | published (outcome : Except Failure Published)
  | read (outcome : Except Failure (Option Delivery)) (buffer : Bytes)

def answerRead (ring : Ring) (buffer : Bytes) (log : Log)
    (op : Op (Reading Ring) (Option Delivery)) : (Answer × Ring) × Log :=
  match op.exec ⟨ring, buffer⟩ log with
  | ((outcome, call), log) => ((.read outcome call.buffer, call.source), log)

def serve (ring : Ring) (log : Log) : Request → (Answer × Ring) × Log
  | .publish payload =>
    match (publish payload).exec ring log with
    | ((outcome, ring), log) => ((.published outcome, ring), log)
  | .receive buffer => ring.answerRead buffer log receive
  | .readLatest buffer => ring.answerRead buffer log readLatest
  | .readOldest buffer => ring.answerRead buffer log readOldest

def run (ring : Ring) (log : Log) : List Request → (List Answer × Ring) × Log
  | [] => (([], ring), log)
  | request :: requests =>
    match ring.serve log request with
    | ((answer, ring), log) =>
      match ring.run log requests with
      | ((answers, ring), log) => ((answer :: answers, ring), log)

end Ring

namespace Queue

def serve (queue : Queue) : Ring.Request → Ring.Answer × Queue
  | .publish payload =>
    (.published ((queue.publish payload).1.mapError .refused), (queue.publish payload).2)
  | .receive buffer =>
    (.read ((queue.receive buffer).1.1.mapError .refused) (queue.receive buffer).1.2,
      (queue.receive buffer).2)
  | .readLatest buffer =>
    (.read ((queue.readLatest buffer).1.mapError .refused) (queue.readLatest buffer).2, queue)
  | .readOldest buffer =>
    (.read ((queue.readOldest buffer).1.mapError .refused) (queue.readOldest buffer).2, queue)

def run (queue : Queue) : List Ring.Request → List Ring.Answer × Queue
  | [] => ([], queue)
  | request :: requests =>
    let (answer, queue) := queue.serve request
    let (answers, queue) := queue.run requests
    (answer :: answers, queue)

theorem receive_snd (queue : Queue) (buffer : Bytes) :
    (queue.receive buffer).2 = queue ∨
      queue.read < queue.history.length ∧ (queue.receive buffer).2 = queue.advance 1 := by
  rcases queue.receive_cases buffer with ⟨outcome, -, hidle⟩ | ⟨payload, hc, -, htake⟩
  · left
    rw [hidle]
  · right
    rw [htake]
    exact ⟨(List.getElem?_eq_some_iff.mp hc).1, rfl⟩

theorem serve_snd (queue : Queue) (request : Ring.Request) :
    (queue.serve request).2 = queue ∨
      (∃ payload, (queue.serve request).2 = queue.append payload) ∨
      (queue.serve request).2 = queue.advance 1 := by
  cases request with
  | publish payload =>
      show (queue.publish payload).2 = queue ∨
        (∃ payload', (queue.publish payload).2 = queue.append payload') ∨
        (queue.publish payload).2 = queue.advance 1
      unfold publish
      split
      · exact .inl rfl
      · exact .inr (.inl ⟨payload, rfl⟩)
  | receive buffer =>
      rcases queue.receive_snd buffer with hsame | ⟨-, hnext⟩
      · exact .inl hsame
      · exact .inr (.inr hnext)
  | readLatest buffer | readOldest buffer => exact .inl rfl

theorem length_history_serve (queue : Queue) (request : Ring.Request) :
    queue.history.length ≤ (queue.serve request).2.history.length := by
  rcases queue.serve_snd request with hsame | ⟨payload, happend⟩ | hadvance
  · rw [hsame]
  · rw [happend, append, List.length_append]
    exact Nat.le_add_right _ _
  · rw [hadvance]
    exact Nat.le_refl _

theorem capacity_serve (queue : Queue) (request : Ring.Request) :
    (queue.serve request).2.capacity = queue.capacity := by
  rcases queue.serve_snd request with hsame | ⟨payload, happend⟩ | hadvance
  · rw [hsame]
  · rw [happend]
    rfl
  · rw [hadvance]
    rfl

theorem length_history_run (queue : Queue) (requests : List Ring.Request) :
    queue.history.length ≤ (queue.run requests).2.history.length := by
  induction requests generalizing queue with
  | nil => exact Nat.le_refl _
  | cons request requests ih => exact (queue.length_history_serve request).trans (ih _)

theorem capacity_run (queue : Queue) (requests : List Ring.Request) :
    (queue.run requests).2.capacity = queue.capacity := by
  induction requests generalizing queue with
  | nil => rfl
  | cons request requests ih => exact (ih _).trans (queue.capacity_serve request)

end Queue

namespace Ring

variable {ring : Ring} {queue : Queue}

theorem Holds.receive_holds (h : ring.Holds queue) (buffer : Bytes) :
    (ring.pass (queue.receive buffer).2.read).Holds (queue.receive buffer).2 := by
  rcases queue.receive_snd buffer with hsame | ⟨hlt, hnext⟩
  · rw [hsame, h.pass_read]
    exact h
  · rw [hnext]
    exact h.pass_holds hlt

theorem Holds.serve_eq (h : ring.Holds queue) (log : Log) (request : Request)
    (hfew : (queue.serve request).2.history.length < 2 ^ 63) :
    ∃ ring', ring.serve log request = (((queue.serve request).1, ring'), log) ∧
      ring'.Holds (queue.serve request).2 := by
  have hnow := (queue.length_history_serve request).trans_lt hfew
  cases request with
  | publish payload =>
      cases hp : queue.layout.checkPayload payload.length with
      | error reason =>
          have hq : queue.publish payload = (.error reason, queue) := by
            simp only [Queue.publish, hp]
          refine ⟨ring, ?_, ?_⟩
          · simp only [serve, h.publish_refused log hp, Queue.serve, hq, Except.mapError]
          · simpa only [Queue.serve, hq] using h
      | ok =>
          have hq : queue.publish payload = (.ok ⟨queue.history.length + 1,
              (queue.append payload).read - queue.read⟩, queue.append payload) := by
            simp only [Queue.publish, hp]
          have hroom : queue.history.length + 1 < 2 ^ 63 := by
            simpa only [Queue.serve, hq, Queue.append, List.length_append,
              List.length_singleton] using hfew
          obtain ⟨ring', hexec, hholds⟩ := h.publish_accepted log hp hroom
          refine ⟨ring', ?_, ?_⟩
          · simp only [serve, hexec, Queue.serve, hq, Except.mapError]
          · simpa only [Queue.serve, hq] using hholds
  | receive buffer =>
      refine ⟨_, ?_, h.receive_holds buffer⟩
      simp only [serve, answerRead, h.receive_exec hnow, Queue.serve]
  | readLatest buffer =>
      refine ⟨ring, ?_, h⟩
      simp only [serve, answerRead, h.readLatest_exec hnow, Queue.serve]
  | readOldest buffer =>
      refine ⟨ring, ?_, h⟩
      simp only [serve, answerRead, h.readOldest_exec hnow, Queue.serve]

theorem Holds.run_eq (h : ring.Holds queue) (log : Log) (requests : List Request)
    (hfew : (queue.run requests).2.history.length < 2 ^ 63) :
    ∃ ring', ring.run log requests = (((queue.run requests).1, ring'), log) ∧
      ring'.Holds (queue.run requests).2 := by
  induction requests generalizing ring queue with
  | nil => exact ⟨ring, rfl, h⟩
  | cons request requests ih =>
      have hnow := ((queue.serve request).2.length_history_run requests).trans_lt hfew
      obtain ⟨middle, hserve, hmiddle⟩ := h.serve_eq log request hnow
      obtain ⟨ring', hrun, hholds⟩ := ih hmiddle hfew
      refine ⟨ring', ?_, hholds⟩
      simp only [run, hserve, hrun]
      rfl

/-- A new ring answers every run of requests as the lossy queue does. At the end its latest epoch
counts what was accepted and its length what is unread. -/
theorem run_eq_queue {capacity memory : Nat} {layout : Layout} {ring : Ring}
    (hring : create capacity layout memory = .ok ring) (log : Log) (requests : List Request)
    (hfew : (Queue.run { layout, capacity } requests).2.history.length < 2 ^ 63) :
    ∃ ring', ring.run log requests =
        (((Queue.run { layout, capacity } requests).1, ring'), log) ∧
      let queue := (Queue.run { layout, capacity } requests).2
      ring'.lastEpoch = queue.history.length ∧
      ring'.length = queue.history.length - queue.read ∧
      (ring'.isEmpty ↔ queue.read = queue.history.length) ∧
      (ring'.isFull ↔ queue.history.length = queue.read + capacity) := by
  obtain ⟨ring', hrun, hholds⟩ := (create_holds hring).run_eq log requests hfew
  have hle := hholds.sound.read_le
  have hcapacity : ring'.capacity = capacity :=
    hholds.capacity_eq.trans (Queue.capacity_run _ requests)
  refine ⟨ring', hrun, hholds.written_eq, hholds.length_eq, ?_, ?_⟩
  · rw [isEmpty, hholds.length_eq, beq_iff_eq]
    omega
  · rw [isFull, hholds.length_eq, beq_iff_eq, hcapacity]
    omega

/-- Two payloads for one slot, and three reads, the first into a buffer that is too small. -/
theorem run_eq_queue_overwritten :
    let layout : Layout := ⟨.byte, 4, by decide, by decide⟩
    ∃ ring, create 1 layout = .ok ring ∧ ∃ ring', ring.run #[]
        [.publish [1], .publish [2, 3], .receive [0], .receive [7, 8, 9], .receive [0]] =
        (([.published (.ok ⟨1, 0⟩), .published (.ok ⟨2, 1⟩),
          .read (.error (.refused (.bufferTooSmall 2 1))) [0],
          .read (.ok (some ⟨2, 2⟩)) [2, 3, 9], .read (.ok none) [0]], ring'), #[]) ∧
      ring'.lastEpoch = 2 ∧ ring'.length = 0 := by
  intro layout
  have hring : create 1 layout = .ok ⟨layout, 1, by decide, {}, 0, 0⟩ := rfl
  obtain ⟨ring', hrun, hlast, hlength, -⟩ := run_eq_queue hring #[]
    [.publish [1], .publish [2, 3], .receive [0], .receive [7, 8, 9], .receive [0]] (by decide)
  exact ⟨_, hring, ring', hrun, hlast, hlength⟩

end Ring

end TopicBus
