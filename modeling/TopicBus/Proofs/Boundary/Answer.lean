import TopicBus.Proofs.Boundary.Request
import TopicBus.Proofs.Session.Sound

/-!
What C callers are told. A call does to the registry what the call by values does that it stands
for, and tells the outcome by its convention; what it cannot report through a pointer it leaves
unwritten.
-/

namespace TopicBus

open Op

def Failure.code : Failure → Int
  | .refused (.invalidParameter _ _) => -1
  | .refused (.bufferTooSmall _ _) => -2
  | .refused (.notFound _) => -3
  | .refused (.kindMismatch _ _ _) => -4
  | .refused (.capacityMismatch _ _ _) => -5
  | .refused (.sizeMismatch _ _) => -6
  | .refused (.payloadTooLarge _ _) => -7
  | .refused (.allocationFailure _) => -8
  | .fault _ => -99

theorem Failure.code_neg (failure : Failure) : failure.code < 0 := by
  rcases failure with reason | fault
  · cases reason <;> exact Int.negSucc_lt_zero _
  · exact Int.negSucc_lt_zero _

namespace Call

theorem code_ofRefusal (reason : Refusal) :
    (Status.ofRefusal reason).code = Failure.code (.refused reason) := by
  cases reason <;> rfl

/-- How a call tells its outcome: not at all, by a number or 0, by a code, by a handle or 0 with a
code through a pointer, or by a code with what was read through pointers. -/
inductive Convention
  | silence
  | number
  | code
  | handle (status : Option Int)
  | transfer (outputs : Outputs)

inductive Convention.Tells : Convention → Except Failure Outcome → Answer → Prop
  | silence (outcome : Except Failure Outcome) : Tells .silence outcome .done
  | number (n : Nat) : Tells .number (.ok (.number n)) (.number n)
  | noNumber (failure : Failure) : Tells .number (.error failure) (.number 0)
  | done : Tells .code (.ok .done) (.code 1)
  | flag (holds : Bool) : Tells .code (.ok (.flag holds)) (.code (if holds then 1 else 0))
  | failed (failure : Failure) : Tells .code (.error failure) (.code failure.code)
  | handle (status : Option Int) (id : TopicId) :
      Tells (.handle status) (.ok (.topic id)) (.handle id.raw (status.map fun _ => 1))
  | noHandle (status : Option Int) (failure : Failure) :
      Tells (.handle status) (.error failure) (.handle 0 (status.map fun _ => failure.code))
  | found (buffer : Bytes) (length epoch : Option Nat) (payload : Bytes) (n : Nat)
      (fits : payload.length ≤ buffer.length) :
      Tells (.transfer ⟨some buffer, length, epoch⟩) (.ok (.read (some (payload, n))))
        (.transfer 1 ⟨some (payload ++ buffer.drop payload.length),
          length.map fun _ => payload.length, epoch.map fun _ => n⟩)
  | nothing (buffer : Option Bytes) (length epoch : Option Nat) :
      Tells (.transfer ⟨buffer, length, epoch⟩) (.ok (.read none))
        (.transfer 0 ⟨buffer, length.map fun _ => 0, epoch⟩)
  | unread (outputs : Outputs) (failure : Failure) :
      Tells (.transfer outputs) (.error failure) (.transfer failure.code outputs)

def Request.convention : Request → Convention
  | destroy => .silence
  | topicCount | publish _ _ _ _ => .number
  | getByteTopic _ _ status | getTypedTopic _ _ _ status => .handle status
  | releaseTopic _ | state _ .isEmpty => .code
  | read _ call => .transfer call.outputs
  | state _ _ => .number

/-- What is behind the registry's pointer after a call. -/
def Request.leaves : Request → Session → Option Session
  | destroy, _ => none
  | _, session => some session

def Direct.leaves : Direct → Session → Option Session
  | drop, _ => none
  | _, session => some session

theorem Request.Denotes.leaves_eq {request : Request} {direct : Direct}
    (h : request.Denotes direct) : request.leaves = direct.leaves := by
  cases h with
  | read designated call =>
      unfold Read.direct
      split
      · rfl
      · split <;> rfl
  | _ => rfl

theorem Request.Malformed.leaves_eq {request : Request} {reason : Refusal}
    (h : request.Malformed reason) : request.leaves = some := by
  cases h with
  | nullName passed | foreignName passed foreign | nullHandle passed small =>
      cases request <;> cases passed
      all_goals rfl
  | nullData => rfl

theorem Request.eq_of_leaves {request : Request} {session after : Session}
    (h : request.leaves session = some after) : after = session := by
  cases request <;> cases h
  all_goals rfl

theorem Direct.eq_of_leaves {direct : Direct} {session after : Session}
    (h : direct.leaves session = some after) : direct ≠ .drop ∧ after = session := by
  cases direct <;> cases h
  all_goals exact ⟨by rintro ⟨⟩, rfl⟩

variable {σ α : Type}

/-- The log after a call: that it broke off is noted. -/
def contained (outcome : Except Failure α) (log : Log) : Log :=
  match outcome with
  | .error (.fault _) => log.push .faultContained
  | _ => log

/-- The call tells the outcome of an operation on the registry, and does what that does. -/
def Images (session : Session) (log : Log) (convention : Convention)
    (leaves : Session → Option Session) (op : Op Session Outcome) (call : Call Answer) : Prop :=
  ∃ answer, convention.Tells (op.exec session log).1.1 answer ∧
    call (some session) log =
      ((answer, leaves (op.exec session log).1.2),
        contained (op.exec session log).1.1 (op.exec session log).2)

variable {session : Session} {log : Log}

theorem map_apply {β : Type} (f : α → β) (call : StateT σ (StateM Log) α) (state : σ) (log : Log) :
    (f <$> call) state log =
      ((f (call state log).1.1, (call state log).1.2), (call state log).2) := rfl

theorem onRegistry_exec (op : Op Session α) :
    (onRegistry op).exec (some session) log =
      (((op.exec session log).1.1, some (op.exec session log).1.2), (op.exec session log).2) := rfl

theorem onRegistry_map {β : Type} (f : α → β) (op : Op Session α) :
    (onRegistry (f <$> op)).exec (some session) log =
      (f <$> onRegistry op).exec (some session) log := by
  rw [onRegistry_exec, exec_map, exec_map, onRegistry_exec]

theorem settle_images {β : Type} (inner : Op Session β) (outcome : β → Outcome) (value : β → α)
    (tell : α → Answer) {convention : Convention} {op : Op Session Outcome}
    {outer : Op (Option Session) α} {refused : Refusal → α} {broken : α}
    (hop : op.exec session log = (outcome <$> inner).exec session log)
    (houter : outer.exec (some session) log = (value <$> onRegistry inner).exec (some session) log)
    (hok : ∀ b, convention.Tells (.ok (outcome b)) (tell (value b)))
    (hrefused : ∀ reason, convention.Tells (.error (.refused reason)) (tell (refused reason)))
    (hbroken : ∀ fault, convention.Tells (.error (.fault fault)) (tell broken)) :
    Images session log convention some op (tell <$> settle refused broken outer) := by
  unfold Images
  rw [map_apply, settle, houter, hop, exec_map, exec_map, onRegistry_exec]
  obtain ⟨⟨(reason | fault) | b, after⟩, log'⟩ := inner.exec session log
  · exact ⟨_, hrefused reason, rfl⟩
  · exact ⟨_, hbroken fault, rfl⟩
  · exact ⟨_, hok b, rfl⟩

theorem destroy_images :
    Images session log .silence (fun _ => none) Direct.drop.perform (serve .destroy) := by
  refine ⟨.done, .silence _, ?_⟩
  have hcall : serve .destroy (some session) log =
      ((.done, none), (settle (fun _ => ()) () (onRegistry Registry.releaseAll)
        (some session) log).2) := rfl
  have hdrop : Direct.drop.perform.exec session log =
      ((fun _ => Outcome.done) <$> Registry.releaseAll).exec session log := rfl
  rw [hcall, hdrop, exec_map, settle, onRegistry_exec]
  obtain ⟨⟨(reason | fault) | done, after⟩, log'⟩ := Registry.releaseAll.exec session log
  all_goals rfl

theorem number_images (inner : Op Session Nat) {op : Op Session Outcome}
    (hop : op.exec session log = (Outcome.number <$> inner).exec session log) :
    Images session log .number some op
      (Answer.number <$> settle (fun _ => 0) 0 (onRegistry inner)) :=
  settle_images inner Outcome.number id Answer.number hop (by rw [id_map]) .number (fun _ => .noNumber _)
    fun _ => .noNumber _

theorem topicCount_images :
    Images session log .number some Direct.count.perform (serve .topicCount) :=
  number_images (do return (← get).registry.size) rfl

theorem publish_images (kind : Kind) (handle : UInt64) (data : Option Bytes) (length : Nat) :
    Images session log .number some (Request.publish kind handle data length).decoded
      (serve (.publish kind handle data length)) := by
  refine number_images (do
    let id ← Argument.topic handle
    let payload ← Argument.payload data length
    let topic ← Registry.resolveKind kind id
    Registry.onBus (topic.publish payload)) ?_
  simp only [Request.decoded, Direct.perform, map_eq_pure_bind, bind_assoc]

theorem acquire_images {kind : Kind} (inner : Op Session (Topic kind)) (status : Option Int)
    {op : Op Session Outcome}
    (hop : op.exec session log = ((fun topic => .topic topic.id) <$> inner).exec session log) :
    Images session log (.handle status) some op
      (do
        let (handle, status) ← acquire status (onRegistry inner)
        return .handle handle status) := by
  refine settle_images inner (fun topic => .topic topic.id)
    (fun topic => (topic.id.raw, Status.success))
    (fun told => .handle told.1 (Argument.store status told.2.code)) hop ?_ ?_ ?_ ?_
  · rw [map_eq_pure_bind]
  · exact fun topic => .handle status topic.id
  · intro reason
    rw [code_ofRefusal]
    exact .noHandle status _
  · exact fun fault => .noHandle status (.fault fault)

theorem getByteTopic_images (name : Option Bytes) (capacity : Nat) (status : Option Int) :
    Images session log (.handle status) some (Request.getByteTopic name capacity status).decoded
      (serve (.getByteTopic name capacity status)) := by
  refine acquire_images (do Registry.obtainByte (← Argument.name name) capacity) status ?_
  simp only [Request.decoded, Direct.perform, map_eq_pure_bind, bind_assoc]

theorem getTypedTopic_images (name : Option Bytes) (capacity messageSize : Nat)
    (status : Option Int) :
    Images session log (.handle status) some
      (Request.getTypedTopic name capacity messageSize status).decoded
      (serve (.getTypedTopic name capacity messageSize status)) := by
  refine acquire_images (do Registry.obtainTyped (← Argument.name name) capacity messageSize) status ?_
  simp only [Request.decoded, Direct.perform, map_eq_pure_bind, bind_assoc]

theorem releaseTopic_images (handle : UInt64) :
    Images session log .code some (Request.releaseTopic handle).decoded
      (serve (.releaseTopic handle)) := by
  refine settle_images (do Registry.release (← Argument.topic handle)) (fun _ => .done)
    (fun _ => Status.success) (fun status => .code status.code) ?_ ?_ ?_ ?_ ?_
  · simp only [Request.decoded, Direct.perform, map_eq_pure_bind, bind_assoc]
  · rw [← onRegistry_map]
    simp only [map_eq_pure_bind, bind_assoc]
  · exact fun _ => .done
  · intro reason
    rw [code_ofRefusal]
    exact .failed _
  · exact fun fault => .failed (.fault fault)

theorem describe_exec {β : Type} (handle : UInt64) (view : Storage → β) (tell : β → Outcome)
    {aspect : Aspect} (h : ∀ storage, aspect.of storage = tell (view storage)) :
    (Request.state handle aspect).decoded.exec session log =
      (tell <$> (do
        let existing ← resolve handle
        return view (← Registry.onBus existing.topic.state) : Op Session β)).exec session log := by
  simp only [Request.decoded, Direct.perform, resolve, map_eq_pure_bind, bind_assoc, pure_bind, h]

theorem state_images (handle : UInt64) (aspect : Aspect) :
    Images session log (Request.state handle aspect).convention some
      (Request.state handle aspect).decoded (serve (.state handle aspect)) := by
  cases aspect with
  | length => exact number_images _ (describe_exec handle _ _ fun _ => rfl)
  | lastEpoch => exact number_images _ (describe_exec handle _ _ fun _ => rfl)
  | capacity => exact number_images _ (describe_exec handle _ _ fun _ => rfl)
  | isEmpty =>
      have hop : (Request.state handle .isEmpty).decoded.exec session log = _ :=
        describe_exec handle (fun storage => storage.ring.isEmpty) Outcome.flag fun _ => rfl
      refine settle_images _ Outcome.flag (fun holds => if holds then 1 else 0) Answer.code hop
        ?_ .flag ?_ fun fault => .failed (.fault fault)
      · rw [← onRegistry_map]
        simp only [describe, map_eq_pure_bind, bind_assoc, pure_bind, Ring.isEmpty, beq_iff_eq]
      · intro reason
        rw [code_ofRefusal]
        exact .failed _

def locate (kind : Kind) (handle : UInt64) : Op Session (Topic kind) := do
  Registry.resolveKind kind (← Argument.topic handle)

theorem locate_cases (kind : Kind) (handle : UInt64) (session : Session) (log : Log) :
    (∃ reason, (locate kind handle).exec session log =
      ((.error (.refused reason), session), log)) ∨
    ∃ id topic, TopicId.Designated handle id ∧
      session.registry.directory.get? id = some ⟨kind, topic⟩ ∧
      (locate kind handle).exec session log = ((.ok topic, session), log) := by
  simp only [locate, exec_bind, exec_liftRefusal]
  rcases Nat.lt_or_ge handle.toNat (2 ^ 32) with hsmall | hlarge
  · rw [Argument.topic_small hsmall]
    exact .inl ⟨_, rfl⟩
  · obtain ⟨id, hid⟩ := TopicId.exists_designated hlarge
    rw [Argument.topic_eq hid]
    rcases Registry.resolveKind_cases kind session id log with hrefused | ⟨topic, hget, hexec⟩
    · exact .inl hrefused
    · exact .inr ⟨id, topic, hid, hget, hexec⟩

variable {kind : Kind} {handle : UInt64} {outputs : Outputs}
  {op : Topic kind → Op (Reading Bus) (Option Delivery)}

def transferring (kind : Kind) (handle : UInt64)
    (op : Topic kind → Op (Reading Bus) (Option Delivery)) : Op Transfer Status := do
  let topic ← Transfer.onRegistry (locate kind handle)
  Transfer.report (← Transfer.onBuffer (Transfer.onReadingBus (op topic)))

theorem read_apply :
    read kind handle outputs op (some session) log =
      let result := statusCode (transferring kind handle op) ⟨some session, outputs⟩ log
      (((result.1.1, result.1.2.outputs), result.1.2.registry), result.2) := rfl

theorem transferring_lost {reason : Refusal}
    (h : (locate kind handle).exec session log = ((.error (.refused reason), session), log)) :
    (transferring kind handle op).exec ⟨some session, outputs⟩ log =
      ((.error (.refused reason), ⟨some session, outputs⟩), log) := by
  simp only [transferring, exec_bind, Transfer.onRegistry, exec_within, onRegistry_exec, h]

theorem transferring_nowhere {topic : Topic kind}
    (h : (locate kind handle).exec session log = ((.ok topic, session), log))
    (hbuffer : outputs.buffer = none) :
    (transferring kind handle op).exec ⟨some session, outputs⟩ log =
      ((.error (.refused (.invalidParameter "out" "null pointer")), ⟨some session, outputs⟩),
        log) := by
  simp only [transferring, exec_bind, Transfer.onRegistry, exec_within, onRegistry_exec, h,
    Transfer.onBuffer, exec_get, Argument.registry, exec_liftRefusal, Except.mapError, hbuffer,
    Argument.buffer]

theorem transferring_exec {topic : Topic kind} {buffer : Bytes}
    (h : (locate kind handle).exec session log = ((.ok topic, session), log))
    (hbuffer : outputs.buffer = some buffer) :
    (transferring kind handle op).exec ⟨some session, outputs⟩ log =
      let result := (op topic).exec ⟨session.bus, buffer⟩ log
      (do Transfer.report (← liftM result.1.1) : Op Transfer Status).exec
        ⟨some { session with bus := result.1.2.source },
          { outputs with buffer := some result.1.2.buffer }⟩ result.2 := by
  simp only [transferring, exec_bind, Transfer.onRegistry, exec_within, onRegistry_exec, h,
    Transfer.onBuffer, exec_get, Argument.registry, exec_liftRefusal, Except.mapError, hbuffer,
    Argument.buffer, Transfer.onReadingBus, exec_liftFailure]

section Status

variable {op : Op σ Status} {state state' : σ} {log' : Log}

theorem statusCode_ok {status : Status} (h : op.exec state log = ((.ok status, state'), log')) :
    statusCode op state log = ((status.code, state'), log') := by
  show (Status.code <$> settle Status.ofRefusal .internalFault op) state log = _
  rw [map_apply, settle, h]

theorem statusCode_refused {reason : Refusal}
    (h : op.exec state log = ((.error (.refused reason), state'), log')) :
    statusCode op state log = ((Failure.code (.refused reason), state'), log') := by
  show (Status.code <$> settle Status.ofRefusal .internalFault op) state log = _
  rw [map_apply, settle, h, ← code_ofRefusal]

end Status

def reading (kind : Kind) (handle : UInt64) (buffer : Option Bytes)
    (op : Topic kind → Op (Reading Bus) (Option Delivery)) : Op Session Outcome := do
  let topic ← locate kind handle
  match buffer with
  | none => Op.refuse (.invalidParameter "out" "null pointer")
  | some buffer => do
    let (found, buffer) ← Registry.onBus ((op topic).lending buffer)
    return .read (found.map (Storage.entryIn buffer))

/-- The read brings the payload sought in the queue to the front of the buffer, or leaves the buffer
as it is. -/
def Proper (sought : Queue → Nat) (op : Topic kind → Op (Reading Bus) (Option Delivery)) : Prop :=
  ∀ (topic : Topic kind) (bus : Bus) (storage : Storage) (queue : Queue),
    bus.storages[topic.storage]? = some storage → storage.ring.Holds queue →
    queue.history.length < 2 ^ 63 → ∀ buffer log,
      queue.Fills (sought queue) buffer ((op topic).exec ⟨bus, buffer⟩ log).1.1
        ((op topic).exec ⟨bus, buffer⟩ log).1.2.buffer

variable {sought : Queue → Nat}

theorem reading_images (h : session.Sound) (hop : Proper sought op) :
    Images session log (.transfer outputs) some (reading kind handle outputs.buffer op)
      ((fun told => Answer.transfer told.1 told.2) <$> read kind handle outputs op) := by
  unfold Images
  rw [reading, exec_bind, map_apply, read_apply]
  rcases locate_cases kind handle session log with ⟨reason, hlost⟩ | ⟨id, topic, -, hget, hfound⟩
  · rw [hlost, statusCode_refused (transferring_lost hlost)]
    exact ⟨_, .unread outputs _, rfl⟩
  · rw [hfound]
    obtain ⟨storage, queue, hstorage, hholds, hfew⟩ := h.storage hget
    obtain ⟨buffer, length, epoch⟩ := outputs
    cases buffer with
    | none =>
        rw [statusCode_refused (transferring_nowhere hfound rfl)]
        exact ⟨_, .unread _ _, rfl⟩
    | some buffer =>
        have hexec : (transferring kind handle op).exec
            ⟨some session, ⟨some buffer, length, epoch⟩⟩ log = _ := transferring_exec hfound rfl
        have hfills := hop topic session.bus storage queue hstorage hholds hfew buffer log
        simp only [exec_bind, Registry.onBus_exec, exec_lending]
        generalize (op topic).exec ⟨session.bus, buffer⟩ log = result at hexec hfills ⊢
        obtain ⟨⟨outcome, bus', buffer'⟩, log'⟩ := result
        dsimp only at hfills
        cases hfills with
        | refused reason =>
            rw [statusCode_refused hexec]
            exact ⟨_, .unread _ _, rfl⟩
        | nothing =>
            rw [statusCode_ok hexec]
            exact ⟨_, .nothing _ _ _, rfl⟩
        | found payload kept fits =>
            rw [statusCode_ok hexec]
            simp only [Except.map, Option.map_some, Storage.entryIn_append]
            exact ⟨_, .found buffer length epoch payload _ fits, rfl⟩

theorem reading_found (h : session.Sound) (hop : Proper sought op) {buffer : Option Bytes}
    {payload : Bytes} {n : Nat}
    (hread : ((reading kind handle buffer op).exec session log).1.1 =
      .ok (.read (some (payload, n)))) :
    ∃ (id : TopicId) (topic : Topic kind) (storage : Storage) (queue : Queue),
      TopicId.Designated handle id ∧ session.registry.directory.get? id = some ⟨kind, topic⟩ ∧
      session.bus.storages[topic.storage]? = some storage ∧ storage.ring.Holds queue ∧
      queue.history[sought queue]? = some payload ∧ n = sought queue + 1 := by
  rw [reading, exec_bind] at hread
  rcases locate_cases kind handle session log with ⟨reason, hlost⟩ | ⟨id, topic, hid, hget, hfound⟩
  · rw [hlost] at hread
    cases hread
  · rw [hfound] at hread
    obtain ⟨storage, queue, hstorage, hholds, hfew⟩ := h.storage hget
    refine ⟨id, topic, storage, queue, hid, hget, hstorage, hholds, ?_⟩
    cases buffer with
    | none => cases hread
    | some buffer =>
        have hfills := hop topic session.bus storage queue hstorage hholds hfew buffer log
        simp only [exec_bind, Registry.onBus_exec, exec_lending] at hread
        generalize (op topic).exec ⟨session.bus, buffer⟩ log = result at hfills hread
        obtain ⟨⟨outcome, bus', buffer'⟩, log'⟩ := result
        dsimp only at hfills
        cases hfills with
        | refused reason | nothing => cases hread
        | found payload' kept fits =>
            simp only [Except.map, Option.map_some, Storage.entryIn_append, exec_pure] at hread
            cases hread
            exact ⟨kept, rfl⟩

def Read.asks (call : Read) : Topic call.kind → Op (Reading Bus) (Option Delivery) :=
  if call.consumes then Topic.receive else Topic.readLatest

def Read.place (call : Read) (queue : Queue) : Nat :=
  if call.consumes then queue.read else queue.history.length - 1

theorem Read.asks_proper (call : Read) : Proper call.place call.asks := by
  intro topic bus storage queue hstorage hholds hfew buffer log
  unfold place asks
  split
  · exact topic.receive_fills hstorage hholds hfew buffer log
  · exact topic.readLatest_fills hstorage hholds hfew buffer log

theorem read_decoded (handle : UInt64) (call : Read) :
    (Request.read handle call).decoded =
      reading call.kind handle call.outputs.buffer call.asks := by
  simp only [Request.decoded, Read.direct, reading, locate, Read.asks, bind_assoc]
  cases call.outputs.buffer with
  | none => rfl
  | some buffer => cases call.consumes <;> rfl

theorem read_images (h : session.Sound) (handle : UInt64) (call : Read) :
    Images session log (.transfer call.outputs) some (Request.read handle call).decoded
      (serve (.read handle call)) := by
  have hserve : serve (.read handle call) = (fun told => .transfer told.1 told.2) <$>
      read call.kind handle call.outputs call.asks := by
    cases call <;> rfl
  rw [read_decoded, hserve]
  exact reading_images h call.asks_proper

theorem serve_images (h : session.Sound) (request : Request) (log : Log) :
    Images session log request.convention request.leaves request.decoded (serve request) := by
  cases request with
  | destroy => exact destroy_images
  | topicCount => exact topicCount_images
  | getByteTopic name capacity status => exact getByteTopic_images name capacity status
  | getTypedTopic name capacity messageSize status =>
      exact getTypedTopic_images name capacity messageSize status
  | releaseTopic handle => exact releaseTopic_images handle
  | publish kind handle data length => exact publish_images kind handle data length
  | read handle call => exact read_images h handle call
  | state handle aspect => exact state_images handle aspect

theorem serve_null (request : Request) (log : Log) :
    ∃ answer, request.convention.Tells
        (.error (.refused (.invalidParameter "registry" "null pointer"))) answer ∧
      serve request none log = ((answer, none), log) := by
  cases request with
  | destroy => exact ⟨_, .silence _, rfl⟩
  | topicCount | publish kind handle data length => exact ⟨_, .noNumber _, rfl⟩
  | getByteTopic name capacity status | getTypedTopic name capacity messageSize status =>
      exact ⟨_, .noHandle _ _, rfl⟩
  | releaseTopic handle => exact ⟨_, .failed _, rfl⟩
  | read handle call => cases call <;> exact ⟨_, .unread _ _, rfl⟩
  | state handle aspect =>
      cases aspect with
      | isEmpty => exact ⟨_, .failed _, rfl⟩
      | length | lastEpoch | capacity => exact ⟨_, .noNumber _, rfl⟩

end Call

end TopicBus
