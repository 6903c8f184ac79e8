import TopicBus.Proofs.Boundary.Hosted
import TopicBus.Proofs.World.Unbroken

namespace TopicBus

open Op

theorem Failure.code_ne {α : Type} {failure : Failure}
    (h : isFault (.error failure : Except Failure α) = false) : failure.code ≠ -99 := by
  rcases failure with reason | fault
  · cases reason <;> simp [code]
  · cases h

namespace Call

variable {session : Session} {request : Request} {outcome : Except Failure Outcome} {log : Log}

def Answer.code? : Answer → Option Int
  | .done | .number _ => none
  | .code told | .transfer told _ => some told
  | .handle _ status => status

theorem Convention.Tells.code_ne {convention : Convention} {answer : Answer}
    (h : convention.Tells outcome answer) (hwhole : isFault outcome = false) :
    answer.code? ≠ some (-99) := by
  cases h with
  | silence | number | noNumber | found | nothing | done => simp [Answer.code?]
  | flag holds => cases holds <;> simp [Answer.code?]
  | failed failure | unread outputs failure =>
      simpa [Answer.code?] using Failure.code_ne hwhole
  | handle status id => cases status <;> simp [Answer.code?]
  | noHandle status failure =>
      cases status with
      | none => simp [Answer.code?]
      | some old => simpa [Answer.code?] using Failure.code_ne hwhole

theorem contained_whole (h : isFault outcome = false) : contained outcome log = log := by
  rcases outcome with (reason | fault) | a
  · rfl
  · cases h
  · rfl

def Direct.Exhausts (direct : Direct) (session : Session) : Prop :=
  ∃ (kind : Kind) (id : TopicId) (payload : Bytes) (topic : Topic kind) (storage : Storage),
    direct = .publish kind id payload ∧
    session.registry.directory.get? id = some ⟨kind, topic⟩ ∧
    session.bus.storages[topic.storage]? = some storage ∧ storage.Exhausted payload

def Request.Exhausts (request : Request) (session : Session) : Prop :=
  ∃ direct, request.Denotes direct ∧ direct.Exhausts session

theorem Direct.perform_whole (h : session.Hosted) (direct : Direct)
    (hroom : ¬direct.Exhausts session) (log : Log) :
    isFault (direct.perform.exec session log).1.1 = false := by
  by_cases hdrop : direct = .drop
  · subst hdrop
    simp only [perform, ← map_eq_pure_bind, exec_map, isFault_map]
    exact Registry.releaseAll_whole h.sound.coherent log
  · have hacts := direct.perform_acts h.sound hdrop log
    generalize (direct.perform.exec session log).1 = result at hacts
    obtain ⟨outcome, after⟩ := result
    cases hacts with
    | still whole => exact whole
    | ask request breaks releases =>
        exact breaks.trans (Registry.perform_whole h.sound.coherent request log)
    | @use kind id topic listed request breaks offers =>
        refine breaks.trans ((topic.report_withstands h.sound.bus
          (h.fitting id ⟨kind, topic⟩ listed) request log).whole ?_)
        rintro ⟨index, storage, payload, ⟨⟩, hstorage, hoffered, hexhausted⟩
        exact hroom ⟨kind, id, payload, topic, storage, offers payload hoffered, listed, hstorage,
          hexhausted⟩

/-- The call that was decoded does not break off, its outcome is told as it is, and nothing more is
logged. -/
structure Whole (session : Session) (request : Request) (log : Log) : Prop where
  decoded : isFault (request.decoded.exec session log).1.1 = false
  tells : request.convention.Tells (request.decoded.exec session log).1.1
    (serve request (some session) log).1.1
  code_ne : (serve request (some session) log).1.1.code? ≠ some (-99)
  log_eq : (serve request (some session) log).2 = (request.decoded.exec session log).2

theorem serve_whole (h : session.Hosted) (lent : request.Lent)
    (hroom : ¬request.Exhausts session) (log : Log) : Whole session request log := by
  have hdecoded : isFault (request.decoded.exec session log).1.1 = false := by
    rcases Request.denotes_or_malformed lent with ⟨direct, hdenotes⟩ | ⟨reason, hmalformed⟩
    · rw [hdenotes.decoded_exec]
      exact direct.perform_whole h (fun hexhausts => hroom ⟨direct, hdenotes, hexhausts⟩) log
    · rw [hmalformed.decoded_exec]
      rfl
  obtain ⟨answer, htells, hserve⟩ := serve_images h.sound request log
  rw [contained_whole hdecoded] at hserve
  constructor
  · exact hdecoded
  · rw [hserve]
    exact htells
  · rw [hserve]
    exact htells.code_ne hdecoded
  · rw [hserve]

theorem serve_null_code (request : Request) (log : Log) :
    (serve request none log).1.1.code? ≠ some (-99) := by
  obtain ⟨answer, htells, hserve⟩ := serve_null request log
  rw [hserve]
  exact htells.code_ne rfl

/-- In every world and in every heap no call breaks off, whatever is asked and whatever is passed,
so no C caller is told of a fault. The one call left out is a publish that would bring the epochs of
its topic to `2 ^ 63`. -/
theorem calls_unbroken {world : World} (hworld : World.Run {} world) {heap : Heap}
    (hheap : Heap.Run (fun _ => none) heap) :
    world.Unbroken ∧
    (∀ address session, heap address = some session → ∀ request : Request, request.Lent →
      ¬request.Exhausts session → ∀ log, Whole session request log) ∧
    ∀ request log, (serve request none log).1.1.code? ≠ some (-99) := by
  refine ⟨hworld.unbroken, ?_, serve_null_code⟩
  intro address session there request lent hroom log
  exact serve_whole (hheap.hosted address session there) lent hroom log

/-- A byte topic is published on with a part of what was lent, and it is taken for a typed one; then
another topic is asked for, and there is no memory for it. -/
theorem calls_unbroken_misused :
    ∃ world heap session, World.Run {} world ∧ (world.registries 0).isSome ∧
      Heap.Run (fun _ => none) heap ∧ heap 0 = some session ∧ world.Unbroken ∧
      (∀ log, Whole session (.publish .byte 4294967296 (some [7, 8, 9]) 2) log) ∧
      (∀ log, Whole session (.publish .typed 4294967296 none 0) log) ∧
      let get : Request := .getByteTopic (some [98, 0]) 1 none
      (∀ log, Whole (provided session 256) get log) ∧
        (get.decoded.exec (provided session 256) #[]).1.1 =
          .error (.refused (.allocationFailure "Failed to allocate slot ring")) := by
  let world := World.put {} 0 (some { settings := { maxTopics := 1 } }) {}
  have hworld : World.Run {} world :=
    .single (.make {} rfl (rfl : Registry.create { maxTopics := 1 } = .ok _))
  let session : Session :=
    ((Request.getByteTopic (some [97, 0]) 1 none).decoded.exec newRegistry #[]).1.2
  obtain ⟨heap, hheap, there⟩ : Heap.Reaches session :=
    Heap.reaches_new.call (.getByteTopic (some [97, 0]) 1 none) trivial (by rintro ⟨⟩) #[]
  have hnew : session.bus.storages.all (fun storage => storage.ring.lastEpoch == 0) = true := by
    decide +kernel
  have hdenied : ((Request.getByteTopic (some [98, 0]) 1 none).decoded.exec
      (provided session 256) #[]).1.1 =
        .error (.refused (.allocationFailure "Failed to allocate slot ring")) := by
    decide +kernel
  clear_value session
  have hroom (request : Request) (memory : Nat) :
      ¬request.Exhausts (provided session memory) := by
    rintro ⟨direct, -, kind, id, payload, topic, storage, -, -, hstorage, hexhausted⟩
    have hlast := Array.all_eq_true_iff_forall_mem.mp hnew storage
      (Array.mem_of_getElem? hstorage)
    have hend := hexhausted.last
    rw [beq_iff_eq.mp hlast] at hend
    cases hend
  obtain ⟨hunbroken, hwhole, -⟩ := calls_unbroken hworld hheap
  have hprovided := hheap.tail (.provide heap there 256)
  obtain ⟨-, hleft, -⟩ := calls_unbroken hworld hprovided
  refine ⟨world, heap, session, hworld, rfl, hheap, there, hunbroken, fun log => ?_, fun log => ?_,
    fun log => ?_, hdenied⟩
  · refine hwhole 0 session there _ ?_ (hroom _ session.bus.memory) log
    rintro bytes ⟨⟩
    decide
  · refine hwhole 0 session there _ ?_ (hroom _ session.bus.memory) log
    rintro bytes ⟨⟩
  · exact hleft 0 _ (Function.update_self ..) (.getByteTopic (some [98, 0]) 1 none) trivial
      (hroom _ 256) log

end Call

end TopicBus
