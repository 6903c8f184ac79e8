import TopicBus.Proofs.Boundary.Answer

namespace TopicBus

open Op

def Bus.lastEpochs (bus : Bus) (index : Nat) : Option Nat :=
  (bus.storages[index]?).map (·.ring.lastEpoch)

theorem Bus.lastEpochs_set {bus : Bus} {index : Nat} (storage : Storage)
    (h : index < bus.storages.size) :
    Bus.lastEpochs { bus with storages := bus.storages.setIfInBounds index storage } =
      Function.update bus.lastEpochs index (some storage.ring.lastEpoch) := by
  funext other
  by_cases hi : index = other
  · subst hi
    rw [lastEpochs, Array.getElem?_setIfInBounds_self_of_lt h, Function.update_self]
    rfl
  · rw [lastEpochs, Array.getElem?_setIfInBounds_ne hi, Function.update_of_ne (Ne.symm hi)]
    rfl

namespace Call

variable {session : Session} {kind : Kind} {id : TopicId} {payload : Bytes} {log : Log}

theorem Direct.perform_sustains {direct : Direct} (hdirect : direct ≠ .drop) :
    direct.perform.Follows Session.Sustains := by
  have hresolve (kind : Kind) (id : TopicId) :
      (Registry.resolveKind kind id).Follows Session.Sustains :=
    (Registry.resolveKind_kept id).mono fun _ _ => Registry.Kept.sustains
  have hread {kind : Kind} (topic : Topic kind) (buffer : Bytes)
      {op : Op (Reading Storage) (Option Delivery)}
      (hop : op.Follows (InvImage Storage.Sustains Reading.source)) :
      (Registry.onBus ((topic.accessReading op).lending buffer)).Follows Session.Sustains :=
    Registry.onBus_sustains ((topic.accessReading_sustains hop).lending buffer)
  cases direct with
  | drop => exact absurd rfl hdirect
  | count => exact Follows.get.bind fun _ => .pure _
  | obtainByte name capacity =>
      exact (Registry.sustains_of_perform (.obtainByte name capacity) rfl).bind fun _ => .pure _
  | obtainTyped name capacity messageSize =>
      exact (Registry.sustains_of_perform (.obtainTyped name capacity messageSize) rfl).bind fun _ => .pure _
  | release id => exact (Registry.sustains_of_perform (.release id) rfl).bind fun _ => .pure _
  | publish kind id payload =>
      refine (hresolve kind id).bind fun topic => ?_
      have hpublish := topic.access_sustains (Storage.covered_sustains.publish topic.name payload)
      exact (Registry.onBus_sustains hpublish).bind fun _ => .pure _
  | receive kind id buffer =>
      refine (hresolve kind id).bind fun topic => ?_
      exact (hread topic buffer (Storage.covered_sustains.receive topic.name)).bind fun _ => .pure _
  | readLatest kind id buffer =>
      refine (hresolve kind id).bind fun topic => ?_
      exact (hread topic buffer (Storage.covered_sustains.readLatest topic.name)).bind fun _ =>
        .pure _
  | locate kind id => exact (hresolve kind id).bind fun _ => .throw _
  | state id aspect =>
      have hresolve := (Registry.resolve_kept id).mono fun _ _ => Registry.Kept.sustains
      refine hresolve.bind fun existing => ?_
      have hstate := (Registry.onBus_kept existing.topic.state_same).mono fun _ _ =>
        Registry.Kept.sustains
      exact hstate.bind fun _ => .pure _

theorem serve_leaves (h : session.Sound) {request : Request} (lent : request.Lent) (log : Log)
    {after : Session} (hafter : (serve request (some session) log).1.2 = some after) :
    after = session ∨ ∃ direct, request.Denotes direct ∧ direct ≠ .drop ∧
      after = (direct.perform.exec session log).1.2 := by
  obtain ⟨answer, -, hserve⟩ := serve_images h request log
  rw [hserve] at hafter
  rcases Request.denotes_or_malformed lent with ⟨direct, hdenotes⟩ | ⟨reason, hmalformed⟩
  · rw [hdenotes.decoded_exec, hdenotes.leaves_eq] at hafter
    obtain ⟨hdirect, rfl⟩ := Direct.eq_of_leaves hafter
    exact .inr ⟨direct, hdenotes, hdirect, rfl⟩
  · rw [hmalformed.decoded_exec] at hafter
    exact .inl (Request.eq_of_leaves hafter)

theorem serve_sound (h : session.Sound) {request : Request} (lent : request.Lent) (log : Log)
    {after : Session} (hafter : (serve request (some session) log).1.2 = some after) :
    after.Sound := by
  rcases serve_leaves h lent log hafter with rfl | ⟨direct, -, hdirect, rfl⟩
  · exact h
  · exact direct.perform_sustains hdirect session log h

/-- A publish answers with the epoch that it adds, and with 0 exactly if it adds none. -/
inductive Publishes (before after : Session) (kind : Kind) (handle : UInt64) : Nat → Prop
  | nothing (same : after.bus.lastEpochs = before.bus.lastEpochs) :
      Publishes before after kind handle 0
  | epoch {id : TopicId} (designated : TopicId.Designated handle id) {topic : Topic kind}
      (listed : before.registry.directory.get? id = some ⟨kind, topic⟩) {n : Nat}
      (last : before.bus.lastEpochs topic.storage = some n)
      (next : after.bus.lastEpochs =
        Function.update before.bus.lastEpochs topic.storage (some (n + 1))) :
      Publishes before after kind handle (n + 1)

theorem Direct.publish_cases (h : session.Sound) (kind : Kind) (id : TopicId) (payload : Bytes)
    (log : Log) :
    (∃ failure after log', (Direct.publish kind id payload).perform.exec session log =
        ((.error failure, after), log') ∧ after.bus.lastEpochs = session.bus.lastEpochs) ∨
    ∃ (topic : Topic kind) (n : Nat) (after : Session) (log' : Log),
      (Direct.publish kind id payload).perform.exec session log =
        ((.ok (.number (n + 1)), after), log') ∧
      session.registry.directory.get? id = some ⟨kind, topic⟩ ∧
      session.bus.lastEpochs topic.storage = some n ∧
      after.bus.lastEpochs =
        Function.update session.bus.lastEpochs topic.storage (some (n + 1)) := by
  rw [perform, exec_bind]
  rcases Registry.resolveKind_cases kind session id log with
    ⟨reason, hrefused⟩ | ⟨topic, hget, hfound⟩
  · rw [hrefused]
    exact .inl ⟨_, _, _, rfl, rfl⟩
  · rw [hfound]
    obtain ⟨storage, queue, hstorage, hholds, hfew⟩ := h.storage hget
    obtain ⟨hlt, -⟩ := Array.getElem?_eq_some_iff.mp hstorage
    have hlast : session.bus.lastEpochs topic.storage = some storage.ring.lastEpoch := by
      rw [Bus.lastEpochs, hstorage]
      rfl
    simp only [exec_bind, Registry.onBus_exec, Topic.publish, topic.access_exec hstorage]
    rcases Storage.publish_cases hholds hfew topic.name payload log with
      ⟨failure, storage', log', hexec, -, hsame⟩ | ⟨storage', log', hexec, hnext, -⟩
    · rw [hexec]
      refine .inl ⟨_, _, _, rfl, ?_⟩
      show Bus.lastEpochs { session.bus with storages := _ } = _
      rw [Bus.lastEpochs_set _ hlt, hsame, ← hlast, Function.update_eq_self]
    · rw [hexec]
      refine .inr ⟨topic, queue.history.length, _, _, rfl, hget, ?_, ?_⟩
      · rw [hlast, hholds.lastEpoch_eq]
      · show Bus.lastEpochs { session.bus with storages := _ } = _
        rw [Bus.lastEpochs_set _ hlt, hnext.lastEpoch_eq, Queue.append,
          List.length_append, List.length_singleton]

theorem serve_publishes (h : session.Sound) {kind : Kind} {handle : UInt64} {data : Option Bytes}
    {length : Nat} (lent : Argument.Lent data length) {n : Nat} {after : Session} {log' : Log}
    (hserve : serve (.publish kind handle data length) (some session) log =
      ((.number n, some after), log')) : Publishes session after kind handle n := by
  obtain ⟨answer, htells, himage⟩ := serve_images h (.publish kind handle data length) log
  rw [himage] at hserve
  obtain ⟨hanswer, hafter⟩ := Prod.mk.inj (Prod.mk.inj hserve).1
  rw [hanswer] at htells
  rw [← Option.some.inj hafter]
  have hlent : (Request.publish kind handle data length).Lent := lent
  rcases Request.denotes_or_malformed hlent with ⟨direct, hdenotes⟩ | ⟨reason, hmalformed⟩
  · rw [hdenotes.decoded_exec] at htells ⊢
    cases hdenotes with
    | publish designated carries =>
        rcases Direct.publish_cases h kind _ _ log with
          ⟨failure, after, log', hexec, hsame⟩ | ⟨topic, last, after, log', hexec, hget, hlast, hnext⟩
        · rw [hexec] at htells ⊢
          cases htells
          exact .nothing hsame
        · rw [hexec] at htells ⊢
          cases htells
          exact .epoch designated hget hlast hnext
  · rw [hmalformed.decoded_exec] at htells ⊢
    cases htells
    exact .nothing rfl

/-- A read that succeeds brings an entry that its topic holds, the oldest unread or the latest. -/
inductive Delivers (session : Session) (handle : UInt64) (call : Read) : Outputs → Prop
  | entry {id : TopicId} (designated : TopicId.Designated handle id) {topic : Topic call.kind}
      (listed : session.registry.directory.get? id = some ⟨call.kind, topic⟩) {storage : Storage}
      (there : session.bus.storages[topic.storage]? = some storage) {queue : Queue}
      (holds : storage.ring.Holds queue) {payload : Bytes}
      (kept : queue.history[call.place queue]? = some payload) {buffer : Bytes}
      (lent : call.outputs.buffer = some buffer) (fits : payload.length ≤ buffer.length) :
      Delivers session handle call ⟨some (payload ++ buffer.drop payload.length),
        call.outputs.length.map fun _ => payload.length,
        call.outputs.epoch.map fun _ => call.place queue + 1⟩

theorem serve_delivers (h : session.Sound) {handle : UInt64} {call : Read} {outputs : Outputs}
    {after : Option Session} {log' : Log}
    (hserve : serve (.read handle call) (some session) log =
      ((.transfer 1 outputs, after), log')) : Delivers session handle call outputs := by
  obtain ⟨answer, htells, himage⟩ := serve_images h (.read handle call) log
  rw [himage] at hserve
  obtain ⟨hanswer, -⟩ := Prod.mk.inj (Prod.mk.inj hserve).1
  rw [hanswer, read_decoded] at htells
  have hfound {payload : Bytes} {n : Nat} :=
    @reading_found session log _ handle call.asks call.place h call.asks_proper call.outputs.buffer
      payload n
  change (Convention.transfer call.outputs).Tells _ _ at htells
  -- The code and what is lent are made variables, so that the conventions can be told apart.
  generalize hlent : call.outputs = lent at htells hfound
  generalize hcode : (1 : Int) = code at htells
  generalize ((reading call.kind handle lent.buffer call.asks).exec session log).1.1 = outcome
    at htells hfound
  cases htells with
  | found buffer length epoch payload n fits =>
      obtain ⟨id, topic, storage, queue, hid, hget, hstorage, hholds, hkept, rfl⟩ := hfound rfl
      have hbuffer : call.outputs.buffer = some buffer := by rw [hlent]
      have hentry := Delivers.entry hid hget hstorage hholds hkept hbuffer fits
      rw [hlent] at hentry
      exact hentry
  | nothing buffer length epoch => cases hcode
  | unread outputs failure =>
      have hneg := failure.code_neg
      omega

/-- The call is the image of the call by values that it stands for, or else is refused; and its
numbers mean what they should. -/
structure Mirrored (session : Session) (request : Request) (log : Log) : Prop where
  stands : (∃ direct, request.Denotes direct) ∨ ∃ reason, request.Malformed reason
  image : ∀ direct, request.Denotes direct →
    Images session log request.convention direct.leaves direct.perform (serve request)
  refusal : ∀ reason, request.Malformed reason → ∃ answer,
    request.convention.Tells (.error (.refused reason)) answer ∧
      serve request (some session) log = ((answer, some session), log)
  publishes : ∀ kind handle data length, request = .publish kind handle data length →
    ∀ n after log', serve request (some session) log = ((.number n, some after), log') →
      Publishes session after kind handle n
  delivers : ∀ handle call, request = .read handle call →
    ∀ outputs after log', serve request (some session) log = ((.transfer 1 outputs, after), log') →
      Delivers session handle call outputs

theorem serve_mirrored (h : session.Sound) {request : Request} (lent : request.Lent) (log : Log) :
    Mirrored session request log where
  stands := Request.denotes_or_malformed lent
  image := by
    intro direct hdenotes
    have himages := serve_images h request log
    rw [hdenotes.leaves_eq] at himages
    unfold Images at himages ⊢
    rw [hdenotes.decoded_exec] at himages
    exact himages
  refusal := by
    intro reason hmalformed
    obtain ⟨answer, htells, hserve⟩ := serve_images h request log
    rw [hmalformed.decoded_exec] at htells hserve
    refine ⟨answer, htells, hserve.trans ?_⟩
    rw [hmalformed.leaves_eq]
    rfl
  publishes := by
    rintro kind handle data length rfl n after log' hserve
    exact serve_publishes h lent hserve
  delivers := by
    rintro handle call rfl outputs after log' hserve
    exact serve_delivers h hserve

def provided (session : Session) (memory : Nat) : Session :=
  { session with bus := { session.bus with memory } }

theorem provided_sound (h : session.Sound) (memory : Nat) : (provided session memory).Sound :=
  ⟨h.coherent.grown (Nat.le_refl _), h.bus⟩

/-- Registries by address. -/
abbrev Heap := Nat → Option Session

namespace Heap

/-- A registry is made, or one of those there is called with arguments that are as long as they are
said to be; or the system has memory for other blocks than before. -/
inductive Step : Heap → Heap → Prop
  | create (heap : Heap) {address : Nat} (vacant : heap address = none) :
      Step heap (Function.update heap address (some newRegistry))
  | call (heap : Heap) {address : Nat} {session : Session} (there : heap address = some session)
      {request : Request} (lent : request.Lent) (log : Log) :
      Step heap (Function.update heap address (serve request (some session) log).1.2)
  | provide (heap : Heap) {address : Nat} {session : Session} (there : heap address = some session)
      (memory : Nat) : Step heap (Function.update heap address (some (provided session memory)))

inductive DirectStep : Heap → Heap → Prop
  | create (heap : Heap) {address : Nat} (vacant : heap address = none) {registry : Registry}
      (made : Registry.create {} = .ok registry) :
      DirectStep heap (Function.update heap address (some ⟨registry, {}⟩))
  | call (heap : Heap) {address : Nat} {session : Session} (there : heap address = some session)
      (direct : Direct) (log : Log) :
      DirectStep heap
        (Function.update heap address (direct.leaves (direct.perform.exec session log).1.2))
  | provide (heap : Heap) {address : Nat} {session : Session} (there : heap address = some session)
      (memory : Nat) :
      DirectStep heap (Function.update heap address (some (provided session memory)))

abbrev Run : Heap → Heap → Prop := Relation.ReflTransGen Step

abbrev DirectRun : Heap → Heap → Prop := Relation.ReflTransGen DirectStep

def Sound (heap : Heap) : Prop := ∀ address session, heap address = some session → session.Sound

variable {before after : Heap}

theorem forall_update {holds : Session → Prop}
    (h : ∀ address session, before address = some session → holds session) (address : Nat)
    {found : Option Session} (hfound : ∀ session, found = some session → holds session) :
    ∀ other session, Function.update before address found other = some session →
      holds session := by
  intro other session hsession
  by_cases hother : other = address
  · subst hother
    rw [Function.update_self] at hsession
    exact hfound session hsession
  · rw [Function.update_of_ne hother] at hsession
    exact h other session hsession

theorem Step.sound (h : Step before after) (hb : before.Sound) : after.Sound := by
  cases h with
  | @create address vacant =>
      refine forall_update hb address ?_
      rintro session ⟨⟩
      exact Registry.create_sound (rfl : Registry.create {} = .ok newRegistry.registry)
  | @call address session there request lent log =>
      exact forall_update hb address fun _ hafter => serve_sound (hb _ _ there) lent log hafter
  | @provide address session there memory =>
      refine forall_update hb address ?_
      rintro after ⟨⟩
      exact provided_sound (hb _ _ there) memory

theorem Run.sound (h : Run before after) (hb : before.Sound) : after.Sound := by
  induction h with
  | refl => exact hb
  | tail _ step ih => exact step.sound ih

theorem Step.direct (h : Step before after) (hb : before.Sound) : DirectRun before after := by
  cases h with
  | create vacant => exact .single (.create before vacant rfl)
  | provide there memory => exact .single (.provide before there memory)
  | @call address session there request lent log =>
      have hmirrored := serve_mirrored (hb _ _ there) lent log
      rcases hmirrored.stands with ⟨direct, hdenotes⟩ | ⟨reason, hmalformed⟩
      · obtain ⟨answer, -, hserve⟩ := hmirrored.image direct hdenotes
        rw [hserve]
        exact .single (.call before there direct log)
      · obtain ⟨answer, -, hserve⟩ := hmirrored.refusal reason hmalformed
        rw [hserve, ← there, Function.update_eq_self]

theorem Run.direct (h : Run before after) (hb : before.Sound) : DirectRun before after := by
  induction h with
  | refl => exact .refl
  | tail run step ih => exact ih.trans (step.direct (Run.sound run hb))

end Heap

/-- Whatever callers do with the registries that they make, calls by values lead to the same
registries, every further call is the image of one, and a null pointer is refused. -/
theorem run_mirrored {heap : Heap} (hrun : Heap.Run (fun _ => none) heap) :
    Heap.DirectRun (fun _ => none) heap ∧
    (∀ address session, heap address = some session → ∀ request : Request, request.Lent →
      ∀ log, Mirrored session request log) ∧
    ∀ request log, ∃ answer, request.convention.Tells
        (.error (.refused (.invalidParameter "registry" "null pointer"))) answer ∧
      serve request none log = ((answer, none), log) := by
  have hempty : Heap.Sound fun _ => none := by
    rintro address session ⟨⟩
  refine ⟨Heap.Run.direct hrun hempty, ?_, serve_null⟩
  intro address session there request lent log
  exact serve_mirrored (Heap.Run.sound hrun hempty address session there) lent log

/-- A topic is asked for by its zero-ended name; two bytes published on it get the first epoch. -/
theorem run_mirrored_published :
    ∃ heap session, Heap.Run (fun _ => none) heap ∧ heap 0 = some session ∧
      ∃ after log, serve (.publish .byte 4294967296 (some [7, 8, 9]) 2) (some session) #[] =
        ((.number 1, some after), log) ∧ Publishes session after .byte 4294967296 1 := by
  let made : Heap := Function.update (fun _ => none) 0 (some newRegistry)
  have hmade : Heap.Run (fun _ => none) made := .single (.create _ rfl)
  have hthere : made 0 = some newRegistry := rfl
  let get : Request := .getByteTopic (some [97, 0]) 1 none
  have hget : get.Denotes (.obtainByte "a" 1) := .getByteTopic (by decide +kernel) 1 none
  let session := ((Direct.obtainByte "a" 1).perform.exec newRegistry #[]).1.2
  have hmirrored := (run_mirrored hmade).2.1 0 newRegistry hthere get trivial #[]
  obtain ⟨answer, -, hserve⟩ := hmirrored.image _ hget
  have hobtained := hmade.tail (.call made hthere (show get.Lent from trivial) #[])
  rw [hserve] at hobtained
  let publish : Request := .publish .byte 4294967296 (some [7, 8, 9]) 2
  have hlent : publish.Lent := by
    rintro bytes ⟨⟩
    decide
  have hid : TopicId.Designated 4294967296 ⟨0, 1⟩ := ⟨by decide, rfl⟩
  have hdenotes : publish.Denotes (.publish .byte ⟨0, 1⟩ [7, 8]) :=
    .publish hid (.front [7, 8] [9]) .byte
  have hmirrored := (run_mirrored hobtained).2.1 0 session rfl publish hlent #[]
  obtain ⟨answer, htells, hserve⟩ := hmirrored.image _ hdenotes
  have hepoch : ((Direct.publish .byte ⟨0, 1⟩ [7, 8]).perform.exec session #[]).1.1.toOption =
      some (.number 1) := by
    decide +kernel
  generalize (Direct.publish .byte ⟨0, 1⟩ [7, 8]).perform.exec session #[] = result
    at htells hserve hepoch
  obtain ⟨⟨failure | outcome, after⟩, log⟩ := result
  · cases hepoch
  · cases hepoch
    cases htells
    exact ⟨_, session, hobtained, rfl, after, _, hserve, hmirrored.publishes _ _ _ _ rfl _ _ _ hserve⟩

end Call

end TopicBus
