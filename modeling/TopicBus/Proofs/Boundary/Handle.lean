import TopicBus.Proofs.Boundary.Hosted
import TopicBus.Proofs.Registry.Generation

namespace TopicBus

open Op

namespace TopicId

variable {handle : UInt64} {id : TopicId}

theorem Designated.le_toNat (h : Designated handle id) : 2 ^ 32 ≤ handle.toNat := by
  have hpos := toNat_ne_zero h.generation_ne
  rw [h.raw_eq, toNat_raw]
  omega

theorem ofRaw?_eq_some_iff : ofRaw? handle = some id ↔ Designated handle id := by
  constructor
  · intro hsome
    rcases Nat.lt_or_ge handle.toNat (2 ^ 32) with hsmall | hlarge
    · rw [ofRaw?_small hsmall] at hsome
      cases hsome
    · obtain ⟨other, hother⟩ := exists_designated hlarge
      rw [hother.raw_eq, ofRaw?_raw hother.generation_ne] at hsome
      cases hsome
      exact hother
  · intro h
    rw [h.raw_eq, ofRaw?_raw h.generation_ne]

theorem ofRaw?_eq_none_iff : ofRaw? handle = none ↔ handle.toNat < 2 ^ 32 := by
  constructor
  · intro hnone
    by_contra hlarge
    obtain ⟨id, hid⟩ := exists_designated (Nat.le_of_not_lt hlarge)
    rw [ofRaw?_eq_some_iff.mpr hid] at hnone
    cases hnone
  · exact ofRaw?_small

end TopicId

namespace Session

structure Live (session : Session) (entry : SomeTopic) : Prop where
  listed : session.registry.directory.Lists entry
  unreleased : ∃ storage, session.bus.storages[entry.topic.storage]? = some storage ∧
    storage.released = false

def LeadsTo (session : Session) (handle : UInt64) (entry : SomeTopic) : Prop :=
  ∀ log, (Call.resolve handle).exec session log = ((.ok entry, session), log)

variable {session : Session} {handle : UInt64} {entry : SomeTopic} {id : TopicId}

theorem leadsTo_of_get? (hid : TopicId.Designated handle id)
    (hget : session.registry.directory.get? id = some entry) : session.LeadsTo handle entry := by
  intro log
  simp only [Call.resolve, exec_bind, exec_liftRefusal, Argument.topic_eq hid, Except.mapError,
    Registry.resolve, Registry.getDirectory_exec, hget, exec_pure]

theorem LeadsTo.exists_id (h : session.LeadsTo handle entry) :
    ∃ id, TopicId.Designated handle id ∧
      session.registry.directory.get? id = some entry := by
  have hok := h #[]
  simp only [Call.resolve, exec_bind, exec_liftRefusal] at hok
  rcases Nat.lt_or_ge handle.toNat (2 ^ 32) with hsmall | hlarge
  · rw [Argument.topic_small hsmall] at hok
    cases hok
  · obtain ⟨id, hid⟩ := TopicId.exists_designated hlarge
    rw [Argument.topic_eq hid] at hok
    exact ⟨id, hid, Registry.resolve_eq_ok.mp (congrArg (·.1.1) hok)⟩

theorem Coherent.leadsTo_iff (h : session.Coherent) :
    session.LeadsTo handle entry ↔
      session.registry.directory.Lists entry ∧ handle = entry.topic.id.raw := by
  constructor
  · intro hleads
    obtain ⟨id, hid, hget⟩ := hleads.exists_id
    rw [h.directory.id_of_get? hget]
    exact ⟨⟨id, hget⟩, hid.raw_eq⟩
  · rintro ⟨⟨id, hget⟩, rfl⟩
    rw [h.directory.id_of_get? hget]
    have hplace := Directory.get?_eq_some_iff.mp hget
    exact leadsTo_of_get? ⟨h.directory.generation_ne _ _ hplace, rfl⟩ hget

theorem LeadsTo.unique {other : SomeTopic} (h : session.LeadsTo handle entry)
    (h' : session.LeadsTo handle other) : entry = other := by
  have hsame := (h #[]).symm.trans (h' #[])
  simp only [Prod.mk.injEq, Except.ok.injEq, and_true] at hsame
  exact hsame

end Session

namespace Call

def Convention.failing : Convention → Int → Answer
  | silence, _ => .done
  | number, _ => .number 0
  | code, n => .code n
  | handle status, n => .handle 0 (status.map fun _ => n)
  | transfer outputs, n => .transfer n outputs

theorem Convention.Tells.eq_failing {convention : Convention} {failure : Failure} {answer : Answer}
    (h : convention.Tells (.error failure) answer) : answer = convention.failing failure.code := by
  cases h <;> rfl

variable {session : Session} {handle : UInt64} {entry : SomeTopic} {kind : Kind} {id : TopicId}
  {request : Request} {reason : Refusal} {log : Log}

theorem serve_refused (h : session.Sound) (hstays : request.leaves session = some session)
    (hrefused : request.decoded.exec session log = ((.error (.refused reason), session), log)) :
    serve request (some session) log =
      ((request.convention.failing (Failure.code (.refused reason)), some session), log) := by
  obtain ⟨answer, htells, hserve⟩ := serve_images h request log
  rw [hrefused] at htells hserve
  rw [hserve, htells.eq_failing, hstays]
  rfl

/-- The code for a handle that leads nowhere; a word that is too small is no handle at all. -/
def lostCode (handle : UInt64) : Int := if handle.toNat < 2 ^ 32 then -1 else -3

structure LeadsNowhere (session : Session) (handle : UInt64) : Prop where
  publish : ∀ kind data length log, serve (.publish kind handle data length) (some session) log =
    ((.number 0, some session), log)
  length : ∀ log, serve (.state handle .length) (some session) log =
    ((.number 0, some session), log)
  lastEpoch : ∀ log, serve (.state handle .lastEpoch) (some session) log =
    ((.number 0, some session), log)
  capacity : ∀ log, serve (.state handle .capacity) (some session) log =
    ((.number 0, some session), log)
  isEmpty : ∀ log, serve (.state handle .isEmpty) (some session) log =
    ((.code (lostCode handle), some session), log)
  release : ∀ log, serve (.releaseTopic handle) (some session) log =
    ((.code (lostCode handle), some session), log)
  read : ∀ call log, serve (.read handle call) (some session) log =
    ((.transfer (lostCode handle) call.outputs, some session), log)

theorem decoded_lost (hlost : ∀ entry, ¬session.LeadsTo handle entry)
    (hpassed : request.handle? = some handle) (log : Log) :
    ∃ reason, request.decoded.exec session log = ((.error (.refused reason), session), log) ∧
      ((∀ kind data length, request ≠ .publish kind handle data length) →
        Failure.code (.refused reason) = lostCode handle) := by
  rcases Nat.lt_or_ge handle.toNat (2 ^ 32) with hsmall | hlarge
  · have hnull := Request.Malformed.nullHandle hpassed hsmall
    exact ⟨_, hnull.decoded_exec, fun _ => (if_pos hsmall).symm⟩
  · obtain ⟨id, hid⟩ := TopicId.exists_designated hlarge
    have hnone : session.registry.directory.get? id = none := by
      cases hget : session.registry.directory.get? id with
      | none => rfl
      | some entry => exact absurd (Session.leadsTo_of_get? hid hget) (hlost entry)
    have hcode : Failure.code (.refused (.notFound id.text)) = lostCode handle :=
      (if_neg (Nat.not_lt.mpr hlarge)).symm
    cases request with
    | destroy | topicCount => cases hpassed
    | getByteTopic name capacity status | getTypedTopic name capacity messageSize status =>
        cases hpassed
    | releaseTopic handle =>
        cases hpassed
        refine ⟨_, ?_, fun _ => hcode⟩
        simp only [Request.decoded, exec_bind, exec_liftRefusal, Argument.topic_eq hid,
          Except.mapError, Direct.perform, Registry.release_stale hnone]
    | publish kind handle data length =>
        cases hpassed
        simp only [Request.decoded, exec_bind, exec_liftRefusal, Argument.topic_eq hid,
          Except.mapError]
        cases Argument.payload data length with
        | error reason => exact ⟨reason, rfl, fun hother => absurd rfl (hother kind data length)⟩
        | ok payload =>
            simp only [Direct.perform, exec_bind, Registry.resolveKind_stale kind hnone]
            exact ⟨_, rfl, fun _ => hcode⟩
    | read handle call =>
        cases hpassed
        refine ⟨_, ?_, fun _ => hcode⟩
        simp only [read_decoded, reading, locate, exec_bind, exec_liftRefusal,
          Argument.topic_eq hid, Except.mapError, Registry.resolveKind_stale _ hnone]
    | state handle aspect =>
        cases hpassed
        refine ⟨_, ?_, fun _ => hcode⟩
        simp only [Request.decoded, exec_bind, exec_liftRefusal, Argument.topic_eq hid,
          Except.mapError, Direct.perform, Registry.resolve_stale hnone]

theorem leadsNowhere (h : session.Sound) (hlost : ∀ entry, ¬session.LeadsTo handle entry) :
    LeadsNowhere session handle := by
  have hserve (request : Request) (hpassed : request.handle? = some handle)
      (hstays : request.leaves session = some session)
      (hother : ∀ kind data length, request ≠ .publish kind handle data length) (log : Log) :
      serve request (some session) log =
        ((request.convention.failing (lostCode handle), some session), log) := by
    obtain ⟨reason, hrefused, hcode⟩ := decoded_lost hlost hpassed log
    rw [serve_refused h hstays hrefused, hcode hother]
  constructor
  case publish =>
    intro kind data length log
    have hpassed : (Request.publish kind handle data length).handle? = some handle := rfl
    obtain ⟨reason, hrefused, -⟩ := decoded_lost hlost hpassed log
    exact serve_refused h rfl hrefused
  case length | lastEpoch | capacity | isEmpty => exact hserve (.state handle _) rfl rfl (by simp)
  case release => exact hserve (.releaseTopic handle) rfl rfl (by simp)
  case read => exact fun call => hserve (.read handle call) rfl rfl (by simp)

structure LeadsAstray (session : Session) (handle : UInt64) (kind : Kind) : Prop where
  publish : ∀ data length log, serve (.publish kind handle data length) (some session) log =
    ((.number 0, some session), log)
  read : ∀ call : Read, call.kind = kind → ∀ log, serve (.read handle call) (some session) log =
    ((.transfer (-4) call.outputs, some session), log)

theorem leadsAstray (h : session.Sound) (hleads : session.LeadsTo handle entry)
    (hkind : entry.kind ≠ kind) : LeadsAstray session handle kind := by
  obtain ⟨id, hid, hget⟩ := hleads.exists_id
  constructor
  case publish =>
    intro data length log
    have hrefused : ∃ reason, (Request.publish kind handle data length).decoded.exec session log =
        ((.error (.refused reason), session), log) := by
      simp only [Request.decoded, exec_bind, exec_liftRefusal, Argument.topic_eq hid,
        Except.mapError]
      cases Argument.payload data length with
      | error reason => exact ⟨reason, rfl⟩
      | ok payload =>
          simp only [Direct.perform, exec_bind, Registry.resolveKind_mismatch hget hkind]
          exact ⟨_, rfl⟩
    obtain ⟨reason, hrefused⟩ := hrefused
    exact serve_refused h rfl hrefused
  case read =>
    rintro call rfl log
    have hrefused : (Request.read handle call).decoded.exec session log = ((.error (.refused
        (.kindMismatch entry.topic.name entry.kind call.kind)), session), log) := by
      simp only [read_decoded, reading, locate, exec_bind, exec_liftRefusal, Argument.topic_eq hid,
        Except.mapError, Registry.resolveKind_mismatch hget hkind]
    exact serve_refused h rfl hrefused

/-- Handles are exactly the live topics. -/
structure Exact (session : Session) : Prop where
  leads_iff : ∀ handle entry, session.LeadsTo handle entry ↔
    session.Live entry ∧ handle = entry.topic.id.raw
  unique : ∀ handle entry other, session.LeadsTo handle entry → session.LeadsTo handle other →
    entry = other
  large : ∀ handle entry, session.LeadsTo handle entry → 2 ^ 32 ≤ handle.toNat
  nowhere : ∀ handle, (∀ entry, ¬session.LeadsTo handle entry) → LeadsNowhere session handle
  astray : ∀ handle entry kind, session.LeadsTo handle entry → entry.kind ≠ kind →
    LeadsAstray session handle kind

theorem exact_of_hosted (h : session.Hosted) : Exact session where
  leads_iff := by
    intro handle entry
    rw [h.sound.coherent.leadsTo_iff]
    constructor
    · rintro ⟨hlists, hhandle⟩
      exact ⟨⟨hlists, h.reached.live hlists⟩, hhandle⟩
    · rintro ⟨hlive, hhandle⟩
      exact ⟨hlive.listed, hhandle⟩
  unique := fun _ _ _ => Session.LeadsTo.unique
  large := by
    intro handle entry hleads
    obtain ⟨id, hid, -⟩ := hleads.exists_id
    exact hid.le_toNat
  nowhere := fun _ => leadsNowhere h.sound
  astray := fun _ _ _ => leadsAstray h.sound

end Call

end TopicBus
