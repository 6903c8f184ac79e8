import TopicBus.Proofs.Bus.Frame
import TopicBus.Proofs.Registry.Directory
import TopicBus.Registry.Basic

/-!
What is asked of a registry, and the three things that a request can do to the directory: leave it
as it is, enter a new topic under a fresh identity, or remove a topic.
-/

namespace TopicBus

open Op

theorem SomeTopic.eq_of_ofKind? {kind : Kind} {existing : SomeTopic} {topic : Topic kind}
    (h : existing.ofKind? kind = some topic) : existing = ⟨kind, topic⟩ := by
  obtain ⟨kind', topic'⟩ := existing
  unfold SomeTopic.ofKind? at h
  split at h
  · rename_i hk
    cases hk
    cases h
    rfl
  · cases h

def Directory.Lists (directory : Directory) (handle : SomeTopic) : Prop :=
  ∃ id, directory.get? id = some handle

theorem Directory.lists_of_named? {directory : Directory} {name : String} {handle : SomeTopic}
    (h : directory.named? name = some handle) : directory.Lists handle := by
  obtain ⟨id, -, hget⟩ := Option.bind_eq_some_iff.mp h
  exact ⟨id, hget⟩

def Session.counted (session : Session) (step : RegistryCounters → RegistryCounters) : Session :=
  { session with
    registry := { session.registry with counters := step session.registry.counters } }

namespace Registry

inductive Request
  | obtainByte (name : String) (capacity : Nat)
  | obtainBounded (name : String) (capacity payloadSize : Nat)
  | obtainTyped (name : String) (capacity messageSize : Nat)
  | find (kind : Kind) (name : String)
  | resolve (id : TopicId)
  | resolveKind (kind : Kind) (id : TopicId)
  | release (id : TopicId)
  | releaseNamed (name : String)
  | topics

inductive Reply
  | topic (handle : SomeTopic)
  | topics (found : List SomeTopic.Summary)
  | released (id : Option TopicId)

def perform : Request → Op Session Reply
  | .obtainByte name capacity => do return .topic ⟨.byte, ← obtainByte name capacity⟩
  | .obtainBounded name capacity payloadSize => do
    return .topic ⟨.byte, ← obtainBounded name capacity payloadSize⟩
  | .obtainTyped name capacity messageSize => do
    return .topic ⟨.typed, ← obtainTyped name capacity messageSize⟩
  | .find kind name => do return .topic ⟨kind, ← find kind name⟩
  | .resolve id => do return .topic (← resolve id)
  | .resolveKind kind id => do return .topic ⟨kind, ← resolveKind kind id⟩
  | .release id => do release id; return .released (some id)
  | .releaseNamed name => do
    let id := (← getDirectory).names[name]?
    releaseNamed name
    return .released id
  | .topics => do return .topics (← topics)

structure Kept (before after : Session) : Prop where
  directory_eq : after.registry.directory = before.registry.directory
  settings_eq : after.registry.settings = before.registry.settings
  bus_eq : after.bus = before.bus

instance : IsPreorder Session Kept where
  refl _ := ⟨rfl, rfl, rfl⟩
  trans _ _ _ hab hbc :=
    ⟨hbc.directory_eq.trans hab.directory_eq, hbc.settings_eq.trans hab.settings_eq,
      hbc.bus_eq.trans hab.bus_eq⟩

variable {α : Type} {kind : Kind} {session : Session} {log : Log}

theorem onBus_kept {op : Op Bus α} (hop : op.Follows (· = ·)) :
    (onBus op).Follows Kept := hop.within fun _ _ hbus => ⟨rfl, rfl, hbus.symm⟩

theorem count_kept (step : RegistryCounters → RegistryCounters) :
    (count step).Follows Kept := fun _ _ => ⟨rfl, rfl, rfl⟩

theorem getDirectory_kept : getDirectory.Follows Kept :=
  Follows.get.bind fun _ => .pure _

theorem obtainExisting_kept (existing : SomeTopic) (spec : TopicSpec) (exact : Bool) :
    (obtainExisting kind existing spec exact).Follows Kept := by
  refine (onBus_kept existing.topic.state_same).bind fun storage => ?_
  dsimp only
  cases matching kind existing storage.ring spec exact with
  | ok topic => exact .pure _
  | error reason =>
      exact (count_kept _).bind fun _ => (Follows.log _).bind fun _ => .throw _

theorem find_kept (name : String) : (find kind name).Follows Kept := by
  refine (count_kept _).bind fun _ => getDirectory_kept.bind fun directory => ?_
  cases directory.named? name with
  | none => exact .throw _
  | some existing =>
      dsimp only
      cases existing.ofKind? kind with
      | none => exact (count_kept _).bind fun _ => .throw _
      | some topic => exact .pure _

theorem resolve_kept (id : TopicId) : (resolve id).Follows Kept := by
  refine getDirectory_kept.bind fun directory => ?_
  cases directory.get? id with
  | none => exact .throw _
  | some existing => exact .pure _

theorem resolveKind_kept (id : TopicId) : (resolveKind kind id).Follows Kept := by
  refine (resolve_kept id).bind fun existing => ?_
  cases existing.ofKind? kind with
  | none => exact .throw _
  | some topic => exact .pure _

theorem topics_kept : topics.Follows Kept := by
  refine getDirectory_kept.bind fun directory => ?_
  have hsummary (handle : SomeTopic) : handle.summary.Follows (· = ·) :=
    handle.topic.state_same.bind fun _ => .pure _
  exact (onBus_kept (Follows.mapM hsummary directory.entries)).bind fun _ => .pure _

structure Keeps (way : Bus → Bus → Prop) : Prop where
  ofSpec : ∀ kind spec id, (Topic.ofSpec kind spec id).Follows way
  setReleased : ∀ {kind : Kind} (topic : Topic kind), topic.setReleased.Follows way

section Follows

variable {way : Bus → Bus → Prop}

theorem onBus_follows {op : Op Bus α} (hop : op.Follows way) :
    (onBus op).Follows (InvImage way Session.bus) := hop.within fun _ _ hbus => hbus

variable [IsPreorder Bus way]

theorem follows_of_kept {op : Op Session α} (hop : op.Follows Kept) :
    op.Follows (InvImage way Session.bus) := by
  intro session log
  show way session.bus (op.exec session log).1.2.bus
  rw [(hop session log).bus_eq]
  exact refl session.bus

theorem setDirectory_follows (directory : Directory) :
    (setDirectory directory).Follows (InvImage way Session.bus) := fun session _ => refl session.bus

variable (h : Keeps way)

include h

theorem register_follows (spec : TopicSpec) :
    (register kind spec).Follows (InvImage way Session.bus) := by
  refine Follows.get.bind fun session => .ite ((Follows.log _).bind fun _ => .throw _) ?_
  refine (Follows.liftFailure _).bind fun id => ?_
  refine (onBus_follows (h.ofSpec kind spec id)).bind fun topic => ?_
  refine (Follows.liftFault _).bind fun next => (setDirectory_follows next).bind fun _ => ?_
  exact (follows_of_kept (count_kept _)).bind fun _ => (Follows.log _).bind fun _ => .pure _

theorem obtain_follows (spec : TopicSpec) (exact : Bool) :
    (obtain kind spec exact).Follows (InvImage way Session.bus) := by
  refine (Follows.liftRefusal _).bind fun _ => (follows_of_kept (count_kept _)).bind fun _ => ?_
  refine (follows_of_kept getDirectory_kept).bind fun directory => ?_
  cases directory.named? spec.name with
  | none => exact register_follows h spec
  | some existing => exact follows_of_kept (obtainExisting_kept existing spec exact)

theorem retire_follows (entry : SomeTopic) (id : TopicId) :
    (retire entry id).Follows (InvImage way Session.bus) := by
  refine (onBus_follows (h.setReleased entry.topic)).bind fun _ => ?_
  exact (follows_of_kept (count_kept _)).bind fun _ => .log _

theorem release_follows (id : TopicId) : (release id).Follows (InvImage way Session.bus) := by
  refine (follows_of_kept getDirectory_kept).bind fun directory => ?_
  cases directory.remove id with
  | none => exact .throw _
  | some found => exact (setDirectory_follows _).bind fun _ => retire_follows h _ _

theorem releaseNamed_follows (name : String) :
    (releaseNamed name).Follows (InvImage way Session.bus) := by
  refine (follows_of_kept getDirectory_kept).bind fun directory => ?_
  cases directory.names[name]? with
  | none => exact .throw _
  | some id =>
      dsimp only
      cases directory.remove id with
      | none => exact .throw _
      | some found => exact (setDirectory_follows _).bind fun _ => retire_follows h _ _

theorem releaseAll_follows : releaseAll.Follows (InvImage way Session.bus) := by
  refine (follows_of_kept getDirectory_kept).bind fun directory => ?_
  refine (setDirectory_follows _).bind fun _ => ?_
  refine (Follows.forM (fun entry => ?_) directory.entries).bind fun _ => ?_
  · exact (onBus_follows (h.setReleased entry.topic)).bind fun _ => follows_of_kept (count_kept _)
  · exact .ite (.log _) (.pure _)

theorem perform_follows (request : Request) :
    (perform request).Follows (InvImage way Session.bus) := by
  cases request with
  | obtainByte name capacity =>
      exact (Follows.get.bind fun _ => obtain_follows h _ _).bind fun _ => .pure _
  | obtainBounded name capacity payloadSize | obtainTyped name capacity messageSize =>
      exact (obtain_follows h _ _).bind fun _ => .pure _
  | find kind name => exact (follows_of_kept (find_kept name)).bind fun _ => .pure _
  | resolve id => exact (follows_of_kept (resolve_kept id)).bind fun _ => .pure _
  | resolveKind kind id => exact (follows_of_kept (resolveKind_kept id)).bind fun _ => .pure _
  | release id => exact (release_follows h id).bind fun _ => .pure _
  | releaseNamed name =>
      refine (follows_of_kept getDirectory_kept).bind fun _ => ?_
      exact (releaseNamed_follows h name).bind fun _ => .pure _
  | topics => exact (follows_of_kept topics_kept).bind fun _ => .pure _

end Follows

def Aside : Session → Session → Prop := InvImage (Bus.Apart none) Session.bus

instance : IsPreorder Session Aside := inferInstanceAs (IsPreorder Session (InvImage _ _))

theorem perform_aside (request : Request) : (perform request).Follows Aside :=
  perform_follows ⟨fun kind spec id => Topic.ofSpec_apart kind spec id,
    fun topic => topic.access_apart fun _ => Storage.setReleased_retains⟩ request

theorem count_exec (step : RegistryCounters → RegistryCounters) :
    (count step).exec session log = ((.ok ⟨⟩, session.counted step), log) := rfl

theorem getDirectory_exec :
    getDirectory.exec session log = ((.ok session.registry.directory, session), log) := rfl

theorem perform_releaseNamed (name : String) (session : Session) (log : Log) :
    (perform (.releaseNamed name)).exec session log =
      ((((releaseNamed name).exec session log).1.1.map fun _ =>
          .released session.registry.directory.names[name]?,
        ((releaseNamed name).exec session log).1.2), ((releaseNamed name).exec session log).2) := by
  rw [perform, exec_bind, getDirectory_exec]
  simp only [← map_eq_pure_bind, exec_map]

theorem matching_eq_ok {existing : SomeTopic} {ring : Ring} {spec : TopicSpec} {exact : Bool}
    {topic : Topic kind} (h : matching kind existing ring spec exact = .ok topic) :
    existing = ⟨kind, topic⟩ := by
  unfold matching at h
  cases hk : existing.ofKind? kind with
  | none =>
      simp only [hk] at h
      cases h
  | some topic' =>
      simp only [hk] at h
      split at h
      · cases h
      · split at h
        · cases h
        · cases h
          exact SomeTopic.eq_of_ofKind? hk

theorem obtainExisting_yields (existing : SomeTopic) (spec : TopicSpec) (exact : Bool) :
    (obtainExisting kind existing spec exact).Yields fun topic => existing = ⟨kind, topic⟩ := by
  refine Yields.bind _ fun storage => ?_
  dsimp only
  cases hm : matching kind existing storage.ring spec exact with
  | ok topic => exact .pure (matching_eq_ok hm)
  | error reason => exact Yields.bind _ fun _ => Yields.bind _ fun _ => .throw _

theorem find_exec (kind : Kind) (name : String) (session : Session) (log : Log) :
    (find kind name).exec session log =
      match session.registry.directory.named? name with
      | none => ((.error (.refused (.notFound name)),
          session.counted RegistryCounters.countLookup), log)
      | some existing =>
        match existing.ofKind? kind with
        | some topic => ((.ok topic, session.counted RegistryCounters.countLookup), log)
        | none => ((.error (.refused (.kindMismatch name existing.kind kind)),
            (session.counted RegistryCounters.countLookup).counted
              RegistryCounters.countMismatch), log) := by
  have hsame : (session.counted RegistryCounters.countLookup).registry.directory =
      session.registry.directory := rfl
  simp only [find, exec_bind, count_exec, getDirectory_exec, hsame]
  cases session.registry.directory.named? name with
  | none => rfl
  | some existing =>
      dsimp only
      cases existing.ofKind? kind <;> rfl

theorem resolve_exec (id : TopicId) (session : Session) (log : Log) :
    (resolve id).exec session log =
      match session.registry.directory.get? id with
      | none => ((.error (.refused (.notFound id.text)), session), log)
      | some existing => ((.ok existing, session), log) := by
  simp only [resolve, exec_bind, getDirectory_exec]
  cases session.registry.directory.get? id <;> rfl

theorem resolveKind_exec (kind : Kind) (id : TopicId) (session : Session) (log : Log) :
    (resolveKind kind id).exec session log =
      match session.registry.directory.get? id with
      | none => ((.error (.refused (.notFound id.text)), session), log)
      | some existing =>
        match existing.ofKind? kind with
        | some topic => ((.ok topic, session), log)
        | none => ((.error (.refused (.kindMismatch existing.topic.name existing.kind kind)),
            session), log) := by
  simp only [resolveKind, exec_bind, resolve_exec]
  cases session.registry.directory.get? id with
  | none => rfl
  | some existing =>
      dsimp only
      cases existing.ofKind? kind <;> rfl

theorem resolveKind_mismatch {id : TopicId} {existing : SomeTopic}
    (hget : session.registry.directory.get? id = some existing) (hkind : existing.kind ≠ kind)
    (log : Log) :
    (resolveKind kind id).exec session log =
      ((.error (.refused (.kindMismatch existing.topic.name existing.kind kind)), session), log) := by
  rw [resolveKind_exec, hget]
  dsimp only
  rw [SomeTopic.ofKind?, dif_neg hkind]

theorem find_cases (kind : Kind) (name : String) (session : Session) (log : Log) :
    (find kind name).exec session log = ((.error (.refused (.notFound name)),
        session.counted RegistryCounters.countLookup), log) ∨
    (∃ existing : SomeTopic, (find kind name).exec session log =
      ((.error (.refused (.kindMismatch name existing.kind kind)),
        (session.counted RegistryCounters.countLookup).counted
          RegistryCounters.countMismatch), log)) ∨
    ∃ topic : Topic kind, session.registry.directory.named? name = some ⟨kind, topic⟩ ∧
      (find kind name).exec session log =
        ((.ok topic, session.counted RegistryCounters.countLookup), log) := by
  rw [find_exec]
  cases hnamed : session.registry.directory.named? name with
  | none => exact .inl rfl
  | some existing =>
      dsimp only
      cases hkind : existing.ofKind? kind with
      | none => exact .inr (.inl ⟨existing, rfl⟩)
      | some topic =>
          rw [SomeTopic.eq_of_ofKind? hkind]
          exact .inr (.inr ⟨topic, rfl, rfl⟩)

theorem find_lists {name : String} {topic : Topic kind}
    (h : ((find kind name).exec session log).1.1 = .ok topic) :
    session.registry.directory.Lists ⟨kind, topic⟩ := by
  rcases find_cases kind name session log with hexec | ⟨existing, hexec⟩ | ⟨found, hnamed, hexec⟩
  · rw [hexec] at h
    cases h
  · rw [hexec] at h
    cases h
  · rw [hexec] at h
    cases h
    exact Directory.lists_of_named? hnamed

theorem resolve_eq_ok {id : TopicId} {handle : SomeTopic} :
    ((resolve id).exec session log).1.1 = .ok handle ↔
      session.registry.directory.get? id = some handle := by
  rw [resolve_exec]
  cases session.registry.directory.get? id <;> simp

theorem resolve_cases (session : Session) (id : TopicId) (log : Log) :
    (∃ reason, (resolve id).exec session log = ((.error (.refused reason), session), log)) ∨
    ∃ entry, session.registry.directory.get? id = some entry ∧
      (resolve id).exec session log = ((.ok entry, session), log) := by
  rw [resolve_exec]
  cases hget : session.registry.directory.get? id with
  | none => exact .inl ⟨_, rfl⟩
  | some entry => exact .inr ⟨entry, rfl, rfl⟩

theorem resolveKind_cases (kind : Kind) (session : Session) (id : TopicId) (log : Log) :
    (∃ reason, (resolveKind kind id).exec session log =
      ((.error (.refused reason), session), log)) ∨
    ∃ topic : Topic kind, session.registry.directory.get? id = some ⟨kind, topic⟩ ∧
      (resolveKind kind id).exec session log = ((.ok topic, session), log) := by
  rw [resolveKind_exec]
  cases hget : session.registry.directory.get? id with
  | none => exact .inl ⟨_, rfl⟩
  | some entry =>
      dsimp only
      cases hkind : entry.ofKind? kind with
      | none => exact .inl ⟨_, rfl⟩
      | some topic =>
          rw [SomeTopic.eq_of_ofKind? hkind]
          exact .inr ⟨topic, rfl, rfl⟩

theorem resolveKind_lists {id : TopicId} {topic : Topic kind}
    (h : ((resolveKind kind id).exec session log).1.1 = .ok topic) :
    session.registry.directory.Lists ⟨kind, topic⟩ := by
  rcases resolveKind_cases kind session id log with ⟨reason, hexec⟩ | ⟨found, hget, hexec⟩
  · rw [hexec] at h
    cases h
  · rw [hexec] at h
    cases h
    exact ⟨id, hget⟩

end Registry

end TopicBus
