import TopicBus.Proofs.Registry.Request

/-!
Coherent sessions, and what one request does to one. The directory is coherent and within the
limits, and each topic in it has a storage of its own. Every request either keeps directory and
bus, or enters a new topic, or removes one and marks its storage as released.
-/

namespace TopicBus

open Op

/-- A registry whose tables agree with each other, with its settings and with the bus. -/
structure Session.Coherent (session : Session) : Prop where
  directory : session.registry.directory.Coherent
  names_le : session.registry.directory.names.size ≤ session.registry.settings.maxTopics
  max_le : session.registry.settings.maxTopics ≤ Limits.registryTopics
  storage_lt : ∀ (id : TopicId) (entry : SomeTopic),
    session.registry.directory.get? id = some entry →
      entry.topic.storage < session.bus.storages.size
  storage_inj : ∀ (a b : TopicId) (entry other : SomeTopic),
    session.registry.directory.get? a = some entry →
      session.registry.directory.get? b = some other →
      entry.topic.storage = other.topic.storage → a = b

theorem Session.Coherent.counted {session : Session} (h : session.Coherent)
    {step : RegistryCounters → RegistryCounters} : (session.counted step).Coherent :=
  ⟨h.directory, h.names_le, h.max_le, h.storage_lt, h.storage_inj⟩

theorem Session.Coherent.grown {registry : Registry} {bus bus' : Bus}
    (h : Session.Coherent ⟨registry, bus⟩) (hgrown : bus.storages.size ≤ bus'.storages.size) :
    Session.Coherent ⟨registry, bus'⟩ :=
  ⟨h.directory, h.names_le, h.max_le, fun id entry hget => (h.storage_lt id entry hget).trans_le hgrown,
    h.storage_inj⟩

theorem RegistrySettings.check_eq_ok {settings : RegistrySettings}
    (h : settings.check = .ok ()) : settings.maxTopics ≤ Limits.registryTopics := by
  unfold check at h
  split at h
  · cases h
  · split at h
    · cases h
    · omega

theorem Registry.create_eq_ok {settings : RegistrySettings} {registry : Registry}
    (h : create settings = .ok registry) :
    settings.maxTopics ≤ Limits.registryTopics ∧ registry = { settings } := by
  unfold create at h
  cases hc : settings.check with
  | error reason =>
      rw [hc] at h
      cases h
  | ok =>
      rw [hc] at h
      cases h
      exact ⟨RegistrySettings.check_eq_ok hc, rfl⟩

theorem Registry.create_coherent {settings : RegistrySettings} {registry : Registry}
    (h : create settings = .ok registry) (bus : Bus) : Session.Coherent ⟨registry, bus⟩ := by
  obtain ⟨hmax, rfl⟩ := create_eq_ok h
  refine ⟨Directory.coherent_empty, Nat.zero_le _, hmax, ?_, ?_⟩
  · rintro id entry ⟨⟩
  · rintro a b entry other ⟨⟩

namespace Registry

/-- What a request does to the directory, and which answer goes with it. -/
inductive Effect (before after : Session) (outcome : Except Failure Reply) : Prop
  | kept (kept : Kept before after)
      (lists : ∀ handle, outcome = .ok (.topic handle) → before.registry.directory.Lists handle)
      (keeps : ∀ id, outcome ≠ .ok (.released id))
  | entered (kind : Kind) (spec : TopicSpec) (ring : Ring) (topic : Topic kind)
      (makes : spec.Makes before.bus.memory kind ring)
      (name_eq : topic.name = spec.name)
      (vacant : before.registry.directory.names[topic.name]? = none)
      (room : before.registry.directory.names.size < before.registry.settings.maxTopics)
      (fresh : before.registry.directory.freshId = .ok topic.id)
      (storage_eq : topic.storage = before.bus.storages.size)
      (bus_eq : after.bus = { before.bus with storages := before.bus.storages.push { ring } })
      (inserted : before.registry.directory.insert topic.id ⟨kind, topic⟩ =
        .ok after.registry.directory)
      (settings_eq : after.registry.settings = before.registry.settings)
      (answer : outcome = .ok (.topic ⟨kind, topic⟩))
  | left (id : TopicId) (entry : SomeTopic)
      (removed : before.registry.directory.remove id = some (entry, after.registry.directory))
      (settings_eq : after.registry.settings = before.registry.settings)
      (answer : outcome = .ok (.released (some id)))
      (bus_eq : after.bus = before.bus.retire entry.topic.storage)

variable {α : Type} {kind : Kind} {session : Session} {log : Log}

theorem Effect.of_lists {op : Op Session α} {handle : α → SomeTopic}
    (hkept : op.Follows Kept)
    (hlists : ∀ a, (op.exec session log).1.1 = .ok a →
      session.registry.directory.Lists (handle a)) :
    Effect session (op.exec session log).1.2
      ((op.exec session log).1.1.map fun a => .topic (handle a)) := by
  have hsession := hkept session log
  generalize op.exec session log = result at hsession hlists ⊢
  obtain ⟨⟨failure | a, session'⟩, log'⟩ := result
  · exact .kept hsession (by rintro _ ⟨⟩) (by rintro _ ⟨⟩)
  · refine .kept hsession ?_ (by rintro _ ⟨⟩)
    rintro _ ⟨⟩
    exact hlists a rfl

theorem setDirectory_exec (directory : Directory) :
    (setDirectory directory).exec session log =
      ((.ok ⟨⟩, { session with registry := { session.registry with directory } }), log) := rfl

theorem onBus_exec (op : Op Bus α) :
    (onBus op).exec session log =
      (((op.exec session.bus log).1.1, { session with bus := (op.exec session.bus log).1.2 }),
        (op.exec session.bus log).2) := rfl

/-- The session after a topic over the ring was entered, which gave the directory. -/
def entered (session : Session) (directory : Directory) (ring : Ring) : Session :=
  ⟨{ session.registry with
    directory
    counters := session.registry.counters.countCreated },
    { session.bus with storages := session.bus.storages.push { ring } }⟩

theorem register_exec (h : session.Coherent) {spec : TopicSpec} {ring : Ring}
    (makes : spec.Makes session.bus.memory kind ring)
    (room : session.registry.directory.names.size < session.registry.settings.maxTopics)
    (log : Log) :
    ∃ (id : TopicId) (next : Directory) (log' : Log),
      session.registry.directory.freshId = .ok id ∧ session.registry.directory.Fresh id ∧
      session.registry.directory.insert id ⟨kind, ⟨spec.name, id, session.bus.storages.size⟩⟩ =
        .ok next ∧
      (register kind spec).exec session log =
        ((.ok ⟨spec.name, id, session.bus.storages.size⟩, entered session next ring), log') := by
  obtain ⟨id, hid, hfresh⟩ := h.directory.freshId_eq_ok (room.trans_le h.max_le)
  obtain ⟨next, hinsert, -⟩ :=
    hfresh.insert_eq_ok ⟨kind, ⟨spec.name, id, session.bus.storages.size⟩⟩
  have hroom : ¬session.registry.settings.maxTopics ≤ session.registry.size := Nat.not_le.mpr room
  simp only [register, exec_bind, exec_get, hroom, if_false, exec_liftFailure, hid, onBus_exec,
    Topic.ofSpec_exec makes, exec_liftFault, hinsert, Except.mapError, setDirectory_exec,
    count_exec, exec_log, exec_pure]
  exact ⟨id, next, _, rfl, hfresh, hinsert, rfl⟩

theorem register_effect (h : session.Coherent) {spec : TopicSpec}
    (hvacant : session.registry.directory.names[spec.name]? = none) :
    Effect session ((register kind spec).exec session log).1.2
      (((register kind spec).exec session log).1.1.map fun topic => .topic ⟨kind, topic⟩) := by
  by_cases hfull : session.registry.settings.maxTopics ≤ session.registry.size
  · simp only [register, exec_bind, exec_get, hfull, if_true, exec_log, exec_refuse, Except.map]
    exact .kept (refl session) (by rintro _ ⟨⟩) (by rintro _ ⟨⟩)
  · have hroom := Nat.lt_of_not_le hfull
    rcases Topic.ofSpec_cases kind spec session.bus with ⟨ring, hmakes⟩ | ⟨failure, hfails⟩
    · obtain ⟨id, next, log', hid, -, hinsert, hexec⟩ := register_exec h hmakes hroom log
      rw [hexec]
      exact .entered kind spec ring _ hmakes rfl hvacant hroom hid rfl rfl hinsert rfl rfl
    · obtain ⟨id, hid, -⟩ := h.directory.freshId_eq_ok (hroom.trans_le h.max_le)
      simp only [register, exec_bind, exec_get, hfull, if_false, exec_liftFailure, hid,
        onBus_exec, hfails, Except.map]
      exact .kept (refl session) (by rintro _ ⟨⟩) (by rintro _ ⟨⟩)

theorem Effect.of_counted (step : RegistryCounters → RegistryCounters) {after : Session}
    {outcome : Except Failure Reply} (h : Effect (session.counted step) after outcome) :
    Effect session after outcome := by
  cases h with
  | kept kept lists keeps =>
      exact .kept ⟨kept.directory_eq, kept.settings_eq, kept.bus_eq⟩ lists keeps
  | entered kind spec ring topic makes name_eq vacant room fresh storage_eq bus_eq inserted
      settings_eq answer =>
      exact .entered kind spec ring topic makes name_eq vacant room fresh storage_eq bus_eq inserted
        settings_eq answer
  | left id entry removed settings_eq answer bus_eq =>
      exact .left id entry removed settings_eq answer bus_eq

theorem obtain_effect (h : session.Coherent) (spec : TopicSpec) (exact : Bool) :
    Effect session ((obtain kind spec exact).exec session log).1.2
      (((obtain kind spec exact).exec session log).1.1.map fun topic => .topic ⟨kind, topic⟩) := by
  simp only [obtain, exec_bind, exec_liftRefusal]
  cases hs : spec.check with
  | error reason => exact .kept (refl session) (by rintro _ ⟨⟩) (by rintro _ ⟨⟩)
  | ok =>
      simp only [Except.mapError, count_exec, getDirectory_exec]
      apply Effect.of_counted RegistryCounters.countLookup
      cases hn : (session.counted RegistryCounters.countLookup).registry.directory.named?
          spec.name with
      | some existing =>
          refine Effect.of_lists (obtainExisting_kept existing spec exact) ?_
          intro topic htopic
          rw [← obtainExisting_yields existing spec exact _ _ topic htopic]
          exact Directory.lists_of_named? hn
      | none => exact register_effect h.counted (h.directory.names_eq_none hn)

theorem retire_exec (session : Session) {entry : SomeTopic} {storage : Storage}
    (h : session.bus.storages[entry.topic.storage]? = some storage) (id : TopicId) (log : Log) :
    (retire entry id).exec session log =
      ((.ok (), { session.counted RegistryCounters.countReleased with
        bus := session.bus.retire entry.topic.storage }),
        log.push (.topicReleased entry.kind entry.topic.name id)) := by
  simp only [retire, exec_bind, onBus_exec, entry.topic.setReleased_exec h, count_exec, exec_log]
  rfl

def removed (session : Session) (next : Directory) (bus : Bus) : Session :=
  ⟨{ session.registry with
    directory := next
    counters := session.registry.counters.countReleased }, bus⟩

theorem setRetire_exec (h : session.Coherent) {id : TopicId} {entry : SomeTopic} {next : Directory}
    (hr : session.registry.directory.remove id = some (entry, next)) (named : TopicId) (log : Log) :
    (do setDirectory next; retire entry named : Op Session Unit).exec session log =
      ((.ok (), removed session next (session.bus.retire entry.topic.storage)),
        log.push (.topicReleased entry.kind entry.topic.name named)) := by
  have hstorage := Array.getElem?_eq_getElem
    (h.storage_lt id entry (Directory.removed_of_remove hr).get?_eq)
  let session' : Session :=
    { session with registry := { session.registry with directory := next } }
  simp only [exec_bind, setDirectory_exec]
  exact retire_exec session' hstorage named log

theorem release_exec (h : session.Coherent) {id : TopicId} {entry : SomeTopic} {next : Directory}
    (hr : session.registry.directory.remove id = some (entry, next)) (log : Log) :
    (release id).exec session log =
      ((.ok (), removed session next (session.bus.retire entry.topic.storage)),
        log.push (.topicReleased entry.kind entry.topic.name id)) := by
  rw [release, exec_bind, getDirectory_exec]
  simp only [hr]
  exact setRetire_exec h hr id log

theorem release_cases (h : session.Coherent) (id : TopicId) (log : Log) :
    (∃ text, (release id).exec session log =
      ((.error (.refused (.notFound text)), session), log)) ∨
    ∃ entry next, session.registry.directory.remove id = some (entry, next) ∧
      (release id).exec session log =
        ((.ok (), removed session next (session.bus.retire entry.topic.storage)),
          log.push (.topicReleased entry.kind entry.topic.name id)) := by
  cases hr : session.registry.directory.remove id with
  | none =>
      refine .inl ⟨id.text, ?_⟩
      simp only [release, exec_bind, getDirectory_exec, hr, exec_refuse]
  | some found =>
      obtain ⟨entry, next⟩ := found
      exact .inr ⟨entry, next, rfl, release_exec h hr log⟩

theorem releaseNamed_cases (h : session.Coherent) (name : String) (log : Log) :
    (∃ text, (releaseNamed name).exec session log =
      ((.error (.refused (.notFound text)), session), log)) ∨
    ∃ id entry next, session.registry.directory.names[name]? = some id ∧
      session.registry.directory.remove id = some (entry, next) ∧
      (releaseNamed name).exec session log =
        ((.ok (), removed session next (session.bus.retire entry.topic.storage)),
          log.push (.topicReleased entry.kind entry.topic.name entry.topic.id)) := by
  simp only [releaseNamed, exec_bind, getDirectory_exec]
  cases hn : session.registry.directory.names[name]? with
  | none => exact .inl ⟨name, rfl⟩
  | some id =>
      dsimp only
      cases hr : session.registry.directory.remove id with
      | none => exact .inl ⟨name, rfl⟩
      | some found =>
          obtain ⟨entry, next⟩ := found
          exact .inr ⟨id, entry, next, rfl, hr, setRetire_exec h hr entry.topic.id log⟩

theorem release_effect (h : session.Coherent) (id : TopicId) :
    Effect session ((release id).exec session log).1.2
      (((release id).exec session log).1.1.map fun _ => .released (some id)) := by
  rcases release_cases h id log with ⟨text, hexec⟩ | ⟨entry, next, hr, hexec⟩
  · rw [hexec]
    exact .kept (refl session) (by rintro _ ⟨⟩) (by rintro _ ⟨⟩)
  · rw [hexec]
    exact .left id entry hr rfl rfl rfl

theorem releaseNamed_effect (h : session.Coherent) (name : String) :
    Effect session ((releaseNamed name).exec session log).1.2
      (((releaseNamed name).exec session log).1.1.map fun _ =>
        .released session.registry.directory.names[name]?) := by
  rcases releaseNamed_cases h name log with ⟨text, hexec⟩ | ⟨id, entry, next, hn, hr, hexec⟩
  · rw [hexec]
    exact .kept (refl session) (by rintro _ ⟨⟩) (by rintro _ ⟨⟩)
  · rw [hexec, hn]
    exact .left id entry hr rfl rfl rfl

theorem perform_effect (h : session.Coherent) (request : Request) (log : Log) :
    Effect session ((perform request).exec session log).1.2
      ((perform request).exec session log).1.1 := by
  cases request with
  | obtainByte name capacity =>
      simp only [perform, ← map_eq_pure_bind, exec_map, obtainByte, exec_bind, exec_get]
      exact obtain_effect h _ _
  | obtainBounded name capacity payloadSize =>
      simp only [perform, ← map_eq_pure_bind, exec_map, obtainBounded]
      exact obtain_effect h _ _
  | obtainTyped name capacity messageSize =>
      simp only [perform, ← map_eq_pure_bind, exec_map, obtainTyped]
      exact obtain_effect h _ _
  | find kind name =>
      simp only [perform, ← map_eq_pure_bind, exec_map]
      exact Effect.of_lists (find_kept name) fun topic htopic => find_lists htopic
  | resolve id =>
      simp only [perform, ← map_eq_pure_bind, exec_map]
      exact Effect.of_lists (resolve_kept id) fun handle hhandle => ⟨id, resolve_eq_ok.mp hhandle⟩
  | resolveKind kind id =>
      simp only [perform, ← map_eq_pure_bind, exec_map]
      exact Effect.of_lists (resolveKind_kept id) fun topic htopic => resolveKind_lists htopic
  | release id =>
      simp only [perform, ← map_eq_pure_bind, exec_map]
      exact release_effect h id
  | releaseNamed name =>
      rw [perform_releaseNamed]
      exact releaseNamed_effect h name
  | topics =>
      simp only [perform, ← map_eq_pure_bind, exec_map]
      refine .kept (topics_kept session log) ?_ ?_
      · intro handle hhandle
        generalize (topics.exec session log).1.1 = outcome at hhandle
        cases outcome <;> cases hhandle
      · intro id hid
        generalize (topics.exec session log).1.1 = outcome at hid
        cases outcome <;> cases hid

variable {before after : Session} {outcome : Except Failure Reply}

theorem Effect.settings_eq (h : Effect before after outcome) :
    after.registry.settings = before.registry.settings := by
  cases h with
  | kept kept _ _ => exact kept.settings_eq
  | entered _ _ _ _ _ _ _ _ _ _ _ _ settings_eq _ => exact settings_eq
  | left _ _ _ settings_eq _ => exact settings_eq

theorem Effect.coherent (h : Effect before after outcome) (hb : before.Coherent)
    (hgrown : before.bus.storages.size ≤ after.bus.storages.size) : after.Coherent := by
  cases h with
  | kept kept _ _ =>
      refine ⟨?_, ?_, ?_, ?_, ?_⟩
      all_goals simp only [kept.directory_eq, kept.settings_eq]
      · exact hb.directory
      · exact hb.names_le
      · exact hb.max_le
      · exact fun id entry hget => (hb.storage_lt id entry hget).trans_le hgrown
      · exact hb.storage_inj
  | entered kind spec ring topic makes name_eq vacant room fresh storage_eq bus_eq inserted
      settings_eq _ =>
      have hroom := room.trans_le hb.max_le
      have hfresh := hb.directory.fresh hroom fresh
      -- The new storage lies behind those of all other topics.
      have hlast : after.bus.storages.size = topic.storage + 1 := by
        rw [bus_eq, storage_eq]
        exact Array.size_push _
      refine ⟨hb.directory.insert hfresh hroom vacant rfl inserted, ?_, ?_, ?_, ?_⟩
      · rw [hfresh.size_names vacant inserted, settings_eq]
        exact room
      · rw [settings_eq]
        exact hb.max_le
      · intro id entry hget
        rcases (hfresh.get?_insert inserted).mp hget with ⟨-, rfl⟩ | hold
        · exact Nat.lt_of_succ_le (Nat.le_of_eq hlast.symm)
        · exact (hb.storage_lt id entry hold).trans_le hgrown
      · intro a b entry other ha hb' hsame
        rcases (hfresh.get?_insert inserted).mp ha with ⟨rfl, rfl⟩ | holda <;>
          rcases (hfresh.get?_insert inserted).mp hb' with ⟨rfl, rfl⟩ | holdb
        · rfl
        · have hlt := hb.storage_lt b other holdb
          have heq : topic.storage = other.topic.storage := hsame
          omega
        · have hlt := hb.storage_lt a entry holda
          have heq : entry.topic.storage = topic.storage := hsame
          omega
        · exact hb.storage_inj a b entry other holda holdb hsame
  | left id entry removed settings_eq _ _ =>
      have hsize := hb.directory.size_names_remove removed
      have hle := hb.names_le
      refine ⟨hb.directory.remove removed, ?_, ?_, ?_, ?_⟩
      · rw [settings_eq]
        omega
      · rw [settings_eq]
        exact hb.max_le
      · intro other found hget
        exact (hb.storage_lt other found (Directory.get?_remove removed hget)).trans_le hgrown
      · intro a b found other ha hb'
        exact hb.storage_inj a b found other (Directory.get?_remove removed ha)
          (Directory.get?_remove removed hb')

end Registry

end TopicBus
