import TopicBus.Proofs.Registry.Generation
import TopicBus.Proofs.Registry.Obtain

namespace TopicBus

open Op

namespace Registry

variable {session : Session} {id : TopicId} {entry : SomeTopic}

theorem contains_eq (registry : Registry) (name : String) :
    registry.contains name = registry.directory.names[name]?.isSome :=
  Std.TreeMap.contains_eq_isSome_getElem?

theorem contains_eq_false {registry : Registry} {name : String} :
    registry.contains name = false ↔ registry.directory.names[name]? = none := by
  rw [contains_eq, Option.isSome_eq_false_iff, Option.isNone_iff_eq_none]

/-- A topic went out of use: its name and its identity lead nowhere, all others lead where they did,
and the next topic that is made takes its place. -/
structure Released (before : Session) (id : TopicId) (entry : SomeTopic) (after : Session) :
    Prop where
  directory : before.registry.directory.Removed id entry after.registry.directory
  counters_eq : after.registry.counters = before.registry.counters.countReleased
  settings_eq : after.registry.settings = before.registry.settings
  bus_eq : after.bus = before.bus.retire entry.topic.storage
  size_eq : after.registry.size + 1 = before.registry.size
  contains_eq : ∀ name, after.registry.contains name =
    (decide (entry.topic.name ≠ name) && before.registry.contains name)
  find_eq : ∀ kind name log, ((find kind name).exec after log).1.1 =
    if entry.topic.name = name then .error (.refused (.notFound name))
    else ((find kind name).exec before log).1.1
  resolve_eq : ∀ other log, ((resolve other).exec after log).1.1 =
    if other = id then .error (.refused (.notFound other.text))
    else ((resolve other).exec before log).1.1
  resolveKind_eq : ∀ kind other log, ((resolveKind kind other).exec after log).1.1 =
    if other = id then .error (.refused (.notFound other.text))
    else ((resolveKind kind other).exec before log).1.1
  renewed : ∀ {events later}, Session.Run after events later →
    later.registry.directory = after.registry.directory →
    ∀ {request spec exact}, Request.Asks before.registry.settings request spec exact → spec.Valid →
    later.registry.contains spec.name = false → spec.blockSize < later.bus.memory →
    ∀ log, ∃ topic last,
      ((perform request).exec later log).1 = (.ok (.topic ⟨spec.kind, topic⟩), last) ∧
      topic.id = ⟨id.index, TopicId.nextGeneration id.generation⟩ ∧ Created later spec topic last

variable {before after : Session}

theorem find_congr {kind : Kind} {name : String}
    (h : after.registry.directory.named? name = before.registry.directory.named? name) (log : Log) :
    ((find kind name).exec after log).1.1 = ((find kind name).exec before log).1.1 := by
  rw [find_exec, find_exec, h]
  cases before.registry.directory.named? name with
  | none => rfl
  | some existing =>
      dsimp only
      cases existing.ofKind? kind <;> rfl

theorem resolve_congr
    (h : after.registry.directory.get? id = before.registry.directory.get? id) (log : Log) :
    ((resolve id).exec after log).1.1 = ((resolve id).exec before log).1.1 := by
  rw [resolve_exec, resolve_exec, h]
  cases before.registry.directory.get? id <;> rfl

theorem resolveKind_congr {kind : Kind}
    (h : after.registry.directory.get? id = before.registry.directory.get? id) (log : Log) :
    ((resolveKind kind id).exec after log).1.1 = ((resolveKind kind id).exec before log).1.1 := by
  rw [resolveKind_exec, resolveKind_exec, h]
  cases before.registry.directory.get? id with
  | none => rfl
  | some existing =>
      dsimp only
      cases existing.ofKind? kind <;> rfl

theorem removed_released (h : session.Coherent) {next : Directory}
    (hremove : session.registry.directory.remove id = some (entry, next)) :
    Released session id entry (removed session next (session.bus.retire entry.topic.storage)) := by
  have hremoved := Directory.removed_of_remove hremove
  have hsize := h.directory.size_names_remove hremove
  let after := removed session next (session.bus.retire entry.topic.storage)
  have hafter : after.Coherent := by
    have heffect : Effect session after (.ok (.released (some id))) :=
      .left id entry hremove rfl rfl rfl
    exact heffect.coherent h (Nat.le_of_eq (Bus.size_retire _ _).symm)
  have hget (other : TopicId) : after.registry.directory.get? other =
      if other = id then none else session.registry.directory.get? other := hremoved.get?_next other
  have hnamed (name : String) : after.registry.directory.named? name =
      if entry.topic.name = name then none else session.registry.directory.named? name :=
    h.directory.named?_next hremoved name
  constructor
  case directory => exact hremoved
  case counters_eq => rfl
  case settings_eq => rfl
  case bus_eq => rfl
  case size_eq => exact hsize
  case contains_eq =>
    intro name
    rw [contains_eq, contains_eq]
    show next.names[name]?.isSome = _
    rw [hremoved.getElem?_names]
    by_cases hname : entry.topic.name = name <;> simp [hname]
  case find_eq =>
    intro kind name log
    by_cases hname : entry.topic.name = name
    · rw [if_pos hname, find_exec, hnamed, if_pos hname]
    · rw [if_neg hname]
      exact find_congr ((hnamed name).trans (if_neg hname)) log
  case resolve_eq =>
    intro other log
    by_cases hother : other = id
    · rw [if_pos hother, resolve_exec, hget, if_pos hother]
    · rw [if_neg hother]
      exact resolve_congr ((hget other).trans (if_neg hother)) log
  case resolveKind_eq =>
    intro kind other log
    by_cases hother : other = id
    · rw [if_pos hother, resolveKind_exec, hget, if_pos hother]
    · rw [if_neg hother]
      exact resolveKind_congr ((hget other).trans (if_neg hother)) log
  case renewed =>
    intro events later hrun hsame request spec exact hasks hvalid hfree hmemory log
    have hlater := hrun.coherent hafter
    have hsettings : later.registry.settings = session.registry.settings := hrun.settings_eq hafter
    have hvacant := contains_eq_false.mp hfree
    have hunnamed : later.registry.directory.named? spec.name = none := by
      rw [Directory.named?, hvacant]
      rfl
    -- The run has left as many topics as the release did, so there is room for one more.
    have hroom : later.registry.size < later.registry.settings.maxTopics := by
      have hle := h.names_le
      rw [hsettings, Registry.size, hsame]
      show next.names.size < _
      omega
    obtain ⟨topic, last, hexec, hfresh, hcreated⟩ :=
      register_created hlater hvalid hvacant hroom hmemory log
    rw [hsame] at hfresh
    rw [← hsettings] at hasks
    refine ⟨topic, last, ?_, ?_, hcreated⟩
    · rw [perform_asks hasks, obtain_unnamed hvalid hunnamed]
      simp only [hexec, Except.map]
    · -- The place that the release emptied is the first to be used again.
      have hid : (Except.ok topic.id : Except Failure TopicId) = .ok _ :=
        hfresh.symm.trans hremoved.freshId_next
      exact Except.ok.inj hid

/-- Nothing tells a release by name from a release by identity, and neither does anything where there
is nothing to release. -/
structure ReleasesAlike (session : Session) : Prop where
  live : ∀ (name : String) (id : TopicId), session.registry.directory.names[name]? = some id →
    ∃ entry after, session.registry.directory.get? id = some entry ∧
      entry.topic.name = name ∧ entry.topic.id = id ∧
      (∀ log, (releaseNamed name).exec session log =
        ((.ok (), after), log.push (.topicReleased entry.kind name id))) ∧
      (∀ log, (release id).exec session log =
        ((.ok (), after), log.push (.topicReleased entry.kind name id))) ∧
      Released session id entry after
  named : ∀ (id : TopicId) (entry : SomeTopic), session.registry.directory.get? id = some entry →
    session.registry.directory.names[entry.topic.name]? = some id
  unnamed : ∀ name, session.registry.contains name = false → ∀ log,
    (releaseNamed name).exec session log =
      ((.error (.refused (.notFound name)), session), log)
  stale : ∀ id : TopicId, session.registry.directory.get? id = none → ∀ log,
    (release id).exec session log = ((.error (.refused (.notFound id.text)), session), log)
  removable : ∀ (name : String) (id : TopicId), session.registry.directory.names[name]? = some id →
    (session.registry.directory.remove id).isSome

theorem releases_alike (h : session.Coherent) : ReleasesAlike session where
  live := by
    intro name id hname
    obtain ⟨entry, hplace, rfl, rfl⟩ := (h.directory.names_iff name id).mp hname
    have hget := Directory.get?_eq_some_iff.mpr hplace
    obtain ⟨next, hremove, -⟩ := Directory.remove_eq_some hget
    refine ⟨entry, _, hget, rfl, rfl, ?_, release_exec h hremove, removed_released h hremove⟩
    intro log
    rw [releaseNamed, exec_bind, getDirectory_exec]
    simp only [hname, hremove]
    exact setRetire_exec h hremove entry.topic.id log
  named _ _ := h.directory.names_of_get?
  unnamed := by
    intro name hname log
    simp only [releaseNamed, exec_bind, getDirectory_exec, contains_eq_false.mp hname, exec_refuse]
  stale _ hget := release_stale hget
  removable := by
    intro name id hname
    obtain ⟨entry, hplace, -⟩ := (h.directory.names_iff name id).mp hname
    obtain ⟨next, hremove, -⟩ := Directory.remove_eq_some (Directory.get?_eq_some_iff.mpr hplace)
    rw [hremove]
    rfl

/-- In every session that a registry reaches, releases by name and by identity are alike. -/
theorem run_releases_alike {settings : RegistrySettings} {registry : Registry}
    (hcreate : Registry.create settings = .ok registry) {bus : Bus} {events : List Session.Event}
    (hrun : Session.Run ⟨registry, bus⟩ events session) : ReleasesAlike session :=
  releases_alike (hrun.coherent (Registry.create_coherent hcreate bus))

/-- The first of two topics is released, by name or by identity; a third one takes its place. -/
theorem run_releases_alike_reused :
    ∃ events session after,
      Session.Run ⟨{ settings := { maxTopics := 2 } }, {}⟩ events session ∧
      (∀ log, (releaseNamed "a").exec session log =
        ((.ok (), after), log.push (.topicReleased .byte "a" ⟨0, 1⟩))) ∧
      (∀ log, (release ⟨0, 1⟩).exec session log =
        ((.ok (), after), log.push (.topicReleased .byte "a" ⟨0, 1⟩))) ∧
      (releaseNamed "c").exec session #[] =
        ((.error (.refused (.notFound "c")), session), #[]) ∧
      ∃ (topic : Topic .byte) (last : Session), ((perform (.obtainByte "c" 1)).exec after #[]).1 =
        (.ok (.topic ⟨.byte, topic⟩), last) ∧ topic.id = ⟨0, 2⟩ := by
  have hcreate : Registry.create { maxTopics := 2 } = .ok { settings := { maxTopics := 2 } } := rfl
  have hfirst := (Session.Run.nil ⟨{ settings := { maxTopics := 2 } }, {}⟩).snoc
    (.registry _ #[] (.obtainByte "a" 1))
  have hsecond := hfirst.snoc (.registry _ #[] (.obtainTyped "b" 1 4))
  have halike := run_releases_alike hcreate hsecond
  obtain ⟨entry, after, hget, -, -, hnamed, hrelease, hreleased⟩ :=
    halike.live "a" ⟨0, 1⟩ (by decide +kernel)
  have hkind : entry.kind = .byte := by
    have hthere := congrArg (Option.map SomeTopic.kind) hget
    exact Option.some.inj (hthere.symm.trans (by decide +kernel))
  rw [hkind] at hnamed hrelease
  have hvalid : TopicSpec.Valid ⟨"c", .byte, 1, 244⟩ := by
    constructor <;> decide +kernel
  have hfree : after.registry.contains "c" = false :=
    (hreleased.contains_eq "c").trans (Bool.and_eq_false_iff.mpr (.inr (by decide +kernel)))
  have hmemory : TopicSpec.blockSize ⟨"c", .byte, 1, 244⟩ < after.bus.memory := by
    rw [hreleased.bus_eq]
    show _ < Limits.addressSpace
    decide
  obtain ⟨topic, last, hobtain, hid, -⟩ :=
    hreleased.renewed (.nil after) rfl (.byte "c" 1) hvalid hfree hmemory #[]
  exact ⟨_, _, after, hsecond, hnamed, hrelease, halike.unnamed "c" (by decide +kernel) #[],
    topic, last, hobtain, hid⟩

end Registry

end TopicBus
