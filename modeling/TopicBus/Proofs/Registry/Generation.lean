import TopicBus.Proofs.Session.Run

/-!
Generations of places. The generation of a place counts its releases and nothing else; it goes
through all words but zero before it comes round. Until then an identity that was released
designates nothing, whatever takes its place.
-/

namespace TopicBus

open Op

namespace TopicId

theorem toNat_ne_zero {g : UInt32} (h : g ≠ 0) : g.toNat ≠ 0 :=
  fun hzero => h (UInt32.toNat_inj.mp hzero)

theorem toNat_nextGeneration {g : UInt32} (h : g ≠ 0) :
    (nextGeneration g).toNat = g.toNat % (2 ^ 32 - 1) + 1 := by
  have hpos := toNat_ne_zero h
  have hlt := g.toNat_lt
  have hadd : (g + 1).toNat = (g.toNat + 1) % 2 ^ 32 := UInt32.toNat_add g 1
  unfold nextGeneration
  split
  · rename_i hzero
    rw [hzero] at hadd
    have hlast : g.toNat = 2 ^ 32 - 1 := by
      simp only [UInt32.toNat_zero] at hadd
      omega
    rw [hlast]
    rfl
  · rename_i hne
    have hnext := toNat_ne_zero hne
    rw [hadd]
    omega

theorem toNat_iterate_nextGeneration {g : UInt32} (h : g ≠ 0) (count : Nat) :
    (nextGeneration^[count] g).toNat = (g.toNat - 1 + count) % (2 ^ 32 - 1) + 1 := by
  induction count with
  | zero =>
      have hpos := toNat_ne_zero h
      have hlt := g.toNat_lt
      rw [Function.iterate_zero_apply]
      omega
  | succ count ih =>
      have hne : nextGeneration^[count] g ≠ 0 := by
        intro hzero
        rw [hzero] at ih
        simp only [UInt32.toNat_zero] at ih
        omega
      rw [Function.iterate_succ_apply', toNat_nextGeneration hne, ih]
      omega

/-- A generation comes back after a whole cycle and never before. -/
theorem iterate_nextGeneration_eq_iff {g : UInt32} (h : g ≠ 0) (count : Nat) :
    nextGeneration^[count] g = g ↔ 2 ^ 32 - 1 ∣ count := by
  have hpos := toNat_ne_zero h
  have hlt := g.toNat_lt
  rw [← UInt32.toNat_inj, toNat_iterate_nextGeneration h]
  omega

end TopicId

namespace Session

def Event.releases (index : UInt32) : Event → Bool
  | .registry _ (.ok (.released (some id))) => id.index == index
  | _ => false

def releases (index : UInt32) (events : List Event) : Nat :=
  events.countP (Event.releases index)

variable {before after : Session} {event : Event} {events : List Event} {index : UInt32}

theorem Event.releases_iff {request : Registry.Request} {outcome : Except Failure Registry.Reply} :
    (Event.registry request outcome).releases index = true ↔
      ∃ id : TopicId, outcome = .ok (.released (some id)) ∧ id.index = index := by
  rcases outcome with failure | handle | found | (_ | id) <;> simp [releases]

theorem Event.releases_eq_false {request : Registry.Request}
    {outcome : Except Failure Registry.Reply}
    (keeps : ∀ id, outcome ≠ .ok (.released id)) (index : UInt32) :
    (Event.registry request outcome).releases index = false := by
  rw [Bool.eq_false_iff]
  intro hreleases
  obtain ⟨id, hid, -⟩ := Event.releases_iff.mp hreleases
  exact keeps (some id) hid

theorem releases_append (index : UInt32) (events : List Event) (event : Event) :
    releases index (events ++ [event]) =
      releases index events + if event.releases index then 1 else 0 := by
  rw [releases, releases, List.countP_append, List.countP_singleton]

end Session

open Session

theorem Registry.Effect.generation_eq {before after : Session} {index : UInt32} {place : Place}
    {outcome : Except Failure Registry.Reply} (h : Registry.Effect before after outcome)
    (hb : before.Coherent) (request : Registry.Request)
    (hplace : before.registry.directory.places[index.toNat]? = some place) :
    ∃ place', after.registry.directory.places[index.toNat]? = some place' ∧
      place'.generation = if (Event.registry request outcome).releases index
        then TopicId.nextGeneration place.generation else place.generation := by
  cases h with
  | kept kept _ keeps =>
      refine ⟨place, by rw [kept.directory_eq, hplace], ?_⟩
      rw [Event.releases_eq_false keeps]
      rfl
  | entered kind spec ring topic makes name_eq vacant room fresh storage_eq bus_eq inserted
      settings_eq answer =>
      have hkeeps : (Event.registry request outcome).releases index = false := by
        apply Event.releases_eq_false
        rw [answer]
        rintro id ⟨⟩
      have hfresh := hb.directory.fresh (room.trans_le hb.max_le) fresh
      have hentered := hfresh.entered inserted
      rw [hkeeps]
      by_cases hi : index.toNat = topic.id.index.toNat
      · rw [hi, hentered.here]
        refine ⟨_, rfl, ?_⟩
        rw [hi] at hplace
        -- The place stood empty under the generation of the identity; it is not a new one.
        rcases hfresh with ⟨-, hfree⟩ | ⟨-, hsize, -⟩
        · rw [hplace] at hfree
          cases hfree
          rfl
        · rw [Array.getElem?_eq_none (by omega)] at hplace
          cases hplace
      · rw [hentered.there _ hi]
        exact ⟨place, hplace, rfl⟩
  | left id entry removed settings_eq answer =>
      have hremoved := Directory.removed_of_remove removed
      by_cases hi : index = id.index
      · subst hi
        have hreleases : (Event.registry request outcome).releases id.index = true :=
          Event.releases_iff.mpr ⟨id, answer, rfl⟩
        rw [Directory.get?_eq_some_iff.mp hremoved.get?_eq] at hplace
        cases hplace
        rw [hremoved.here, if_pos hreleases]
        exact ⟨_, rfl, rfl⟩
      · have hnot : ¬(Event.registry request outcome).releases index = true := by
          rw [answer, Event.releases_iff]
          rintro ⟨other, ⟨⟩, rfl⟩
          exact hi rfl
        rw [hremoved.there _ fun he => hi (UInt32.toNat_inj.mp he), if_neg hnot]
        exact ⟨place, hplace, rfl⟩

namespace Session

variable {before after : Session} {event : Event} {events : List Event} {index : UInt32}

/-- A release moves the generation of its place on, and nothing else moves one. -/
theorem Step.generation_eq (h : Step before event after) (hb : before.Coherent) {place : Place}
    (hplace : before.registry.directory.places[index.toNat]? = some place) :
    ∃ place', after.registry.directory.places[index.toNat]? = some place' ∧
      place'.generation = if event.releases index then TopicId.nextGeneration place.generation
        else place.generation := by
  cases h with
  | bus log request held => exact ⟨place, hplace, rfl⟩
  | registry log request =>
      exact (Registry.perform_effect hb request log).generation_eq hb request hplace

theorem Run.generation_eq (h : Run before events after) (hb : before.Coherent) {place : Place}
    (hplace : before.registry.directory.places[index.toNat]? = some place) :
    ∃ place', after.registry.directory.places[index.toNat]? = some place' ∧
      place'.generation = TopicId.nextGeneration^[releases index events] place.generation := by
  induction h with
  | nil => exact ⟨place, hplace, rfl⟩
  | @snoc middle after events event run step ih =>
      obtain ⟨place', hmiddle, hgeneration⟩ := ih
      obtain ⟨place'', hafter, hstep⟩ := step.generation_eq (run.coherent hb) hmiddle
      refine ⟨place'', hafter, ?_⟩
      rw [hstep, hgeneration, releases_append]
      by_cases hreleases : event.releases index = true
      · rw [if_pos hreleases, if_pos hreleases, Function.iterate_succ_apply']
      · rw [if_neg hreleases, if_neg hreleases, Nat.add_zero]

end Session

namespace Registry

variable {session : Session} {id : TopicId}

theorem resolve_stale (h : session.registry.directory.get? id = none) (log : Log) :
    (resolve id).exec session log = ((.error (.refused (.notFound id.text)), session), log) := by
  rw [resolve_exec, h]

theorem resolveKind_stale (kind : Kind) (h : session.registry.directory.get? id = none)
    (log : Log) : (resolveKind kind id).exec session log =
      ((.error (.refused (.notFound id.text)), session), log) := by
  rw [resolveKind_exec, h]

theorem release_stale (h : session.registry.directory.get? id = none) (log : Log) :
    (release id).exec session log = ((.error (.refused (.notFound id.text)), session), log) := by
  simp only [release, exec_bind, getDirectory_exec, Directory.remove, h, Option.map_none,
    exec_refuse]

def Request.ofSpec (spec : TopicSpec) : Request :=
  match spec.kind with
  | .byte => .obtainBounded spec.name spec.capacity spec.payloadSize
  | .typed => .obtainTyped spec.name spec.capacity spec.payloadSize

theorem perform_ofSpec {kind : Kind} {spec : TopicSpec} (h : spec.kind = kind)
    (session : Session) (log : Log) :
    (perform (.ofSpec spec)).exec session log =
      (do return Reply.topic ⟨kind, ← obtain kind spec true⟩ : Op Session Reply).exec
        session log := by
  obtain ⟨name, kind', capacity, payloadSize⟩ := spec
  obtain rfl : kind' = kind := h
  cases kind' <;> rfl

theorem obtain_vacant {kind : Kind} {spec : TopicSpec} {ring : Ring}
    (makes : spec.Makes session.bus.memory kind ring) (hb : session.Coherent)
    (vacant : session.registry.directory.names[spec.name]? = none)
    (room : session.registry.directory.names.size < session.registry.settings.maxTopics)
    (log : Log) :
    ∃ topic : Topic kind, ∃ after log', topic.name = spec.name ∧
      session.registry.directory.freshId = .ok topic.id ∧
      session.registry.directory.insert topic.id ⟨kind, topic⟩ = .ok after.registry.directory ∧
      after.bus.memory = session.bus.memory ∧
      (perform (.ofSpec spec)).exec session log = ((.ok (.topic ⟨kind, topic⟩), after), log') := by
  let counted := session.counted RegistryCounters.countLookup
  have hcounted : counted.Coherent := hb.counted
  obtain ⟨id, next, log', hid, -, hinsert, hexec⟩ := register_exec hcounted makes room log
  have hnamed : counted.registry.directory.named? spec.name = none := by
    show session.registry.directory.names[spec.name]?.bind _ = none
    rw [vacant]
    rfl
  refine ⟨⟨spec.name, id, session.bus.storages.size⟩, entered counted next ring, log', rfl, hid,
    hinsert, rfl, ?_⟩
  rw [perform_ofSpec makes.kind_eq]
  simp only [← map_eq_pure_bind, exec_map, obtain, exec_bind, exec_liftRefusal, makes.check_eq,
    Except.mapError, count_exec, getDirectory_exec]
  rw [hnamed]
  dsimp only
  rw [hexec]
  rfl

end Registry

namespace Session

variable {before after : Session} {event : Event} {events : List Event} {index : UInt32}

/-- A topic is released and one of the same name obtained: it takes the same place. -/
theorem renew {session : Session} {id : TopicId} {entry : SomeTopic} {kind : Kind}
    {spec : TopicSpec} {ring : Ring} (makes : spec.Makes session.bus.memory kind ring)
    (hb : session.Coherent) (hget : session.registry.directory.get? id = some entry)
    (hname : entry.topic.name = spec.name) :
    ∃ release obtained middle after entry', Step session release middle ∧
      Step middle obtained after ∧ release.releases id.index = true ∧
      obtained.releases id.index = false ∧ entry'.topic.name = spec.name ∧
      after.bus.memory = session.bus.memory ∧
      after.registry.directory.get? ⟨id.index, TopicId.nextGeneration id.generation⟩ =
        some entry' := by
  obtain ⟨next, hremove, hremoved⟩ := Directory.remove_eq_some hget
  have hrelease := Registry.release_exec hb hremove #[]
  have hfirst := Step.registry session #[] (.release id)
  simp only [Registry.perform, ← map_eq_pure_bind, exec_map, hrelease] at hfirst
  have hmiddle := hfirst.coherent hb
  let released := Registry.removed session next (session.bus.retire entry.topic.storage)
  have hmakes : spec.Makes released.bus.memory kind ring := makes
  have hvacant : next.names[spec.name]? = none := by
    rw [hremoved.names_eq, ← hname, Std.TreeMap.getElem?_erase_self]
  have hroom : next.names.size < session.registry.settings.maxTopics := by
    have hsize := hb.directory.size_names_remove hremove
    have hle := hb.names_le
    omega
  obtain ⟨topic, after, log', htopic, hfresh, hinsert, hmemory, hobtain⟩ :=
    Registry.obtain_vacant hmakes hmiddle hvacant hroom #[]
  have hsecond := Step.registry released #[] (.ofSpec spec)
  rw [hobtain] at hsecond
  have hid : topic.id = ⟨id.index, TopicId.nextGeneration id.generation⟩ := by
    have hsame : (Except.ok topic.id : Except Failure TopicId) = .ok _ :=
      hfresh.symm.trans hremoved.freshId_next
    exact Except.ok.inj hsame
  have hready : next.Fresh topic.id := by
    rw [hid]
    left
    rw [hremoved.free_eq]
    exact ⟨rfl, hremoved.here⟩
  refine ⟨_, _, _, after, ⟨kind, topic⟩, hfirst, hsecond, ?_, rfl, htopic, hmemory, ?_⟩
  · exact Event.releases_iff.mpr ⟨id, rfl, rfl⟩
  · rw [← hid]
    exact (hready.get?_insert hinsert).mpr (.inl ⟨rfl, rfl⟩)

theorem renew_iterate {session : Session} {id : TopicId} {entry : SomeTopic} {kind : Kind}
    {spec : TopicSpec} {ring : Ring} (makes : spec.Makes session.bus.memory kind ring)
    (hb : session.Coherent) (hget : session.registry.directory.get? id = some entry)
    (hname : entry.topic.name = spec.name) (count : Nat) :
    ∃ events after entry', Run session events after ∧ releases id.index events = count ∧
      entry'.topic.name = spec.name ∧ after.bus.memory = session.bus.memory ∧
      after.registry.directory.get?
        ⟨id.index, TopicId.nextGeneration^[count] id.generation⟩ = some entry' := by
  induction count with
  | zero => exact ⟨[], session, entry, .nil session, rfl, hname, rfl, hget⟩
  | succ count ih =>
      obtain ⟨events, after, entry', hrun, hcount, hname', hmemory, hget'⟩ := ih
      rw [← hmemory] at makes
      obtain ⟨release, obtained, middle, last, entry'', hrelease, hobtain, hone, hnone, hname'',
        hmemory', hget''⟩ := renew makes (hrun.coherent hb) hget' hname'
      refine ⟨events ++ [release] ++ [obtained], last, entry'', (hrun.snoc hrelease).snoc hobtain,
        ?_, hname'', hmemory'.trans hmemory, ?_⟩
      · rw [releases_append, releases_append, hcount, if_pos hone, if_neg (by simp [hnone])]
      · rw [Function.iterate_succ_apply']
        exact hget''

theorem Step.issued {request : Registry.Request} {handle : SomeTopic}
    (h : Step before (.registry request (.ok (.topic handle))) after) (hb : before.Coherent)
    (hnew : before.registry.directory.names[handle.topic.name]? = none) :
    after.registry.directory.get? handle.topic.id = some handle ∧
      ∃ spec ring, TopicSpec.Makes spec after.bus.memory handle.kind ring ∧
        handle.topic.name = spec.name := by
  generalize hevent : Event.registry request (.ok (.topic handle)) = event at h
  cases h with
  | bus log request held => cases hevent
  | registry log request =>
      simp only [Event.registry.injEq] at hevent
      obtain ⟨-, houtcome⟩ := hevent
      cases Registry.perform_effect hb request log with
      | kept kept lists keeps =>
          obtain ⟨id, hget⟩ := lists handle houtcome.symm
          rw [hb.directory.names_of_get? hget] at hnew
          cases hnew
      | entered kind spec ring topic makes name_eq vacant room fresh storage_eq bus_eq inserted
          settings_eq answer =>
          rw [answer] at houtcome
          cases houtcome
          have hfresh := hb.directory.fresh (room.trans_le hb.max_le) fresh
          refine ⟨(hfresh.get?_insert inserted).mpr (.inl ⟨rfl, rfl⟩), spec, ring, ?_, name_eq⟩
          rw [bus_eq]
          exact makes
      | left id entry removed settings_eq answer =>
          rw [answer] at houtcome
          cases houtcome

end Session

/-- The identity of a new topic designates nothing after `count` releases of its place, for any
number short of a whole cycle of generations; the operations that are given it change nothing. The
generation of the place is a function of that number, and after a whole cycle the identity can
designate a topic again. -/
theorem Registry.stale_until_cycle {settings : RegistrySettings} {registry : Registry}
    (hcreate : Registry.create settings = .ok registry) {bus : Bus} {earlier : List Session.Event}
    {before issued : Session} (hearlier : Session.Run ⟨registry, bus⟩ earlier before)
    {request : Registry.Request} {handle : SomeTopic}
    (hissue : Session.Step before (.registry request (.ok (.topic handle))) issued)
    (hnew : before.registry.directory.names[handle.topic.name]? = none) :
    let id := handle.topic.id
    (∀ events session, Session.Run issued events session →
      let count := Session.releases id.index events
      (∃ place, session.registry.directory.places[id.index.toNat]? = some place ∧
        place.generation.toNat = (id.generation.toNat - 1 + count) % (2 ^ 32 - 1) + 1) ∧
      (1 ≤ count → count < 2 ^ 32 - 1 → ∀ log,
        let stale : Failure := .refused (.notFound id.text)
        (Registry.resolve id).exec session log = ((.error stale, session), log) ∧
        (∀ kind, (Registry.resolveKind kind id).exec session log =
          ((.error stale, session), log)) ∧
        (Registry.release id).exec session log = ((.error stale, session), log))) ∧
    ∃ events session entry, Session.Run issued events session ∧
      Session.releases id.index events = 2 ^ 32 - 1 ∧
      ∀ log, (Registry.resolve id).exec session log = ((.ok entry, session), log) := by
  intro id
  have hbefore := hearlier.coherent (Registry.create_coherent hcreate bus)
  have hissued := hissue.coherent hbefore
  obtain ⟨hget, spec, ring, makes, hname⟩ := hissue.issued hbefore hnew
  have hplace := Directory.get?_eq_some_iff.mp hget
  have hpos : id.generation ≠ 0 := hissued.directory.generation_ne _ _ hplace
  refine ⟨?_, ?_⟩
  · intro events session hrun count
    obtain ⟨place, hafter, hgeneration⟩ := hrun.generation_eq hissued hplace
    refine ⟨⟨place, hafter, ?_⟩, ?_⟩
    · rw [hgeneration]
      exact TopicId.toNat_iterate_nextGeneration hpos count
    · intro hone hcycle log
      have hnone : session.registry.directory.get? id = none := by
        have hne : place.generation ≠ id.generation := by
          rw [hgeneration]
          intro heq
          have hdvd := (TopicId.iterate_nextGeneration_eq_iff hpos count).mp heq
          exact absurd (Nat.le_of_dvd hone hdvd) (Nat.not_le.mpr hcycle)
        rw [Directory.get?]
        simp only [id, hafter]
        exact if_neg hne
      refine ⟨Registry.resolve_stale hnone log, ?_, Registry.release_stale hnone log⟩
      exact fun kind => Registry.resolveKind_stale kind hnone log
  · -- After as many releases as the cycle is long the generation is the same again.
    obtain ⟨events, session, entry, hrun, hcount, -, -, hagain⟩ :=
      Session.renew_iterate makes hissued hget hname (2 ^ 32 - 1)
    rw [(TopicId.iterate_nextGeneration_eq_iff hpos _).mpr (Nat.dvd_refl _)] at hagain
    refine ⟨events, session, entry, hrun, hcount, ?_⟩
    intro log
    simp only [Registry.resolve, exec_bind, Registry.getDirectory_exec, id, hagain, exec_pure]

/-- The name is taken again, but the old identity does not lead to the new topic. -/
theorem Registry.stale_until_cycle_reused :
    ∃ session : Session, session.registry.directory.names["a"]? = some ⟨0, 2⟩ ∧
      (Registry.resolve ⟨0, 1⟩).exec session #[] =
        ((.error (.refused (.notFound (TopicId.text ⟨0, 1⟩))), session), #[]) ∧
      (Registry.release ⟨0, 1⟩).exec session #[] =
        ((.error (.refused (.notFound (TopicId.text ⟨0, 1⟩))), session), #[]) := by
  have hcreate : Registry.create { maxTopics := 1 } = .ok { settings := { maxTopics := 1 } } := rfl
  let start : Session := ⟨{ settings := { maxTopics := 1 } }, {}⟩
  let handle : SomeTopic := ⟨.byte, ⟨"a", ⟨0, 1⟩, 0⟩⟩
  let issued := ((Registry.perform (.obtainByte "a" 1)).exec start #[]).1.2
  have hissue : Session.Step start (.registry (.obtainByte "a" 1) (.ok (.topic handle))) issued :=
    .registry start #[] (.obtainByte "a" 1)
  have hrelease := (Session.Run.nil issued).snoc (.registry _ #[] (.release ⟨0, 1⟩))
  have hrun := hrelease.snoc (.registry _ #[] (.obtainByte "a" 1))
  obtain ⟨hstale, -⟩ := Registry.stale_until_cycle hcreate (.nil start) hissue rfl
  obtain ⟨hresolve, -, hagain⟩ := (hstale _ _ hrun).2 (by decide +kernel) (by decide +kernel) #[]
  refine ⟨_, ?_, hresolve, hagain⟩
  decide +kernel

end TopicBus
