import TopicBus.Proofs.World.Run

namespace TopicBus

open Op

namespace World

variable {world later : World} {index : Nat} {handle : SomeTopic}

/-- What users of a topic find out about its release, whenever they look. -/
structure Tracked (world : World) (index : Nat) (handle : SomeTopic) (released : Bool) : Prop where
  flag : ∀ log, handle.topic.isReleased.exec world.bus log = ((.ok released, world.bus), log)
  lists_iff : released = false ↔ world.Lists index handle
  resolves_iff : released = false ↔ ∃ registry other, world.registries index = some registry ∧
    (∀ log, (Registry.resolve handle.topic.id).exec ⟨registry, world.bus⟩ log =
      ((.ok other, ⟨registry, world.bus⟩), log)) ∧
    other.topic.storage = handle.topic.storage
  withdrawn : released = true → handle.topic.Withdrawn world.bus
  final : released = true → ∀ later, Run world later → ∀ log,
    handle.topic.isReleased.exec later.bus log = ((.ok true, later.bus), log) ∧
    (handle.topic.length.exec later.bus log).1.1 = (handle.topic.length.exec world.bus log).1.1 ∧
    (handle.topic.lastEpoch.exec later.bus log).1.1 =
      (handle.topic.lastEpoch.exec world.bus log).1.1

theorem ask_lists (hb : world.Sound) {registry : Registry}
    (there : world.registries index = some registry) {request : Registry.Request} {log : Log}
    (hanswer : ((Registry.perform request).exec ⟨registry, world.bus⟩ log).1.1 =
      .ok (.topic handle)) : (world.ask index registry request log).Lists index handle := by
  have hcoherent := hb.coherent index registry there
  have heffect := Registry.perform_effect hcoherent request log
  unfold ask
  rw [lists_put, if_pos rfl]
  generalize ((Registry.perform request).exec ⟨registry, world.bus⟩ log).1 = result
    at heffect hanswer ⊢
  obtain ⟨outcome, after⟩ := result
  refine ⟨after.registry, rfl, ?_⟩
  cases heffect with
  | kept kept lists keeps =>
      rw [kept.directory_eq]
      exact lists handle hanswer
  | entered kind spec ring topic makes name_eq vacant room fresh storage_eq bus_eq inserted
      settings_eq answer =>
      have hfresh := hcoherent.directory.fresh (room.trans_le hcoherent.max_le) fresh
      rw [hfresh.lists_insert inserted]
      cases hanswer.symm.trans answer
      exact .inr rfl
  | left id entry removed settings_eq answer => cases hanswer.symm.trans answer

theorem Onward.released_iff (h : Onward world later) (hb : world.Sound)
    (hlists : world.Lists index handle) : ∃ storage,
      later.bus.storages[handle.topic.storage]? = some storage ∧
      (storage.released = false ↔ later.Lists index handle) := by
  obtain ⟨old, hold, hlive⟩ := hb.live index handle hlists
  obtain ⟨new, hnew, hflag, -⟩ := h.storage _ old hold
  refine ⟨new, hnew, ?_⟩
  rw [← Bool.not_eq_true, hflag, hlive]
  constructor
  · intro hnone
    by_contra hgone
    exact hnone (.inr ⟨index, handle, hlists, hgone, rfl⟩)
  · rintro hstays (hfalse | ⟨other, entry, hentry, hgone, hsame⟩)
    · cases hfalse
    · obtain ⟨rfl, rfl⟩ := hb.apart other index entry handle hentry hlists hsame
      exact hgone hstays

/-- A topic with the storage of a listed one is that topic, however long the name or the place of
it has been in other hands. -/
theorem Onward.lists_of_storage (h : Onward world later) (hb : world.Sound)
    (hlists : world.Lists index handle) {owner : Nat} {other : SomeTopic}
    (hother : later.Lists owner other) (hsame : other.topic.storage = handle.topic.storage) :
    later.Lists index handle := by
  have hlt := hb.storage_lt hlists
  have hold : world.Lists owner other := by
    by_contra hnew
    have hfresh := h.fresh owner other hother hnew
    omega
  obtain ⟨rfl, rfl⟩ := hb.apart owner index other handle hold hlists hsame
  exact hother

theorem Sound.resolves_iff (h : world.Sound) :
    world.Lists index handle ↔ ∃ registry, world.registries index = some registry ∧
      ∀ log, (Registry.resolve handle.topic.id).exec ⟨registry, world.bus⟩ log =
        ((.ok handle, ⟨registry, world.bus⟩), log) := by
  constructor
  · rintro ⟨registry, there, id, hget⟩
    refine ⟨registry, there, fun log => ?_⟩
    have hid := (h.coherent index registry there).directory.id_of_get? hget
    simp only [Registry.resolve, exec_bind, Registry.getDirectory_exec, hid, hget, exec_pure]
  · rintro ⟨registry, there, hresolve⟩
    have hok := congrArg (·.1.1) (hresolve #[])
    exact ⟨registry, there, _, Registry.resolve_eq_ok.mp hok⟩

theorem Sound.tracked (hb : world.Sound) (hlists : world.Lists index handle)
    (hrun : Run world later) : ∃ released, Tracked later index handle released := by
  have honward := Run.onward hrun hb
  have hlater := Run.sound hrun hb
  obtain ⟨storage, hstorage, hflag⟩ := honward.released_iff hb hlists
  refine ⟨storage.released, ?_⟩
  constructor
  case flag => exact handle.topic.isReleased_exec hstorage
  case lists_iff => exact hflag
  case resolves_iff =>
    rw [hflag]
    constructor
    · intro hstays
      obtain ⟨registry, there, hresolve⟩ := hlater.resolves_iff.mp hstays
      exact ⟨registry, handle, there, hresolve, rfl⟩
    · rintro ⟨registry, other, there, hresolve, hsame⟩
      have hok := congrArg (·.1.1) (hresolve #[])
      have hother : later.Lists index other := ⟨registry, there, _, Registry.resolve_eq_ok.mp hok⟩
      exact honward.lists_of_storage hb hlists hother hsame
  case withdrawn => exact handle.topic.withdrawn hstorage
  case final =>
    intro hreleased last hlast log
    obtain ⟨new, hnew, hstill, hring⟩ := (Run.onward hlast hlater).storage _ storage hstorage
    rw [handle.topic.isReleased_exec hnew, handle.topic.length_exec hnew,
      handle.topic.length_exec hstorage, handle.topic.lastEpoch_exec hnew,
      handle.topic.lastEpoch_exec hstorage, hring hreleased, hstill.mpr (.inl hreleased)]
    exact ⟨rfl, rfl, rfl⟩

theorem Sound.drop_released (hb : world.Sound) {registry : Registry}
    (there : world.registries index = some registry) (log : Log) {place : Nat} {storage : Storage}
    (hstorage : world.bus.storages[place]? = some storage) :
    ∃ storage', (world.drop index registry log).bus.storages[place]? = some storage' ∧
      (storage'.released = true ↔ storage.released = true ∨
        ∃ handle, world.Lists index handle ∧ handle.topic.storage = place) := by
  have hdrop := Step.drop world there log
  obtain ⟨new, hnew, hflag, -⟩ := (hdrop.change hb).onward.storage place storage hstorage
  refine ⟨new, hnew, hflag.trans (or_congr_right ?_)⟩
  have hlists (other : Nat) (handle : SomeTopic) :
      (world.drop index registry log).Lists other handle ↔
        if other = index then False else world.Lists other handle := by
    rw [drop, lists_put]
    simp only [reduceCtorEq, false_and, exists_false]
  constructor
  · rintro ⟨other, handle, hlisted, hgone, hplace⟩
    by_cases hi : other = index
    · subst hi
      exact ⟨handle, hlisted, hplace⟩
    · rw [hlists, if_neg hi] at hgone
      exact absurd hlisted hgone
  · rintro ⟨handle, hlisted, hplace⟩
    refine ⟨index, handle, hlisted, ?_, hplace⟩
    rw [hlists, if_pos rfl]
    exact id

theorem Onward.unlisted (h : Onward world later) {place : Nat} {storage : Storage}
    (hstorage : world.bus.storages[place]? = some storage)
    (hunlisted : ∀ index handle, world.Lists index handle → handle.topic.storage ≠ place) :
    ∃ storage', later.bus.storages[place]? = some storage' ∧
      storage'.released = storage.released := by
  obtain ⟨new, hnew, hflag, -⟩ := h.storage place storage hstorage
  refine ⟨new, hnew, ?_⟩
  rw [Bool.eq_iff_iff, hflag]
  constructor
  · rintro (hold | ⟨index, handle, hlisted, -, hplace⟩)
    · exact hold
    · exact absurd hplace (hunlisted index handle hlisted)
  · exact .inl

theorem Sound.detached_live (hb : world.Sound) {kind : Kind} {spec : TopicSpec}
    {topic : Topic kind} {bus : Bus} {log log' : Log}
    (hmade : (Topic.detached kind spec).exec world.bus log = ((.ok topic, bus), log'))
    (hrun : Run { world with bus } later) (log'' : Log) :
    topic.isReleased.exec later.bus log'' = ((.ok false, later.bus), log'') := by
  have huse := Step.use world (.create kind spec) trivial log
  have hafter : world.use (.create kind spec) log = { world with bus } := by
    simp only [use, Bus.Request.perform, exec_bind, hmade, exec_pure]
  rw [hafter] at huse
  rcases Topic.ofSpec_cases kind spec world.bus with ⟨ring, hmakes⟩ | ⟨failure, hfails⟩
  · rw [Topic.detached, Topic.ofSpec_exec hmakes] at hmade
    simp only [Prod.mk.injEq, Except.ok.injEq] at hmade
    obtain ⟨⟨rfl, rfl⟩, -⟩ := hmade
    have hunlisted : ∀ index handle, World.Lists { world with
        bus := { world.bus with storages := world.bus.storages.push { ring } } } index handle →
        handle.topic.storage ≠ world.bus.storages.size := by
      intro index handle hlists
      have hold : world.Lists index handle := hlists
      exact Nat.ne_of_lt (hb.storage_lt hold)
    obtain ⟨storage, hstorage, hlive⟩ :=
      (Run.onward hrun (huse.sound hb)).unlisted Array.getElem?_push_size hunlisted
    rw [Topic.isReleased_exec _ hstorage, hlive]
  · rw [Topic.detached, hfails] at hmade
    cases hmade

end World

/-- In every world: a topic that a registry once answered with is released if and only if that
registry does not list it, and stays so; a registry that is dropped releases what it lists and
nothing else; a topic that belongs to no registry is never released. -/
theorem World.released_iff_unlisted {world : World} (hrun : World.Run {} world) :
    (∀ index registry, world.registries index = some registry → ∀ request log handle,
      ((Registry.perform request).exec ⟨registry, world.bus⟩ log).1.1 = .ok (.topic handle) →
      ∀ later, World.Run (world.ask index registry request log) later →
        ∃ released, World.Tracked later index handle released) ∧
    (∀ index registry, world.registries index = some registry → ∀ log place storage,
      world.bus.storages[place]? = some storage →
      ∃ storage', (world.drop index registry log).bus.storages[place]? = some storage' ∧
        (storage'.released = true ↔ storage.released = true ∨
          ∃ handle, world.Lists index handle ∧ handle.topic.storage = place)) ∧
    ∀ kind spec log topic bus log',
      (Topic.detached kind spec).exec world.bus log = ((.ok topic, bus), log') →
      ∀ later, World.Run { world with bus } later → ∀ log,
        topic.isReleased.exec later.bus log = ((.ok false, later.bus), log) := by
  have hsound := World.Run.sound hrun World.sound_empty
  refine ⟨?_, ?_, ?_⟩
  · intro index registry there request log handle hanswer later hlater
    have hask := (World.Step.ask world there request log).sound hsound
    exact hask.tracked (World.ask_lists hsound there hanswer) hlater
  · intro index registry there log place storage hstorage
    exact hsound.drop_released there log hstorage
  · intro kind spec log topic bus log' hmade later hlater log''
    exact hsound.detached_live hmade hlater log''

/-- A topic is released and another takes its name and its place: the old handle stays out of use. -/
theorem World.released_iff_unlisted_reused :
    ∃ later : World, World.Run {} later ∧
      (later.registries 0).map (·.directory.names["a"]?) = some (some ⟨0, 2⟩) ∧
      World.Tracked later 0 ⟨.byte, ⟨"a", ⟨0, 1⟩, 0⟩⟩ true := by
  let registry : Registry := { settings := { payloadBound := 4, maxTopics := 1 } }
  let world : World := World.put {} 0 (some registry) {}
  have hmake : World.Run {} world :=
    .single (.make {} rfl (rfl : Registry.create registry.settings = .ok registry))
  let obtained := world.ask 0 registry (.obtainByte "a" 1) #[]
  let second := ((Registry.perform (.obtainByte "a" 1)).exec ⟨registry, world.bus⟩ #[]).1.2
  let released := obtained.ask 0 second.registry (.release ⟨0, 1⟩) #[]
  let third := ((Registry.perform (.release ⟨0, 1⟩)).exec second #[]).1.2
  let later := released.ask 0 third.registry (.obtainByte "a" 1) #[]
  have hlater : World.Run obtained later :=
    .tail (.tail .refl (.ask obtained rfl (.release ⟨0, 1⟩) #[]))
      (.ask released rfl (.obtainByte "a" 1) #[])
  let handle : SomeTopic := ⟨.byte, ⟨"a", ⟨0, 1⟩, 0⟩⟩
  obtain ⟨flag, htracked⟩ := (World.released_iff_unlisted hmake).1 0 registry rfl
    (.obtainByte "a" 1) #[] handle rfl later hlater
  have hflag : (handle.topic.isReleased.exec later.bus #[]).1.1.toOption = some true := by
    decide +kernel
  rw [htracked.flag #[]] at hflag
  cases hflag
  refine ⟨later, hmake.trans (.head (.ask world rfl (.obtainByte "a" 1) #[]) hlater), ?_, htracked⟩
  decide +kernel

/-- A subscriber of a topic that its registry released learns of it by any call but two: a poll with
nothing new to find says so, and a message of another size than the topic carries is refused for
that. -/
theorem Subscriber.orphaned_of_unlisted {world : World} (hrun : World.Run {} world) {index : Nat}
    {registry : Registry} (there : world.registries index = some registry)
    {request : Registry.Request} {log : Log} {kind : Kind} {subscriber : Subscriber kind}
    (hanswer : ((Registry.perform request).exec ⟨registry, world.bus⟩ log).1.1 =
      .ok (.topic ⟨kind, subscriber.topic⟩))
    {later : World} (hlater : World.Run (world.ask index registry request log) later)
    (hgone : ¬later.Lists index ⟨kind, subscriber.topic⟩) {seen : Nat}
    (hmark : later.bus.seen[subscriber.mark]? = some seen) :
    ∃ storage, later.bus.storages[subscriber.topic.storage]? = some storage ∧
      subscriber.Orphaned later.bus storage seen := by
  have hsound := World.Run.sound hrun World.sound_empty
  have hask := (World.Step.ask world there request log).sound hsound
  have hlists := World.ask_lists hsound there hanswer
  obtain ⟨storage, hstorage, hflag⟩ := (World.Run.onward hlater hask).released_iff hask hlists
  refine ⟨storage, hstorage, subscriber.orphaned hstorage ?_ hmark⟩
  rw [← hflag, Bool.not_eq_false] at hgone
  exact hgone

/-- Of a topic that was released with an entry unread, polling is refused. -/
theorem Subscriber.orphaned_of_unlisted_unread :
    ∃ (later : World) (subscriber : Subscriber .byte), World.Run {} later ∧
      later.bus.seen[subscriber.mark]? = some 0 ∧
      subscriber.topic.RefusesReading later.bus subscriber.poll := by
  let registry : Registry := { settings := { payloadBound := 4, maxTopics := 1 } }
  let world : World := World.put {} 0 (some registry) {}
  have hmake : World.Run {} world :=
    .single (.make {} rfl (rfl : Registry.create registry.settings = .ok registry))
  let topic : Topic .byte := ⟨"a", ⟨0, 1⟩, 0⟩
  let obtained := world.ask 0 registry (.obtainByte "a" 1) #[]
  let second := ((Registry.perform (.obtainByte "a" 1)).exec ⟨registry, world.bus⟩ #[]).1.2
  let subscribed := obtained.use (.subscribe topic) #[]
  let published := subscribed.use (.topic topic (.publish [7])) #[]
  let later := published.ask 0 second.registry (.release ⟨0, 1⟩) #[]
  have hpublished : World.Run obtained published :=
    .tail (.tail .refl (.use obtained (.subscribe topic) (by decide +kernel) #[]))
      (.use subscribed (.topic topic (.publish [7])) (by decide +kernel) #[])
  have hthere : published.registries 0 = some second.registry := rfl
  have hlater : World.Run obtained later :=
    hpublished.tail (.ask published hthere (.release ⟨0, 1⟩) #[])
  have hrun : World.Run {} later := hmake.trans (.head (.ask world rfl _ #[]) hlater)
  have hgone : ¬later.Lists 0 ⟨.byte, topic⟩ := by
    intro hlists
    obtain ⟨storage, hstorage, hlive⟩ := (World.Run.sound hrun World.sound_empty).live 0 _ hlists
    have hreleased : (later.bus.storages[topic.storage]?).map (·.released) = some true := by
      decide +kernel
    rw [hstorage, Option.map_some, hlive] at hreleased
    cases hreleased
  let subscriber : Subscriber .byte := ⟨topic, 0⟩
  have hanswer : ((Registry.perform (.obtainByte "a" 1)).exec ⟨registry, world.bus⟩ #[]).1.1 =
      .ok (.topic ⟨.byte, subscriber.topic⟩) := rfl
  have hmark : later.bus.seen[subscriber.mark]? = some 0 := by decide +kernel
  obtain ⟨storage, hstorage, horphaned⟩ :=
    Subscriber.orphaned_of_unlisted hmake rfl hanswer hlater hgone hmark
  have hnew : (later.bus.storages[topic.storage]?).map (·.ring.lastEpoch) = some 1 := by
    decide +kernel
  rw [hstorage, Option.map_some, Option.some.injEq] at hnew
  refine ⟨later, subscriber, hrun, hmark, horphaned.poll_behind ?_⟩
  rw [hnew]
  exact Nat.one_pos

/-- Of a topic that was released with nothing new to find, polling finds nothing. -/
theorem Subscriber.poll_idle_after_release :
    ∃ (later : World) (subscriber : Subscriber .byte), World.Run {} later ∧
      (subscriber.topic.isReleased.exec later.bus #[]).1.1.toOption = some true ∧
      (subscriber.poll.exec ⟨later.bus, [0]⟩ #[]).1.1.toOption = some none := by
  let registry : Registry := { settings := { payloadBound := 4, maxTopics := 1 } }
  let world : World := World.put {} 0 (some registry) {}
  have hmake : World.Run {} world :=
    .single (.make {} rfl (rfl : Registry.create registry.settings = .ok registry))
  let topic : Topic .byte := ⟨"a", ⟨0, 1⟩, 0⟩
  let obtained := world.ask 0 registry (.obtainByte "a" 1) #[]
  let second := ((Registry.perform (.obtainByte "a" 1)).exec ⟨registry, world.bus⟩ #[]).1.2
  have hobtained : World.Run {} obtained := hmake.tail (.ask world rfl _ #[])
  let subscribed := obtained.use (.subscribe topic) #[]
  have hsubscribed : World.Run {} subscribed :=
    hobtained.tail (.use obtained (.subscribe topic) (by decide +kernel) #[])
  have hthere : subscribed.registries 0 = some second.registry := rfl
  let later := subscribed.ask 0 second.registry (.release ⟨0, 1⟩) #[]
  refine ⟨later, ⟨topic, 0⟩, hsubscribed.tail (.ask subscribed hthere _ #[]), ?_, ?_⟩
  all_goals decide +kernel

end TopicBus
