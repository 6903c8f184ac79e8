import TopicBus.Proofs.Bus.Unbroken
import TopicBus.Proofs.Registry.Obtain
import TopicBus.Proofs.Session.Sound
import TopicBus.Proofs.World.Run

namespace TopicBus

open Op

variable {kind : Kind} {session : Session} {spec : TopicSpec} {exact : Bool} {bus : Bus} {log : Log}

namespace Registry

theorem Obtained.whole {result : (Except Failure Reply × Session) × Log}
    (h : Obtained session spec exact log result) (hb : session.Coherent) :
    isFault result.1.1 = false := by
  rcases h.cases hb with ⟨reason, hresult⟩ | ⟨entry, hresult, -⟩
  all_goals
    rw [hresult]
    rfl

theorem find_whole (kind : Kind) (name : String) (session : Session) (log : Log) :
    isFault ((find kind name).exec session log).1.1 = false := by
  rcases find_cases kind name session log with hexec | ⟨existing, hexec⟩ | ⟨topic, -, hexec⟩
  all_goals
    rw [hexec]
    rfl

theorem topics_whole (h : session.Coherent) (log : Log) :
    isFault (topics.exec session log).1.1 = false := by
  rw [topics_exec h]
  rfl

theorem release_whole (h : session.Coherent) (id : TopicId) (log : Log) :
    isFault ((release id).exec session log).1.1 = false := by
  rcases release_cases h id log with ⟨text, hexec⟩ | ⟨entry, next, -, hexec⟩
  all_goals
    rw [hexec]
    rfl

theorem releaseNamed_whole (h : session.Coherent) (name : String) (log : Log) :
    isFault ((releaseNamed name).exec session log).1.1 = false := by
  rcases releaseNamed_cases h name log with ⟨text, hexec⟩ | ⟨id, entry, next, -, -, hexec⟩
  all_goals
    rw [hexec]
    rfl

theorem perform_whole (h : session.Coherent) (request : Request) (log : Log) :
    isFault ((perform request).exec session log).1.1 = false := by
  cases request with
  | obtainByte name capacity =>
      exact (perform_obtained h (.byte name capacity) log).whole h
  | obtainBounded name capacity payloadSize =>
      exact (perform_obtained h (.bounded name capacity payloadSize) log).whole h
  | obtainTyped name capacity messageSize =>
      exact (perform_obtained h (.typed name capacity messageSize) log).whole h
  | find kind name =>
      simp only [perform, ← map_eq_pure_bind, exec_map, isFault_map]
      exact find_whole kind name session log
  | resolve id =>
      simp only [perform, ← map_eq_pure_bind, exec_map, isFault_map]
      rcases resolve_cases session id log with ⟨reason, hexec⟩ | ⟨entry, -, hexec⟩
      all_goals
        rw [hexec]
        rfl
  | resolveKind kind id =>
      simp only [perform, ← map_eq_pure_bind, exec_map, isFault_map]
      rcases resolveKind_cases kind session id log with ⟨reason, hexec⟩ | ⟨topic, -, hexec⟩
      all_goals
        rw [hexec]
        rfl
  | release id =>
      simp only [perform, ← map_eq_pure_bind, exec_map, isFault_map]
      exact release_whole h id log
  | releaseNamed name =>
      simp only [perform_releaseNamed, isFault_map]
      exact releaseNamed_whole h name log
  | topics =>
      simp only [perform, ← map_eq_pure_bind, exec_map, isFault_map]
      exact topics_whole h log

theorem releaseAll_whole (h : session.Coherent) (log : Log) :
    isFault (releaseAll.exec session log).1.1 = false := by
  obtain ⟨counters, log', hexec⟩ := releaseAll_exec h log
  rw [hexec]
  rfl

end Registry

theorem Topic.inspect_whole {topic : Topic kind} (held : topic.Held bus) (log : Log) :
    isFault (topic.inspect.exec bus log).1.1 = false := by
  obtain ⟨storage, hstorage⟩ := held.exists_storage
  simp only [inspect, exec_bind, topic.state_exec hstorage]
  rfl

theorem Publisher.inspect_whole {publisher : Publisher kind} (held : publisher.topic.Held bus)
    (log : Log) : isFault (publisher.inspect.exec bus log).1.1 = false := by
  simp only [inspect, ← map_eq_pure_bind, exec_map, isFault_map]
  exact Topic.inspect_whole held log

theorem Subscriber.inspect_whole {subscriber : Subscriber kind} (held : subscriber.Held bus)
    (log : Log) : isFault (subscriber.inspect.exec bus log).1.1 = false := by
  obtain ⟨storage, hstorage⟩ := held.1.exists_storage
  obtain ⟨seen, hmark⟩ := held.exists_seen
  simp only [inspect, Topic.inspect, exec_bind, subscriber.topic.state_exec hstorage, exec_pure,
    subscriber.latestSeen_exec hmark]
  rfl

theorem Bus.Request.perform_whole (request : Bus.Request) (hbus : bus.Sound)
    (held : request.Held bus) (hroom : ¬request.Exhausts bus) (log : Log) :
    isFault (request.perform.exec bus log).1.1 = false := by
  rw [← request.report_toReceipt, exec_map, isFault_map]
  exact (request.report_withstands hbus held log).whole hroom

theorem Bus.Request.perform_sound (request : Bus.Request) (hbus : bus.Sound)
    (held : request.Held bus) (log : Log) : (request.perform.exec bus log).1.2.Sound := by
  rw [← request.report_bus]
  exact (request.report_withstands hbus held log).sound

theorem Bus.Sound.retireAll (h : bus.Sound) (entries : List SomeTopic) :
    (bus.retireAll entries).Sound := by
  unfold Bus.retireAll
  induction entries generalizing bus with
  | nil => exact h
  | cons entry entries ih => exact ih (h.retire entry.topic.storage)

namespace World

variable {before after world : World}

theorem Step.sound_bus (h : Step before after) (hb : before.Sound) (hbus : before.bus.Sound) :
    after.bus.Sound := by
  cases h with
  | make vacant made => exact hbus
  | @ask index registry there request log =>
      have hsession : Session.Sound ⟨registry, before.bus⟩ :=
        ⟨hb.coherent index registry there, hbus⟩
      exact (Registry.perform_sustains request ⟨registry, before.bus⟩ log hsession).bus
  | @drop index registry there log =>
      obtain ⟨counters, log', hexec⟩ :=
        Registry.releaseAll_exec (hb.coherent index registry there) log
      unfold World.drop
      rw [hexec]
      exact hbus.retireAll _
  | use request held log => exact request.perform_sound hbus held log

theorem Run.sound_bus (h : Run {} world) : world.bus.Sound := by
  induction h with
  | refl => exact Bus.sound_empty
  | tail run step ih => exact step.sound_bus (Run.sound run sound_empty) ih

/-- No call in the world breaks off, but for want of an epoch. -/
structure Unbroken (world : World) : Prop where
  ask : ∀ index registry, world.registries index = some registry → ∀ request log,
    isFault ((Registry.perform request).exec ⟨registry, world.bus⟩ log).1.1 = false
  drop : ∀ index registry, world.registries index = some registry → ∀ log,
    isFault (Registry.releaseAll.exec ⟨registry, world.bus⟩ log).1.1 = false
  use : ∀ request : Bus.Request, request.Held world.bus → ¬request.Exhausts world.bus → ∀ log,
    isFault (request.perform.exec world.bus log).1.1 = false
  inspect : ∀ {kind : Kind} (topic : Topic kind), topic.Held world.bus → ∀ log,
    isFault (topic.inspect.exec world.bus log).1.1 = false ∧
      isFault ((Publisher.mk topic).inspect.exec world.bus log).1.1 = false
  inspectSubscriber : ∀ {kind : Kind} (subscriber : Subscriber kind),
    subscriber.Held world.bus → ∀ log,
    isFault (subscriber.inspect.exec world.bus log).1.1 = false

theorem Run.unbroken (h : Run {} world) : world.Unbroken where
  ask index registry there request log :=
    Registry.perform_whole ((Run.sound h sound_empty).coherent index registry there) request log
  drop index registry there log :=
    Registry.releaseAll_whole ((Run.sound h sound_empty).coherent index registry there) log
  use request held hroom log := request.perform_whole (Run.sound_bus h) held hroom log
  inspect _ held log := ⟨Topic.inspect_whole held log, Publisher.inspect_whole held log⟩
  inspectSubscriber _ held log := Subscriber.inspect_whole held log

end World

end TopicBus
