import TopicBus.Proofs.Bus.Sound
import TopicBus.Proofs.Session.Run

namespace TopicBus

open Op

structure Session.Sound (session : Session) : Prop where
  coherent : session.Coherent
  bus : session.bus.Sound

variable {kind : Kind} {session : Session} {id : TopicId} {log : Log}

theorem Registry.create_sound {settings : RegistrySettings} {registry : Registry}
    (h : create settings = .ok registry) : Session.Sound ⟨registry, {}⟩ :=
  ⟨create_coherent h {}, Bus.sound_empty⟩

namespace Session.Sound

theorem along (h : session.Sound) {bus : Bus}
    (hgrown : session.bus.storages.size ≤ bus.storages.size) (hbus : bus.Sound) :
    Session.Sound { session with bus } := ⟨h.coherent.grown hgrown, hbus⟩

theorem effect (h : session.Sound) {after : Session} {outcome : Except Failure Registry.Reply}
    (heffect : Registry.Effect session after outcome)
    (hgrown : session.bus.storages.size ≤ after.bus.storages.size) : after.Sound := by
  refine ⟨heffect.coherent h.coherent hgrown, ?_⟩
  cases heffect with
  | kept kept _ _ =>
      rw [kept.bus_eq]
      exact h.bus
  | entered kind spec ring topic makes _ _ _ _ _ bus_eq _ _ _ =>
      rw [bus_eq]
      apply h.bus.push
      exact ⟨_, Ring.create_holds makes.ring_eq, Nat.two_pow_pos 63⟩
  | left id entry _ _ _ bus_eq =>
      rw [bus_eq]
      exact h.bus.retire _

theorem storage (h : session.Sound) {entry : SomeTopic}
    (hget : session.registry.directory.get? id = some entry) :
    ∃ (storage : Storage) (queue : Queue), session.bus.storages[entry.topic.storage]? = some storage ∧
      storage.ring.Holds queue ∧ queue.history.length < 2 ^ 63 := by
  have hstorage := Array.getElem?_eq_getElem (h.coherent.storage_lt id entry hget)
  obtain ⟨queue, hholds, hfew⟩ := h.bus _ _ hstorage
  exact ⟨_, queue, hstorage, hholds, hfew⟩

end Session.Sound

def Session.Sustains (before after : Session) : Prop := before.Sound → after.Sound

instance : IsPreorder Session Session.Sustains where
  refl _ h := h
  trans _ _ _ hab hbc h := hbc (hab h)

namespace Registry

theorem Kept.sustains {before after : Session} (h : Kept before after) : before.Sustains after := by
  intro hb
  have heffect : Effect before after (.error (.fault .stalled)) :=
    .kept h (by rintro _ ⟨⟩) (by rintro _ ⟨⟩)
  apply hb.effect heffect
  rw [h.bus_eq]

theorem onBus_sustains {α : Type} {op : Op Bus α} (hop : op.Follows Bus.Sustains) :
    (onBus op).Follows Session.Sustains :=
  fun session log h =>
    h.along (hop session.bus log).size_le ((hop session.bus log).sound h.bus)

theorem perform_sustains (request : Request) : (perform request).Follows Session.Sustains :=
  fun session log h => h.effect (perform_effect h.coherent request log)
    (perform_aside request session log).storages_le

theorem sustains_of_perform {α : Type} (request : Request) {reply : α → Reply} {op : Op Session α}
    (h : perform request = op >>= fun a => pure (reply a)) : op.Follows Session.Sustains := by
  have hsustains := perform_sustains request
  rw [h, ← map_eq_pure_bind] at hsustains
  exact hsustains.of_map

end Registry

variable {bus : Bus} {storage : Storage} {queue : Queue} (topic : Topic kind)

theorem Topic.receive_fills (hstorage : bus.storages[topic.storage]? = some storage)
    (hholds : storage.ring.Holds queue) (hfew : queue.history.length < 2 ^ 63) (buffer : Bytes)
    (log : Log) :
    queue.Fills queue.read buffer (topic.receive.exec ⟨bus, buffer⟩ log).1.1
      (topic.receive.exec ⟨bus, buffer⟩ log).1.2.buffer := by
  rw [receive, topic.accessReading_exec buffer hstorage]
  exact Storage.receive_fills hholds hfew

theorem Topic.readLatest_fills (hstorage : bus.storages[topic.storage]? = some storage)
    (hholds : storage.ring.Holds queue) (hfew : queue.history.length < 2 ^ 63) (buffer : Bytes)
    (log : Log) :
    queue.Fills (queue.history.length - 1) buffer (topic.readLatest.exec ⟨bus, buffer⟩ log).1.1
      (topic.readLatest.exec ⟨bus, buffer⟩ log).1.2.buffer := by
  rw [readLatest, topic.accessReading_exec buffer hstorage]
  exact Storage.readLatest_fills hholds hfew

end TopicBus
