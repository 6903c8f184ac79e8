import TopicBus.Proofs.Bus.Service
import TopicBus.Proofs.Registry.Effect

namespace TopicBus

open Op

namespace Session

inductive Event
  | registry (request : Registry.Request) (outcome : Except Failure Registry.Reply)
  | bus (request : Bus.Request) (outcome : Except Failure Receipt)

/-- One request is served; what the log holds by then is no matter. -/
inductive Step : Session → Event → Session → Prop
  | registry (session : Session) (log : Log) (request : Registry.Request) :
      Step session (.registry request ((Registry.perform request).exec session log).1.1)
        ((Registry.perform request).exec session log).1.2
  | bus (session : Session) (log : Log) (request : Bus.Request) (held : request.Held session.bus) :
      Step session (.bus request (request.perform.exec session.bus log).1.1)
        { session with bus := (request.perform.exec session.bus log).1.2 }

inductive Run : Session → List Event → Session → Prop
  | nil (session : Session) : Run session [] session
  | snoc {before middle after : Session} {events : List Event} {event : Event}
      (run : Run before events middle) (step : Step middle event after) :
      Run before (events ++ [event]) after

variable {before after : Session} {event : Event} {events : List Event}

theorem Step.coherent (h : Step before event after) (hb : before.Coherent) : after.Coherent := by
  cases h with
  | registry log request =>
      have hgrown := (Registry.perform_aside request before log).storages_le
      exact (Registry.perform_effect hb request log).coherent hb hgrown
  | bus log request held =>
      have hgrown := (request.perform_apart before.bus log).storages_le
      refine ⟨hb.directory, hb.names_le, hb.max_le, ?_, hb.storage_inj⟩
      exact fun id entry hget => (hb.storage_lt id entry hget).trans_le hgrown

theorem Run.coherent (h : Run before events after) (hb : before.Coherent) : after.Coherent := by
  induction h with
  | nil => exact hb
  | snoc _ step ih => exact step.coherent ih

theorem Step.settings_eq (h : Step before event after) (hb : before.Coherent) :
    after.registry.settings = before.registry.settings := by
  cases h with
  | bus log request held => rfl
  | registry log request => exact (Registry.perform_effect hb request log).settings_eq

theorem Run.settings_eq (h : Run before events after) (hb : before.Coherent) :
    after.registry.settings = before.registry.settings := by
  induction h with
  | nil => rfl
  | snoc run step ih => exact (step.settings_eq (run.coherent hb)).trans ih

end Session

/-- Names, places and free places of a registry agree with each other and with its settings. -/
structure Registry.Consistent (registry : Registry) : Prop where
  names_iff : ∀ (name : String) (id : TopicId), registry.directory.names[name]? = some id ↔
    ∃ entry : SomeTopic,
      registry.directory.places[id.index.toNat]? = some ⟨id.generation, some entry⟩ ∧
      entry.topic.name = name ∧ entry.topic.id = id
  free_nodup : (registry.directory.free.map UInt32.toNat).Nodup
  mem_free_iff : ∀ index : Nat, index ∈ registry.directory.free.map UInt32.toNat ↔
    ∃ generation, registry.directory.places[index]? = some ⟨generation, none⟩
  size_eq : registry.directory.places.size =
    registry.directory.names.size + registry.directory.free.length
  generation_range : ∀ place ∈ registry.directory.places,
    1 ≤ place.generation.toNat ∧ place.generation.toNat ≤ 2 ^ 32 - 1
  size_le : registry.directory.names.size ≤ registry.settings.maxTopics
  named?_isSome : ∀ name, name ∈ registry.directory.names →
    (registry.directory.named? name).isSome
  apart : ∀ (a b : Nat) (g g' : UInt32) (entry other : SomeTopic),
    registry.directory.places[a]? = some ⟨g, some entry⟩ →
    registry.directory.places[b]? = some ⟨g', some other⟩ → a ≠ b →
    entry.topic.name ≠ other.topic.name ∧ entry.topic.id ≠ other.topic.id ∧
      entry.topic.storage ≠ other.topic.storage

namespace Directory.Coherent

variable {directory : Directory}

theorem mem_free_toNat_iff (h : directory.Coherent) (index : Nat) :
    index ∈ directory.free.map UInt32.toNat ↔
      ∃ generation, directory.places[index]? = some ⟨generation, none⟩ := by
  rw [List.mem_map]
  constructor
  · rintro ⟨word, hmem, rfl⟩
    exact (h.mem_free_iff word).mp hmem
  · rintro ⟨generation, hplace⟩
    obtain ⟨hlt, -⟩ := Array.getElem?_eq_some_iff.mp hplace
    have hword : (UInt32.ofNat index).toNat = index := by
      apply UInt32.toNat_ofNat_of_lt'
      exact (hlt.trans_le h.size_le).trans (by decide)
    refine ⟨UInt32.ofNat index, ?_, hword⟩
    rw [h.mem_free_iff, hword]
    exact ⟨generation, hplace⟩

theorem generation_range (h : directory.Coherent) {place : Place}
    (hplace : place ∈ directory.places) :
    1 ≤ place.generation.toNat ∧ place.generation.toNat ≤ 2 ^ 32 - 1 := by
  obtain ⟨index, hindex⟩ := Array.mem_iff_getElem?.mp hplace
  have hlt := place.generation.toNat_lt
  refine ⟨?_, by omega⟩
  rw [Nat.one_le_iff_ne_zero]
  intro hzero
  exact h.generation_ne index place hindex (UInt32.toNat_inj.mp hzero)

theorem named?_isSome (h : directory.Coherent) {name : String} (hname : name ∈ directory.names) :
    (directory.named? name).isSome := by
  rw [Std.TreeMap.mem_iff_isSome_getElem?, Option.isSome_iff_exists] at hname
  obtain ⟨id, hid⟩ := hname
  obtain ⟨entry, hplace, -⟩ := (h.names_iff name id).mp hid
  rw [named?, hid, Option.bind_some, get?_eq_some_iff.mpr hplace]
  rfl

theorem get?_own_id (h : directory.Coherent) {index : Nat} {generation : UInt32}
    {entry : SomeTopic} (hplace : directory.places[index]? = some ⟨generation, some entry⟩) :
    directory.get? entry.topic.id = some entry := by
  obtain ⟨hindex, hgeneration⟩ := h.own_id index generation entry hplace
  rw [get?_eq_some_iff, hindex, hgeneration]
  exact hplace

theorem name_ne (h : directory.Coherent) {a b : TopicId} {entry other : SomeTopic}
    (ha : directory.get? a = some entry) (hb : directory.get? b = some other) (hne : a ≠ b) :
    entry.topic.name ≠ other.topic.name := by
  intro hname
  have hnamea := h.names_of_get? ha
  rw [hname, h.names_of_get? hb] at hnamea
  exact hne (Option.some.inj hnamea).symm

end Directory.Coherent

theorem Session.Coherent.consistent {session : Session} (h : session.Coherent) :
    session.registry.Consistent where
  names_iff := h.directory.names_iff
  free_nodup := h.directory.free_nodup.map fun _ _ => UInt32.toNat_inj.mp
  mem_free_iff := h.directory.mem_free_toNat_iff
  size_eq := h.directory.size_eq
  generation_range := fun _ hplace => h.directory.generation_range hplace
  size_le := h.names_le
  named?_isSome := fun _ hname => h.directory.named?_isSome hname
  apart := by
    intro a b g g' entry other ha hb hne
    have hgeta := h.directory.get?_own_id ha
    have hgetb := h.directory.get?_own_id hb
    have hid : entry.topic.id ≠ other.topic.id := by
      intro heq
      rw [← (h.directory.own_id a g entry ha).1, ← (h.directory.own_id b g' other hb).1, heq] at hne
      exact hne rfl
    refine ⟨h.directory.name_ne hgeta hgetb hid, hid, ?_⟩
    intro hstorage
    exact hid (h.storage_inj _ _ entry other hgeta hgetb hstorage)

/-- Whatever is asked, in whatever order and with whatever identities, the tables of a registry
stay consistent, and its settings are those it was made with. -/
theorem Registry.run_consistent {settings : RegistrySettings} {registry : Registry}
    (hcreate : Registry.create settings = .ok registry) {bus : Bus} {events : List Session.Event}
    {session : Session} (hrun : Session.Run ⟨registry, bus⟩ events session) :
    session.registry.settings = settings ∧ session.registry.Consistent := by
  have hstart := Registry.create_coherent hcreate bus
  refine ⟨?_, (hrun.coherent hstart).consistent⟩
  obtain ⟨-, rfl⟩ := Registry.create_eq_ok hcreate
  exact hrun.settings_eq hstart

theorem Registry.run_consistent_reused :
    ∃ events session,
      Registry.create { maxTopics := 2 } = .ok { settings := { maxTopics := 2 } } ∧
      Session.Run ⟨{ settings := { maxTopics := 2 } }, {}⟩ events session ∧ events.length = 3 ∧
      session.registry.directory.names["a"]? = none ∧
      session.registry.directory.names["b"]? = some ⟨0, 2⟩ ∧
      session.registry.settings = { maxTopics := 2 } ∧ session.registry.Consistent := by
  have hcreate : Registry.create { maxTopics := 2 } = .ok { settings := { maxTopics := 2 } } := rfl
  have hobtain := (Session.Run.nil ⟨{ settings := { maxTopics := 2 } }, {}⟩).snoc
    (.registry _ #[] (.obtainByte "a" 1))
  have hrelease := hobtain.snoc (.registry _ #[] (.release ⟨0, 1⟩))
  have hrun := hrelease.snoc (.registry _ #[] (.obtainTyped "b" 1 4))
  exact ⟨_, _, hcreate, hrun, rfl, by decide +kernel, by decide +kernel,
    Registry.run_consistent hcreate hrun⟩

end TopicBus
