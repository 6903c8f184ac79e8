import TopicBus.Proofs.Session.Counters
import TopicBus.Proofs.Text.Order

/-!
The views of a registry. Its listing goes through the places, look-ups go through the names,
identities through places and generations, and the counters know only of what came and went; yet
they all tell the same of the same topics.
-/

namespace TopicBus

open Op

variable {settings : RegistrySettings} {registry : Registry} {bus : Bus} {session : Session}
  {turns : List Session.Turn}

namespace Session

theorem listing_perm (session : Session) :
    session.listing.Perm
      (session.registry.directory.entries.map (SomeTopic.describe session.bus)) :=
  List.mergeSort_perm _ _

theorem names_listing_perm (session : Session) :
    (session.listing.map SomeTopic.Summary.name).Perm session.registry.directory.entryNames := by
  have hperm := session.listing_perm.map SomeTopic.Summary.name
  rw [List.map_map] at hperm
  exact hperm

theorem listing_sorted (session : Session) :
    session.listing.Pairwise fun a b => a.name ≤ b.name := by
  let le (a b : SomeTopic.Summary) : Bool := decide (a.name ≤ b.name)
  have htrans (a b c : SomeTopic.Summary) (hab : le a b = true) (hbc : le b c = true) :
      le a c = true :=
    decide_eq_true (String.le_trans (of_decide_eq_true hab) (of_decide_eq_true hbc))
  have htotal (a b : SomeTopic.Summary) : (le a b || le b a) = true := by
    rw [Bool.or_eq_true, decide_eq_true_iff, decide_eq_true_iff]
    exact String.le_total a.name b.name
  exact (List.pairwise_mergeSort htrans htotal _).imp of_decide_eq_true

theorem Coherent.listing_increasing (h : session.Coherent) :
    session.listing.Pairwise fun a b => Text.utf8 a.name < Text.utf8 b.name := by
  have hnodup : (session.listing.map SomeTopic.Summary.name).Nodup :=
    session.names_listing_perm.nodup_iff.mpr h.directory.nodup_entryNames
  rw [List.Nodup, List.pairwise_map] at hnodup
  refine (session.listing_sorted.and hnodup).imp ?_
  rintro a b ⟨hle, hne⟩
  exact Text.utf8_lt (Std.lt_of_le_of_ne hle hne)

theorem Coherent.length_listing (h : session.Coherent) :
    session.listing.length = session.registry.size := by
  rw [session.listing_perm.length_eq, List.length_map, h.directory.length_entries]
  rfl

theorem Coherent.mem_names_listing (h : session.Coherent) {name : String} :
    name ∈ session.listing.map SomeTopic.Summary.name ↔
      session.registry.contains name = true := by
  rw [session.names_listing_perm.mem_iff, h.directory.mem_entryNames_iff, Std.TreeMap.mem_keys]
  rfl

end Session

namespace Registry

/-- What is told of a topic is what it is, and its identity and its name lead to it. -/
structure Tells (session : Session) (info : SomeTopic.Summary) (entry : SomeTopic)
    (storage : Storage) : Prop where
  there : session.bus.storages[entry.topic.storage]? = some storage
  info_eq : info = ⟨entry.topic.id, entry.topic.name, entry.kind, storage.ring.capacity,
    storage.ring.layout.payloadSize, storage.ring.length, storage.ring.lastEpoch⟩
  resolve : ∀ log, (resolve info.id).exec session log = ((.ok entry, session), log)
  resolveKind : ∀ log, (resolveKind entry.kind info.id).exec session log =
    ((.ok entry.topic, session), log)
  otherKind : ∀ kind, entry.kind ≠ kind → ∀ log,
    (Registry.resolveKind kind info.id).exec session log =
      ((.error (.refused (.kindMismatch info.name entry.kind kind)), session), log)
  find : ∀ log, ((find entry.kind info.name).exec session log).1.1 = .ok entry.topic

theorem tells_describe (h : session.Coherent) {entry : SomeTopic}
    (hmem : entry ∈ session.registry.directory.entries) :
    ∃ storage, Tells session (entry.describe session.bus) entry storage := by
  obtain ⟨id, hget⟩ := h.directory.mem_entries_iff.mp hmem
  obtain rfl := h.directory.id_of_get? hget
  have hstorage := Array.getElem?_eq_getElem (h.storage_lt _ entry hget)
  have hnamed : session.registry.directory.named? entry.topic.name = some entry :=
    h.directory.named?_iff.mpr ⟨⟨_, hget⟩, rfl⟩
  rw [SomeTopic.describe_eq hstorage]
  refine ⟨_, hstorage, rfl, ?_, ?_, fun kind hkind => resolveKind_mismatch hget hkind, ?_⟩
  · intro log
    rw [resolve_exec, hget]
  · intro log
    rw [resolveKind_exec, hget]
    dsimp only
    rw [SomeTopic.ofKind?_self]
  · intro log
    rw [find_exec, hnamed]
    dsimp only
    rw [SomeTopic.ofKind?_self]

/-- All views of a registry agree with what it lists. -/
structure ViewsAgree (session : Session) (found : List SomeTopic.Summary) : Prop where
  topics : ∀ log, topics.exec session log = ((.ok found, session), log)
  increasing : found.Pairwise fun a b => Text.utf8 a.name < Text.utf8 b.name
  length_eq : found.length = session.registry.size
  names_iff : ∀ name, (∃ info ∈ found, info.name = name) ↔ session.registry.contains name = true
  tells : ∀ info ∈ found, ∃ entry storage, Tells session info entry storage

theorem views_agree (h : session.Coherent) : ViewsAgree session session.listing where
  topics := topics_exec h
  increasing := h.listing_increasing
  length_eq := h.length_listing
  names_iff _ := List.mem_map.symm.trans h.mem_names_listing
  tells := by
    intro info hinfo
    obtain ⟨entry, hmem, rfl⟩ := List.mem_map.mp (session.listing_perm.mem_iff.mp hinfo)
    obtain ⟨storage, htells⟩ := tells_describe h hmem
    exact ⟨entry, storage, htells⟩

/-- Both counters wrap around, so their difference is no more the number of topics while the one for
those made is a cycle ahead. -/
theorem active_eq (hcreate : Registry.create settings = .ok registry)
    (hpath : Session.Path ⟨registry, bus⟩ turns session) :
    session.registry.counters.active =
      if session.registry.size ≤ session.registry.counters.created.toNat
      then session.registry.size else 0 := by
  have hstart := create_coherent hcreate bus
  have hmoved := hpath.moved hstart
  have hcoherent := hpath.coherent hstart
  obtain ⟨-, rfl⟩ := create_eq_ok hcreate
  have hsize : session.registry.size + turns.countP Session.Turn.releases =
      0 + turns.countP Session.Turn.makes := hmoved.size_eq
  have hfew : session.registry.size ≤ 2 ^ 32 :=
    hcoherent.names_le.trans (hcoherent.max_le.trans (by decide))
  have htoNat {word : UInt64} {count : Nat} (hword : word = 0 + .ofNat count) :
      word.toNat = count % 2 ^ 64 := by
    rw [hword, UInt64.zero_add, UInt64.toNat_ofNat']
  have hcreated := htoNat hmoved.created_eq
  have hreleased := htoNat hmoved.released_eq
  rw [RegistryCounters.active]
  split <;> omega

/-- In every session that a registry reaches all its views agree: the listing has each topic once, in
the order of the bytes of the names, and as it is; names, identities and numbers lead to the same
topics. The counters agree too as long as they have not wrapped around, which takes 2^64 requests. -/
theorem run_views_agree (hcreate : Registry.create settings = .ok registry)
    {events : List Session.Event} (hrun : Session.Run ⟨registry, bus⟩ events session) :
    (∃ found, ViewsAgree session found) ∧
    (session.registry.counters.active =
      if session.registry.size ≤ session.registry.counters.created.toNat
      then session.registry.size else 0) ∧
    (events.countP Session.Event.asks < 2 ^ 64 →
      session.registry.counters.active = session.registry.size) := by
  have hcoherent := hrun.coherent (create_coherent hcreate bus)
  obtain ⟨turns, hpath, rfl⟩ := hrun.exists_path
  refine ⟨⟨_, views_agree hcoherent⟩, active_eq hcreate hpath, fun hfew => ?_⟩
  rw [List.countP_map] at hfew
  exact (exact_of_path hcreate hpath hfew).live_eq

theorem run_views_agree_two :
    ∃ events session found, Session.Run ⟨{ settings := { maxTopics := 2 } }, {}⟩ events session ∧
      ViewsAgree session found ∧ found.length = 2 ∧ (∃ info ∈ found, info.name = "a") ∧
      (∃ info ∈ found, info.name = "b") ∧ session.registry.counters.active = 2 := by
  have hcreate : Registry.create { maxTopics := 2 } = .ok { settings := { maxTopics := 2 } } := rfl
  have hfirst := (Session.Run.nil ⟨{ settings := { maxTopics := 2 } }, {}⟩).snoc
    (.registry _ #[] (.obtainByte "b" 1))
  have hsecond := hfirst.snoc (.registry _ #[] (.obtainTyped "a" 1 4))
  obtain ⟨⟨found, hagree⟩, -, hactive⟩ := run_views_agree hcreate hsecond
  exact ⟨_, _, found, hsecond, hagree, hagree.length_eq.trans (by decide +kernel),
    (hagree.names_iff "a").mpr (by decide +kernel), (hagree.names_iff "b").mpr (by decide +kernel),
    (hactive (by decide)).trans (by decide +kernel)⟩

end Registry

end TopicBus
