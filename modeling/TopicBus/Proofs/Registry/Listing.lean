import TopicBus.Proofs.Session.Run

namespace TopicBus

open Op

namespace Directory

variable {directory : Directory} {entry : SomeTopic}

theorem Coherent.mem_entries_iff (h : directory.Coherent) :
    entry ∈ directory.entries ↔ directory.Lists entry := by
  rw [entries, List.mem_filterMap]
  constructor
  · rintro ⟨⟨generation, occupant⟩, hmem, hentry⟩
    cases hentry
    obtain ⟨index, hplace⟩ := Array.mem_iff_getElem?.mp (Array.mem_def.mpr hmem)
    exact ⟨_, h.get?_own_id hplace⟩
  · rintro ⟨id, hget⟩
    refine ⟨⟨id.generation, some entry⟩, ?_, rfl⟩
    exact Array.mem_def.mp (Array.mem_iff_getElem?.mpr ⟨_, get?_eq_some_iff.mp hget⟩)

def entryNames (directory : Directory) : List String :=
  directory.entries.map fun entry => entry.topic.name

theorem Coherent.mem_entryNames_iff (h : directory.Coherent) {name : String} :
    name ∈ directory.entryNames ↔ name ∈ directory.names.keys := by
  rw [Std.TreeMap.mem_keys, Std.TreeMap.mem_iff_isSome_getElem?, Option.isSome_iff_exists,
    entryNames, List.mem_map]
  constructor
  · rintro ⟨entry, hmem, rfl⟩
    obtain ⟨id, hget⟩ := h.mem_entries_iff.mp hmem
    exact ⟨id, h.names_of_get? hget⟩
  · rintro ⟨id, hid⟩
    obtain ⟨entry, hplace, hname, -⟩ := (h.names_iff name id).mp hid
    exact ⟨entry, h.mem_entries_iff.mpr ⟨id, get?_eq_some_iff.mpr hplace⟩, hname⟩

theorem Coherent.nodup_entryNames (h : directory.Coherent) : directory.entryNames.Nodup := by
  rw [entryNames, List.Nodup, List.pairwise_map, entries, List.pairwise_filterMap,
    List.pairwise_iff_getElem]
  intro i j hi hj hij entry hentry other hother
  have hplace (k : Nat) (hk : k < directory.places.toList.length) {found : SomeTopic}
      (hfound : directory.places.toList[k].entry = some found) :
      directory.places[k]? = some ⟨directory.places.toList[k].generation, some found⟩ := by
    rw [← hfound, ← Array.getElem?_toList, List.getElem?_eq_getElem hk]
  have hiplace := hplace i hi hentry
  have hjplace := hplace j hj hother
  apply h.name_ne (h.get?_own_id hiplace) (h.get?_own_id hjplace)
  intro hid
  have hindex := (h.own_id i _ entry hiplace).1
  rw [hid, (h.own_id j _ other hjplace).1] at hindex
  omega

theorem Coherent.length_entries (h : directory.Coherent) :
    directory.entries.length = directory.names.size := by
  have hperm : directory.entryNames.Perm directory.names.keys :=
    (List.perm_ext_iff_of_nodup h.nodup_entryNames Std.TreeMap.nodup_keys).mpr
      fun name => h.mem_entryNames_iff
  rw [← Std.TreeMap.length_keys, ← hperm.length_eq, entryNames, List.length_map]

end Directory

variable {bus : Bus} {storage : Storage} {session : Session}

namespace SomeTopic

def describe (bus : Bus) (handle : SomeTopic) : Summary :=
  let ring := bus.storages[handle.topic.storage]?.map Storage.ring
  ⟨handle.topic.id, handle.topic.name, handle.kind, ring.elim 0 Ring.capacity,
    ring.elim 0 fun ring => ring.layout.payloadSize, ring.elim 0 Ring.length,
    ring.elim 0 Ring.lastEpoch⟩

theorem describe_eq {handle : SomeTopic}
    (hstorage : bus.storages[handle.topic.storage]? = some storage) :
    handle.describe bus = ⟨handle.topic.id, handle.topic.name, handle.kind, storage.ring.capacity,
      storage.ring.layout.payloadSize, storage.ring.length, storage.ring.lastEpoch⟩ := by
  rw [describe, hstorage]
  rfl

theorem summary_exec {entry : SomeTopic}
    (hstorage : bus.storages[entry.topic.storage]? = some storage) (log : Log) :
    entry.summary.exec bus log = ((.ok (entry.describe bus), bus), log) := by
  rw [describe_eq hstorage]
  simp only [summary, exec_bind, entry.topic.state_exec hstorage]
  rfl

theorem summaries_exec (entries : List SomeTopic)
    (hthere : ∀ entry ∈ entries, entry.topic.storage < bus.storages.size) (log : Log) :
    (entries.mapM summary).exec bus log = ((.ok (entries.map (describe bus)), bus), log) := by
  induction entries with
  | nil => rfl
  | cons entry entries ih =>
      have hstorage := Array.getElem?_eq_getElem (hthere entry List.mem_cons_self)
      have hrest := ih fun other hmem => hthere other (List.mem_cons_of_mem _ hmem)
      rw [List.mapM_cons]
      simp only [exec_bind, summary_exec hstorage, hrest, exec_pure, List.map_cons]

end SomeTopic

def Session.listing (session : Session) : List SomeTopic.Summary :=
  (session.registry.directory.entries.map (SomeTopic.describe session.bus)).mergeSort
    fun a b => decide (a.name ≤ b.name)

theorem Registry.topics_exec (h : session.Coherent) (log : Log) :
    topics.exec session log = ((.ok session.listing, session), log) := by
  have hexec := SomeTopic.summaries_exec session.registry.directory.entries
    (fun entry hmem => by
      obtain ⟨id, hget⟩ := h.directory.mem_entries_iff.mp hmem
      exact h.storage_lt id entry hget) log
  simp only [topics, exec_bind, getDirectory_exec, onBus_exec, hexec, exec_pure]
  rfl

end TopicBus
