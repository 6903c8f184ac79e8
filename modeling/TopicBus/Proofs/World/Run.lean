import TopicBus.Proofs.Bus.Release
import TopicBus.Proofs.Registry.Listing

/-!
Worlds: any number of registries on one bus, beside topics that belong to none. Registries are made,
asked, and dropped in any order, and topics are used through handles all the while. What a registry
lists is live, no two registries list one storage, and a storage leaves the listings and is marked
as released in one and the same step.
-/

namespace TopicBus

open Op

namespace Directory

variable {directory : Directory} {id : TopicId} {entry handle : SomeTopic}

theorem Fresh.lists_insert (hid : directory.Fresh id) {next : Directory}
    (hnext : directory.insert id entry = .ok next) :
    next.Lists handle ↔ directory.Lists handle ∨ handle = entry := by
  constructor
  · rintro ⟨other, hget⟩
    rcases (hid.get?_insert hnext).mp hget with ⟨-, hentry⟩ | hold
    · exact .inr hentry
    · exact .inl ⟨other, hold⟩
  · rintro (⟨other, hget⟩ | hentry)
    · exact ⟨other, (hid.get?_insert hnext).mpr (.inr hget)⟩
    · exact ⟨id, (hid.get?_insert hnext).mpr (.inl ⟨rfl, hentry⟩)⟩

theorem Coherent.lists_remove (h : directory.Coherent) {next : Directory}
    (hnext : directory.remove id = some (entry, next)) :
    next.Lists handle ↔ directory.Lists handle ∧ handle ≠ entry := by
  have hremoved := removed_of_remove hnext
  have hhere := get?_eq_some_iff.mp hremoved.get?_eq
  constructor
  · rintro ⟨other, hget⟩
    have hold := get?_remove hnext hget
    refine ⟨⟨other, hold⟩, ?_⟩
    rintro rfl
    have hother : other = id := by
      rw [← h.id_of_get? hold, h.id_of_get? hremoved.get?_eq]
    rw [get?_eq_some_iff, hother, hremoved.here] at hget
    simp only [Option.some.injEq, Place.mk.injEq, reduceCtorEq, and_false] at hget
  · rintro ⟨⟨other, hget⟩, hne⟩
    have hplace := get?_eq_some_iff.mp hget
    refine ⟨other, get?_eq_some_iff.mpr ?_⟩
    rw [hremoved.there]
    · exact hplace
    · intro hindex
      rw [hindex, hhere] at hplace
      simp only [Option.some.injEq, Place.mk.injEq] at hplace
      exact hne hplace.2.symm

end Directory

def Bus.retireAll (bus : Bus) (entries : List SomeTopic) : Bus :=
  entries.foldl (fun bus entry => bus.retire entry.topic.storage) bus

theorem Bus.getElem?_retireAll {bus : Bus} {index : Nat} {storage : Storage}
    (h : bus.storages[index]? = some storage) (entries : List SomeTopic) :
    ∃ storage', (bus.retireAll entries).storages[index]? = some storage' ∧
      storage'.ring = storage.ring ∧
      (storage'.released = true ↔
        storage.released = true ∨ ∃ entry ∈ entries, entry.topic.storage = index) := by
  induction entries generalizing bus storage with
  | nil => exact ⟨storage, h, rfl, by simp⟩
  | cons entry entries ih =>
      by_cases hi : entry.topic.storage = index
      · have hfirst : (bus.retire entry.topic.storage).storages[index]? =
            some { storage with released := true } := by
          rw [bus.getElem?_retire, if_pos hi, h]
          rfl
        obtain ⟨storage', hrest, hring, hflag⟩ := ih hfirst
        exact ⟨storage', hrest, hring, by simp [hflag, hi]⟩
      · have hfirst : (bus.retire entry.topic.storage).storages[index]? = some storage := by
          rw [bus.getElem?_retire, if_neg hi, h]
        obtain ⟨storage', hrest, hring, hflag⟩ := ih hfirst
        exact ⟨storage', hrest, hring, by simp [hflag, hi]⟩

namespace Registry

theorem retireEach_exec (entries : List SomeTopic) (session : Session)
    (hthere : ∀ entry ∈ entries, entry.topic.storage < session.bus.storages.size) (log : Log) :
    ∃ counters, (entries.forM fun entry => do
        onBus entry.topic.setReleased
        count RegistryCounters.countReleased : Op Session PUnit).exec session log =
      ((.ok ⟨⟩, ⟨{ session.registry with counters }, session.bus.retireAll entries⟩), log) := by
  induction entries generalizing session with
  | nil => exact ⟨session.registry.counters, rfl⟩
  | cons entry entries ih =>
      have hstorage := Array.getElem?_eq_getElem (hthere entry (by simp))
      let session' : Session := { session.counted RegistryCounters.countReleased with
        bus := session.bus.retire entry.topic.storage }
      obtain ⟨counters, hrest⟩ := ih session' (by
        intro other hmem
        show _ < (session.bus.retire entry.topic.storage).storages.size
        rw [Bus.size_retire]
        exact hthere other (List.mem_cons_of_mem _ hmem))
      refine ⟨counters, ?_⟩
      rw [List.forM]
      simp only [exec_bind, onBus_exec, entry.topic.setReleased_exec hstorage, count_exec]
      exact hrest

theorem releaseAll_exec {session : Session} (h : session.Coherent) (log : Log) :
    ∃ counters log', releaseAll.exec session log =
      ((.ok ⟨⟩, ⟨{ session.registry with directory := {}, counters },
        session.bus.retireAll session.registry.directory.entries⟩), log') := by
  let entries := session.registry.directory.entries
  let session' : Session := { session with registry := { session.registry with directory := {} } }
  have hthere : ∀ entry ∈ entries, entry.topic.storage < session'.bus.storages.size := by
    intro entry hmem
    obtain ⟨id, hget⟩ := h.directory.mem_entries_iff.mp hmem
    exact h.storage_lt id entry hget
  obtain ⟨counters, heach⟩ := retireEach_exec entries session' hthere log
  refine ⟨counters, ?_⟩
  simp only [releaseAll, exec_bind, getDirectory_exec, setDirectory_exec]
  rw [heach]
  dsimp only
  split
  · exact ⟨_, rfl⟩
  · exact ⟨_, rfl⟩

end Registry

structure World where
  registries : Nat → Option Registry := fun _ => none
  bus : Bus := {}

namespace World

def put (world : World) (index : Nat) (registry : Option Registry) (bus : Bus) : World :=
  ⟨Function.update world.registries index registry, bus⟩

def ask (world : World) (index : Nat) (registry : Registry) (request : Registry.Request)
    (log : Log) : World :=
  let after := ((Registry.perform request).exec ⟨registry, world.bus⟩ log).1.2
  world.put index (some after.registry) after.bus

def drop (world : World) (index : Nat) (registry : Registry) (log : Log) : World :=
  world.put index none (Registry.releaseAll.exec ⟨registry, world.bus⟩ log).1.2.bus

def use (world : World) (request : Bus.Request) (log : Log) : World :=
  { world with bus := (request.perform.exec world.bus log).1.2 }

inductive Step : World → World → Prop
  | make (world : World) {index : Nat} (vacant : world.registries index = none)
      {settings : RegistrySettings} {registry : Registry}
      (made : Registry.create settings = .ok registry) :
      Step world (world.put index (some registry) world.bus)
  | ask (world : World) {index : Nat} {registry : Registry}
      (there : world.registries index = some registry) (request : Registry.Request) (log : Log) :
      Step world (world.ask index registry request log)
  | drop (world : World) {index : Nat} {registry : Registry}
      (there : world.registries index = some registry) (log : Log) :
      Step world (world.drop index registry log)
  | use (world : World) (request : Bus.Request) (held : request.Held world.bus) (log : Log) :
      Step world (world.use request log)

abbrev Run : World → World → Prop := Relation.ReflTransGen Step

def Lists (world : World) (index : Nat) (handle : SomeTopic) : Prop :=
  ∃ registry, world.registries index = some registry ∧ registry.directory.Lists handle

/-- The registries are coherent, what they list is live, and each lists storages of its own. -/
structure Sound (world : World) : Prop where
  coherent : ∀ index registry, world.registries index = some registry →
    Session.Coherent ⟨registry, world.bus⟩
  live : ∀ index handle, world.Lists index handle →
    ∃ storage, world.bus.storages[handle.topic.storage]? = some storage ∧
      storage.released = false
  apart : ∀ a b handle other, world.Lists a handle → world.Lists b other →
    handle.topic.storage = other.topic.storage → a = b ∧ handle = other

inductive Change (before after : World) : Prop
  | kept (lists : ∀ index handle, after.Lists index handle ↔ before.Lists index handle)
      (bus : before.bus.Along (fun _ => Storage.Endures) after.bus)
  | entered (owner : Nat) (entry : SomeTopic) (ring : Ring)
      (lists : ∀ index handle, after.Lists index handle ↔
        before.Lists index handle ∨ index = owner ∧ handle = entry)
      (storage_eq : entry.topic.storage = before.bus.storages.size)
      (storages_eq : after.bus.storages = before.bus.storages.push { ring })
  | left (owner : Nat) (entries : List SomeTopic)
      (listed : ∀ entry ∈ entries, before.Lists owner entry)
      (lists : ∀ index handle, after.Lists index handle ↔
        before.Lists index handle ∧ ¬(index = owner ∧ handle ∈ entries))
      (bus_eq : after.bus = before.bus.retireAll entries)

variable {world before after : World} {index : Nat} {handle : SomeTopic}

theorem registries_put (world : World) (index : Nat) (registry : Option Registry) (bus : Bus) :
    (world.put index registry bus).registries index = registry := Function.update_self ..

theorem lists_put (registry : Option Registry) (bus : Bus) (other : Nat) :
    (world.put index registry bus).Lists other handle ↔
      if other = index then ∃ new, registry = some new ∧ new.directory.Lists handle
      else world.Lists other handle := by
  by_cases hi : other = index
  · subst hi
    simp only [Lists, put, Function.update_self, if_true]
  · simp only [Lists, put, Function.update_of_ne hi, hi, if_false]

theorem Sound.storage_lt (h : world.Sound) (hlists : world.Lists index handle) :
    handle.topic.storage < world.bus.storages.size := by
  obtain ⟨storage, hstorage, -⟩ := h.live index handle hlists
  exact (Array.getElem?_eq_some_iff.mp hstorage).1

theorem ask_change (hb : world.Sound) {registry : Registry}
    (there : world.registries index = some registry) (request : Registry.Request) (log : Log) :
    Change world (world.ask index registry request log) := by
  have hcoherent := hb.coherent index registry there
  have hlists (handle : SomeTopic) : world.Lists index handle ↔ registry.directory.Lists handle := by
    simp only [Lists, there, Option.some.injEq, exists_eq_left']
  have hput (after : Registry) (other : Nat) (handle : SomeTopic) :
      (if other = index then ∃ new, some after = some new ∧ new.directory.Lists handle
        else world.Lists other handle) ↔
      (other = index ∧ after.directory.Lists handle ∨ other ≠ index ∧ world.Lists other handle) := by
    by_cases hi : other = index <;> simp [hi]
  have heffect := Registry.perform_effect hcoherent request log
  unfold ask
  generalize ((Registry.perform request).exec ⟨registry, world.bus⟩ log).1 = result at heffect ⊢
  obtain ⟨outcome, after⟩ := result
  cases heffect with
  | kept kept _ _ =>
      refine .kept ?_ ?_
      · intro other handle
        rw [lists_put, hput, kept.directory_eq]
        by_cases hi : other = index
        · simp [hi, hlists]
        · simp [hi]
      · show world.bus.Along _ after.bus
        rw [kept.bus_eq]
        exact refl world.bus
  | entered kind spec ring topic makes name_eq vacant room fresh storage_eq bus_eq inserted
      settings_eq answer =>
      have hfresh := hcoherent.directory.fresh (room.trans_le hcoherent.max_le) fresh
      refine .entered index ⟨kind, topic⟩ ring ?_ storage_eq ?_
      · intro other handle
        rw [lists_put, hput, hfresh.lists_insert inserted]
        by_cases hi : other = index
        · simp [hi, hlists]
        · simp [hi]
      · show after.bus.storages = _
        rw [bus_eq]
  | left id entry removed settings_eq answer bus_eq =>
      have hlisted : registry.directory.Lists entry :=
        ⟨id, (Directory.removed_of_remove removed).get?_eq⟩
      refine .left index [entry] ?_ ?_ bus_eq
      · intro other hmem
        rw [List.mem_singleton.mp hmem]
        exact (hlists entry).mpr hlisted
      · intro other handle
        rw [lists_put, hput, hcoherent.directory.lists_remove removed]
        by_cases hi : other = index
        · simp [hi, hlists]
        · simp [hi]

theorem drop_change (hb : world.Sound) {registry : Registry}
    (there : world.registries index = some registry) (log : Log) :
    Change world (world.drop index registry log) := by
  have hcoherent := hb.coherent index registry there
  have hlists (handle : SomeTopic) :
      handle ∈ registry.directory.entries ↔ world.Lists index handle := by
    rw [hcoherent.directory.mem_entries_iff]
    simp only [Lists, there, Option.some.injEq, exists_eq_left']
  obtain ⟨counters, log', hexec⟩ := Registry.releaseAll_exec hcoherent log
  unfold drop
  rw [hexec]
  refine .left index registry.directory.entries (fun entry => (hlists entry).mp) ?_ rfl
  intro other handle
  rw [lists_put, hlists]
  by_cases hi : other = index
  · simp [hi]
  · simp [hi]

theorem make_change (vacant : world.registries index = none) {settings : RegistrySettings}
    {registry : Registry} (made : Registry.create settings = .ok registry) :
    Change world (world.put index (some registry) world.bus) := by
  obtain ⟨-, rfl⟩ := Registry.create_eq_ok made
  refine .kept ?_ (refl world.bus)
  intro other handle
  rw [lists_put]
  by_cases hi : other = index
  · simp only [hi, if_true, Lists, vacant, reduceCtorEq, false_and, exists_false, iff_false]
    rintro ⟨registry, ⟨⟩, id, ⟨⟩⟩
  · simp only [hi, if_false]

theorem Step.change (h : Step before after) (hb : before.Sound) : Change before after := by
  cases h with
  | make vacant made => exact make_change vacant made
  | ask there request log => exact ask_change hb there request log
  | drop there log => exact drop_change hb there log
  | use request held log =>
      exact .kept (fun _ _ => Iff.rfl) (request.perform_covered Storage.covered_endures _ _)

/-- Whatever is listed anew has a new storage; a storage is marked as released when it leaves the
listings, and only then; and the ring of a released storage stays as it is. -/
structure Onward (before after : World) : Prop where
  fresh : ∀ index handle, after.Lists index handle → ¬before.Lists index handle →
    before.bus.storages.size ≤ handle.topic.storage
  storage : ∀ (place : Nat) (old : Storage), before.bus.storages[place]? = some old →
    ∃ new, after.bus.storages[place]? = some new ∧
      (new.released = true ↔ old.released = true ∨ ∃ index handle,
        before.Lists index handle ∧ ¬after.Lists index handle ∧ handle.topic.storage = place) ∧
      (old.released = true → new.ring = old.ring)

theorem flag_of_stays (hstays : ∀ index handle, before.Lists index handle → after.Lists index handle)
    {old new : Storage} (hflag : new.released = old.released) (place : Nat) :
    new.released = true ↔ old.released = true ∨ ∃ index handle,
      before.Lists index handle ∧ ¬after.Lists index handle ∧ handle.topic.storage = place := by
  rw [hflag]
  constructor
  · exact .inl
  · rintro (hold | ⟨index, handle, hlisted, hgone, -⟩)
    · exact hold
    · exact absurd (hstays index handle hlisted) hgone

theorem Change.onward (h : Change before after) : Onward before after := by
  cases h with
  | kept lists bus =>
      refine ⟨fun index handle hafter hbefore => absurd ((lists index handle).mp hafter) hbefore, ?_⟩
      intro place old hold
      obtain ⟨new, hnew, hendures⟩ := bus.storage place old hold
      refine ⟨new, hnew, ?_, hendures.ring_eq⟩
      exact flag_of_stays (fun index handle => (lists index handle).mpr) hendures.released_eq place
  | entered owner entry ring lists storage_eq storages_eq =>
      refine ⟨?_, ?_⟩
      · intro index handle hafter hbefore
        rcases (lists index handle).mp hafter with hold | ⟨-, rfl⟩
        · exact absurd hold hbefore
        · exact Nat.le_of_eq storage_eq.symm
      · intro place old hold
        obtain ⟨hlt, -⟩ := Array.getElem?_eq_some_iff.mp hold
        refine ⟨old, ?_, ?_, fun _ => rfl⟩
        · rw [storages_eq, Array.getElem?_push, if_neg (Nat.ne_of_lt hlt), hold]
        · exact flag_of_stays (fun index handle h => (lists index handle).mpr (.inl h)) rfl place
  | left owner entries listed lists bus_eq =>
      refine ⟨?_, ?_⟩
      · intro index handle hafter hbefore
        exact absurd ((lists index handle).mp hafter).1 hbefore
      · intro place old hold
        obtain ⟨new, hnew, hring, hflag⟩ := Bus.getElem?_retireAll hold entries
        refine ⟨new, by rw [bus_eq, hnew], ?_, fun _ => hring⟩
        rw [hflag]
        apply or_congr_right
        constructor
        · rintro ⟨entry, hmem, hplace⟩
          refine ⟨owner, entry, listed entry hmem, ?_, hplace⟩
          rw [lists]
          exact fun hafter => hafter.2 ⟨rfl, hmem⟩
        · rintro ⟨index, handle, hbefore, hafter, hplace⟩
          rw [lists, not_and, not_not] at hafter
          exact ⟨handle, (hafter hbefore).2, hplace⟩

theorem Onward.size_le (h : Onward before after) :
    before.bus.storages.size ≤ after.bus.storages.size := by
  by_contra hlt
  obtain ⟨new, hnew, -⟩ := h.storage after.bus.storages.size _
    (Array.getElem?_eq_getElem (Nat.lt_of_not_le hlt))
  rw [Array.getElem?_eq_none (Nat.le_refl _)] at hnew
  cases hnew

theorem Onward.trans {middle : World} (hab : Onward before middle) (hbc : Onward middle after) :
    Onward before after := by
  refine ⟨?_, ?_⟩
  · intro index handle hafter hbefore
    by_cases hmiddle : middle.Lists index handle
    · exact hab.fresh index handle hmiddle hbefore
    · exact hab.size_le.trans (hbc.fresh index handle hafter hmiddle)
  · intro place old hold
    obtain ⟨hlt, -⟩ := Array.getElem?_eq_some_iff.mp hold
    obtain ⟨between, hbetween, hfirst, hring⟩ := hab.storage place old hold
    obtain ⟨new, hnew, hsecond, hring'⟩ := hbc.storage place between hbetween
    refine ⟨new, hnew, ?_, ?_⟩
    · rw [hsecond, hfirst]
      constructor
      · rintro ((hflag | ⟨index, handle, hbefore, hmiddle, hplace⟩) |
          ⟨index, handle, hmiddle, hafter, hplace⟩)
        · exact .inl hflag
        · -- What left the listings does not return: a new listing has a new storage.
          refine .inr ⟨index, handle, hbefore, ?_, hplace⟩
          intro hafter
          have hnewer := hab.size_le.trans (hbc.fresh index handle hafter hmiddle)
          omega
        · refine .inr ⟨index, handle, ?_, hafter, hplace⟩
          by_contra hbefore
          have hnewer := hab.fresh index handle hmiddle hbefore
          omega
      · rintro (hflag | ⟨index, handle, hbefore, hafter, hplace⟩)
        · exact .inl (.inl hflag)
        · by_cases hmiddle : middle.Lists index handle
          · exact .inr ⟨index, handle, hmiddle, hafter, hplace⟩
          · exact .inl (.inr ⟨index, handle, hbefore, hmiddle, hplace⟩)
    · intro hflag
      exact (hring' (hfirst.mpr (.inl hflag))).trans (hring hflag)

theorem Change.live (h : Change before after) (hb : before.Sound)
    (hlists : after.Lists index handle) :
    ∃ storage, after.bus.storages[handle.topic.storage]? = some storage ∧
      storage.released = false := by
  cases h with
  | kept lists bus =>
      obtain ⟨old, hold, hlive⟩ := hb.live index handle ((lists index handle).mp hlists)
      obtain ⟨new, hnew, hendures⟩ := bus.storage _ old hold
      exact ⟨new, hnew, hendures.released_eq.trans hlive⟩
  | entered owner entry ring lists storage_eq storages_eq =>
      rw [storages_eq]
      rcases (lists index handle).mp hlists with hbefore | ⟨-, rfl⟩
      · obtain ⟨old, hold, hlive⟩ := hb.live index handle hbefore
        have hlt := hb.storage_lt hbefore
        refine ⟨old, ?_, hlive⟩
        rw [Array.getElem?_push, if_neg (Nat.ne_of_lt hlt), hold]
      · refine ⟨{ ring }, ?_, rfl⟩
        rw [storage_eq]
        exact Array.getElem?_push_size
  | left owner entries listed lists bus_eq =>
      obtain ⟨hbefore, hstays⟩ := (lists index handle).mp hlists
      obtain ⟨old, hold, hlive⟩ := hb.live index handle hbefore
      obtain ⟨new, hnew, -, hflag⟩ := Bus.getElem?_retireAll hold entries
      refine ⟨new, by rw [bus_eq, hnew], ?_⟩
      rw [Bool.eq_false_iff, ne_eq, hflag, hlive]
      rintro (hfalse | ⟨entry, hmem, hplace⟩)
      · cases hfalse
      · obtain ⟨howner, rfl⟩ := hb.apart owner index entry handle (listed entry hmem) hbefore hplace
        exact hstays ⟨howner.symm, hmem⟩

theorem Change.apart (h : Change before after) (hb : before.Sound) {a b : Nat}
    {entry other : SomeTopic} (ha : after.Lists a entry) (hb' : after.Lists b other)
    (hsame : entry.topic.storage = other.topic.storage) : a = b ∧ entry = other := by
  cases h with
  | kept lists bus =>
      exact hb.apart a b entry other ((lists _ _).mp ha) ((lists _ _).mp hb') hsame
  | left owner entries listed lists bus_eq =>
      exact hb.apart a b entry other ((lists _ _).mp ha).1 ((lists _ _).mp hb').1 hsame
  | entered owner new ring lists storage_eq storages_eq =>
      rcases (lists a entry).mp ha with holda | ⟨rfl, rfl⟩ <;>
        rcases (lists b other).mp hb' with holdb | ⟨rfl, rfl⟩
      · exact hb.apart a b entry other holda holdb hsame
      · have hlt := hb.storage_lt holda
        omega
      · have hlt := hb.storage_lt holdb
        omega
      · exact ⟨rfl, rfl⟩

/-- Where a registry comes from that is there after a step. -/
inductive Origin (before after : World) (index : Nat) (registry : Registry) : Prop
  | kept (hold : before.registries index = some registry)
  | made {settings : RegistrySettings} (made : Registry.create settings = .ok registry)
  | asked {old : Registry} (hold : before.registries index = some old)
      (request : Registry.Request) (log : Log)
      (hafter : ((Registry.perform request).exec ⟨old, before.bus⟩ log).1.2 = ⟨registry, after.bus⟩)

theorem Step.origin (h : Step before after) {registry : Registry}
    (there : after.registries index = some registry) : Origin before after index registry := by
  cases h with
  | @make owner vacant settings new made =>
      by_cases hi : index = owner
      · subst hi
        simp only [put, Function.update_self, Option.some.injEq] at there
        subst there
        exact .made made
      · simp only [put, Function.update_of_ne hi] at there
        exact .kept there
  | @ask owner old hold request log =>
      by_cases hi : index = owner
      · subst hi
        simp only [World.ask, put, Function.update_self, Option.some.injEq] at there
        subst there
        exact .asked hold request log rfl
      · simp only [World.ask, put, Function.update_of_ne hi] at there
        exact .kept there
  | @drop owner old hold log =>
      by_cases hi : index = owner
      · subst hi
        simp only [World.drop, put, Function.update_self, reduceCtorEq] at there
      · simp only [World.drop, put, Function.update_of_ne hi] at there
        exact .kept there
  | use request held log => exact .kept there

theorem Step.coherent (h : Step before after) (hb : before.Sound) {registry : Registry}
    (there : after.registries index = some registry) : Session.Coherent ⟨registry, after.bus⟩ := by
  cases h.origin there with
  | kept hold => exact (hb.coherent index registry hold).grown (h.change hb).onward.size_le
  | made made => exact Registry.create_coherent made _
  | asked hold request log hafter =>
      have hcoherent := (Session.Step.registry _ log request).coherent (hb.coherent index _ hold)
      rw [hafter] at hcoherent
      exact hcoherent

theorem Step.sound (h : Step before after) (hb : before.Sound) : after.Sound where
  coherent _ _ there := h.coherent hb there
  live _ _ hlists := (h.change hb).live hb hlists
  apart _ _ _ _ ha hb' hsame := (h.change hb).apart hb ha hb' hsame

theorem sound_empty : Sound {} where
  coherent := by rintro _ _ ⟨⟩
  live := by rintro _ _ ⟨_, ⟨⟩, _⟩
  apart := by rintro _ _ _ _ ⟨_, ⟨⟩, _⟩

theorem Run.sound (h : Run before after) (hb : before.Sound) : after.Sound := by
  induction h with
  | refl => exact hb
  | tail _ step ih => exact step.sound ih

theorem onward_refl (world : World) : Onward world world where
  fresh _ _ hafter hbefore := absurd hafter hbefore
  storage place old hold := ⟨old, hold, flag_of_stays (fun _ _ h => h) rfl place, fun _ => rfl⟩

theorem Run.onward (h : Run before after) (hb : before.Sound) : Onward before after := by
  induction h with
  | refl => exact onward_refl before
  | tail run step ih => exact ih.trans (step.change (Run.sound run hb)).onward

end World

end TopicBus
