import TopicBus.Proofs.World.Handles

namespace TopicBus

open Op

variable {kind : Kind} {bus bus' : Bus} {storage : Storage} {log : Log}

structure Storage.Blank (storage : Storage) : Prop where
  lastEpoch_eq : storage.ring.lastEpoch = 0
  unread_eq : storage.ring.unread = []
  length_eq : storage.ring.length = 0
  slot_eq : ∀ index, storage.ring.slot index = .blank storage.ring.slotSize
  counters_eq : storage.counters = {}
  live : storage.released = false

theorem Storage.blank_of_holds {ring : Ring} {layout : Layout} {capacity : Nat}
    (h : ring.Holds { layout, capacity }) : Storage.Blank { ring } where
  lastEpoch_eq := h.written_eq
  unread_eq := by simp [Ring.unread, h.written_eq]
  length_eq := by simp [Ring.length, h.written_eq]
  slot_eq index := by
    rw [h.slot_eq, Ring.slotSize, h.layout_eq]
    rfl
  counters_eq := rfl
  live := rfl

theorem Bus.getElem?_retireAll_of_ne {index : Nat} (entries : List SomeTopic) {bus : Bus}
    (h : ∀ entry ∈ entries, entry.topic.storage ≠ index) :
    (bus.retireAll entries).storages[index]? = bus.storages[index]? := by
  unfold Bus.retireAll
  induction entries generalizing bus with
  | nil => rfl
  | cons entry entries ih =>
      rw [List.foldl_cons, ih fun other hmem => h other (List.mem_cons_of_mem _ hmem),
        bus.getElem?_retire, if_neg (h entry (by simp))]

/-- What a call tells depends on the storage of its topic and on its mark alone. -/
theorem Bus.Request.report_agrees {request : Bus.Request} {handle : Handle}
    (hhandle : request.handle? = some handle)
    (hstorage : bus.storages[handle.of.topic.storage]? = some storage)
    (hstorage' : bus'.storages[handle.of.topic.storage]? = some storage)
    (hmark : ∀ mark, handle.mark? = some mark →
      ∃ seen, bus.seen[mark]? = some seen ∧ bus'.seen[mark]? = some seen) (log : Log) :
    (request.report.exec bus' log).1.1 = (request.report.exec bus log).1.1 := by
  cases request with
  | create kind spec | provide memory => cases hhandle
  | subscribe topic => rfl
  | topic topic request =>
      cases hhandle
      rw [report, topic.report_exec hstorage, topic.report_exec hstorage',
        topic.access_exec hstorage, topic.access_exec hstorage']
  | publisher publisher request =>
      cases hhandle
      rw [report, publisher.report_eq, publisher.topic.report_exec hstorage,
        publisher.topic.report_exec hstorage', publisher.topic.access_exec hstorage,
        publisher.topic.access_exec hstorage']
  | subscriber subscriber request =>
      cases hhandle
      obtain ⟨seen, hseen, hseen'⟩ := hmark subscriber.mark rfl
      by_cases hidle : request.polls ∧ storage.ring.lastEpoch ≤ seen
      · rw [report, subscriber.report_idle hstorage hseen request hidle.1 hidle.2,
          subscriber.report_idle hstorage' hseen' request hidle.1 hidle.2]
      · have hnew : request.polls → seen < storage.ring.lastEpoch :=
          fun hpolls => Nat.lt_of_not_le fun hle => hidle ⟨hpolls, hle⟩
        rw [report, subscriber.report_served hstorage hseen request hnew,
          subscriber.report_served hstorage' hseen' request hnew]

theorem World.Sound.ask_storage {world : World} (hb : world.Sound) {index : Nat}
    {registry : Registry} (there : world.registries index = some registry)
    (request : Registry.Request) (log : Log) {place : Nat}
    (hplace : world.bus.storages[place]? = some storage)
    (hspared : ∀ id entry, ((Registry.perform request).exec ⟨registry, world.bus⟩ log).1.1 =
      .ok (.released (some id)) → registry.directory.get? id = some entry →
      entry.topic.storage ≠ place) :
    (world.ask index registry request log).bus.storages[place]? = some storage := by
  have heffect := Registry.perform_effect (hb.coherent index registry there) request log
  show ((Registry.perform request).exec ⟨registry, world.bus⟩ log).1.2.bus.storages[place]? = _
  generalize ((Registry.perform request).exec ⟨registry, world.bus⟩ log).1 = result
    at heffect hspared ⊢
  obtain ⟨outcome, after⟩ := result
  cases heffect with
  | kept kept lists keeps =>
      rw [kept.bus_eq]
      exact hplace
  | entered kind spec ring topic makes name_eq vacant room fresh storage_eq bus_eq inserted
      settings_eq answer =>
      obtain ⟨hlt, -⟩ := Array.getElem?_eq_some_iff.mp hplace
      rw [bus_eq, Array.getElem?_push, if_neg (Nat.ne_of_lt hlt), hplace]
  | left id entry removed settings_eq answer bus_eq =>
      have hget := (Directory.removed_of_remove removed).get?_eq
      rw [bus_eq, Bus.getElem?_retire, if_neg (hspared id entry answer hget), hplace]

namespace Configuration

variable {c c' later : Configuration} {act : Act} {a b : SomeTopic}

/-- All that the users of a topic depend on is as before. -/
structure Keeps (before : Configuration) (topic : SomeTopic) (after : Configuration) : Prop where
  storage : ∃ storage, before.world.bus.storages[topic.topic.storage]? = some storage ∧
    after.world.bus.storages[topic.topic.storage]? = some storage
  seen : ∀ handle ∈ before.handles, handle.of.same topic = true → ∀ mark,
    handle.mark? = some mark → ∃ seen, before.world.bus.seen[mark]? = some seen ∧
      after.world.bus.seen[mark]? = some seen

/-- What is done goes through no handle of the topic, nor does it release the topic. -/
def Act.Spares (c : Configuration) (topic : SomeTopic) : Act → Prop
  | .make => True
  | .ask index _ outcome =>
    ¬(outcome = .ok (.released (some topic.topic.id)) ∧ c.world.Lists index topic)
  | .drop index => ¬c.world.Lists index topic
  | .use request => ∀ handle, request.handle? = some handle → handle.of.same topic = false

theorem Sound.has_held (hc : c.Sound) (hb : c.Has b) : b.topic.Held c.world.bus := by
  obtain ⟨handle, hhandle, rfl⟩ := hb
  exact (hc.held handle hhandle).of

theorem Sound.has_listed (hc : c.Sound) (hb : c.Has b) {index : Nat} {entry : SomeTopic}
    (hlists : c.world.Lists index entry) (hsame : entry.topic.storage = b.topic.storage) :
    entry = b := by
  obtain ⟨handle, hhandle, rfl⟩ := hb
  exact hc.listed handle hhandle index entry hlists hsame

theorem Step.storage_eq (h : Step c act c') (hc : c.Sound) (hb : c.Has b)
    (hspared : act.Spares c b)
    (hstorage : c.world.bus.storages[b.topic.storage]? = some storage) :
    c'.world.bus.storages[b.topic.storage]? = some storage := by
  cases h with
  | make vacant made => exact hstorage
  | @ask index registry there request log =>
      refine hc.world.ask_storage there request log hstorage ?_
      -- A topic that is released and has this storage is the one that was to be spared.
      intro id entry hreleased hget hsame
      have hlists : c.world.Lists index entry := ⟨registry, there, id, hget⟩
      obtain rfl := hc.has_listed hb hlists hsame
      have hid := (hc.world.coherent index registry there).directory.id_of_get? hget
      rw [← hid] at hreleased
      exact hspared ⟨hreleased, hlists⟩
  | @drop index registry there log =>
      have hcoherent := hc.world.coherent index registry there
      obtain ⟨counters, log', hexec⟩ := Registry.releaseAll_exec hcoherent log
      show (Registry.releaseAll.exec ⟨registry, c.world.bus⟩ log).1.2.bus.storages[_]? = _
      rw [hexec, Bus.getElem?_retireAll_of_ne, hstorage]
      intro entry hmem hsame
      have hlists : c.world.Lists index entry :=
        ⟨registry, there, hcoherent.directory.mem_entries_iff.mp hmem⟩
      obtain rfl := hc.has_listed hb hlists hsame
      exact hspared hlists
  | use request given log =>
      have halong := request.report_untouched c.world.bus log
      obtain ⟨storage', hstorage', huntouched⟩ := halong.storage _ storage hstorage
      rw [request.report_bus] at hstorage'
      rw [huntouched] at hstorage'
      · exact hstorage'
      · intro htouched
        obtain ⟨handle, hhandle, hplace⟩ := Bus.Request.handle_of_storage htouched.symm
        have hheld := (hc.held handle (given handle hhandle)).of
        have hsame := (SomeTopic.same_iff hheld (hc.has_held hb)).mpr hplace
        rw [hspared handle hhandle] at hsame
        cases hsame

theorem Step.seen_eq (h : Step c act c') (hc : c.Sound) {handle : Handle}
    (hhandle : handle ∈ c.handles) (hb : handle.of.same b = true) (hspared : act.Spares c b)
    {mark seen : Nat} (hmark : handle.mark? = some mark)
    (hseen : c.world.bus.seen[mark]? = some seen) : c'.world.bus.seen[mark]? = some seen := by
  cases h with
  | make vacant made => exact hseen
  | @ask index registry there request log =>
      exact (Bus.Step.ask c.world.bus log registry request).seen_same hseen rfl
  | @drop index registry there log =>
      exact (Bus.Step.drop c.world.bus log registry).seen_same hseen rfl
  | use request given log =>
      have hheld : request.Held c.world.bus :=
        Bus.Request.held_of_handle fun other hother => hc.held other (given other hother)
      have hstep := Bus.Step.call c.world.bus log request hheld
      rw [request.report_bus] at hstep
      refine hstep.seen_same hseen ?_
      cases request with
      | create kind spec | subscribe topic | provide memory => rfl
      | topic topic request | publisher publisher request => rfl
      | subscriber subscriber request =>
          refine decide_eq_false ?_
          rintro rfl
          obtain rfl := hc.marks handle hhandle _ (given _ rfl) subscriber.mark hmark rfl
          rw [hspared _ rfl] at hb
          cases hb

theorem Step.keeps (h : Step c act c') (hc : c.Sound) (hb : c.Has b) (hspared : act.Spares c b) :
    c.Keeps b c' := by
  constructor
  · obtain ⟨storage, hstorage⟩ := (hc.has_held hb).exists_storage
    exact ⟨storage, hstorage, h.storage_eq hc hb hspared hstorage⟩
  · intro handle hhandle hsame mark hmark
    have hlt := (hc.held handle hhandle).mark_lt hmark
    have hseen := Array.getElem?_eq_getElem hlt
    exact ⟨_, hseen, h.seen_eq hc hhandle hsame hspared hmark hseen⟩

abbrev Sparing (topic : SomeTopic) : Configuration → Configuration → Prop :=
  Relation.ReflTransGen fun c c' => ∃ act, Step c act c' ∧ act.Spares c topic

theorem Step.mem_handles (h : Step c act c') {handle : Handle} (hhandle : handle ∈ c.handles) :
    handle ∈ c'.handles := by
  cases h with
  | make | ask | drop | use => exact mem_goOn.mpr (.inl hhandle)

theorem Step.mem_of_asked {index : Nat} {request : Registry.Request} {entry : SomeTopic}
    (h : Step c (.ask index request (.ok (.topic entry))) c') : .topic entry ∈ c'.handles := by
  generalize hact : Act.ask index request (.ok (.topic entry)) = act at h
  cases h with
  | make | drop | use => cases hact
  | ask there request log =>
      obtain ⟨-, -, hanswer⟩ := Act.ask.inj hact
      refine mem_goOn.mpr (.inr ?_)
      rw [← hanswer]
      rfl

theorem Step.has (h : Step c act c') (hb : c.Has b) : c'.Has b := by
  obtain ⟨handle, hhandle, hof⟩ := hb
  exact ⟨handle, h.mem_handles hhandle, hof⟩

theorem Keeps.refl (hc : c.Sound) (hb : c.Has b) : c.Keeps b c := by
  constructor
  · obtain ⟨storage, hstorage⟩ := (hc.has_held hb).exists_storage
    exact ⟨storage, hstorage, hstorage⟩
  · intro handle hhandle _ mark hmark
    have hseen := Array.getElem?_eq_getElem ((hc.held handle hhandle).mark_lt hmark)
    exact ⟨_, hseen, hseen⟩

theorem Keeps.trans (h : c.Keeps b c') (hsub : ∀ handle ∈ c.handles, handle ∈ c'.handles)
    (h' : c'.Keeps b later) : c.Keeps b later := by
  constructor
  · obtain ⟨storage, hstorage, hbetween⟩ := h.storage
    obtain ⟨storage', hbetween', hstorage'⟩ := h'.storage
    obtain rfl := Option.some.inj (hbetween.symm.trans hbetween')
    exact ⟨storage, hstorage, hstorage'⟩
  · intro handle hhandle hsame mark hmark
    obtain ⟨seen, hseen, hbetween⟩ := h.seen handle hhandle hsame mark hmark
    obtain ⟨seen', hbetween', hseen'⟩ := h'.seen handle (hsub handle hhandle) hsame mark hmark
    obtain rfl := Option.some.inj (hbetween.symm.trans hbetween')
    exact ⟨seen, hseen, hseen'⟩

theorem Sparing.keeps (h : Sparing b c later) (hc : c.Sound) (hb : c.Has b) : c.Keeps b later := by
  -- The handles of the beginning are there all along, and the configurations stay sound.
  suffices hall : later.Sound ∧ (∀ handle ∈ c.handles, handle ∈ later.handles) ∧
      c.Keeps b later from hall.2.2
  induction h with
  | refl => exact ⟨hc, fun _ hhandle => hhandle, .refl hc hb⟩
  | tail _ hlast ih =>
      obtain ⟨hmiddle, hsub, hkept⟩ := ih
      obtain ⟨act, hstep, hspared⟩ := hlast
      obtain ⟨handle, hhandle, rfl⟩ := hb
      have hlasts := hstep.keeps hmiddle ⟨handle, hsub handle hhandle, rfl⟩ hspared
      exact ⟨hstep.sound hmiddle, fun _ h => hstep.mem_handles (hsub _ h), hkept.trans hsub hlasts⟩

theorem Keeps.told (h : c.Keeps b later) (hc : c.Sound) (hb : c.Has b) {request : Bus.Request}
    {handle : Handle} (hhandle : request.handle? = some handle) (hgiven : handle ∈ c.handles)
    (hsame : handle.of.same b = true) (log : Log) :
    (request.report.exec later.world.bus log).1.1 =
      (request.report.exec c.world.bus log).1.1 := by
  obtain ⟨storage, hstorage, hstorage'⟩ := h.storage
  have hplace := (SomeTopic.same_iff (hc.held handle hgiven).of (hc.has_held hb)).mp hsame
  rw [← hplace] at hstorage hstorage'
  exact Bus.Request.report_agrees hhandle hstorage hstorage' (h.seen handle hgiven hsame) log

/-- The topic is a new one: it begins with a blank storage, and it is none of those that were there,
which stay as they are. -/
structure Begins (before : Configuration) (topic : SomeTopic) (after : Configuration) : Prop where
  blank : ∃ storage, after.world.bus.storages[topic.topic.storage]? = some storage ∧
    storage.Blank
  apart : ∀ old, before.Has old → old.same topic = false ∧ before.Keeps old after

theorem Step.begins (h : Step c act c') (hc : c.Sound) (hspared : ∀ old, act.Spares c old)
    {entry : SomeTopic} (hnew : c'.Has entry)
    (hfresh : entry.topic.storage = c.world.bus.storages.size) {ring : Ring} {layout : Layout}
    {capacity : Nat} (hholds : ring.Holds { layout, capacity })
    (hring : c'.world.bus.storages[entry.topic.storage]? = some { ring }) :
    c.Begins entry c' := by
  refine ⟨⟨_, hring, Storage.blank_of_holds hholds⟩, fun old hold => ⟨?_, ?_⟩⟩
  · have hsound := h.sound hc
    rw [← Bool.not_eq_true, SomeTopic.same_iff (hsound.has_held (h.has hold))
      (hsound.has_held hnew), hfresh]
    obtain ⟨storage, hstorage⟩ := (hc.has_held hold).exists_storage
    exact Nat.ne_of_lt (Array.getElem?_eq_some_iff.mp hstorage).1
  · exact h.keeps hc hold (hspared old)

theorem Sound.ask_begins (hc : c.Sound) {index : Nat} {registry : Registry}
    (there : c.world.registries index = some registry) {request : Registry.Request}
    {spec : TopicSpec} {exact : Bool} (hasks : request.Asks registry.settings spec exact)
    (hunnamed : registry.directory.named? spec.name = none) {entry : SomeTopic}
    (h : Step c (.ask index request (.ok (.topic entry))) c') : c.Begins entry c' := by
  have hstep := h
  generalize hact : Act.ask index request (.ok (.topic entry)) = act at h
  cases h with
  | make | drop | use => cases hact
  | @ask index' registry' there' request' log =>
      obtain ⟨rfl, rfl, hanswer⟩ := Act.ask.inj hact
      obtain rfl := Option.some.inj (there.symm.trans there')
      have hcoherent := hc.world.coherent index registry there
      have hobtained := Registry.perform_obtained hcoherent hasks log
      have houtcome := hobtained.outcome
      rw [← hanswer] at houtcome
      generalize hresult : ((Registry.perform request).exec ⟨registry, c.world.bus⟩ log).1.2 =
        after at houtcome
      cases houtcome with
      | found hvalid hnamed =>
          rw [show registry.directory.named? spec.name = _ from hnamed] at hunnamed
          cases hunnamed
      | @created topic after hvalid hnamed hcreated =>
          obtain ⟨layout, ring, -, -, hholds, hbus⟩ := hcreated.bus_eq
          have hring : (c.world.ask index registry request log).bus.storages[topic.storage]? =
              some { ring } := by
            show ((Registry.perform request).exec
              ⟨registry, c.world.bus⟩ log).1.2.bus.storages[topic.storage]? = _
            rw [hresult, hbus, hcreated.storage_fresh]
            exact Array.getElem?_push_size
          exact hstep.begins hc (fun _ => by rintro ⟨⟨⟩, -⟩) ⟨_, hstep.mem_of_asked, rfl⟩
            hcreated.storage_fresh hholds hring

theorem Sound.create_begins (hc : c.Sound) {kind : Kind} {spec : TopicSpec} {entry : SomeTopic}
    (h : Step c (.use (.create kind spec)) c') (hnew : .topic entry ∈ c'.handles)
    (hold : .topic entry ∉ c.handles) : c.Begins entry c' := by
  have hstep := h
  cases h with
  | use request given log =>
      obtain ⟨ring, hmakes, hentry, hbus⟩ :=
        create_brings ((mem_goOn.mp hnew).resolve_left hold)
      cases hentry
      refine hstep.begins hc (fun _ => by rintro _ ⟨⟩) ⟨_, hnew, rfl⟩ rfl
        (Ring.create_holds hmakes.ring_eq) ?_
      show (c.world.use (.create kind spec) log).bus.storages[_]? = _
      rw [hbus]
      exact Array.getElem?_push_size

/-- Whatever is done to one topic leaves the other one as it is. -/
structure Isolated (c : Configuration) (a b : SomeTopic) : Prop where
  use : ∀ request handle c', request.handle? = some handle → handle.of.same a = true →
    Step c (.use request) c' → c.Keeps b c'
  release : ∀ index request c', c.world.Lists index a →
    Step c (.ask index request (.ok (.released (some a.topic.id)))) c' → c.Keeps b c'
  drop : ∀ index c', c.world.Lists index a → ¬c.world.Lists index b →
    Step c (.drop index) c' → c.Keeps b c'

theorem Sound.isolated (hc : c.Sound) (ha : c.Has a) (hb : c.Has b) (hother : a.same b = false) :
    c.Isolated a b := by
  have hne : a.topic.storage ≠ b.topic.storage := by
    intro hsame
    rw [(SomeTopic.same_iff (hc.has_held ha) (hc.has_held hb)).mpr hsame] at hother
    cases hother
  refine ⟨?_, ?_, ?_⟩
  · intro request handle c' hhandle hsame hstep
    refine hstep.keeps hc hb ?_
    cases hstep with
    | use request given log =>
        intro other hother
        obtain rfl := Option.some.inj (hhandle.symm.trans hother)
        have hheld := (hc.held handle (given handle hhandle)).of
        rw [← Bool.not_eq_true, SomeTopic.same_iff hheld (hc.has_held hb),
          (SomeTopic.same_iff hheld (hc.has_held ha)).mp hsame]
        exact hne
  · rintro index request c' ⟨registry, there, id, hget⟩ hstep
    refine hstep.keeps hc hb ?_
    rintro ⟨hreleased, registry', there', id', hget'⟩
    obtain rfl := Option.some.inj (there.symm.trans there')
    have hdirectory := (hc.world.coherent index registry there).directory
    have hid : a.topic.id = b.topic.id := by
      simpa only [Except.ok.injEq, Registry.Reply.released.injEq, Option.some.injEq]
        using hreleased
    rw [hdirectory.id_of_get? hget, hdirectory.id_of_get? hget'] at hid
    rw [hid, hget'] at hget
    exact hne (congrArg (·.topic.storage) (Option.some.inj hget).symm)
  · intro index c' _ hunlisted hstep
    exact hstep.keeps hc hb hunlisted

/-- In every configuration that is reached, whatever is asked through handles of one topic, and its
release, leaves every other topic as it is; so does any run of steps that go through no handle of a
topic and do not release it, so that its users are told the same before and after. A topic that is
made under a name that no topic of the registry goes by, or beside all registries, begins with a
blank storage, and all topics that there were stay as they are. -/
theorem topics_isolated (hrun : Run {} c) :
    (∀ a b, c.Has a → c.Has b → a.same b = false → c.Isolated a b) ∧
    (∀ b later, c.Has b → Sparing b c later → c.Keeps b later ∧
      ∀ request handle, Bus.Request.handle? request = some handle → handle ∈ c.handles →
        handle.of.same b = true → ∀ log, (request.report.exec later.world.bus log).1.1 =
          (request.report.exec c.world.bus log).1.1) ∧
    (∀ index registry, c.world.registries index = some registry → ∀ request spec exact,
      Registry.Request.Asks registry.settings request spec exact →
      registry.directory.named? spec.name = none → ∀ entry c',
      Step c (.ask index request (.ok (.topic entry))) c' → c.Begins entry c') ∧
    ∀ kind spec entry c', Step c (.use (.create kind spec)) c' → .topic entry ∈ c'.handles →
      .topic entry ∉ c.handles → c.Begins entry c' := by
  have hc := hrun.sound sound_empty
  refine ⟨fun a b ha hb hother => hc.isolated ha hb hother, ?_, ?_, ?_⟩
  · intro b later hb hsparing
    have hkept := hsparing.keeps hc hb
    exact ⟨hkept, fun request handle hhandle hgiven hsame => hkept.told hc hb hhandle hgiven hsame⟩
  · intro index registry there request spec exact hasks hunnamed entry c' hstep
    exact hc.ask_begins there hasks hunnamed hstep
  · intro kind spec entry c' hstep hnew hold
    exact hc.create_begins hstep hnew hold

/-- Two registries have a topic of one name and one identity each. One of the two is published on,
released and made anew. -/
theorem topics_isolated_renewed :
    ∃ (c c' : Configuration) (old other new : SomeTopic), Run {} c ∧ Run {} c' ∧
      old.topic.name = other.topic.name ∧ old.topic.id = other.topic.id ∧ c.Isolated old other ∧
      old.topic.name = new.topic.name ∧ c.Begins new c' ∧ c'.Isolated new old := by
  let get : Registry.Request := .obtainByte "a" 1
  let old : Topic .byte := ⟨"a", ⟨0, 1⟩, 0⟩
  let other : Topic .byte := ⟨"a", ⟨0, 1⟩, 1⟩
  let new : Topic .byte := ⟨"a", ⟨0, 2⟩, 2⟩
  let answer (c : Configuration) (registry : Registry) (request : Registry.Request) :=
    ((Registry.perform request).exec ⟨registry, c.world.bus⟩ #[]).1
  let made : Configuration := Configuration.goOn {} (World.put {} 0 (some {}) {}) none
  let both : Configuration := made.goOn (made.world.put 1 (some {}) made.world.bus) none
  let first := both.asked 0 {} get #[]
  let second := first.asked 1 {} get #[]
  let published := second.used (.topic old (.publish [7])) #[]
  let release : Registry.Request := .release ⟨0, 1⟩
  let registry := (answer both {} get).2.registry
  let c := published.asked 0 registry release #[]
  let registry' := (answer published registry release).2.registry
  let c' := c.asked 0 registry' get #[]
  have hask {c : Configuration} {index : Nat} {registry : Registry} {request : Registry.Request}
      {outcome : Except Failure Registry.Reply}
      (there : c.world.registries index = some registry)
      (h : (answer c registry request).1 = outcome) :
      Step c (.ask index request outcome) (c.asked index registry request #[]) :=
    h ▸ .ask c there request #[]
  have hmade : Step {} .make made := .make {} rfl (rfl : Registry.create {} = .ok {})
  have hboth : Step made .make both := .make made rfl (rfl : Registry.create {} = .ok {})
  have hfirst : Step both (.ask 0 get (.ok (.topic ⟨.byte, old⟩))) first :=
    hask rfl (Handle.answers_of_ofKind? (by decide +kernel))
  have hsecond : Step first (.ask 1 get (.ok (.topic ⟨.byte, other⟩))) second :=
    hask rfl (Handle.answers_of_ofKind? (by decide +kernel))
  have hkept : published.world.registries 0 = some registry := by
    show (first.asked 1 {} get #[]).world.registries 0 = _
    rw [registries_asked_of_ne _ (by decide)]
    exact registries_asked both 0 {} get #[]
  have hpublished : Step second (.use (.topic old (.publish [7]))) published := by
    refine .use second _ ?_ #[]
    rintro handle ⟨⟩
    exact hsecond.mem_handles hfirst.mem_of_asked
  have hc := Step.ask published hkept release #[]
  have hnow : c.world.registries 0 = some registry' := by
    show (published.asked 0 registry release #[]).world.registries 0 = _
    rw [registries_asked]
  have hc' : Step c (.ask 0 get (.ok (.topic ⟨.byte, new⟩))) c' :=
    hask hnow (Handle.answers_of_ofKind? (by decide +kernel))
  have hunnamed : (registry'.directory.named? "a").isNone = true := by decide +kernel
  have hrun : Run {} c :=
    Relation.ReflTransGen.refl.tail ⟨_, hmade⟩ |>.tail ⟨_, hboth⟩ |>.tail ⟨_, hfirst⟩
      |>.tail ⟨_, hsecond⟩ |>.tail ⟨_, hpublished⟩ |>.tail ⟨_, hc⟩
  have hrun' : Run {} c' := hrun.tail ⟨_, hc'⟩
  have hold' : c.Has ⟨.byte, old⟩ :=
    hc.has (hpublished.has (hsecond.has ⟨_, hfirst.mem_of_asked, rfl⟩))
  have hother' : c.Has ⟨.byte, other⟩ := hc.has (hpublished.has ⟨_, hsecond.mem_of_asked, rfl⟩)
  have hasks : get.Asks registry'.settings ⟨"a", .byte, 1, registry'.settings.payloadBound⟩ false :=
    .byte "a" 1
  clear_value c c' registry'
  obtain ⟨hisolated, -, hbegins, -⟩ := topics_isolated hrun
  obtain ⟨hisolated', -⟩ := topics_isolated hrun'
  have hnamed := Option.isNone_iff_eq_none.mp hunnamed
  exact ⟨c, c', ⟨.byte, old⟩, ⟨.byte, other⟩, ⟨.byte, new⟩, hrun, hrun', rfl, rfl,
    hisolated _ _ hold' hother' (by decide), rfl,
    hbegins 0 registry' hnow get _ false hasks hnamed _ _ hc',
    hisolated' _ _ ⟨_, hc'.mem_of_asked, rfl⟩ (hc'.has hold') (by decide)⟩

end Configuration

end TopicBus
