import TopicBus.Proofs.Bus.Seen
import TopicBus.Proofs.Session.Trace
import TopicBus.Proofs.World.Release
import TopicBus.Proofs.World.Unbroken

/-!
Handles as users come by them: registries answer with topics, topics are made beside all registries,
and subscribers are made of topics. Every call goes through a handle that was given out before. A
handle once given out stays in use, no registry lists its storage under another handle, and each
subscriber has a mark of its own.
-/

namespace TopicBus

open Op

variable {kind : Kind} {before after : Bus} {events : List Bus.Event} {bus : Bus} {log : Log}

def SomeTopic.same (a b : SomeTopic) : Bool :=
  match a.ofKind? b.kind with
  | some topic => topic.sharesStorage b.topic
  | none => false

inductive Handle
  | topic (entry : SomeTopic)
  | subscriber {kind : Kind} (reader : Subscriber kind)

namespace Handle

def of : Handle → SomeTopic
  | topic entry => entry
  | subscriber reader => ⟨_, reader.topic⟩

def mark? : Handle → Option Nat
  | topic _ => none
  | subscriber reader => some reader.mark

def Held : Handle → Bus → Prop
  | topic entry, bus => entry.topic.Held bus
  | subscriber reader, bus => reader.Held bus

variable {handle : Handle}

theorem Held.of (h : handle.Held bus) : handle.of.topic.Held bus := by
  cases handle with
  | topic entry => exact h
  | subscriber reader => exact h.1

theorem Held.mark_lt (h : handle.Held bus) {mark : Nat} (hmark : handle.mark? = some mark) :
    mark < bus.seen.size := by
  cases handle with
  | topic entry => cases hmark
  | subscriber reader =>
      cases hmark
      exact h.2

end Handle

theorem SomeTopic.same_iff {a b : SomeTopic} (ha : a.topic.Held bus) (hb : b.topic.Held bus) :
    a.same b = true ↔ a.topic.storage = b.topic.storage := by
  obtain ⟨kind, topic⟩ := a
  obtain ⟨kind', topic'⟩ := b
  by_cases hkind : kind = kind'
  · subst hkind
    simp only [same, SomeTopic.ofKind?_self, Topic.sharesStorage, beq_iff_eq]
  · have hother : (SomeTopic.mk kind topic).ofKind? kind' = none := dif_neg hkind
    simp only [same, hother, Bool.false_eq_true, false_iff]
    intro hsame
    obtain ⟨storage, hstorage⟩ := ha.exists_storage
    have hstorage' : bus.storages[topic'.storage]? = some storage := hsame ▸ hstorage
    exact hkind ((ha.kind_eq hstorage).symm.trans (hb.kind_eq hstorage'))

theorem Bus.Step.seen_le {event : Bus.Event} (h : Bus.Step before event after) :
    before.seen.size ≤ after.seen.size := by
  cases event with
  | registry => rw [h.seen_kept]
  | call request outcome =>
      obtain ⟨log, _, held⟩ := h
      exact (request.report_untouched before log).seen_le

theorem Bus.Run.seen_le (h : Bus.Run before events after) :
    before.seen.size ≤ after.seen.size := by
  induction h with
  | nil => exact Nat.le_refl _
  | snoc run step ih => exact ih.trans step.seen_le

theorem Handle.Held.run {handle : Handle} (h : handle.Held before) (hsound : before.Sound)
    (hrun : Bus.Run before events after) : handle.Held after := by
  cases handle with
  | topic entry => exact Topic.Held.run h hsound hrun
  | subscriber reader => exact ⟨h.1.run hsound hrun, h.2.trans_le hrun.seen_le⟩

theorem World.Step.bus_run {world world' : World} (h : World.Step world world') :
    ∃ events, Bus.Run world.bus events world'.bus := by
  cases h with
  | make vacant made => exact ⟨[], .nil _⟩
  | ask there request log => exact ⟨_, (Bus.Run.nil _).snoc (.ask _ log _ request)⟩
  | drop there log => exact ⟨_, (Bus.Run.nil _).snoc (.drop _ log _)⟩
  | use request held log =>
      unfold World.use
      rw [← request.report_bus]
      exact ⟨_, (Bus.Run.nil _).snoc (.call _ log request held)⟩

def World.Fitting (world : World) : Prop :=
  ∀ index registry, world.registries index = some registry →
    Session.Fitting ⟨registry, world.bus⟩

theorem World.Fitting.held {world : World} (h : world.Fitting) {index : Nat} {entry : SomeTopic}
    (hlists : world.Lists index entry) : entry.topic.Held world.bus := by
  obtain ⟨registry, there, id, hget⟩ := hlists
  exact h index registry there id entry hget

theorem World.Step.fitting {world world' : World} (h : World.Step world world')
    (hsound : world.Sound) (hbus : world.bus.Sound) (hfit : world.Fitting) : world'.Fitting := by
  obtain ⟨events, hrun⟩ := h.bus_run
  intro index registry there
  cases h.origin there with
  | kept hold =>
      exact fun id entry hget => (hfit index registry hold id entry hget).run hbus hrun
  | made made =>
      obtain ⟨-, rfl⟩ := Registry.create_eq_ok made
      rintro id entry ⟨⟩
  | asked hold request log hafter =>
      have hcoherent := hsound.coherent index _ hold
      have heffect := Registry.perform_effect hcoherent request log
      rw [hafter] at heffect
      exact ((hfit index _ hold).effect ⟨hcoherent, hbus⟩ hrun heffect).2

def Handle.ofReply? : Except Failure Registry.Reply → Option Handle
  | .ok (.topic entry) => some (.topic entry)
  | _ => none

theorem Handle.ofReply?_eq_some {outcome : Except Failure Registry.Reply} {handle : Handle}
    (h : ofReply? outcome = some handle) :
    ∃ entry, outcome = .ok (.topic entry) ∧ handle = .topic entry := by
  rcases outcome with failure | (entry | found | id) <;> cases h
  exact ⟨entry, rfl, rfl⟩

theorem Handle.answers_of_ofKind? {outcome : Except Failure Registry.Reply} {topic : Topic kind}
    (h : (ofReply? outcome).bind (fun handle => handle.of.ofKind? kind) = some topic) :
    outcome = .ok (.topic ⟨kind, topic⟩) := by
  obtain ⟨handle, hbrought, htopic⟩ := Option.bind_eq_some_iff.mp h
  obtain ⟨entry, rfl, rfl⟩ := ofReply?_eq_some hbrought
  rw [← SomeTopic.eq_of_ofKind? htopic]
  rfl

namespace Bus.Request

def handle? : Bus.Request → Option Handle
  | create _ _ | provide _ => none
  | subscribe handle | topic handle _ => some (.topic ⟨_, handle⟩)
  | publisher handle _ => some (.topic ⟨_, handle.topic⟩)
  | subscriber handle _ => some (.subscriber handle)

def brings? (bus : Bus) (log : Log) : Bus.Request → Option Handle
  | create kind spec =>
    ((Topic.detached kind spec).exec bus log).1.1.toOption.map fun topic => .topic ⟨kind, topic⟩
  | subscribe handle =>
    ((Subscriber.create handle).exec bus log).1.1.toOption.map Handle.subscriber
  | _ => none

theorem held_of_handle {request : Bus.Request}
    (h : ∀ handle, request.handle? = some handle → handle.Held bus) : request.Held bus := by
  cases request with
  | create kind spec | provide memory => trivial
  | subscribe handle => exact h _ rfl
  | topic handle request | publisher handle request | subscriber handle request => exact h _ rfl

theorem handle_of_storage {request : Bus.Request} {index : Nat}
    (h : request.storage? = some index) :
    ∃ handle, request.handle? = some handle ∧ handle.of.topic.storage = index := by
  cases request with
  | create kind spec | subscribe handle | provide memory => cases h
  | topic handle request | publisher handle request | subscriber handle request =>
      exact ⟨_, rfl, Option.some.inj h⟩

end Bus.Request

/-- A world, and the handles that were given out in it. -/
structure Configuration where
  world : World := {}
  handles : List Handle := []

namespace Configuration

/-- What users or the owners of registries do, and what a registry answers. -/
inductive Act
  | make
  | ask (index : Nat) (request : Registry.Request) (outcome : Except Failure Registry.Reply)
  | drop (index : Nat)
  | use (request : Bus.Request)

def goOn (c : Configuration) (world : World) (brought : Option Handle) : Configuration :=
  ⟨world, c.handles ++ brought.toList⟩

def asked (c : Configuration) (index : Nat) (registry : Registry) (request : Registry.Request)
    (log : Log) : Configuration :=
  c.goOn (c.world.ask index registry request log)
    (Handle.ofReply? ((Registry.perform request).exec ⟨registry, c.world.bus⟩ log).1.1)

def used (c : Configuration) (request : Bus.Request) (log : Log) : Configuration :=
  c.goOn (c.world.use request log) (request.brings? c.world.bus log)

inductive Step : Configuration → Act → Configuration → Prop
  | make (c : Configuration) {index : Nat} (vacant : c.world.registries index = none)
      {settings : RegistrySettings} {registry : Registry}
      (made : Registry.create settings = .ok registry) :
      Step c .make (c.goOn (c.world.put index (some registry) c.world.bus) none)
  | ask (c : Configuration) {index : Nat} {registry : Registry}
      (there : c.world.registries index = some registry) (request : Registry.Request) (log : Log) :
      Step c (.ask index request ((Registry.perform request).exec ⟨registry, c.world.bus⟩ log).1.1)
        (c.asked index registry request log)
  | drop (c : Configuration) {index : Nat} {registry : Registry}
      (there : c.world.registries index = some registry) (log : Log) :
      Step c (.drop index) (c.goOn (c.world.drop index registry log) none)
  | use (c : Configuration) (request : Bus.Request)
      (given : ∀ handle, request.handle? = some handle → handle ∈ c.handles) (log : Log) :
      Step c (.use request) (c.used request log)

theorem registries_asked (c : Configuration) (index : Nat) (registry : Registry)
    (request : Registry.Request) (log : Log) :
    (c.asked index registry request log).world.registries index =
      some ((Registry.perform request).exec ⟨registry, c.world.bus⟩ log).1.2.registry :=
  World.registries_put ..

theorem registries_asked_of_ne (c : Configuration) {index other : Nat} (h : other ≠ index)
    (registry : Registry) (request : Registry.Request) (log : Log) :
    (c.asked index registry request log).world.registries other = c.world.registries other :=
  Function.update_of_ne h ..

abbrev Run : Configuration → Configuration → Prop :=
  Relation.ReflTransGen fun c c' => ∃ act, Step c act c'

def Has (c : Configuration) (topic : SomeTopic) : Prop := ∃ handle ∈ c.handles, handle.of = topic

variable {c c' : Configuration} {act : Act} {handle : Handle} {world : World}
  {brought : Option Handle}

theorem mem_goOn : handle ∈ (c.goOn world brought).handles ↔
    handle ∈ c.handles ∨ brought = some handle := by
  simp [goOn]

/-- The world is sound; the handles are in use, no registry lists a storage of theirs under another
one, and no two share a mark. -/
structure Sound (c : Configuration) : Prop where
  world : c.world.Sound
  bus : c.world.bus.Sound
  fitting : c.world.Fitting
  held : ∀ handle ∈ c.handles, handle.Held c.world.bus
  listed : ∀ handle ∈ c.handles, ∀ index entry, c.world.Lists index entry →
    entry.topic.storage = handle.of.topic.storage → entry = handle.of
  marks : ∀ a ∈ c.handles, ∀ b ∈ c.handles, ∀ mark, a.mark? = some mark → b.mark? = some mark →
    a = b

theorem sound_empty : Sound {} where
  world := World.sound_empty
  bus := Bus.sound_empty
  fitting := by rintro _ _ ⟨⟩
  held := by rintro _ ⟨⟩
  listed := by rintro _ ⟨⟩
  marks := by rintro _ ⟨⟩

theorem Step.world_step (h : Step c act c') (hc : c.Sound) : World.Step c.world c'.world := by
  cases h with
  | make vacant made => exact .make c.world vacant made
  | ask there request log => exact .ask c.world there request log
  | drop there log => exact .drop c.world there log
  | use request given log =>
      have hheld : request.Held c.world.bus :=
        Bus.Request.held_of_handle fun handle hhandle => hc.held handle (given handle hhandle)
      exact .use c.world request hheld log

/-- A handle as it may be given out on the way to a world. -/
structure Fresh (c : Configuration) (world : World) (handle : Handle) : Prop where
  held : handle.Held world.bus
  listed : ∀ index entry, world.Lists index entry →
    entry.topic.storage = handle.of.topic.storage → entry = handle.of
  mark : ∀ mark, handle.mark? = some mark → c.world.bus.seen.size ≤ mark

theorem Sound.listed_step (hc : c.Sound) (hstep : World.Step c.world world)
    (hhandle : handle ∈ c.handles) {index : Nat} {entry : SomeTopic}
    (hlists : world.Lists index entry) (hsame : entry.topic.storage = handle.of.topic.storage) :
    entry = handle.of := by
  by_cases hbefore : c.world.Lists index entry
  · exact hc.listed handle hhandle index entry hbefore hsame
  · -- What is listed anew has a storage that no handle can have.
    have hnew := (hstep.change hc.world).onward.fresh index entry hlists hbefore
    obtain ⟨storage, hstorage⟩ := (hc.held handle hhandle).of.exists_storage
    obtain ⟨hlt, -⟩ := Array.getElem?_eq_some_iff.mp hstorage
    omega

theorem Sound.goOn (hc : c.Sound) (hstep : World.Step c.world world)
    (hbrought : ∀ handle, brought = some handle → c.Fresh world handle) :
    (c.goOn world brought).Sound := by
  obtain ⟨events, hrun⟩ := hstep.bus_run
  refine ⟨hstep.sound hc.world, hstep.sound_bus hc.world hc.bus,
    hstep.fitting hc.world hc.bus hc.fitting, ?_, ?_, ?_⟩
  · intro handle hhandle
    rcases mem_goOn.mp hhandle with hold | hnew
    · exact (hc.held handle hold).run hc.bus hrun
    · exact (hbrought handle hnew).held
  · intro handle hhandle index entry hlists hsame
    rcases mem_goOn.mp hhandle with hold | hnew
    · exact hc.listed_step hstep hold hlists hsame
    · exact (hbrought handle hnew).listed index entry hlists hsame
  · intro a ha b hb mark hmarka hmarkb
    rcases mem_goOn.mp ha with holda | hnewa <;> rcases mem_goOn.mp hb with holdb | hnewb
    · exact hc.marks a holda b holdb mark hmarka hmarkb
    · have hlt := (hc.held a holda).mark_lt hmarka
      have hle := (hbrought b hnewb).mark mark hmarkb
      omega
    · have hlt := (hc.held b holdb).mark_lt hmarkb
      have hle := (hbrought a hnewa).mark mark hmarka
      omega
    · exact Option.some.inj (hnewa.symm.trans hnewb)

theorem Sound.ask_fresh (hc : c.Sound) {index : Nat} {registry : Registry}
    (there : c.world.registries index = some registry) (request : Registry.Request) (log : Log)
    (hbrought : Handle.ofReply?
      ((Registry.perform request).exec ⟨registry, c.world.bus⟩ log).1.1 = some handle) :
    c.Fresh (c.world.ask index registry request log) handle := by
  have hstep : World.Step c.world (c.world.ask index registry request log) :=
    .ask c.world there request log
  have hsound := hstep.sound hc.world
  have hfit := hstep.fitting hc.world hc.bus hc.fitting
  obtain ⟨topic, hanswer, rfl⟩ := Handle.ofReply?_eq_some hbrought
  have hlists := World.ask_lists hc.world there hanswer
  refine ⟨hfit.held hlists, ?_, by rintro _ ⟨⟩⟩
  intro other entry hother hsame
  exact (hsound.apart other index entry topic hother hlists hsame).2

theorem create_brings {kind : Kind} {spec : TopicSpec}
    (h : (Bus.Request.create kind spec).brings? world.bus log = some handle) :
    ∃ ring, spec.Makes world.bus.memory kind ring ∧
      handle = .topic ⟨kind, ⟨spec.name, .detached, world.bus.storages.size⟩⟩ ∧
      (world.use (.create kind spec) log).bus =
        { world.bus with storages := world.bus.storages.push { ring } } := by
  obtain ⟨topic, htopic, rfl⟩ := Option.map_eq_some_iff.mp h
  unfold Topic.detached at htopic
  rcases Topic.ofSpec_cases kind spec world.bus with ⟨ring, hmakes⟩ | ⟨reason, hfails⟩
  · have hexec := Topic.ofSpec_exec hmakes .detached log
    rw [hexec] at htopic
    cases htopic
    refine ⟨ring, hmakes, rfl, ?_⟩
    simp only [World.use, Bus.Request.perform, Topic.detached, ← map_eq_pure_bind, exec_map, hexec]
  · rw [hfails] at htopic
    cases htopic

theorem Sound.create_fresh (hc : c.Sound) {kind : Kind} {spec : TopicSpec} (log : Log)
    (hbrought : (Bus.Request.create kind spec).brings? c.world.bus log = some handle) :
    c.Fresh (c.world.use (.create kind spec) log) handle := by
  obtain ⟨ring, hmakes, rfl, hbus⟩ := create_brings hbrought
  refine ⟨?_, ?_, by rintro _ ⟨⟩⟩
  · rw [hbus]
    exact Topic.Held.of_layout Array.getElem?_push_size (Layout.create_eq_ok hmakes.layout_eq).1
  · intro index entry hlists hsame
    exact absurd hsame (Nat.ne_of_lt (hc.world.storage_lt hlists))

theorem Sound.use_fresh (hc : c.Sound) {request : Bus.Request}
    (given : ∀ handle, request.handle? = some handle → handle ∈ c.handles) (log : Log)
    (hbrought : request.brings? c.world.bus log = some handle) :
    c.Fresh (c.world.use request log) handle := by
  cases request with
  | provide memory | topic topic request | publisher topic request | subscriber topic request =>
      cases hbrought
  | create kind spec => exact hc.create_fresh log hbrought
  | @subscribe kind topic =>
      cases hbrought
      have hgiven := given (.topic ⟨kind, topic⟩) rfl
      refine ⟨⟨hc.held _ hgiven, ?_⟩, ?_, ?_⟩
      · show c.world.bus.seen.size < (c.world.bus.seen.push 0).size
        rw [Array.size_push]
        exact Nat.lt_succ_self _
      · exact fun index entry hlists hsame => hc.listed _ hgiven index entry hlists hsame
      · rintro mark ⟨⟩
        exact Nat.le_refl _

theorem Step.sound (h : Step c act c') (hc : c.Sound) : c'.Sound := by
  have hstep := h.world_step hc
  cases h with
  | make vacant made | drop there log => exact hc.goOn hstep (by rintro _ ⟨⟩)
  | ask there request log => exact hc.goOn hstep fun _ => hc.ask_fresh there request log
  | use request given log => exact hc.goOn hstep fun _ => hc.use_fresh given log

theorem Run.sound (h : Run c c') (hc : c.Sound) : c'.Sound := by
  induction h with
  | refl => exact hc
  | tail _ step ih =>
      obtain ⟨act, hact⟩ := step
      exact hact.sound ih

end Configuration

end TopicBus
