import TopicBus.Proofs.Boundary.Trace
import TopicBus.Proofs.World.Run

/-!
Registries of C callers in worlds. Whatever callers do with a registry, some world brings a registry
and its bus to the same point, so that what holds in every world holds for C callers as well.
-/

namespace TopicBus

open Op

namespace Session

/-- Registry and bus as a world has them that was reached. -/
def Reached (session : Session) : Prop :=
  ∃ world, World.Run {} world ∧ world.registries 0 = some session.registry ∧
    world.bus = session.bus

structure Hosted (session : Session) : Prop where
  sound : session.Sound
  fitting : session.Fitting
  reached : session.Reached

variable {session after : Session}

theorem Reached.ask (h : session.Reached) (request : Registry.Request) (log : Log) :
    ((Registry.perform request).exec session log).1.2.Reached := by
  obtain ⟨world, hrun, there, hbus⟩ := h
  have hstep := hrun.tail (.ask world there request log)
  simp only [World.ask, hbus] at hstep
  exact ⟨_, hstep, world.registries_put .., rfl⟩

theorem Reached.use (h : session.Reached) {request : Bus.Request} (held : request.Held session.bus)
    (log : Log) : Reached { session with bus := (request.perform.exec session.bus log).1.2 } := by
  obtain ⟨world, hrun, there, hbus⟩ := h
  rw [← hbus] at held ⊢
  exact ⟨_, hrun.tail (.use world request held log), there, rfl⟩

theorem Reached.live (h : session.Reached) {entry : SomeTopic}
    (hlists : session.registry.directory.Lists entry) :
    ∃ storage, session.bus.storages[entry.topic.storage]? = some storage ∧
      storage.released = false := by
  obtain ⟨world, hrun, there, hbus⟩ := h
  rw [← hbus]
  exact (World.Run.sound hrun World.sound_empty).live 0 entry ⟨session.registry, there, hlists⟩

end Session

namespace Call

variable {session after : Session}

theorem newRegistry_hosted : newRegistry.Hosted where
  sound := Registry.create_sound (rfl : Registry.create {} = .ok newRegistry.registry)
  fitting := by rintro id entry ⟨⟩
  reached := ⟨World.put {} 0 (some newRegistry.registry) {},
    .single (.make {} rfl (rfl : Registry.create {} = .ok newRegistry.registry)),
    World.registries_put .., rfl⟩

theorem Direct.perform_reached (h : session.Hosted) {direct : Direct} (hdirect : direct ≠ .drop)
    (log : Log) : (direct.perform.exec session log).1.2.Reached := by
  have hacts := direct.perform_acts h.sound hdirect log
  generalize (direct.perform.exec session log).1 = result at hacts ⊢
  obtain ⟨outcome, after⟩ := result
  cases hacts with
  | still whole => exact h.reached
  | ask request breaks releases => exact h.reached.ask request log
  | @use kind id topic listed request breaks offers =>
      have hheld : (Bus.Request.topic topic request).Held session.bus :=
        h.fitting id ⟨kind, topic⟩ listed
      have huse := h.reached.use hheld log
      rw [← Bus.Request.report_toReceipt, exec_map] at huse
      exact huse

theorem serve_hosted (h : session.Hosted) {request : Request} (lent : request.Lent) (log : Log)
    (hafter : (serve request (some session) log).1.2 = some after) : after.Hosted := by
  refine ⟨serve_sound h.sound lent log hafter,
    (serve_traced h.sound h.fitting lent log hafter).2, ?_⟩
  rcases serve_leaves h.sound lent log hafter with rfl | ⟨direct, -, hdirect, rfl⟩
  · exact h.reached
  · exact direct.perform_reached h hdirect log

theorem provided_hosted (h : session.Hosted) (memory : Nat) : (provided session memory).Hosted where
  sound := provided_sound h.sound memory
  fitting := h.fitting
  reached := by
    have held : (Bus.Request.provide memory).Held session.bus := trivial
    exact h.reached.use held #[]

theorem serve_continues (h : session.Sound) {request : Request} (hdestroy : request ≠ .destroy)
    (log : Log) :
    (serve request (some session) log).1.2 = some (request.decoded.exec session log).1.2 := by
  obtain ⟨answer, -, hserve⟩ := serve_images h request log
  have hleaves : request.leaves = some := by
    cases request with
    | destroy => exact absurd rfl hdestroy
    | _ => rfl
  rw [hserve, hleaves]

namespace Heap

variable {before after heap : Heap}

def Hosted (heap : Heap) : Prop := ∀ address session, heap address = some session → session.Hosted

theorem Step.hosted (h : Step before after) (hb : before.Hosted) : after.Hosted := by
  cases h with
  | @create address vacant =>
      refine forall_update hb address ?_
      rintro session ⟨⟩
      exact newRegistry_hosted
  | @call address session there request lent log =>
      exact forall_update hb address fun _ hafter => serve_hosted (hb _ _ there) lent log hafter
  | @provide address session there memory =>
      refine forall_update hb address ?_
      rintro after ⟨⟩
      exact provided_hosted (hb _ _ there) memory

theorem Run.hosted (h : Run (fun _ => none) heap) : heap.Hosted := by
  induction h with
  | refl => rintro address session ⟨⟩
  | tail _ step ih => exact step.hosted ih

def Reaches (session : Session) : Prop := ∃ heap, Run (fun _ => none) heap ∧ heap 0 = some session

theorem reaches_new : Reaches newRegistry :=
  ⟨_, .single (.create _ rfl), Function.update_self ..⟩

theorem Reaches.call (h : Reaches session) (request : Request) (lent : request.Lent)
    (hdestroy : request ≠ .destroy) (log : Log) :
    Reaches (request.decoded.exec session log).1.2 := by
  obtain ⟨heap, hrun, there⟩ := h
  refine ⟨_, hrun.tail (.call heap there lent log), ?_⟩
  rw [Function.update_self]
  exact serve_continues (hrun.hosted 0 session there).sound hdestroy log

end Heap

end Call

end TopicBus
