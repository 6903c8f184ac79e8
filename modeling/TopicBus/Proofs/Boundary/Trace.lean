import TopicBus.Proofs.Boundary.Run
import TopicBus.Proofs.Session.Trace

namespace TopicBus

open Op

variable {kind : Kind} {session after : Session} {id : TopicId} {α : Type} {log : Log}

theorem Topic.publish_report {topic : Topic kind} {bus : Bus} {storage : Storage}
    (hstorage : bus.storages[topic.storage]? = some storage) (payload : Bytes) (log : Log) :
    ((topic.publish payload).exec bus log).1.2 =
        ((topic.report (.publish payload)).exec bus log).1.2 ∧
      isFault ((topic.publish payload).exec bus log).1.1 =
        isFault ((topic.report (.publish payload)).exec bus log).1.1 := by
  rw [topic.report_exec hstorage, publish, topic.access_exec hstorage, topic.access_exec hstorage]
  simp only [Storage.report, ← map_eq_pure_bind, exec_map, Storage.submit, exec_bind, exec_get]
  generalize (Storage.publish topic.name payload).exec storage log = result
  obtain ⟨⟨(reason | fault) | epoch, storage'⟩, log'⟩ := result
  all_goals exact ⟨rfl, rfl⟩

namespace Call

/-- A call by values does nothing, or it comes to a request to the registry, or to a call on a topic
that the registry lists; and it breaks off where that does. -/
inductive Direct.Acts (session : Session) (log : Log) (direct : Direct) :
    Except Failure Outcome → Session → Prop
  | still {outcome : Except Failure Outcome} (whole : isFault outcome = false) :
      Acts session log direct outcome session
  | ask {outcome : Except Failure Outcome} (request : Registry.Request)
      (breaks : isFault outcome = isFault ((Registry.perform request).exec session log).1.1)
      (releases : ∀ id, ((Registry.perform request).exec session log).1.1 =
        .ok (.released (some id)) → direct = .release id) :
      Acts session log direct outcome ((Registry.perform request).exec session log).1.2
  | use {outcome : Except Failure Outcome} {kind : Kind} {id : TopicId} {topic : Topic kind}
      (listed : session.registry.directory.get? id = some ⟨kind, topic⟩)
      (request : Topic.Request kind)
      (breaks : isFault outcome = isFault ((topic.report request).exec session.bus log).1.1)
      (offers : ∀ payload, request.offered = some payload → direct = .publish kind id payload) :
      Acts session log direct outcome
        { session with bus := ((topic.report request).exec session.bus log).1.2 }

theorem Direct.resolved_acts {direct : Direct} (request : Topic.Request kind)
    (op : Topic kind → Op Bus α) (outcome : α → Outcome)
    (hop : ∀ topic : Topic kind, session.registry.directory.get? id = some ⟨kind, topic⟩ →
      ((op topic).exec session.bus log).1.2 =
          ((topic.report request).exec session.bus log).1.2 ∧
        isFault ((op topic).exec session.bus log).1.1 =
          isFault ((topic.report request).exec session.bus log).1.1)
    (hoffers : ∀ payload, request.offered = some payload → direct = .publish kind id payload)
    (hperform : direct.perform = do
      let topic ← Registry.resolveKind kind id
      return outcome (← Registry.onBus (op topic))) :
    direct.Acts session log (direct.perform.exec session log).1.1
      (direct.perform.exec session log).1.2 := by
  rw [hperform, exec_bind]
  rcases Registry.resolveKind_cases kind session id log with
    ⟨reason, hrefused⟩ | ⟨topic, hget, hfound⟩
  · rw [hrefused]
    exact .still rfl
  · obtain ⟨hafter, hbreaks⟩ := hop topic hget
    rw [hfound]
    simp only [← map_eq_pure_bind, exec_map, Registry.onBus_exec, hafter]
    exact .use hget request ((isFault_map _ _).trans hbreaks) hoffers

theorem Direct.asked_acts {direct : Direct} (request : Registry.Request) {op : Op Session α}
    {outcome : α → Outcome} {reply : α → Registry.Reply}
    (hperform : direct.perform = op >>= fun a => pure (outcome a))
    (hrequest : Registry.perform request = op >>= fun a => pure (reply a))
    (hreleases : ∀ a id, reply a = .released (some id) → direct = .release id) :
    direct.Acts session log (direct.perform.exec session log).1.1
      (direct.perform.exec session log).1.2 := by
  have hask {told : Except Failure Outcome} := @Acts.ask session log direct told request
  simp only [hrequest, hperform, ← map_eq_pure_bind, exec_map, isFault_map] at hask ⊢
  refine hask (isFault_map _ _) fun id hreply => ?_
  generalize (op.exec session log).1.1 = result at hreply
  rcases result with failure | a
  · cases hreply
  · exact hreleases a id (Except.ok.inj hreply)

theorem Direct.perform_acts (h : session.Sound) {direct : Direct} (hdirect : direct ≠ .drop)
    (log : Log) :
    direct.Acts session log (direct.perform.exec session log).1.1
      (direct.perform.exec session log).1.2 := by
  cases direct with
  | drop => exact absurd rfl hdirect
  | count => exact .still rfl
  | obtainByte name capacity =>
      exact asked_acts (.obtainByte name capacity) rfl rfl (by rintro _ _ ⟨⟩)
  | obtainTyped name capacity messageSize =>
      exact asked_acts (.obtainTyped name capacity messageSize) rfl rfl (by rintro _ _ ⟨⟩)
  | release id => exact asked_acts (.release id) rfl rfl (by rintro _ _ ⟨⟩; rfl)
  | publish kind id payload =>
      refine resolved_acts (.publish payload) (fun topic => topic.publish payload) Outcome.number
        (fun topic hget => ?_) (by rintro _ ⟨⟩; rfl) rfl
      obtain ⟨storage, -, hstorage, -⟩ := h.storage hget
      exact topic.publish_report hstorage payload log
  | receive kind id buffer =>
      refine resolved_acts (.receive buffer) (fun topic => topic.receive.lending buffer)
        (fun found => .read (found.1.map (Storage.entryIn found.2))) (fun topic _ => ?_) (by rintro _ ⟨⟩) rfl
      simp only [Topic.report, Topic.perform, ← map_eq_pure_bind, exec_map, isFault_map, and_self]
  | readLatest kind id buffer =>
      refine resolved_acts (.readLatest buffer) (fun topic => topic.readLatest.lending buffer)
        (fun found => .read (found.1.map (Storage.entryIn found.2))) (fun topic _ => ?_) (by rintro _ ⟨⟩) rfl
      simp only [Topic.report, ← map_eq_pure_bind, exec_map, isFault_map, and_self]
  | locate kind id =>
      rw [perform, exec_bind]
      rcases Registry.resolveKind_cases kind session id log with
        ⟨reason, hrefused⟩ | ⟨topic, -, hfound⟩
      · rw [hrefused]
        exact .still rfl
      · rw [hfound]
        exact .still rfl
  | state id aspect =>
      rw [perform, exec_bind]
      rcases Registry.resolve_cases session id log with ⟨reason, hrefused⟩ | ⟨entry, hget, hfound⟩
      · rw [hrefused]
        exact .still rfl
      · obtain ⟨storage, -, hstorage, -⟩ := h.storage hget
        rw [hfound]
        simp only [exec_bind, Registry.onBus_exec, entry.topic.state_exec hstorage]
        exact .still rfl

theorem Direct.perform_traced (h : session.Sound) (hfit : session.Fitting) {direct : Direct}
    (hdirect : direct ≠ .drop) (log : Log) :
    session.Traced (direct.perform.exec session log).1.2 := by
  have hacts := direct.perform_acts h hdirect log
  generalize (direct.perform.exec session log).1 = result at hacts ⊢
  obtain ⟨outcome, after⟩ := result
  cases hacts with
  | still whole => exact hfit.kept (refl _)
  | ask request breaks releases =>
      exact hfit.effect h ((Bus.Run.nil _).snoc (.ask _ log _ request))
        (Registry.perform_effect h.coherent request log)
  | @use kind id topic listed request breaks offers =>
      have hheld : topic.Held session.bus := hfit id ⟨kind, topic⟩ listed
      have hrun := (Bus.Run.nil session.bus).snoc (.call _ log (.topic topic request) hheld)
      exact hfit.traced h.bus hrun fun _ _ hget => hget

/-- A call of the C interface is a run of the bus, unless it destroys the registry. -/
theorem serve_traced (h : session.Sound) (hfit : session.Fitting) {request : Request}
    (lent : request.Lent) (log : Log)
    (hafter : (serve request (some session) log).1.2 = some after) : session.Traced after := by
  rcases serve_leaves h lent log hafter with rfl | ⟨direct, -, hdirect, rfl⟩
  · exact hfit.kept (refl after)
  · exact direct.perform_traced h hfit hdirect log

end Call

end TopicBus
