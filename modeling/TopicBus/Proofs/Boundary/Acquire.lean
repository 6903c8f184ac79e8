import TopicBus.Proofs.Boundary.Handle
import TopicBus.Proofs.Registry.Obtain

namespace TopicBus

open Op

namespace Registry

variable {session after : Session} {entry : SomeTopic} {outcome : Except Failure Reply}

theorem Effect.lists (h : Effect session after outcome) (hb : session.Coherent)
    (hlists : session.registry.directory.Lists entry)
    (hspared : outcome ≠ .ok (.released (some entry.topic.id))) :
    after.registry.directory.Lists entry := by
  cases h with
  | kept kept lists keeps =>
      rw [kept.directory_eq]
      exact hlists
  | entered kind spec ring topic makes name_eq vacant room fresh storage_eq bus_eq inserted
      settings_eq answer =>
      have hfresh := hb.directory.fresh (room.trans_le hb.max_le) fresh
      exact (hfresh.lists_insert inserted).mpr (.inl hlists)
  | left id other removed settings_eq answer bus_eq =>
      refine (hb.directory.lists_remove removed).mpr ⟨hlists, ?_⟩
      rintro rfl
      have hget := (Directory.removed_of_remove removed).get?_eq
      rw [hb.directory.id_of_get? hget] at hspared
      exact hspared answer

end Registry

namespace Call

variable {session after : Session} {entry : SomeTopic} {spec : TopicSpec} {exact : Bool}
  {handle : UInt64} {address : Nat} {log : Log}

theorem Direct.perform_stays (h : session.Sound) {direct : Direct} (hdrop : direct ≠ .drop)
    (hspared : direct ≠ .release entry.topic.id)
    (hlists : session.registry.directory.Lists entry) (log : Log) :
    (direct.perform.exec session log).1.2.registry.settings = session.registry.settings ∧
      (direct.perform.exec session log).1.2.registry.directory.Lists entry := by
  have hacts := direct.perform_acts h hdrop log
  generalize (direct.perform.exec session log).1 = result at hacts ⊢
  obtain ⟨outcome, after⟩ := result
  cases hacts with
  | still whole => exact ⟨rfl, hlists⟩
  | use listed request breaks offers => exact ⟨rfl, hlists⟩
  | ask request breaks releases =>
      have heffect := Registry.perform_effect h.coherent request log
      refine ⟨heffect.settings_eq, heffect.lists h.coherent hlists fun hreleased => ?_⟩
      exact hspared (releases _ hreleased)

theorem Direct.perform_fulfils (h : session.Sound) (hfit : session.Fitting) {direct : Direct}
    (hdrop : direct ≠ .drop) (hspared : direct ≠ .release entry.topic.id) (log : Log)
    (hfulfils : session.Fulfils entry spec exact) :
    (direct.perform.exec session log).1.2.Fulfils entry spec exact := by
  obtain ⟨-, hlists⟩ := direct.perform_stays h hdrop hspared hfulfils.listed log
  obtain ⟨storage, hstorage, hagrees⟩ := hfulfils.agrees
  obtain ⟨queue, hholds, hfew⟩ := h.bus _ _ hstorage
  obtain ⟨⟨events, hrun⟩, -⟩ := direct.perform_traced h hfit hdrop log
  obtain ⟨storage', next, hstorage', hnext, hextends, -⟩ := hrun.extends hstorage hholds hfew
  have hlayout : storage'.ring.layout = storage.ring.layout := by
    rw [hnext.layout_eq, hextends.layout_eq, hholds.layout_eq]
  have hcapacity : storage'.ring.capacity = storage.ring.capacity := by
    rw [hnext.capacity_eq, hextends.capacity_eq, hholds.capacity_eq]
  refine ⟨hfulfils.valid, hlists, hfulfils.name_eq, storage', hstorage', ?_⟩
  intro reason hmismatch
  exact hagrees reason (hmismatch.same hlayout hcapacity)

/-- A step of a heap that neither destroys the registry at the address nor releases the topic that
the handle leads to there. -/
inductive Heap.Spares (address : Nat) (handle : UInt64) : Heap → Heap → Prop
  | create (heap : Heap) {other : Nat} (vacant : heap other = none) :
      Spares address handle heap (Function.update heap other (some newRegistry))
  | call (heap : Heap) {other : Nat} {session : Session} (there : heap other = some session)
      {request : Request} (lent : request.Lent)
      (spared : other = address → request ≠ .destroy ∧ request ≠ .releaseTopic handle)
      (log : Log) :
      Spares address handle heap
        (Function.update heap other (serve request (some session) log).1.2)
  | provide (heap : Heap) {other : Nat} {session : Session} (there : heap other = some session)
      (memory : Nat) :
      Spares address handle heap (Function.update heap other (some (provided session memory)))

/-- At the address there is a registry with these settings, and the topic is there as it was asked
for. -/
def Heap.Offers (heap : Heap) (address : Nat) (settings : RegistrySettings) (entry : SomeTopic)
    (spec : TopicSpec) (exact : Bool) : Prop :=
  ∃ session, heap address = some session ∧ session.Sound ∧ session.Fitting ∧
    session.registry.settings = settings ∧ session.Fulfils entry spec exact

theorem Request.Denotes.eq_releaseTopic {request : Request} {id : TopicId}
    (h : request.Denotes (.release id)) : request = .releaseTopic id.raw := by
  generalize hdirect : Direct.release id = direct at h
  cases h with
  | releaseTopic designated =>
      cases hdirect
      rw [designated.raw_eq]
  | read designated call =>
      unfold Read.direct at hdirect
      split at hdirect
      · cases hdirect
      · split at hdirect <;> cases hdirect
  | _ => cases hdirect

theorem Heap.Spares.offers {before after : Heap} {settings : RegistrySettings}
    (h : Spares address entry.topic.id.raw before after)
    (hoffers : before.Offers address settings entry spec exact) :
    after.Offers address settings entry spec exact := by
  obtain ⟨session, hsession, hsound, hfit, hsettings, hfulfils⟩ := hoffers
  have hother {other : Nat} (hne : other ≠ address) (found : Option Session) :
      Heap.Offers (Function.update before other found) address settings entry spec exact :=
    ⟨session, by rw [Function.update_of_ne hne.symm, hsession], hsound, hfit, hsettings, hfulfils⟩
  cases h with
  | @create other vacant =>
      apply hother
      rintro rfl
      rw [hsession] at vacant
      cases vacant
  | @call other found there request lent spared log =>
      by_cases hsame : other = address
      · obtain ⟨hdestroy, hrelease⟩ := spared hsame
        subst hsame
        rw [hsession] at there
        cases there
        have hafter := serve_continues hsound hdestroy log
        refine ⟨_, by rw [Function.update_self, hafter], serve_sound hsound lent log hafter,
          (serve_traced hsound hfit lent log hafter).2, ?_⟩
        rcases serve_leaves hsound lent log hafter with heq | ⟨direct, hdenotes, hdrop, heq⟩
        · rw [heq]
          exact ⟨hsettings, hfulfils⟩
        · -- Only by its release could the topic have left the listing.
          have hspared : direct ≠ .release entry.topic.id := by
            rintro rfl
            exact hrelease hdenotes.eq_releaseTopic
          obtain ⟨hstays, -⟩ := direct.perform_stays hsound hdrop hspared hfulfils.listed log
          rw [heq]
          exact ⟨hstays.trans hsettings,
            direct.perform_fulfils hsound hfit hdrop hspared log hfulfils⟩
      · exact hother hsame _
  | @provide other found there memory =>
      by_cases hsame : other = address
      · subst hsame
        rw [hsession] at there
        cases there
        exact ⟨_, Function.update_self .., provided_sound hsound memory, hfit, hsettings,
          hfulfils.valid, hfulfils.listed, hfulfils.name_eq, hfulfils.agrees⟩
      · exact hother hsame _

theorem Heap.offers_of_spares {before after : Heap} {settings : RegistrySettings}
    (hrun : Relation.ReflTransGen (Spares address entry.topic.id.raw) before after)
    (hoffers : before.Offers address settings entry spec exact) :
    after.Offers address settings entry spec exact := by
  induction hrun with
  | refl => exact hoffers
  | tail _ step ih => exact step.offers ih

inductive Request.Gets (name : String) : Request → Registry.Request → Prop
  | byte {bytes : Bytes} (names : Argument.Names bytes name) (capacity : Nat)
      (status : Option Int) :
      Gets name (.getByteTopic (some bytes) capacity status) (.obtainByte name capacity)
  | typed {bytes : Bytes} (names : Argument.Names bytes name) (capacity messageSize : Nat)
      (status : Option Int) :
      Gets name (.getTypedTopic (some bytes) capacity messageSize status)
        (.obtainTyped name capacity messageSize)

def Request.status? : Request → Option Int
  | getByteTopic _ _ status | getTypedTopic _ _ _ status => status
  | _ => none

variable {name : String} {get : Request} {request : Registry.Request}

theorem Request.Gets.exists_asks (h : get.Gets name request) (settings : RegistrySettings) :
    ∃ spec exact, request.Asks settings spec exact ∧ spec.name = name := by
  cases h with
  | byte names capacity status => exact ⟨_, _, .byte name capacity, rfl⟩
  | typed names capacity messageSize status =>
      exact ⟨_, _, .typed name capacity messageSize, rfl⟩

def Outcome.ofReply : Registry.Reply → Outcome
  | .topic entry => .topic entry.topic.id
  | _ => .done

theorem Request.Gets.decoded_exec (h : get.Gets name request) (session : Session) (log : Log) :
    get.decoded.exec session log =
      (Outcome.ofReply <$> Registry.perform request).exec session log := by
  cases h with
  | byte names capacity status =>
      rw [(Denotes.getByteTopic names capacity status).decoded_exec]
      simp only [Direct.perform, Registry.perform, map_bind, map_pure]
      rfl
  | typed names capacity messageSize status =>
      rw [(Denotes.getTypedTopic names capacity messageSize status).decoded_exec]
      simp only [Direct.perform, Registry.perform, map_bind, map_pure]
      rfl

theorem Request.Gets.serve_exec (h : get.Gets name request) (hsound : session.Sound) (log : Log) :
    let result := (Registry.perform request).exec session log
    (∀ entry, result.1.1 = .ok (.topic entry) →
      ∃ log', serve get (some session) log =
        ((.handle entry.topic.id.raw (get.status?.map fun _ => 1), some result.1.2), log')) ∧
    (∀ reason, result.1.1 = .error (.refused reason) →
      ∃ status after log', serve get (some session) log = ((.handle 0 status, after), log')) := by
  intro result
  obtain ⟨answer, htells, hserve⟩ := serve_images hsound get log
  rw [h.decoded_exec, exec_map] at htells hserve
  have hconvention : get.convention = .handle get.status? := by cases h <;> rfl
  have hleaves : get.leaves = some := by cases h <;> rfl
  rw [hconvention] at htells
  rw [hleaves] at hserve
  constructor
  · intro entry hentry
    rw [show ((Registry.perform request).exec session log).1.1 = _ from hentry] at htells
    cases htells
    exact ⟨_, hserve⟩
  · intro reason hreason
    rw [show ((Registry.perform request).exec session log).1.1 = _ from hreason] at htells
    cases htells
    exact ⟨_, _, _, hserve⟩

/-- A call that brings a handle brings one of a topic that fulfils what it asks for: the one that
goes by the name, if one does. -/
theorem Request.Gets.fulfils (h : get.Gets name request) (hsound : session.Sound)
    (hasks : request.Asks session.registry.settings spec exact) {status : Option Int}
    {found : Option Session} {log' : Log}
    (hserve : serve get (some session) log = ((.handle handle status, found), log'))
    (hsome : handle ≠ 0) :
    ∃ (entry : SomeTopic) (after : Session), handle = entry.topic.id.raw ∧
      status = get.status?.map (fun _ => 1) ∧ found = some after ∧
      after.Fulfils entry spec exact ∧ after.registry.settings = session.registry.settings ∧
      ∀ live, session.registry.directory.named? spec.name = some live → live = entry := by
  obtain ⟨hok, hrefused⟩ := h.serve_exec hsound log
  rcases (Registry.perform_obtained hsound.coherent hasks log).cases hsound.coherent with
    ⟨reason, hreason⟩ | ⟨entry, hentry, hfulfils, hlive⟩
  · obtain ⟨status', after, log'', hexec⟩ := hrefused reason hreason
    cases hserve.symm.trans hexec
    exact absurd rfl hsome
  · obtain ⟨log'', hexec⟩ := hok entry hentry
    cases hserve.symm.trans hexec
    have hsettings := (Registry.perform_effect hsound.coherent request log).settings_eq
    exact ⟨entry, _, rfl, rfl, rfl, hfulfils, hsettings, hlive⟩

/-- The topic under a name has a handle: the call that brought it brings it again, and any other
call that asks for the name brings the same handle or none. -/
structure Settled (name : String) (get : Request) (handle : UInt64) (status : Option Int)
    (session : Session) : Prop where
  again : ∀ log, ∃ after log', serve get (some session) log =
    ((.handle handle status, some after), log')
  same : ∀ other request, Request.Gets name other request → ∀ log handle' status' found log',
    serve other (some session) log = ((.handle handle' status', found), log') → handle' ≠ 0 →
    handle' = handle

theorem Heap.settled_later {heap later : Heap} (hhosted : session.Hosted)
    (hget : get.Gets name request) {status : Option Int} {log' : Log}
    (hserve : serve get (some session) log = ((.handle handle status, some after), log'))
    (hsome : handle ≠ 0)
    (hspared : Relation.ReflTransGen (Spares address handle)
      (Function.update heap address (some after)) later) :
    ∃ session', later address = some session' ∧ Settled name get handle status session' := by
  obtain ⟨spec, exact, hasks, hname⟩ := hget.exists_asks session.registry.settings
  obtain ⟨entry, after, rfl, hstatus, hafter, hfulfils, hsettings, -⟩ :=
    hget.fulfils hhosted.sound hasks hserve hsome
  cases hafter
  have hlent : get.Lent := by cases hget <;> trivial
  have hnext : (serve get (some session) log).1.2 = some after := congrArg (·.1.2) hserve
  have hoffers := Heap.offers_of_spares hspared
    ⟨after, Function.update_self .., serve_sound hhosted.sound hlent log hnext,
      (serve_traced hhosted.sound hhosted.fitting hlent log hnext).2, hsettings, hfulfils⟩
  obtain ⟨session', hlater, hsound, -, hsettings', hfulfils'⟩ := hoffers
  rw [← hsettings'] at hasks
  refine ⟨session', hlater, fun log => ?_, ?_⟩
  · have hagain := (Registry.perform_obtained hsound.coherent hasks log).again hsound.coherent
      hfulfils'
    obtain ⟨log', hexec⟩ := (hget.serve_exec hsound log).1 entry hagain
    rw [hstatus]
    exact ⟨_, log', hexec⟩
  · intro other request' hother log handle' status' found log' hexec hsome'
    obtain ⟨spec', exact', hasks', hname'⟩ := hother.exists_asks session'.registry.settings
    obtain ⟨entry', -, rfl, -, -, -, -, hlive⟩ := hother.fulfils hsound hasks' hexec hsome'
    have hnamed := hsound.coherent.directory.named?_iff.mpr
      ⟨hfulfils'.listed, hfulfils'.name_eq⟩
    rw [hname, ← hname'] at hnamed
    rw [hlive entry hnamed]

/-- In every heap: words below `2 ^ 32` stand for no identity, and the others stand for exactly
those with a generation. A word leads to a live topic if it is the word of that topic's identity,
and else nowhere; where it leads nowhere, or to a topic of the other kind, calls say so and change
nothing. Until a topic is released, those who ask for its name are given one and the same handle. -/
theorem handles_exact {heap : Heap} (hrun : Heap.Run (fun _ => none) heap) {address : Nat}
    {session : Session} (there : heap address = some session) :
    (∀ handle, TopicId.ofRaw? handle = none ↔ handle.toNat < 2 ^ 32) ∧
    (∀ handle id, TopicId.ofRaw? handle = some id ↔ id.generation ≠ 0 ∧ handle = id.raw) ∧
    Exact session ∧
    ∀ name get request, Request.Gets name get request → ∀ log handle status after log',
      serve get (some session) log = ((.handle handle status, some after), log') → handle ≠ 0 →
      ∀ later, Relation.ReflTransGen (Heap.Spares address handle)
          (Function.update heap address (some after)) later →
        ∃ session', later address = some session' ∧ Settled name get handle status session' := by
  have hhosted := hrun.hosted address session there
  refine ⟨fun _ => TopicId.ofRaw?_eq_none_iff, fun handle id => ?_, exact_of_hosted hhosted, ?_⟩
  · rw [TopicId.ofRaw?_eq_some_iff]
    exact ⟨fun h => ⟨h.generation_ne, h.raw_eq⟩, fun h => ⟨h.1, h.2⟩⟩
  · intro name get request hget log handle status after log' hserve hsome later hspared
    exact Heap.settled_later hhosted hget hserve hsome hspared

/-- A place that is used for the second time: the handle of its first topic leads nowhere, and that
of its second one, a byte topic, is no handle of a typed one. -/
theorem handles_exact_reused :
    ∃ heap session, Heap.Run (fun _ => none) heap ∧ heap 0 = some session ∧
      LeadsNowhere session 4294967296 ∧ LeadsAstray session 8589934592 .typed := by
  let first : Session :=
    ((Request.getByteTopic (some [97, 0]) 1 none).decoded.exec newRegistry #[]).1.2
  let released : Session := ((Request.releaseTopic 4294967296).decoded.exec first #[]).1.2
  let session : Session :=
    ((Request.getByteTopic (some [98, 0]) 1 none).decoded.exec released #[]).1.2
  have hfirst : Heap.Reaches first :=
    Heap.reaches_new.call (.getByteTopic (some [97, 0]) 1 none) trivial (by rintro ⟨⟩) #[]
  have hreleased : Heap.Reaches released :=
    hfirst.call (.releaseTopic 4294967296) trivial (by rintro ⟨⟩) #[]
  obtain ⟨heap, hrun, there⟩ : Heap.Reaches session :=
    hreleased.call (.getByteTopic (some [98, 0]) 1 none) trivial (by rintro ⟨⟩) #[]
  have hlost : ((resolve 4294967296).exec session #[]).1.1.toOption.isSome = false := by
    decide +kernel
  have hkind : (session.registry.directory.get? ⟨0, 2⟩).map (·.kind) = some .byte := by
    decide +kernel
  obtain ⟨entry, hget, hbyte⟩ := Option.map_eq_some_iff.mp hkind
  clear_value session
  obtain ⟨-, -, hexact, -⟩ := handles_exact hrun there
  refine ⟨heap, session, hrun, there, hexact.nowhere _ fun entry hleads => ?_, ?_⟩
  · rw [hleads #[]] at hlost
    cases hlost
  · have hleads := Session.leadsTo_of_get? ⟨by decide, rfl⟩ hget
    exact hexact.astray 8589934592 entry .typed hleads (by rw [hbyte]; decide)

end Call

end TopicBus
