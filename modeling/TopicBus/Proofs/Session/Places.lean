import TopicBus.Proofs.Session.Counters

/-!
How many places a registry has. Its row of places is as long as there ever were topics at once: a
new topic takes the place emptied last, and a new place only where none stands empty. The limit of
the registry is met before the row is, so every identity that a registry gives out is one of a place
within the limit.
-/

namespace TopicBus

open Op

def Directory.Vacant (directory : Directory) (index : UInt32) : Prop :=
  ∃ generation, directory.places[index.toNat]? = some ⟨generation, none⟩

namespace Session

def Event.brings : Event → Option TopicId
  | .registry _ (.ok (.topic handle)) => some handle.topic.id
  | _ => none

def sizes (start : Session) (turns : List Turn) : List Nat :=
  start.registry.size :: turns.map fun turn => turn.after.registry.size

/-- The place was emptied at one of the turns, and at none since any of those that are empty. -/
def EmptiedLast (turns : List Turn) (vacant : UInt32 → Prop) (index : UInt32) : Prop :=
  ∃ earlier release later, turns = earlier ++ release :: later ∧
    release.event.releases index = true ∧
    ∀ turn ∈ later, ∀ other, vacant other → turn.event.releases other = false

/-- What a turn does to the places, together with what the turn is. -/
inductive Turn.Arranges (turn : Turn) : Prop
  | kept (makes_eq : turn.makes = false)
      (releases_eq : ∀ index, turn.event.releases index = false)
      (directory_eq : turn.after.registry.directory = turn.before.registry.directory)
  | entered (request : Registry.Request) (handle : SomeTopic) (makes_eq : turn.makes = true)
      (event_eq : turn.event = .registry request (.ok (.topic handle)))
      (fresh : turn.before.registry.directory.Fresh handle.topic.id)
      (entered : turn.before.registry.directory.Entered handle.topic.id handle
        turn.after.registry.directory)
  | left (id : TopicId) (entry : SomeTopic) (makes_eq : turn.makes = false)
      (releases_eq : ∀ index, turn.event.releases index = (id.index == index))
      (removed : turn.before.registry.directory.Removed id entry turn.after.registry.directory)

theorem Turn.arranges_of_effect {turn : Turn} (hb : turn.before.Coherent)
    {request : Registry.Request} {outcome : Except Failure Registry.Reply}
    (hevent : turn.event = .registry request outcome)
    (h : Registry.Effect turn.before turn.after outcome) : turn.Arranges := by
  have hsize := (turn.moved hb).size_eq
  simp only [Registry.size] at hsize
  cases h with
  | kept kept lists keeps =>
      refine .kept ?_ ?_ kept.directory_eq
      · rw [makes, hevent, grows_of_bus_eq _ _ kept.bus_eq]
        exact Bool.and_false _
      · intro index
        rw [hevent]
        exact Event.releases_eq_false keeps index
  | entered kind spec ring topic makes name_eq vacant room fresh storage_eq bus_eq inserted
      settings_eq answer =>
      have hfresh := hb.directory.fresh (room.trans_le hb.max_le) fresh
      have hone : turn.after.registry.directory.names.size = _ := hfresh.size_names vacant inserted
      have hmakes : turn.makes = true := by
        rw [← Bool.toNat_eq_one]
        have hle := turn.makes.toNat_le
        omega
      exact .entered request ⟨kind, topic⟩ hmakes (by rw [hevent, answer]) hfresh
        (hfresh.entered inserted)
  | left id entry removed settings_eq answer bus_eq =>
      have hone := hb.directory.size_names_remove removed
      have hmakes : turn.makes = false := by
        rw [← Bool.toNat_eq_zero]
        have hle := turn.releases.toNat_le
        omega
      refine .left id entry hmakes ?_ (Directory.removed_of_remove removed)
      intro index
      rw [hevent, answer]
      rfl

theorem Turn.arranges (turn : Turn) (hb : turn.before.Coherent) : turn.Arranges := by
  obtain ⟨before, event, after, step⟩ := turn
  cases step with
  | bus log request held => exact .kept rfl (fun _ => rfl) rfl
  | registry log request => exact arranges_of_effect hb rfl (Registry.perform_effect hb request log)

theorem Turn.size_places (turn : Turn) (hb : turn.before.Coherent) :
    turn.after.registry.directory.places.size =
      max turn.before.registry.directory.places.size turn.after.registry.size := by
  have hbefore := hb.directory.size_eq
  have hafter := (turn.step.coherent hb).directory.size_eq
  rw [Registry.size]
  cases turn.arranges hb with
  | kept makes_eq releases_eq directory_eq =>
      rw [directory_eq] at hafter ⊢
      omega
  | entered request handle makes_eq event_eq fresh entered =>
      have hsize := entered.size_eq
      have hfree := congrArg List.length entered.free_eq
      rw [List.length_tail] at hfree
      omega
  | left id entry makes_eq releases_eq removed =>
      have hsize := removed.size_eq
      omega

def Turn.ask (before : Session) (request : Registry.Request) : Turn :=
  ⟨before, _, _, .registry before #[] request⟩

@[simp] theorem Turn.ask_before (before : Session) (request : Registry.Request) :
    (ask before request).before = before := rfl

variable {start session : Session} {turns : List Turn} {turn : Turn} {vacant : UInt32 → Prop}
  {index : UInt32}

theorem Path.ask (h : Path start turns session) (request : Registry.Request) :
    Path start (turns ++ [.ask session request]) (Turn.ask session request).after :=
  .snoc (.ask session request) h

theorem Path.settings_eq (h : Path start turns session) (hb : start.Coherent) :
    session.registry.settings = start.registry.settings := by
  induction h with
  | nil => rfl
  | snoc turn path ih => exact (turn.step.settings_eq (path.coherent hb)).trans ih

theorem sizes_snoc (start : Session) (turns : List Turn) (turn : Turn) :
    {count | count ∈ sizes start (turns ++ [turn])} =
      insert turn.after.registry.size {count | count ∈ sizes start turns} := by
  ext count
  simp only [sizes, List.map_append, List.map_cons, List.map_nil, List.mem_cons, List.mem_append,
    List.not_mem_nil, or_false, Set.mem_ofPred_eq, Set.mem_insert_iff]
  tauto

theorem Path.size_places (h : Path start turns session) (hb : start.Coherent)
    (hstart : start.registry.directory.places.size = start.registry.size) :
    IsGreatest {count | count ∈ sizes start turns} session.registry.directory.places.size := by
  induction h with
  | nil => simp [sizes, hstart]
  | snoc turn path ih =>
      rw [sizes_snoc, turn.size_places (path.coherent hb), max_comm]
      exact ih.insert _

theorem Path.size_places_le (h : Path start turns session) (hb : start.Coherent)
    (hstart : start.registry.directory.places.size = start.registry.size) :
    session.registry.directory.places.size ≤ start.registry.settings.maxTopics := by
  induction h with
  | nil =>
      rw [hstart]
      exact hb.names_le
  | snoc turn path ih =>
      have hsettings := (path.snoc turn).settings_eq hb
      rw [turn.size_places (path.coherent hb), ← hsettings]
      rw [← hsettings] at ih
      exact max_le ih (turn.step.coherent (path.coherent hb)).names_le

theorem EmptiedLast.snoc (h : EmptiedLast turns vacant index)
    (hturn : ∀ other, vacant other → turn.event.releases other = false) :
    EmptiedLast (turns ++ [turn]) vacant index := by
  obtain ⟨earlier, release, later, rfl, hreleases, hlater⟩ := h
  refine ⟨earlier, release, later ++ [turn], by simp, hreleases, ?_⟩
  intro other hmem
  rcases List.mem_append.mp hmem with hold | hnew
  · exact hlater other hold
  · rw [List.mem_singleton.mp hnew]
    exact hturn

/-- The empty places are listed in the order in which they were emptied, the last one first. The
induction needs this of every end of the list, since the places in front of it are used up. -/
theorem Path.emptiedLast (h : Path start turns session) (hb : start.Coherent)
    (hstart : start.registry.directory.free = []) {rest : List UInt32}
    (hrest : index :: rest <:+ session.registry.directory.free) :
    EmptiedLast turns (· ∈ index :: rest) index := by
  induction h with
  | nil =>
      rw [hstart, List.suffix_nil] at hrest
      cases hrest
  | snoc turn path ih =>
      cases turn.arranges (path.coherent hb) with
      | kept makes_eq releases_eq directory_eq =>
          rw [directory_eq] at hrest
          exact (ih hrest).snoc fun other _ => releases_eq other
      | entered request handle makes_eq event_eq fresh entered =>
          rw [entered.free_eq] at hrest
          refine (ih (hrest.trans (List.tail_suffix _))).snoc fun other _ => ?_
          rw [event_eq]
          rfl
      | left id entry makes_eq releases_eq removed =>
          have hnodup := (turn.step.coherent (path.coherent hb)).directory.free_nodup
          rw [removed.free_eq] at hrest hnodup
          -- The place emptied by this turn stands first, so any shorter row was there before.
          rcases List.suffix_cons_iff.mp hrest with hwhole | hend
          · obtain ⟨rfl, rfl⟩ := List.cons.inj hwhole
            refine ⟨_, turn, [], rfl, ?_, by simp⟩
            rw [releases_eq]
            exact beq_self_eq_true _
          · refine (ih hend).snoc fun other hother => ?_
            rw [releases_eq, beq_eq_false_iff_ne]
            rintro rfl
            exact (List.nodup_cons.mp hnodup).1 (hend.subset hother)

/-- Where a new topic was put: in a new place if none stood empty, else in the one emptied last. -/
inductive Turn.Puts (turn : Turn) (turns : List Turn) (id : TopicId) : Prop
  | behind (full : ∀ index, ¬turn.before.registry.directory.Vacant index)
      (index_eq : id.index.toNat = turn.before.registry.directory.places.size)
      (generation_eq : id.generation = 1)
      (size_eq : turn.after.registry.directory.places.size =
        turn.before.registry.directory.places.size + 1)
  | again (vacant : turn.before.registry.directory.Vacant id.index)
      (last : EmptiedLast turns turn.before.registry.directory.Vacant id.index)
      (size_eq : turn.after.registry.directory.places.size =
        turn.before.registry.directory.places.size)

theorem Path.puts (h : Path start turns turn.before) (hb : start.Coherent)
    (hstart : start.registry.directory.free = []) {handle : SomeTopic}
    (fresh : turn.before.registry.directory.Fresh handle.topic.id)
    (entered : turn.before.registry.directory.Entered handle.topic.id handle
      turn.after.registry.directory) : turn.Puts turns handle.topic.id := by
  have hvacant := (h.coherent hb).directory.mem_free_iff
  have hsize := entered.size_eq
  have htail := congrArg List.length entered.free_eq
  rcases fresh with ⟨hhead, hplace⟩ | ⟨hfree, hindex, hgeneration⟩
  · obtain ⟨rest, hrest⟩ := List.head?_eq_some_iff.mp hhead
    refine .again ⟨_, hplace⟩ ?_ ?_
    · have hsame : turn.before.registry.directory.Vacant = (· ∈ handle.topic.id.index :: rest) := by
        funext other
        rw [← hrest]
        exact propext (hvacant other).symm
      rw [hsame]
      exact h.emptiedLast hb hstart ⟨[], hrest.symm⟩
    · rw [hrest, List.tail_cons] at htail
      rw [hrest, List.length_cons] at hsize
      omega
  · refine .behind ?_ hindex hgeneration ?_
    · intro index hindex
      have hmem := (hvacant index).mpr hindex
      rw [hfree] at hmem
      cases hmem
    · rw [hfree] at hsize htail
      simp only [List.tail_nil, List.length_nil] at hsize htail
      omega

end Session

namespace Registry

variable {session : Session} {request : Request} {message : String} {log : Log}

theorem Obtained.allocationFailure {spec : TopicSpec} {exact : Bool}
    {result : (Except Failure Reply × Session) × Log} (h : Obtained session spec exact log result)
    (hfailure : result.1.1 = .error (.refused (.allocationFailure message))) :
    ∃ spec, Lacks session spec message := by
  have houtcome := h.outcome
  rw [hfailure] at houtcome
  generalize result.1.2 = after at houtcome
  cases houtcome with
  | mismatch hvalid hnamed hmismatch => cases hmismatch
  | lacking hvalid hnamed hlacks => exact ⟨spec, hlacks⟩

theorem perform_allocationFailure (hb : session.Coherent) (request : Request)
    (hfailure : ((perform request).exec session log).1.1 =
      .error (.refused (.allocationFailure message))) : ∃ spec, Lacks session spec message := by
  cases request with
  | obtainByte name capacity =>
      exact (perform_obtained hb (.byte name capacity) log).allocationFailure hfailure
  | obtainBounded name capacity payloadSize =>
      exact (perform_obtained hb (.bounded name capacity payloadSize) log).allocationFailure hfailure
  | obtainTyped name capacity messageSize =>
      exact (perform_obtained hb (.typed name capacity messageSize) log).allocationFailure hfailure
  | find kind name =>
      simp only [perform, ← map_eq_pure_bind, exec_map] at hfailure
      rcases find_cases kind name session log with hexec | ⟨existing, hexec⟩ | ⟨topic, -, hexec⟩
      all_goals
        rw [hexec] at hfailure
        cases hfailure
  | resolve id =>
      simp only [perform, ← map_eq_pure_bind, exec_map, resolve_exec] at hfailure
      cases hget : session.registry.directory.get? id <;> simp [hget, Except.map] at hfailure
  | resolveKind kind id =>
      simp only [perform, ← map_eq_pure_bind, exec_map, resolveKind_exec] at hfailure
      cases hget : session.registry.directory.get? id with
      | none => simp [hget, Except.map] at hfailure
      | some entry => cases hkind : entry.ofKind? kind <;> simp [hget, hkind, Except.map] at hfailure
  | release id =>
      simp only [perform, ← map_eq_pure_bind, exec_map] at hfailure
      rcases release_cases hb id log with ⟨text, hexec⟩ | ⟨entry, next, -, hexec⟩
      all_goals
        rw [hexec] at hfailure
        cases hfailure
  | releaseNamed name =>
      rw [perform_releaseNamed] at hfailure
      rcases releaseNamed_cases hb name log with ⟨text, hexec⟩ | ⟨id, entry, next, -, -, hexec⟩
      all_goals
        rw [hexec] at hfailure
        cases hfailure
  | topics =>
      simp only [perform, ← map_eq_pure_bind, exec_map, topics_exec hb] at hfailure
      cases hfailure

theorem perform_ne_exhausted (hb : session.Coherent) (request : Request) (log : Log) :
    ((perform request).exec session log).1.1 ≠
      .error (.refused (.allocationFailure "Topic slab exhausted")) := by
  intro hexhausted
  obtain ⟨spec, hlacks⟩ := perform_allocationFailure hb request hexhausted
  generalize hmessage : "Topic slab exhausted" = message at hlacks
  cases hlacks with
  | memory hmemory => exact absurd hmessage (by decide)
  | room hmax hfull =>
      have hfirst := congrArg (fun text => text.toList.head?) hmessage
      simp [toString] at hfirst

/-- The places of a registry, with an account of the turns since it was made. -/
structure Compact (settings : RegistrySettings) (start session : Session)
    (turns : List Session.Turn) : Prop where
  size_places : IsGreatest {count | count ∈ Session.sizes start turns}
    session.registry.directory.places.size
  size_le : session.registry.directory.places.size ≤ settings.maxTopics
  max_le : settings.maxTopics ≤ 2 ^ 32 - 1
  still : ∀ turn : Session.Turn, turn.before = session → turn.makes = false →
    turn.after.registry.directory.places.size = session.registry.directory.places.size
  made : ∀ turn : Session.Turn, turn.before = session → turn.makes = true →
    ∃ request handle, turn.event = .registry request (.ok (.topic handle)) ∧
      turn.after.registry.directory.get? handle.topic.id = some handle ∧
      turn.Puts turns handle.topic.id ∧ handle.topic.id.index.toNat < settings.maxTopics ∧
      handle.topic.id ≠ TopicId.detached ∧ handle.topic.id.generation ≠ 0
  issues : session.registry.size < settings.maxTopics →
    ∃ id, session.registry.directory.freshId = .ok id
  ne_exhausted : ∀ (request : Request) (log : Log), ((perform request).exec session log).1.1 ≠
    .error (.refused (.allocationFailure "Topic slab exhausted"))

/-- After any run of a registry and its bus there are as many places as there ever were topics at
once. The next topic takes the place emptied last, if any is empty, and its identity is within the
limits; the row of places is never exhausted. -/
theorem run_compact {settings : RegistrySettings} {registry : Registry}
    (hcreate : Registry.create settings = .ok registry) {bus : Bus} {turns : List Session.Turn}
    (hpath : Session.Path ⟨registry, bus⟩ turns session) :
    Compact settings ⟨registry, bus⟩ session turns := by
  have hstart := create_coherent hcreate bus
  have hb := hpath.coherent hstart
  have hsettings := hpath.settings_eq hstart
  obtain ⟨hmax, rfl⟩ := create_eq_ok hcreate
  constructor
  case size_places => exact hpath.size_places hstart rfl
  case size_le => exact hpath.size_places_le hstart rfl
  case max_le => exact hmax
  case still =>
    rintro turn rfl hmakes
    cases turn.arranges hb with
    | kept makes_eq releases_eq directory_eq => rw [directory_eq]
    | entered request handle makes_eq event_eq fresh entered =>
        rw [hmakes] at makes_eq
        cases makes_eq
    | left id entry makes_eq releases_eq removed => exact removed.size_eq
  case made =>
    rintro turn rfl hmakes
    cases turn.arranges hb with
    | kept makes_eq releases_eq directory_eq =>
        rw [hmakes] at makes_eq
        cases makes_eq
    | left id entry makes_eq releases_eq removed =>
        rw [hmakes] at makes_eq
        cases makes_eq
    | entered request handle makes_eq event_eq fresh entered =>
        have hgeneration := hb.directory.fresh_generation_ne fresh
        obtain ⟨hindex, -⟩ := Array.getElem?_eq_some_iff.mp entered.here
        have hle := (hpath.snoc turn).size_places_le hstart rfl
        refine ⟨request, handle, event_eq, Directory.get?_eq_some_iff.mpr entered.here,
          hpath.puts hstart rfl fresh entered, hindex.trans_le hle, ?_, hgeneration⟩
        intro hdetached
        exact hgeneration (congrArg TopicId.generation hdetached)
  case issues =>
    intro hroom
    obtain ⟨id, hid, -⟩ := hb.directory.freshId_eq_ok (hroom.trans_le hmax)
    exact ⟨id, hid⟩
  case ne_exhausted => exact fun request log => perform_ne_exhausted hb request log

/-- Two topics are released, and a new one takes the place of the second. -/
theorem run_compact_second :
    ∃ (turns : List Session.Turn) (turn : Session.Turn) (handle : SomeTopic),
      Session.Path ⟨{ settings := { maxTopics := 2 } }, {}⟩ turns turn.before ∧
      turns.length = 4 ∧ turn.before.registry.size = 0 ∧
      turn.before.registry.directory.places.size = 2 ∧
      (∃ request, turn.event = .registry request (.ok (.topic handle))) ∧
      handle.topic.id = ⟨1, 2⟩ ∧ turn.Puts turns handle.topic.id := by
  have hcreate : Registry.create { maxTopics := 2 } = .ok { settings := { maxTopics := 2 } } := rfl
  have hpath := ((((Session.Path.nil ⟨{ settings := { maxTopics := 2 } }, {}⟩).ask
    (.obtainByte "a" 1)).ask (.obtainByte "b" 1)).ask (.releaseNamed "a")).ask (.releaseNamed "b")
  obtain ⟨request, handle, hevent, -, hputs, -, -, -⟩ :=
    (run_compact hcreate hpath).made (.ask _ (.obtainByte "c" 1)) (Session.Turn.ask_before _ _)
      (by decide +kernel)
  have hid := congrArg Session.Event.brings hevent
  refine ⟨_, _, handle, hpath, rfl, by decide +kernel, by decide +kernel, ⟨request, hevent⟩, ?_,
    hputs⟩
  exact Option.some.inj (hid.symm.trans (by decide +kernel))

end Registry

end TopicBus
