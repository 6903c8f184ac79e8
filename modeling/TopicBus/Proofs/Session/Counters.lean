import TopicBus.Proofs.Bus.Tally
import TopicBus.Proofs.Registry.Generation
import TopicBus.Proofs.Registry.Listing
import TopicBus.Proofs.Registry.Obtain

namespace TopicBus

open Op

def Refusal.isMismatch : Refusal → Bool
  | .kindMismatch _ _ _ | .capacityMismatch _ _ _ | .sizeMismatch _ _ => true
  | _ => false

namespace Registry.Request

def spec? (settings : RegistrySettings) : Request → Option TopicSpec
  | .obtainByte name capacity => some ⟨name, .byte, capacity, settings.payloadBound⟩
  | .obtainBounded name capacity payloadSize => some ⟨name, .byte, capacity, payloadSize⟩
  | .obtainTyped name capacity messageSize => some ⟨name, .typed, capacity, messageSize⟩
  | _ => none

def looksUp (settings : RegistrySettings) : Request → Bool
  | .find _ _ => true
  | request => (request.spec? settings).any fun spec => spec.check.isOk

def isRelease : Request → Bool
  | .release _ | .releaseNamed _ => true
  | _ => false

theorem Asks.spec?_eq {settings : RegistrySettings} {request : Request} {spec : TopicSpec}
    {exact : Bool} (h : request.Asks settings spec exact) : request.spec? settings = some spec := by
  cases h <;> rfl

theorem Asks.looksUp_eq {settings : RegistrySettings} {request : Request} {spec : TopicSpec}
    {exact : Bool} (h : request.Asks settings spec exact) :
    request.looksUp settings = spec.check.isOk := by
  cases h <;> rfl

theorem Asks.isRelease_eq {settings : RegistrySettings} {request : Request} {spec : TopicSpec}
    {exact : Bool} (h : request.Asks settings spec exact) : request.isRelease = false := by
  cases h <;> rfl

end Registry.Request

def Registry.disagrees : Except Failure Reply → Bool
  | .error (.refused reason) => reason.isMismatch
  | _ => false

namespace Session

def Event.asks : Event → Bool
  | .registry _ _ => true
  | .bus _ _ => false

def grows (before after : Session) : Bool :=
  decide (before.bus.storages.size < after.bus.storages.size)

theorem grows_of_bus_eq (before after : Session) (h : after.bus = before.bus) :
    before.grows after = false := by
  rw [grows, h]
  exact decide_eq_false (Nat.lt_irrefl _)

/-- One request or call, with the session before and after it. -/
structure Turn where
  before : Session
  event : Event
  after : Session
  step : Step before event after

inductive Path : Session → List Turn → Session → Prop
  | nil (session : Session) : Path session [] session
  | snoc {start : Session} {turns : List Turn} (turn : Turn) (path : Path start turns turn.before) :
      Path start (turns ++ [turn]) turn.after

namespace Turn

def asks (turn : Turn) : Bool := turn.event.asks

def makes (turn : Turn) : Bool :=
  match turn.event with
  | .registry request _ => (request.spec? turn.before.registry.settings).isSome &&
      turn.before.grows turn.after
  | .bus _ _ => false

def releases (turn : Turn) : Bool :=
  match turn.event with
  | .registry request outcome => request.isRelease && outcome.isOk
  | .bus _ _ => false

def looksUp (turn : Turn) : Bool :=
  match turn.event with
  | .registry request _ => request.looksUp turn.before.registry.settings
  | .bus _ _ => false

def mismatches (turn : Turn) : Bool :=
  match turn.event with
  | .registry _ outcome => turn.looksUp && Registry.disagrees outcome
  | .bus _ _ => false

end Turn

/-- The counters moved on by these numbers, and as many topics came and went. -/
structure Moved (before after : Session) (made released lookups mismatches : Nat) : Prop where
  created_eq : after.registry.counters.created = before.registry.counters.created + .ofNat made
  released_eq :
    after.registry.counters.released = before.registry.counters.released + .ofNat released
  lookups_eq : after.registry.counters.lookups = before.registry.counters.lookups + .ofNat lookups
  mismatches_eq :
    after.registry.counters.mismatches = before.registry.counters.mismatches + .ofNat mismatches
  size_eq : after.registry.size + released = before.registry.size + made

variable {before middle after session : Session}

namespace Moved

theorem still (hcounters : after.registry.counters = before.registry.counters)
    (hsize : after.registry.size = before.registry.size) : Moved before after 0 0 0 0 := by
  constructor <;> simp [hcounters, hsize]

theorem looked (session : Session) :
    Moved session (session.counted RegistryCounters.countLookup) 0 0 1 0 := by
  constructor <;> simp [counted, RegistryCounters.countLookup, Registry.size]

theorem disagreed (session : Session) :
    Moved session ((session.counted RegistryCounters.countLookup).counted
      RegistryCounters.countMismatch) 0 0 1 1 := by
  constructor <;>
    simp [counted, RegistryCounters.countLookup, RegistryCounters.countMismatch, Registry.size]

theorem made {spec : TopicSpec} {topic : Topic spec.kind}
    (h : Registry.Created before spec topic after) : Moved before after 1 0 1 0 := by
  constructor <;>
    simp [h.counters_eq, h.size_eq, RegistryCounters.countLookup, RegistryCounters.countCreated]

theorem gone (h : session.Coherent) {id : TopicId} {entry : SomeTopic} {next : Directory}
    (hremove : session.registry.directory.remove id = some (entry, next)) {bus : Bus} :
    Moved session (Registry.removed session next bus) 0 1 0 0 := by
  constructor
  case size_eq => exact h.directory.size_names_remove hremove
  all_goals simp [Registry.removed, RegistryCounters.countReleased]

theorem trans {made released lookups mismatches made' released' lookups' mismatches' : Nat}
    (h : Moved before middle made released lookups mismatches)
    (h' : Moved middle after made' released' lookups' mismatches') :
    Moved before after (made + made') (released + released') (lookups + lookups')
      (mismatches + mismatches') where
  created_eq := UInt64.eq_add_ofNat h.created_eq h'.created_eq
  released_eq := UInt64.eq_add_ofNat h.released_eq h'.released_eq
  lookups_eq := UInt64.eq_add_ofNat h.lookups_eq h'.lookups_eq
  mismatches_eq := UInt64.eq_add_ofNat h.mismatches_eq h'.mismatches_eq
  size_eq := by
    have hfirst := h.size_eq
    have hsecond := h'.size_eq
    omega

end Moved

end Session

namespace Registry

open Session

variable {session after : Session} {spec : TopicSpec} {exact : Bool}
  {outcome : Except Failure Reply} {log log' : Log}

theorem Mismatch.isMismatch {live : SomeTopic} {ring : Ring} {reason : Refusal}
    (h : Mismatch live ring spec exact reason) : reason.isMismatch = true := by
  cases h <;> rfl

theorem Obtained.moved (h : Obtained session spec exact log ((outcome, after), log')) :
    session.Moved after (session.grows after).toNat 0 spec.check.isOk.toNat
      (spec.check.isOk && disagrees outcome).toNat := by
  cases h.outcome with
  | invalid hinvalid parameter message =>
      obtain ⟨parameter', message', hcheck⟩ := TopicSpec.check_invalid hinvalid
      rw [hcheck, grows_of_bus_eq _ _ rfl]
      exact .still rfl rfl
  | mismatch hvalid hnamed hmismatch =>
      rw [hvalid.check_eq, grows_of_bus_eq, disagrees, hmismatch.isMismatch]
      · exact .disagreed session
      · rfl
  | found hvalid | lacking hvalid =>
      rw [hvalid.check_eq, grows_of_bus_eq]
      · exact .looked session
      · rfl
  | created hvalid hnamed hcreated =>
      obtain ⟨layout, ring, -, -, -, hbus⟩ := hcreated.bus_eq
      have hgrows : session.grows after = true := by
        rw [grows, hbus, Array.size_push]
        exact decide_eq_true (Nat.lt_succ_self _)
      rw [hvalid.check_eq, hgrows]
      exact .made hcreated

theorem find_moved (kind : Kind) (name : String) (session : Session) (log : Log) :
    session.Moved ((find kind name).exec session log).1.2 0 0 1
      (disagrees (((find kind name).exec session log).1.1.map fun topic =>
        .topic ⟨kind, topic⟩)).toNat := by
  rcases find_cases kind name session log with hexec | ⟨existing, hexec⟩ | ⟨topic, -, hexec⟩
  · rw [hexec]
    exact .looked session
  · rw [hexec]
    exact .disagreed session
  · rw [hexec]
    exact .looked session

theorem isOk_map {α β : Type} (outcome : Except Failure α) (f : α → β) :
    (outcome.map f).isOk = outcome.isOk := by
  cases outcome <;> rfl

theorem release_moved (h : session.Coherent) (id : TopicId) (log : Log) :
    session.Moved ((release id).exec session log).1.2 0
      ((release id).exec session log).1.1.isOk.toNat 0 0 := by
  rcases release_cases h id log with ⟨text, hexec⟩ | ⟨entry, next, hr, hexec⟩
  · rw [hexec]
    exact .still rfl rfl
  · rw [hexec]
    exact .gone h hr

theorem releaseNamed_moved (h : session.Coherent) (name : String) (log : Log) :
    session.Moved ((releaseNamed name).exec session log).1.2 0
      ((releaseNamed name).exec session log).1.1.isOk.toNat 0 0 := by
  rcases releaseNamed_cases h name log with ⟨text, hexec⟩ | ⟨id, entry, next, -, hr, hexec⟩
  · rw [hexec]
    exact .still rfl rfl
  · rw [hexec]
    exact .gone h hr

/-- What only looks at topics leaves the registry as it is, counters and all, and so does a release
that fails. -/
structure Unmoved (session : Session) : Prop where
  resolve : ∀ id log, ((resolve id).exec session log).1.2 = session
  resolveKind : ∀ kind id log, ((resolveKind kind id).exec session log).1.2 = session
  topics : ∀ log, (topics.exec session log).1.2 = session
  release : ∀ id log failure, ((release id).exec session log).1.1 = .error failure →
    ((release id).exec session log).1.2 = session
  releaseNamed : ∀ name log failure, ((releaseNamed name).exec session log).1.1 = .error failure →
    ((releaseNamed name).exec session log).1.2 = session

theorem unmoved (h : session.Coherent) : Unmoved session where
  resolve id log := by
    rcases resolve_cases session id log with ⟨reason, hexec⟩ | ⟨entry, -, hexec⟩ <;> rw [hexec]
  resolveKind kind id log := by
    rcases resolveKind_cases kind session id log with ⟨reason, hexec⟩ | ⟨topic, -, hexec⟩ <;>
      rw [hexec]
  topics log := by
    rw [topics_exec h]
  release id log failure := by
    rcases release_cases h id log with ⟨text, hexec⟩ | ⟨entry, next, -, hexec⟩
    · rw [hexec]
      exact fun _ => rfl
    · rw [hexec]
      rintro ⟨⟩
  releaseNamed name log failure := by
    rcases releaseNamed_cases h name log with ⟨text, hexec⟩ | ⟨id, entry, next, -, -, hexec⟩
    · rw [hexec]
      exact fun _ => rfl
    · rw [hexec]
      rintro ⟨⟩

end Registry

namespace Session

variable {start session : Session} {turns : List Turn}

theorem Turn.moved_asks (hb : session.Coherent) {request : Registry.Request} {spec : TopicSpec}
    {exact : Bool} (hasks : request.Asks session.registry.settings spec exact) (log : Log) :
    let turn : Turn := ⟨session, _, _, .registry session log request⟩
    turn.before.Moved turn.after turn.makes.toNat turn.releases.toNat turn.looksUp.toNat
      turn.mismatches.toNat := by
  have hmoved := (Registry.perform_obtained hb hasks log).moved
  simp only [makes, releases, mismatches, looksUp, hasks.spec?_eq, hasks.looksUp_eq,
    hasks.isRelease_eq, Option.isSome_some, Bool.true_and, Bool.false_and]
  exact hmoved

theorem Turn.moved (turn : Turn) (hb : turn.before.Coherent) :
    turn.before.Moved turn.after turn.makes.toNat turn.releases.toNat turn.looksUp.toNat
      turn.mismatches.toNat := by
  obtain ⟨before, event, after, step⟩ := turn
  cases step with
  | bus log request held => exact .still rfl rfl
  | registry log request =>
      have hunmoved := Registry.unmoved hb
      cases request with
      | obtainByte name capacity => exact moved_asks hb (.byte name capacity) log
      | obtainBounded name capacity payloadSize =>
          exact moved_asks hb (.bounded name capacity payloadSize) log
      | obtainTyped name capacity messageSize =>
          exact moved_asks hb (.typed name capacity messageSize) log
      | find kind name =>
          simp only [makes, releases, mismatches, looksUp, Registry.perform, ← map_eq_pure_bind,
            exec_map]
          exact Registry.find_moved kind name before log
      | resolve id =>
          simp only [Registry.perform, ← map_eq_pure_bind, exec_map, hunmoved.resolve]
          exact .still rfl rfl
      | resolveKind kind id =>
          simp only [Registry.perform, ← map_eq_pure_bind, exec_map, hunmoved.resolveKind]
          exact .still rfl rfl
      | release id =>
          simp only [makes, releases, mismatches, looksUp, Registry.perform, ← map_eq_pure_bind,
            exec_map, Registry.isOk_map]
          exact Registry.release_moved hb id log
      | releaseNamed name =>
          simp only [makes, releases, mismatches, looksUp, Registry.perform_releaseNamed,
            Registry.isOk_map]
          exact Registry.releaseNamed_moved hb name log
      | topics =>
          simp only [Registry.perform, ← map_eq_pure_bind, exec_map, hunmoved.topics]
          exact .still rfl rfl

theorem countP_snoc (p : Turn → Bool) (turns : List Turn) (turn : Turn) :
    (turns ++ [turn]).countP p = turns.countP p + (p turn).toNat := by
  rw [List.countP_append, List.countP_singleton]
  cases p turn <;> rfl

theorem Path.coherent (h : Path start turns session) (hb : start.Coherent) : session.Coherent := by
  induction h with
  | nil => exact hb
  | snoc turn _ ih => exact turn.step.coherent ih

theorem Path.moved (h : Path start turns session) (hb : start.Coherent) :
    start.Moved session (turns.countP Turn.makes) (turns.countP Turn.releases)
      (turns.countP Turn.looksUp) (turns.countP Turn.mismatches) := by
  induction h with
  | nil => exact .still rfl rfl
  | snoc turn path ih =>
      simp only [countP_snoc]
      exact ih.trans (turn.moved (path.coherent hb))

theorem Run.exists_path {events : List Event} (h : Run start events session) :
    ∃ turns, Path start turns session ∧ turns.map Turn.event = events := by
  induction h with
  | nil => exact ⟨[], .nil start, rfl⟩
  | @snoc middle after events event run step ih =>
      obtain ⟨turns, hpath, rfl⟩ := ih
      exact ⟨turns ++ [⟨middle, event, after, step⟩], .snoc ⟨_, _, _, step⟩ hpath, by simp⟩

namespace Turn

variable (turn : Turn)

theorem asks_of_makes (h : turn.makes = true) : turn.asks = true := by
  obtain ⟨before, _ | _, after, step⟩ := turn
  · rfl
  · cases h

theorem asks_of_looksUp (h : turn.looksUp = true) : turn.asks = true := by
  obtain ⟨before, _ | _, after, step⟩ := turn
  · rfl
  · cases h

theorem looksUp_of_mismatches (h : turn.mismatches = true) : turn.looksUp = true := by
  obtain ⟨before, _ | _, after, step⟩ := turn
  · exact (Bool.and_eq_true_iff.mp h).1
  · cases h

end Turn

end Session

namespace Registry

/-- The counters say how many of the turns since the registry was made were what, so topics made and
not released are those that are there. -/
structure Exact (registry : Registry) (turns : List Session.Turn) : Prop where
  created_eq : registry.counters.created.toNat = turns.countP Session.Turn.makes
  released_eq : registry.counters.released.toNat = turns.countP Session.Turn.releases
  lookups_eq : registry.counters.lookups.toNat = turns.countP Session.Turn.looksUp
  mismatches_eq : registry.counters.mismatches.toNat = turns.countP Session.Turn.mismatches
  released_le : registry.counters.released.toNat ≤ registry.counters.created.toNat
  live_eq : registry.counters.created.toNat - registry.counters.released.toNat = registry.size
  mismatches_le : registry.counters.mismatches.toNat ≤ registry.counters.lookups.toNat

variable {settings : RegistrySettings} {registry : Registry} {bus : Bus} {session : Session}
  {turns : List Session.Turn}

theorem exact_of_path (hcreate : Registry.create settings = .ok registry)
    (hpath : Session.Path ⟨registry, bus⟩ turns session)
    (hfew : turns.countP Session.Turn.asks < 2 ^ 64) : session.registry.Exact turns := by
  have hmoved := hpath.moved (create_coherent hcreate bus)
  obtain ⟨-, rfl⟩ := create_eq_ok hcreate
  have hmakes : turns.countP Session.Turn.makes ≤ turns.countP Session.Turn.asks :=
    List.countP_mono_left fun turn _ => turn.asks_of_makes
  have hlooks : turns.countP Session.Turn.looksUp ≤ turns.countP Session.Turn.asks :=
    List.countP_mono_left fun turn _ => turn.asks_of_looksUp
  have hmismatches : turns.countP Session.Turn.mismatches ≤ turns.countP Session.Turn.looksUp :=
    List.countP_mono_left fun turn _ => turn.looksUp_of_mismatches
  have hsize : session.registry.size + turns.countP Session.Turn.releases =
      0 + turns.countP Session.Turn.makes := hmoved.size_eq
  have htoNat {word : UInt64} {count : Nat} (hword : word = 0 + .ofNat count)
      (hcount : count < 2 ^ 64) : word.toNat = count := by
    rw [hword, UInt64.zero_add]
    exact UInt64.toNat_ofNat_of_lt' hcount
  have hcreated := htoNat hmoved.created_eq (by omega)
  have hreleased := htoNat hmoved.released_eq (by omega)
  have hlookups := htoNat hmoved.lookups_eq (by omega)
  have hdisagreed := htoNat hmoved.mismatches_eq (by omega)
  constructor <;> omega

/-- In a run with fewer than 2^64 requests to the registry its counters are exact. Requests that only
look at topics and releases that fail change nothing in any of them. -/
theorem run_counters_exact (hcreate : Registry.create settings = .ok registry)
    (hpath : Session.Path ⟨registry, bus⟩ turns session)
    (hfew : turns.countP Session.Turn.asks < 2 ^ 64) :
    session.registry.Exact turns ∧ Unmoved session :=
  ⟨exact_of_path hcreate hpath hfew, unmoved (hpath.coherent (create_coherent hcreate bus))⟩

/-- A topic is made, asked for as one of another kind, found and released; a request without a name is
no look-up. -/
theorem run_counters_exact_mixed :
    ∃ (turns : List Session.Turn) (session : Session),
      Session.Path ⟨{ settings := { maxTopics := 2 } }, {}⟩ turns session ∧
      session.registry.counters.created.toNat = 1 ∧
      session.registry.counters.released.toNat = 1 ∧
      session.registry.counters.lookups.toNat = 3 ∧
      session.registry.counters.mismatches.toNat = 1 ∧ session.registry.size = 0 ∧
      Unmoved session := by
  have hcreate : Registry.create { maxTopics := 2 } = .ok { settings := { maxTopics := 2 } } := rfl
  let turn (before : Session) (request : Request) : Session.Turn :=
    ⟨before, _, _, .registry before #[] request⟩
  let made := turn ⟨{ settings := { maxTopics := 2 } }, {}⟩ (.obtainByte "a" 1)
  let refused := turn made.after (.obtainTyped "a" 1 4)
  let nameless := turn refused.after (.obtainByte "" 1)
  let found := turn nameless.after (.find .byte "a")
  let released := turn found.after (.releaseNamed "a")
  have hpath : Session.Path made.before [made, refused, nameless, found, released] released.after :=
    .snoc released (.snoc found (.snoc nameless (.snoc refused (.snoc made (.nil _)))))
  obtain ⟨hexact, hunmoved⟩ := run_counters_exact hcreate hpath (by decide +kernel)
  have hcreated := hexact.created_eq.trans (show _ = 1 by decide +kernel)
  have hreleased := hexact.released_eq.trans (show _ = 1 by decide +kernel)
  refine ⟨_, _, hpath, hcreated, hreleased, hexact.lookups_eq.trans (by decide +kernel),
    hexact.mismatches_eq.trans (by decide +kernel), ?_, hunmoved⟩
  rw [← hexact.live_eq, hcreated, hreleased]

end Registry

end TopicBus
