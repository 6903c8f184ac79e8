import TopicBus.Proofs.Session.Run

namespace TopicBus

open Op

namespace TopicSpec

structure Valid (spec : TopicSpec) : Prop where
  name_ne : spec.name ≠ ""
  name_le : spec.name.utf8ByteSize ≤ 255
  capacity_pos : 1 ≤ spec.capacity
  capacity_le : spec.capacity ≤ 16777216
  payload_pos : 1 ≤ spec.payloadSize
  payload_le : spec.payloadSize ≤ 1048576

variable {spec : TopicSpec}

theorem Valid.check_eq (h : spec.Valid) : spec.check = .ok () := by
  have hname : spec.name.isEmpty = false := by
    rw [Bool.eq_false_iff, ne_eq, String.isEmpty_iff]
    exact h.name_ne
  have hlong := Nat.not_lt.mpr h.name_le
  have hcapacity : ¬(spec.capacity = 0 ∨ Limits.topicCapacity < spec.capacity) := by
    have hpos := h.capacity_pos
    have hle := h.capacity_le
    simp only [Limits.topicCapacity]
    omega
  have hpayload : ¬(spec.payloadSize = 0 ∨ Limits.slotPayload < spec.payloadSize) := by
    have hpos := h.payload_pos
    have hle := h.payload_le
    simp only [Limits.slotPayload]
    omega
  simp only [check, hname, Bool.false_eq_true, if_false, Limits.topicName, hlong, hcapacity,
    hpayload]

theorem check_invalid (h : ¬spec.Valid) :
    ∃ parameter message, spec.check = .error (.invalidParameter parameter message) := by
  simp only [check]
  split
  · exact ⟨_, _, rfl⟩
  · rename_i hname
    split
    · exact ⟨_, _, rfl⟩
    · rename_i hlong
      split
      · exact ⟨_, _, rfl⟩
      · rename_i hcapacity
        split
        · exact ⟨_, _, rfl⟩
        · rename_i hpayload
          rw [String.isEmpty_iff] at hname
          simp only [Limits.topicName] at hlong
          simp only [Limits.topicCapacity] at hcapacity
          simp only [Limits.slotPayload] at hpayload
          exact absurd ⟨hname, by omega, by omega, by omega, by omega, by omega⟩ h

def blockSize (spec : TopicSpec) : Nat :=
  spec.capacity * (Header.size spec.kind + spec.payloadSize)

/-- The block of the largest topic is far from what an address space can provide. -/
theorem Valid.blockSize_lt (h : spec.Valid) : spec.blockSize < Limits.addressSpace := by
  have hheader : Header.size spec.kind ≤ 12 := by
    cases spec.kind <;> decide
  exact (Nat.mul_le_mul h.capacity_le (Nat.add_le_add hheader h.payload_le)).trans_lt (by decide)

def Valid.layout (h : spec.Valid) : Layout :=
  ⟨spec.kind, spec.payloadSize, h.payload_pos, h.payload_le⟩

theorem Valid.layout_eq (h : spec.Valid) :
    Layout.create spec.kind spec.payloadSize = .ok h.layout :=
  dif_pos ⟨h.payload_pos, h.payload_le⟩

theorem Valid.create_eq (h : spec.Valid) (memory : Nat) :
    Ring.create spec.capacity h.layout memory =
      if memory ≤ spec.blockSize then .error (.allocationFailure "Failed to allocate slot ring")
      else .ok ⟨h.layout, spec.capacity, h.capacity_pos, {}, 0, 0⟩ := by
  have hsize : spec.capacity * h.layout.slotSize = spec.blockSize := rfl
  have hblock := h.blockSize_lt
  have hpos : spec.capacity ≠ 0 := Nat.ne_of_gt h.capacity_pos
  rw [Ring.create, dif_neg hpos, hsize, if_neg (Nat.not_le.mpr (hblock.trans (by decide))),
    if_neg (Nat.not_le.mpr (hblock.trans (by decide)))]

theorem Valid.makes (h : spec.Valid) {memory : Nat} (hmemory : spec.blockSize < memory) :
    ∃ ring, spec.Makes memory spec.kind ring := by
  have hmade := (h.create_eq memory).trans (if_neg (Nat.not_le.mpr hmemory))
  exact ⟨⟨h.layout, spec.capacity, h.capacity_pos, {}, 0, 0⟩, h.check_eq, rfl, h.layout_eq, hmade⟩

theorem Valid.ofSpec_denied (h : spec.Valid) {bus : Bus} (hmemory : bus.memory ≤ spec.blockSize)
    (id : TopicId) (log : Log) :
    (Topic.ofSpec spec.kind spec id).exec bus log =
      ((.error (.refused (.allocationFailure "Failed to allocate slot ring")), bus), log) := by
  have hdenied := (h.create_eq bus.memory).trans (if_pos hmemory)
  simp only [Topic.ofSpec, Topic.create, exec_bind, exec_liftRefusal, h.check_eq, h.layout_eq,
    exec_get, hdenied, Except.mapError, ne_eq, not_true, if_false]

end TopicSpec

theorem SomeTopic.ofKind?_self {kind : Kind} (topic : Topic kind) :
    (SomeTopic.mk kind topic).ofKind? kind = some topic := dif_pos rfl

namespace Registry

/-- In which respect a topic is not the one asked for: kind, else capacity, else payload size, the
last only where the request is exact. -/
inductive Mismatch (live : SomeTopic) (ring : Ring) (spec : TopicSpec) (exact : Bool) :
    Refusal → Prop
  | kind (hkind : live.kind ≠ spec.kind) :
      Mismatch live ring spec exact (.kindMismatch spec.name live.kind spec.kind)
  | capacity (hkind : live.kind = spec.kind) (hcapacity : ring.capacity ≠ spec.capacity) :
      Mismatch live ring spec exact (.capacityMismatch spec.name ring.capacity spec.capacity)
  | size (hkind : live.kind = spec.kind) (hcapacity : ring.capacity = spec.capacity)
      (hexact : exact = true) (hsize : ring.layout.payloadSize ≠ spec.payloadSize) :
      Mismatch live ring spec exact (.sizeMismatch ring.layout.payloadSize spec.payloadSize)

variable {live : SomeTopic} {ring : Ring} {spec : TopicSpec} {exact : Bool} {reason : Refusal}

theorem Mismatch.matching_eq (h : Mismatch live ring spec exact reason) :
    matching spec.kind live ring spec exact = .error reason := by
  obtain ⟨kind, topic⟩ := live
  cases h with
  | kind hkind => rw [matching, SomeTopic.ofKind?, dif_neg hkind]
  | capacity hkind hcapacity =>
      cases hkind
      simp only [matching, SomeTopic.ofKind?_self, ne_eq, hcapacity, not_false_eq_true, if_true]
  | size hkind hcapacity hexact hsize =>
      cases hkind
      simp only [matching, SomeTopic.ofKind?_self, ne_eq, hcapacity, not_true, if_false, hexact,
        hsize, not_false_eq_true, and_self, if_true]

theorem matching_of_agree (h : ∀ reason, ¬Mismatch live ring spec exact reason) :
    ∃ topic : Topic spec.kind, live = ⟨spec.kind, topic⟩ ∧
      matching spec.kind live ring spec exact = .ok topic := by
  obtain ⟨kind, topic⟩ := live
  have hkind : kind = spec.kind := by
    by_contra hne
    exact h _ (.kind hne)
  cases hkind
  have hcapacity : ring.capacity = spec.capacity := by
    by_contra hne
    exact h _ (.capacity rfl hne)
  have hsize : ¬(exact = true ∧ ring.layout.payloadSize ≠ spec.payloadSize) := by
    rintro ⟨hexact, hne⟩
    exact h _ (.size rfl hcapacity hexact hne)
  refine ⟨topic, rfl, ?_⟩
  simp only [matching, SomeTopic.ofKind?_self, hcapacity, ne_eq, not_true, if_false]
  exact if_neg hsize

variable {session : Session} {kind : Kind} {log : Log}

theorem obtain_invalid (hcheck : spec.check = .error reason) :
    (obtain kind spec exact).exec session log = ((.error (.refused reason), session), log) := by
  simp only [obtain, exec_bind, exec_liftRefusal, hcheck, Except.mapError]

theorem obtain_named {storage : Storage} (hvalid : spec.Valid)
    (hnamed : session.registry.directory.named? spec.name = some live)
    (hstorage : session.bus.storages[live.topic.storage]? = some storage) :
    ((obtain kind spec exact).exec session log).1 =
      match matching kind live storage.ring spec exact with
      | .ok topic => (.ok topic, session.counted RegistryCounters.countLookup)
      | .error reason => (.error (.refused reason),
          (session.counted RegistryCounters.countLookup).counted
            RegistryCounters.countMismatch) := by
  let counted := session.counted RegistryCounters.countLookup
  have hnamed' : counted.registry.directory.named? spec.name = some live := hnamed
  have hstate : (onBus live.topic.state).exec counted log = ((.ok storage, counted), log) := by
    rw [onBus_exec, live.topic.state_exec (show counted.bus.storages[_]? = _ from hstorage)]
  simp only [obtain, exec_bind, exec_liftRefusal, hvalid.check_eq, Except.mapError, count_exec,
    getDirectory_exec]
  rw [hnamed']
  simp only [obtainExisting, exec_bind]
  rw [hstate]
  dsimp only
  cases matching kind live storage.ring spec exact with
  | ok topic => rfl
  | error reason => rfl

theorem obtain_unnamed (hvalid : spec.Valid)
    (hnamed : session.registry.directory.named? spec.name = none) :
    (obtain kind spec exact).exec session log =
      (register kind spec).exec (session.counted RegistryCounters.countLookup) log := by
  have hnamed' : (session.counted RegistryCounters.countLookup).registry.directory.named?
      spec.name = none := hnamed
  simp only [obtain, exec_bind, exec_liftRefusal, hvalid.check_eq, Except.mapError, count_exec,
    getDirectory_exec]
  rw [hnamed']

theorem register_full (session : Session)
    (hfull : session.registry.settings.maxTopics ≤ session.registry.size) :
    let max := session.registry.settings.maxTopics
    ((register kind spec).exec session log).1 =
      (.error (.refused (.allocationFailure s!"Registry limit of {max} topics reached")),
        session) := by
  simp only [register, exec_bind, exec_get, hfull, if_true, exec_log, exec_refuse]

theorem register_denied (hb : session.Coherent) (hvalid : spec.Valid)
    (hroom : session.registry.size < session.registry.settings.maxTopics)
    (hmemory : session.bus.memory ≤ spec.blockSize) (log : Log) :
    ((register spec.kind spec).exec (session.counted RegistryCounters.countLookup) log).1 =
      (.error (.refused (.allocationFailure "Failed to allocate slot ring")),
        session.counted RegistryCounters.countLookup) := by
  let counted := session.counted RegistryCounters.countLookup
  replace hb : counted.Coherent := hb.counted
  replace hroom : counted.registry.size < counted.registry.settings.maxTopics := hroom
  replace hmemory : counted.bus.memory ≤ spec.blockSize := hmemory
  show ((register spec.kind spec).exec counted log).1 = (_, counted)
  obtain ⟨id, hid, -⟩ := hb.directory.freshId_eq_ok (hroom.trans_le hb.max_le)
  simp only [register, exec_bind, exec_get, Nat.not_le.mpr hroom, if_false, exec_liftFailure, hid,
    onBus_exec, hvalid.ofSpec_denied hmemory]

/-- A topic was made to the spec and entered, with an empty ring of its own; beside it everything
is as before. -/
structure Created (before : Session) (spec : TopicSpec) (topic : Topic spec.kind)
    (after : Session) : Prop where
  name_eq : topic.name = spec.name
  id_fresh : before.registry.directory.get? topic.id = none
  storage_fresh : topic.storage = before.bus.storages.size
  names_eq : ∀ name, after.registry.directory.names[name]? =
    if spec.name = name then some topic.id else before.registry.directory.names[name]?
  get?_eq : ∀ id, after.registry.directory.get? id =
    if id = topic.id then some ⟨spec.kind, topic⟩ else before.registry.directory.get? id
  size_eq : after.registry.size = before.registry.size + 1
  counters_eq : after.registry.counters = before.registry.counters.countLookup.countCreated
  settings_eq : after.registry.settings = before.registry.settings
  consistent : after.registry.Consistent
  bus_eq : ∃ (layout : Layout) (ring : Ring), layout.kind = spec.kind ∧
    layout.payloadSize = spec.payloadSize ∧
    ring.Holds { layout, capacity := spec.capacity } ∧
    after.bus = { before.bus with storages := before.bus.storages.push { ring } }

theorem register_created (hb : session.Coherent) (hvalid : spec.Valid)
    (hvacant : session.registry.directory.names[spec.name]? = none)
    (hroom : session.registry.size < session.registry.settings.maxTopics)
    (hmemory : spec.blockSize < session.bus.memory) (log : Log) :
    ∃ (topic : Topic spec.kind) (after : Session),
      ((register spec.kind spec).exec (session.counted RegistryCounters.countLookup) log).1 =
        (.ok topic, after) ∧ session.registry.directory.freshId = .ok topic.id ∧
      Created session spec topic after := by
  obtain ⟨ring, makes⟩ := hvalid.makes hmemory
  let counted := session.counted RegistryCounters.countLookup
  have hcounted : counted.Coherent := hb.counted
  obtain ⟨id, next, log', hid, hfresh, hinsert, hexec⟩ := register_exec hcounted makes hroom log
  let topic : Topic spec.kind := ⟨spec.name, id, session.bus.storages.size⟩
  let after := entered counted next ring
  replace hfresh : session.registry.directory.Fresh id := hfresh
  replace hinsert : session.registry.directory.insert id ⟨spec.kind, topic⟩ = .ok next := hinsert
  have hentered := hfresh.entered hinsert
  have hcoherent : after.Coherent := by
    have hgrown : session.bus.storages.size ≤ after.bus.storages.size := by
      show session.bus.storages.size ≤ (session.bus.storages.push { ring }).size
      rw [Array.size_push]
      exact Nat.le_succ _
    have heffect : Effect counted ((register spec.kind spec).exec counted log).1.2 _ :=
      register_effect hcounted hvacant
    rw [hexec] at heffect
    exact heffect.coherent hcounted hgrown
  obtain ⟨hkind, hsize⟩ := Layout.create_eq_ok makes.layout_eq
  refine ⟨topic, after, congrArg (·.1) hexec, hid, rfl, ?_, rfl, ?_, ?_, ?_, rfl, rfl,
    hcoherent.consistent, ring.layout, ring, hkind, hsize, Ring.create_holds makes.ring_eq, rfl⟩
  · cases hget : session.registry.directory.get? id with
    | none => rfl
    | some entry => exact absurd (Directory.get?_eq_some_iff.mp hget) (hfresh.vacant _ _)
  · intro name
    show next.names[name]? = _
    rw [hentered.names_eq, Std.TreeMap.getElem?_insert]
    simp only [Std.compare_eq_iff_eq]
    rfl
  · intro other
    show next.get? other = _
    split
    · rename_i hother
      exact (hfresh.get?_insert hinsert).mpr (.inl ⟨hother, rfl⟩)
    · rename_i hother
      apply Option.ext
      intro found
      rw [hfresh.get?_insert hinsert]
      simp only [show other ≠ id from hother, false_and, false_or]
  · exact hfresh.size_names hvacant hinsert

/-- The requests for a topic by name, and what each asks for. One that leaves the payload size to
the registry takes a topic of any. -/
inductive Request.Asks (settings : RegistrySettings) :
    Request → TopicSpec → (exact : Bool) → Prop
  | byte (name : String) (capacity : Nat) :
      Asks settings (.obtainByte name capacity) ⟨name, .byte, capacity, settings.payloadBound⟩ false
  | bounded (name : String) (capacity payloadSize : Nat) :
      Asks settings (.obtainBounded name capacity payloadSize)
        ⟨name, .byte, capacity, payloadSize⟩ true
  | typed (name : String) (capacity messageSize : Nat) :
      Asks settings (.obtainTyped name capacity messageSize)
        ⟨name, .typed, capacity, messageSize⟩ true

theorem perform_asks {request : Request}
    (h : request.Asks session.registry.settings spec exact) :
    (perform request).exec session log =
      ((((obtain spec.kind spec exact).exec session log).1.1.map fun topic =>
          .topic ⟨spec.kind, topic⟩, ((obtain spec.kind spec exact).exec session log).1.2),
        ((obtain spec.kind spec exact).exec session log).2) := by
  cases h with
  | byte name capacity =>
      simp only [perform, ← map_eq_pure_bind, exec_map, obtainByte, exec_bind, exec_get]
      rfl
  | bounded name capacity payloadSize =>
      simp only [perform, ← map_eq_pure_bind, exec_map, obtainBounded]
      rfl
  | typed name capacity messageSize =>
      simp only [perform, ← map_eq_pure_bind, exec_map, obtainTyped]
      rfl

/-- All that can come of a request for a topic by name. -/
structure Obtained (session : Session) (spec : TopicSpec) (exact : Bool) (log : Log)
    (result : (Except Failure Reply × Session) × Log) : Prop where
  invalid : ¬spec.Valid → ∃ parameter message,
    result = ((.error (.refused (.invalidParameter parameter message)), session), log)
  named : spec.Valid → ∀ live, session.registry.directory.named? spec.name = some live →
    ∃ storage, session.bus.storages[live.topic.storage]? = some storage ∧
      (∀ reason, Mismatch live storage.ring spec exact reason →
        result.1 = (.error (.refused reason),
          (session.counted RegistryCounters.countLookup).counted
            RegistryCounters.countMismatch)) ∧
      ((∀ reason, ¬Mismatch live storage.ring spec exact reason) →
        result.1 = (.ok (.topic live), session.counted RegistryCounters.countLookup))
  full : spec.Valid → session.registry.directory.named? spec.name = none →
    session.registry.settings.maxTopics ≤ session.registry.size →
    let max := session.registry.settings.maxTopics
    result.1 = (.error (.refused (.allocationFailure s!"Registry limit of {max} topics reached")),
      session.counted RegistryCounters.countLookup)
  denied : spec.Valid → session.registry.directory.named? spec.name = none →
    session.registry.size < session.registry.settings.maxTopics →
    session.bus.memory ≤ spec.blockSize →
    result.1 = (.error (.refused (.allocationFailure "Failed to allocate slot ring")),
      session.counted RegistryCounters.countLookup)
  created : spec.Valid → session.registry.directory.named? spec.name = none →
    session.registry.size < session.registry.settings.maxTopics →
    spec.blockSize < session.bus.memory →
    ∃ (topic : Topic spec.kind) (after : Session),
      result.1 = (.ok (.topic ⟨spec.kind, topic⟩), after) ∧ Created session spec topic after

theorem perform_obtained (hb : session.Coherent) {request : Request}
    (hasks : request.Asks session.registry.settings spec exact) (log : Log) :
    Obtained session spec exact log ((perform request).exec session log) := by
  rw [perform_asks hasks]
  constructor
  case invalid =>
    intro hinvalid
    obtain ⟨parameter, message, hcheck⟩ := TopicSpec.check_invalid hinvalid
    rw [obtain_invalid hcheck]
    exact ⟨parameter, message, rfl⟩
  case named =>
    intro hvalid live hnamed
    obtain ⟨id, hid⟩ := Directory.lists_of_named? hnamed
    have hstorage := Array.getElem?_eq_getElem (hb.storage_lt id live hid)
    refine ⟨_, hstorage, ?_, ?_⟩
    · intro reason hmismatch
      rw [obtain_named hvalid hnamed hstorage, hmismatch.matching_eq]
      rfl
    · intro hagree
      obtain ⟨topic, hlive, hmatching⟩ := matching_of_agree hagree
      rw [obtain_named hvalid hnamed hstorage, hmatching, hlive]
      rfl
  case full =>
    intro hvalid hnamed hfull
    have hregister : ((register spec.kind spec).exec _ log).1 = _ :=
      register_full (session.counted RegistryCounters.countLookup) hfull
    rw [obtain_unnamed hvalid hnamed, hregister]
    rfl
  case denied =>
    intro hvalid hnamed hroom hmemory
    rw [obtain_unnamed hvalid hnamed, register_denied hb hvalid hroom hmemory]
    rfl
  case created =>
    intro hvalid hnamed hroom hmemory
    have hvacant := hb.directory.names_eq_none hnamed
    obtain ⟨topic, after, hexec, -, hcreated⟩ :=
      register_created hb hvalid hvacant hroom hmemory log
    rw [obtain_unnamed hvalid hnamed, hexec]
    exact ⟨topic, after, rfl, hcreated⟩

/-- What there is too little of for a new topic, by the message of the refusal. -/
inductive Lacks (session : Session) (spec : TopicSpec) : String → Prop
  | room {max : Nat} (hmax : session.registry.settings.maxTopics = max)
      (hfull : max ≤ session.registry.size) :
      Lacks session spec s!"Registry limit of {max} topics reached"
  | memory (hmemory : session.bus.memory ≤ spec.blockSize) :
      Lacks session spec "Failed to allocate slot ring"

/-- The answer to a request for a topic by name and the session afterwards, case by case. -/
inductive Outcome (session : Session) (spec : TopicSpec) (exact : Bool) :
    Except Failure Reply → Session → Prop
  | invalid (hinvalid : ¬spec.Valid) (parameter message : String) :
      Outcome session spec exact (.error (.refused (.invalidParameter parameter message))) session
  | mismatch {live : SomeTopic} {storage : Storage} {reason : Refusal} (hvalid : spec.Valid)
      (hnamed : session.registry.directory.named? spec.name = some live)
      (hmismatch : Mismatch live storage.ring spec exact reason) :
      Outcome session spec exact (.error (.refused reason))
        ((session.counted RegistryCounters.countLookup).counted RegistryCounters.countMismatch)
  | found {live : SomeTopic} {storage : Storage} (hvalid : spec.Valid)
      (hnamed : session.registry.directory.named? spec.name = some live)
      (hstorage : session.bus.storages[live.topic.storage]? = some storage)
      (hagree : ∀ reason, ¬Mismatch live storage.ring spec exact reason) :
      Outcome session spec exact (.ok (.topic live)) (session.counted RegistryCounters.countLookup)
  | lacking {message : String} (hvalid : spec.Valid)
      (hnamed : session.registry.directory.named? spec.name = none)
      (hlacks : Lacks session spec message) :
      Outcome session spec exact (.error (.refused (.allocationFailure message)))
        (session.counted RegistryCounters.countLookup)
  | created {topic : Topic spec.kind} {after : Session} (hvalid : spec.Valid)
      (hnamed : session.registry.directory.named? spec.name = none)
      (hcreated : Created session spec topic after) :
      Outcome session spec exact (.ok (.topic ⟨spec.kind, topic⟩)) after

theorem Obtained.outcome {result : (Except Failure Reply × Session) × Log}
    (h : Obtained session spec exact log result) :
    Outcome session spec exact result.1.1 result.1.2 := by
  by_cases hvalid : spec.Valid
  · cases hnamed : session.registry.directory.named? spec.name with
    | some live =>
        obtain ⟨storage, hstorage, hmismatch, hagree⟩ := h.named hvalid live hnamed
        by_cases hfits : ∀ reason, ¬Mismatch live storage.ring spec exact reason
        · rw [hagree hfits]
          exact .found hvalid hnamed hstorage hfits
        · obtain ⟨reason, hreason⟩ := not_forall_not.mp hfits
          rw [hmismatch reason hreason]
          exact .mismatch hvalid hnamed hreason
    | none =>
        rcases Nat.lt_or_ge session.registry.size session.registry.settings.maxTopics with
          hroom | hfull
        · rcases Nat.lt_or_ge spec.blockSize session.bus.memory with hmemory | hmemory
          · obtain ⟨topic, after, hresult, hcreated⟩ := h.created hvalid hnamed hroom hmemory
            rw [hresult]
            exact .created hvalid hnamed hcreated
          · rw [h.denied hvalid hnamed hroom hmemory]
            exact .lacking hvalid hnamed (.memory hmemory)
        · rw [h.full hvalid hnamed hfull]
          exact .lacking hvalid hnamed (.room rfl hfull)
  · obtain ⟨parameter, message, hresult⟩ := h.invalid hvalid
    rw [hresult]
    exact .invalid hvalid parameter message

end Registry

theorem Directory.Coherent.named?_iff {directory : Directory} (h : directory.Coherent)
    {name : String} {entry : SomeTopic} :
    directory.named? name = some entry ↔ directory.Lists entry ∧ entry.topic.name = name := by
  rw [named?, Option.bind_eq_some_iff]
  constructor
  · rintro ⟨id, hid, hget⟩
    refine ⟨⟨id, hget⟩, ?_⟩
    obtain ⟨found, hplace, hname, -⟩ := (h.names_iff name id).mp hid
    rw [get?_eq_some_iff, hplace] at hget
    cases hget
    exact hname
  · rintro ⟨⟨id, hget⟩, rfl⟩
    exact ⟨id, h.names_of_get? hget, hget⟩

structure Session.Fulfils (session : Session) (entry : SomeTopic) (spec : TopicSpec)
    (exact : Bool) : Prop where
  valid : spec.Valid
  listed : session.registry.directory.Lists entry
  name_eq : entry.topic.name = spec.name
  agrees : ∃ storage, session.bus.storages[entry.topic.storage]? = some storage ∧
    ∀ reason, ¬Registry.Mismatch entry storage.ring spec exact reason

namespace Registry

variable {session after : Session} {spec : TopicSpec} {exact : Bool} {log : Log}
  {entry : SomeTopic} {outcome : Except Failure Reply}

theorem Mismatch.same {ring ring' : Ring} {reason : Refusal}
    (h : Mismatch entry ring' spec exact reason) (hlayout : ring'.layout = ring.layout)
    (hcapacity : ring'.capacity = ring.capacity) : Mismatch entry ring spec exact reason := by
  cases h with
  | kind hkind => exact .kind hkind
  | capacity hkind hother =>
      rw [hcapacity] at hother ⊢
      exact .capacity hkind hother
  | size hkind hsame hexact hsize =>
      rw [hcapacity] at hsame
      rw [hlayout] at hsize ⊢
      exact .size hkind hsame hexact hsize

theorem Created.fulfils {topic : Topic spec.kind} (h : Created session spec topic after)
    (hvalid : spec.Valid) : after.Fulfils ⟨spec.kind, topic⟩ spec exact := by
  obtain ⟨layout, ring, -, hsize, hholds, hbus⟩ := h.bus_eq
  refine ⟨hvalid, ⟨topic.id, by rw [h.get?_eq, if_pos rfl]⟩, h.name_eq, { ring }, ?_, ?_⟩
  · rw [hbus, h.storage_fresh]
    exact Array.getElem?_push_size
  · rintro reason (hkind | ⟨-, hcapacity⟩ | ⟨-, -, -, hother⟩)
    · exact hkind rfl
    · exact hcapacity hholds.capacity_eq
    · exact hother (hholds.layout_eq ▸ hsize)

/-- A request for a topic by name is refused, or brings a topic that fulfils it: the one that goes
by the name, if one does. -/
theorem Obtained.cases {result : (Except Failure Reply × Session) × Log}
    (h : Obtained session spec exact log result) (hb : session.Coherent) :
    (∃ reason, result.1.1 = .error (.refused reason)) ∨
    ∃ entry, result.1.1 = .ok (.topic entry) ∧ result.1.2.Fulfils entry spec exact ∧
      ∀ live, session.registry.directory.named? spec.name = some live → live = entry := by
  have houtcome := h.outcome
  generalize result.1.1 = outcome, result.1.2 = after at houtcome ⊢
  cases houtcome with
  | invalid | mismatch | lacking => exact .inl ⟨_, rfl⟩
  | @found live storage hvalid hnamed hstorage hagree =>
      obtain ⟨hlists, hname⟩ := hb.directory.named?_iff.mp hnamed
      refine .inr ⟨live, rfl, ⟨hvalid, hlists, hname, storage, hstorage, hagree⟩, ?_⟩
      exact fun other hother => Option.some.inj (hother.symm.trans hnamed)
  | created hvalid hnamed hcreated =>
      refine .inr ⟨_, rfl, hcreated.fulfils hvalid, ?_⟩
      intro live hlive
      rw [hnamed] at hlive
      cases hlive

theorem Obtained.again {result : (Except Failure Reply × Session) × Log}
    (h : Obtained session spec exact log result) (hb : session.Coherent)
    (hfulfils : session.Fulfils entry spec exact) : result.1.1 = .ok (.topic entry) := by
  have hnamed := hb.directory.named?_iff.mpr ⟨hfulfils.listed, hfulfils.name_eq⟩
  obtain ⟨storage, hstorage, -, hagree⟩ := h.named hfulfils.valid entry hnamed
  obtain ⟨other, hother, hfits⟩ := hfulfils.agrees
  obtain rfl := Option.some.inj (hstorage.symm.trans hother)
  rw [hagree hfits]

end Registry

/-- In every session that a registry reaches, whatever was asked of it and of its topics before, a
request for a topic by name comes out as `Obtained` says. -/
theorem Registry.run_obtained {settings : RegistrySettings} {registry : Registry}
    (hcreate : Registry.create settings = .ok registry) {bus : Bus} {events : List Session.Event}
    {session : Session} (hrun : Session.Run ⟨registry, bus⟩ events session)
    {request : Registry.Request} {spec : TopicSpec} {exact : Bool}
    (hasks : request.Asks settings spec exact) (log : Log) :
    Registry.Obtained session spec exact log ((Registry.perform request).exec session log) := by
  have hstart := Registry.create_coherent hcreate bus
  apply Registry.perform_obtained (hrun.coherent hstart)
  have hsettings := hrun.settings_eq hstart
  obtain ⟨-, rfl⟩ := Registry.create_eq_ok hcreate
  rw [hsettings]
  exact hasks

/-- A name that is taken by a byte topic, asked for again as a typed one. -/
theorem Registry.run_obtained_other_kind :
    ∃ events session, Session.Run ⟨{ settings := { maxTopics := 1 } }, {}⟩ events session ∧
      ((Registry.perform (.obtainTyped "a" 1 4)).exec session #[]).1 =
        (.error (.refused (.kindMismatch "a" .byte .typed)),
          (session.counted RegistryCounters.countLookup).counted
            RegistryCounters.countMismatch) := by
  have hcreate : Registry.create { maxTopics := 1 } = .ok { settings := { maxTopics := 1 } } := rfl
  have hrun := (Session.Run.nil ⟨{ settings := { maxTopics := 1 } }, {}⟩).snoc
    (.registry _ #[] (.obtainByte "a" 1))
  have hobtained := Registry.run_obtained hcreate hrun (.typed "a" 1 4) #[]
  have hvalid : TopicSpec.Valid ⟨"a", .typed, 1, 4⟩ := by
    constructor <;> decide +kernel
  obtain ⟨storage, -, hmismatch, -⟩ := hobtained.named hvalid ⟨.byte, ⟨"a", ⟨0, 1⟩, 0⟩⟩ rfl
  exact ⟨_, _, hrun, hmismatch _ (.kind (by decide))⟩

end TopicBus
