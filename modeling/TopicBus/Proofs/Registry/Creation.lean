import TopicBus.Proofs.Registry.Obtain
import TopicBus.Proofs.Ring.Size

namespace TopicBus

open Op

namespace TopicSpec

variable {α β : Type} {spec : TopicSpec} {outcome : Except Failure α}

theorem check_eq_ok_iff : spec.check = .ok () ↔ spec.Valid := by
  constructor
  · intro hcheck
    by_contra hinvalid
    obtain ⟨parameter, message, herror⟩ := check_invalid hinvalid
    rw [hcheck] at herror
    cases herror
  · exact Valid.check_eq

/-- The outcome is a success where the check accepts and there is memory; it is the check's own
refusal where the check does not accept, and a want of memory elsewhere. -/
structure Decides (spec : TopicSpec) (memory : Nat) (outcome : Except Failure α) : Prop where
  ok_iff : (∃ value, outcome = .ok value) ↔ spec.check = .ok () ∧ spec.blockSize < memory
  error_iff : ∀ failure, outcome = .error failure ↔
    (∃ reason, spec.check = .error reason ∧ failure = .refused reason) ∨
    (spec.check = .ok () ∧ memory ≤ spec.blockSize ∧
      failure = .refused (.allocationFailure "Failed to allocate slot ring"))

variable {memory : Nat}

theorem decides_ok (hcheck : spec.check = .ok ()) (hmemory : spec.blockSize < memory) (value : α) :
    spec.Decides memory (.ok value : Except Failure α) := by
  constructor
  · exact iff_of_true ⟨value, rfl⟩ ⟨hcheck, hmemory⟩
  · intro failure
    simp [hcheck, Nat.not_le.mpr hmemory]

theorem decides_denied (hcheck : spec.check = .ok ()) (hmemory : memory ≤ spec.blockSize) :
    spec.Decides memory (.error (.refused
      (.allocationFailure "Failed to allocate slot ring")) : Except Failure α) := by
  constructor
  · simp [Nat.not_lt.mpr hmemory]
  · intro failure
    simp [hcheck, hmemory, eq_comm]

theorem decides_error {reason : Refusal} (hcheck : spec.check = .error reason) :
    spec.Decides memory (.error (.refused reason) : Except Failure α) := by
  constructor
  · simp [hcheck]
  · intro failure
    simp [hcheck, eq_comm]

theorem Decides.map (h : spec.Decides memory outcome) (f : α → β) :
    spec.Decides memory (outcome.map f) := by
  obtain ⟨hok, herror⟩ := h
  cases outcome with
  | ok value =>
      obtain ⟨hcheck, hmemory⟩ := hok.mp ⟨value, rfl⟩
      exact decides_ok hcheck hmemory (f value)
  | error failure =>
      rcases (herror failure).mp rfl with ⟨reason, hcheck, rfl⟩ | ⟨hcheck, hmemory, rfl⟩
      · exact decides_error hcheck
      · exact decides_denied hcheck hmemory

theorem ofSpec_decides (spec : TopicSpec) (id : TopicId) (bus : Bus) (log : Log) :
    spec.Decides bus.memory ((Topic.ofSpec spec.kind spec id).exec bus log).1.1 := by
  cases hcheck : spec.check with
  | ok =>
      have hvalid := check_eq_ok_iff.mp hcheck
      rcases Nat.lt_or_ge spec.blockSize bus.memory with hmemory | hmemory
      · obtain ⟨ring, hmakes⟩ := hvalid.makes hmemory
        rw [Topic.ofSpec_exec hmakes]
        exact decides_ok hcheck hmemory _
      · rw [hvalid.ofSpec_denied hmemory]
        exact decides_denied hcheck hmemory
  | error reason =>
      simp only [Topic.ofSpec, exec_bind, exec_liftRefusal, hcheck, Except.mapError]
      exact decides_error hcheck

/-- How topics to a spec are made outside of registries. -/
structure Standalone (spec : TopicSpec) : Prop where
  check_eq_ok_iff : spec.check = .ok () ↔ spec.Valid
  /-- Kind, layout and the size of the ring are never the reason for a refusal. -/
  makes : spec.check = .ok () → ∀ memory, spec.blockSize < memory →
    ∃ ring, spec.Makes memory spec.kind ring
  fits : spec.check = .ok () → spec.blockSize < Limits.addressSpace
  decides : ∀ bus log, spec.Decides bus.memory ((Topic.detached spec.kind spec).exec bus log).1.1

theorem standalone (spec : TopicSpec) : spec.Standalone where
  check_eq_ok_iff := check_eq_ok_iff
  makes := fun hcheck _ hmemory => (check_eq_ok_iff.mp hcheck).makes hmemory
  fits := fun hcheck => (check_eq_ok_iff.mp hcheck).blockSize_lt
  decides := spec.ofSpec_decides .detached

end TopicSpec

namespace Registry

variable {session : Session} {spec : TopicSpec} {exact : Bool}

theorem obtain_decides (hb : session.Coherent)
    (hnamed : session.registry.directory.named? spec.name = none)
    (hroom : session.registry.size < session.registry.settings.maxTopics) (log : Log) :
    spec.Decides session.bus.memory ((obtain spec.kind spec exact).exec session log).1.1 := by
  cases hcheck : spec.check with
  | ok =>
      have hvalid := TopicSpec.check_eq_ok_iff.mp hcheck
      rw [obtain_unnamed hvalid hnamed]
      rcases Nat.lt_or_ge spec.blockSize session.bus.memory with hmemory | hmemory
      · have hvacant := hb.directory.names_eq_none hnamed
        obtain ⟨topic, after, hexec, -, -⟩ := register_created hb hvalid hvacant hroom hmemory log
        rw [hexec]
        exact TopicSpec.decides_ok hcheck hmemory topic
      · rw [register_denied hb hvalid hroom hmemory]
        exact TopicSpec.decides_denied hcheck hmemory
  | error reason =>
      rw [obtain_invalid hcheck]
      exact TopicSpec.decides_error hcheck

theorem perform_decides (hb : session.Coherent) {request : Request}
    (hasks : request.Asks session.registry.settings spec exact)
    (hnamed : session.registry.directory.named? spec.name = none)
    (hroom : session.registry.size < session.registry.settings.maxTopics) (log : Log) :
    spec.Decides session.bus.memory ((perform request).exec session log).1.1 := by
  rw [perform_asks hasks]
  exact (obtain_decides hb hnamed hroom log).map _

/-- The check of its parameters decides whether a topic is made that there is memory for, standing
alone or in a registry that was reached by any run and has room for it. Each size that cannot be the
size of a ring is refused for what it is, and whatever is asked of a ring its slots share out a block
of the size that it was made with. -/
theorem creation_decided {settings : RegistrySettings} {registry : Registry}
    (hcreate : Registry.create settings = .ok registry) {bus : Bus} {events : List Session.Event}
    (hrun : Session.Run ⟨registry, bus⟩ events session) :
    (∀ spec : TopicSpec, spec.Standalone) ∧
    (∀ (request : Request) (spec : TopicSpec) (exact : Bool), request.Asks settings spec exact →
      session.registry.directory.named? spec.name = none →
      session.registry.size < settings.maxTopics →
      ∀ log, spec.Decides session.bus.memory ((perform request).exec session log).1.1) ∧
    ∀ capacity layout memory, Ring.Sized capacity layout memory := by
  have hstart := create_coherent hcreate bus
  have hsettings := hrun.settings_eq hstart
  obtain ⟨-, rfl⟩ := create_eq_ok hcreate
  refine ⟨TopicSpec.standalone, ?_, Ring.sized⟩
  intro request spec exact hasks hnamed hroom log
  have hsame : session.registry.settings = settings := hsettings
  subst hsame
  exact perform_decides (hrun.coherent hstart) hasks hnamed hroom log

/-- The largest topic that there can be, one byte more, and a ring whose block has 2^68 bytes. -/
theorem creation_decided_largest :
    let start : Session := ⟨{ settings := { maxTopics := 1 } }, {}⟩
    let made (capacity payloadSize : Nat) : Except Failure Reply :=
      ((perform (.obtainTyped "a" capacity payloadSize)).exec start #[]).1.1
    (∃ reply, made 16777216 1048576 = .ok reply) ∧
    made 16777216 1048577 =
      .error (.refused (.sizeOutOfRange "msg_size" Limits.slotPayload)) ∧
    Ring.create (2 ^ 60) .default = .error (.allocationFailure "Ring size overflows usize") := by
  intro start made
  have hcreate : Registry.create { maxTopics := 1 } = .ok { settings := { maxTopics := 1 } } := rfl
  obtain ⟨-, hdecides, hsized⟩ := creation_decided hcreate (.nil start)
  refine ⟨?_, ?_, (hsized (2 ^ 60) .default _).overflow_iff.mpr (by decide)⟩
  · exact (hdecides _ _ _ (.typed "a" 16777216 1048576) rfl (by decide) #[]).ok_iff.mpr
      ⟨rfl, by decide⟩
  · exact ((hdecides _ _ _ (.typed "a" 16777216 1048577) rfl (by decide) #[]).error_iff _).mpr
      (.inl ⟨_, rfl, rfl⟩)

end Registry

end TopicBus
