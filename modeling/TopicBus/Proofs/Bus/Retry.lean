import TopicBus.Proofs.Bus.Unbroken
import TopicBus.Proofs.Ring.Retry

namespace TopicBus

open Op

variable {kind : Kind} {storage : Storage} {queue : Queue} {name : String} {reads : Nat}
  {buffer : Bytes} {log : Log}

namespace Storage

def drainRound (name : String) (taken : List (Bytes × Nat)) :
    Op (Reading Storage) (List (Bytes × Nat) ⊕ List (Bytes × Nat)) := do
  match ← receive name with
  | none => return .inr taken.reverse
  | some received => return .inl (entryIn (← get).buffer received :: taken)

/-- On any storage whatsoever a bounded drain is what its loop comes to, unless the bound stops it;
all reads but the last one take an entry. -/
theorem drainUpTo_loops (name : String) (bound : Nat) (taken : List (Bytes × Nat))
    (call : Reading Storage) (log : Log)
    (hended : ((drainUpTo name bound taken).exec call log).1.1 ≠ .error (.fault .stalled)) :
    ∃ reads, Loops (drainRound name) taken call log reads
        ((drainUpTo name bound taken).exec call log) ∧
      ∀ entries, ((drainUpTo name bound taken).exec call log).1.1 = .ok entries →
        entries.length + 1 = taken.length + reads := by
  rw [drainUpTo, exec_bind] at hended ⊢
  cases hread : (receive name).exec call log with
  | mk first log' =>
      obtain ⟨failure | _ | received, after⟩ := first
      · refine ⟨1, .fails ?_, by rintro _ ⟨⟩⟩
        rw [drainRound, exec_bind, hread]
      · refine ⟨1, .answers (a := taken.reverse) ?_, ?_⟩
        · rw [drainRound, exec_bind, hread]
          rfl
        · rintro entries ⟨⟩
          rw [List.length_reverse]
      · rw [hread] at hended
        cases bound with
        | zero => exact absurd rfl hended
        | succ bound =>
            obtain ⟨reads, hloops, hlength⟩ :=
              drainUpTo_loops name bound (entryIn after.buffer received :: taken) after log' hended
            refine ⟨reads + 1, .again ?_ hloops, fun entries hentries => ?_⟩
            · rw [drainRound, exec_bind, hread]
              rfl
            · rw [hlength entries hentries, List.length_cons]
              omega

/-- Draining takes so many reads: the loop that reads until a read finds nothing or fails has so many
rounds, and the drain is what it comes to. -/
def DrainsIn (storage : Storage) (name : String) (log : Log) (reads : Nat) : Prop :=
  ∃ result, Loops (drainRound name) []
      ⟨storage, Bytes.zeros storage.ring.layout.payloadSize⟩ log reads result ∧
    (drain name).exec storage log = ((result.1.1, result.1.2.source), result.2)

theorem DrainsIn.unique {reads' : Nat} (h : storage.DrainsIn name log reads)
    (h' : storage.DrainsIn name log reads') : reads = reads' := by
  obtain ⟨result, hloops, -⟩ := h
  obtain ⟨result', hloops', -⟩ := h'
  exact (hloops.unique hloops').1

theorem drain_eq (storage : Storage) (name : String) (log : Log) :
    let result := (drainUpTo name storage.ring.length []).exec
      ⟨storage, Bytes.zeros storage.ring.layout.payloadSize⟩ log
    (drain name).exec storage log = ((result.1.1, result.1.2.source), result.2) := by
  simp only [drain, exec_bind, exec_get, roomyBuffer_exec, exec_lending]
  generalize (drainUpTo name storage.ring.length []).exec
    ⟨storage, Bytes.zeros storage.ring.layout.payloadSize⟩ log = result
  obtain ⟨⟨failure | entries, call⟩, log'⟩ := result <;> rfl

theorem drainsIn_live (hlive : storage.released = false) (h : storage.ring.Holds queue)
    (hfew : queue.history.length < 2 ^ 63) (name : String) (log : Log) :
    storage.DrainsIn name log (storage.ring.length + 1) := by
  have hdrain := storage.drain_eq name log
  have hexec := drain_exec hlive h hfew name log
  have houtcome : ((drainUpTo name storage.ring.length []).exec
      ⟨storage, Bytes.zeros storage.ring.layout.payloadSize⟩ log).1.1 = .ok queue.unread := by
    rw [hexec] at hdrain
    exact (congrArg (·.1.1) hdrain).symm
  obtain ⟨reads, hloops, hlength⟩ := drainUpTo_loops name storage.ring.length []
    ⟨storage, Bytes.zeros storage.ring.layout.payloadSize⟩ log (by rw [houtcome]; simp)
  have hreads : storage.ring.length + 1 = reads := by
    rw [h.length_eq, ← queue.length_unread, hlength _ houtcome, List.length_nil, Nat.zero_add]
  rw [hreads]
  exact ⟨_, hloops, hdrain⟩

theorem drainsIn_released (hreleased : storage.released = true) (name : String) (log : Log) :
    storage.DrainsIn name log 1 := by
  refine ⟨((.error (.refused (.notFound name)),
    ⟨storage, Bytes.zeros storage.ring.layout.payloadSize⟩), log), .fails ?_, ?_⟩
  · rw [drainRound, exec_bind, receive, readRing_released hreleased]
  · rw [drain_released hreleased]

/-- No loop of the ring needs a second round, and a drain takes as many reads as it must. -/
structure Prompt (storage : Storage) : Prop where
  ring : storage.ring.Prompt
  drainsIn : ∀ name log,
    storage.DrainsIn name log (if storage.released then 1 else storage.ring.length + 1)

theorem Sound.prompt (h : storage.Sound) : storage.Prompt := by
  obtain ⟨queue, hholds, hfew⟩ := h
  refine ⟨hholds.prompt hfew, fun name log => ?_⟩
  cases hreleased : storage.released with
  | true => exact drainsIn_released hreleased name log
  | false => exact drainsIn_live hreleased hholds hfew name log

theorem report_unstalled (request : Topic.Request kind) (h : storage.ring.Holds queue)
    (hfew : queue.history.length < 2 ^ 63) (hkind : storage.ring.layout.kind = kind)
    (name : String) (log : Log) :
    ((report name request).exec storage log).1.1 ≠ .error (.fault .stalled) := by
  cases hreset : request.resets with
  | true =>
      obtain rfl := Topic.Request.eq_of_resets hreset
      rintro ⟨⟩
  | false =>
      obtain ⟨next, hturned⟩ := report_turned request h hfew hkind hreset name log
      have hturn := hturned.turn
      intro hstalled
      rw [hstalled] at hturn
      cases hturn with
      | step whole step few => cases whole

end Storage

variable {bus : Bus}

def Bus.Prompt (bus : Bus) : Prop :=
  ∀ (index : Nat) (storage : Storage), bus.storages[index]? = some storage → storage.Prompt

theorem Bus.Sound.prompt (h : bus.Sound) : bus.Prompt :=
  fun index storage hstorage => (h index storage hstorage).prompt

theorem Topic.report_unstalled (topic : Topic kind) (hbus : bus.Sound) (held : topic.Held bus)
    (request : Topic.Request kind) (log : Log) :
    ((topic.report request).exec bus log).1.1 ≠ .error (.fault .stalled) := by
  obtain ⟨storage, hstorage⟩ := held.exists_storage
  obtain ⟨queue, hholds, hfew⟩ := hbus _ _ hstorage
  rw [topic.report_exec hstorage, topic.access_exec hstorage]
  exact Storage.report_unstalled request hholds hfew (held.kind_eq hstorage) topic.name log

theorem Bus.Request.report_unstalled (request : Bus.Request) (hbus : bus.Sound)
    (held : request.Held bus) (log : Log) :
    (request.report.exec bus log).1.1 ≠ .error (.fault .stalled) := by
  have hwithstands := request.report_withstands hbus held log
  cases request with
  | topic handle request => exact handle.report_unstalled hbus held request log
  | publisher handle request =>
      rw [report, handle.report_eq]
      exact handle.topic.report_unstalled hbus held request.asked log
  | create kind spec | subscribe handle | provide memory | subscriber handle request =>
      have hwhole := hwithstands.whole (by rintro ⟨_, _, _, _, _, ⟨⟩, _⟩)
      intro hstalled
      rw [hstalled] at hwhole
      cases hwhole

theorem Bus.Request.perform_unstalled (request : Bus.Request) (hbus : bus.Sound)
    (held : request.Held bus) (log : Log) :
    (request.perform.exec bus log).1.1 ≠ .error (.fault .stalled) := by
  have hreport := request.report_unstalled hbus held log
  rw [← request.report_toReceipt, exec_map]
  generalize (request.report.exec bus log).1.1 = outcome at hreport
  rcases outcome with failure | report
  · intro hstalled
    cases hstalled
    exact hreport rfl
  · rintro ⟨⟩

/-- A topic with one unread entry that is released before it is drained. -/
theorem Topic.drain_after_release :
    ∃ (events : List Bus.Event) (later : Bus) (topic : Topic .byte) (storage : Storage),
      Bus.Run {} events later ∧ later.storages[topic.storage]? = some storage ∧
      storage.released = true ∧ storage.ring.length = 1 ∧
      (topic.drain.exec later #[]).1.1 = .error (.refused (.notFound "/a")) ∧
      ∀ log, ¬storage.DrainsIn topic.name log (storage.ring.length + 1) := by
  let registry : Registry := { settings := { maxTopics := 1 } }
  let obtained := ((Registry.perform (.obtainByte "/a" 2)).exec ⟨registry, {}⟩ #[]).1.2
  let topic : Topic .byte := ⟨"/a", ⟨0, 1⟩, 0⟩
  have hobtained := (Bus.Run.nil {}).snoc (.ask _ #[] registry (.obtainByte "/a" 2))
  have hpublished := hobtained.snoc (.call _ #[] (.topic topic (.publish [1])) (by decide +kernel))
  have hreleased := hpublished.snoc (.ask _ #[] obtained.registry (.releaseNamed "/a"))
  have hend {events : List Bus.Event} {later : Bus} (_ : Bus.Run {} events later)
      (hlook : (later.storages[0]?).map (fun storage => (storage.released, storage.ring.length)) =
        some (true, 1)) :
      ∃ storage, later.storages[0]? = some storage ∧ storage.released = true ∧
        storage.ring.length = 1 ∧ ∀ log, ¬storage.DrainsIn "/a" log (storage.ring.length + 1) := by
    obtain ⟨storage, hstorage, hfacts⟩ := Option.map_eq_some_iff.mp hlook
    obtain ⟨hflag, hlength⟩ := Prod.ext_iff.mp hfacts
    dsimp only at hflag hlength
    refine ⟨storage, hstorage, hflag, hlength, fun log hdrains => ?_⟩
    have hreads := hdrains.unique (Storage.drainsIn_released hflag "/a" log)
    omega
  obtain ⟨storage, hstorage, hflag, hlength, hnot⟩ := hend hreleased (by decide +kernel)
  exact ⟨_, _, topic, storage, hreleased, hstorage, hflag, hlength, by decide +kernel, hnot⟩

end TopicBus
