import TopicBus.Proofs.Bus.Report
import TopicBus.Proofs.Ring.Trace

/-!
Turns of a storage: what each call makes of the queue in its ring, of its counters and of its
report. A read that finds an entry moves the storage and tells of the entry, and any other read does
neither; every call counts what it tells.
-/

namespace TopicBus

open Op

def Topic.Request.resets {kind : Kind} : Topic.Request kind → Bool
  | .resetCounters => true
  | _ => false

theorem Topic.Request.eq_of_resets {kind : Kind} {request : Topic.Request kind}
    (h : request.resets = true) : request = .resetCounters := by
  cases request <;> first | rfl | cases h

/-- The counters moved by what a call reports; refused publishes are left open. -/
structure Counters.Counts (before : Counters) (report : Report) (after : Counters) : Prop where
  published_eq : after.published = before.published + .ofNat report.accepted.length
  consumed_eq : after.consumed = before.consumed + .ofNat report.delivered.length
  overwritten_eq : after.overwritten = before.overwritten + .ofNat report.overwritten.length
  peeked_eq : after.peeked = before.peeked + .ofNat report.shown.length

namespace Counters

theorem counts_nothing (counters : Counters) : counters.Counts {} counters := by
  constructor <;> simp

theorem counts_accepted (counters : Counters) (entry : Bytes × Nat) (lost : List Nat) :
    counters.Counts (.ofReceipt { accepted := [entry], overwritten := lost })
      (Storage.countAccepted lost.length counters) := by
  unfold Storage.countAccepted
  by_cases hlost : 0 < lost.length
  · rw [if_pos hlost]
    constructor <;> simp [Report.ofReceipt, countOverwritten, countPublished]
  · rw [if_neg hlost]
    constructor <;> simp [Report.ofReceipt, countPublished, Nat.eq_zero_of_not_pos hlost]

theorem iterate_countConsumed (counters : Counters) (count : Nat) :
    countConsumed^[count] counters =
      { counters with consumed := counters.consumed + .ofNat count } := by
  induction count with
  | zero => simp
  | succ count ih =>
      rw [Function.iterate_succ_apply', ih, countConsumed, UInt64.ofNat_add, UInt64.add_assoc]
      rfl

end Counters

def isFault {α : Type} : Except Failure α → Bool
  | .error (.fault _) => true
  | _ => false

theorem isFault_map {α β : Type} (f : α → β) (outcome : Except Failure α) :
    isFault (outcome.map f) = isFault outcome := by
  rcases outcome with (reason | fault) | a <;> rfl

/-- A call on a queue is one step of it, or it breaks off for want of an epoch. -/
inductive Queue.Turn (queue : Queue) : Except Failure Report → Queue → Prop
  | step {outcome : Except Failure Report} {next : Queue} (whole : isFault outcome = false)
      (step : queue.Step (Report.ofOutcome outcome).toReceipt next)
      (few : next.history.length < 2 ^ 63) : Turn queue outcome next
  | broken (count : Nat) (le : queue.read + count ≤ queue.history.length)
      (last : queue.history.length + 1 = 2 ^ 63) :
      Turn queue (.error (.fault .overflow)) (queue.advance count)

variable {α β : Type} {kind : Kind} {storage storage' : Storage} {queue next : Queue}
  {outcome : Except Failure Report} {name : String} {buffer : Bytes} {log : Log}

namespace Queue

theorem Step.extends_eq {receipt : Receipt} (h : queue.Step receipt next) :
    queue.Extends (receipt.accepted.map Prod.fst) next := by
  cases h with
  | idle => exact queue.extends_self
  | publish payload hp => exact queue.extends_append payload
  | take count hc => exact queue.extends_advance count

theorem Turn.extends_eq (h : queue.Turn outcome next) :
    queue.Extends ((Report.ofOutcome outcome).accepted.map Prod.fst) next := by
  cases h with
  | step whole step few => exact step.extends_eq
  | broken count le last => exact queue.extends_advance count

theorem Turn.length_lt (h : queue.Turn outcome next) : next.history.length < 2 ^ 63 := by
  cases h with
  | step whole step few => exact few
  | broken count le last =>
      show queue.history.length < 2 ^ 63
      omega

theorem Turn.unbroken (h : queue.Turn outcome next) (hroom : queue.history.length + 1 < 2 ^ 63) :
    isFault outcome = false := by
  cases h with
  | step whole step few => exact whole
  | broken count le last => omega

theorem mem_entries (queue : Queue) {count : Nat} {payload : Bytes}
    (hc : queue.history[count]? = some payload) : (payload, count + 1) ∈ queue.history.zipIdx 1 :=
  List.mk_mem_zipIdx_iff_le_and_getElem?_sub.mpr ⟨Nat.succ_pos count, hc⟩

end Queue

namespace Storage

/-- A read brings an entry to the front of the buffer, or else leaves everything as it is. -/
inductive Finds (found : Bytes → Nat → Storage → Prop) (storage : Storage) (buffer : Bytes) :
    Except Failure (Option Delivery) → Reading Storage → Prop
  | entry {payload rest : Bytes} {epoch : Nat} {storage' : Storage}
      (h : found payload epoch storage') :
      Finds found storage buffer (.ok (some ⟨payload.length, epoch⟩)) ⟨storage', payload ++ rest⟩
  | refused (reason : Refusal) :
      Finds found storage buffer (.error (.refused reason)) ⟨storage, buffer⟩
  | nothing : Finds found storage buffer (.ok none) ⟨storage, buffer⟩

/-- A call tells of one entry, or of none and leaves the storage as it is. -/
inductive Tells (found : Bytes → Nat → Storage → Prop) (storage : Storage)
    (receipt : α → Receipt) : Except Failure α → Storage → Prop
  | entry {a : α} {payload : Bytes} {epoch : Nat} {storage' : Storage}
      (h : found payload epoch storage') (told : receipt a = { delivered := [(payload, epoch)] }) :
      Tells found storage receipt (.ok a) storage'
  | refused (reason : Refusal) : Tells found storage receipt (.error (.refused reason)) storage
  | nothing {a : α} (told : receipt a = {}) : Tells found storage receipt (.ok a) storage

def Taken (queue : Queue) (storage : Storage) (payload : Bytes) (epoch : Nat)
    (storage' : Storage) : Prop :=
  queue.history[queue.read]? = some payload ∧ epoch = queue.read + 1 ∧
    storage' = storage.moved (queue.read + 1) storage.counters.countConsumed

def Shown (queue : Queue) (count : Nat) (storage : Storage) (payload : Bytes) (epoch : Nat)
    (storage' : Storage) : Prop :=
  queue.history[count]? = some payload ∧ epoch = count + 1 ∧
    storage' = { storage with counters := storage.counters.countPeeked }

theorem readRing_finds {read : Op (Reading Ring) (Option Delivery)} {count : Nat}
    (hread : read.exec ⟨storage.ring, buffer⟩ log =
      (((queue.copy count buffer).1.mapError .refused, ⟨storage.ring, (queue.copy count buffer).2⟩),
        log)) :
    Finds (Shown queue count storage) storage buffer
      ((readRing name read Counters.countPeeked).exec ⟨storage, buffer⟩ log).1.1
      ((readRing name read Counters.countPeeked).exec ⟨storage, buffer⟩ log).1.2 := by
  cases hr : storage.released with
  | true =>
      rw [readRing_released hr]
      exact .refused _
  | false =>
      rw [readRing_exec hr hread]
      rcases queue.copy_cases count buffer with ⟨outcome, hidle, hq⟩ | ⟨payload, hc, -, hq⟩
      · rw [hq]
        rcases outcome with reason | _ | delivery
        · exact .refused reason
        · exact .nothing
        · exact absurd rfl (hidle delivery)
      · rw [hq]
        exact .entry ⟨hc, rfl, rfl⟩

section Read

variable (h : storage.ring.Holds queue) (hfew : queue.history.length < 2 ^ 63)

include h hfew

theorem receive_finds :
    Finds (Taken queue storage) storage buffer ((receive name).exec ⟨storage, buffer⟩ log).1.1
      ((receive name).exec ⟨storage, buffer⟩ log).1.2 := by
  cases hr : storage.released with
  | true =>
      rw [receive, readRing_released hr]
      exact .refused _
  | false =>
      rw [receive_exec hr h hfew]
      rcases queue.receive_cases buffer with ⟨outcome, hidle, hq⟩ | ⟨payload, hc, -, hq⟩
      · rw [hq]
        rcases outcome with reason | _ | delivery
        · simp only [tally, moved_self h]
          exact .refused reason
        · simp only [tally, moved_self h]
          exact .nothing
        · exact absurd rfl (hidle delivery)
      · rw [hq]
        exact .entry ⟨hc, rfl, rfl⟩

theorem readLatest_finds :
    Finds (Shown queue (queue.history.length - 1) storage) storage buffer
      ((readLatest name).exec ⟨storage, buffer⟩ log).1.1
      ((readLatest name).exec ⟨storage, buffer⟩ log).1.2 :=
  readRing_finds (h.readLatest_exec hfew)

theorem readOldest_finds :
    Finds (Shown queue queue.read storage) storage buffer
      ((readOldest name).exec ⟨storage, buffer⟩ log).1.1
      ((readOldest name).exec ⟨storage, buffer⟩ log).1.2 :=
  readRing_finds (h.readOldest_exec hfew)

end Read

section Tell

variable {found : Bytes → Nat → Storage → Prop} {read : Op (Reading Storage) (Option Delivery)}

theorem lending_tells (h : Finds found storage buffer (read.exec ⟨storage, buffer⟩ log).1.1
      (read.exec ⟨storage, buffer⟩ log).1.2) :
    Tells found storage .ofRead ((read.lending buffer).exec storage log).1.1
      ((read.lending buffer).exec storage log).1.2 := by
  rw [exec_lending]
  generalize read.exec ⟨storage, buffer⟩ log = result at h ⊢
  obtain ⟨⟨outcome, call⟩, log'⟩ := result
  cases h with
  | entry hfound =>
      refine .entry hfound ?_
      simp only [Receipt.ofRead, Option.map_some, entryIn_append, Option.toList_some]
  | refused reason => exact .refused reason
  | nothing => exact .nothing rfl

theorem payload_tells (h : ∀ buffer : Bytes, Finds found storage buffer
      (read.exec ⟨storage, buffer⟩ log).1.1 (read.exec ⟨storage, buffer⟩ log).1.2) :
    let op : Op Storage (Option (Bytes × Nat)) := do
      let (received, buffer) ← read.lending (← roomyBuffer)
      return received.map (entryIn buffer)
    Tells found storage .ofPayload (op.exec storage log).1.1 (op.exec storage log).1.2 := by
  intro op
  have hfinds := h (Bytes.zeros storage.ring.layout.payloadSize)
  simp only [op, exec_bind, roomyBuffer_exec, exec_lending]
  generalize read.exec ⟨storage, Bytes.zeros storage.ring.layout.payloadSize⟩ log = result
    at hfinds ⊢
  obtain ⟨⟨outcome, call⟩, log'⟩ := result
  cases hfinds with
  | entry hfound =>
      refine .entry hfound ?_
      simp only [Receipt.ofPayload, Option.map_some, entryIn_append, Option.toList_some]
  | refused reason => exact .refused reason
  | nothing => exact .nothing rfl

theorem message_tells {shape : Shape} (h : ∀ buffer : Bytes, Finds found storage buffer
      (read.exec ⟨storage, buffer⟩ log).1.1 (read.exec ⟨storage, buffer⟩ log).1.2)
    (hlength : ∀ payload epoch storage', found payload epoch storage' →
      payload.length = storage.ring.layout.payloadSize) :
    Tells found storage (.ofMessage shape) ((readMessage shape read).exec storage log).1.1
      ((readMessage shape read).exec storage log).1.2 := by
  by_cases hsize : shape.size = storage.ring.layout.payloadSize
  · have hfinds := h (Bytes.zeros shape.size)
    generalize hread : read.exec ⟨storage, Bytes.zeros shape.size⟩ log = result at hfinds
    obtain ⟨⟨outcome, call⟩, log'⟩ := result
    cases hfinds with
    | @entry payload rest epoch storage' hfound =>
        have hpayload : payload.length = shape.size := (hlength _ _ _ hfound).trans hsize.symm
        obtain ⟨message, hbytes, hexec⟩ := readMessage_some hsize hread (by simp [hpayload])
        rw [hexec]
        refine .entry hfound ?_
        rw [← hpayload, List.take_left] at hbytes
        rw [← hbytes]
        rfl
    | refused reason =>
        rw [readMessage_error hsize hread]
        exact .refused reason
    | nothing =>
        rw [readMessage_none hsize hread]
        exact .nothing rfl
  · rw [readMessage_misfit hsize]
    exact .refused _

end Tell

/-- A call on a storage took a turn of the queue, and it reported and counted what it did. -/
structure Turned (queue next : Queue) (before : Storage) (outcome : Except Failure Report)
    (after : Storage) : Prop where
  holds : after.ring.Holds next
  turn : queue.Turn outcome next
  counts : before.counters.Counts (.ofOutcome outcome) after.counters
  genuine : ∀ entry ∈ (Report.ofOutcome outcome).delivered ++ (Report.ofOutcome outcome).shown,
    entry ∈ next.history.zipIdx 1
  ordered : (((Report.ofOutcome outcome).delivered ++
    (Report.ofOutcome outcome).shown).map Prod.snd).Pairwise (· < ·)

theorem turned_still (h : storage.ring.Holds queue) (hfew : queue.history.length < 2 ^ 63)
    (hwhole : isFault outcome = false) (hreceipt : (Report.ofOutcome outcome).toReceipt = {})
    (hshown : (Report.ofOutcome outcome).shown = []) (hring : storage'.ring = storage.ring)
    (hcounts : storage.counters.Counts {} storage'.counters) :
    Turned queue queue storage outcome storage' where
  holds := by
    rw [hring]
    exact h
  turn := .step hwhole (by rw [hreceipt]; exact .idle queue) hfew
  counts := by
    obtain ⟨hpublished, hconsumed, hoverwritten, hpeeked⟩ := hcounts
    constructor
    · rwa [hreceipt]
    · rwa [hreceipt]
    · rwa [hreceipt]
    · rwa [hshown]
  genuine := by simp [hreceipt, hshown]
  ordered := by simp [hreceipt, hshown]

section Tells

variable {receipt : α → Receipt} {result : Except Failure α} {count : Nat}
  (hholds : storage.ring.Holds queue) (hfew : queue.history.length < 2 ^ 63)

include hholds hfew

theorem Tells.taken (h : Tells (Taken queue storage) storage receipt result storage') :
    ∃ next, Turned queue next storage (result.map fun a => .ofReceipt (receipt a)) storage' := by
  cases h with
  | refused reason =>
      exact ⟨queue, turned_still hholds hfew rfl rfl rfl rfl (Counters.counts_nothing _)⟩
  | nothing told =>
      simp only [Except.map, told]
      exact ⟨queue, turned_still hholds hfew rfl rfl rfl rfl (Counters.counts_nothing _)⟩
  | @entry a payload epoch storage' hfound told =>
      obtain ⟨hc, rfl, rfl⟩ := hfound
      obtain ⟨hlt, -⟩ := List.getElem?_eq_some_iff.mp hc
      have hunread := Queue.unread_eq_cons hc
      have hstep : queue.Step { delivered := [(payload, queue.read + 1)] } (queue.advance 1) := by
        have htake := Queue.Step.take queue 1 hlt
        rwa [hunread] at htake
      simp only [Except.map, told]
      refine ⟨queue.advance 1, moved_holds hholds _ hlt, .step rfl hstep hfew, ?_, ?_, ?_⟩
      · constructor <;> simp [moved, Counters.countConsumed, Report.ofOutcome, Report.ofReceipt]
      · intro entry hentry
        simp only [Report.ofOutcome, Report.ofReceipt, List.append_nil, List.mem_singleton]
          at hentry
        subst hentry
        exact queue.mem_entries hc
      · simp [Report.ofOutcome, Report.ofReceipt]

theorem Tells.shown (h : Tells (Shown queue count storage) storage receipt result storage') :
    Turned queue queue storage (result.map fun a => .showing (receipt a)) storage' := by
  cases h with
  | refused reason => exact turned_still hholds hfew rfl rfl rfl rfl (Counters.counts_nothing _)
  | nothing told =>
      simp only [Except.map, told]
      exact turned_still hholds hfew rfl rfl rfl rfl (Counters.counts_nothing _)
  | @entry a payload epoch storage' hfound told =>
      obtain ⟨hc, rfl, rfl⟩ := hfound
      simp only [Except.map, told, Report.showing]
      refine ⟨hholds, .step rfl (.idle queue) hfew, ?_, ?_, ?_⟩
      · constructor <;> simp [Counters.countPeeked, Report.ofOutcome]
      · intro entry hentry
        rw [Report.ofOutcome, List.nil_append, List.mem_singleton] at hentry
        rw [hentry]
        exact queue.mem_entries hc
      · simp [Report.ofOutcome]

end Tells

theorem drain_turned (h : storage.ring.Holds queue) (hfew : queue.history.length < 2 ^ 63)
    (name : String) (log : Log) :
    ∃ next, Turned queue next storage
      (((drain name).exec storage log).1.1.map fun entries => .ofReceipt { delivered := entries })
      ((drain name).exec storage log).1.2 := by
  cases hr : storage.released with
  | true =>
      rw [drain_released hr]
      exact ⟨queue, turned_still h hfew rfl rfl rfl rfl (Counters.counts_nothing _)⟩
  | false =>
      have hend := h.sound.read_add_unread
      have hstep := Queue.Step.take queue _ (Nat.le_of_eq hend)
      rw [List.take_length] at hstep
      rw [drain_exec hr h hfew, ← hend]
      refine ⟨queue.advance queue.unread.length, moved_holds h _ (Nat.le_of_eq hend),
        .step rfl hstep hfew, ?_, ?_, ?_⟩
      · constructor <;> simp [moved, Counters.iterate_countConsumed, Report.ofOutcome, Except.map,
          Report.ofReceipt]
      · intro entry hentry
        simp only [Report.ofOutcome, Except.map, Report.ofReceipt, List.append_nil] at hentry
        have hmem : entry ∈ queue.history.zipIdx 1 := Queue.mem_unread hentry
        exact hmem
      · simp only [Report.ofOutcome, Except.map, Report.ofReceipt, List.append_nil,
          queue.epochs_unread]
        exact List.pairwise_lt_range'

theorem submit_turned (payload : Bytes) {op : Op Storage Nat}
    (hop : op.exec storage log = (publish name payload).exec storage log)
    (h : storage.ring.Holds queue) (hfew : queue.history.length < 2 ^ 63) :
    ∃ next, Turned queue next storage
      (((submit payload op).exec storage log).1.1.map .ofReceipt)
      ((submit payload op).exec storage log).1.2 := by
  have hpublishes := publishes h hfew name payload log
  simp only [submit, exec_bind, exec_get, hop]
  generalize (publish name payload).exec storage log = result at hpublishes ⊢
  cases hpublishes with
  | withdrawn released =>
      exact ⟨queue, turned_still h hfew rfl rfl rfl rfl (Counters.counts_nothing _)⟩
  | rejected live misfit =>
      refine ⟨queue, turned_still h hfew rfl rfl rfl rfl ?_⟩
      constructor <;> simp [Counters.countRejected]
  | @accepted ring' log' live fits room holds =>
      have hover := h.overwritten_eq holds
      have hstep := Queue.Step.publish queue payload fits
      have hlost : ((queue.append payload).read - queue.read) =
          (storage.ring.unread.filter (· ∉ ring'.unread)).length := by
        rw [hover, List.length_range']
      rw [← hover] at hstep
      rw [hlost]
      refine ⟨queue.append payload, holds, .step rfl hstep ?_, ?_, ?_, ?_⟩
      · simpa [Queue.append] using room
      · exact Counters.counts_accepted _ _ _
      · simp [Except.map, Report.ofOutcome, Report.ofReceipt]
      · simp [Except.map, Report.ofOutcome, Report.ofReceipt]
  | exhausted live fits last =>
      have hpass := h.pass_append_holds payload
      refine ⟨_, hpass, .broken _ hpass.sound.read_le last, Counters.counts_nothing _, ?_, ?_⟩
      · simp [Except.map, Report.ofOutcome]
      · simp [Except.map, Report.ofOutcome]

theorem slotImage_live {epoch : Nat} {found : Option Bytes} (hlive : storage.released = false)
    (h : storage.ring.slotImage epoch = .ok found) :
    (slotImage name epoch).exec storage log = ((.ok found, storage), log) := by
  simp only [slotImage, exec_bind, requireLive_live hlive, exec_get, h, exec_liftFault,
    Except.mapError]

/-- Whatever is asked of a storage but to reset its counters is a turn. -/
theorem report_turned (request : Topic.Request kind) (h : storage.ring.Holds queue)
    (hfew : queue.history.length < 2 ^ 63) (hkind : storage.ring.layout.kind = kind)
    (hreset : request.resets = false) (name : String) (log : Log) :
    ∃ next, Turned queue next storage ((report name request).exec storage log).1.1
      ((report name request).exec storage log).1.2 := by
  cases request with
  | resetCounters => cases hreset
  | look => exact ⟨queue, turned_still h hfew rfl rfl rfl rfl (Counters.counts_nothing _)⟩
  | slotImage epoch =>
      simp only [report, ← map_eq_pure_bind, exec_map]
      cases hr : storage.released with
      | true =>
          rw [slotImage_released hr]
          exact ⟨queue, turned_still h hfew rfl rfl rfl rfl (Counters.counts_nothing _)⟩
      | false =>
          rw [slotImage_live hr ((h.memory hfew).slotImage_eq hfew epoch)]
          exact ⟨queue, turned_still h hfew rfl rfl rfl rfl (Counters.counts_nothing _)⟩
  | publish payload =>
      simp only [report, ← map_eq_pure_bind, exec_map]
      exact submit_turned payload rfl h hfew
  | publishMessage shape message =>
      simp only [report, ← map_eq_pure_bind, exec_map]
      by_cases hsize : shape.size = storage.ring.layout.payloadSize
      · exact submit_turned _ (publishMessage_fit hsize) h hfew
      · simp only [submit, exec_bind, exec_get, publishMessage_misfit hsize]
        exact ⟨queue, turned_still h hfew rfl rfl rfl rfl (Counters.counts_nothing _)⟩
  | receive buffer =>
      simp only [report, ← map_eq_pure_bind, exec_map]
      exact (lending_tells (receive_finds h hfew)).taken h hfew
  | receivePayload =>
      simp only [report, ← map_eq_pure_bind, exec_map]
      exact (payload_tells fun _ => receive_finds h hfew).taken h hfew
  | receiveMessage shape =>
      simp only [report, ← map_eq_pure_bind, exec_map]
      refine (message_tells (fun _ => receive_finds h hfew) ?_).taken h hfew
      exact fun _ _ _ hfound => h.length_typed hkind hfound.1
  | drain =>
      simp only [report, ← map_eq_pure_bind, exec_map]
      exact drain_turned h hfew name log
  | readLatest buffer =>
      simp only [report, ← map_eq_pure_bind, exec_map]
      exact ⟨queue, (lending_tells (readLatest_finds h hfew)).shown h hfew⟩
  | readOldest buffer =>
      simp only [report, ← map_eq_pure_bind, exec_map]
      exact ⟨queue, (lending_tells (readOldest_finds h hfew)).shown h hfew⟩
  | latestPayload =>
      simp only [report, ← map_eq_pure_bind, exec_map]
      exact ⟨queue, (payload_tells fun _ => readLatest_finds h hfew).shown h hfew⟩
  | latestMessage shape =>
      simp only [report, ← map_eq_pure_bind, exec_map]
      refine ⟨queue, (message_tells (fun _ => readLatest_finds h hfew) ?_).shown h hfew⟩
      exact fun _ _ _ hfound => h.length_typed hkind hfound.1

end Storage

end TopicBus
