import TopicBus.Proofs.Bus.Trace

/-!
Counters of a topic over whole runs. Since the last reset each of them says how much of its kind was
reported. What was published since then and what was unread at the time is consumed, overwritten or
unread still, modulo 2^64.
-/

namespace TopicBus

variable {kind : Kind} {queue next : Queue} {storage : Storage} {index : Nat} {before after : Bus}
  {events : List Bus.Event} {event : Bus.Event} {outcome : Except Failure Report}

theorem Queue.Step.length_eq {receipt : Receipt} (h : queue.Step receipt next) :
    next.history.length = queue.history.length + receipt.accepted.length := by
  cases h with
  | idle | take => rfl
  | publish payload hp => simp [Queue.append]

theorem Queue.Step.read_eq {receipt : Receipt} (h : queue.Step receipt next) :
    next.read = queue.read + receipt.delivered.length + receipt.overwritten.length := by
  cases h with
  | idle => rfl
  | publish payload hp =>
      have hle : queue.read ≤ (queue.append payload).read := Nat.le_max_left _ _
      simp only [List.length_nil, List.length_range']
      omega
  | take count hc =>
      have hunread := queue.length_unread
      simp only [Queue.advance, List.length_take, List.length_nil]
      omega

/-- A storage was served without a reset, and its counters count what was reported. -/
structure Storage.Tallied (queue next : Queue) (before : Storage) (report : Report)
    (after : Storage) : Prop where
  holds : after.ring.Holds next
  length_lt : next.history.length < 2 ^ 63
  length_eq : next.history.length = queue.history.length + report.accepted.length
  read_eq : next.read = queue.read + report.delivered.length + report.overwritten.length
  counts : before.counters.Counts report after.counters

theorem Storage.Turned.tallied {storage' : Storage}
    (h : Storage.Turned queue next storage outcome storage')
    (hunbroken : isFault outcome = false) :
    Storage.Tallied queue next storage (.ofOutcome outcome) storage' := by
  cases h.turn with
  | step whole step few => exact ⟨h.holds, few, step.length_eq, step.read_eq, h.counts⟩
  | broken count le last => cases hunbroken

theorem UInt64.eq_add_ofNat {first middle last : UInt64} {m n : Nat}
    (h : middle = first + .ofNat m) (h' : last = middle + .ofNat n) :
    last = first + .ofNat (m + n) := by
  rw [h', h, UInt64.add_assoc, ← UInt64.ofNat_add]

theorem Counters.Counts.snoc {first middle last : Counters}
    (h : first.Counts (Bus.told index events) middle)
    (h' : middle.Counts (event.report index) last) :
    first.Counts (Bus.told index (events ++ [event])) last := by
  rw [Bus.told_snoc]
  constructor
  case published_eq =>
    rw [List.length_append]
    exact UInt64.eq_add_ofNat h.published_eq h'.published_eq
  case consumed_eq =>
    rw [List.length_append]
    exact UInt64.eq_add_ofNat h.consumed_eq h'.consumed_eq
  case overwritten_eq =>
    rw [List.length_append]
    exact UInt64.eq_add_ofNat h.overwritten_eq h'.overwritten_eq
  case peeked_eq =>
    rw [List.length_append]
    exact UInt64.eq_add_ofNat h.peeked_eq h'.peeked_eq

theorem Storage.Tallied.snoc {middle last : Storage} {between : Queue}
    (h : Storage.Tallied queue between storage (Bus.told index events) middle)
    (h' : Storage.Tallied between next middle (event.report index) last) :
    Storage.Tallied queue next storage (Bus.told index (events ++ [event])) last where
  holds := h'.holds
  length_lt := h'.length_lt
  length_eq := by
    have hmore := h'.length_eq
    rw [h.length_eq] at hmore
    simp only [Bus.told_snoc, List.length_append]
    omega
  read_eq := by
    have hmore := h'.read_eq
    rw [h.read_eq] at hmore
    simp only [Bus.told_snoc, List.length_append]
    omega
  counts := h.counts.snoc h'.counts

theorem Bus.Run.tallied (h : Run before events after)
    (hstorage : before.storages[index]? = some storage) (hholds : storage.ring.Holds queue)
    (hfew : queue.history.length < 2 ^ 63) (hreset : ∀ event ∈ events, event.resets index = false)
    (hunbroken : ∀ event ∈ events, event.breaks index = false) :
    ∃ storage' next, after.storages[index]? = some storage' ∧
      Storage.Tallied queue next storage (told index events) storage' := by
  induction h with
  | nil => exact ⟨storage, queue, hstorage, hholds, hfew, rfl, rfl, Counters.counts_nothing _⟩
  | @snoc middle after events event run step ih =>
      have hlast : event ∈ events ++ [event] := List.mem_append_right _ (List.mem_singleton_self _)
      obtain ⟨between, queue', hbetween, htallied⟩ := ih
        (fun event hevent => hreset event (List.mem_append_left _ hevent))
        (fun event hevent => hunbroken event (List.mem_append_left _ hevent))
      obtain ⟨storage', next, hstorage', hturned⟩ :=
        step.turned hbetween htallied.holds htallied.length_lt (hreset event hlast)
      have hevent := hturned.tallied (hunbroken event hlast)
      exact ⟨storage', next, hstorage', htallied.snoc hevent⟩

namespace Bus

/-- The events since the counters of a storage were last reset, and what was unread then; without a
reset those are all events, and nothing was unread. -/
inductive SinceReset (index : Nat) (start : Bus) : List Event → Bus → List Event → Nat → Prop
  | never {events : List Event} {after : Bus} (run : Run start events after)
      (none : ∀ event ∈ events, event.resets index = false) :
      SinceReset index start events after events 0
  | reset {front recent : List Event} {event : Event} {before middle after : Bus}
      {storage : Storage} (run : Run start front before) (step : Step before event middle)
      (resets : event.resets index = true) (there : middle.storages[index]? = some storage)
      (rest : Run middle recent after) (none : ∀ event ∈ recent, event.resets index = false) :
      SinceReset index start (front ++ [event] ++ recent) after recent storage.ring.length

theorem SinceReset.snoc {recent : List Event} {base : Nat}
    (h : SinceReset index before events after recent base) {last : Bus}
    (step : Step after event last) (hreset : event.resets index = false) :
    SinceReset index before (events ++ [event]) last (recent ++ [event]) base := by
  have hnone {recent : List Event} (none : ∀ event ∈ recent, event.resets index = false) :
      ∀ other ∈ recent ++ [event], other.resets index = false := by
    intro other hother
    rcases List.mem_append.mp hother with hold | hnew
    · exact none other hold
    · rw [List.mem_singleton.mp hnew]
      exact hreset
  cases h with
  | never run none => exact .never (run.snoc step) (hnone none)
  | reset run reset resets there rest none =>
      rw [List.append_assoc]
      exact .reset run reset resets there (rest.snoc step) (hnone none)

theorem Run.sinceReset (h : Run before events after)
    (hstorage : before.storages[index]? = some storage) (hholds : storage.ring.Holds queue)
    (hfew : queue.history.length < 2 ^ 63) :
    ∃ recent base, SinceReset index before events after recent base := by
  induction h with
  | nil => exact ⟨[], 0, .never (.nil before) (by simp)⟩
  | @snoc middle after events event run step ih =>
      cases hreset : event.resets index with
      | false =>
          obtain ⟨recent, base, hrecent⟩ := ih
          exact ⟨_, base, hrecent.snoc step hreset⟩
      | true =>
          -- The step itself is the last reset, and nothing has happened since.
          obtain ⟨between, queue', hbetween, -⟩ := run.extends hstorage hholds hfew
          obtain ⟨hafter, -⟩ := step.reset hbetween hreset
          have hsince := SinceReset.reset run step hreset hafter (.nil after) (by simp)
          rw [List.append_nil] at hsince
          exact ⟨[], _, hsince⟩

end Bus

/-- The counters say how much was reported, and nothing published or unread went missing. -/
structure Storage.Accounts (storage : Storage) (base : Nat) (report : Report) : Prop where
  published_eq : storage.counters.published = .ofNat report.accepted.length
  consumed_eq : storage.counters.consumed = .ofNat report.delivered.length
  overwritten_eq : storage.counters.overwritten = .ofNat report.overwritten.length
  peeked_eq : storage.counters.peeked = .ofNat report.shown.length
  conserved : storage.counters.published + .ofNat base =
    storage.counters.consumed + storage.counters.overwritten + .ofNat storage.ring.length

theorem Storage.Tallied.accounts {storage' : Storage} {report : Report}
    (h : Storage.Tallied queue next storage report storage') (hholds : storage.ring.Holds queue)
    (hnew : storage.counters = {}) : storage'.Accounts storage.ring.length report := by
  have hpublished := h.counts.published_eq
  have hconsumed := h.counts.consumed_eq
  have hoverwritten := h.counts.overwritten_eq
  have hpeeked := h.counts.peeked_eq
  simp only [hnew, UInt64.zero_add] at hpublished hconsumed hoverwritten hpeeked
  refine ⟨hpublished, hconsumed, hoverwritten, hpeeked, ?_⟩
  have hlength := h.length_eq
  have hread := h.read_eq
  have hle := hholds.sound.read_le
  have hle' := h.holds.sound.read_le
  have hconserved : report.accepted.length + storage.ring.length =
      report.delivered.length + report.overwritten.length + storage'.ring.length := by
    rw [hholds.length_eq, h.holds.length_eq]
    omega
  rw [hpublished, hconsumed, hoverwritten, ← UInt64.ofNat_add, ← UInt64.ofNat_add,
    ← UInt64.ofNat_add, hconserved]

theorem Bus.SinceReset.exists_start {recent : List Bus.Event} {base : Nat}
    (h : SinceReset index before events after recent base)
    (hstorage : before.storages[index]? = some storage) (hholds : storage.ring.Holds queue)
    (hfew : queue.history.length < 2 ^ 63) (hnew : storage.counters = {})
    (hempty : storage.ring.length = 0) :
    ∃ (start : Bus) (fresh : Storage) (queue' : Queue), Run start recent after ∧
      start.storages[index]? = some fresh ∧ fresh.ring.Holds queue' ∧
      queue'.history.length < 2 ^ 63 ∧ fresh.counters = {} ∧ fresh.ring.length = base ∧
      (∀ event ∈ recent, event.resets index = false) ∧ recent ⊆ events := by
  cases h with
  | never run none =>
      exact ⟨before, storage, queue, run, hstorage, hholds, hfew, hnew, hempty, none,
        List.Subset.refl _⟩
  | @reset front recent event between middle after found run step resets there rest none =>
      obtain ⟨storage', queue', hstorage', hholds', -, hfew'⟩ := run.extends hstorage hholds hfew
      obtain ⟨hreset, -⟩ := step.reset hstorage' resets
      obtain rfl := Option.some.inj (there.symm.trans hreset)
      exact ⟨middle, _, queue', rest, there, hholds', hfew', rfl, rfl, none,
        List.subset_append_right _ _⟩

theorem Bus.SinceReset.accounts {recent : List Bus.Event} {base : Nat}
    (h : SinceReset index before events after recent base)
    (hstorage : before.storages[index]? = some storage) (hholds : storage.ring.Holds queue)
    (hfew : queue.history.length < 2 ^ 63) (hnew : storage.counters = {})
    (hempty : storage.ring.length = 0) (hunbroken : ∀ event ∈ events, event.breaks index = false) :
    ∃ storage', after.storages[index]? = some storage' ∧
      storage'.Accounts base (told index recent) := by
  obtain ⟨start, fresh, queue', hrun, hfresh, hholds', hfew', hzero, rfl, hnone, hrecent⟩ :=
    h.exists_start hstorage hholds hfew hnew hempty
  obtain ⟨last, next, hlast, htallied⟩ := hrun.tallied hfresh hholds' hfew' hnone
    fun event hevent => hunbroken event (hrecent hevent)
  exact ⟨last, hlast, htallied.accounts hholds' hzero⟩

theorem Storage.Tallied.exact {storage' : Storage} {report : Report}
    (h : Storage.Tallied queue next storage report storage') (hnew : storage.counters = {})
    (hempty : queue.history = []) (hunread : queue.read = 0) :
    storage'.counters.published.toNat = storage'.ring.lastEpoch ∧
      storage'.ring.lastEpoch = storage'.counters.consumed.toNat +
        storage'.counters.overwritten.toNat + storage'.ring.length := by
  have hword : next.history.length < UInt64.size := h.length_lt.trans (by decide)
  have hlength := h.length_eq
  have hread := h.read_eq
  have hle := h.holds.sound.read_le
  rw [hempty, List.length_nil] at hlength
  rw [hunread] at hread
  rw [h.holds.lastEpoch_eq, h.holds.length_eq, h.counts.published_eq,
    h.counts.consumed_eq, h.counts.overwritten_eq, hnew]
  simp only [UInt64.zero_add]
  rw [UInt64.toNat_ofNat_of_lt', UInt64.toNat_ofNat_of_lt', UInt64.toNat_ofNat_of_lt']
  all_goals omega

/-- A new topic, and any run of calls through handles of it and of other topics, with registries at
work and counters reset at any time: nothing goes missing between the counters. Only for want of an
epoch does a call break off, and what it overwrote by then is not counted. -/
theorem Topic.counters_conserved {spec : TopicSpec} {id : TopicId} {made : Bus} {log log' : Log}
    {topic : Topic kind}
    (hmade : (Topic.ofSpec kind spec id).exec before log = ((.ok topic, made), log'))
    (hrun : Bus.Run made events after) :
    ∃ storage, after.storages[topic.storage]? = some storage ∧
      storage.ring.lastEpoch = (Bus.accepted topic.storage events).length ∧
      (storage.ring.lastEpoch + 1 < 2 ^ 63 →
        ∀ event ∈ events, event.breaks topic.storage = false) ∧
      (∃ recent base, Bus.SinceReset topic.storage made events after recent base) ∧
      ((∀ event ∈ events, event.breaks topic.storage = false) →
        (∀ recent base, Bus.SinceReset topic.storage made events after recent base →
          storage.Accounts base (Bus.told topic.storage recent)) ∧
        ((∀ event ∈ events, event.resets topic.storage = false) →
          storage.counters.published.toNat = storage.ring.lastEpoch ∧
            storage.ring.lastEpoch = storage.counters.consumed.toNat +
              storage.counters.overwritten.toNat + storage.ring.length)) := by
  obtain ⟨ring, hmakes, hstorage, hholds⟩ := Topic.made_storage hmade
  have hfew : ([] : List Bytes).length < 2 ^ 63 := by decide
  obtain ⟨storage, queue, hafter, hqueue, hextends, -⟩ := hrun.extends hstorage hholds hfew
  have hhistory : queue.history = Bus.accepted topic.storage events := hextends.history_eq
  have hlast : storage.ring.lastEpoch = (Bus.accepted topic.storage events).length := by
    rw [hqueue.lastEpoch_eq, hhistory]
  refine ⟨storage, hafter, hlast, fun hroom => ?_, hrun.sinceReset hstorage hholds hfew,
    fun hunbroken => ⟨?_, ?_⟩⟩
  · refine hrun.unbroken hstorage hholds ?_
    rwa [List.length_nil, Nat.zero_add, ← hlast]
  · intro recent base hrecent
    obtain ⟨found, hfound, haccounts⟩ :=
      hrecent.accounts hstorage hholds hfew rfl hholds.length_eq hunbroken
    obtain rfl := Option.some.inj (hfound.symm.trans hafter)
    exact haccounts
  · intro hnone
    obtain ⟨found, next, hfound, htallied⟩ := hrun.tallied hstorage hholds hfew hnone hunbroken
    obtain rfl := Option.some.inj (hfound.symm.trans hafter)
    exact htallied.exact rfl rfl rfl

/-- A reset with two entries unread, of which one is then delivered and one overwritten. -/
theorem Topic.counters_conserved_reset :
    ∃ (made after : Bus) (events recent : List Bus.Event) (storage : Storage),
      Bus.SinceReset 0 made events after recent 2 ∧ after.storages[0]? = some storage ∧
      (Bus.accepted 0 events).length = 5 ∧ storage.ring.lastEpoch = 5 ∧
      (Bus.told 0 recent).overwritten = [3] ∧ storage.Accounts 2 (Bus.told 0 recent) := by
  let topic : Topic .byte := ⟨"a", .detached, 0⟩
  let made := (Topic.ofSpec .byte ⟨"a", .byte, 2, 4⟩ .detached).exec {} #[]
  have hmade : made = ((.ok topic, made.1.2), made.2) := rfl
  let ask (request : Topic.Request .byte) : Bus.Request := .topic topic request
  let next (bus : Bus) (request : Topic.Request .byte) : Bus :=
    ((ask request).report.exec bus #[]).1.2
  have hstep (bus : Bus) (request : Topic.Request .byte) (held : (ask request).Held bus) :
      Bus.Step bus (.call (ask request) ((ask request).report.exec bus #[]).1.1)
        (next bus request) := .call bus #[] (ask request) held
  let full := next (next (next made.1.2 (.publish [1])) (.publish [2])) (.publish [3])
  have hfirst := (Bus.Run.nil made.1.2).snoc (hstep _ (.publish [1]) (by decide +kernel))
  have hsecond := hfirst.snoc (hstep _ (.publish [2]) (by decide +kernel))
  have hthird := hsecond.snoc (hstep _ (.publish [3]) (by decide +kernel))
  have hreset := hstep full .resetCounters (by decide +kernel)
  have hread := (Bus.Run.nil (next full .resetCounters)).snoc
    (hstep _ .receivePayload (by decide +kernel))
  have hpublish := hread.snoc (hstep _ (.publish [4]) (by decide +kernel))
  have hlast := hpublish.snoc (hstep _ (.publish [5]) (by decide +kernel))
  have hunread : ((next full .resetCounters).storages[0]?).map (·.ring.length) = some 2 := by
    decide +kernel
  obtain ⟨middle, hmiddle, hlength⟩ := Option.map_eq_some_iff.mp hunread
  have hsince := Bus.SinceReset.reset hthird hreset rfl hmiddle hlast (by decide +kernel)
  rw [hlength] at hsince
  obtain ⟨storage, hstorage, hepoch, hunbroken, -, hconserved⟩ :=
    Topic.counters_conserved hmade ((hthird.snoc hreset).append hlast)
  have hfive : storage.ring.lastEpoch = 5 := hepoch.trans (by decide +kernel)
  obtain ⟨haccounts, -⟩ := hconserved (hunbroken (by rw [hfive]; decide))
  exact ⟨made.1.2, _, _, _, storage, hsince, hstorage, by decide +kernel, hfive, by decide +kernel,
    haccounts _ _ hsince⟩

end TopicBus
