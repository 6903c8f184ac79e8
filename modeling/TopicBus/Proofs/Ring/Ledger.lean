import TopicBus.Proofs.Topic.Storage

/-!
What becomes of the entries of a queue. Every call leaves a receipt: what was accepted, what was
delivered, and the epochs that were dropped unread for newer ones. Over a whole run of calls each
epoch is delivered once, dropped once, or still unread.
-/

namespace TopicBus

/-- What one call accepted, dropped and delivered; a failed call does nothing of it. -/
structure Receipt where
  accepted : List (Bytes × Nat) := []
  overwritten : List Nat := []
  delivered : List (Bytes × Nat) := []

namespace Receipt

def ofOutcome : Except Failure Receipt → Receipt
  | .ok receipt => receipt
  | .error _ => {}

def allAccepted (receipts : List Receipt) : List (Bytes × Nat) := receipts.flatMap accepted

def allOverwritten (receipts : List Receipt) : List Nat := receipts.flatMap overwritten

def allDelivered (receipts : List Receipt) : List (Bytes × Nat) := receipts.flatMap delivered

end Receipt

open Receipt

namespace Queue

inductive Step : Queue → Receipt → Queue → Prop
  | idle (queue : Queue) : Step queue {} queue
  | publish (queue : Queue) (payload : Bytes)
      (hp : queue.layout.checkPayload payload.length = .ok ()) :
      Step queue
        { accepted := [(payload, queue.history.length + 1)]
          overwritten := List.range' (queue.read + 1) ((queue.append payload).read - queue.read) }
        (queue.append payload)
  | take (queue : Queue) (count : Nat) (hc : queue.read + count ≤ queue.history.length) :
      Step queue { delivered := queue.unread.take count } (queue.advance count)

/-- The receipts account for every entry that the queue accepted and no longer holds unread. -/
structure Balanced (queue : Queue) (receipts : List Receipt) : Prop where
  accepted_eq : allAccepted receipts = queue.history.zipIdx 1
  settled : ((allDelivered receipts).map Prod.snd ++ allOverwritten receipts).Perm
    (List.range' 1 queue.read)
  in_order : ((allDelivered receipts).map Prod.snd).Pairwise (· < ·)
  genuine : ∀ entry ∈ allDelivered receipts, entry ∈ queue.history.zipIdx 1
  later : ∀ receipt ∈ receipts, ∀ epoch ∈ receipt.overwritten,
    ∃ entry ∈ receipt.accepted, epoch < entry.2

theorem balanced_empty (layout : Layout) (capacity : Nat) : Balanced { layout, capacity } [] where
  accepted_eq := rfl
  settled := .nil
  in_order := .nil
  genuine := by simp [allDelivered]
  later := by simp

variable {queue next : Queue} {receipt : Receipt} {receipts : List Receipt}

theorem mem_unread {entry : Bytes × Nat} (h : entry ∈ queue.unread) :
    entry ∈ queue.history.zipIdx 1 := by
  by_cases hlt : queue.read ≤ queue.history.length
  · have hlength : (queue.history.take queue.read).length = queue.read :=
      List.length_take_of_le hlt
    rw [← List.take_append_drop queue.read queue.history, List.zipIdx_append, hlength, Nat.add_comm]
    exact List.mem_append_right _ h
  · rw [unread, List.drop_of_length_le (by omega)] at h
    cases h

theorem epochs_unread (queue : Queue) :
    queue.unread.map Prod.snd =
      List.range' (queue.read + 1) (queue.history.length - queue.read) := by
  rw [unread, List.zipIdx_map_snd, List.length_drop]

theorem epochs_take {count : Nat} (hc : queue.read + count ≤ queue.history.length) :
    (queue.unread.take count).map Prod.snd = List.range' (queue.read + 1) count := by
  have hsplit : queue.history.length - queue.read =
      count + (queue.history.length - queue.read - count) := by omega
  rw [List.map_take, epochs_unread, hsplit, ← List.range'_append_1,
    List.take_left' List.length_range']

theorem allAccepted_append (receipts : List Receipt) (receipt : Receipt) :
    allAccepted (receipts ++ [receipt]) = allAccepted receipts ++ receipt.accepted := by
  simp [allAccepted]

theorem allOverwritten_append (receipts : List Receipt) (receipt : Receipt) :
    allOverwritten (receipts ++ [receipt]) = allOverwritten receipts ++ receipt.overwritten := by
  simp [allOverwritten]

theorem allDelivered_append (receipts : List Receipt) (receipt : Receipt) :
    allDelivered (receipts ++ [receipt]) = allDelivered receipts ++ receipt.delivered := by
  simp [allDelivered]

theorem Balanced.le_read (h : queue.Balanced receipts) {epoch : Nat}
    (he : epoch ∈ (allDelivered receipts).map Prod.snd) : epoch ≤ queue.read := by
  have hmem := h.settled.subset (List.mem_append_left _ he)
  rw [List.mem_range'_1] at hmem
  omega

theorem Balanced.publish (h : queue.Balanced receipts) (hs : queue.Sound) (payload : Bytes) :
    (queue.append payload).Balanced (receipts ++ [{
      accepted := [(payload, queue.history.length + 1)]
      overwritten :=
        List.range' (queue.read + 1) ((queue.append payload).read - queue.read) }]) where
  accepted_eq := by
    rw [allAccepted_append, h.accepted_eq, append, List.zipIdx_append, Nat.add_comm 1]
    rfl
  settled := by
    have hle : queue.read ≤ (queue.append payload).read := Nat.le_max_left _ _
    have hend : (queue.append payload).read =
        queue.read + ((queue.append payload).read - queue.read) := by omega
    rw [allDelivered_append, allOverwritten_append, List.append_nil, ← List.append_assoc]
    nth_rewrite 2 [hend]
    rw [← List.range'_append_1, Nat.add_comm 1]
    exact h.settled.append_right _
  in_order := by
    rw [allDelivered_append, List.append_nil]
    exact h.in_order
  genuine := by
    intro entry hentry
    rw [allDelivered_append, List.append_nil] at hentry
    rw [append, List.zipIdx_append]
    exact List.mem_append_left _ (h.genuine entry hentry)
  later := by
    intro receipt hreceipt epoch hepoch
    rcases List.mem_append.mp hreceipt with hold | hnew
    · exact h.later receipt hold epoch hepoch
    · rw [List.mem_singleton.mp hnew] at hepoch ⊢
      have hr := hs.read_le
      have hc := hs.capacity_pos
      refine ⟨_, List.mem_singleton_self _, ?_⟩
      simp only [List.mem_range'_1, append] at hepoch
      show epoch < queue.history.length + 1
      omega

theorem Balanced.take (h : queue.Balanced receipts) {count : Nat}
    (hc : queue.read + count ≤ queue.history.length) :
    (queue.advance count).Balanced (receipts ++ [{ delivered := queue.unread.take count }]) where
  accepted_eq := by
    rw [allAccepted_append, List.append_nil, h.accepted_eq]
    rfl
  settled := by
    have hread : (queue.advance count).read = queue.read + count := rfl
    rw [allDelivered_append, allOverwritten_append, List.append_nil, List.map_append,
      epochs_take hc, List.append_assoc, hread, ← List.range'_append_1, Nat.add_comm 1]
    refine (List.Perm.append_left _ List.perm_append_comm).trans ?_
    rw [← List.append_assoc]
    exact h.settled.append_right _
  in_order := by
    rw [allDelivered_append, List.map_append, epochs_take hc, List.pairwise_append]
    refine ⟨h.in_order, List.pairwise_lt_range', ?_⟩
    intro a ha b hb
    have hle := h.le_read ha
    rw [List.mem_range'_1] at hb
    omega
  genuine := by
    intro entry hentry
    rw [allDelivered_append] at hentry
    rcases List.mem_append.mp hentry with hold | hnew
    · exact h.genuine entry hold
    · have hmem : entry ∈ queue.history.zipIdx 1 := mem_unread (List.mem_of_mem_take hnew)
      exact hmem
  later := by
    intro receipt hreceipt epoch hepoch
    rcases List.mem_append.mp hreceipt with hold | hnew
    · exact h.later receipt hold epoch hepoch
    · rw [List.mem_singleton.mp hnew] at hepoch
      cases hepoch

theorem Balanced.step (h : queue.Balanced receipts) (hs : queue.Sound)
    (hstep : queue.Step receipt next) : next.Balanced (receipts ++ [receipt]) := by
  cases hstep with
  | idle =>
      -- Nothing taken is a take of no entries.
      have hnone : queue.read + 0 ≤ queue.history.length := hs.read_le
      exact h.take hnone
  | publish payload hp => exact h.publish hs payload
  | take count hc => exact h.take hc

theorem Balanced.sorted (h : queue.Balanced receipts) :
    (0 :: (allDelivered receipts).map Prod.snd).Pairwise (· < ·) := by
  rw [List.pairwise_cons]
  refine ⟨?_, h.in_order⟩
  intro epoch he
  have hmem := h.settled.subset (List.mem_append_left _ he)
  rw [List.mem_range'_1] at hmem
  omega

/-- What lies strictly between one delivery and the next was overwritten. -/
theorem Balanced.gap (h : queue.Balanced receipts) {front back : List Nat} {a b : Nat}
    (hsplit : 0 :: (allDelivered receipts).map Prod.snd = front ++ a :: b :: back) :
    a < b ∧ ((allOverwritten receipts).filter fun epoch => a < epoch ∧ epoch < b).Perm
      (List.range' (a + 1) (b - a - 1)) := by
  have hsorted := h.sorted
  rw [hsplit, List.pairwise_append, List.pairwise_cons, List.pairwise_cons] at hsorted
  obtain ⟨-, ⟨hafter, hbehind, -⟩, hbefore⟩ := hsorted
  have hab : a < b := hafter b List.mem_cons_self
  have hnodup := h.settled.nodup_iff.mpr List.nodup_range'
  have hb : b ≤ queue.read := by
    apply h.le_read
    have hmem : b ∈ 0 :: (allDelivered receipts).map Prod.snd := by simp [hsplit]
    exact (List.mem_cons.mp hmem).resolve_left (by omega)
  refine ⟨hab, ?_⟩
  rw [List.perm_ext_iff_of_nodup ((List.nodup_append.mp hnodup).2.1.filter _) List.nodup_range']
  intro epoch
  rw [List.mem_filter, List.mem_range'_1, decide_eq_true_iff]
  constructor
  · rintro ⟨-, hlow, hhigh⟩
    omega
  · rintro ⟨hlow, hhigh⟩
    refine ⟨?_, by omega, by omega⟩
    have hall := h.settled.symm.subset (List.mem_range'_1.mpr ⟨by omega, by omega⟩ :
      epoch ∈ List.range' 1 queue.read)
    refine (List.mem_append.mp hall).resolve_left fun hdelivered => ?_
    -- A delivered epoch stands before `a`, behind `b`, or is one of the two.
    have hmem := List.mem_cons_of_mem 0 hdelivered
    rw [hsplit, List.mem_append, List.mem_cons, List.mem_cons] at hmem
    rcases hmem with hfront | rfl | rfl | hback
    · have hlt := hbefore epoch hfront a List.mem_cons_self
      omega
    · omega
    · omega
    · have hlt := hbehind epoch hback
      omega

end Queue

namespace Ring

def unread (ring : Ring) : List Nat :=
  List.range' (ring.passed + 1) (ring.written - ring.passed)

/-- The receipts of a ring's users account for each of its epochs exactly once. -/
structure Accounted (ring : Ring) (receipts : List Receipt) : Prop where
  accepted_epochs : (allAccepted receipts).map Prod.snd = List.range' 1 ring.lastEpoch
  /-- Each epoch was delivered once, or overwritten once, or is unread. -/
  once : ((allDelivered receipts).map Prod.snd ++ allOverwritten receipts ++ ring.unread).Perm
    (List.range' 1 ring.lastEpoch)
  genuine : ∀ entry ∈ allDelivered receipts, entry ∈ allAccepted receipts
  /-- An entry is overwritten by an accepted publish of a later epoch. -/
  overwritten_later : ∀ receipt ∈ receipts, ∀ epoch ∈ receipt.overwritten,
    ∃ entry ∈ receipt.accepted, epoch < entry.2
  unread_eq : ring.unread = List.range' (ring.lastEpoch - ring.length + 1) ring.length
  length_le : ring.length ≤ ring.capacity
  delivered_in_order : ((allDelivered receipts).map Prod.snd).Pairwise (· < ·)
  /-- Between one delivery and the next, counted from the start, exactly the overwritten epochs
  are missing. -/
  gap : ∀ front back a b, 0 :: (allDelivered receipts).map Prod.snd = front ++ a :: b :: back →
    a < b ∧ ((allOverwritten receipts).filter fun epoch => a < epoch ∧ epoch < b).Perm
      (List.range' (a + 1) (b - a - 1))

variable {ring : Ring} {queue : Queue} {receipts : List Receipt}

theorem Holds.unread_eq (h : ring.Holds queue) :
    ring.unread = List.range' (queue.read + 1) (queue.history.length - queue.read) := by
  rw [unread, h.written_eq, h.passed_eq]

theorem Holds.accounted (h : ring.Holds queue) (hb : queue.Balanced receipts) :
    ring.Accounted receipts := by
  have hread := h.sound.read_le
  have hlast : ring.lastEpoch = queue.history.length := h.written_eq
  have hend : queue.history.length = queue.read + (queue.history.length - queue.read) := by omega
  have honce : ((allDelivered receipts).map Prod.snd ++ allOverwritten receipts ++ ring.unread).Perm
      (List.range' 1 ring.lastEpoch) := by
    rw [h.unread_eq, hlast, hend, ← List.range'_append_1, Nat.add_comm 1, Nat.add_sub_cancel_left]
    exact hb.settled.append_right _
  constructor
  case accepted_epochs => rw [hb.accepted_eq, List.zipIdx_map_snd, hlast]
  case once => exact honce
  case genuine =>
    intro entry hentry
    rw [hb.accepted_eq]
    exact hb.genuine entry hentry
  case overwritten_later => exact hb.later
  case unread_eq =>
    rw [h.unread_eq, h.length_eq, hlast]
    congr 1
    omega
  case length_le =>
    have hle := h.sound.length_le
    rw [h.length_eq, h.capacity_eq]
    omega
  case delivered_in_order => exact hb.in_order
  case gap =>
    intro front back a b hsplit
    exact hb.gap hsplit

end Ring

end TopicBus
