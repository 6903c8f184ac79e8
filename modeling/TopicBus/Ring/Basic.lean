import Std.Data.TreeMap
import TopicBus.Operation
import TopicBus.Slot.Layout
import TopicBus.Word

/-!
The ring behind a topic: a fixed number of slots in one block of memory, written in turn. Messages
are numbered by epochs from 1 on, and epoch `e` lies in slot `(e - 1) % capacity`. The epochs up to
`written` were published, those up to `passed` were consumed or dropped, so the unread entries are
the epochs between the two. A publish into a full ring passes the oldest unread entry and thereby
drops it.

A slot carries a stamp: `2 * e - 1` while epoch `e` is being written and `2 * e` once it is there.
A reader trusts a slot only under the stamp of the epoch it looks for.
-/

namespace TopicBus

structure Slot where
  stamp : Nat
  bytes : Bytes
  deriving DecidableEq, Repr

def Slot.blank (size : Nat) : Slot := ⟨0, Bytes.zeros size⟩

structure Ring where
  layout : Layout
  capacity : Nat
  capacity_pos : 0 < capacity
  /-- The slots that were written so far. -/
  slots : Std.TreeMap Nat Slot
  /-- The latest epoch, 0 before the first publish. -/
  written : Nat
  /-- The latest epoch that was consumed or dropped, 0 if none was. -/
  passed : Nat

/-- What an accepted publish reports: its epoch, and how many unread entries it dropped. -/
structure Published where
  epoch : Nat
  overwritten : Nat
  deriving DecidableEq, Repr

structure Delivery where
  length : Nat
  epoch : Nat
  deriving DecidableEq, Repr

namespace Ring

/-- An empty ring, if its block of memory can be had: one that is smaller than `memory`. -/
def create (capacity : Nat) (layout : Layout) (memory : Nat := Limits.addressSpace) :
    Except Refusal Ring :=
  if h : capacity = 0 then
    .error (.invalidParameter "capacity" "Capacity must be greater than 0")
  else if Limits.word ≤ capacity * layout.slotSize then
    .error (.allocationFailure "Ring size overflows usize")
  else if Limits.block ≤ capacity * layout.slotSize then
    .error (.allocationFailure "Failed to create layout for slot ring")
  else if memory ≤ capacity * layout.slotSize then
    .error (.allocationFailure "Failed to allocate slot ring")
  else
    .ok ⟨layout, capacity, Nat.pos_of_ne_zero h, {}, 0, 0⟩

def slotSize (ring : Ring) : Nat := ring.layout.slotSize

def blockSize (ring : Ring) : Nat := ring.capacity * ring.slotSize

def slot (ring : Ring) (index : Nat) : Slot :=
  ring.slots.getD index (.blank ring.slotSize)

def put (ring : Ring) (index : Nat) (slot : Slot) : Ring :=
  { ring with slots := ring.slots.insert index slot }

theorem slot_put (ring : Ring) (index other : Nat) (slot : Slot) :
    (ring.put index slot).slot other = if index = other then slot else ring.slot other := by
  simp only [Ring.slot, put, slotSize, Std.TreeMap.getD_insert]
  by_cases h : index = other <;> simp [h]

def lastEpoch (ring : Ring) : Nat := ring.written

def length (ring : Ring) : Nat := min (ring.written - ring.passed) ring.capacity

def isEmpty (ring : Ring) : Bool := ring.length == 0

def isFull (ring : Ring) : Bool := ring.length == ring.capacity

def locate (ring : Ring) (epoch : Nat) : Except Fault Nat := do
  let index := (← Word.sub epoch 1) % ring.capacity
  let start ← Word.mul index ring.slotSize
  if start + ring.slotSize ≤ ring.blockSize then .ok index else .error .outOfRange

def doneStamp (epoch : Nat) : Except Fault Nat := Word.mul epoch 2

def busyStamp (epoch : Nat) : Except Fault Nat := do Word.sub (← Word.mul epoch 2) 1

/-- Moves `passed` from `seen` to `next`, unless it stands elsewhere by now. -/
def claim (seen next : Nat) : Op Ring Bool := do
  let ring ← get
  if ring.passed = seen then
    set { ring with passed := next }
    return true
  else
    return false

/-- Makes room for an epoch, and says how many unread entries that drops. -/
def makeRoom (epoch : Nat) : Op Ring Nat := do
  let ring ← get
  let passed := ring.passed
  if (← Word.sub epoch passed) ≤ ring.capacity then
    return 0
  let kept ← Word.sub epoch ring.capacity
  if ← claim passed kept then
    Word.sub kept passed
  else
    Op.fail .stalled

def fill (epoch : Nat) (payload : Bytes) : Op Ring Unit := do
  let ring ← get
  let index ← ring.locate epoch
  let slot := ring.slot index
  let busy ← busyStamp epoch
  set (ring.put index { slot with stamp := busy })
  let body ← Bytes.write ring.layout.headerSize payload slot.bytes
  let bytes ← (ring.layout.header epoch payload.length).encode body
  let done ← doneStamp epoch
  modify (·.put index ⟨done, bytes⟩)

def publish (payload : Bytes) : Op Ring Published := do
  (← get).layout.checkPayload payload.length
  let epoch ← Word.add (← get).written 1
  let overwritten ← makeRoom epoch
  fill epoch payload
  modify fun ring => { ring with written := epoch }
  return ⟨epoch, overwritten⟩

/-- Copies the payload of an epoch into the buffer and says how long it is; nothing if the slot
holds another epoch. -/
def copySlot (epoch : Nat) : Op (Reading Ring) (Option Nat) := do
  let ⟨ring, buffer⟩ ← get
  let slot := ring.slot (← ring.locate epoch)
  if slot.stamp ≠ (← doneStamp epoch) then
    return none
  let header ← Header.decode ring.layout.kind slot.bytes
  let length := ring.layout.payloadLength header
  if buffer.length < length then
    Op.refuse (.bufferTooSmall length buffer.length)
  else
    let payload ← Bytes.read ring.layout.headerSize length slot.bytes
    set (Reading.mk ring (← Bytes.write 0 payload buffer))
    if header.epoch.toNat = epoch then return some length else Op.fail .inconsistent

def copyEntry (epoch : Nat) : Op (Reading Ring) Delivery := do
  match ← copySlot epoch with
  | some length => return ⟨length, epoch⟩
  | none => Op.fail .stalled

def checkRoom : Op (Reading Ring) Unit := do
  let ⟨ring, buffer⟩ ← get
  ring.layout.checkRoom buffer.length

def readLatest : Op (Reading Ring) (Option Delivery) := do
  checkRoom
  let ring := (← get).source
  if ring.written = 0 then
    return none
  copyEntry ring.written

def readOldest : Op (Reading Ring) (Option Delivery) := do
  checkRoom
  let ring := (← get).source
  if ring.written ≤ ring.passed then
    return none
  copyEntry (← Word.add ring.passed 1)

def receive : Op (Reading Ring) (Option Delivery) := do
  checkRoom
  let ring := (← get).source
  if ring.written ≤ ring.passed then
    return none
  let received ← copyEntry (← Word.add ring.passed 1)
  if ← Op.onSource (claim ring.passed received.epoch) then
    return some received
  else
    Op.fail .stalled

/-- All bytes of the slot that holds an epoch, consumed or not, while it is still there. -/
def slotImage (ring : Ring) (epoch : Nat) : Except Fault (Option Bytes) := do
  if epoch = 0 ∨ ring.lastEpoch < epoch then
    return none
  let slot := ring.slot (← ring.locate epoch)
  return if slot.stamp = (← doneStamp epoch) then some slot.bytes else none

def inspect (ring : Ring) : String :=
  Text.record "SlotRing"
    [("layout", ring.layout.inspect), ("capacity", toString ring.capacity),
      ("slot_size", toString ring.slotSize), ("write_cursor", toString ring.written),
      ("read_cursor", toString ring.passed)]

end Ring

end TopicBus
