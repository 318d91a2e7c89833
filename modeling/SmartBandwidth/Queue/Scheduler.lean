import SmartBandwidth.Core.Packet
import SmartBandwidth.Lib.Heap
import SmartBandwidth.Lib.Machine
import Mathlib.Data.Prod.Lex

/-!
# Queue schedulers

`PriorityScheduler` and `ValueScheduler` are the same bounded heap of entries; they
differ in the key an entry is sorted by.  The operations are written once over the
key, and each scheduler is that text applied to its own key.
-/

namespace SmartBandwidth

/-- A heap entry, sorted by key and then by arrival number.  The packet takes no
part in comparisons. -/
structure QueueEntry (K : Type) where
  key : K
  sequence : Nat
  packet : PacketRef
  deriving DecidableEq, Repr

/-- The tuple entries are compared by. -/
def QueueEntry.sortKey {K : Type} (entry : QueueEntry K) : K ×ₗ Nat :=
  toLex (entry.key, entry.sequence)

/-- Scheduler state: the raw heap list, the arrival counter and the statistics. -/
structure Scheduler (K : Type) where
  maxSize : Nat
  heap : List (QueueEntry K)
  counter : Nat
  enqueueCounts : TrafficPriority → Nat
  dequeueCounts : TrafficPriority → Nat
  droppedOverflow : Nat

/-- Increment the counter of one class. -/
def bump (counts : TrafficPriority → Nat) (priority : TrafficPriority) :
    TrafficPriority → Nat :=
  Function.update counts priority (counts priority + 1)

/-- The dictionary `stats()` returns. -/
structure SchedulerStats where
  currentQueueSize : Nat
  maxQueueSize : Nat
  fillRatio : ℚ
  enqueueCounts : TrafficPriority → Nat
  dequeueCounts : TrafficPriority → Nat
  droppedOverflow : Nat

namespace Scheduler

/-- `__init__`: the limit is clamped to at least one. -/
def init {K : Type} (maxQueueSize : Int) : Scheduler K where
  maxSize := (max 1 maxQueueSize).toNat
  heap := []
  counter := 0
  enqueueCounts := fun _ => 0
  dequeueCounts := fun _ => 0
  droppedOverflow := 0

variable {K : Type} [LinearOrder K]

/-- The comparison of `_find_worst_index`: a greater key, or the same key and an
earlier arrival. -/
def replacesWorst (entry worst : QueueEntry K) : Bool :=
  decide (entry.key > worst.key) ||
    (decide (entry.key = worst.key) && decide (entry.sequence < worst.sequence))

/-- The scan of `_find_worst_index` over the entries from slot `slot` on. -/
def findWorstFrom (slot : Nat) (worstIdx : Nat) (worst : QueueEntry K) :
    List (QueueEntry K) → Nat × QueueEntry K
  | [] => (worstIdx, worst)
  | entry :: rest =>
      if replacesWorst entry worst then
        findWorstFrom (slot + 1) slot entry rest
      else
        findWorstFrom (slot + 1) worstIdx worst rest

/-- `_find_worst_index` together with the entry stored there. -/
def findWorst : List (QueueEntry K) → Option (Nat × QueueEntry K)
  | [] => none
  | first :: rest => some (findWorstFrom 0 0 first (first :: rest))

/-- `heap[idx] = heap[-1]; heap.pop(); heapify(heap)`. -/
def removeAt (heap : List (QueueEntry K)) (idx : Nat) : List (QueueEntry K) :=
  match heap.getLast? with
  | none => heap
  | some last => HeapQ.heapify QueueEntry.sortKey (heap.set idx last).dropLast

/-- Push an entry and count it under its class. -/
def push (scheduler : Scheduler K) (priority : TrafficPriority)
    (entry : QueueEntry K) : Scheduler K :=
  { scheduler with
    heap := HeapQ.heappush QueueEntry.sortKey scheduler.heap entry
    enqueueCounts := bump scheduler.enqueueCounts priority }

/-- The locked part of `enqueue`. -/
def insertEntry (scheduler : Scheduler K) (priority : TrafficPriority)
    (entry : QueueEntry K) : Bool × Scheduler K :=
  if scheduler.maxSize ≤ scheduler.heap.length then
    match findWorst scheduler.heap with
    | none => (true, scheduler.push priority entry)
    | some (worstIdx, worst) =>
        if worst.key < entry.key then
          (false, { scheduler with droppedOverflow := scheduler.droppedOverflow + 1 })
        else
          let evicted := { scheduler with
            heap := removeAt scheduler.heap worstIdx
            droppedOverflow := scheduler.droppedOverflow + 1 }
          (true, evicted.push priority entry)
  else
    (true, scheduler.push priority entry)

/-- `next(self._counter)`. -/
def draw (scheduler : Scheduler K) : Scheduler K :=
  { scheduler with counter := scheduler.counter + 1 }

/-- `enqueue`: stamp the packet, draw an arrival number and insert. -/
def enqueue (keyOf : Packet → K) (scheduler : Scheduler K) (store : Store) (now : ℚ)
    (ref : PacketRef) : Bool × Scheduler K × Store :=
  let priority := (store ref).effectivePriority
  let store := store.set ref ((store ref).stamped now)
  let entry : QueueEntry K :=
    { key := keyOf (store ref), sequence := scheduler.counter, packet := ref }
  let (accepted, scheduler) := scheduler.draw.insertEntry priority entry
  (accepted, scheduler, store)

/-- `dequeue`: pop the root and count it under the packet's current class. -/
def dequeue (scheduler : Scheduler K) (store : Store) :
    Option PacketRef × Scheduler K :=
  match HeapQ.heappop QueueEntry.sortKey scheduler.heap with
  | none => (none, scheduler)
  | some (entry, rest) =>
      let priority := (store entry.packet).effectivePriority
      (some entry.packet,
        { scheduler with
          heap := rest
          dequeueCounts := bump scheduler.dequeueCounts priority })

/-- `peek`: the packet at the root. -/
def peek (scheduler : Scheduler K) : Option PacketRef :=
  scheduler.heap.head?.map QueueEntry.packet

/-- `__len__`. -/
def length (scheduler : Scheduler K) : Nat := scheduler.heap.length

/-- `is_empty`. -/
def isEmpty (scheduler : Scheduler K) : Bool := scheduler.length == 0

/-- `is_full`. -/
def isFull (scheduler : Scheduler K) : Bool :=
  decide (scheduler.maxSize ≤ scheduler.heap.length)

/-- The loop of `drain`, with one round of fuel for each queued packet. -/
def drainLoop (store : Store) : Nat → Scheduler K → List PacketRef × Scheduler K
  | 0, scheduler => ([], scheduler)
  | fuel + 1, scheduler =>
      if scheduler.isEmpty then
        ([], scheduler)
      else
        match scheduler.dequeue store with
        | (some ref, rest) =>
            let (refs, final) := drainLoop store fuel rest
            (ref :: refs, final)
        | (none, rest) => drainLoop store fuel rest

/-- `drain`, run to exhaustion. -/
def drain (scheduler : Scheduler K) (store : Store) : List PacketRef × Scheduler K :=
  drainLoop store scheduler.length scheduler

/-- `stats`. -/
def stats (scheduler : Scheduler K) : SchedulerStats where
  currentQueueSize := scheduler.heap.length
  maxQueueSize := scheduler.maxSize
  fillRatio := scheduler.heap.length / scheduler.maxSize
  enqueueCounts := scheduler.enqueueCounts
  dequeueCounts := scheduler.dequeueCounts
  droppedOverflow := scheduler.droppedOverflow

/-- `reset_stats`. -/
def resetStats (scheduler : Scheduler K) : Scheduler K :=
  { scheduler with
    enqueueCounts := fun _ => 0
    dequeueCounts := fun _ => 0
    droppedOverflow := 0 }

end Scheduler

/-! ## The two schedulers -/

/-- Entries sorted by `priority.value`. -/
abbrev PriorityScheduler := Scheduler Nat

/-- `priority.value` of the packet's class. -/
def PriorityScheduler.key (packet : Packet) : Nat := packet.effectivePriority.value

/-- `PriorityScheduler.enqueue`. -/
def PriorityScheduler.enqueue (scheduler : PriorityScheduler) (store : Store) (now : ℚ)
    (ref : PacketRef) : Bool × PriorityScheduler × Store :=
  Scheduler.enqueue PriorityScheduler.key scheduler store now ref

/-- Entries sorted by the negated effective value. -/
abbrev ValueScheduler := Scheduler ℚ

/-- The multiplier of each class in `_PRIORITY_MULTIPLIER`. -/
def priorityMultiplier : TrafficPriority → ℚ
  | .critical => 5
  | .high => 4
  | .medium => 3
  | .low => 2
  | .background => 1

/-- `_effective_value`: a negative coefficient counts as zero. -/
def ValueScheduler.effectiveValue (packet : Packet) : ℚ :=
  max 0 packet.valueCoefficient * priorityMultiplier packet.effectivePriority

/-- The negated effective value. -/
def ValueScheduler.key (packet : Packet) : ℚ := -ValueScheduler.effectiveValue packet

/-- `ValueScheduler.enqueue`. -/
def ValueScheduler.enqueue (scheduler : ValueScheduler) (store : Store) (now : ℚ)
    (ref : PacketRef) : Bool × ValueScheduler × Store :=
  Scheduler.enqueue ValueScheduler.key scheduler store now ref

theorem ValueScheduler.effectiveValue_nonneg (packet : Packet) :
    0 ≤ ValueScheduler.effectiveValue packet := by
  unfold effectiveValue
  apply mul_nonneg (le_max_left _ _)
  cases packet.effectivePriority <;> decide

end SmartBandwidth
