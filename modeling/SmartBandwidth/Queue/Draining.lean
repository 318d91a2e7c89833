import SmartBandwidth.Queue.Insertion

/-!
# The order of service

A drain lists the packets as dequeues would serve them one by one.  Every operation of a
scheduler keeps the heap property, and under it the order of service is by key and arrival
number.
-/

namespace SmartBandwidth

variable {K : Type} [LinearOrder K]

namespace Scheduler

/-! ## Draining and dequeuing -/

theorem drain_of_empty {scheduler : Scheduler K} (empty : scheduler.heap = []) (store : Store) :
    (scheduler.drain store).1 = [] := by
  rw [drain, length, empty]
  rfl

/-- A dequeue without an answer leaves an empty queue as it is. -/
theorem drain_of_exhausted {scheduler rest : Scheduler K} {store : Store}
    (exhausted : scheduler.dequeue store = (none, rest)) :
    (scheduler.drain store).1 = [] ∧ rest = scheduler := by
  have dequeues := scheduler.dequeue_dequeues store
  rw [exhausted] at dequeues
  cases dequeues with
  | empty empty => exact ⟨drain_of_empty empty store, rfl⟩

/-- A dequeue serves the first packet of the drain and leaves the others. -/
theorem drain_of_served {scheduler rest : Scheduler K} {store : Store} {ref : PacketRef}
    (served : scheduler.dequeue store = (some ref, rest)) :
    (scheduler.drain store).1 = ref :: (rest.drain store).1 ∧
      scheduler.length = rest.length + 1 := by
  have dequeues := scheduler.dequeue_dequeues store
  rw [served] at dequeues
  cases dequeues with
  | @served entry heap popped =>
      have shorter := (HeapQ.heappop_perm popped).length_eq
      rw [List.length_cons] at shorter
      have inhabited : ¬ scheduler.isEmpty = true := by
        rw [isEmpty_iff]
        intro empty
        rw [empty] at shorter
        cases shorter
      refine ⟨?_, shorter⟩
      rw [drain, length, shorter, drainLoop, if_neg inhabited, served]
      rfl

/-! ## The heap property -/

/-- The heap property of the queued entries. -/
def HeapOrdered (scheduler : Scheduler K) : Prop :=
  HeapQ.IsHeap QueueEntry.sortKey scheduler.heap

theorem init_heapOrdered (maxQueueSize : Int) : (init maxQueueSize : Scheduler K).HeapOrdered :=
  HeapQ.isHeap_nil

theorem removeAt_isHeap {heap : List (QueueEntry K)}
    (ordered : HeapQ.IsHeap QueueEntry.sortKey heap) (idx : Nat) :
    HeapQ.IsHeap QueueEntry.sortKey (removeAt heap idx) := by
  rw [removeAt]
  split
  next => exact ordered
  next => exact HeapQ.heapify_isHeap _

theorem insertEntry_heapOrdered {scheduler : Scheduler K} (ordered : scheduler.HeapOrdered)
    (priority : TrafficPriority) (entry : QueueEntry K) :
    (scheduler.insertEntry priority entry).2.HeapOrdered := by
  rw [insertEntry]
  split
  next =>
    split
    next => exact push_isHeap priority entry ordered
    next =>
      split
      next => exact ordered
      next => exact push_isHeap priority entry (removeAt_isHeap ordered _)
  next => exact push_isHeap priority entry ordered

theorem enqueue_heapOrdered (keyOf : Packet → K) {scheduler : Scheduler K}
    (ordered : scheduler.HeapOrdered) (store : Store) (now : ℚ) (ref : PacketRef) :
    (Scheduler.enqueue keyOf scheduler store now ref).2.1.HeapOrdered :=
  @insertEntry_heapOrdered K _ scheduler.draw ordered _ _

theorem dequeue_heapOrdered {scheduler : Scheduler K} (ordered : scheduler.HeapOrdered)
    (store : Store) : (scheduler.dequeue store).2.HeapOrdered := by
  have dequeues := scheduler.dequeue_dequeues store
  generalize scheduler.dequeue store = outcome at dequeues ⊢
  cases dequeues with
  | empty => exact ordered
  | served popped => exact HeapQ.heappop_isHeap ordered popped

/-! ## Service order -/

/-- The packets of all queued entries, sorted by key and arrival number. -/
def InServiceOrder (scheduler : Scheduler K) (refs : List PacketRef) : Prop :=
  ∃ entries : List (QueueEntry K), entries.Perm scheduler.heap ∧
    entries.Pairwise (fun first second => first.sortKey ≤ second.sortKey) ∧
    entries.map QueueEntry.packet = refs

theorem drain_inServiceOrder {scheduler : Scheduler K} (ordered : scheduler.HeapOrdered)
    (store : Store) : scheduler.InServiceOrder (scheduler.drain store).1 := by
  generalize lengthEq : scheduler.length = count
  induction count generalizing scheduler with
  | zero =>
      have empty := List.eq_nil_of_length_eq_zero lengthEq
      rw [drain_of_empty empty]
      exact ⟨[], empty ▸ List.Perm.refl _, .nil, rfl⟩
  | succ count ih =>
      have after := dequeue_heapOrdered ordered store
      have dequeues := scheduler.dequeue_dequeues store
      generalize served : scheduler.dequeue store = outcome at dequeues after
      cases dequeues with
      | empty empty =>
          rw [length, empty] at lengthEq
          cases lengthEq
      | @served entry heap popped =>
          obtain ⟨first, shorter⟩ := drain_of_served served
          obtain ⟨entries, perm, sorted, refs⟩ :=
            ih after (Nat.succ.inj (shorter.symm.trans lengthEq))
          rw [first]
          refine ⟨entry :: entries, ?_, ?_, congrArg _ refs⟩
          · exact (perm.cons entry).trans (HeapQ.heappop_perm popped).symm
          · rw [List.pairwise_cons]
            refine ⟨?_, sorted⟩
            intro other member
            apply HeapQ.heappop_le ordered popped
            rw [(HeapQ.heappop_perm popped).mem_iff]
            exact List.mem_cons_of_mem entry (perm.mem_iff.mp member)

end Scheduler

end SmartBandwidth
