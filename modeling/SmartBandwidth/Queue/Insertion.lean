import SmartBandwidth.Queue.Scheduler

/-!
# What one scheduler call does to the queue

`enqueue` either finds room, is refused by a queue of strictly better keys, or
displaces the oldest entry of the worst key.  Later modules read these three cases
and never the heap surgery behind them.
-/

namespace SmartBandwidth

variable {K : Type} [LinearOrder K]

/-- The entry `_find_worst_index` looks for: no key is greater, and among entries of
the same key none arrived earlier. -/
structure IsWorst (heap : List (QueueEntry K)) (worst : QueueEntry K) : Prop where
  member : worst ∈ heap
  greatest : ∀ queued ∈ heap, queued.key ≤ worst.key
  oldest : ∀ queued ∈ heap, queued.key = worst.key → worst.sequence ≤ queued.sequence

namespace Scheduler

/-- The scan keeps an entry that beats everything it has passed. -/
theorem findWorstFrom_spec (heap rest : List (QueueEntry K)) (slot worstIdx : Nat)
    (worst : QueueEntry K) (found : heap[worstIdx]? = some worst)
    (remaining : heap.drop slot = rest)
    (passed : ∀ queued ∈ heap.take slot, queued.key ≤ worst.key ∧
      (queued.key = worst.key → worst.sequence ≤ queued.sequence)) :
    heap[(findWorstFrom slot worstIdx worst rest).1]? =
        some (findWorstFrom slot worstIdx worst rest).2 ∧
      IsWorst heap (findWorstFrom slot worstIdx worst rest).2 := by
  induction rest generalizing slot worstIdx worst with
  | nil =>
      have whole : heap.take slot = heap :=
        List.take_of_length_le (List.drop_eq_nil_iff.mp remaining)
      rw [whole] at passed
      exact ⟨found, List.mem_of_getElem? found, fun queued member => (passed queued member).1,
        fun queued member => (passed queued member).2⟩
  | cons entry rest ih =>
      have here : heap[slot]? = some entry := by
        rw [← List.head?_drop, remaining, List.head?_cons]
      have further : heap.drop (slot + 1) = rest := by
        rw [← List.tail_drop, remaining, List.tail_cons]
      have taken : heap.take (slot + 1) = heap.take slot ++ [entry] := by
        rw [List.take_add_one, here, Option.toList_some]
      simp only [findWorstFrom]
      split
      next replaces =>
        apply ih (slot + 1) slot entry here further
        intro queued member
        rw [taken, List.mem_append, List.mem_singleton] at member
        simp only [replacesWorst, gt_iff_lt, Bool.or_eq_true, decide_eq_true_eq,
          Bool.and_eq_true] at replaces
        rcases member with member | rfl
        · obtain ⟨below, older⟩ := passed queued member
          rcases replaces with above | ⟨same, earlier⟩
          · exact ⟨below.trans above.le, fun equal => absurd (equal ▸ above) below.not_gt⟩
          · rw [same]
            exact ⟨below, fun equal => earlier.le.trans (older equal)⟩
        · exact ⟨le_rfl, fun _ => le_rfl⟩
      next keeps =>
        apply ih (slot + 1) worstIdx worst found further
        intro queued member
        rw [taken, List.mem_append, List.mem_singleton] at member
        rcases member with member | rfl
        · exact passed queued member
        · simp only [replacesWorst, gt_iff_lt, Bool.or_eq_true, decide_eq_true_eq,
            Bool.and_eq_true, not_or, not_lt, not_and] at keeps
          exact keeps

theorem findWorst_spec {heap : List (QueueEntry K)} (inhabited : heap ≠ []) :
    ∃ idx worst, findWorst heap = some (idx, worst) ∧ heap[idx]? = some worst ∧
      IsWorst heap worst := by
  cases heap with
  | nil => exact absurd rfl inhabited
  | cons first rest =>
      have scanned := findWorstFrom_spec (first :: rest) (first :: rest) 0 0 first rfl rfl
        (by simp)
      exact ⟨_, _, rfl, scanned⟩

/-- Overwriting a slot with the last entry leaves that entry last. -/
private theorem set_last_dropLast {α : Type} (front : List α) (last : α) (idx : Nat)
    (bound : idx < (front ++ [last]).length) :
    ((front ++ [last]).set idx last).dropLast ++ [last] = (front ++ [last]).set idx last := by
  by_cases inside : idx < front.length
  · rw [List.set_append_left _ _ inside, List.dropLast_concat]
  · have atEnd : idx - front.length = 0 := by
      rw [List.length_append, List.length_singleton] at bound
      omega
    rw [List.set_append_right _ _ (not_lt.mp inside), atEnd, List.set_cons_zero,
      List.dropLast_concat]

/-- Overwriting a slot with the last entry and popping removes that slot's entry. -/
theorem removeAt_spec {heap : List (QueueEntry K)} {idx : Nat} {entry : QueueEntry K}
    (found : heap[idx]? = some entry) :
    heap.Perm (entry :: removeAt heap idx) ∧
      HeapQ.IsHeap QueueEntry.sortKey (removeAt heap idx) := by
  obtain ⟨bound, entryEq⟩ := List.getElem?_eq_some_iff.mp found
  rcases List.eq_nil_or_concat' heap with rfl | ⟨front, last, rfl⟩
  · exact absurd bound (Nat.not_lt_zero _)
  · simp only [removeAt, List.getLast?_concat]
    refine ⟨?_, HeapQ.heapify_isHeap _⟩
    have overwritten := List.set_perm_cons_eraseIdx bound last
    rw [← set_last_dropLast front last idx bound] at overwritten
    have rest := ((List.perm_append_singleton _ _).symm.trans overwritten).cons_inv
    have removed := (List.getElem_cons_eraseIdx_perm bound).symm
    rw [entryEq] at removed
    exact removed.trans ((rest.symm.trans (HeapQ.heapify_perm _).symm).cons _)

/-- The three outcomes of the locked part of `enqueue`. -/
inductive Inserts (scheduler : Scheduler K) (priority : TrafficPriority)
    (entry : QueueEntry K) : Bool × Scheduler K → Prop where
  | room : scheduler.heap.length < scheduler.maxSize →
      Inserts scheduler priority entry (true, scheduler.push priority entry)
  | refused : scheduler.maxSize ≤ scheduler.heap.length →
      (∀ queued ∈ scheduler.heap, queued.key < entry.key) →
      Inserts scheduler priority entry
        (false, { scheduler with droppedOverflow := scheduler.droppedOverflow + 1 })
  | evicted {idx : Nat} {victim : QueueEntry K} :
      scheduler.maxSize ≤ scheduler.heap.length →
      scheduler.heap[idx]? = some victim → IsWorst scheduler.heap victim →
      entry.key ≤ victim.key →
      Inserts scheduler priority entry
        (true, Scheduler.push
          { scheduler with
            heap := removeAt scheduler.heap idx
            droppedOverflow := scheduler.droppedOverflow + 1 } priority entry)

theorem insertEntry_inserts (scheduler : Scheduler K) (positive : 0 < scheduler.maxSize)
    (priority : TrafficPriority) (entry : QueueEntry K) :
    Inserts scheduler priority entry (scheduler.insertEntry priority entry) := by
  by_cases full : scheduler.maxSize ≤ scheduler.heap.length
  · have inhabited : scheduler.heap ≠ [] :=
      List.ne_nil_of_length_pos (positive.trans_le full)
    obtain ⟨idx, worst, scan, found, isWorst⟩ := findWorst_spec inhabited
    simp only [insertEntry, full, ↓reduceIte, scan]
    split
    next outranked =>
      exact .refused full fun queued member =>
        (isWorst.greatest queued member).trans_lt outranked
    next admitted => exact .evicted full found isWorst (not_lt.mp admitted)
  · simp only [insertEntry, full, ↓reduceIte]
    exact .room (not_le.mp full)

theorem push_perm (scheduler : Scheduler K) (priority : TrafficPriority)
    (entry : QueueEntry K) :
    (scheduler.push priority entry).heap.Perm (entry :: scheduler.heap) :=
  HeapQ.heappush_perm _ _

theorem push_isHeap {scheduler : Scheduler K} (priority : TrafficPriority)
    (entry : QueueEntry K) (ordered : HeapQ.IsHeap QueueEntry.sortKey scheduler.heap) :
    HeapQ.IsHeap QueueEntry.sortKey (scheduler.push priority entry).heap :=
  HeapQ.heappush_isHeap ordered entry

/-- Displacing an entry exchanges it for the arrival. -/
theorem evicted_perm {scheduler : Scheduler K} {idx : Nat} {victim : QueueEntry K}
    (found : scheduler.heap[idx]? = some victim) (priority : TrafficPriority)
    (entry : QueueEntry K) :
    (victim :: (Scheduler.push
      { scheduler with
        heap := removeAt scheduler.heap idx
        droppedOverflow := scheduler.droppedOverflow + 1 } priority entry).heap).Perm
      (entry :: scheduler.heap) := by
  have removed := (removeAt_spec found).1
  have pushed := Scheduler.push_perm
    { scheduler with
      heap := removeAt scheduler.heap idx
      droppedOverflow := scheduler.droppedOverflow + 1 } priority entry
  exact ((pushed.cons _).trans (List.Perm.swap _ _ _)).trans (removed.symm.cons _)

namespace Inserts

variable {scheduler : Scheduler K} {priority : TrafficPriority} {entry : QueueEntry K}
variable {outcome : Bool × Scheduler K}

/-- An entry is refused exactly by a full queue of strictly better keys. -/
theorem accepted_iff (inserts : Inserts scheduler priority entry outcome) :
    outcome.1 = true ↔
      ¬ (scheduler.maxSize ≤ scheduler.heap.length ∧
        ∀ queued ∈ scheduler.heap, queued.key < entry.key) := by
  cases inserts with
  | room space =>
      constructor
      · intro _ refused
        exact absurd space (not_lt.mpr refused.1)
      · intro _
        rfl
  | refused full outranked =>
      constructor
      · intro impossible
        cases impossible
      · intro notRefused
        exact absurd ⟨full, outranked⟩ notRefused
  | @evicted _ victim _ _ isWorst admitted =>
      constructor
      · intro _ refused
        exact absurd (refused.2 victim isWorst.member) (not_lt.mpr admitted)
      · intro _
        rfl

/-- An accepted entry is queued. -/
theorem queued (inserts : Inserts scheduler priority entry outcome)
    (accepted : outcome.1 = true) : entry ∈ outcome.2.heap := by
  cases inserts with
  | room => exact (scheduler.push_perm priority entry).mem_iff.mpr List.mem_cons_self
  | refused => cases accepted
  | evicted => exact (push_perm _ priority entry).mem_iff.mpr List.mem_cons_self

/-- A refusal leaves the queue as it was. -/
theorem unchanged (inserts : Inserts scheduler priority entry outcome)
    (refused : outcome.1 = false) : outcome.2.heap = scheduler.heap := by
  cases inserts with
  | room => cases refused
  | refused => rfl
  | evicted => cases refused

end Inserts

omit [LinearOrder K] in
theorem isEmpty_iff {scheduler : Scheduler K} :
    scheduler.isEmpty = true ↔ scheduler.heap = [] := by
  simp [isEmpty, length]

/-- The two outcomes of `dequeue`. -/
inductive Dequeues (scheduler : Scheduler K) (store : Store) :
    Option PacketRef × Scheduler K → Prop where
  | empty : scheduler.heap = [] → Dequeues scheduler store (none, scheduler)
  | served {entry : QueueEntry K} {rest : List (QueueEntry K)} :
      HeapQ.heappop QueueEntry.sortKey scheduler.heap = some (entry, rest) →
      Dequeues scheduler store (some entry.packet,
        { scheduler with
          heap := rest
          dequeueCounts :=
            bump scheduler.dequeueCounts (store entry.packet).effectivePriority })

theorem dequeue_dequeues (scheduler : Scheduler K) (store : Store) :
    Dequeues scheduler store (scheduler.dequeue store) := by
  simp only [dequeue]
  split
  next popped => exact .empty (HeapQ.heappop_eq_none.mp popped)
  next entry rest popped => exact .served popped

/-- An empty scheduler has nothing to serve. -/
theorem dequeue_of_isEmpty {scheduler : Scheduler K} (empty : scheduler.isEmpty = true)
    (store : Store) : scheduler.dequeue store = (none, scheduler) := by
  have popped : HeapQ.heappop QueueEntry.sortKey scheduler.heap = none :=
    HeapQ.heappop_eq_none.mpr (isEmpty_iff.mp empty)
  rw [dequeue, popped]

/-! ## The limit never changes -/

theorem insertEntry_maxSize (scheduler : Scheduler K) (priority : TrafficPriority)
    (entry : QueueEntry K) :
    (scheduler.insertEntry priority entry).2.maxSize = scheduler.maxSize := by
  simp only [insertEntry]
  split
  next =>
    split
    next => rfl
    next =>
      split
      next => rfl
      next => rfl
  next => rfl

theorem dequeue_maxSize (scheduler : Scheduler K) (store : Store) :
    (scheduler.dequeue store).2.maxSize = scheduler.maxSize := by
  have dequeues := scheduler.dequeue_dequeues store
  generalize scheduler.dequeue store = outcome at dequeues ⊢
  cases dequeues <;> rfl

/-- A property that every `dequeue` keeps survives draining. -/
theorem drainLoop_invariant {store : Store} {property : Scheduler K → Prop}
    (kept : ∀ scheduler, property scheduler → property (scheduler.dequeue store).2)
    (fuel : Nat) {scheduler : Scheduler K} (initial : property scheduler) :
    property (drainLoop store fuel scheduler).2 := by
  induction fuel generalizing scheduler with
  | zero => exact initial
  | succ fuel ih =>
      have step := kept scheduler initial
      simp only [drainLoop]
      split
      next => exact initial
      next =>
        split
        next ref rest served =>
          rw [served] at step
          exact ih step
        next rest served =>
          rw [served] at step
          exact ih step

theorem drainLoop_maxSize (store : Store) (fuel : Nat) (scheduler : Scheduler K) :
    (drainLoop store fuel scheduler).2.maxSize = scheduler.maxSize := by
  have kept : ∀ current : Scheduler K, current.maxSize = scheduler.maxSize →
      (current.dequeue store).2.maxSize = scheduler.maxSize :=
    fun current same => (current.dequeue_maxSize store).trans same
  exact drainLoop_invariant kept fuel rfl

end Scheduler

end SmartBandwidth
