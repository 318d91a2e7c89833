import SmartBandwidth.Queue.Refinement

/-!
# Concurrent calls on a scheduler

`enqueue` stamps its packet and draws its arrival number before it takes the lock.  Another call
may run in between, so that the entry with the smaller number can be the later one in the queue.
The queue then still answers as the bounded queue does, and numbers stay distinct.
-/

namespace SmartBandwidth

universe u

/-- An `enqueue` call between its draw and its locked part. -/
structure Arriving (K : Type u) where
  priority : TrafficPriority
  key : K
  sequence : Nat
  packet : PacketRef

/-- The entry the call is about to insert. -/
def Arriving.entry {K : Type} (arriving : Arriving K) : QueueEntry K where
  key := arriving.key
  sequence := arriving.sequence
  packet := arriving.packet

/-- The steps of concurrent calls.  An `enqueue` is a `draw`, and an `insert` of its number. -/
inductive SchedulerStep where
  | draw (ref : PacketRef) (now : ℚ)
  | insert (sequence : Nat)
  | dequeue
  | peek
  | len
  | resetStats

/-- What the steps return; `idle` is an `insert` of a number that no call holds. -/
inductive StepReply where
  | drawn (sequence : Nat)
  | accepted (ok : Bool)
  | idle
  | packet (ref : Option PacketRef)
  | count (size : Nat)
  | done
  deriving DecidableEq, Repr

/-- A scheduler with the `enqueue` calls that are in progress. -/
structure SharedScheduler (K : Type) where
  scheduler : Scheduler K
  store : Store
  arriving : List (Arriving K)

variable {K : Type} [LinearOrder K]

namespace SharedScheduler

/-- A fresh scheduler without calls. -/
def start (maxQueueSize : Int) (store : Store) : SharedScheduler K where
  scheduler := Scheduler.init maxQueueSize
  store := store
  arriving := []

/-- One step of one call. -/
def perform (keyOf : Packet → K) (state : SharedScheduler K) :
    SchedulerStep → StepReply × SharedScheduler K
  | .draw ref now =>
      let priority := (state.store ref).effectivePriority
      let store := state.store.set ref ((state.store ref).stamped now)
      let arriving : Arriving K :=
        { priority := priority
          key := keyOf (store ref)
          sequence := state.scheduler.counter
          packet := ref }
      (.drawn state.scheduler.counter,
        { scheduler := state.scheduler.draw
          store := store
          arriving := arriving :: state.arriving })
  | .insert sequence =>
      match state.arriving.find? fun arriving => arriving.sequence == sequence with
      | none => (.idle, state)
      | some arriving =>
          let (accepted, scheduler) :=
            state.scheduler.insertEntry arriving.priority arriving.entry
          (.accepted accepted,
            { state with
              scheduler := scheduler
              arriving := state.arriving.eraseP fun other => other.sequence == sequence })
  | .dequeue =>
      let (ref, scheduler) := state.scheduler.dequeue state.store
      (.packet ref, { state with scheduler := scheduler })
  | .peek => (.packet state.scheduler.peek, state)
  | .len => (.count state.scheduler.length, state)
  | .resetStats => (.done, { state with scheduler := state.scheduler.resetStats })

/-- A call that is not interrupted is the sequential `enqueue`. -/
theorem perform_draw_insert (keyOf : Packet → K) (state : SharedScheduler K) (ref : PacketRef)
    (now : ℚ) :
    let drawn := (state.perform keyOf (.draw ref now)).2
    let inserted := drawn.perform keyOf (.insert state.scheduler.counter)
    let (accepted, scheduler, store) :=
      Scheduler.enqueue keyOf state.scheduler state.store now ref
    inserted = (.accepted accepted, { state with scheduler := scheduler, store := store }) := by
  simp only [perform, List.find?_cons_of_pos, beq_self_eq_true, List.eraseP_cons_of_pos]
  rfl

end SharedScheduler

/-! ## The specification -/

/-- A bounded queue with the entries drawn but not yet offered, and the next number. -/
structure SharedQueue (K : Type) [LinearOrder K] where
  arrivals : Nat
  arriving : List (QueueEntry K)
  queue : BoundedQueue (@QueueEntry.key K) (@QueueEntry.sequence K)

namespace SharedQueue

/-- The empty queue without calls. -/
def start (maxQueueSize : Int) : SharedQueue K where
  arrivals := 0
  arriving := []
  queue := .empty (max 1 maxQueueSize).toNat

/-- One step: an entry takes effect where it is inserted, at the place of its number. -/
def perform (keyOf : PacketRef → K) (spec : SharedQueue K) :
    SchedulerStep → StepReply × SharedQueue K
  | .draw ref _ =>
      (.drawn spec.arrivals,
        { spec with
          arrivals := spec.arrivals + 1
          arriving := ⟨keyOf ref, spec.arrivals, ref⟩ :: spec.arriving })
  | .insert sequence =>
      match spec.arriving.find? fun entry => entry.sequence == sequence with
      | none => (.idle, spec)
      | some entry =>
          let (accepted, queue) := spec.queue.offer entry
          (.accepted accepted,
            { spec with
              arriving := spec.arriving.eraseP fun other => other.sequence == sequence
              queue := queue })
  | .dequeue =>
      let (entry, queue) := spec.queue.take
      (.packet (entry.map QueueEntry.packet), { spec with queue := queue })
  | .peek => (.packet (spec.queue.items.head?.map QueueEntry.packet), spec)
  | .len => (.count spec.queue.items.length, spec)
  | .resetStats => (.done, spec)

end SharedQueue

/-! ## Numbers -/

/-- The entries carry distinct numbers that have been drawn. -/
structure Numbered (arrivals : Nat) (entries : List (QueueEntry K)) : Prop where
  distinct : (entries.map QueueEntry.sequence).Nodup
  past : ∀ entry ∈ entries, entry.sequence < arrivals

namespace Numbered

variable {arrivals : Nat} {before after : List (QueueEntry K)}

omit [LinearOrder K] in
/-- Moving entries about, or losing some, leaves them numbered. -/
theorem of_perm (numbered : Numbered arrivals before) (gone : List (QueueEntry K))
    (moved : before.Perm (gone ++ after)) : Numbered arrivals after where
  distinct := by
    have distinct := (moved.map QueueEntry.sequence).nodup_iff.mp numbered.distinct
    rw [List.map_append] at distinct
    exact distinct.of_append_right
  past := fun entry member =>
    numbered.past entry (moved.mem_iff.mpr (List.mem_append_right gone member))

omit [LinearOrder K] in
/-- The next number is a new one. -/
theorem drawn (numbered : Numbered arrivals before) {entry : QueueEntry K}
    (next : entry.sequence = arrivals) : Numbered (arrivals + 1) (entry :: before) where
  distinct := by
    rw [List.map_cons, List.nodup_cons]
    refine ⟨?_, numbered.distinct⟩
    intro member
    obtain ⟨other, otherMem, same⟩ := List.mem_map.mp member
    exact (numbered.past other otherMem).ne (same.trans next)
  past := by
    rw [List.forall_mem_cons]
    exact ⟨next.trans_lt (Nat.lt_succ_self arrivals),
      fun other member => Nat.lt_succ_of_lt (numbered.past other member)⟩

end Numbered

/-! ## The simulation -/

theorem Scheduler.insertEntry_counter (scheduler : Scheduler K) (priority : TrafficPriority)
    (entry : QueueEntry K) :
    (scheduler.insertEntry priority entry).2.counter = scheduler.counter := by
  simp only [insertEntry]
  split
  next =>
    split
    next => rfl
    next =>
      split
      next => rfl
      next => rfl
  next => rfl

/-- A scheduler with its calls in progress and a specification state that agree. -/
structure Shares (keyOf : Packet → K) (keyOfRef : PacketRef → K) (state : SharedScheduler K)
    (spec : SharedQueue K) : Prop where
  limit : state.scheduler.maxSize = spec.queue.limit
  positive : 0 < state.scheduler.maxSize
  arrivals : state.scheduler.counter = spec.arrivals
  arriving : state.arriving.map Arriving.entry = spec.arriving
  contents : state.scheduler.heap.Perm spec.queue.items
  ordered : HeapQ.IsHeap QueueEntry.sortKey state.scheduler.heap
  numbered : Numbered spec.arrivals (spec.arriving ++ state.scheduler.heap)
  keys : ∀ ref, keyOf (state.store ref) = keyOfRef ref

namespace Shares

variable {keyOf : Packet → K} {keyOfRef : PacketRef → K}
variable {state : SharedScheduler K} {spec : SharedQueue K}

/-- The scheduler without its calls represents the queue without them. -/
theorem represents (shares : Shares keyOf keyOfRef state spec) :
    Represents keyOf keyOfRef (state.scheduler, state.store) ⟨spec.arrivals, spec.queue⟩ := by
  have queued := shares.numbered.of_perm spec.arriving (.refl _)
  exact
    { limit := shares.limit
      positive := shares.positive
      arrivals := shares.arrivals
      contents := shares.contents
      ordered := shares.ordered
      distinct := queued.distinct
      past := fun entry member => shares.arrivals.symm ▸ queued.past entry member
      keys := shares.keys }

/-- An entry of any number is treated as the specification treats it, and no other is added. -/
theorem offers (shares : Shares keyOf keyOfRef state spec) {priority : TrafficPriority}
    {entry : QueueEntry K} {outcome : Bool × Scheduler K}
    (inserts : Scheduler.Inserts state.scheduler priority entry outcome) :
    outcome.1 = (spec.queue.offer entry).1 ∧
      outcome.2.heap.Perm (spec.queue.offer entry).2.items ∧
      HeapQ.IsHeap QueueEntry.sortKey outcome.2.heap ∧
      ∃ gone, (entry :: state.scheduler.heap).Perm (gone ++ outcome.2.heap) := by
  have lengths := shares.contents.length_eq
  have size := shares.limit
  cases inserts with
  | room space =>
      have specSpace : spec.queue.items.length < spec.queue.limit := by
        rw [← lengths, ← size]
        exact space
      obtain ⟨accepted, items⟩ := BoundedQueue.offer_of_room entry specSpace
      have extended := state.scheduler.push_perm priority entry
      refine ⟨accepted.symm, ?_, Scheduler.push_isHeap _ _ shares.ordered, [], extended.symm⟩
      rw [items]
      exact extended.trans ((shares.contents.cons entry).trans (BoundedQueue.insert_perm _ _).symm)
  | refused full outranked =>
      have specFull : spec.queue.limit ≤ spec.queue.items.length := by
        rw [← lengths, ← size]
        exact full
      have unchanged := BoundedQueue.offer_of_outranked entry specFull
        fun item member => outranked item (shares.contents.mem_iff.mpr member)
      rw [unchanged]
      exact ⟨rfl, shares.contents, shares.ordered, [entry], .refl _⟩
  | @evicted idx victim full found worst admits =>
      have specFull : spec.queue.limit ≤ spec.queue.items.length := by
        rw [← lengths, ← size]
        exact full
      have admitted : ¬ BoundedQueue.Outranked QueueEntry.key spec.queue.items entry := by
        intro outranked
        exact admits.not_gt (outranked victim (shares.contents.mem_iff.mp worst.member))
      obtain ⟨accepted, items⟩ := BoundedQueue.offer_of_evict specFull admitted
      obtain ⟨removed, ordered⟩ := Scheduler.removeAt_spec found
      have evicted := shares.represents.removeAt_contents found worst
      refine ⟨accepted.symm, ?_, Scheduler.push_isHeap _ _ ordered, [victim],
        (Scheduler.evicted_perm found priority entry).symm⟩
      rw [items]
      exact (Scheduler.push_perm _ _ _).trans
        ((evicted.cons entry).trans (BoundedQueue.insert_perm _ _).symm)

theorem draw (shares : Shares keyOf keyOfRef state spec)
    (stampFree : ∀ packet now, keyOf (Packet.stamped packet now) = keyOf packet)
    (ref : PacketRef) (now : ℚ) :
    (state.perform keyOf (.draw ref now)).1 = (spec.perform keyOfRef (.draw ref now)).1 ∧
      Shares keyOf keyOfRef (state.perform keyOf (.draw ref now)).2
        (spec.perform keyOfRef (.draw ref now)).2 := by
  have keysKept : ∀ query,
      keyOf (state.store.set ref ((state.store ref).stamped now) query) = keyOfRef query := by
    intro query
    by_cases same : query = ref
    · subst query
      rw [Store.set_self, stampFree]
      exact shares.keys ref
    · rw [Store.set_of_ne _ _ same]
      exact shares.keys query
  refine ⟨congrArg StepReply.drawn shares.arrivals, ?_⟩
  exact
    { limit := shares.limit
      positive := shares.positive
      arrivals := congrArg (· + 1) shares.arrivals
      arriving := by
        simp only [SharedScheduler.perform, SharedQueue.perform, List.map_cons, Arriving.entry,
          keysKept, shares.arrivals]
        exact congrArg _ shares.arriving
      contents := shares.contents
      ordered := shares.ordered
      numbered := shares.numbered.drawn rfl
      keys := keysKept }

theorem insert (shares : Shares keyOf keyOfRef state spec) (sequence : Nat) :
    (state.perform keyOf (.insert sequence)).1 = (spec.perform keyOfRef (.insert sequence)).1 ∧
      Shares keyOf keyOfRef (state.perform keyOf (.insert sequence)).2
        (spec.perform keyOfRef (.insert sequence)).2 := by
  have sought : spec.arriving.find? (fun entry => entry.sequence == sequence) =
      (state.arriving.find? fun arriving => arriving.sequence == sequence).map
        Arriving.entry := by
    rw [← shares.arriving, List.find?_map]
    rfl
  have left : (state.arriving.eraseP fun other => other.sequence == sequence).map
      Arriving.entry = spec.arriving.eraseP fun other => other.sequence == sequence := by
    rw [← shares.arriving, List.eraseP_map]
    rfl
  have split := BoundedQueue.perm_find?_eraseP
    (fun entry : QueueEntry K => entry.sequence == sequence) spec.arriving
  simp only [SharedScheduler.perform, SharedQueue.perform]
  rw [sought] at split ⊢
  cases found : state.arriving.find? fun arriving => arriving.sequence == sequence with
  | none => exact ⟨rfl, shares⟩
  | some arriving =>
      rw [found] at split
      obtain ⟨accepted, contents, ordered, gone, moved⟩ := shares.offers
        (state.scheduler.insertEntry_inserts shares.positive arriving.priority arriving.entry)
      refine ⟨congrArg StepReply.accepted accepted, ?_⟩
      exact
        { limit := (Scheduler.insertEntry_maxSize _ _ _).trans
            (shares.limit.trans (BoundedQueue.offer_limit _ _).symm)
          positive := (Scheduler.insertEntry_maxSize state.scheduler _ _).symm ▸ shares.positive
          arrivals := (Scheduler.insertEntry_counter _ _ _).trans shares.arrivals
          arriving := left
          contents := contents
          ordered := ordered
          numbered := by
            apply shares.numbered.of_perm gone
            refine (split.append_right _).trans ?_
            refine List.perm_middle.symm.trans ?_
            exact (moved.append_left _).trans (by
              rw [← List.append_assoc, ← List.append_assoc]
              exact List.perm_append_comm.append_right _)
          keys := shares.keys }

theorem dequeue (shares : Shares keyOf keyOfRef state spec) :
    (state.perform keyOf .dequeue).1 = (spec.perform keyOfRef .dequeue).1 ∧
      Shares keyOf keyOfRef (state.perform keyOf .dequeue).2
        (spec.perform keyOfRef .dequeue).2 := by
  obtain ⟨answer, next⟩ := shares.represents.dequeue
  have dequeues := state.scheduler.dequeue_dequeues state.store
  refine ⟨congrArg StepReply.packet (SchedulerReply.packet.inj answer), ?_⟩
  exact
    { limit := next.limit
      positive := next.positive
      arrivals := next.arrivals
      arriving := shares.arriving
      contents := next.contents
      ordered := next.ordered
      numbered := by
        change Numbered spec.arrivals
          (spec.arriving ++ (state.scheduler.dequeue state.store).2.heap)
        generalize state.scheduler.dequeue state.store = outcome at dequeues ⊢
        cases dequeues with
        | empty => exact shares.numbered
        | @served entry rest popped =>
            apply shares.numbered.of_perm [entry]
            exact ((HeapQ.heappop_perm popped).append_left _).trans List.perm_middle
      keys := shares.keys }

theorem peek (shares : Shares keyOf keyOfRef state spec)
    (stampFree : ∀ packet now, keyOf (Packet.stamped packet now) = keyOf packet) :
    (state.perform keyOf .peek).1 = (spec.perform keyOfRef .peek).1 := by
  have answer := (shares.represents.call stampFree .peek).1
  exact congrArg StepReply.packet (SchedulerReply.packet.inj answer)

/-- Every step answers like the specification and keeps the agreement. -/
theorem perform (shares : Shares keyOf keyOfRef state spec)
    (stampFree : ∀ packet now, keyOf (Packet.stamped packet now) = keyOf packet)
    (step : SchedulerStep) :
    (state.perform keyOf step).1 = (spec.perform keyOfRef step).1 ∧
      Shares keyOf keyOfRef (state.perform keyOf step).2 (spec.perform keyOfRef step).2 := by
  cases step with
  | draw ref now => exact shares.draw stampFree ref now
  | insert sequence => exact shares.insert sequence
  | dequeue => exact shares.dequeue
  | peek => exact ⟨shares.peek stampFree, shares⟩
  | len => exact ⟨congrArg StepReply.count shares.contents.length_eq, shares⟩
  | resetStats =>
      exact ⟨rfl, { shares with limit := shares.limit, ordered := shares.ordered }⟩

theorem start (keyOf : Packet → K) (maxQueueSize : Int) (store : Store) :
    Shares keyOf (fun ref => keyOf (store ref)) (.start maxQueueSize store)
      (.start maxQueueSize) :=
  have fresh := init_represents keyOf maxQueueSize store
  { limit := fresh.limit
    positive := fresh.positive
    arrivals := rfl
    arriving := rfl
    contents := fresh.contents
    ordered := fresh.ordered
    numbered := ⟨.nil, by simp [SharedQueue.start, SharedScheduler.start, Scheduler.init]⟩
    keys := fun _ => rfl }

end Shares

/-- What holds after any interleaving of the steps of concurrent calls: every step has returned
what the bounded queue returns, the queue holds the same entries within its limit, and no two
entries, queued or in progress, share a number. -/
structure InterleavingRefines (keyOf : Packet → K) (maxQueueSize : Int) (store : Store)
    (steps : List SchedulerStep) : Prop where
  replies : (Machine.run (SharedScheduler.perform keyOf) (.start maxQueueSize store) steps).1 =
    (Machine.run (SharedQueue.perform fun ref => keyOf (store ref)) (.start maxQueueSize) steps).1
  contents :
    (Machine.run (SharedScheduler.perform keyOf) (.start maxQueueSize store)
      steps).2.scheduler.heap.Perm
    (Machine.run (SharedQueue.perform fun ref => keyOf (store ref)) (.start maxQueueSize)
      steps).2.queue.items
  bounded :
    (Machine.run (SharedScheduler.perform keyOf) (.start maxQueueSize store)
      steps).2.scheduler.heap.length ≤ (max 1 maxQueueSize).toNat
  distinct :
    let final := (Machine.run (SharedScheduler.perform keyOf) (.start maxQueueSize store) steps).2
    ((final.arriving.map Arriving.entry ++ final.scheduler.heap).map QueueEntry.sequence).Nodup

theorem SharedQueue.perform_limit (keyOf : PacketRef → K) (spec : SharedQueue K)
    (step : SchedulerStep) : (spec.perform keyOf step).2.queue.limit = spec.queue.limit := by
  cases step with
  | insert sequence =>
      simp only [perform]
      split
      next => rfl
      next => exact BoundedQueue.offer_limit _ _
  | draw | dequeue | peek | len | resetStats => rfl

theorem interleavingRefines_of_stampFree (keyOf : Packet → K)
    (stampFree : ∀ packet now, keyOf (Packet.stamped packet now) = keyOf packet)
    (maxQueueSize : Int) (store : Store) (steps : List SchedulerStep) :
    InterleavingRefines keyOf maxQueueSize store steps := by
  have simulates (state : SharedScheduler K) (spec : SharedQueue K) (step : SchedulerStep)
      (shares : Shares keyOf (fun ref => keyOf (store ref)) state spec) :
      (state.perform keyOf step).1 = (spec.perform (fun ref => keyOf (store ref)) step).1 ∧
        Shares keyOf (fun ref => keyOf (store ref)) (state.perform keyOf step).2
          (spec.perform (fun ref => keyOf (store ref)) step).2 :=
    shares.perform stampFree step
  obtain ⟨replies, shares⟩ :=
    Machine.run_simulation simulates (Shares.start keyOf maxQueueSize store) steps
  have kept (spec : SharedQueue K) (step : SchedulerStep)
      (same : spec.queue.limit = (max 1 maxQueueSize).toNat) :
      (spec.perform (fun ref => keyOf (store ref)) step).2.queue.limit =
        (max 1 maxQueueSize).toNat :=
    (spec.perform_limit (fun ref => keyOf (store ref)) step).trans same
  have started : (SharedQueue.start maxQueueSize : SharedQueue K).queue.limit =
      (max 1 maxQueueSize).toNat := rfl
  have limit := Machine.run_invariant kept started steps
  refine ⟨replies, shares.contents, ?_, ?_⟩
  · rw [shares.contents.length_eq, ← limit]
    exact BoundedQueue.bounded _
  · intro final
    rw [shares.arriving]
    exact shares.numbered.distinct

/-- Whatever calls run concurrently on either scheduler, and however their steps interleave, the
scheduler is the bounded queue in which every `enqueue` takes effect in its locked part, at the
place of the number it drew before. -/
theorem interleaved_schedulers_refine (maxQueueSize : Int) (store : Store)
    (steps : List SchedulerStep) :
    InterleavingRefines PriorityScheduler.key maxQueueSize store steps ∧
      InterleavingRefines ValueScheduler.key maxQueueSize store steps :=
  ⟨interleavingRefines_of_stampFree _ (fun _ _ => rfl) maxQueueSize store steps,
    interleavingRefines_of_stampFree _ (fun _ _ => rfl) maxQueueSize store steps⟩

/-- The packet that drew first is served first though it was inserted last. -/
example :
    let steps := [.draw 0 0, .draw 1 0, .insert 1, .insert 0, .dequeue, .dequeue]
    (Machine.run (SharedScheduler.perform PriorityScheduler.key) (.start 4 fun _ => {}) steps).1 =
      [.drawn 0, .drawn 1, .accepted true, .accepted true, .packet (some 0), .packet (some 1)] := by
  decide +kernel

end SmartBandwidth
