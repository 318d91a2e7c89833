import SmartBandwidth.Queue.Insertion
import SmartBandwidth.Lib.BoundedQueue

/-!
# The schedulers refine a bounded queue

A scheduler is driven by calls and compared with a `BoundedQueue` of numbered
arrivals.  The abstract queue reads each packet's key once, from the store the run
starts in: scheduler calls write only `enqueued_at`, so the keys stay as they were.
-/

namespace SmartBandwidth

variable {K : Type} [LinearOrder K]

/-- Calls on a scheduler.  `drainNext` is one `next()` on a `drain()` generator. -/
inductive SchedulerCall where
  | enqueue (ref : PacketRef) (now : ℚ)
  | dequeue
  | peek
  | len
  | drain
  | drainNext
  | resetStats
  deriving DecidableEq, Repr

/-- Return values of scheduler calls. -/
inductive SchedulerReply where
  | accepted (ok : Bool)
  | packet (ref : Option PacketRef)
  | count (length : Nat)
  | packets (refs : List PacketRef)
  | done
  deriving DecidableEq, Repr

/-- One call on a scheduler whose packets live in a store. -/
def Scheduler.call (keyOf : Packet → K) (state : Scheduler K × Store) :
    SchedulerCall → SchedulerReply × (Scheduler K × Store)
  | .enqueue ref now =>
      let (ok, scheduler, store) := Scheduler.enqueue keyOf state.1 state.2 now ref
      (.accepted ok, (scheduler, store))
  | .dequeue =>
      let (ref, scheduler) := state.1.dequeue state.2
      (.packet ref, (scheduler, state.2))
  | .peek => (.packet state.1.peek, state)
  | .len => (.count state.1.length, state)
  | .drain =>
      let (refs, scheduler) := state.1.drain state.2
      (.packets refs, (scheduler, state.2))
  | .drainNext =>
      if state.1.isEmpty then
        (.packet none, state)
      else
        let (ref, scheduler) := state.1.dequeue state.2
        (.packet ref, (scheduler, state.2))
  | .resetStats => (.done, (state.1.resetStats, state.2))

/-- `next()` on a `drain()` generator is a dequeue. -/
theorem Scheduler.call_drainNext (keyOf : Packet → K) (state : Scheduler K × Store) :
    Scheduler.call keyOf state .drainNext = Scheduler.call keyOf state .dequeue := by
  simp only [Scheduler.call]
  split
  next empty => rw [Scheduler.dequeue_of_isEmpty empty]
  next => rfl

/-- The specification: a bounded queue of entries and the number of the next arrival. -/
structure ArrivalQueue (K : Type) [LinearOrder K] where
  arrivals : Nat
  queue : BoundedQueue (@QueueEntry.key K) (@QueueEntry.sequence K)

namespace ArrivalQueue

/-- The empty queue of a given limit. -/
def empty (limit : Nat) : ArrivalQueue K := ⟨0, .empty limit⟩

/-- The entry an arriving packet would become. -/
def arriving (keyOf : PacketRef → K) (spec : ArrivalQueue K) (ref : PacketRef) :
    QueueEntry K :=
  { key := keyOf ref, sequence := spec.arrivals, packet := ref }

/-- Remove the first entry. -/
def take (spec : ArrivalQueue K) : SchedulerReply × ArrivalQueue K :=
  (.packet (spec.queue.take.1.map QueueEntry.packet), ⟨spec.arrivals, spec.queue.take.2⟩)

/-- One call on the specification. -/
def call (keyOf : PacketRef → K) (spec : ArrivalQueue K) :
    SchedulerCall → SchedulerReply × ArrivalQueue K
  | .enqueue ref _ =>
      let (ok, queue) := spec.queue.offer (spec.arriving keyOf ref)
      (.accepted ok, ⟨spec.arrivals + 1, queue⟩)
  | .dequeue => spec.take
  | .peek => (.packet (spec.queue.items.head?.map QueueEntry.packet), spec)
  | .len => (.count spec.queue.items.length, spec)
  | .drain =>
      (.packets (spec.queue.takeAll.1.map QueueEntry.packet),
        ⟨spec.arrivals, spec.queue.takeAll.2⟩)
  | .drainNext => spec.take
  | .resetStats => (.done, spec)

/-- The entry a call adds. -/
def entering (keyOf : PacketRef → K) (spec : ArrivalQueue K) :
    SchedulerCall → List (QueueEntry K)
  | .enqueue ref _ =>
      if (spec.queue.offer (spec.arriving keyOf ref)).1 then [spec.arriving keyOf ref] else []
  | _ => []

/-- The entries a call removes: the first one by a dequeue, all by a drain, and by
an accepted arrival at a full queue the oldest entry of the worst key. -/
def leaving (keyOf : PacketRef → K) (spec : ArrivalQueue K) :
    SchedulerCall → List (QueueEntry K)
  | .enqueue ref _ =>
      if spec.queue.items.length < spec.queue.limit ∨
          BoundedQueue.Outranked QueueEntry.key spec.queue.items (spec.arriving keyOf ref) then
        []
      else
        (BoundedQueue.victim? QueueEntry.key spec.queue.items).toList
  | .dequeue | .drainNext => spec.queue.items.head?.toList
  | .drain => spec.queue.items
  | .peek | .len | .resetStats => []

/-- A call changes the contents by exactly the entering and the leaving entries. -/
theorem call_contents (keyOf : PacketRef → K) (spec : ArrivalQueue K) (call : SchedulerCall) :
    (spec.entering keyOf call ++ spec.queue.items).Perm
      (spec.leaving keyOf call ++ (spec.call keyOf call).2.queue.items) := by
  have served : spec.queue.items.Perm
      (spec.queue.items.head?.toList ++ spec.queue.items.tail) := by
    cases spec.queue.items <;> simp
  cases call with
  | enqueue ref now =>
      simp only [entering, leaving, ArrivalQueue.call]
      by_cases room : spec.queue.items.length < spec.queue.limit
      · obtain ⟨accepted, items⟩ := BoundedQueue.offer_of_room (spec.arriving keyOf ref) room
        simp only [accepted, items, room, true_or, ↓reduceIte]
        exact (BoundedQueue.insert_perm _ _).symm
      · by_cases refused : BoundedQueue.Outranked QueueEntry.key spec.queue.items
          (spec.arriving keyOf ref)
        · have unchanged := BoundedQueue.offer_of_outranked _ (not_lt.mp room) refused
          simp [unchanged, refused]
        · obtain ⟨accepted, items⟩ := BoundedQueue.offer_of_evict (not_lt.mp room) refused
          simp only [accepted, items, room, refused, or_self, ↓reduceIte]
          have evicted := BoundedQueue.evict_perm QueueEntry.key spec.queue.items
          refine (evicted.cons _).trans ?_
          exact List.perm_middle.symm.trans
            (List.Perm.append_left _ (BoundedQueue.insert_perm _ _).symm)
  | dequeue => exact served
  | drainNext => exact served
  | drain => simp [entering, leaving, ArrivalQueue.call, BoundedQueue.takeAll, BoundedQueue.empty]
  | peek => exact List.Perm.refl _
  | len => exact List.Perm.refl _
  | resetStats => exact List.Perm.refl _

theorem call_limit (keyOf : PacketRef → K) (spec : ArrivalQueue K) (call : SchedulerCall) :
    (spec.call keyOf call).2.queue.limit = spec.queue.limit := by
  cases call with
  | enqueue ref now => exact BoundedQueue.offer_limit _ _
  | dequeue | drainNext | drain | peek | len | resetStats => rfl

end ArrivalQueue

/-- A scheduler and its store represent a specification state. -/
structure Represents (keyOf : Packet → K) (keyOfRef : PacketRef → K)
    (state : Scheduler K × Store) (spec : ArrivalQueue K) : Prop where
  limit : state.1.maxSize = spec.queue.limit
  positive : 0 < state.1.maxSize
  arrivals : state.1.counter = spec.arrivals
  contents : state.1.heap.Perm spec.queue.items
  ordered : HeapQ.IsHeap QueueEntry.sortKey state.1.heap
  distinct : (state.1.heap.map QueueEntry.sequence).Nodup
  past : ∀ entry ∈ state.1.heap, entry.sequence < state.1.counter
  keys : ∀ ref, keyOf (state.2 ref) = keyOfRef ref

namespace Represents

variable {keyOf : Packet → K} {keyOfRef : PacketRef → K}
variable {state : Scheduler K × Store} {spec : ArrivalQueue K}

theorem specDistinct (represents : Represents keyOf keyOfRef state spec) :
    (spec.queue.items.map QueueEntry.sequence).Nodup :=
  (represents.contents.map _).nodup_iff.mp represents.distinct

/-- The least heap entry is the first queue entry. -/
theorem head_eq (represents : Represents keyOf keyOfRef state spec)
    {entry : QueueEntry K} (member : entry ∈ state.1.heap)
    (least : ∀ other ∈ state.1.heap, entry.sortKey ≤ other.sortKey) :
    spec.queue.items.head? = some entry := by
  apply BoundedQueue.head_eq_of_le spec.queue.sorted represents.specDistinct
    (represents.contents.mem_iff.mp member)
  intro other otherMem
  exact least other (represents.contents.mem_iff.mpr otherMem)

/-- The popped entry is the first queue entry. -/
theorem items_of_popped (represents : Represents keyOf keyOfRef state spec)
    {entry : QueueEntry K} {rest : List (QueueEntry K)}
    (popped : HeapQ.heappop QueueEntry.sortKey state.1.heap = some (entry, rest)) :
    spec.queue.items = entry :: spec.queue.items.tail := by
  have member : entry ∈ state.1.heap :=
    (HeapQ.heappop_perm popped).mem_iff.mpr List.mem_cons_self
  have first := represents.head_eq member
    fun other otherMem => HeapQ.heappop_le represents.ordered popped otherMem
  exact (List.cons_head?_tail first).symm

theorem isEmpty_eq (represents : Represents keyOf keyOfRef state spec) :
    state.1.isEmpty = true ↔ spec.queue.items = [] := by
  rw [Scheduler.isEmpty_iff]
  constructor
  · intro nothing
    exact (nothing ▸ represents.contents).nil_eq.symm
  · intro nothing
    exact (nothing ▸ represents.contents).eq_nil

/-- An empty scheduler represents every empty queue of its limit. -/
theorem of_isEmpty (represents : Represents keyOf keyOfRef state spec)
    (empty : state.1.isEmpty = true) {next : ArrivalQueue K}
    (limit : next.queue.limit = spec.queue.limit) (arrivals : next.arrivals = spec.arrivals)
    (noItems : next.queue.items = []) : Represents keyOf keyOfRef state next :=
  { represents with
    limit := represents.limit.trans limit.symm
    arrivals := represents.arrivals.trans arrivals.symm
    contents := by
      rw [Scheduler.isEmpty_iff.mp empty, noItems] }

/-- Dequeue answers like the specification and keeps the representation. -/
theorem dequeue (represents : Represents keyOf keyOfRef state spec) :
    SchedulerReply.packet (state.1.dequeue state.2).1 = spec.take.1 ∧
      Represents keyOf keyOfRef ((state.1.dequeue state.2).2, state.2) spec.take.2 := by
  have outcome := Scheduler.dequeue_dequeues state.1 state.2
  generalize state.1.dequeue state.2 = result at outcome ⊢
  cases outcome with
  | empty nothing =>
      have empty := Scheduler.isEmpty_iff.mpr nothing
      have noItems := represents.isEmpty_eq.mp empty
      have nothingLeft : spec.queue.items.tail = [] := by rw [noItems, List.tail_nil]
      refine ⟨?_, represents.of_isEmpty empty rfl rfl nothingLeft⟩
      change _ = SchedulerReply.packet (spec.queue.items.head?.map QueueEntry.packet)
      rw [noItems]
      rfl
  | @served entry rest popped =>
      have whole := HeapQ.heappop_perm popped
      have itemsEq := represents.items_of_popped popped
      have sequences := (whole.map QueueEntry.sequence).nodup_iff.mp represents.distinct
      constructor
      · change _ = SchedulerReply.packet (spec.queue.items.head?.map QueueEntry.packet)
        rw [itemsEq]
        rfl
      · exact
          { represents with
            contents := by
              have contents := whole.symm.trans represents.contents
              rw [itemsEq] at contents
              exact contents.cons_inv
            ordered := HeapQ.heappop_isHeap represents.ordered popped
            distinct := (List.nodup_cons.mp sequences).2
            past := fun other member =>
              represents.past other (whole.mem_iff.mpr (List.mem_cons_of_mem _ member)) }

/-- Draining yields the whole queue in order. -/
theorem drainLoop (represents : Represents keyOf keyOfRef state spec) {fuel : Nat}
    (enough : state.1.heap.length ≤ fuel) :
    (Scheduler.drainLoop state.2 fuel state.1).1 =
        spec.queue.items.map QueueEntry.packet ∧
      Represents keyOf keyOfRef ((Scheduler.drainLoop state.2 fuel state.1).2, state.2)
        ⟨spec.arrivals, spec.queue.takeAll.2⟩ := by
  induction fuel generalizing state spec with
  | zero =>
      have nothing := List.eq_nil_of_length_eq_zero (Nat.le_zero.mp enough)
      have empty := Scheduler.isEmpty_iff.mpr nothing
      rw [represents.isEmpty_eq.mp empty]
      exact ⟨rfl, represents.of_isEmpty empty rfl rfl rfl⟩
  | succ fuel ih =>
      simp only [Scheduler.drainLoop]
      split
      next empty =>
        rw [represents.isEmpty_eq.mp empty]
        exact ⟨rfl, represents.of_isEmpty empty rfl rfl rfl⟩
      next inhabited =>
        obtain ⟨answer, next⟩ := represents.dequeue
        have outcome := Scheduler.dequeue_dequeues state.1 state.2
        generalize state.1.dequeue state.2 = result at outcome answer next ⊢
        cases outcome with
        | empty nothing => exact absurd (Scheduler.isEmpty_iff.mpr nothing) inhabited
        | @served entry rest popped =>
            have shorter : rest.length ≤ fuel := by
              have lengths := (HeapQ.heappop_perm popped).length_eq
              rw [List.length_cons] at lengths
              omega
            obtain ⟨refs, final⟩ := ih next shorter
            refine ⟨?_, final⟩
            rw [represents.items_of_popped popped]
            exact congrArg _ refs

/-- Pushing an entry younger than all others inserts it into the queue order. -/
theorem pushed {base : Scheduler K} {store : Store} {next : ArrivalQueue K}
    {kept : List (QueueEntry K)} (priority : TrafficPriority) {entry : QueueEntry K}
    (limit : base.maxSize = next.queue.limit) (positive : 0 < base.maxSize)
    (counter : base.counter = entry.sequence + 1) (arrivals : base.counter = next.arrivals)
    (contents : base.heap.Perm kept)
    (items : next.queue.items =
      BoundedQueue.insert QueueEntry.key QueueEntry.sequence entry kept)
    (ordered : HeapQ.IsHeap QueueEntry.sortKey base.heap)
    (distinct : (base.heap.map QueueEntry.sequence).Nodup)
    (older : ∀ queued ∈ base.heap, queued.sequence < entry.sequence)
    (keys : ∀ ref, keyOf (store ref) = keyOfRef ref) :
    Represents keyOf keyOfRef (base.push priority entry, store) next := by
  have extended := base.push_perm priority entry
  refine
    { limit := limit
      positive := positive
      arrivals := arrivals
      contents := ?_
      ordered := Scheduler.push_isHeap _ _ ordered
      distinct := ?_
      past := ?_
      keys := keys }
  · rw [items]
    exact extended.trans ((contents.cons entry).trans (BoundedQueue.insert_perm _ _).symm)
  · rw [(extended.map QueueEntry.sequence).nodup_iff, List.map_cons, List.nodup_cons]
    refine ⟨?_, distinct⟩
    intro member
    obtain ⟨queued, queuedMem, equal⟩ := List.mem_map.mp member
    exact absurd equal (older queued queuedMem).ne
  · intro queued member
    change queued.sequence < base.counter
    rw [counter]
    rcases List.mem_cons.mp (extended.mem_iff.mp member) with rfl | old
    · exact Nat.lt_succ_self _
    · exact Nat.lt_succ_of_lt (older queued old)

/-- Removing the worst heap entry is evicting from the queue. -/
theorem removeAt_contents (represents : Represents keyOf keyOfRef state spec) {idx : Nat}
    {victim : QueueEntry K} (found : state.1.heap[idx]? = some victim)
    (worst : IsWorst state.1.heap victim) :
    (Scheduler.removeAt state.1.heap idx).Perm
      (BoundedQueue.evict QueueEntry.key spec.queue.items) := by
  have contents := represents.contents
  have evicted := BoundedQueue.evict_perm_of_oldest spec.queue.sorted
    represents.specDistinct (contents.mem_iff.mp worst.member)
    (fun other member => worst.greatest other (contents.mem_iff.mpr member))
    (fun other member => worst.oldest other (contents.mem_iff.mpr member))
  have removed := (Scheduler.removeAt_spec found).1
  exact (removed.symm.trans (contents.trans evicted)).cons_inv

/-- However the scheduler treats the arriving entry, the specification treats it alike. -/
theorem inserted (represents : Represents keyOf keyOfRef state spec) {store : Store}
    (keys : ∀ ref, keyOf (store ref) = keyOfRef ref) {priority : TrafficPriority}
    {entry : QueueEntry K} (arriving : entry.sequence = state.1.counter)
    {outcome : Bool × Scheduler K}
    (inserts : Scheduler.Inserts state.1.draw priority entry outcome) :
    outcome.1 = (spec.queue.offer entry).1 ∧
      Represents keyOf keyOfRef (outcome.2, store)
        ⟨spec.arrivals + 1, (spec.queue.offer entry).2⟩ := by
  have lengths := represents.contents.length_eq
  have limit := represents.limit.trans (BoundedQueue.offer_limit spec.queue entry).symm
  have arrivals := congrArg (· + 1) represents.arrivals
  have counter : state.1.counter + 1 = entry.sequence + 1 := by rw [arriving]
  cases inserts with
  | room space =>
      have specSpace : spec.queue.items.length < spec.queue.limit := by
        rw [← lengths, ← represents.limit]
        exact space
      obtain ⟨accepted, items⟩ := BoundedQueue.offer_of_room entry specSpace
      refine ⟨accepted.symm, ?_⟩
      refine pushed priority limit represents.positive counter arrivals represents.contents
        items represents.ordered represents.distinct ?_ keys
      rw [arriving]
      exact represents.past
  | refused full outranked =>
      have specFull : spec.queue.limit ≤ spec.queue.items.length := by
        rw [← lengths, ← represents.limit]
        exact full
      have unchanged := BoundedQueue.offer_of_outranked entry specFull
        fun item member => outranked item (represents.contents.mem_iff.mpr member)
      rw [unchanged]
      refine ⟨rfl, ?_⟩
      exact
        { limit := represents.limit
          positive := represents.positive
          arrivals := arrivals
          contents := represents.contents
          ordered := represents.ordered
          distinct := represents.distinct
          past := fun queued member => Nat.lt_succ_of_lt (represents.past queued member)
          keys := keys }
  | @evicted idx victim full found worst admits =>
      have specFull : spec.queue.limit ≤ spec.queue.items.length := by
        rw [← lengths, ← represents.limit]
        exact full
      have admitted : ¬ BoundedQueue.Outranked QueueEntry.key spec.queue.items entry := by
        intro outranked
        exact admits.not_gt (outranked victim (represents.contents.mem_iff.mp worst.member))
      obtain ⟨accepted, items⟩ := BoundedQueue.offer_of_evict specFull admitted
      obtain ⟨removed, ordered⟩ := Scheduler.removeAt_spec found
      have sequences := (removed.map QueueEntry.sequence).nodup_iff.mp represents.distinct
      refine ⟨accepted.symm, ?_⟩
      refine pushed priority limit represents.positive counter arrivals
        (represents.removeAt_contents found worst) items ordered
        (List.nodup_cons.mp sequences).2 ?_ keys
      intro queued member
      rw [arriving]
      exact represents.past queued (removed.mem_iff.mpr (List.mem_cons_of_mem _ member))

/-- Enqueueing answers like the specification and keeps the representation. -/
theorem enqueue (represents : Represents keyOf keyOfRef state spec)
    (stampFree : ∀ packet now, keyOf (Packet.stamped packet now) = keyOf packet)
    (ref : PacketRef) (now : ℚ) :
    (Scheduler.call keyOf state (.enqueue ref now)).1 =
        (spec.call keyOfRef (.enqueue ref now)).1 ∧
      Represents keyOf keyOfRef (Scheduler.call keyOf state (.enqueue ref now)).2
        (spec.call keyOfRef (.enqueue ref now)).2 := by
  have keysKept : ∀ query,
      keyOf (state.2.set ref ((state.2 ref).stamped now) query) = keyOfRef query := by
    intro query
    by_cases same : query = ref
    · subst query
      rw [Store.set_self, stampFree]
      exact represents.keys ref
    · rw [Store.set_of_ne _ _ same]
      exact represents.keys query
  have entryEq : (⟨keyOf (state.2.set ref ((state.2 ref).stamped now) ref),
      state.1.counter, ref⟩ : QueueEntry K) = spec.arriving keyOfRef ref := by
    rw [keysKept ref, represents.arrivals]
    rfl
  have inserts := Scheduler.insertEntry_inserts state.1.draw represents.positive
    (state.2 ref).effectivePriority (spec.arriving keyOfRef ref)
  obtain ⟨answer, next⟩ := represents.inserted keysKept represents.arrivals.symm inserts
  simp only [Scheduler.call, Scheduler.enqueue, entryEq, ArrivalQueue.call]
  exact ⟨congrArg SchedulerReply.accepted answer, next⟩

/-- Every call answers like the specification and keeps the representation. -/
theorem call (represents : Represents keyOf keyOfRef state spec)
    (stampFree : ∀ packet now, keyOf (Packet.stamped packet now) = keyOf packet)
    (call : SchedulerCall) :
    (Scheduler.call keyOf state call).1 = (spec.call keyOfRef call).1 ∧
      Represents keyOf keyOfRef (Scheduler.call keyOf state call).2
        (spec.call keyOfRef call).2 := by
  cases call with
  | enqueue ref now => exact represents.enqueue stampFree ref now
  | dequeue => exact represents.dequeue
  | drainNext =>
      rw [Scheduler.call_drainNext]
      exact represents.dequeue
  | peek =>
      refine ⟨?_, represents⟩
      simp only [Scheduler.call, Scheduler.peek, ArrivalQueue.call]
      cases heapEq : state.1.heap with
      | nil =>
          have noItems := represents.isEmpty_eq.mp (Scheduler.isEmpty_iff.mpr heapEq)
          simp [noItems]
      | cons root rest =>
          have ordered := represents.ordered
          rw [heapEq] at ordered
          have rootMem : root ∈ state.1.heap := by simp [heapEq]
          have first := represents.head_eq rootMem
            (by rw [heapEq]; exact fun other member => ordered.head_le member)
          simp [first]
  | len =>
      refine ⟨?_, represents⟩
      simp [Scheduler.call, Scheduler.length, ArrivalQueue.call, represents.contents.length_eq]
  | drain =>
      obtain ⟨refs, final⟩ := represents.drainLoop le_rfl
      exact ⟨congrArg SchedulerReply.packets refs, final⟩
  | resetStats =>
      exact ⟨rfl, { represents with limit := represents.limit }⟩

end Represents

/-- A fresh scheduler represents the empty queue of its clamped limit. -/
theorem init_represents (keyOf : Packet → K) (maxQueueSize : Int) (store : Store) :
    Represents keyOf (fun ref => keyOf (store ref)) (Scheduler.init maxQueueSize, store)
      (ArrivalQueue.empty (max 1 maxQueueSize).toNat) where
  limit := rfl
  positive := by simp [Scheduler.init]
  arrivals := rfl
  contents := List.Perm.refl _
  ordered := HeapQ.isHeap_nil
  distinct := List.nodup_nil
  past := by simp [Scheduler.init]
  keys := fun _ => rfl

/-- The run of a fresh scheduler. -/
def Scheduler.runCalls (keyOf : Packet → K) (maxQueueSize : Int) (store : Store)
    (calls : List SchedulerCall) : List SchedulerReply × (Scheduler K × Store) :=
  Machine.run (Scheduler.call keyOf) (Scheduler.init maxQueueSize, store) calls

/-- The run of the specification with the same limit and the same packets. -/
def ArrivalQueue.runCalls (keyOf : Packet → K) (maxQueueSize : Int) (store : Store)
    (calls : List SchedulerCall) : List SchedulerReply × ArrivalQueue K :=
  Machine.run (ArrivalQueue.call fun ref => keyOf (store ref))
    (ArrivalQueue.empty (max 1 maxQueueSize).toNat) calls

/-- A scheduler run gives the specification's answers and holds the specification's
entries, each once and within the limit; the next call moves exactly the entries the
specification names. -/
structure RunRefines (keyOf : Packet → K) (maxQueueSize : Int) (store : Store)
    (calls : List SchedulerCall) : Prop where
  replies : (Scheduler.runCalls keyOf maxQueueSize store calls).1 =
    (ArrivalQueue.runCalls keyOf maxQueueSize store calls).1
  contents : (Scheduler.runCalls keyOf maxQueueSize store calls).2.1.heap.Perm
    (ArrivalQueue.runCalls keyOf maxQueueSize store calls).2.queue.items
  bounded : ((Scheduler.runCalls keyOf maxQueueSize store calls).2.1.heap.length : Int) ≤
    max 1 maxQueueSize
  distinct : ((Scheduler.runCalls keyOf maxQueueSize store calls).2.1.heap.map
    QueueEntry.sequence).Nodup
  moved : ∀ call,
    ((ArrivalQueue.runCalls keyOf maxQueueSize store calls).2.entering
        (fun ref => keyOf (store ref)) call ++
      (Scheduler.runCalls keyOf maxQueueSize store calls).2.1.heap).Perm
    ((ArrivalQueue.runCalls keyOf maxQueueSize store calls).2.leaving
        (fun ref => keyOf (store ref)) call ++
      (Scheduler.runCalls keyOf maxQueueSize store (calls ++ [call])).2.1.heap)

theorem runCalls_represents (keyOf : Packet → K)
    (stampFree : ∀ packet now, keyOf (Packet.stamped packet now) = keyOf packet)
    (maxQueueSize : Int) (store : Store) (calls : List SchedulerCall) :
    (Scheduler.runCalls keyOf maxQueueSize store calls).1 =
        (ArrivalQueue.runCalls keyOf maxQueueSize store calls).1 ∧
      Represents keyOf (fun ref => keyOf (store ref))
        (Scheduler.runCalls keyOf maxQueueSize store calls).2
        (ArrivalQueue.runCalls keyOf maxQueueSize store calls).2 :=
  Machine.run_simulation (fun _ _ call represents => represents.call stampFree call)
    (init_represents keyOf maxQueueSize store) calls

theorem runRefines_of_stampFree (keyOf : Packet → K)
    (stampFree : ∀ packet now, keyOf (Packet.stamped packet now) = keyOf packet)
    (maxQueueSize : Int) (store : Store) (calls : List SchedulerCall) :
    RunRefines keyOf maxQueueSize store calls := by
  obtain ⟨replies, represents⟩ := runCalls_represents keyOf stampFree maxQueueSize store calls
  refine ⟨replies, represents.contents, ?_, represents.distinct, ?_⟩
  · have limitEq : (ArrivalQueue.runCalls keyOf maxQueueSize store calls).2.queue.limit =
        (max 1 maxQueueSize).toNat :=
      Machine.run_invariant
        (fun spec call equal => (ArrivalQueue.call_limit _ spec call).trans equal) rfl calls
    have fits := (ArrivalQueue.runCalls keyOf maxQueueSize store calls).2.queue.bounded
    rw [represents.contents.length_eq]
    omega
  · intro call
    obtain ⟨_, next⟩ :=
      runCalls_represents keyOf stampFree maxQueueSize store (calls ++ [call])
    refine (List.Perm.append_left _ represents.contents).trans ?_
    refine (ArrivalQueue.call_contents _ _ call).trans ?_
    apply List.Perm.append_left
    have contents := next.contents
    simp only [ArrivalQueue.runCalls, Machine.run_snoc_final] at contents
    exact contents.symm

/-- Both schedulers implement a bounded queue sorted by key and arrival, for every
limit, every packet store and every sequence of calls. -/
theorem schedulers_refine_boundedQueue (maxQueueSize : Int) (store : Store)
    (calls : List SchedulerCall) :
    RunRefines PriorityScheduler.key maxQueueSize store calls ∧
      RunRefines ValueScheduler.key maxQueueSize store calls :=
  ⟨runRefines_of_stampFree _ (fun _ _ => rfl) maxQueueSize store calls,
    runRefines_of_stampFree _ (fun _ _ => rfl) maxQueueSize store calls⟩

end SmartBandwidth
