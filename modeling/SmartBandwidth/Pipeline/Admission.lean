import SmartBandwidth.Pipeline.Processing
import Mathlib.Algebra.Order.Round

/-!
# Admission without a value policy

RED keeps non-critical packets out of a queue that is filled to its upper threshold, and
a critical packet ranks at least as high as anything queued.  Together they make
rejection by the scheduler unreachable, so `process` may ignore its verdict.
-/

namespace SmartBandwidth

/-! ## The invariant -/

/-- The entries of non-critical class. -/
def ordinaryCount (heap : List (QueueEntry Nat)) : Nat :=
  heap.countP fun entry => entry.key ≠ TrafficPriority.value .critical

/-- What holds of the queue of an optimizer that has processed the packets `seen`: keys
are those of the stored packets, only seen packets are queued, and the non-critical
entries fit under the threshold. -/
structure QueueInvariant (config : OptimizerConfig) (seen : List PacketRef)
    (heap : List (QueueEntry Nat)) (store : Store) : Prop where
  keys : ∀ entry ∈ heap, entry.key = PriorityScheduler.key (store entry.packet)
  known : ∀ entry ∈ heap, entry.packet ∈ seen
  ordinary : (ordinaryCount heap : Int) ≤ ⌈config.redMaxThreshold * config.maxQueueSize⌉

/-- The invariant of a configured optimizer without a value policy. -/
structure Admits (config : OptimizerConfig) (seen : List PacketRef)
    (state : BandwidthOptimizer × Store) : Prop where
  configured : state.1.Configured config none
  queue : ∀ scheduler, state.1.engine = .plain scheduler →
    QueueInvariant config seen scheduler.heap state.2

namespace QueueInvariant

variable {config : OptimizerConfig} {seen : List PacketRef}
variable {heap : List (QueueEntry Nat)} {store : Store}

theorem key_eq_critical_iff (invariant : QueueInvariant config seen heap store)
    {entry : QueueEntry Nat} (member : entry ∈ heap) :
    entry.key = TrafficPriority.value .critical ↔
      (store entry.packet).effectivePriority = .critical := by
  rw [invariant.keys entry member]
  constructor
  · exact TrafficPriority.value_injective
  · exact congrArg TrafficPriority.value

/-- Fewer entries keep the invariant. -/
theorem of_perm_cons (invariant : QueueInvariant config seen heap store)
    {entry : QueueEntry Nat} {rest : List (QueueEntry Nat)} (split : heap.Perm (entry :: rest)) :
    QueueInvariant config seen rest store where
  keys := fun kept member =>
    invariant.keys kept (split.mem_iff.mpr (List.mem_cons_of_mem _ member))
  known := fun kept member =>
    invariant.known kept (split.mem_iff.mpr (List.mem_cons_of_mem _ member))
  ordinary := by
    have fewer : ordinaryCount rest ≤ ordinaryCount heap := by
      rw [ordinaryCount, ordinaryCount, split.countP_eq]
      exact (List.sublist_cons_self _ _).countP_le
    exact (Int.ofNat_le.mpr fewer).trans invariant.ordinary

/-- Writing to a packet that was never seen leaves the queued keys alone. -/
theorem arrival (invariant : QueueInvariant config seen heap store) {ref : PacketRef}
    (new : ref ∉ seen) (packet : Packet) :
    QueueInvariant config (seen ++ [ref]) heap (store.set ref packet) where
  keys := by
    intro entry member
    have different : entry.packet ≠ ref := fun same => new (same ▸ invariant.known entry member)
    rw [Store.set_of_ne _ _ different]
    exact invariant.keys entry member
  known := fun entry member => List.mem_append_left _ (invariant.known entry member)
  ordinary := invariant.ordinary

/-- One more entry keeps the invariant if it is critical or there is room under the
threshold. -/
theorem push (invariant : QueueInvariant config seen heap store)
    {entry : QueueEntry Nat} {next : List (QueueEntry Nat)}
    (extended : next.Perm (entry :: heap))
    (key : entry.key = PriorityScheduler.key (store entry.packet))
    (known : entry.packet ∈ seen)
    (room : entry.key ≠ TrafficPriority.value .critical →
      (heap.length : ℚ) < config.redMaxThreshold * config.maxQueueSize) :
    QueueInvariant config seen next store where
  keys := by
    intro queued member
    rcases List.mem_cons.mp (extended.mem_iff.mp member) with rfl | old
    · exact key
    · exact invariant.keys queued old
  known := by
    intro queued member
    rcases List.mem_cons.mp (extended.mem_iff.mp member) with rfl | old
    · exact known
    · exact invariant.known queued old
  ordinary := by
    rw [ordinaryCount, extended.countP_eq, List.countP_cons]
    by_cases critical : entry.key = TrafficPriority.value .critical
    · rw [if_neg (by simp [critical]), add_zero]
      exact invariant.ordinary
    · have below : (heap.length : Int) < ⌈config.redMaxThreshold * config.maxQueueSize⌉ := by
        apply Int.lt_ceil.mpr
        exact_mod_cast room critical
      have counted : ordinaryCount heap ≤ heap.length := List.countP_le_length
      rw [ordinaryCount] at counted
      rw [if_pos (by simp [critical])]
      omega

end QueueInvariant

/-! ## One call -/

/-- What an admitted packet meets at the scheduler: it is queued, and an entry leaves
only if the packet is critical and the queue is full, the entry being one of the least
important queued. -/
structure Enters (scheduler next : PriorityScheduler) (entry : QueueEntry Nat) : Prop where
  queued : entry ∈ next.heap
  evicted : ∀ victim ∈ scheduler.heap, victim ∉ next.heap →
    scheduler.maxSize ≤ scheduler.heap.length ∧
      ∀ other ∈ scheduler.heap, other.key ≤ victim.key

/-- An entry that finds room when it is not critical is never refused. -/
theorem insertEntry_enters {scheduler : PriorityScheduler} (positive : 0 < scheduler.maxSize)
    (priority : TrafficPriority) {entry : QueueEntry Nat}
    (keys : ∀ queued ∈ scheduler.heap, TrafficPriority.value .critical ≤ queued.key)
    (room : entry.key ≠ TrafficPriority.value .critical →
      scheduler.heap.length < scheduler.maxSize) :
    Enters scheduler (scheduler.insertEntry priority entry).2 entry := by
  have inserts := scheduler.insertEntry_inserts positive priority entry
  have accepted : (scheduler.insertEntry priority entry).1 = true := by
    apply inserts.accepted_iff.mpr
    rintro ⟨full, outranked⟩
    obtain ⟨queued, member⟩ := List.exists_mem_of_length_pos (positive.trans_le full)
    have worse := (keys queued member).trans_lt (outranked queued member)
    exact absurd (room worse.ne') (not_lt.mpr full)
  refine ⟨inserts.queued accepted, ?_⟩
  intro victim member gone
  generalize scheduler.insertEntry priority entry = outcome at inserts accepted gone
  cases inserts with
  | room =>
      have pushed := scheduler.push_perm priority entry
      exact absurd (pushed.mem_iff.mpr (List.mem_cons_of_mem _ member)) gone
  | refused => cases accepted
  | @evicted idx worst full found isWorst =>
      have exchanged := Scheduler.evicted_perm found priority entry
      rcases List.mem_cons.mp (exchanged.mem_iff.mpr (List.mem_cons_of_mem _ member))
        with rfl | kept
      · exact ⟨full, isWorst.greatest⟩
      · exact absurd kept gone

/-- The invariant after such an entry has been inserted. -/
theorem insertEntry_invariant {config : OptimizerConfig} {seen : List PacketRef}
    {scheduler : PriorityScheduler} {store : Store} (positive : 0 < scheduler.maxSize)
    (invariant : QueueInvariant config seen scheduler.heap store)
    (priority : TrafficPriority) {entry : QueueEntry Nat}
    (key : entry.key = PriorityScheduler.key (store entry.packet))
    (known : entry.packet ∈ seen)
    (room : entry.key ≠ TrafficPriority.value .critical →
      (scheduler.heap.length : ℚ) < config.redMaxThreshold * config.maxQueueSize) :
    QueueInvariant config seen (scheduler.insertEntry priority entry).2.heap store := by
  have inserts := scheduler.insertEntry_inserts positive priority entry
  generalize scheduler.insertEntry priority entry = outcome at inserts ⊢
  cases inserts with
  | room => exact invariant.push (scheduler.push_perm priority entry) key known room
  | refused => exact invariant
  | evicted _ found =>
      have both := invariant.push (Scheduler.evicted_perm found priority entry) key known room
      exact both.of_perm_cons (List.Perm.refl _)

/-- What one `process` call promises about its packet and about the packets queued
before it. -/
structure Protects (state next : BandwidthOptimizer × Store) (ref : PacketRef)
    (result : ProcessResult) : Prop where
  honest : result.dropped = false ↔ ref ∈ next.1.engine.queued
  critical : (next.2 ref).priority = some .critical → result.dropped = false
  evicts : ∀ victim ∈ state.1.engine.queued, victim ∉ next.1.engine.queued →
    (next.2 ref).priority = some .critical ∧
      state.1.config.maxQueueSize ≤ state.1.queueSize ∧
      ((state.2 victim).effectivePriority = .critical →
        ∀ other ∈ state.1.engine.queued, (state.2 other).effectivePriority = .critical)

namespace Admits

variable {config : OptimizerConfig} {seen : List PacketRef}
variable {state : BandwidthOptimizer × Store}

/-- A queue that is left alone keeps the invariant when the packet of the call is new. -/
theorem untouched (admits : Admits config seen state) {ref : PacketRef} (new : ref ∉ seen)
    {next : BandwidthOptimizer × Store} (configured : next.1.Configured config none)
    (engine : next.1.engine = state.1.engine) {packet : Packet}
    (store : next.2 = state.2.set ref packet) : Admits config (seen ++ [ref]) next where
  configured := configured
  queue := by
    intro scheduler engineEq
    rw [store]
    exact (admits.queue scheduler (engine ▸ engineEq)).arrival new packet

/-- An entry of non-critical key comes from a non-critical packet. -/
private theorem ordinary_of_key {readings : ProcessReadings} {prepared : Prepared}
    {result : CompressionResult}
    (ordinary : PriorityScheduler.key
      (BandwidthOptimizer.queuedPacket readings prepared result) ≠
        TrafficPriority.value .critical) :
    prepared.packet.effectivePriority ≠ .critical := by
  intro critical
  apply ordinary
  rw [PriorityScheduler.key, BandwidthOptimizer.queuedPacket_effectivePriority, critical]

/-- Every `process` call on a new packet, raising or not, keeps the invariant. -/
theorem process (admits : Admits config seen state) (capacity : 1 ≤ config.maxQueueSize)
    (ordered : config.redMinThreshold ≤ config.redMaxThreshold) (rt : Runtime)
    (readings : ProcessReadings) {ref : PacketRef} (new : ref ∉ seen) :
    Admits config (seen ++ [ref]) (state.1.process rt state.2 readings ref).2 := by
  have configured := BandwidthOptimizer.process_configured admits.configured rt state.2 readings
    ref
  have processes := state.1.process_processes rt state.2 readings ref
  obtain ⟨scheduler, engineEq⟩ := admits.configured.plain
  generalize state.1.process rt state.2 readings ref = outcome at processes configured ⊢
  cases processes with
  | classifyRaised =>
      exact admits.untouched new configured rfl (Store.set_current state.2 ref).symm
  | filtered =>
      apply admits.untouched new configured _ rfl
      simp only [engineEq, Engine.recordDropped]
  | compressRaised => exact admits.untouched new configured rfl rfl
  | @admitted prepared result _ passes =>
      refine ⟨configured, fun after afterEq => ?_⟩
      have scheduled := state.1.scheduling_plain state.2 readings ref prepared result engineEq
      rw [scheduled] at afterEq ⊢
      cases afterEq
      have invariant := (admits.queue scheduler engineEq).arrival new
        (BandwidthOptimizer.queuedPacket readings prepared result)
      have positive := admits.configured.positive
      rw [engineEq] at positive
      apply insertEntry_invariant (show 0 < scheduler.draw.maxSize from positive) invariant
      · simp [Scheduler.arriving]
      · simp [Scheduler.arriving]
      · intro ordinary
        have below := BandwidthOptimizer.filtering_below_threshold admits.configured capacity
          ordered passes (ordinary_of_key ordinary)
        rw [engineEq] at below
        exact below

/-- A packet the filter drops was not critical and leaves the queue alone. -/
private theorem filtered_protects (admits : Admits config seen state)
    {readings : ProcessReadings} {ref : PacketRef} (new : ref ∉ seen) {prepared : Prepared}
    (drops : (state.1.filtering readings prepared).1.drop = true)
    {next : BandwidthOptimizer × Store} (engine : next.1.engine = state.1.engine)
    (store : next.2 = state.2.set ref prepared.packet) {result : ProcessResult}
    (dropped : result.dropped = true) : Protects state next ref result := by
  obtain ⟨scheduler, engineEq⟩ := admits.configured.plain
  have invariant := admits.queue scheduler engineEq
  constructor
  · rw [dropped, engine, engineEq, Engine.queued, List.mem_map]
    constructor
    · intro impossible
      cases impossible
    · rintro ⟨entry, member, rfl⟩
      exact absurd (invariant.known entry member) new
  · intro critical
    rw [store, Store.set_self] at critical
    have effective : prepared.packet.effectivePriority = .critical := by
      rw [Packet.effectivePriority, critical, Option.getD_some]
    rw [BandwidthOptimizer.filtering, PacketFilter.shouldDrop_critical effective] at drops
    cases drops
  · intro victim member gone
    rw [engine] at gone
    exact absurd member gone

/-- A packet the filter passes is queued, and whatever it displaces was among the least
important entries of a full queue. -/
private theorem admitted_protects (admits : Admits config seen state)
    (capacity : 1 ≤ config.maxQueueSize)
    (ordered : config.redMinThreshold ≤ config.redMaxThreshold)
    (bounded : config.redMaxThreshold ≤ 1) {rt : Runtime} {readings : ProcessReadings}
    {ref : PacketRef} {prepared : Prepared}
    (prepares : state.1.preparation rt state.2 readings ref = .ok prepared)
    (passes : (state.1.filtering readings prepared).1.drop = false)
    (compression : CompressionResult) {scheduler : PriorityScheduler}
    (engineEq : state.1.engine = .plain scheduler) {next : BandwidthOptimizer × Store}
    (engine : next.1.engine = .plain (scheduler.draw.insertEntry
      (BandwidthOptimizer.queuedPacket readings prepared compression).effectivePriority
      (scheduler.arriving PriorityScheduler.key
        (BandwidthOptimizer.queuedPacket readings prepared compression) ref)).2)
    (store : next.2 = state.2.set ref
      (BandwidthOptimizer.queuedPacket readings prepared compression))
    {result : ProcessResult} (kept : result.dropped = false) :
    Protects state next ref result := by
  have invariant := admits.queue scheduler engineEq
  have positive := admits.configured.positive
  have limit := admits.configured.limitEq
  have room := BandwidthOptimizer.filtering_finds_room admits.configured capacity ordered
    bounded passes
  rw [engineEq] at positive room limit
  let packet := BandwidthOptimizer.queuedPacket readings prepared compression
  have enters : Enters scheduler.draw
      (scheduler.draw.insertEntry packet.effectivePriority
        (scheduler.arriving PriorityScheduler.key packet ref)).2
      (scheduler.arriving PriorityScheduler.key packet ref) := by
    apply insertEntry_enters (show 0 < scheduler.draw.maxSize from positive)
    · intro queued member
      rw [invariant.keys queued member]
      exact TrafficPriority.one_le_value _
    · exact fun ordinary => room (ordinary_of_key ordinary)
  constructor
  · rw [kept, engine, Engine.queued]
    constructor
    · intro _
      exact List.mem_map_of_mem enters.queued
    · intro _
      rfl
  · intro _
    exact kept
  · intro victim member gone
    rw [engineEq, Engine.queued, List.mem_map] at member
    obtain ⟨entry, entryMem, rfl⟩ := member
    rw [engine, Engine.queued] at gone
    obtain ⟨full, least⟩ := enters.evicted entry entryMem
      fun still => gone (List.mem_map_of_mem still)
    have critical : prepared.packet.effectivePriority = .critical := by
      by_contra ordinary
      exact absurd (room ordinary) (not_lt.mpr full)
    refine ⟨?_, ?_, ?_⟩
    · obtain ⟨priority, classified⟩ :=
        (BandwidthOptimizer.preparation_prepares prepares).classified
      rw [Packet.effectivePriority, classified, Option.getD_some] at critical
      rw [store, Store.set_self, BandwidthOptimizer.queuedPacket_priority, classified, critical]
    · change scheduler.maxSize ≤ scheduler.heap.length at full
      change scheduler.maxSize = _ at limit
      rw [limit, max_eq_right capacity] at full
      rw [BandwidthOptimizer.queueSize, engineEq, admits.configured.configEq]
      exact Int.toNat_le.mp full
    · intro victimCritical other otherMem
      rw [engineEq, Engine.queued, List.mem_map] at otherMem
      obtain ⟨queued, queuedMem, rfl⟩ := otherMem
      have key := (invariant.key_eq_critical_iff entryMem).mpr victimCritical
      have bound := least queued queuedMem
      rw [key, invariant.keys queued queuedMem] at bound
      exact TrafficPriority.value_le_one_iff.mp bound

/-- Every `process` call on a new packet that returns keeps its promises. -/
theorem process_protects (admits : Admits config seen state)
    (capacity : 1 ≤ config.maxQueueSize)
    (ordered : config.redMinThreshold ≤ config.redMaxThreshold)
    (bounded : config.redMaxThreshold ≤ 1) {rt : Runtime} {readings : ProcessReadings}
    {ref : PacketRef} (new : ref ∉ seen) {result : ProcessResult}
    (returns : (state.1.process rt state.2 readings ref).1 = .ok result) :
    Protects state (state.1.process rt state.2 readings ref).2 ref result := by
  obtain ⟨scheduler, engineEq⟩ := admits.configured.plain
  have processes := state.1.process_processes rt state.2 readings ref
  generalize state.1.process rt state.2 readings ref = outcome at processes returns ⊢
  cases processes with
  | classifyRaised => cases returns
  | compressRaised => cases returns
  | filtered _ drops =>
      cases returns
      apply admits.filtered_protects new drops _ rfl rfl
      simp only [engineEq, Engine.recordDropped]
  | @admitted prepared compression prepares passes =>
      cases returns
      have scheduled := state.1.scheduling_plain state.2 readings ref prepared compression
        engineEq
      apply admits.admitted_protects capacity ordered bounded prepares passes compression
        engineEq _ _ rfl
      · rw [scheduled]
        rfl
      · rw [scheduled]

/-! ## Runs -/

theorem dequeue (admits : Admits config seen state) :
    Admits config seen ((state.1.dequeue state.2).2, state.2) := by
  obtain ⟨scheduler, engineEq⟩ := admits.configured.plain
  refine ⟨BandwidthOptimizer.dequeue_configured admits.configured state.2, ?_⟩
  intro after afterEq
  have served : (scheduler.dequeue state.2).2 = after := by
    simp only [BandwidthOptimizer.dequeue, engineEq, Engine.dequeue] at afterEq
    exact Engine.plain.inj afterEq
  have invariant := admits.queue scheduler engineEq
  have dequeues := scheduler.dequeue_dequeues state.2
  rw [← served]
  generalize scheduler.dequeue state.2 = outcome at dequeues ⊢
  cases dequeues with
  | empty => exact invariant
  | served popped => exact invariant.of_perm_cons (HeapQ.heappop_perm popped)

theorem run (admits : Admits config seen state) (capacity : 1 ≤ config.maxQueueSize)
    (ordered : config.redMinThreshold ≤ config.redMaxThreshold) (rt : Runtime)
    {calls : List OptimizerCall} (forwarding : ∀ call ∈ calls, call.forwards = true)
    (distinct : (seen ++ processedRefs calls).Nodup) :
    Admits config (seen ++ processedRefs calls)
      (Machine.run (BandwidthOptimizer.call rt) state calls).2 := by
  induction calls generalizing state seen with
  | nil => rwa [processedRefs, List.filterMap_nil, List.append_nil]
  | cons call rest ih =>
      rw [List.forall_mem_cons] at forwarding
      cases call with
      | process ref readings =>
          rw [processedRefs_process, List.append_cons] at distinct ⊢
          have new : ref ∉ seen := by
            have disjoint := (List.nodup_append.mp (List.nodup_append.mp distinct).1).2.2
            exact fun known => disjoint ref known ref (List.mem_singleton_self _) rfl
          exact ih (admits.process capacity ordered rt readings new) forwarding.2 distinct
      | dequeue => exact ih admits.dequeue forwarding.2 distinct
      | drain | drainNext | resetStats => cases forwarding.1

end Admits

/-- Without a value policy, in every state that processing distinct packets and dequeuing
can reach: the non-critical packets queued fit under the upper RED threshold, and a call
on a new packet reports a drop exactly when it does not queue the packet, never drops a
critical packet, and displaces a queued packet only for a critical one at a full queue,
a critical one only if all queued packets are critical. -/
theorem admission_protects (rt : Runtime) (config : OptimizerConfig)
    (capacity : 1 ≤ config.maxQueueSize) (low : 0 ≤ config.redMinThreshold)
    (ordered : config.redMinThreshold ≤ config.redMaxThreshold)
    (bounded : config.redMaxThreshold ≤ 1) (clock : TrafficPriority → ℚ)
    (fresh : BandwidthOptimizer)
    (constructed : BandwidthOptimizer.init config none clock = .ok fresh)
    (classifier : TrafficClassifier) (store : Store) (calls : List OptimizerCall)
    (forwarding : ∀ call ∈ calls, call.forwards = true)
    (distinct : (processedRefs calls).Nodup) :
    let state := (Machine.run (BandwidthOptimizer.call rt)
      ({ fresh with classifier := classifier }, store) calls).2
    ((state.1.engine.queued.countP fun ref => (state.2 ref).effectivePriority ≠ .critical : Nat)
        : Int) ≤ ⌈config.redMaxThreshold * config.maxQueueSize⌉ ∧
      ∀ ref ∉ processedRefs calls, ∀ readings result,
        (state.1.process rt state.2 readings ref).1 = .ok result →
          Protects state (state.1.process rt state.2 readings ref).2 ref result := by
  intro state
  have configured := BandwidthOptimizer.init_configured constructed
  have starts : Admits config [] ({ fresh with classifier := classifier }, store) := by
    refine ⟨configured.of_kept rfl rfl ⟨rfl, rfl⟩, ?_⟩
    intro scheduler engineEq
    rw [BandwidthOptimizer.init_engine constructed] at engineEq
    cases engineEq
    have size : (0 : ℚ) ≤ config.maxQueueSize := by exact_mod_cast one_pos.le.trans capacity
    have ceiling := Int.ceil_nonneg (mul_nonneg (low.trans ordered) size)
    exact ⟨by simp [Scheduler.init], by simp [Scheduler.init], by simpa [Scheduler.init,
      ordinaryCount] using ceiling⟩
  have admits : Admits config (processedRefs calls) state :=
    starts.run capacity ordered rt forwarding distinct
  refine ⟨?_, fun ref new readings result returns =>
    admits.process_protects capacity ordered bounded new returns⟩
  obtain ⟨scheduler, engineEq⟩ := admits.configured.plain
  have invariant := admits.queue scheduler engineEq
  have counted : (state.1.engine.queued.countP fun ref =>
      (state.2 ref).effectivePriority ≠ .critical) = ordinaryCount scheduler.heap := by
    rw [engineEq, Engine.queued, List.countP_map, ordinaryCount]
    apply List.countP_congr
    intro entry member
    simp only [Function.comp_apply, decide_eq_true_eq]
    exact not_congr (invariant.key_eq_critical_iff member).symm
  rw [counted]
  exact invariant.ordinary

/-- One critical packet processed and served, and a second one arriving. -/
theorem admission_protects_second :
    ∃ fresh, BandwidthOptimizer.init {} none (fun _ => 0) = .ok fresh ∧
      let rt := Runtime.ofSearch id fun _ _ => false
      let start : BandwidthOptimizer × Store := (fresh, fun _ => { priority := some .critical })
      let calls := [OptimizerCall.process 0 (.frozen 0 0), .dequeue]
      let state := (Machine.run (BandwidthOptimizer.call rt) start calls).2
      ((state.1.engine.queued.countP fun ref => (state.2 ref).effectivePriority ≠ .critical : Nat)
          : Int) ≤ ⌈(9 / 10 : ℚ) * (1024 : Int)⌉ ∧
        ∃ result, (state.1.process rt state.2 (.frozen 1 0) 1).1 = .ok result ∧
          Protects state (state.1.process rt state.2 (.frozen 1 0) 1).2 1 result := by
  obtain ⟨fresh, constructed⟩ := BandwidthOptimizer.default_constructs
  refine ⟨fresh, constructed, ?_⟩
  intro rt start calls state
  have protects := admission_protects rt {} (by decide) (by decide +kernel) (by decide +kernel)
    (by decide +kernel) (fun _ => 0) fresh constructed fresh.classifier start.2 calls
    (by decide) (by decide)
  have untouched : state.2 1 = start.2 1 := by
    obtain ⟨packet, storeEq, _⟩ := fresh.process_store start.2 (.frozen 0 0) 0 rt
    exact (congrFun storeEq 1).trans (Store.set_of_ne _ _ (by decide))
  have short : ((state.2 1).payload.length : Int) < state.1.config.compressionThresholdBytes := by
    have configured : state.1.Configured {} none := BandwidthOptimizer.run_configured
      (BandwidthOptimizer.init_configured constructed) rt calls
    rw [configured.configEq, untouched]
    change (0 : Int) < 256
    decide
  obtain ⟨result, returns⟩ :
      ∃ result, (state.1.process rt state.2 (.frozen 1 0) 1).1 = .ok result :=
    BandwidthOptimizer.process_of_short (congrArg Packet.priority untouched) short (.frozen 1 0)
  exact ⟨protects.1, result, returns, protects.2 1 (by decide) _ result returns⟩

end SmartBandwidth
