import SmartBandwidth.Pipeline.Processing
import Mathlib.Algebra.BigOperators.Group.Finset.Basic

/-!
# Packet conservation

Every received packet is dropped by the filter, lost to overflow, still queued, or
served.  A reset clears the counters but not the queue, so the balance carries the queue
length at the last reset as its offset.
-/

namespace SmartBandwidth

/-- Incrementing one counter increments the total. -/
theorem TrafficPriority.sum_increment (counts : TrafficPriority → Nat)
    (priority : TrafficPriority) :
    ∑ other, Function.update counts priority (counts priority + 1) other =
      (∑ other, counts other) + 1 := by
  have updated := Finset.add_sum_erase Finset.univ
    (Function.update counts priority (counts priority + 1)) (Finset.mem_univ priority)
  have whole := Finset.add_sum_erase Finset.univ counts (Finset.mem_univ priority)
  have others : ∑ other ∈ Finset.univ.erase priority,
      Function.update counts priority (counts priority + 1) other =
        ∑ other ∈ Finset.univ.erase priority, counts other := by
    apply Finset.sum_congr rfl
    intro other member
    exact Function.update_of_ne (Finset.ne_of_mem_erase member) _ _
  rw [Function.update_self, others] at updated
  omega

/-! ## What a scheduler accounts for -/

/-- The packets the statistics of a scheduler account for: served, queued, or lost to
overflow. -/
def SchedulerStats.accounted (stats : SchedulerStats) : Nat :=
  (∑ priority, stats.dequeueCounts priority) + stats.currentQueueSize + stats.droppedOverflow

namespace Scheduler

variable {K : Type} [LinearOrder K]

/-- Every arrival is accounted for, whichever way it is handled. -/
theorem insertEntry_accounted (scheduler : Scheduler K) (positive : 0 < scheduler.maxSize)
    (priority : TrafficPriority) (entry : QueueEntry K) :
    (scheduler.insertEntry priority entry).2.stats.accounted =
      scheduler.stats.accounted + 1 := by
  have inserts := scheduler.insertEntry_inserts positive priority entry
  generalize scheduler.insertEntry priority entry = outcome at inserts ⊢
  cases inserts with
  | room =>
      have pushed := (scheduler.push_perm priority entry).length_eq
      rw [List.length_cons] at pushed
      simp only [SchedulerStats.accounted, stats, push] at pushed ⊢
      omega
  | refused => rfl
  | @evicted idx victim full found =>
      have exchanged := (evicted_perm found priority entry).length_eq
      rw [List.length_cons, List.length_cons] at exchanged
      simp only [SchedulerStats.accounted, stats, push] at exchanged ⊢
      omega

theorem enqueue_accounted (keyOf : Packet → K) (scheduler : Scheduler K)
    (positive : 0 < scheduler.maxSize) (store : Store) (now : ℚ) (ref : PacketRef) :
    (Scheduler.enqueue keyOf scheduler store now ref).2.1.stats.accounted =
      scheduler.stats.accounted + 1 :=
  scheduler.draw.insertEntry_accounted positive _ _

theorem dequeue_accounted (scheduler : Scheduler K) (store : Store) :
    (scheduler.dequeue store).2.stats.accounted = scheduler.stats.accounted := by
  have dequeues := scheduler.dequeue_dequeues store
  generalize scheduler.dequeue store = outcome at dequeues ⊢
  cases dequeues with
  | empty => rfl
  | @served entry rest popped =>
      have length := (HeapQ.heappop_perm popped).length_eq
      have served := TrafficPriority.sum_increment scheduler.dequeueCounts
        (store entry.packet).effectivePriority
      rw [List.length_cons] at length
      simp only [SchedulerStats.accounted, stats, bump, served]
      omega

theorem drainLoop_accounted (store : Store) (fuel : Nat) (scheduler : Scheduler K) :
    (drainLoop store fuel scheduler).2.stats.accounted = scheduler.stats.accounted := by
  have kept : ∀ current : Scheduler K,
      current.stats.accounted = scheduler.stats.accounted →
      (current.dequeue store).2.stats.accounted = scheduler.stats.accounted :=
    fun current same => (current.dequeue_accounted store).trans same
  exact drainLoop_invariant kept fuel rfl

omit [LinearOrder K] in
theorem resetStats_accounted (scheduler : Scheduler K) :
    scheduler.resetStats.stats.accounted = scheduler.length := by
  simp [SchedulerStats.accounted, stats, resetStats, length]

end Scheduler

namespace Engine

theorem enqueue_accounted (engine : Engine) (positive : 0 < engine.maxSize) (store : Store)
    (now : ℚ) (ref : PacketRef) :
    (engine.enqueue store now ref).2.1.stats.accounted = engine.stats.accounted + 1 := by
  cases engine with
  | plain scheduler =>
      exact scheduler.enqueue_accounted PriorityScheduler.key positive store now ref
  | pvm policy scheduler tracker =>
      exact scheduler.enqueue_accounted ValueScheduler.key positive store now ref

theorem dequeue_accounted (engine : Engine) (store : Store) :
    (engine.dequeue store).2.stats.accounted = engine.stats.accounted := by
  cases engine with
  | plain scheduler => exact scheduler.dequeue_accounted store
  | pvm policy scheduler tracker => exact scheduler.dequeue_accounted store

theorem drain_accounted (engine : Engine) (store : Store) :
    (engine.drain store).2.stats.accounted = engine.stats.accounted := by
  cases engine with
  | plain scheduler => exact Scheduler.drainLoop_accounted store _ scheduler
  | pvm policy scheduler tracker => exact Scheduler.drainLoop_accounted store _ scheduler

theorem resetStats_accounted (engine : Engine) :
    engine.resetStats.stats.accounted = engine.length := by
  cases engine with
  | plain scheduler => exact scheduler.resetStats_accounted
  | pvm policy scheduler tracker => exact scheduler.resetStats_accounted

@[simp] theorem recordDropped_stats (engine : Engine) (value now : ℚ) :
    (engine.recordDropped value now).stats = engine.stats := by
  cases engine <;> rfl

@[simp] theorem recordDelivered_stats (engine : Engine) (value now : ℚ) :
    (engine.recordDelivered value now).stats = engine.stats := by
  cases engine <;> rfl

end Engine

/-! ## The filter's drop counters -/

/-- The filter's counters go up by one with every drop and by none otherwise. -/
theorem PacketFilter.shouldDrop_dropCounts (filter : PacketFilter) (packet : Packet)
    (queueSize : Option Nat) (now draw : ℚ) :
    ∑ priority, (filter.shouldDrop packet queueSize now draw).2.dropCounts priority =
      (∑ priority, filter.dropCounts priority) +
        if (filter.shouldDrop packet queueSize now draw).1.drop then 1 else 0 := by
  have decides := filter.shouldDrop_decides packet queueSize now draw
  generalize filter.shouldDrop packet queueSize now draw = outcome at decides ⊢
  cases decides with
  | limited => exact TrafficPriority.sum_increment _ _
  | early => exact TrafficPriority.sum_increment _ _
  | passed => rfl

/-! ## The balance -/

/-- The counters balance, up to the packets that were queued at the last reset. -/
structure BandwidthOptimizer.Balanced (offset : Nat) (optimizer : BandwidthOptimizer) :
    Prop where
  positive : 0 < optimizer.engine.maxSize
  received : optimizer.totalIn + offset =
    optimizer.totalDropped + optimizer.engine.stats.accounted
  dropped : optimizer.totalDropped =
    ∑ priority, optimizer.packetFilter.dropCounts priority

/-- The offset after a call: a reset remembers the queue length it leaves. -/
def BandwidthOptimizer.nextOffset (optimizer : BandwidthOptimizer) (offset : Nat) :
    OptimizerCall → Nat
  | .resetStats => optimizer.queueSize
  | .process _ _ | .dequeue | .drain | .drainNext => offset

/-- The queue length at the last reset of a run, or `offset` if there is none. -/
def lengthAtReset (rt : Runtime) (offset : Nat) (state : BandwidthOptimizer × Store) :
    List OptimizerCall → Nat
  | [] => offset
  | call :: rest =>
      lengthAtReset rt (state.1.nextOffset offset call)
        (BandwidthOptimizer.call rt state call).2 rest

namespace BandwidthOptimizer

variable {offset : Nat} {optimizer : BandwidthOptimizer}

theorem init_balanced {config : OptimizerConfig} {policy : Option FlowValuePolicy}
    {clock : TrafficPriority → ℚ} (constructed : init config policy clock = .ok optimizer) :
    optimizer.Balanced 0 := by
  have configured := init_configured constructed
  obtain ⟨packetFilter, filtered, rfl⟩ := init_eq_ok constructed
  have counts := (PacketFilter.init_eq_ok filtered).2
  constructor
  · exact configured.positive
  · cases policy <;> simp [Engine.init, Engine.stats, Scheduler.stats, Scheduler.init,
      SchedulerStats.accounted]
  · simp [counts]

theorem process_balanced (balanced : optimizer.Balanced offset) {rt : Runtime}
    {store : Store} {readings : ProcessReadings} {ref : PacketRef} {result : ProcessResult}
    (quiet : (optimizer.process rt store readings ref).1 = .ok result) :
    (optimizer.process rt store readings ref).2.1.Balanced offset := by
  have filterCounts (prepared : Prepared) :
      ∑ priority, (optimizer.filtering readings prepared).2.dropCounts priority =
        optimizer.totalDropped +
          if (optimizer.filtering readings prepared).1.drop then 1 else 0 := by
    rw [balanced.dropped]
    exact PacketFilter.shouldDrop_dropCounts _ _ _ _ _
  have received := balanced.received
  have processes := optimizer.process_processes rt store readings ref
  generalize optimizer.process rt store readings ref = outcome at processes quiet ⊢
  cases processes with
  | classifyRaised => cases quiet
  | compressRaised => cases quiet
  | @filtered prepared _ drops =>
      have counts := filterCounts prepared
      rw [if_pos drops] at counts
      have kept := optimizer.engine.recordDropped_kept prepared.packet.valueCoefficient
        readings.record
      refine ⟨kept.1.symm ▸ balanced.positive, ?_, counts.symm⟩
      change optimizer.totalIn + 1 + offset = optimizer.totalDropped + 1 +
        (optimizer.engine.recordDropped prepared.packet.valueCoefficient
          readings.record).stats.accounted
      rw [Engine.recordDropped_stats]
      omega
  | @admitted prepared compression _ passes =>
      have counts := filterCounts prepared
      rw [if_neg (Bool.eq_false_iff.mp passes)] at counts
      have accounted := optimizer.engine.enqueue_accounted balanced.positive
        (store.set ref (compressedPacket prepared.packet compression)) readings.arrival ref
      have enqueued := optimizer.engine.enqueue_kept
        (store.set ref (compressedPacket prepared.packet compression)) readings.arrival ref
      have kept :=
        (optimizer.scheduling store readings ref prepared compression).2.1.recordDelivered_kept
          (compressedPacket prepared.packet compression).valueCoefficient readings.record
      refine ⟨(kept.1.trans enqueued.1).symm ▸ balanced.positive, ?_, counts.symm⟩
      change optimizer.totalIn + 1 + offset = optimizer.totalDropped +
        ((optimizer.scheduling store readings ref prepared compression).2.1.recordDelivered
          (compressedPacket prepared.packet compression).valueCoefficient
          readings.record).stats.accounted
      rw [Engine.recordDelivered_stats, scheduling, accounted]
      omega

theorem dequeue_balanced (balanced : optimizer.Balanced offset) (store : Store) :
    (optimizer.dequeue store).2.Balanced offset := by
  have accounted := optimizer.engine.dequeue_accounted store
  have kept := optimizer.engine.dequeue_kept store
  refine ⟨kept.1.symm ▸ balanced.positive, ?_, balanced.dropped⟩
  exact balanced.received.trans (congrArg _ accounted.symm)

theorem drain_balanced (balanced : optimizer.Balanced offset) (store : Store) :
    (optimizer.drain store).2.Balanced offset := by
  have accounted := optimizer.engine.drain_accounted store
  have kept := optimizer.engine.drain_kept store
  refine ⟨kept.1.symm ▸ balanced.positive, ?_, balanced.dropped⟩
  exact balanced.received.trans (congrArg _ accounted.symm)

theorem resetStats_balanced (balanced : optimizer.Balanced offset) :
    optimizer.resetStats.Balanced optimizer.queueSize := by
  have accounted := optimizer.engine.resetStats_accounted
  refine ⟨optimizer.engine.resetStats_kept.1.symm ▸ balanced.positive, ?_, ?_⟩
  · change 0 + optimizer.engine.length = 0 + optimizer.engine.resetStats.stats.accounted
    rw [accounted]
  · simp [resetStats, PacketFilter.resetDropCounts]

/-- A call that does not raise keeps the balance. -/
theorem call_balanced {state : BandwidthOptimizer × Store}
    (balanced : state.1.Balanced offset) {rt : Runtime} {call : OptimizerCall}
    (quiet : (BandwidthOptimizer.call rt state call).1.raised = false) :
    (BandwidthOptimizer.call rt state call).2.1.Balanced (state.1.nextOffset offset call) := by
  cases call with
  | process ref readings =>
      cases answer : (state.1.process rt state.2 readings ref).1 with
      | error raised =>
          rw [BandwidthOptimizer.call] at quiet
          simp only [answer, OptimizerReply.raised] at quiet
          cases quiet
      | ok result => exact process_balanced balanced answer
  | dequeue => exact dequeue_balanced balanced state.2
  | drain => exact drain_balanced balanced state.2
  | drainNext =>
      simp only [BandwidthOptimizer.call]
      split
      next => exact balanced
      next => exact dequeue_balanced balanced state.2
  | resetStats => exact resetStats_balanced balanced

theorem run_balanced {rt : Runtime} {state : BandwidthOptimizer × Store}
    (balanced : state.1.Balanced offset) {calls : List OptimizerCall}
    (quiet : ∀ reply ∈ (Machine.run (BandwidthOptimizer.call rt) state calls).1,
      reply.raised = false) :
    (Machine.run (BandwidthOptimizer.call rt) state calls).2.1.Balanced
      (lengthAtReset rt offset state calls) := by
  induction calls generalizing state offset with
  | nil => exact balanced
  | cons call rest ih =>
      rw [Machine.run_cons, List.forall_mem_cons] at quiet
      exact ih (call_balanced balanced quiet.1) quiet.2

end BandwidthOptimizer

/-- In every run without exceptions, whatever the configuration, the mode and the rules,
the statistics account for every packet received since the last reset and every packet
queued then; and the drops are the sum of the drops of the classes. -/
theorem packets_conserved (rt : Runtime) (config : OptimizerConfig)
    (policy : Option FlowValuePolicy) (clock : TrafficPriority → ℚ)
    (fresh : BandwidthOptimizer)
    (constructed : BandwidthOptimizer.init config policy clock = .ok fresh)
    (classifier : TrafficClassifier) (store : Store) (calls : List OptimizerCall)
    (quiet : ∀ reply ∈ (Machine.run (BandwidthOptimizer.call rt)
      ({ fresh with classifier := classifier }, store) calls).1, reply.raised = false)
    (statsClock : Nat → ℚ) :
    let start := ({ fresh with classifier := classifier }, store)
    let stats :=
      (Machine.run (BandwidthOptimizer.call rt) start calls).2.1.stats statsClock
    stats.packetsReceived + lengthAtReset rt 0 start calls =
        stats.packetsDropped + ∑ priority, stats.queue.dequeueCounts priority +
          stats.queue.currentQueueSize + stats.queue.droppedOverflow ∧
      stats.packetsDropped = ∑ priority, stats.dropsByPriority priority := by
  intro start stats
  have fromFresh := BandwidthOptimizer.init_balanced constructed
  have starts : start.1.Balanced 0 := { fromFresh with positive := fromFresh.positive }
  have balanced := BandwidthOptimizer.run_balanced starts quiet
  refine ⟨?_, balanced.dropped⟩
  have received := balanced.received
  rw [SchedulerStats.accounted] at received
  simp only [stats, BandwidthOptimizer.stats]
  omega

/-- The balance after one critical packet was queued and served. -/
theorem packets_conserved_single :
    ∃ fresh, BandwidthOptimizer.init {} none (fun _ => 0) = .ok fresh ∧
      let rt := Runtime.ofSearch id fun _ _ => false
      let start : BandwidthOptimizer × Store := (fresh, fun _ => { priority := some .critical })
      let calls := [OptimizerCall.process 0 (.frozen 0 0), .dequeue]
      let stats :=
        (Machine.run (BandwidthOptimizer.call rt) start calls).2.1.stats fun _ => 0
      stats.packetsReceived + lengthAtReset rt 0 start calls =
          stats.packetsDropped + ∑ priority, stats.queue.dequeueCounts priority +
            stats.queue.currentQueueSize + stats.queue.droppedOverflow ∧
        stats.packetsDropped = ∑ priority, stats.dropsByPriority priority := by
  obtain ⟨fresh, constructed⟩ := BandwidthOptimizer.default_constructs
  let rt := Runtime.ofSearch id fun _ _ => false
  let store : Store := fun _ => { priority := some .critical }
  have short : ((store 0).payload.length : Int) < fresh.config.compressionThresholdBytes := by
    rw [(BandwidthOptimizer.init_configured constructed).configEq]
    decide
  obtain ⟨result, processed⟩ :
      ∃ result, (fresh.process rt store (.frozen 0 0) 0).1 = .ok result :=
    BandwidthOptimizer.process_of_short rfl short (.frozen 0 0)
  refine ⟨fresh, constructed, packets_conserved rt {} none (fun _ => 0) fresh constructed
    fresh.classifier store _ ?_ _⟩
  rw [Machine.run_cons, Machine.run_cons, Machine.run_nil, List.forall_mem_cons]
  refine ⟨?_, by simp [BandwidthOptimizer.call, OptimizerReply.raised]⟩
  simp only [BandwidthOptimizer.call]
  rw [processed]
  rfl

end SmartBandwidth
