import SmartBandwidth.Pipeline.Processing
import SmartBandwidth.Queue.Draining

/-!
# The order in which an optimizer serves its packets

The engine drains as it dequeues, and every call keeps its heap in order.
-/

namespace SmartBandwidth

namespace Engine

/-- The heap property of the engine's scheduler. -/
def HeapOrdered : Engine → Prop
  | .plain scheduler => scheduler.HeapOrdered
  | .pvm _ scheduler _ => scheduler.HeapOrdered

/-- The packets queued in the engine in service order: by class, or with a policy by falling
effective value, and then by arrival. -/
def InServiceOrder (engine : Engine) (refs : List PacketRef) : Prop :=
  match engine with
  | .plain scheduler => scheduler.InServiceOrder refs
  | .pvm _ scheduler _ => scheduler.InServiceOrder refs

/-- A dequeue without an answer leaves an empty queue as it is. -/
theorem drain_of_exhausted {engine rest : Engine} {store : Store}
    (exhausted : engine.dequeue store = (none, rest)) :
    (engine.drain store).1 = [] ∧ rest = engine := by
  cases engine with
  | plain scheduler =>
      rw [dequeue, Prod.mk.injEq] at exhausted
      obtain ⟨answer, rfl⟩ := exhausted
      obtain ⟨drained, same⟩ := Scheduler.drain_of_exhausted (Prod.ext answer rfl)
      exact ⟨drained, congrArg _ same⟩
  | pvm policy scheduler tracker =>
      rw [dequeue, Prod.mk.injEq] at exhausted
      obtain ⟨answer, rfl⟩ := exhausted
      obtain ⟨drained, same⟩ := Scheduler.drain_of_exhausted (Prod.ext answer rfl)
      exact ⟨drained, congrArg (Engine.pvm policy · tracker) same⟩

/-- A dequeue serves the first packet of the drain and leaves the others. -/
theorem drain_of_served {engine rest : Engine} {store : Store} {ref : PacketRef}
    (served : engine.dequeue store = (some ref, rest)) :
    (engine.drain store).1 = ref :: (rest.drain store).1 ∧ engine.length = rest.length + 1 := by
  cases engine with
  | plain scheduler =>
      rw [dequeue, Prod.mk.injEq] at served
      obtain ⟨answer, rfl⟩ := served
      exact Scheduler.drain_of_served (Prod.ext answer rfl)
  | pvm policy scheduler tracker =>
      rw [dequeue, Prod.mk.injEq] at served
      obtain ⟨answer, rfl⟩ := served
      exact Scheduler.drain_of_served (Prod.ext answer rfl)

theorem init_heapOrdered (maxQueueSize : Int) (policy : Option FlowValuePolicy) :
    (init maxQueueSize policy).HeapOrdered := by
  cases policy with
  | none => exact Scheduler.init_heapOrdered maxQueueSize
  | some policy => exact Scheduler.init_heapOrdered maxQueueSize

section Kept

variable {engine : Engine}

theorem enqueue_heapOrdered (ordered : engine.HeapOrdered) (store : Store) (now : ℚ)
    (ref : PacketRef) : (engine.enqueue store now ref).2.1.HeapOrdered := by
  cases engine with
  | plain scheduler => exact Scheduler.enqueue_heapOrdered PriorityScheduler.key ordered _ _ _
  | pvm policy scheduler tracker =>
      exact Scheduler.enqueue_heapOrdered ValueScheduler.key ordered _ _ _

theorem dequeue_heapOrdered (ordered : engine.HeapOrdered) (store : Store) :
    (engine.dequeue store).2.HeapOrdered := by
  cases engine with
  | plain scheduler => exact Scheduler.dequeue_heapOrdered ordered store
  | pvm policy scheduler tracker => exact Scheduler.dequeue_heapOrdered ordered store

theorem recordDropped_heapOrdered (ordered : engine.HeapOrdered) (value now : ℚ) :
    (engine.recordDropped value now).HeapOrdered := by
  cases engine <;> exact ordered

theorem recordDelivered_heapOrdered (ordered : engine.HeapOrdered) (value now : ℚ) :
    (engine.recordDelivered value now).HeapOrdered := by
  cases engine <;> exact ordered

theorem resetStats_heapOrdered (ordered : engine.HeapOrdered) :
    engine.resetStats.HeapOrdered := by
  cases engine <;> exact ordered

theorem drain_inServiceOrder (ordered : engine.HeapOrdered) (store : Store) :
    engine.InServiceOrder (engine.drain store).1 := by
  cases engine with
  | plain scheduler => exact Scheduler.drain_inServiceOrder ordered store
  | pvm policy scheduler tracker => exact Scheduler.drain_inServiceOrder ordered store

end Kept

end Engine

namespace BandwidthOptimizer

theorem drain_of_exhausted {optimizer rest : BandwidthOptimizer} {store : Store}
    (exhausted : optimizer.dequeue store = (none, rest)) :
    (optimizer.drain store).1 = [] ∧ rest = optimizer := by
  rw [dequeue, Prod.mk.injEq] at exhausted
  obtain ⟨answer, rfl⟩ := exhausted
  obtain ⟨drained, same⟩ := Engine.drain_of_exhausted (Prod.ext answer rfl)
  exact ⟨drained, congrArg (fun engine => { optimizer with engine := engine }) same⟩

theorem drain_of_served {optimizer rest : BandwidthOptimizer} {store : Store}
    {ref : PacketRef} (served : optimizer.dequeue store = (some ref, rest)) :
    (optimizer.drain store).1 = ref :: (rest.drain store).1 ∧
      optimizer.queueSize = rest.queueSize + 1 := by
  rw [dequeue, Prod.mk.injEq] at served
  obtain ⟨answer, rfl⟩ := served
  exact Engine.drain_of_served (Prod.ext answer rfl)

theorem dequeue_heapOrdered {optimizer : BandwidthOptimizer}
    (ordered : optimizer.engine.HeapOrdered) (store : Store) :
    (optimizer.dequeue store).2.engine.HeapOrdered :=
  Engine.dequeue_heapOrdered ordered store

theorem process_heapOrdered {optimizer : BandwidthOptimizer}
    (ordered : optimizer.engine.HeapOrdered) (rt : Runtime) (store : Store)
    (readings : ProcessReadings) (ref : PacketRef) :
    (optimizer.process rt store readings ref).2.1.engine.HeapOrdered := by
  have processes := process_processes rt optimizer store readings ref
  generalize optimizer.process rt store readings ref = outcome at processes ⊢
  cases processes with
  | classifyRaised => exact ordered
  | filtered => exact Engine.recordDropped_heapOrdered ordered _ _
  | compressRaised => exact ordered
  | admitted =>
      exact Engine.recordDelivered_heapOrdered (Engine.enqueue_heapOrdered ordered _ _ _) _ _

theorem init_heapOrdered {config : OptimizerConfig} {policy : Option FlowValuePolicy}
    {clock : TrafficPriority → ℚ} {optimizer : BandwidthOptimizer}
    (constructed : init config policy clock = .ok optimizer) :
    optimizer.engine.HeapOrdered := by
  rw [init_engine constructed]
  exact Engine.init_heapOrdered config.maxQueueSize policy

end BandwidthOptimizer

end SmartBandwidth
