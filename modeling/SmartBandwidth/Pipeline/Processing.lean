import SmartBandwidth.Pipeline.Optimizer
import SmartBandwidth.Queue.Insertion
import Mathlib.Algebra.Order.Field.Basic

/-!
# What one call does to the optimizer

`process` ends in one of four ways: classification raises, the filter drops the packet,
compression raises, or the packet is handed to the scheduler.  The modules that follow
read these four cases, and what every call leaves as configured.
-/

namespace SmartBandwidth

namespace BandwidthOptimizer

/-! ## The four outcomes of `process` -/

section Process

variable (rt : Runtime) (optimizer : BandwidthOptimizer) (store : Store)
variable (readings : ProcessReadings) (ref : PacketRef)

/-- The optimizer after stage 0. -/
def entered : BandwidthOptimizer :=
  { optimizer with
    totalIn := optimizer.totalIn + 1
    flowTracker := (optimizer.flowTracker.update rt (store ref) readings.flow).2 }

/-- What stages 0 to 1c make of the packet. -/
def preparation : Except PyError Prepared :=
  optimizer.prepare rt (optimizer.flowTracker.update rt (store ref) readings.flow) (store ref)

/-- The filter's decision on a prepared packet. -/
def filtering (prepared : Prepared) : DropDecision × PacketFilter :=
  optimizer.packetFilter.shouldDrop prepared.packet (some optimizer.engine.length)
    readings.refill readings.draw

/-- The optimizer after the filter has decided on a prepared packet. -/
def decided (prepared : Prepared) : BandwidthOptimizer :=
  { optimizer with
    totalIn := optimizer.totalIn + 1
    flowTracker := prepared.flowTracker
    packetFilter := (optimizer.filtering readings prepared).2 }

/-- The scheduler's answer to an admitted packet. -/
def scheduling (prepared : Prepared) (result : CompressionResult) : Bool × Engine × Store :=
  optimizer.engine.enqueue (store.set ref (compressedPacket prepared.packet result))
    readings.arrival ref

/-- The outcomes of `process`. -/
inductive Processes : Except PyError ProcessResult × BandwidthOptimizer × Store → Prop where
  | classifyRaised {raised : PyError} :
      optimizer.preparation rt store readings ref = .error raised →
      Processes (.error raised, optimizer.entered rt store readings ref, store)
  | filtered {prepared : Prepared} :
      optimizer.preparation rt store readings ref = .ok prepared →
      (optimizer.filtering readings prepared).1.drop = true →
      Processes
        (.ok {
            packet := ref
            dropped := true
            dropReason := (optimizer.filtering readings prepared).1.reason
            flowRecord := some prepared.record },
          { optimizer.decided readings prepared with
            engine := optimizer.engine.recordDropped prepared.packet.valueCoefficient
              readings.record
            totalDropped := optimizer.totalDropped + 1 },
          store.set ref prepared.packet)
  | compressRaised {prepared : Prepared} {raised : PyError} :
      optimizer.preparation rt store readings ref = .ok prepared →
      (optimizer.filtering readings prepared).1.drop = false →
      PayloadCompressor.compress rt optimizer.config prepared.packet.payload = .error raised →
      Processes
        (.error raised, optimizer.decided readings prepared, store.set ref prepared.packet)
  | admitted {prepared : Prepared} {result : CompressionResult} :
      optimizer.preparation rt store readings ref = .ok prepared →
      (optimizer.filtering readings prepared).1.drop = false →
      PayloadCompressor.compress rt optimizer.config prepared.packet.payload = .ok result →
      Processes
        (.ok {
            packet := ref
            dropped := false
            compressed := result.wasCompressed
            originalPayloadSize := prepared.packet.payload.length
            compressedPayloadSize := (compressedPacket prepared.packet result).payload.length
            flowRecord := some prepared.record },
          { optimizer.decided readings prepared with
            engine := (optimizer.scheduling store readings ref prepared result).2.1.recordDelivered
              (compressedPacket prepared.packet result).valueCoefficient readings.record
            totalBytesSaved := optimizer.totalBytesSaved +
              if result.wasCompressed then result.spaceSavedBytes else 0 },
          (optimizer.scheduling store readings ref prepared result).2.2)

theorem process_processes :
    optimizer.Processes rt store readings ref (optimizer.process rt store readings ref) := by
  have preparationEq : optimizer.preparation rt store readings ref =
      (optimizer.entered rt store readings ref).prepare rt
        (optimizer.flowTracker.update rt (store ref) readings.flow) (store ref) := rfl
  rw [process]
  cases prepares : optimizer.preparation rt store readings ref with
  | error raised =>
      rw [preparationEq, entered] at prepares
      simp only [prepares]
      exact .classifyRaised prepares
  | ok prepared =>
      have prepares' := prepares
      rw [preparationEq, entered] at prepares'
      simp only [prepares', filterStage, Store.set_self]
      cases dropped : (optimizer.filtering readings prepared).1.drop with
      | true =>
          rw [filtering] at dropped
          simp only [dropped, ↓reduceIte]
          exact .filtered prepares dropped
      | false =>
          have dropped' := dropped
          rw [filtering] at dropped'
          simp only [dropped', Bool.false_eq_true, ↓reduceIte, deliver, Store.set_self,
            Store.set_set]
          cases compresses : PayloadCompressor.compress rt optimizer.config
              prepared.packet.payload with
          | error raised => exact .compressRaised prepares dropped compresses
          | ok result => exact .admitted prepares dropped compresses

variable {rt optimizer store readings ref}

/-- `process` counts every packet, also one on which it raises. -/
theorem process_totalIn :
    (optimizer.process rt store readings ref).2.1.totalIn = optimizer.totalIn + 1 := by
  have processes := optimizer.process_processes rt store readings ref
  generalize optimizer.process rt store readings ref = outcome at processes ⊢
  cases processes <;> rfl

end Process

end BandwidthOptimizer

/-! ## Prepared packets -/

/-- A packet and a later version of it that differ in class, coefficient, payload, size
and time stamp only. -/
structure Packet.SameHeader (packet later : Packet) : Prop where
  srcPort : later.srcPort = packet.srcPort
  dstPort : later.dstPort = packet.dstPort
  protocol : later.protocol = packet.protocol

theorem Packet.SameHeader.trans {first second third : Packet}
    (firstly : first.SameHeader second) (secondly : second.SameHeader third) :
    first.SameHeader third where
  srcPort := secondly.srcPort.trans firstly.srcPort
  dstPort := secondly.dstPort.trans firstly.dstPort
  protocol := secondly.protocol.trans firstly.protocol

/-- The coefficient depends on the ports and the protocol only. -/
theorem FlowValuePolicy.getCoefficient_of_sameHeader (rt : Runtime)
    (policy : FlowValuePolicy) {packet later : Packet} (same : packet.SameHeader later) :
    policy.getCoefficient rt later = policy.getCoefficient rt packet := by
  have conditions : ruleMatches rt later = ruleMatches rt packet := by
    funext rule
    simp only [ruleMatches, headerMatches, same.srcPort, same.dstPort, same.protocol]
  simp only [getCoefficient, matchingRule, conditions]

/-- What the stages before the filter do to a packet. -/
structure Prepares (rt : Runtime) (policy : Option FlowValuePolicy) (packet prepared : Packet) :
    Prop where
  header : packet.SameHeader prepared
  payload : prepared.payload = packet.payload
  classified : ∃ priority, prepared.priority = some priority
  valued : ∀ values, policy = some values →
    prepared.valueCoefficient = values.getCoefficient rt packet

namespace BandwidthOptimizer

/-- Classification keeps everything but the class. -/
private theorem classifyStage_ok {rt : Runtime} {classifier : TrafficClassifier}
    {packet classified : Packet}
    (classifies : classifyStage rt classifier packet = .ok classified) :
    ∃ priority, classified = { packet with priority := some priority } := by
  rw [classifyStage] at classifies
  cases given : packet.priority with
  | some priority =>
      simp only [given, Except.ok.injEq] at classifies
      exact ⟨priority, by rw [← classifies, ← given]⟩
  | none =>
      simp only [given] at classifies
      split at classifies
      next => cases classifies
      next priority _ =>
        cases classifies
        exact ⟨priority, rfl⟩

/-- A packet that already has a class passes the stages before the filter. -/
theorem preparation_of_classified {rt : Runtime} {optimizer : BandwidthOptimizer}
    {store : Store} {ref : PacketRef} {priority : TrafficPriority}
    (given : (store ref).priority = some priority) (readings : ProcessReadings) :
    ∃ prepared, optimizer.preparation rt store readings ref = .ok prepared := by
  simp only [preparation, prepare, classifyStage, given]
  exact ⟨_, rfl⟩

/-- A preparation that succeeds has classified its packet. -/
theorem preparation_eq_ok {rt : Runtime} {optimizer : BandwidthOptimizer} {store : Store}
    {readings : ProcessReadings} {ref : PacketRef} {prepared : Prepared}
    (prepares : optimizer.preparation rt store readings ref = .ok prepared) :
    let tracked := optimizer.flowTracker.update rt (store ref) readings.flow
    ∃ classified, classifyStage rt optimizer.classifier (store ref) = .ok classified ∧
      prepared = valueStage rt optimizer.engine.flowValuePolicy
        (FlowKey.fromPacket rt (store ref))
        { packet := hintStage tracked.2 tracked.1 classified
          record := tracked.1
          flowTracker := tracked.2 } := by
  rw [preparation, prepare] at prepares
  cases classifies : classifyStage rt optimizer.classifier (store ref) with
  | error raised =>
      rw [classifies] at prepares
      cases prepares
  | ok classified =>
      rw [classifies] at prepares
      cases prepares
      exact ⟨classified, rfl, rfl⟩

theorem preparation_prepares {rt : Runtime} {optimizer : BandwidthOptimizer} {store : Store}
    {readings : ProcessReadings} {ref : PacketRef} {prepared : Prepared}
    (prepares : optimizer.preparation rt store readings ref = .ok prepared) :
    Prepares rt optimizer.engine.flowValuePolicy (store ref) prepared.packet := by
  obtain ⟨classified, classifies, rfl⟩ := preparation_eq_ok prepares
  obtain ⟨priority, rfl⟩ := classifyStage_ok classifies
  cases optimizer.engine.flowValuePolicy with
  | none => exact ⟨⟨rfl, rfl, rfl⟩, rfl, ⟨_, rfl⟩, by simp⟩
  | some values =>
      refine ⟨⟨rfl, rfl, rfl⟩, rfl, ⟨_, rfl⟩, ?_⟩
      intro same equal
      cases equal
      exact values.getCoefficient_of_sameHeader rt ⟨rfl, rfl, rfl⟩

/-- The stages before the filter do not change the size of a packet. -/
theorem preparation_sizeBytes {rt : Runtime} {optimizer : BandwidthOptimizer} {store : Store}
    {readings : ProcessReadings} {ref : PacketRef} {prepared : Prepared}
    (prepares : optimizer.preparation rt store readings ref = .ok prepared) :
    prepared.packet.sizeBytes = (store ref).sizeBytes := by
  obtain ⟨classified, classifies, rfl⟩ := preparation_eq_ok prepares
  obtain ⟨priority, rfl⟩ := classifyStage_ok classifies
  cases optimizer.engine.flowValuePolicy <;> rfl

end BandwidthOptimizer

/-- `process` raises only where classification or compression does: a packet that has a
class and a payload below the compression threshold never makes it raise. -/
theorem BandwidthOptimizer.process_of_short {rt : Runtime} {optimizer : BandwidthOptimizer}
    {store : Store} {ref : PacketRef} {priority : TrafficPriority}
    (given : (store ref).priority = some priority)
    (short : ((store ref).payload.length : Int) < optimizer.config.compressionThresholdBytes)
    (readings : ProcessReadings) :
    ∃ result, (optimizer.process rt store readings ref).1 = .ok result := by
  obtain ⟨ready, readies⟩ :
      ∃ prepared, optimizer.preparation rt store readings ref = .ok prepared :=
    preparation_of_classified given readings
  have processes := optimizer.process_processes rt store readings ref
  generalize optimizer.process rt store readings ref = outcome at processes ⊢
  cases processes with
  | classifyRaised raises =>
      rw [readies] at raises
      cases raises
  | filtered => exact ⟨_, rfl⟩
  | compressRaised prepares _ raises =>
      rw [(preparation_prepares prepares).payload] at raises
      simp only [PayloadCompressor.compress, Option.getD_none, short, true_or, ↓reduceIte]
        at raises
      cases raises
  | admitted => exact ⟨_, rfl⟩

@[simp] theorem compressedPacket_priority (packet : Packet) (result : CompressionResult) :
    (BandwidthOptimizer.compressedPacket packet result).priority = packet.priority := by
  rw [BandwidthOptimizer.compressedPacket]
  split <;> rfl

@[simp] theorem compressedPacket_valueCoefficient (packet : Packet)
    (result : CompressionResult) :
    (BandwidthOptimizer.compressedPacket packet result).valueCoefficient =
      packet.valueCoefficient := by
  rw [BandwidthOptimizer.compressedPacket]
  split <;> rfl

theorem compressedPacket_sameHeader (packet : Packet) (result : CompressionResult) :
    packet.SameHeader (BandwidthOptimizer.compressedPacket packet result) := by
  rw [BandwidthOptimizer.compressedPacket]
  split <;> exact ⟨rfl, rfl, rfl⟩

/-! ## The scheduler's part -/

/-- The entry an arriving packet becomes. -/
def Scheduler.arriving {K : Type} (scheduler : Scheduler K) (keyOf : Packet → K)
    (packet : Packet) (ref : PacketRef) : QueueEntry K :=
  { key := keyOf packet, sequence := scheduler.counter, packet := ref }

namespace BandwidthOptimizer

/-- An admitted packet as it is queued. -/
def queuedPacket (readings : ProcessReadings) (prepared : Prepared)
    (result : CompressionResult) : Packet :=
  (compressedPacket prepared.packet result).stamped readings.arrival

@[simp] theorem queuedPacket_priority (readings : ProcessReadings) (prepared : Prepared)
    (result : CompressionResult) :
    (queuedPacket readings prepared result).priority = prepared.packet.priority :=
  compressedPacket_priority _ _

@[simp] theorem queuedPacket_effectivePriority (readings : ProcessReadings)
    (prepared : Prepared) (result : CompressionResult) :
    (queuedPacket readings prepared result).effectivePriority =
      prepared.packet.effectivePriority := by
  rw [Packet.effectivePriority, queuedPacket_priority, Packet.effectivePriority]

@[simp] theorem queuedPacket_valueCoefficient (readings : ProcessReadings)
    (prepared : Prepared) (result : CompressionResult) :
    (queuedPacket readings prepared result).valueCoefficient =
      prepared.packet.valueCoefficient :=
  compressedPacket_valueCoefficient _ _

/-- The effective value of a packet does not change between the filter and the queue. -/
@[simp] theorem effectiveValue_queuedPacket (readings : ProcessReadings) (prepared : Prepared)
    (compression : CompressionResult) :
    ValueScheduler.effectiveValue
        (queuedPacket readings prepared compression) =
      ValueScheduler.effectiveValue prepared.packet := by
  simp only [ValueScheduler.effectiveValue, queuedPacket_valueCoefficient,
    queuedPacket_effectivePriority]

theorem queuedPacket_sameHeader (readings : ProcessReadings) (prepared : Prepared)
    (result : CompressionResult) :
    prepared.packet.SameHeader (queuedPacket readings prepared result) :=
  (compressedPacket_sameHeader prepared.packet result).trans ⟨rfl, rfl, rfl⟩

variable (optimizer : BandwidthOptimizer) (store : Store) (readings : ProcessReadings)
variable (ref : PacketRef) (prepared : Prepared) (result : CompressionResult)

/-- Whatever the scheduler answers, it stamps the packet and writes nothing else. -/
theorem scheduling_store :
    (optimizer.scheduling store readings ref prepared result).2.2 =
      store.set ref (queuedPacket readings prepared result) := by
  rw [scheduling]
  cases optimizer.engine with
  | plain scheduler =>
      simp only [Engine.enqueue, PriorityScheduler.enqueue, Scheduler.enqueue, Store.set_self,
        Store.set_set]
      rfl
  | pvm policy scheduler tracker =>
      simp only [Engine.enqueue, ValueScheduler.enqueue, Scheduler.enqueue, Store.set_self,
        Store.set_set]
      rfl

/-- `process` writes to its own packet only, and leaves its header as it was. -/
theorem process_store (rt : Runtime) :
    ∃ packet, (optimizer.process rt store readings ref).2.2 = store.set ref packet ∧
      (store ref).SameHeader packet := by
  have processes := optimizer.process_processes rt store readings ref
  generalize optimizer.process rt store readings ref = outcome at processes ⊢
  cases processes with
  | classifyRaised =>
      exact ⟨store ref, (Store.set_current store ref).symm, ⟨rfl, rfl, rfl⟩⟩
  | @filtered prepared prepares => exact ⟨_, rfl, (preparation_prepares prepares).header⟩
  | @compressRaised prepared _ prepares =>
      exact ⟨_, rfl, (preparation_prepares prepares).header⟩
  | @admitted prepared result prepares =>
      exact ⟨_, scheduling_store optimizer store readings ref prepared result,
        (preparation_prepares prepares).header.trans
          (queuedPacket_sameHeader readings prepared result)⟩

variable {optimizer store readings ref prepared} in
/-- Whatever happens to a prepared packet, it keeps its class. -/
theorem process_priority {rt : Runtime}
    (prepares : optimizer.preparation rt store readings ref = .ok prepared) :
    ((optimizer.process rt store readings ref).2.2 ref).priority = prepared.packet.priority := by
  have processes := optimizer.process_processes rt store readings ref
  generalize optimizer.process rt store readings ref = outcome at processes ⊢
  cases processes with
  | classifyRaised raises =>
      rw [prepares] at raises
      cases raises
  | filtered same =>
      cases prepares.symm.trans same
      exact congrArg Packet.priority (Store.set_self store ref prepared.packet)
  | compressRaised same =>
      cases prepares.symm.trans same
      exact congrArg Packet.priority (Store.set_self store ref prepared.packet)
  | admitted same =>
      cases prepares.symm.trans same
      rw [scheduling_store, Store.set_self, queuedPacket_priority]

variable {optimizer store readings ref} in
/-- A classification that raises ends the call and leaves the packet alone. -/
theorem process_of_raised {rt : Runtime} {raised : PyError}
    (raises : optimizer.preparation rt store readings ref = .error raised) :
    (optimizer.process rt store readings ref).1 = .error raised ∧
      (optimizer.process rt store readings ref).2.2 = store := by
  have processes := optimizer.process_processes rt store readings ref
  generalize optimizer.process rt store readings ref = outcome at processes ⊢
  cases processes with
  | classifyRaised same =>
      cases raises.symm.trans same
      exact ⟨rfl, rfl⟩
  | filtered prepares =>
      rw [raises] at prepares
      cases prepares
  | compressRaised prepares =>
      rw [raises] at prepares
      cases prepares
  | admitted prepares =>
      rw [raises] at prepares
      cases prepares

theorem scheduling_plain {scheduler : PriorityScheduler}
    (engineEq : optimizer.engine = .plain scheduler) :
    let packet := queuedPacket readings prepared result
    let inserted := scheduler.draw.insertEntry packet.effectivePriority
      (scheduler.arriving PriorityScheduler.key packet ref)
    optimizer.scheduling store readings ref prepared result =
      (inserted.1, .plain inserted.2, store.set ref packet) := by
  simp only [scheduling, engineEq, Engine.enqueue, PriorityScheduler.enqueue,
    Scheduler.enqueue, Store.set_self, Store.set_set]
  rfl

theorem scheduling_pvm {policy : FlowValuePolicy} {scheduler : ValueScheduler}
    {tracker : ValueLossTracker} (engineEq : optimizer.engine = .pvm policy scheduler tracker) :
    let packet := queuedPacket readings prepared result
    let inserted := scheduler.draw.insertEntry packet.effectivePriority
      (scheduler.arriving ValueScheduler.key packet ref)
    optimizer.scheduling store readings ref prepared result =
      (inserted.1, .pvm policy inserted.2 tracker, store.set ref packet) := by
  simp only [scheduling, engineEq, Engine.enqueue, ValueScheduler.enqueue,
    Scheduler.enqueue, Store.set_self, Store.set_set]
  rfl

end BandwidthOptimizer

/-! ## Calls that forward -/

/-- `process` and `dequeue`, the calls of a forwarding loop. -/
def OptimizerCall.forwards : OptimizerCall → Bool
  | .process _ _ | .dequeue => true
  | .drain | .drainNext | .resetStats => false

/-- The packets processed by a list of calls, in order. -/
def processedRefs (calls : List OptimizerCall) : List PacketRef :=
  calls.filterMap fun
    | .process ref _ => some ref
    | .dequeue | .drain | .drainNext | .resetStats => none

@[simp] theorem processedRefs_process (ref : PacketRef) (readings : ProcessReadings)
    (calls : List OptimizerCall) :
    processedRefs (.process ref readings :: calls) = ref :: processedRefs calls := rfl

/-! ## What never changes -/

/-- The packets queued in the engine. -/
def Engine.queued : Engine → List PacketRef
  | .plain scheduler => scheduler.heap.map QueueEntry.packet
  | .pvm _ scheduler _ => scheduler.heap.map QueueEntry.packet

namespace Engine

/-- The limit of the engine's scheduler. -/
def maxSize : Engine → Nat
  | .plain scheduler => scheduler.maxSize
  | .pvm _ scheduler _ => scheduler.maxSize

theorem eq_plain {engine : Engine} (noPolicy : engine.flowValuePolicy = none) :
    ∃ scheduler, engine = .plain scheduler := by
  cases engine with
  | plain scheduler => exact ⟨scheduler, rfl⟩
  | pvm values scheduler tracker => cases noPolicy

theorem enqueue_kept (engine : Engine) (store : Store) (now : ℚ) (ref : PacketRef) :
    (engine.enqueue store now ref).2.1.maxSize = engine.maxSize ∧
      (engine.enqueue store now ref).2.1.flowValuePolicy = engine.flowValuePolicy := by
  cases engine with
  | plain scheduler => exact ⟨Scheduler.insertEntry_maxSize _ _ _, rfl⟩
  | pvm policy scheduler tracker => exact ⟨Scheduler.insertEntry_maxSize _ _ _, rfl⟩

theorem dequeue_kept (engine : Engine) (store : Store) :
    (engine.dequeue store).2.maxSize = engine.maxSize ∧
      (engine.dequeue store).2.flowValuePolicy = engine.flowValuePolicy := by
  cases engine with
  | plain scheduler => exact ⟨Scheduler.dequeue_maxSize _ _, rfl⟩
  | pvm policy scheduler tracker => exact ⟨Scheduler.dequeue_maxSize _ _, rfl⟩

theorem drain_kept (engine : Engine) (store : Store) :
    (engine.drain store).2.maxSize = engine.maxSize ∧
      (engine.drain store).2.flowValuePolicy = engine.flowValuePolicy := by
  cases engine with
  | plain scheduler => exact ⟨Scheduler.drainLoop_maxSize _ _ _, rfl⟩
  | pvm policy scheduler tracker => exact ⟨Scheduler.drainLoop_maxSize _ _ _, rfl⟩

theorem resetStats_kept (engine : Engine) :
    engine.resetStats.maxSize = engine.maxSize ∧
      engine.resetStats.flowValuePolicy = engine.flowValuePolicy := by
  cases engine <;> exact ⟨rfl, rfl⟩

theorem recordDropped_kept (engine : Engine) (value now : ℚ) :
    (engine.recordDropped value now).maxSize = engine.maxSize ∧
      (engine.recordDropped value now).flowValuePolicy = engine.flowValuePolicy := by
  cases engine <;> exact ⟨rfl, rfl⟩

theorem recordDelivered_kept (engine : Engine) (value now : ℚ) :
    (engine.recordDelivered value now).maxSize = engine.maxSize ∧
      (engine.recordDelivered value now).flowValuePolicy = engine.flowValuePolicy := by
  cases engine <;> exact ⟨rfl, rfl⟩

end Engine

namespace BandwidthOptimizer

/-- The optimizer runs under a configuration and a policy. -/
structure Configured (config : OptimizerConfig) (policy : Option FlowValuePolicy)
    (optimizer : BandwidthOptimizer) : Prop where
  configEq : optimizer.config = config
  filterEq : optimizer.packetFilter.config = config
  policyEq : optimizer.engine.flowValuePolicy = policy
  limitEq : optimizer.engine.maxSize = (max 1 config.maxQueueSize).toNat

variable {config : OptimizerConfig} {policy : Option FlowValuePolicy}
variable {optimizer : BandwidthOptimizer}

/-- Without a policy the queue is sorted by class. -/
theorem Configured.plain (configured : optimizer.Configured config none) :
    ∃ scheduler, optimizer.engine = .plain scheduler :=
  Engine.eq_plain configured.policyEq

/-- With a policy the queue is sorted by value. -/
theorem Configured.pvm {values : FlowValuePolicy}
    (configured : optimizer.Configured config (some values)) :
    ∃ scheduler tracker, optimizer.engine = .pvm values scheduler tracker := by
  have policyEq := configured.policyEq
  cases engineEq : optimizer.engine with
  | plain scheduler =>
      rw [engineEq] at policyEq
      cases policyEq
  | pvm other scheduler tracker =>
      rw [engineEq] at policyEq
      cases policyEq
      exact ⟨scheduler, tracker, rfl⟩

theorem Configured.positive (configured : optimizer.Configured config policy) :
    0 < optimizer.engine.maxSize := by
  rw [configured.limitEq]
  exact Int.lt_toNat.mpr (lt_of_lt_of_le one_pos (le_max_left _ _))

/-- What construction yields, unless a bucket raises. -/
theorem init_eq_ok {clock : TrafficPriority → ℚ}
    (constructed : init config policy clock = .ok optimizer) :
    ∃ packetFilter, PacketFilter.init config clock = .ok packetFilter ∧
      optimizer =
        { config := config
          classifier := {}
          engine := Engine.init config.maxQueueSize policy
          packetFilter := packetFilter
          flowTracker := {}
          totalIn := 0
          totalDropped := 0
          totalBytesSaved := 0 } := by
  rw [init] at constructed
  cases filtered : PacketFilter.init config clock with
  | error raised =>
      rw [filtered] at constructed
      cases constructed
  | ok packetFilter =>
      rw [filtered] at constructed
      cases constructed
      exact ⟨packetFilter, rfl, rfl⟩

/-- A constructed optimizer starts with an empty engine of its mode. -/
theorem init_engine {clock : TrafficPriority → ℚ}
    (constructed : init config policy clock = .ok optimizer) :
    optimizer.engine = Engine.init config.maxQueueSize policy := by
  obtain ⟨packetFilter, _, rfl⟩ := init_eq_ok constructed
  rfl

theorem init_configured {clock : TrafficPriority → ℚ}
    (constructed : init config policy clock = .ok optimizer) :
    optimizer.Configured config policy := by
  obtain ⟨packetFilter, filtered, rfl⟩ := init_eq_ok constructed
  have filterEq := (PacketFilter.init_eq_ok filtered).1
  cases policy with
  | none => exact ⟨rfl, filterEq, rfl, rfl⟩
  | some values => exact ⟨rfl, filterEq, rfl, rfl⟩

/-- An optimizer constructs whenever its buckets do. -/
theorem init_constructs (policy : Option FlowValuePolicy)
    (multiplier : 0 < config.tokenBucketCapacityMultiplier) (clock : TrafficPriority → ℚ) :
    ∃ fresh, init config policy clock = .ok fresh := by
  obtain ⟨packetFilter, built⟩ := PacketFilter.init_constructs multiplier clock
  rw [init, built]
  exact ⟨_, rfl⟩

/-- A step that leaves the configuration, the policy and the limit alone. -/
theorem Configured.of_kept (configured : optimizer.Configured config policy)
    {next : BandwidthOptimizer} (configKept : next.config = optimizer.config)
    (filterKept : next.packetFilter.config = optimizer.packetFilter.config)
    (engineKept : next.engine.maxSize = optimizer.engine.maxSize ∧
      next.engine.flowValuePolicy = optimizer.engine.flowValuePolicy) :
    next.Configured config policy where
  configEq := configKept.trans configured.configEq
  filterEq := filterKept.trans configured.filterEq
  policyEq := engineKept.2.trans configured.policyEq
  limitEq := engineKept.1.trans configured.limitEq

theorem dequeue_configured (configured : optimizer.Configured config policy) (store : Store) :
    (optimizer.dequeue store).2.Configured config policy :=
  configured.of_kept rfl rfl (optimizer.engine.dequeue_kept store)

theorem process_configured (configured : optimizer.Configured config policy) (rt : Runtime)
    (store : Store) (readings : ProcessReadings) (ref : PacketRef) :
    (optimizer.process rt store readings ref).2.1.Configured config policy := by
  have filterKept (prepared : Prepared) :
      (optimizer.filtering readings prepared).2.config = optimizer.packetFilter.config :=
    PacketFilter.shouldDrop_config _ _ _ _ _
  have processes := optimizer.process_processes rt store readings ref
  generalize optimizer.process rt store readings ref = outcome at processes ⊢
  cases processes with
  | classifyRaised => exact configured.of_kept rfl rfl ⟨rfl, rfl⟩
  | @filtered prepared =>
      have recorded := optimizer.engine.recordDropped_kept prepared.packet.valueCoefficient
        readings.record
      exact configured.of_kept rfl (filterKept prepared) recorded
  | @compressRaised prepared =>
      exact configured.of_kept rfl (filterKept prepared) ⟨rfl, rfl⟩
  | @admitted prepared result =>
      have enqueued := optimizer.engine.enqueue_kept
        (store.set ref (compressedPacket prepared.packet result)) readings.arrival ref
      have recorded :=
        (optimizer.scheduling store readings ref prepared result).2.1.recordDelivered_kept
          (compressedPacket prepared.packet result).valueCoefficient readings.record
      exact configured.of_kept rfl (filterKept prepared)
        ⟨recorded.1.trans enqueued.1, recorded.2.trans enqueued.2⟩

/-- Every call, raising or not, keeps the configuration, the policy and the limit. -/
theorem call_configured {state : BandwidthOptimizer × Store}
    (configured : state.1.Configured config policy) (rt : Runtime) (call : OptimizerCall) :
    (BandwidthOptimizer.call rt state call).2.1.Configured config policy := by
  cases call with
  | process ref readings => exact process_configured configured rt state.2 readings ref
  | dequeue => exact dequeue_configured configured state.2
  | drain => exact configured.of_kept rfl rfl (state.1.engine.drain_kept state.2)
  | drainNext =>
      simp only [BandwidthOptimizer.call]
      split
      next => exact configured
      next => exact dequeue_configured configured state.2
  | resetStats => exact configured.of_kept rfl rfl state.1.engine.resetStats_kept

/-- The filter passes a non-critical packet only below the upper RED threshold. -/
theorem filtering_below_threshold (configured : optimizer.Configured config policy)
    (capacity : 1 ≤ config.maxQueueSize)
    (ordered : config.redMinThreshold ≤ config.redMaxThreshold)
    {readings : ProcessReadings} {prepared : Prepared}
    (passes : (optimizer.filtering readings prepared).1.drop = false)
    (ordinary : prepared.packet.effectivePriority ≠ .critical) :
    (optimizer.engine.length : ℚ) < config.redMaxThreshold * config.maxQueueSize := by
  have size : (0 : ℚ) < config.maxQueueSize := by exact_mod_cast capacity
  have decides := optimizer.packetFilter.shouldDrop_decides prepared.packet
    (some optimizer.engine.length) readings.refill readings.draw
  rw [filtering] at passes
  generalize optimizer.packetFilter.shouldDrop prepared.packet
    (some optimizer.engine.length) readings.refill readings.draw = outcome at passes decides
  cases decides with
  | limited => cases passes
  | early => cases passes
  | passed allowed =>
      have late := (allowed ordinary).2
      rw [configured.filterEq] at late
      by_contra full
      have filled : config.redMaxThreshold ≤ optimizer.engine.length / config.maxQueueSize :=
        (le_div_iff₀ size).mpr (not_lt.mp full)
      rw [PacketFilter.redCheck_full capacity ordered filled] at late
      cases late

/-- Where the upper threshold is at most one, such a packet finds room. -/
theorem filtering_finds_room (configured : optimizer.Configured config policy)
    (capacity : 1 ≤ config.maxQueueSize)
    (ordered : config.redMinThreshold ≤ config.redMaxThreshold)
    (bounded : config.redMaxThreshold ≤ 1) {readings : ProcessReadings} {prepared : Prepared}
    (passes : (optimizer.filtering readings prepared).1.drop = false)
    (ordinary : prepared.packet.effectivePriority ≠ .critical) :
    optimizer.engine.length < optimizer.engine.maxSize := by
  have below := filtering_below_threshold configured capacity ordered passes ordinary
  have size : (0 : ℚ) ≤ config.maxQueueSize := by exact_mod_cast one_pos.le.trans capacity
  have room : (optimizer.engine.length : ℚ) < config.maxQueueSize :=
    below.trans_le (mul_le_of_le_one_left size bounded)
  have counted : (optimizer.engine.length : Int) < config.maxQueueSize := by exact_mod_cast room
  rw [configured.limitEq, max_eq_right capacity]
  exact Int.lt_toNat.mpr counted

theorem run_configured {state : BandwidthOptimizer × Store}
    (configured : state.1.Configured config policy) (rt : Runtime)
    (calls : List OptimizerCall) :
    (Machine.run (BandwidthOptimizer.call rt) state calls).2.1.Configured config policy := by
  have kept : ∀ (current : BandwidthOptimizer × Store) (call : OptimizerCall),
      current.1.Configured config policy →
      (BandwidthOptimizer.call rt current call).2.1.Configured config policy :=
    fun _ call before => call_configured before rt call
  exact Machine.run_invariant kept configured calls

end BandwidthOptimizer

/-! ## Small instances -/

/-- The default configuration without a policy constructs. -/
theorem BandwidthOptimizer.default_constructs :
    ∃ fresh, BandwidthOptimizer.init {} none (fun _ => 0) = .ok fresh := by
  apply BandwidthOptimizer.init_constructs
  decide +kernel

/-- A queue of one packet. -/
def singleSlot : OptimizerConfig where
  maxQueueSize := 1

/-- A policy that values port 5060 ten times as much as the rest. -/
def callsFirst : FlowValuePolicy :=
  FlowValuePolicy.init
    [{ name := "calls", priority := .critical, ports := [5060], valueCoefficient := 10 }] 1

/-- The queue of one packet constructs under that policy. -/
theorem BandwidthOptimizer.singleSlot_constructs :
    ∃ fresh, BandwidthOptimizer.init singleSlot (some callsFirst) (fun _ => 0) = .ok fresh := by
  apply BandwidthOptimizer.init_constructs
  decide +kernel

/-- Packet 0 is a call and packet 1 is not; both are critical. -/
def criticalPackets : Store := fun ref =>
  { priority := some .critical, dstPort := if ref = 0 then 5060 else 0 }

end SmartBandwidth
