import SmartBandwidth.Queue.Scheduler
import SmartBandwidth.Filter.PacketFilter
import SmartBandwidth.Flow.FlowTracker
import SmartBandwidth.Pipeline.Compressor
import SmartBandwidth.Value.FlowValuePolicy
import SmartBandwidth.Value.ValueLossTracker

/-!
# The optimizer

`process` takes a packet through flow tracking, classification, filtering, compression
and scheduling.  With a flow value policy the queue is sorted by value and the value
tracker keeps books; without one it is sorted by class.  A call that raises keeps what
it had changed until then.
-/

namespace SmartBandwidth

/-! ## The scheduling engine -/

/-- The parts of the optimizer that are chosen by whether a flow value policy is
supplied, so that a policy, a value scheduler and a value tracker always come
together. -/
inductive Engine where
  | plain (scheduler : PriorityScheduler)
  | pvm (policy : FlowValuePolicy) (scheduler : ValueScheduler) (tracker : ValueLossTracker)

namespace Engine

/-- The branch of `__init__` on the flow value policy. -/
def init (maxQueueSize : Int) : Option FlowValuePolicy → Engine
  | none => .plain (Scheduler.init maxQueueSize)
  | some policy => .pvm policy (Scheduler.init maxQueueSize) (ValueLossTracker.init)

/-- `_flow_value_policy`. -/
def flowValuePolicy : Engine → Option FlowValuePolicy
  | .plain _ => none
  | .pvm policy _ _ => some policy

/-- `_value_tracker`. -/
def valueTracker : Engine → Option ValueLossTracker
  | .plain _ => none
  | .pvm _ _ tracker => some tracker

/-- `len(self._scheduler)`. -/
def length : Engine → Nat
  | .plain scheduler => scheduler.length
  | .pvm _ scheduler _ => scheduler.length

/-- `self._scheduler.enqueue(packet)`. -/
def enqueue (engine : Engine) (store : Store) (now : ℚ) (ref : PacketRef) :
    Bool × Engine × Store :=
  match engine with
  | .plain scheduler =>
      let (accepted, scheduler, store) := PriorityScheduler.enqueue scheduler store now ref
      (accepted, .plain scheduler, store)
  | .pvm policy scheduler tracker =>
      let (accepted, scheduler, store) := ValueScheduler.enqueue scheduler store now ref
      (accepted, .pvm policy scheduler tracker, store)

/-- `self._scheduler.dequeue()`. -/
def dequeue (engine : Engine) (store : Store) : Option PacketRef × Engine :=
  match engine with
  | .plain scheduler =>
      let (ref, scheduler) := scheduler.dequeue store
      (ref, .plain scheduler)
  | .pvm policy scheduler tracker =>
      let (ref, scheduler) := scheduler.dequeue store
      (ref, .pvm policy scheduler tracker)

/-- `self._scheduler.drain()`, run to exhaustion. -/
def drain (engine : Engine) (store : Store) : List PacketRef × Engine :=
  match engine with
  | .plain scheduler =>
      let (refs, scheduler) := scheduler.drain store
      (refs, .plain scheduler)
  | .pvm policy scheduler tracker =>
      let (refs, scheduler) := scheduler.drain store
      (refs, .pvm policy scheduler tracker)

/-- `self._scheduler.stats()`. -/
def stats : Engine → SchedulerStats
  | .plain scheduler => scheduler.stats
  | .pvm _ scheduler _ => scheduler.stats

/-- The scheduler's and the value tracker's part of `reset_stats`. -/
def resetStats : Engine → Engine
  | .plain scheduler => .plain scheduler.resetStats
  | .pvm policy scheduler tracker => .pvm policy scheduler.resetStats tracker.reset

/-- `record_dropped` on the value tracker, if there is one. -/
def recordDropped (engine : Engine) (value now : ℚ) : Engine :=
  match engine with
  | .plain scheduler => .plain scheduler
  | .pvm policy scheduler tracker => .pvm policy scheduler (tracker.recordDropped value now)

/-- `record_delivered` on the value tracker, if there is one. -/
def recordDelivered (engine : Engine) (value now : ℚ) : Engine :=
  match engine with
  | .plain scheduler => .plain scheduler
  | .pvm policy scheduler tracker => .pvm policy scheduler (tracker.recordDelivered value now)

end Engine

/-! ## The pipeline -/

/-- Outcome of `process`. -/
structure ProcessResult where
  packet : PacketRef
  dropped : Bool
  dropReason : String := ""
  compressed : Bool := false
  originalPayloadSize : Nat := 0
  compressedPayloadSize : Nat := 0
  flowRecord : Option FlowRecord := none
  deriving DecidableEq, Repr

/-- `bytes_saved`. -/
def ProcessResult.bytesSaved (result : ProcessResult) : Nat :=
  result.originalPayloadSize - result.compressedPayloadSize

/-- The clock readings and the random draw of one `process` call. -/
structure ProcessReadings where
  flow : FlowReadings
  refill : ℚ
  draw : ℚ
  arrival : ℚ
  record : ℚ

/-- Readings of a clock that stands still during the call. -/
def ProcessReadings.frozen (now draw : ℚ) : ProcessReadings where
  flow :=
    { expire := now, idle := fun _ => now, firstSeen := now, lastSeen := now, update := now }
  refill := now
  draw := draw
  arrival := now
  record := now

/-- The optimizer and its running totals. -/
structure BandwidthOptimizer where
  config : OptimizerConfig
  classifier : TrafficClassifier
  engine : Engine
  packetFilter : PacketFilter
  flowTracker : FlowTracker
  totalIn : Nat
  totalDropped : Nat
  totalBytesSaved : Nat

/-- What the stages before the filter make of a packet. -/
structure Prepared where
  packet : Packet
  record : FlowRecord
  flowTracker : FlowTracker

namespace BandwidthOptimizer

/-- `__init__`, with the clock readings of the token buckets; a bucket of no capacity
raises. -/
def init (config : OptimizerConfig) (policy : Option FlowValuePolicy)
    (clock : TrafficPriority → ℚ) : Except PyError BandwidthOptimizer :=
  match PacketFilter.init config clock with
  | .error raised => .error raised
  | .ok packetFilter => .ok {
      config := config
      classifier := {}
      engine := Engine.init config.maxQueueSize policy
      packetFilter := packetFilter
      flowTracker := {}
      totalIn := 0
      totalDropped := 0
      totalBytesSaved := 0 }

/-- Stage 1: classify a packet that has no class yet. -/
def classifyStage (rt : Runtime) (classifier : TrafficClassifier) (packet : Packet) :
    Except PyError Packet :=
  match packet.priority with
  | some _ => .ok packet
  | none =>
      match classifier.classify rt packet with
      | .error raised => .error raised
      | .ok priority => .ok { packet with priority := some priority }

/-- Stage 1b: move the class by the flow's behaviour. -/
def hintStage (tracker : FlowTracker) (record : FlowRecord) (packet : Packet) : Packet :=
  match packet.priority with
  | none => packet
  | some priority => { packet with priority := some (tracker.priorityHint priority record) }

/-- Stage 1c: with a policy, assign the value coefficient to the packet and its flow. -/
def valueStage (rt : Runtime) (policy : Option FlowValuePolicy) (key : FlowKey)
    (prepared : Prepared) : Prepared :=
  match policy with
  | none => prepared
  | some policy =>
      let (packet, coefficient) := policy.assign rt prepared.packet
      let record := { prepared.record with valueCoefficient := coefficient }
      { packet := packet
        record := record
        flowTracker := prepared.flowTracker.writeBack record key }

/-- Stages 0 to 1c on a packet whose flow record is `tracked`. -/
def prepare (rt : Runtime) (optimizer : BandwidthOptimizer)
    (tracked : FlowRecord × FlowTracker) (packet : Packet) : Except PyError Prepared :=
  match classifyStage rt optimizer.classifier packet with
  | .error raised => .error raised
  | .ok classified => .ok (valueStage rt optimizer.engine.flowValuePolicy
      (FlowKey.fromPacket rt packet)
      { packet := hintStage tracked.2 tracked.1 classified
        record := tracked.1
        flowTracker := tracked.2 })

/-- The payload and the size of a packet after a compression result. -/
def compressedPacket (packet : Packet) (result : CompressionResult) : Packet :=
  if result.wasCompressed then
    { packet with
      payload := result.data
      sizeBytes := packet.sizeBytes - packet.payload.length + result.data.length }
  else
    packet

/-- Stages 3 and 4 on an admitted packet: compress, enqueue, and count as delivered. -/
def deliver (rt : Runtime) (optimizer : BandwidthOptimizer) (store : Store)
    (readings : ProcessReadings) (ref : PacketRef) (record : FlowRecord) :
    Except PyError ProcessResult × BandwidthOptimizer × Store :=
  let packet := store ref
  match PayloadCompressor.compress rt optimizer.config packet.payload with
  | .error raised => (.error raised, optimizer, store)
  | .ok result =>
      let compressed := compressedPacket packet result
      let saved := if result.wasCompressed then result.spaceSavedBytes else 0
      let (_, engine, store) :=
        optimizer.engine.enqueue (store.set ref compressed) readings.arrival ref
      let engine := engine.recordDelivered compressed.valueCoefficient readings.record
      (.ok {
          packet := ref
          dropped := false
          compressed := result.wasCompressed
          originalPayloadSize := packet.payload.length
          compressedPayloadSize := compressed.payload.length
          flowRecord := some record },
        { optimizer with
          engine := engine
          totalBytesSaved := optimizer.totalBytesSaved + saved },
        store)

/-- Stage 2 and what follows on a prepared packet. -/
def filterStage (rt : Runtime) (optimizer : BandwidthOptimizer) (store : Store)
    (readings : ProcessReadings) (ref : PacketRef) (record : FlowRecord) :
    Except PyError ProcessResult × BandwidthOptimizer × Store :=
  let packet := store ref
  let (decision, packetFilter) := optimizer.packetFilter.shouldDrop packet
    (some optimizer.engine.length) readings.refill readings.draw
  let optimizer := { optimizer with packetFilter := packetFilter }
  if decision.drop then
    (.ok {
        packet := ref
        dropped := true
        dropReason := decision.reason
        flowRecord := some record },
      { optimizer with
        engine := optimizer.engine.recordDropped packet.valueCoefficient readings.record
        totalDropped := optimizer.totalDropped + 1 },
      store)
  else
    optimizer.deliver rt store readings ref record

/-- `process`. -/
def process (rt : Runtime) (optimizer : BandwidthOptimizer) (store : Store)
    (readings : ProcessReadings) (ref : PacketRef) :
    Except PyError ProcessResult × BandwidthOptimizer × Store :=
  let tracked := optimizer.flowTracker.update rt (store ref) readings.flow
  let optimizer := { optimizer with
    totalIn := optimizer.totalIn + 1
    flowTracker := tracked.2 }
  match optimizer.prepare rt tracked (store ref) with
  | .error raised => (.error raised, optimizer, store)
  | .ok prepared =>
      filterStage rt { optimizer with flowTracker := prepared.flowTracker }
        (store.set ref prepared.packet) readings ref prepared.record

/-- `dequeue`. -/
def dequeue (optimizer : BandwidthOptimizer) (store : Store) :
    Option PacketRef × BandwidthOptimizer :=
  let (ref, engine) := optimizer.engine.dequeue store
  (ref, { optimizer with engine := engine })

/-- `drain`, run to exhaustion. -/
def drain (optimizer : BandwidthOptimizer) (store : Store) :
    List PacketRef × BandwidthOptimizer :=
  let (refs, engine) := optimizer.engine.drain store
  (refs, { optimizer with engine := engine })

/-- `queue_size`. -/
def queueSize (optimizer : BandwidthOptimizer) : Nat := optimizer.engine.length

/-- `reset_stats`. -/
def resetStats (optimizer : BandwidthOptimizer) : BandwidthOptimizer :=
  { optimizer with
    totalIn := 0
    totalDropped := 0
    totalBytesSaved := 0
    packetFilter := optimizer.packetFilter.resetDropCounts
    engine := optimizer.engine.resetStats }

end BandwidthOptimizer

/-- The dictionary `stats()` returns; `drops_by_priority` is keyed by class. -/
structure OptimizerStats where
  mode : String
  totalBandwidthBps : Int
  packetsReceived : Nat
  packetsDropped : Nat
  dropRate : ℚ
  bytesSavedCompression : Nat
  queue : SchedulerStats
  dropsByPriority : TrafficPriority → Nat
  activeFlows : Nat
  value : Option ValueStats

/-- `stats`, with the clock readings of the value metrics. -/
def BandwidthOptimizer.stats (optimizer : BandwidthOptimizer) (clock : Nat → ℚ) :
    OptimizerStats where
  mode := optimizer.config.mode.value
  totalBandwidthBps := optimizer.config.totalBandwidthBps
  packetsReceived := optimizer.totalIn
  packetsDropped := optimizer.totalDropped
  dropRate := if optimizer.totalIn = 0 then 0 else optimizer.totalDropped / optimizer.totalIn
  bytesSavedCompression := optimizer.totalBytesSaved
  queue := optimizer.engine.stats
  dropsByPriority := optimizer.packetFilter.dropCounts
  activeFlows := optimizer.flowTracker.flowCount
  value := optimizer.engine.valueTracker.map fun tracker => tracker.toDict clock

/-! ## Calls -/

/-- Calls on an optimizer.  `drainNext` is one `next()` on a `drain()` generator. -/
inductive OptimizerCall where
  | process (ref : PacketRef) (readings : ProcessReadings)
  | dequeue
  | drain
  | drainNext
  | resetStats

/-- Return values of optimizer calls. -/
inductive OptimizerReply where
  | processed (result : Except PyError ProcessResult)
  | packet (ref : Option PacketRef)
  | packets (refs : List PacketRef)
  | done

/-- A reply that reports an exception. -/
def OptimizerReply.raised : OptimizerReply → Bool
  | .processed (.error _) => true
  | .processed (.ok _) | .packet _ | .packets _ | .done => false

/-- One call on an optimizer whose packets live in a store. -/
def BandwidthOptimizer.call (rt : Runtime) (state : BandwidthOptimizer × Store) :
    OptimizerCall → OptimizerReply × (BandwidthOptimizer × Store)
  | .process ref readings =>
      let (result, optimizer, store) := state.1.process rt state.2 readings ref
      (.processed result, (optimizer, store))
  | .dequeue =>
      let (ref, optimizer) := state.1.dequeue state.2
      (.packet ref, (optimizer, state.2))
  | .drain =>
      let (refs, optimizer) := state.1.drain state.2
      (.packets refs, (optimizer, state.2))
  | .drainNext =>
      if state.1.queueSize = 0 then
        (.packet none, state)
      else
        let (ref, optimizer) := state.1.dequeue state.2
        (.packet ref, (optimizer, state.2))
  | .resetStats => (.done, (state.1.resetStats, state.2))

end SmartBandwidth
