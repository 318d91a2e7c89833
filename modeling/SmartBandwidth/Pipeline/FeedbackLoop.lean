import SmartBandwidth.Pipeline.Shaping
import SmartBandwidth.Value.Operator

/-!
# The feedback loop

While packets go through the optimizer, a tuner and an operator change the coefficients of its value
policy.  Whatever they do, they change the order of the queue, which packets a full queue discards
and the value metrics, and nothing else.
-/

namespace SmartBandwidth

/-- An optimizer, its packets, and the tuner of its value policy. -/
structure FeedbackLoop where
  optimizer : BandwidthOptimizer
  store : Store
  tuner : ValueCoefficientTuner

/-- Calls of the forwarding threads, and of the operator and the monitoring loop. -/
inductive LoopCall where
  | forward (call : OptimizerCall)
  | control (call : CoefficientCall)

/-- The call on the optimizer, if it is one. -/
def LoopCall.forwarded : LoopCall → Option OptimizerCall
  | .forward call => some call
  | .control _ => none

namespace FeedbackLoop

/-- A call on the policy object that the optimizer and the tuner share; without one there is nothing
to control. -/
def control (loop : FeedbackLoop) (call : CoefficientCall) : FeedbackLoop :=
  match loop.optimizer.engine with
  | .plain _ => loop
  | .pvm policy scheduler tracker =>
      let (tuner, policy) := (ValueCoefficientTuner.operate (loop.tuner, policy) call).2
      { loop with
        tuner := tuner
        optimizer := { loop.optimizer with engine := .pvm policy scheduler tracker } }

/-- One call in the loop; those on the optimizer answer. -/
def call (rt : Runtime) (loop : FeedbackLoop) : LoopCall → Option OptimizerReply × FeedbackLoop
  | .forward call =>
      let (reply, optimizer, store) :=
        BandwidthOptimizer.call rt (loop.optimizer, loop.store) call
      (some reply, { loop with optimizer := optimizer, store := store })
  | .control call => (none, loop.control call)

/-- The shaper of the loop. -/
def shaped (loop : FeedbackLoop) : Shaper × Store :=
  BandwidthOptimizer.shaped (loop.optimizer, loop.store)

/-- The optimizer runs under a configuration and some policy. -/
def Configured (config : OptimizerConfig) (loop : FeedbackLoop) : Prop :=
  ∃ policy, loop.optimizer.Configured config policy

theorem control_shaped (loop : FeedbackLoop) (call : CoefficientCall) :
    (loop.control call).shaped = loop.shaped := by
  obtain ⟨optimizer, store, tuner⟩ := loop
  obtain ⟨_, _, engine, _, _, _, _, _⟩ := optimizer
  cases engine <;> rfl

section Loop

variable {config : OptimizerConfig} {loop : FeedbackLoop}

theorem control_configured (configured : loop.Configured config) (call : CoefficientCall) :
    (loop.control call).Configured config := by
  obtain ⟨policy, configured⟩ := configured
  obtain ⟨optimizer, store, tuner⟩ := loop
  obtain ⟨_, _, engine, _, _, _, _, _⟩ := optimizer
  cases engine with
  | plain => exact ⟨policy, configured⟩
  | pvm => exact ⟨_, configured.configEq, configured.filterEq, rfl, configured.limitEq⟩

/-- Controls are invisible to the shaper, and every other call is its own. -/
theorem run_shaped (rt : Runtime) (configured : loop.Configured config) (calls : List LoopCall) :
    let final := Machine.run (call rt) loop calls
    let shaper := Machine.run (Shaper.call rt) loop.shaped (calls.filterMap LoopCall.forwarded)
    final.1.filterMap (Option.map OptimizerReply.shape) = shaper.1 ∧ final.2.shaped = shaper.2 := by
  intro final shaper
  have silent (loop : FeedbackLoop) (shaper : Shaper × Store) (input : LoopCall)
      (_ : input ∈ calls) (shapes : loop.Configured config ∧ loop.shaped = shaper)
      (hidden : input.forwarded = none) :
      (call rt loop input).1.map OptimizerReply.shape = none ∧
        (call rt loop input).2.Configured config ∧ (call rt loop input).2.shaped = shaper := by
    cases input with
    | forward => cases hidden
    | control input =>
        exact ⟨rfl, control_configured shapes.1 input,
          (control_shaped loop input).trans shapes.2⟩
  have follows (loop : FeedbackLoop) (shaper : Shaper × Store) (input : LoopCall)
      (visible : OptimizerCall) (_ : input ∈ calls)
      (shapes : loop.Configured config ∧ loop.shaped = shaper)
      (forwards : input.forwarded = some visible) :
      (call rt loop input).1.map OptimizerReply.shape = some (Shaper.call rt shaper visible).1 ∧
        (call rt loop input).2.Configured config ∧
        (call rt loop input).2.shaped = (Shaper.call rt shaper visible).2 := by
    obtain ⟨⟨policy, configured⟩, rfl⟩ := shapes
    cases input with
    | control => cases forwards
    | forward =>
        cases forwards
        rw [shaped, BandwidthOptimizer.call_shape rt _ configured.positive visible]
        exact ⟨rfl, ⟨policy, BandwidthOptimizer.call_configured configured rt visible⟩, rfl⟩
  have simulates := Machine.run_stuttering
    (fun (loop : FeedbackLoop) shaper => loop.Configured config ∧ loop.shaped = shaper)
    LoopCall.forwarded (Option.map OptimizerReply.shape) id silent follows ⟨configured, rfl⟩
  rw [List.map_id] at simulates
  exact ⟨simulates.1, simulates.2.2⟩

end Loop

end FeedbackLoop

/-! ## What values cannot change -/

/-- What the statistics say of the traffic: everything but the value metrics and the classes of the
queued and served packets. -/
structure TrafficStats where
  mode : String
  totalBandwidthBps : Int
  packetsReceived : Nat
  packetsDropped : Nat
  dropRate : ℚ
  bytesSavedCompression : Nat
  dropsByPriority : TrafficPriority → Nat
  activeFlows : Nat
  currentQueueSize : Nat
  maxQueueSize : Nat
  fillRatio : ℚ
  droppedOverflow : Nat
  packetsServed : Nat

/-- The traffic of the statistics. -/
def OptimizerStats.traffic (stats : OptimizerStats) : TrafficStats where
  mode := stats.mode
  totalBandwidthBps := stats.totalBandwidthBps
  packetsReceived := stats.packetsReceived
  packetsDropped := stats.packetsDropped
  dropRate := stats.dropRate
  bytesSavedCompression := stats.bytesSavedCompression
  dropsByPriority := stats.dropsByPriority
  activeFlows := stats.activeFlows
  currentQueueSize := stats.queue.currentQueueSize
  maxQueueSize := stats.queue.maxQueueSize
  fillRatio := stats.queue.fillRatio
  droppedOverflow := stats.queue.droppedOverflow
  packetsServed := ∑ priority, stats.queue.dequeueCounts priority

/-- The traffic that a shaper has seen. -/
def Shaper.traffic (shaper : Shaper) : TrafficStats where
  mode := shaper.config.mode.value
  totalBandwidthBps := shaper.config.totalBandwidthBps
  packetsReceived := shaper.received
  packetsDropped := shaper.dropped
  dropRate := if shaper.received = 0 then 0 else shaper.dropped / shaper.received
  bytesSavedCompression := shaper.bytesSaved
  dropsByPriority := shaper.packetFilter.dropCounts
  activeFlows := shaper.flowTracker.flowCount
  currentQueueSize := shaper.load.queued
  maxQueueSize := shaper.load.limit
  fillRatio := shaper.load.queued / shaper.load.limit
  droppedOverflow := shaper.load.overflowed
  packetsServed := shaper.load.served

theorem BandwidthOptimizer.stats_traffic (optimizer : BandwidthOptimizer) (clock : Nat → ℚ) :
    (optimizer.stats clock).traffic = optimizer.shape.traffic := by
  have flows : optimizer.flowTracker.unvalued.flowCount = optimizer.flowTracker.flowCount :=
    Dict.size_map _ _
  obtain ⟨_, _, engine, _, _, _, _, _⟩ := optimizer
  rw [OptimizerStats.traffic, Shaper.traffic, shape, flows]
  cases engine <;> rfl

/-- Two fresh optimizers of one configuration have one shape, whatever their policies. -/
theorem BandwidthOptimizer.init_shape {config : OptimizerConfig} {clock : TrafficPriority → ℚ}
    {first second : Option FlowValuePolicy} {left right : BandwidthOptimizer}
    (leftBuilt : init config first clock = .ok left)
    (rightBuilt : init config second clock = .ok right) (classifier : TrafficClassifier) :
    shape { left with classifier := classifier } =
      shape { right with classifier := classifier } := by
  obtain ⟨leftFilter, leftFilters, rfl⟩ := init_eq_ok leftBuilt
  obtain ⟨rightFilter, rightFilters, rfl⟩ := init_eq_ok rightBuilt
  cases leftFilters.symm.trans rightFilters
  cases first with
  | none | some =>
      cases second with
      | none | some => rfl

/-- With any value policy or none, and whatever tuners and operators do to the policy meanwhile, the
same calls on a fresh optimizer get the same answers, values and the identity of served packets
apart: what is dropped and why, what is compressed, what raises, when the queue is empty.  The
statistics agree on all that they say of the traffic. -/
theorem values_only_order (rt : Runtime) (config : OptimizerConfig)
    (clock : TrafficPriority → ℚ) (first second : Option FlowValuePolicy)
    (left right : BandwidthOptimizer)
    (leftBuilt : BandwidthOptimizer.init config first clock = .ok left)
    (rightBuilt : BandwidthOptimizer.init config second clock = .ok right)
    (classifier : TrafficClassifier) (store : Store)
    (leftTuner rightTuner : ValueCoefficientTuner) (leftCalls rightCalls : List LoopCall)
    (sameCalls : leftCalls.filterMap LoopCall.forwarded =
      rightCalls.filterMap LoopCall.forwarded) (leftClock rightClock : Nat → ℚ) :
    let leftRun := Machine.run (FeedbackLoop.call rt)
      ⟨{ left with classifier := classifier }, store, leftTuner⟩ leftCalls
    let rightRun := Machine.run (FeedbackLoop.call rt)
      ⟨{ right with classifier := classifier }, store, rightTuner⟩ rightCalls
    leftRun.1.filterMap (Option.map OptimizerReply.shape) =
        rightRun.1.filterMap (Option.map OptimizerReply.shape) ∧
      (leftRun.2.optimizer.stats leftClock).traffic =
        (rightRun.2.optimizer.stats rightClock).traffic := by
  intro leftRun rightRun
  have configured {policy : Option FlowValuePolicy} {fresh : BandwidthOptimizer}
      (built : BandwidthOptimizer.init config policy clock = .ok fresh)
      (tuner : ValueCoefficientTuner) :
      FeedbackLoop.Configured config ⟨{ fresh with classifier := classifier }, store, tuner⟩ :=
    ⟨policy, (BandwidthOptimizer.init_configured built).of_kept rfl rfl ⟨rfl, rfl⟩⟩
  obtain ⟨leftReplies, leftShape⟩ :=
    FeedbackLoop.run_shaped rt (configured leftBuilt leftTuner) leftCalls
  obtain ⟨rightReplies, rightShape⟩ :=
    FeedbackLoop.run_shaped rt (configured rightBuilt rightTuner) rightCalls
  have start : FeedbackLoop.shaped ⟨{ left with classifier := classifier }, store, leftTuner⟩ =
      FeedbackLoop.shaped ⟨{ right with classifier := classifier }, store, rightTuner⟩ :=
    congrArg (fun shaper => (shaper, store.unvalued))
      (BandwidthOptimizer.init_shape leftBuilt rightBuilt classifier)
  rw [start, sameCalls] at leftReplies leftShape
  refine ⟨leftReplies.trans rightReplies.symm, ?_⟩
  rw [BandwidthOptimizer.stats_traffic, BandwidthOptimizer.stats_traffic]
  exact congrArg (fun shaped => Shaper.traffic shaped.1) (leftShape.trans rightShape.symm)

/-- A value policy under an operator and a tuner, beside an optimizer without one. -/
theorem values_only_order_plain :
    ∃ valued plain,
      BandwidthOptimizer.init singleSlot (some callsFirst) (fun _ => 0) = .ok valued ∧
      BandwidthOptimizer.init singleSlot none (fun _ => 0) = .ok plain ∧
      let valuedRun := Machine.run (FeedbackLoop.call .plain)
        ⟨{ valued with classifier := {} }, criticalPackets, .init⟩
        [.forward (.process 0 (.frozen 0 0)), .control (.setOverride "calls" 0),
          .forward (.process 1 (.frozen 0 0)), .control (.tuner (.observe "calls" 1 2)),
          .forward .dequeue]
      let plainRun := Machine.run (FeedbackLoop.call .plain)
        ⟨{ plain with classifier := {} }, criticalPackets, .init⟩
        [.forward (.process 0 (.frozen 0 0)), .forward (.process 1 (.frozen 0 0)),
          .forward .dequeue]
      valuedRun.1.filterMap (Option.map OptimizerReply.shape) =
          plainRun.1.filterMap (Option.map OptimizerReply.shape) ∧
        (valuedRun.2.optimizer.stats fun _ => 0).traffic =
          (plainRun.2.optimizer.stats fun _ => 0).traffic := by
  obtain ⟨valued, valuedBuilt⟩ := BandwidthOptimizer.singleSlot_constructs
  obtain ⟨plain, plainBuilt⟩ : ∃ fresh,
      BandwidthOptimizer.init singleSlot none (fun _ => 0) = .ok fresh := by
    apply BandwidthOptimizer.init_constructs
    decide +kernel
  refine ⟨valued, plain, valuedBuilt, plainBuilt, ?_⟩
  exact values_only_order .plain singleSlot (fun _ => 0) (some callsFirst) none valued plain
    valuedBuilt plainBuilt {} criticalPackets .init .init _ _ (by rfl) _ _

end SmartBandwidth
