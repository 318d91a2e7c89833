import SmartBandwidth.Pipeline.FeedbackLoop
import SmartBandwidth.Pipeline.Reconciliation

/-!
# The value books of a feedback loop

The tracker books every packet at the coefficient in force when it was processed, which is the one
in the flow record of the reply.  A tuner never takes a coefficient below the static one, so it can
only raise what is booked: it drops the same packets as the static policy, and values them higher.
-/

namespace SmartBandwidth

/-! ## What a reply is worth -/

/-- The coefficient in the flow record of a result. -/
def ProcessResult.worth (result : ProcessResult) : ℚ :=
  (result.flowRecord.map FlowRecord.valueCoefficient).getD 0

namespace OptimizerReply

/-- The value of a packet reported as forwarded. -/
def valueDelivered : OptimizerReply → ℚ
  | .processed (.ok result) => if result.dropped then 0 else result.worth
  | .processed (.error _) | .packet _ | .packets _ | .done => 0

/-- The value of a packet reported as dropped. -/
def valueLost : OptimizerReply → ℚ
  | .processed (.ok result) => if result.dropped then result.worth else 0
  | .processed (.error _) | .packet _ | .packets _ | .done => 0

end OptimizerReply

/-- The totals of the value tracker, if there is one. -/
def Engine.valueTotals : Engine → ℚ × ℚ
  | .plain _ => (0, 0)
  | .pvm _ _ tracker => (tracker.totalDelivered, tracker.totalDropped)

/-- The totals that a reply adds to. -/
def OptimizerReply.values (reply : OptimizerReply) : ℚ × ℚ :=
  (reply.valueDelivered, reply.valueLost)

namespace BandwidthOptimizer

section Process

variable {rt : Runtime} {optimizer : BandwidthOptimizer} {store : Store}
variable {readings : ProcessReadings} {ref : PacketRef} {values : FlowValuePolicy}

/-- Packet and record get the coefficient in force. -/
theorem preparation_valued (policyEq : optimizer.engine.flowValuePolicy = some values)
    {prepared : Prepared}
    (prepares : optimizer.preparation rt store readings ref = .ok prepared) :
    prepared.packet.valueCoefficient = values.getCoefficient rt (store ref) ∧
      prepared.record.valueCoefficient = values.getCoefficient rt (store ref) := by
  have valued := (preparation_prepares prepares).valued values policyEq
  refine ⟨valued, ?_⟩
  rw [← valued]
  obtain ⟨classified, _, rfl⟩ := preparation_eq_ok prepares
  rw [policyEq]
  rfl

/-- A result is worth the coefficient in force. -/
theorem worth_of_process (policyEq : optimizer.engine.flowValuePolicy = some values)
    {result : ProcessResult} (returns : (optimizer.process rt store readings ref).1 = .ok result) :
    result.worth = values.getCoefficient rt (store ref) := by
  have processes := optimizer.process_processes rt store readings ref
  generalize optimizer.process rt store readings ref = outcome at processes returns
  cases processes with
  | classifyRaised => cases returns
  | filtered prepares =>
      cases returns
      exact (preparation_valued policyEq prepares).2
  | compressRaised => cases returns
  | admitted prepares =>
      cases returns
      exact (preparation_valued policyEq prepares).2

theorem process_values (policyEq : optimizer.engine.flowValuePolicy = some values) :
    (optimizer.process rt store readings ref).2.1.engine.valueTotals =
      optimizer.engine.valueTotals +
        (OptimizerReply.processed (optimizer.process rt store readings ref).1).values := by
  have processes := optimizer.process_processes rt store readings ref
  generalize optimizer.process rt store readings ref = outcome at processes ⊢
  cases engineEq : optimizer.engine with
  | plain =>
      rw [engineEq] at policyEq
      cases policyEq
  | pvm policy scheduler tracker =>
      cases processes with
      | classifyRaised =>
          rw [entered, engineEq]
          exact (add_zero _).symm
      | filtered prepares =>
          obtain ⟨packetEq, recordEq⟩ := preparation_valued policyEq prepares
          rw [engineEq, packetEq, ← recordEq]
          exact Prod.ext (add_zero _).symm rfl
      | compressRaised =>
          rw [decided, engineEq]
          exact (add_zero _).symm
      | admitted prepares =>
          obtain ⟨packetEq, recordEq⟩ := preparation_valued policyEq prepares
          rw [scheduling_pvm _ _ _ _ _ _ engineEq, compressedPacket_valueCoefficient, packetEq,
            ← recordEq]
          exact Prod.ext rfl (add_zero _).symm

end Process

/-- What a call adds to the value totals. -/
theorem call_values (rt : Runtime) (state : BandwidthOptimizer × Store) {values : FlowValuePolicy}
    (policyEq : state.1.engine.flowValuePolicy = some values) (call : OptimizerCall) :
    (BandwidthOptimizer.call rt state call).2.1.engine.valueTotals =
      if call.resets then 0
      else state.1.engine.valueTotals + (BandwidthOptimizer.call rt state call).1.values := by
  cases call with
  | process ref readings => exact process_values policyEq
  | dequeue | drain =>
      obtain ⟨⟨_, _, engine, _, _, _, _, _⟩, store⟩ := state
      cases engine <;> exact (add_zero _).symm
  | drainNext =>
      obtain ⟨⟨_, _, engine, _, _, _, _, _⟩, store⟩ := state
      simp only [BandwidthOptimizer.call]
      split
      next => exact (add_zero _).symm
      next => cases engine <;> exact (add_zero _).symm
  | resetStats =>
      obtain ⟨⟨_, _, engine, _, _, _, _, _⟩, store⟩ := state
      cases engine <;> rfl

end BandwidthOptimizer

/-! ## The books of any loop -/

/-- The call that clears the statistics. -/
def LoopCall.resets : LoopCall → Bool
  | .forward call => call.resets
  | .control _ => false

/-- What an answer in the loop adds to the totals. -/
def OptimizerReply.bookedBy (answer : Option OptimizerReply) : ℚ × ℚ :=
  (answer.map OptimizerReply.values).getD 0

namespace FeedbackLoop

/-- The optimizer runs under a configuration and some value policy. -/
def Valued (config : OptimizerConfig) (loop : FeedbackLoop) : Prop :=
  ∃ values, loop.optimizer.Configured config (some values)

variable {config : OptimizerConfig} {loop : FeedbackLoop}

theorem control_engine {policy : FlowValuePolicy} {scheduler : ValueScheduler}
    {tracker : ValueLossTracker} (engineEq : loop.optimizer.engine = .pvm policy scheduler tracker)
    (call : CoefficientCall) :
    let shared := (ValueCoefficientTuner.operate (loop.tuner, policy) call).2
    loop.control call =
      { loop with
        tuner := shared.1
        optimizer := { loop.optimizer with engine := .pvm shared.2 scheduler tracker } } := by
  rw [control, engineEq]

theorem call_valued (rt : Runtime) (valued : loop.Valued config) (call : LoopCall) :
    (FeedbackLoop.call rt loop call).2.Valued config := by
  obtain ⟨values, configured⟩ := valued
  cases call with
  | forward call => exact ⟨values, BandwidthOptimizer.call_configured configured rt call⟩
  | control call =>
      obtain ⟨scheduler, tracker, engineEq⟩ := configured.pvm
      have limitEq := configured.limitEq
      rw [engineEq] at limitEq
      rw [FeedbackLoop.call, control_engine engineEq]
      exact ⟨_, configured.configEq, configured.filterEq, rfl, limitEq⟩

theorem call_values (rt : Runtime) (valued : loop.Valued config) (call : LoopCall) :
    (FeedbackLoop.call rt loop call).2.optimizer.engine.valueTotals =
      if call.resets then 0
      else loop.optimizer.engine.valueTotals +
        OptimizerReply.bookedBy (FeedbackLoop.call rt loop call).1 := by
  obtain ⟨values, configured⟩ := valued
  cases call with
  | forward call =>
      exact BandwidthOptimizer.call_values rt (loop.optimizer, loop.store) configured.policyEq call
  | control call =>
      obtain ⟨scheduler, tracker, engineEq⟩ := configured.pvm
      rw [FeedbackLoop.call, control_engine engineEq, engineEq]
      exact (add_zero _).symm

end FeedbackLoop

theorem OptimizerReply.sum_bookedBy (seen : List (Option OptimizerReply)) :
    (seen.map OptimizerReply.bookedBy).sum =
      ((seen.reduceOption.map OptimizerReply.valueDelivered).sum,
        (seen.reduceOption.map OptimizerReply.valueLost).sum) := by
  induction seen with
  | nil => rfl
  | cons reply rest ih =>
      rw [List.map_cons, List.sum_cons, ih]
      cases reply with
      | none => exact zero_add _
      | some reply => rfl

/-- In every loop of a fresh optimizer with a value policy, whatever raises and whatever the tuner
and the operator do meanwhile: the value totals are those of the flow records in the replies since
the last reset, and each record carries the coefficient that the policy gives at that moment. -/
theorem loop_books_tell_replies (rt : Runtime) (config : OptimizerConfig)
    (values : FlowValuePolicy) (clock : TrafficPriority → ℚ) (fresh : BandwidthOptimizer)
    (constructed : BandwidthOptimizer.init config (some values) clock = .ok fresh)
    (classifier : TrafficClassifier) (store : Store) (tuner : ValueCoefficientTuner)
    (calls : List LoopCall) :
    let run := Machine.run (FeedbackLoop.call rt)
      ⟨{ fresh with classifier := classifier }, store, tuner⟩ calls
    let seen := (Machine.sinceReset LoopCall.resets calls run.1).reduceOption
    ∃ policy scheduler tracker, run.2.optimizer.engine = .pvm policy scheduler tracker ∧
      tracker.valueDeliveredTotal = (seen.map OptimizerReply.valueDelivered).sum ∧
      tracker.valueLostTotal = (seen.map OptimizerReply.valueLost).sum ∧
      ∀ readings ref result,
        (run.2.optimizer.process rt run.2.store readings ref).1 = .ok result →
          result.worth = policy.getCoefficient rt (run.2.store ref) := by
  intro run seen
  have start : FeedbackLoop.Valued config
      ⟨{ fresh with classifier := classifier }, store, tuner⟩ :=
    ⟨values, (BandwidthOptimizer.init_configured constructed).of_kept rfl rfl ⟨rfl, rfl⟩⟩
  have untouched : fresh.engine.valueTotals = 0 := by
    rw [BandwidthOptimizer.init_engine constructed]
    rfl
  have totals := Machine.counter_eq_sum
    (fun loop : FeedbackLoop => loop.optimizer.engine.valueTotals)
    (fun loop call (valued : loop.Valued config) => FeedbackLoop.call_valued rt valued call)
    (fun loop call valued => FeedbackLoop.call_values rt valued call) start untouched calls
  rw [OptimizerReply.sum_bookedBy] at totals
  obtain ⟨policy, configured⟩ := Machine.run_invariant
    (fun loop call (valued : loop.Valued config) => FeedbackLoop.call_valued rt valued call)
    start calls
  obtain ⟨scheduler, tracker, engineEq⟩ := configured.pvm
  rw [engineEq] at totals
  obtain ⟨delivered, lost⟩ := Prod.mk.inj totals
  refine ⟨policy, scheduler, tracker, engineEq, delivered, lost, ?_⟩
  intro readings ref result returns
  exact BandwidthOptimizer.worth_of_process configured.policyEq returns

/-- The books of a loop in which a coefficient is raised between two packets and statistics are
reset after the first. -/
theorem loop_books_tell_replies_tuned :
    ∃ fresh, BandwidthOptimizer.init singleSlot (some callsFirst) (fun _ => 0) = .ok fresh ∧
      let calls : List LoopCall :=
        [.forward (.process 0 (.frozen 0 0)), .control (.tuner (.observe "calls" 1 2)),
          .forward .resetStats, .forward (.process 0 (.frozen 0 0))]
      let run := Machine.run (FeedbackLoop.call .plain)
        ⟨{ fresh with classifier := {} }, criticalPackets, .init⟩ calls
      let seen := (Machine.sinceReset LoopCall.resets calls run.1).reduceOption
      ∃ policy scheduler tracker, run.2.optimizer.engine = .pvm policy scheduler tracker ∧
        tracker.valueDeliveredTotal = (seen.map OptimizerReply.valueDelivered).sum := by
  obtain ⟨fresh, constructed⟩ := BandwidthOptimizer.singleSlot_constructs
  refine ⟨fresh, constructed, ?_⟩
  obtain ⟨policy, scheduler, tracker, engineEq, delivered, _⟩ :=
    loop_books_tell_replies .plain singleSlot callsFirst (fun _ => 0) fresh constructed {}
      criticalPackets .init
      [.forward (.process 0 (.frozen 0 0)), .control (.tuner (.observe "calls" 1 2)),
        .forward .resetStats, .forward (.process 0 (.frozen 0 0))]
  exact ⟨policy, scheduler, tracker, engineEq, delivered⟩

end SmartBandwidth
