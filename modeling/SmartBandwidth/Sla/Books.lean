import SmartBandwidth.Sla.Violations
import SmartBandwidth.Pipeline.Reconciliation

/-!
# The books of a monitored optimizer

A monitor throws packets away that the optimizer has counted as served.  Its own counter of these
closes the balance, unless the violations are reset apart from the statistics.
-/

namespace SmartBandwidth

/-! ## The statistics -/

/-- `overage_pct`. -/
def SLAViolation.overagePct (violation : SLAViolation) : ℚ :=
  if violation.ceiling = 0 then 0
  else (violation.actual - violation.ceiling) / violation.ceiling

/-- The dictionary `to_dict()` of a violation returns. -/
structure ViolationReport where
  type : ViolationType
  priority : String
  ceiling : ℚ
  actual : ℚ
  overagePct : ℚ
  timestamp : ℚ

/-- `to_dict`. -/
def SLAViolation.toDict (violation : SLAViolation) : ViolationReport where
  type := violation.violationType
  priority := violation.priority.name
  ceiling := violation.ceiling
  actual := Rounding.round violation.actual 2
  overagePct := Rounding.round (violation.overagePct * 100) 1
  timestamp := violation.timestamp

/-- The dictionary `to_dict()` of the statistics returns. -/
structure SLAReport where
  totalViolations : Nat
  pipelineViolationsByPriority : TrafficPriority → Nat
  sojournViolationsByPriority : TrafficPriority → Nat
  packetsExpired : Nat
  recentViolations : List ViolationReport

/-- `to_dict`, with the last ten violations. -/
def SLAStats.toDict (stats : SLAStats) : SLAReport where
  totalViolations := stats.totalViolations
  pipelineViolationsByPriority := stats.pipelineViolations
  sojournViolationsByPriority := stats.sojournViolations
  packetsExpired := stats.packetsExpired
  recentViolations := (stats.recentViolations.rtake 10).map SLAViolation.toDict

/-- The dictionary `stats()` of a monitor returns. -/
structure MonitoredStats where
  base : OptimizerStats
  sla : SLAReport

/-- `stats`. -/
def SLAMonitor.stats (monitor : SLAMonitor) (statsClock : Nat → ℚ) : MonitoredStats where
  base := monitor.optimizer.stats statsClock
  sla := monitor.slaStats.toDict

/-! ## What the calls show -/

/-- What has happened since the last `reset_stats`: packets handed to the caller, expired packets
that a reset of the violations has cleared, calls that raised, and the packets queued then. -/
structure SLATally where
  forwarded : Nat := 0
  cleared : Nat := 0
  raised : Nat := 0
  carried : Nat := 0

namespace SLAMonitor

/-- The tally after a call. -/
def tallyAfter (rt : Runtime) (state : SLAMonitor × Store) (tally : SLATally) :
    SLACall → SLATally
  | .process ref readings _ =>
      match (state.1.optimizer.process rt state.2 readings ref).1 with
      | .error _ => { tally with raised := tally.raised + 1 }
      | .ok _ => tally
  | .dequeue clock =>
      match state.1.dequeue state.2 clock with
      | some (some _, _) => { tally with forwarded := tally.forwarded + 1 }
      | some (none, _) | none => tally
  | .resetSlaStats => { tally with cleared := tally.cleared + state.1.packetsExpired }
  | .resetStats => { carried := state.1.optimizer.queueSize }

/-- A call on a monitor beside which a tally is kept. -/
def callTallied (rt : Runtime) (state : (SLAMonitor × Store) × SLATally) (call : SLACall) :
    Option ((SLAMonitor × Store) × SLATally) :=
  (SLAMonitor.call rt state.1 call).map fun next => (next, tallyAfter rt state.1 state.2 call)

/-! ## The balance -/

/-- The optimizer has accounted for what it received, and what it served was handed out or had
expired. -/
structure Balanced (config : OptimizerConfig) (policy : Option FlowValuePolicy)
    (monitor : SLAMonitor) (tally : SLATally) : Prop where
  configured : monitor.optimizer.Configured config policy
  balance : monitor.optimizer.totalIn + tally.carried =
    monitor.optimizer.totalDropped + monitor.optimizer.engine.stats.accounted + tally.raised
  served : monitor.optimizer.engine.served =
    tally.forwarded + monitor.packetsExpired + tally.cleared

/-- What a `dequeue` that returns `answer` does: it serves the answer and what it counts as
expired. -/
structure Hands (monitor : SLAMonitor) (answer : Option PacketRef) (after : SLAMonitor) :
    Prop where
  configured : ∀ config policy, monitor.optimizer.Configured config policy →
    after.optimizer.Configured config policy
  received : after.optimizer.totalIn = monitor.optimizer.totalIn
  dropped : after.optimizer.totalDropped = monitor.optimizer.totalDropped
  accounted : after.optimizer.engine.stats.accounted = monitor.optimizer.engine.stats.accounted
  served : after.optimizer.engine.served + monitor.packetsExpired =
    monitor.optimizer.engine.served + answer.toList.length + after.packetsExpired

theorem expire_packetsExpired (monitor : SLAMonitor) (violation : SLAViolation) :
    (monitor.expire violation).packetsExpired = monitor.packetsExpired + 1 := by
  rw [expire, recordViolation]
  split <;> rfl

/-- One `dequeue` of the optimizer, before its packet is examined. -/
theorem hands_once (monitor : SLAMonitor) (store : Store) :
    monitor.Hands (monitor.optimizer.dequeue store).1
      { monitor with optimizer := (monitor.optimizer.dequeue store).2 } := by
  have adds := monitor.optimizer.dequeue_addsUp store
  exact
    { configured := fun _ _ configured => BandwidthOptimizer.dequeue_configured configured store
      received := adds.received
      dropped := adds.dropped
      accounted := adds.accounted
      served := congrArg (· + monitor.packetsExpired) adds.served }

theorem hands_of_dequeueLoop {store : Store} {fuel : Nat} {clock : SojournClock}
    {monitor after : SLAMonitor} {answer : Option PacketRef}
    (returns : dequeueLoop store fuel clock monitor = some (answer, after)) :
    monitor.Hands answer after := by
  induction fuel generalizing clock monitor with
  | zero => cases returns
  | succ fuel ih =>
      have once := monitor.hands_once store
      rw [dequeueLoop] at returns
      generalize monitor.optimizer.dequeue store = outcome at once returns
      obtain ⟨ref, optimizer⟩ := outcome
      cases ref with
      | none =>
          cases returns
          exact once
      | some ref =>
          simp only at returns
          split at returns
          next =>
            cases returns
            exact once
          next violation _ =>
            have optimizerEq : (expire { monitor with optimizer := optimizer }
                violation).optimizer = optimizer := recordViolation_optimizer _ violation
            have expired : (expire { monitor with optimizer := optimizer }
                violation).packetsExpired = monitor.packetsExpired + 1 :=
              expire_packetsExpired _ violation
            have first : optimizer.engine.served + monitor.packetsExpired =
                monitor.optimizer.engine.served + 1 + monitor.packetsExpired := once.served
            obtain ⟨configured, received, dropped, accounted, served⟩ := ih returns
            rw [optimizerEq] at configured received dropped accounted
            rw [optimizerEq, expired] at served
            exact
              { configured := fun config policy start =>
                  configured config policy (once.configured config policy start)
                received := received.trans once.received
                dropped := dropped.trans once.dropped
                accounted := accounted.trans once.accounted
                served := by omega }

section Call

variable {rt : Runtime} {config : OptimizerConfig} {policy : Option FlowValuePolicy}
variable {monitor : SLAMonitor} {tally : SLATally}

theorem process_packetsExpired (store : Store) (readings : ProcessReadings)
    (times : PipelineTimes) (ref : PacketRef) :
    (monitor.process rt store readings times ref).2.1.packetsExpired =
      monitor.packetsExpired := by
  simp only [SLAMonitor.process]
  generalize monitor.optimizer.process rt store readings ref = outcome
  obtain ⟨result, optimizer, store⟩ := outcome
  cases result with
  | error raised => rfl
  | ok result =>
      simp only
      split
      next => rfl
      next =>
        rw [recordViolation]
        split <;> rfl

theorem Balanced.process (balanced : Balanced config policy monitor tally) (store : Store)
    (readings : ProcessReadings) (times : PipelineTimes) (ref : PacketRef) :
    Balanced config policy (monitor.process rt store readings times ref).2.1
      (tallyAfter rt (monitor, store) tally (.process ref readings times)) := by
  have adds := BandwidthOptimizer.process_addsUp balanced.configured.positive rt store readings ref
  have configured := BandwidthOptimizer.process_configured balanced.configured rt store readings
    ref
  have received := adds.received
  have dropped := adds.dropped
  have accounted := adds.accounted
  have before := balanced.balance
  have served := adds.served.trans balanced.served
  have optimizerEq : (monitor.process rt store readings times ref).2.1.optimizer =
      (monitor.optimizer.process rt store readings ref).2.1 :=
    process_optimizer store readings times ref
  have expired : (monitor.process rt store readings times ref).2.1.packetsExpired =
      monitor.packetsExpired := process_packetsExpired store readings times ref
  rw [tallyAfter]
  generalize (monitor.process rt store readings times ref).2.1 = after at optimizerEq expired ⊢
  rw [← optimizerEq] at received dropped accounted served configured
  cases answer : (monitor.optimizer.process rt store readings ref).1 with
  | error raised =>
      simp only [answer, OptimizerReply.received, OptimizerReply.dropped,
        OptimizerReply.failed] at received dropped accounted ⊢
      refine ⟨configured, ?_, by rw [expired]; exact served⟩
      simp only
      omega
  | ok result =>
      simp only [answer, OptimizerReply.received, OptimizerReply.dropped,
        OptimizerReply.failed] at received dropped accounted ⊢
      refine ⟨configured, ?_, by rw [expired]; exact served⟩
      omega

theorem Balanced.dequeue (balanced : Balanced config policy monitor tally) {store : Store}
    {clock : SojournClock} {answer : Option PacketRef} {after : SLAMonitor}
    (returns : monitor.dequeue store clock = some (answer, after)) :
    Balanced config policy after (tallyAfter rt (monitor, store) tally (.dequeue clock)) := by
  have hands := hands_of_dequeueLoop returns
  have before := balanced.balance
  have served := balanced.served
  have received := hands.received
  have dropped := hands.dropped
  have accounted := hands.accounted
  have handed := hands.served
  simp only [tallyAfter, returns]
  cases answer with
  | none | some ref =>
      simp only [Option.toList_none, Option.toList_some, List.length_nil,
        List.length_singleton] at handed
      refine ⟨hands.configured config policy balanced.configured, ?_, ?_⟩
      · simp only
        omega
      · simp only
        omega

/-- Every call returns and keeps the balance. -/
theorem callTallied_balanced {state : (SLAMonitor × Store) × SLATally} (call : SLACall)
    (balanced : Balanced config policy state.1.1 state.2) :
    ∃ next, callTallied rt state call = some next ∧ Balanced config policy next.1.1 next.2 := by
  obtain ⟨⟨monitor, store⟩, tally⟩ := state
  replace balanced : monitor.Balanced config policy tally := balanced
  cases call with
  | process ref readings times => exact ⟨_, rfl, balanced.process store readings times ref⟩
  | dequeue clock =>
      obtain ⟨answer, after, passed, left, returns, skips⟩ :=
        dequeue_skipsExpired monitor store clock
      have kept : Balanced config policy after
          (tallyAfter rt (monitor, store) tally (.dequeue clock)) := balanced.dequeue returns
      refine ⟨((after, store), tallyAfter rt (monitor, store) tally (.dequeue clock)), ?_, kept⟩
      rw [callTallied, SLAMonitor.call, returns]
      rfl
  | resetSlaStats =>
      refine ⟨_, rfl, balanced.configured, balanced.balance, ?_⟩
      have served := balanced.served
      change monitor.optimizer.engine.served =
        tally.forwarded + 0 + (tally.cleared + monitor.packetsExpired)
      omega
  | resetStats =>
      have configured : monitor.optimizer.resetStats.Configured config policy :=
        balanced.configured.of_kept rfl rfl monitor.optimizer.engine.resetStats_kept
      refine ⟨_, rfl, configured, ?_, Engine.resetStats_served _⟩
      have accounted := Engine.resetStats_accounted monitor.optimizer.engine
      change 0 + monitor.optimizer.engine.length =
        0 + monitor.optimizer.engine.resetStats.stats.accounted + 0
      rw [accounted, Nat.add_zero]

end Call

end SLAMonitor

/-- The statistics of a monitor account for every packet. -/
structure MonitoredBooks (stats : MonitoredStats) (tally : SLATally) : Prop where
  balance : stats.base.packetsReceived + tally.carried =
    stats.base.packetsDropped + tally.forwarded + stats.sla.packetsExpired + tally.cleared +
      stats.base.queue.currentQueueSize + stats.base.queue.droppedOverflow + tally.raised
  served : ∑ priority, stats.base.queue.dequeueCounts priority =
    tally.forwarded + stats.sla.packetsExpired + tally.cleared

/-- In every run of calls on a monitor of a fresh optimizer, whatever raises and whatever expires,
every packet is in the statistics once: dropped, handed to the caller, expired, queued, lost to
overflow, or one on which the pipeline raised. -/
theorem monitored_packets_accounted (rt : Runtime) (config : OptimizerConfig)
    (policy : Option FlowValuePolicy) (clock : TrafficPriority → ℚ) (fresh : BandwidthOptimizer)
    (constructed : BandwidthOptimizer.init config policy clock = .ok fresh)
    (classifier : TrafficClassifier) (slaConfig : SLAConfig) (monitor : SLAMonitor)
    (created : SLAMonitor.init { fresh with classifier := classifier } slaConfig = .ok monitor)
    (store : Store) (calls : List SLACall) (statsClock : Nat → ℚ) :
    ∃ reached tally,
      replay (SLAMonitor.callTallied rt) ((monitor, store), {}) calls = some (reached, tally) ∧
        MonitoredBooks (reached.1.stats statsClock) tally := by
  have fromFresh := BandwidthOptimizer.init_configured constructed
  have balanced := BandwidthOptimizer.init_balanced constructed
  have idle : fresh.engine.served = 0 := by
    rw [BandwidthOptimizer.init_engine constructed]
    cases policy <;> exact Finset.sum_const_zero
  have start : monitor.Balanced config policy {} := by
    rw [SLAMonitor.init] at created
    split at created
    next => cases created
    next =>
      cases created
      exact ⟨⟨fromFresh.configEq, fromFresh.filterEq, fromFresh.policyEq, fromFresh.limitEq⟩,
        balanced.received, idle⟩
  have enabled (state : (SLAMonitor × Store) × SLATally) (call : SLACall)
      (kept : state.1.1.Balanced config policy state.2) :
      ∃ next, SLAMonitor.callTallied rt state call = some next ∧
        next.1.1.Balanced config policy next.2 :=
    SLAMonitor.callTallied_balanced call kept
  obtain ⟨⟨reached, tally⟩, replays, kept⟩ : ∃ final,
      replay (SLAMonitor.callTallied rt) ((monitor, store), {}) calls = some final ∧
        final.1.1.Balanced config policy final.2 :=
    replay.exists_of_enabled enabled start calls
  replace kept : reached.1.Balanced config policy tally := kept
  refine ⟨reached, tally, replays, ?_, kept.served⟩
  have balance := kept.balance
  have served := kept.served
  rw [Engine.served] at served
  rw [SchedulerStats.accounted] at balance
  simp only [SLAMonitor.stats, BandwidthOptimizer.stats, SLAStats.toDict, SLAMonitor.slaStats]
  omega

/-- The books after a critical packet, a background packet that expires, and two `dequeue` calls
with the violations reset between them. -/
theorem monitored_packets_accounted_expiring :
    ∃ fresh monitor, BandwidthOptimizer.init {} none (fun _ => 0) = .ok fresh ∧
      SLAMonitor.init { fresh with classifier := fresh.classifier } {} = .ok monitor ∧
      ∃ reached tally,
        replay (SLAMonitor.callTallied .plain)
          ((monitor, fun ref =>
            { priority := if ref = 0 then some .critical else some .background }), {})
          [.process 0 (.frozen 0 0) ⟨0, 0, 0⟩, .process 1 (.frozen 0 0) ⟨0, 0, 0⟩,
            .dequeue ⟨fun _ => 0, fun _ => 0⟩, .resetSlaStats,
            .dequeue ⟨fun _ => 100, fun _ => 100⟩] = some (reached, tally) ∧
        MonitoredBooks (reached.1.stats fun _ => 0) tally := by
  obtain ⟨fresh, constructed⟩ := BandwidthOptimizer.default_constructs
  refine ⟨fresh, _, constructed, rfl, ?_⟩
  exact monitored_packets_accounted .plain {} none (fun _ => 0) fresh constructed fresh.classifier
    {} _ rfl _ _ _

end SmartBandwidth
