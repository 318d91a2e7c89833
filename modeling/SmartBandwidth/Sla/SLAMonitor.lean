import SmartBandwidth.Pipeline.Optimizer
import SmartBandwidth.Lib.RingBuffer
import SmartBandwidth.Lib.Replay

/-!
# The SLA monitor

The monitor wraps an optimizer.  `process` is timed and `dequeue` discards packets that
waited too long; both record violations, which are counted by class and kept in a ring.
-/

namespace SmartBandwidth

/-- `DEFAULT_SLA_PIPELINE_CEILING_US`. -/
def defaultSLAPipelineCeilingUs : TrafficPriority → ℚ
  | .critical => 500
  | .high => 1000
  | .medium => 2000
  | .low => 5000
  | .background => 10000

/-- `DEFAULT_SLA_SOJOURN_CEILING_MS`. -/
def defaultSLASojournCeilingMs : TrafficPriority → ℚ
  | .critical => 50
  | .high => 100
  | .medium => 500
  | .low => 2000
  | .background => 5000

/-- `SLAConfig`; a class without a ceiling has no violations of its kind. -/
structure SLAConfig where
  pipelineCeilingUs : TrafficPriority → Option ℚ :=
    fun priority => some (defaultSLAPipelineCeilingUs priority)
  sojournCeilingMs : TrafficPriority → Option ℚ :=
    fun priority => some (defaultSLASojournCeilingMs priority)
  maxViolationsTracked : Int := 200

/-- The two kinds of violation. -/
inductive ViolationType where
  | pipeline
  | sojourn
  deriving DecidableEq, Repr

/-- `SLAViolation`. -/
structure SLAViolation where
  violationType : ViolationType
  priority : TrafficPriority
  ceiling : ℚ
  actual : ℚ
  timestamp : ℚ
  deriving DecidableEq, Repr

/-- `SLAStats`. -/
structure SLAStats where
  pipelineViolations : TrafficPriority → Nat
  sojournViolations : TrafficPriority → Nat
  packetsExpired : Nat
  totalViolations : Nat
  recentViolations : List SLAViolation

/-- The monitor, its optimizer and its counters. -/
structure SLAMonitor where
  optimizer : BandwidthOptimizer
  config : SLAConfig
  pipelineViolations : TrafficPriority → Nat
  sojournViolations : TrafficPriority → Nat
  packetsExpired : Nat
  totalViolations : Nat
  recent : RingBuffer SLAViolation

/-- The clock readings of a timed `process` call: `perf_counter_ns` before and after, and
the time of a violation. -/
structure PipelineTimes where
  start : Int
  finish : Int
  timestamp : ℚ

/-- The clocks of a `dequeue` call: `monotonic` when the n-th packet is examined, and the
time of its violation. -/
structure SojournClock where
  monotonic : Nat → ℚ
  time : Nat → ℚ

/-- The clocks from the second packet on. -/
def SojournClock.later (clock : SojournClock) : SojournClock where
  monotonic := fun index => clock.monotonic (index + 1)
  time := fun index => clock.time (index + 1)

/-- The violation of a `process` call that left this packet, if there is one. -/
def SLAConfig.pipelineViolation (config : SLAConfig) (packet : Packet) (times : PipelineTimes) :
    Option SLAViolation :=
  let elapsedUs : ℚ := (times.finish - times.start : Int) / 1000
  match packet.priority with
  | none => none
  | some priority =>
      match config.pipelineCeilingUs priority with
      | none => none
      | some ceilingUs =>
          if ceilingUs < elapsedUs then
            some
              { violationType := .pipeline
                priority := priority
                ceiling := ceilingUs
                actual := elapsedUs
                timestamp := times.timestamp }
          else
            none

/-- The violation of a dequeued packet that is examined at a time, if there is one. -/
def SLAConfig.sojournViolation (config : SLAConfig) (packet : Packet) (monotonic time : ℚ) :
    Option SLAViolation :=
  match packet.priority, packet.enqueuedAt with
  | some priority, some enqueuedAt =>
      match config.sojournCeilingMs priority with
      | none => none
      | some ceilingMs =>
          let sojournMs := (monotonic - enqueuedAt) * 1000
          if ceilingMs < sojournMs then
            some
              { violationType := .sojourn
                priority := priority
                ceiling := ceilingMs
                actual := sojournMs
                timestamp := time }
          else
            none
  | _, _ => none

namespace SLAMonitor

/-- `__init__`; a ring of negative length cannot be made. -/
def init (optimizer : BandwidthOptimizer) (config : SLAConfig := {}) :
    Except PyError SLAMonitor :=
  if config.maxViolationsTracked < 0 then
    .error (.valueError "maxlen must be non-negative")
  else
    .ok
      { optimizer := optimizer
        config := config
        pipelineViolations := fun _ => 0
        sojournViolations := fun _ => 0
        packetsExpired := 0
        totalViolations := 0
        recent := .empty config.maxViolationsTracked.toNat }

/-- `_record_violation`. -/
def recordViolation (monitor : SLAMonitor) (violation : SLAViolation) : SLAMonitor :=
  let monitor :=
    match violation.violationType with
    | .pipeline => { monitor with
        pipelineViolations := bump monitor.pipelineViolations violation.priority }
    | .sojourn => { monitor with
        sojournViolations := bump monitor.sojournViolations violation.priority }
  { monitor with
    totalViolations := monitor.totalViolations + 1
    recent := monitor.recent.append violation }

/-- `process`; a call that raises is not timed. -/
def process (rt : Runtime) (monitor : SLAMonitor) (store : Store) (readings : ProcessReadings)
    (times : PipelineTimes) (ref : PacketRef) :
    Except PyError ProcessResult × SLAMonitor × Store :=
  match monitor.optimizer.process rt store readings ref with
  | (.error raised, optimizer, store) =>
      (.error raised, { monitor with optimizer := optimizer }, store)
  | (.ok result, optimizer, store) =>
      let monitor := { monitor with optimizer := optimizer }
      match monitor.config.pipelineViolation (store ref) times with
      | none => (.ok result, monitor, store)
      | some violation => (.ok result, monitor.recordViolation violation, store)

/-- Record and count an expired packet. -/
def expire (monitor : SLAMonitor) (violation : SLAViolation) : SLAMonitor :=
  let monitor := monitor.recordViolation violation
  { monitor with packetsExpired := monitor.packetsExpired + 1 }

/-- The loop of `dequeue`, with fuel; without fuel it has not returned. -/
def dequeueLoop (store : Store) :
    Nat → SojournClock → SLAMonitor → Option (Option PacketRef × SLAMonitor)
  | 0, _, _ => none
  | fuel + 1, clock, monitor =>
      match monitor.optimizer.dequeue store with
      | (none, optimizer) => some (none, { monitor with optimizer := optimizer })
      | (some ref, optimizer) =>
          let monitor := { monitor with optimizer := optimizer }
          match monitor.config.sojournViolation (store ref) (clock.monotonic 0) (clock.time 0) with
          | none => some (some ref, monitor)
          | some violation => dequeueLoop store fuel clock.later (monitor.expire violation)

/-- `dequeue`, with a round of fuel for each queued packet and one for the end. -/
def dequeue (monitor : SLAMonitor) (store : Store) (clock : SojournClock) :
    Option (Option PacketRef × SLAMonitor) :=
  dequeueLoop store (monitor.optimizer.queueSize + 1) clock monitor

/-- `sla_stats`. -/
def slaStats (monitor : SLAMonitor) : SLAStats where
  pipelineViolations := monitor.pipelineViolations
  sojournViolations := monitor.sojournViolations
  packetsExpired := monitor.packetsExpired
  totalViolations := monitor.totalViolations
  recentViolations := monitor.recent.items

/-- `reset_sla_stats`. -/
def resetSlaStats (monitor : SLAMonitor) : SLAMonitor :=
  { monitor with
    pipelineViolations := fun _ => 0
    sojournViolations := fun _ => 0
    packetsExpired := 0
    totalViolations := 0
    recent := monitor.recent.clear }

/-- `reset_stats`. -/
def resetStats (monitor : SLAMonitor) : SLAMonitor :=
  resetSlaStats { monitor with optimizer := monitor.optimizer.resetStats }

end SLAMonitor

/-! ## Calls -/

/-- Calls on a monitor. -/
inductive SLACall where
  | process (ref : PacketRef) (readings : ProcessReadings) (times : PipelineTimes)
  | dequeue (clock : SojournClock)
  | resetSlaStats
  | resetStats

/-- One call on a monitor whose packets live in a store, if it returns. -/
def SLAMonitor.call (rt : Runtime) (state : SLAMonitor × Store) :
    SLACall → Option (SLAMonitor × Store)
  | .process ref readings times => some (state.1.process rt state.2 readings times ref).2
  | .dequeue clock =>
      (state.1.dequeue state.2 clock).map fun answer => (answer.2, state.2)
  | .resetSlaStats => some (state.1.resetSlaStats, state.2)
  | .resetStats => some (state.1.resetStats, state.2)

end SmartBandwidth
