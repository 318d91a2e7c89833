import SmartBandwidth.Safety.CircuitBreaker
import SmartBandwidth.Safety.FailOpen
import SmartBandwidth.Pipeline.Reconciliation

/-!
# The books of a guarded optimizer

The guard counts what it is given, what raised and what passed the optimizer by; the optimizer
counts what it received.  Read together they account for every packet that was ever submitted.
-/

namespace SmartBandwidth

/-- A guard around an optimizer whose packets live in a store. -/
abbrev GuardedOptimizer := SafetyGuard × BandwidthOptimizer × Store

/-- Calls on a guarded optimizer. -/
inductive GuardedCall where
  | guard (call : SafetyCall ProcessReadings)
  | dequeue

/-- The packets a call submits. -/
def GuardedCall.submitted : GuardedCall → Nat
  | .guard (.process _ _ _) => 1
  | .guard .reset | .guard (.setFailMode _) | .dequeue => 0

/-- The dictionary `to_dict()` of a health status returns. -/
structure HealthReport where
  state : String
  failMode : String
  totalErrors : Nat
  consecutiveErrors : Nat
  circuitThreshold : Int
  lastError : String
  lastErrorTime : Option ℚ
  uptimeSeconds : ℚ
  deriving DecidableEq, Repr

/-- `to_dict`. -/
def HealthStatus.toDict (status : HealthStatus) : HealthReport where
  state := status.state.value
  failMode := status.failMode.value
  totalErrors := status.totalErrors
  consecutiveErrors := status.consecutiveErrors
  circuitThreshold := status.circuitThreshold
  lastError := status.lastError
  lastErrorTime := status.lastErrorTime
  uptimeSeconds := Rounding.round status.uptimeSeconds 2

/-- The dictionary `stats()` of a guard returns, with `bypass_count` of its `safety` part. -/
structure GuardedStats where
  base : OptimizerStats
  safety : HealthReport
  bypassCount : Nat

namespace GuardedOptimizer

/-- `dequeue`. -/
def dequeue (state : GuardedOptimizer) : Option PacketRef × GuardedOptimizer :=
  let (ref, optimizer) := state.2.1.dequeue state.2.2
  (ref, (state.1, optimizer, state.2.2))

/-- `stats`. -/
def stats (state : GuardedOptimizer) (statsClock : Nat → ℚ) (now : ℚ) : GuardedStats where
  base := state.2.1.stats statsClock
  safety := (state.1.health now).toDict
  bypassCount := state.1.bypassCount

/-- One call; `describe` is what the guard reads of an exception. -/
def call (rt : Runtime) (describe : PyError → Raised) (state : GuardedOptimizer) :
    GuardedCall → (Option ProcessResult × Option PacketRef) × GuardedOptimizer
  | .guard call =>
      let (result, next) := SafetyGuard.call (BandwidthOptimizer.wrapped rt describe) state call
      ((result, none), next)
  | .dequeue =>
      let (ref, next) := state.dequeue
      ((none, ref), next)

end GuardedOptimizer

/-! ## What resets have cleared -/

/-- The errors and the bypassed packets that resets of a guard have cleared. -/
structure ClearedCounts where
  errors : Nat := 0
  bypassed : Nat := 0

/-- A reset clears what the guard shows. -/
def ClearedCounts.after (cleared : ClearedCounts) (guard : SafetyGuard) :
    GuardedCall → ClearedCounts
  | .guard .reset =>
      { errors := cleared.errors + guard.totalErrors
        bypassed := cleared.bypassed + guard.bypassCount }
  | .guard (.process _ _ _) | .guard (.setFailMode _) | .dequeue => cleared

/-- What the resets of a run clear, beyond what was cleared before it. -/
def ClearedCounts.over (rt : Runtime) (describe : PyError → Raised) (cleared : ClearedCounts)
    (state : GuardedOptimizer) : List GuardedCall → ClearedCounts
  | [] => cleared
  | call :: rest =>
      ClearedCounts.over rt describe (cleared.after state.1 call)
        (GuardedOptimizer.call rt describe state call).2 rest

/-! ## The books -/

/-- The counters of the guard and of its optimizer, after so many submitted packets. -/
structure Books (config : OptimizerConfig) (policy : Option FlowValuePolicy)
    (cleared : ClearedCounts) (submitted : Nat) (state : GuardedOptimizer) : Prop where
  configured : state.2.1.Configured config policy
  entered : state.1.totalIn = submitted
  passed : state.1.totalIn + state.1.totalErrors + cleared.errors =
    state.2.1.totalIn + state.1.bypassCount + cleared.bypassed
  balance : state.2.1.totalIn =
    state.2.1.totalDropped + state.2.1.engine.stats.accounted + state.1.totalErrors +
      cleared.errors

namespace Books

variable {config : OptimizerConfig} {policy : Option FlowValuePolicy}
variable {cleared : ClearedCounts} {submitted : Nat} {state : GuardedOptimizer}

/-- What the optimizer adds when the guard calls it; it accounts for a packet or raises. -/
theorem wrapped (books : Books config policy cleared submitted state) {rt : Runtime}
    {describe : PyError → Raised} {packet : PacketRef} {readings : ProcessReadings}
    {answer : Except Raised ProcessResult} {next : BandwidthOptimizer × Store}
    (answers : BandwidthOptimizer.wrapped rt describe state.2 packet readings = (answer, next)) :
    next.1.Configured config policy ∧ next.1.totalIn = state.2.1.totalIn + 1 ∧
      next.1.totalDropped + next.1.engine.stats.accounted + (if raises answer then 1 else 0) =
        state.2.1.totalDropped + state.2.1.engine.stats.accounted + 1 := by
  have adds := BandwidthOptimizer.process_addsUp books.configured.positive rt state.2.2 readings
    packet
  have configured := BandwidthOptimizer.process_configured books.configured rt state.2.2 readings
    packet
  rw [BandwidthOptimizer.wrapped] at answers
  generalize state.2.1.process rt state.2.2 readings packet = outcome at adds configured answers
  obtain ⟨answered, optimizer, store⟩ := outcome
  cases answers
  refine ⟨configured, adds.received, ?_⟩
  have dropped := adds.dropped
  have accounted := adds.accounted
  cases answered with
  | error raised =>
      simp only [OptimizerReply.dropped, OptimizerReply.failed, OptimizerReply.received,
        Except.mapError, raises, if_true] at dropped accounted ⊢
      omega
  | ok result =>
      simp only [OptimizerReply.failed, OptimizerReply.received, Except.mapError, raises,
        Bool.false_eq_true, if_false] at dropped accounted ⊢
      omega

theorem process (books : Books config policy cleared submitted state) (rt : Runtime)
    (describe : PyError → Raised) (packet : PacketRef) (readings : ProcessReadings) (now : ℚ) :
    Books config policy cleared (submitted + 1)
      (state.1.process (BandwidthOptimizer.wrapped rt describe) state.2 packet readings now).2 := by
  have entered := books.entered
  have passed := books.passed
  have balance := books.balance
  have processes := state.1.process_processes (BandwidthOptimizer.wrapped rt describe) state.2
    packet readings now
  generalize state.1.process (BandwidthOptimizer.wrapped rt describe) state.2 packet readings
    now = outcome at processes ⊢
  cases processes with
  | opened =>
      refine ⟨books.configured, congrArg (· + 1) entered, ?_, balance⟩
      change state.1.totalIn + 1 + state.1.totalErrors + cleared.errors =
        state.2.1.totalIn + (state.1.bypassCount + 1) + cleared.bypassed
      omega
  | @succeeded result next _ answers =>
      obtain ⟨configured, received, accounted⟩ := books.wrapped answers
      simp only [raises, Bool.false_eq_true, if_false] at accounted
      refine ⟨configured, congrArg (· + 1) entered, ?_, ?_⟩
      · change state.1.totalIn + 1 + state.1.totalErrors + cleared.errors =
          next.1.totalIn + state.1.bypassCount + cleared.bypassed
        omega
      · change next.1.totalIn = next.1.totalDropped + next.1.engine.stats.accounted +
          state.1.totalErrors + cleared.errors
        omega
  | @failed raised next _ answers =>
      obtain ⟨configured, received, accounted⟩ := books.wrapped answers
      simp only [raises, if_true] at accounted
      simp only [SafetyGuard.handleError, SafetyGuard.bypassResult_guard]
      refine ⟨configured, congrArg (· + 1) entered, ?_, ?_⟩
      · change state.1.totalIn + 1 + (state.1.totalErrors + 1) + cleared.errors =
          next.1.totalIn + (state.1.bypassCount + 1) + cleared.bypassed
        omega
      · change next.1.totalIn = next.1.totalDropped + next.1.engine.stats.accounted +
          (state.1.totalErrors + 1) + cleared.errors
        omega

theorem call (books : Books config policy cleared submitted state) (rt : Runtime)
    (describe : PyError → Raised) (call : GuardedCall) :
    Books config policy (cleared.after state.1 call) (submitted + call.submitted)
      (GuardedOptimizer.call rt describe state call).2 := by
  cases call with
  | guard call =>
      cases call with
      | process packet readings now => exact books.process rt describe packet readings now
      | reset =>
          have passed := books.passed
          have balance := books.balance
          refine ⟨books.configured, books.entered, ?_, ?_⟩
          · change state.1.totalIn + 0 + (cleared.errors + state.1.totalErrors) =
              state.2.1.totalIn + 0 + (cleared.bypassed + state.1.bypassCount)
            omega
          · change state.2.1.totalIn = state.2.1.totalDropped +
              state.2.1.engine.stats.accounted + 0 + (cleared.errors + state.1.totalErrors)
            omega
      | setFailMode => exact ⟨books.configured, books.entered, books.passed, books.balance⟩
  | dequeue =>
      have accounted := state.2.1.engine.dequeue_accounted state.2.2
      refine ⟨BandwidthOptimizer.dequeue_configured books.configured state.2.2, books.entered,
        books.passed, books.balance.trans ?_⟩
      exact congrArg (state.2.1.totalDropped + · + state.1.totalErrors + cleared.errors)
        accounted.symm

/-- The books of a whole run. -/
theorem run (books : Books config policy cleared submitted state) (rt : Runtime)
    (describe : PyError → Raised) (calls : List GuardedCall) :
    Books config policy (cleared.over rt describe state calls)
      (submitted + (calls.map GuardedCall.submitted).sum)
      (Machine.run (GuardedOptimizer.call rt describe) state calls).2 := by
  induction calls generalizing state cleared submitted with
  | nil => exact books
  | cons call rest ih =>
      have later := ih (books.call rt describe call)
      rwa [Nat.add_assoc, ← List.sum_cons, ← List.map_cons] at later

end Books

/-- In every run of calls on a guard around a fresh optimizer, whatever raises, every submitted
packet is in the statistics once: the optimizer has received what did not pass it by, and what it
received it dropped, served, still holds, lost to overflow, or raised on. -/
theorem guarded_packets_accounted (rt : Runtime) (describe : PyError → Raised)
    (config : OptimizerConfig) (policy : Option FlowValuePolicy) (clock : TrafficPriority → ℚ)
    (fresh : BandwidthOptimizer)
    (constructed : BandwidthOptimizer.init config policy clock = .ok fresh)
    (classifier : TrafficClassifier) (store : Store) (startTime : ℚ) (failMode : FailMode)
    (circuitThreshold : Int) (calls : List GuardedCall) (statsClock : Nat → ℚ) (now : ℚ) :
    let start : GuardedOptimizer := (.init startTime failMode circuitThreshold,
      { fresh with classifier := classifier }, store)
    let final := (Machine.run (GuardedOptimizer.call rt describe) start calls).2
    let stats := final.stats statsClock now
    let cleared := ClearedCounts.over rt describe {} start calls
    final.1.totalIn = (calls.map GuardedCall.submitted).sum ∧
      final.1.totalIn + stats.safety.totalErrors + cleared.errors =
        stats.base.packetsReceived + stats.bypassCount + cleared.bypassed ∧
      stats.base.packetsReceived =
        stats.base.packetsDropped + ∑ priority, stats.base.queue.dequeueCounts priority +
          stats.base.queue.currentQueueSize + stats.base.queue.droppedOverflow +
          stats.safety.totalErrors + cleared.errors := by
  intro start final stats cleared
  have fromFresh := BandwidthOptimizer.init_configured constructed
  have balanced := BandwidthOptimizer.init_balanced constructed
  have configured : start.2.1.Configured config policy :=
    ⟨fromFresh.configEq, fromFresh.filterEq, fromFresh.policyEq, fromFresh.limitEq⟩
  have empty : fresh.totalIn = 0 := by
    obtain ⟨packetFilter, filtered, rfl⟩ := BandwidthOptimizer.init_eq_ok constructed
    rfl
  have starts : Books config policy {} 0 start := by
    refine ⟨configured, rfl, ?_, balanced.received⟩
    change 0 + 0 + 0 = fresh.totalIn + 0 + 0
    rw [empty]
  have books := starts.run rt describe calls
  refine ⟨books.entered.trans (Nat.zero_add _), books.passed, ?_⟩
  have balance := books.balance
  rw [SchedulerStats.accounted] at balance
  simp only [stats, final, cleared, GuardedOptimizer.stats, BandwidthOptimizer.stats,
    SafetyGuard.health, HealthStatus.toDict]
  omega

/-- The books after a packet on which zlib raises, a reset of the guard and a second packet. -/
theorem guarded_packets_accounted_raising :
    ∃ fresh, BandwidthOptimizer.init {} none (fun _ => 0) = .ok fresh ∧
      let describe : PyError → Raised := fun _ => ⟨"error", "bad level"⟩
      let start : GuardedOptimizer := (.init 0 .failOpen 1,
        { fresh with classifier := fresh.classifier },
        fun _ => { priority := some .critical, payload := List.replicate 300 97 })
      let calls := [.guard (.process 0 (.frozen 0 0) 0), .guard .reset, .dequeue,
        .guard (.process 1 (.frozen 0 0) 0)]
      let final := (Machine.run (GuardedOptimizer.call .plain describe) start calls).2
      let stats := final.stats (fun _ => 0) 0
      let cleared := ClearedCounts.over .plain describe {} start calls
      final.1.totalIn = (calls.map GuardedCall.submitted).sum ∧
        final.1.totalIn + stats.safety.totalErrors + cleared.errors =
          stats.base.packetsReceived + stats.bypassCount + cleared.bypassed ∧
        stats.base.packetsReceived =
          stats.base.packetsDropped + ∑ priority, stats.base.queue.dequeueCounts priority +
            stats.base.queue.currentQueueSize + stats.base.queue.droppedOverflow +
            stats.safety.totalErrors + cleared.errors := by
  obtain ⟨fresh, constructed⟩ := BandwidthOptimizer.default_constructs
  exact ⟨fresh, constructed, guarded_packets_accounted .plain _ {} none (fun _ => 0) fresh
    constructed fresh.classifier _ 0 .failOpen 1 _ _ 0⟩

end SmartBandwidth
