import SmartBandwidth.Sla.SojournDequeue
import SmartBandwidth.Pipeline.Conservation

/-!
# The books on violations

The monitor counts violations in four places and keeps the last of them.  Over any run of
calls all of them agree with the log of the violations since the last reset.
-/

namespace SmartBandwidth

namespace SLAMonitor

/-! ## The log -/

/-- The violations that a call records. -/
def violations (rt : Runtime) (state : SLAMonitor × Store) : SLACall → List SLAViolation
  | .process ref readings times =>
      match state.1.optimizer.process rt state.2 readings ref with
      | (.error _, _, _) => []
      | (.ok _, _, store) => (state.1.config.pipelineViolation (store ref) times).toList
  | .dequeue clock =>
      expiredViolations state.1.config state.2 clock (state.1.optimizer.drain state.2).1
  | .resetSlaStats | .resetStats => []

/-- The log of the violations since the last reset, after a call. -/
def logAfter (rt : Runtime) (state : SLAMonitor × Store) (log : List SLAViolation) :
    SLACall → List SLAViolation
  | .resetSlaStats | .resetStats => []
  | .process ref readings times => log ++ violations rt state (.process ref readings times)
  | .dequeue clock => log ++ violations rt state (.dequeue clock)

/-- A call on a monitor beside which a log is kept. -/
def callLogged (rt : Runtime) (state : (SLAMonitor × Store) × List SLAViolation)
    (call : SLACall) : Option ((SLAMonitor × Store) × List SLAViolation) :=
  (SLAMonitor.call rt state.1 call).map fun next => (next, logAfter rt state.1 state.2 call)

/-! ## One violation -/

/-- The counters and the ring, which has a limit, agree with a log. -/
structure Books (limit : Nat) (monitor : SLAMonitor) (log : List SLAViolation) : Prop where
  logged : monitor.totalViolations = log.length
  total : monitor.totalViolations =
    ∑ priority, monitor.pipelineViolations priority + ∑ priority, monitor.sojournViolations priority
  expired : monitor.packetsExpired = ∑ priority, monitor.sojournViolations priority
  recent : monitor.recent.Holds log
  limit_eq : monitor.recent.limit = limit

section Books

variable {limit : Nat} {monitor : SLAMonitor} {log : List SLAViolation}

theorem Books.wrapping (books : Books limit monitor log) (optimizer : BandwidthOptimizer) :
    Books limit { monitor with optimizer := optimizer } log :=
  ⟨books.logged, books.total, books.expired, books.recent, books.limit_eq⟩

theorem Books.resetSlaStats (books : Books limit monitor log) :
    Books limit monitor.resetSlaStats [] where
  logged := rfl
  total := by simp [SLAMonitor.resetSlaStats]
  expired := by simp [SLAMonitor.resetSlaStats]
  recent := monitor.recent.clear_holds
  limit_eq := books.limit_eq

theorem sum_bump (counts : TrafficPriority → Nat) (priority : TrafficPriority) :
    ∑ other, bump counts priority other = (∑ other, counts other) + 1 :=
  TrafficPriority.sum_increment counts priority

/-- A pipeline violation moves the total and one pipeline counter. -/
theorem Books.recordViolation (books : Books limit monitor log) {violation : SLAViolation}
    (pipeline : violation.violationType = .pipeline) :
    Books limit (monitor.recordViolation violation) (log ++ [violation]) := by
  rw [SLAMonitor.recordViolation, pipeline]
  constructor
  · simp [books.logged]
  · simp only [sum_bump, books.total]
    omega
  · exact books.expired
  · exact books.recent.append violation
  · exact books.limit_eq

/-- A sojourn violation moves the total, one sojourn counter and the expired packets. -/
theorem Books.expire (books : Books limit monitor log) {violation : SLAViolation}
    (sojourn : violation.violationType = .sojourn) :
    Books limit (monitor.expire violation) (log ++ [violation]) := by
  rw [SLAMonitor.expire, SLAMonitor.recordViolation, sojourn]
  constructor
  · simp [books.logged]
  · simp only [sum_bump, books.total]
    omega
  · simp only [sum_bump, books.expired]
  · exact books.recent.append violation
  · exact books.limit_eq

theorem Books.foldl_expire (books : Books limit monitor log) {violations : List SLAViolation}
    (sojourn : ∀ violation ∈ violations, violation.violationType = .sojourn) :
    Books limit (violations.foldl SLAMonitor.expire monitor) (log ++ violations) := by
  induction violations generalizing monitor log with
  | nil => rwa [List.append_nil]
  | cons violation rest ih =>
      rw [List.forall_mem_cons] at sojourn
      have next := ih (books.expire sojourn.1) sojourn.2
      rwa [List.append_assoc] at next

end Books

theorem expiredViolations_sojourn (config : SLAConfig) (store : Store) (clock : SojournClock)
    (refs : List PacketRef) :
    ∀ violation ∈ expiredViolations config store clock refs,
      violation.violationType = .sojourn := by
  induction refs generalizing clock with
  | nil => exact fun violation member => absurd member List.not_mem_nil
  | cons ref rest ih =>
      have checks := config.sojournViolation_checks (store ref) (clock.monotonic 0) (clock.time 0)
      rw [expiredViolations]
      generalize config.sojournViolation (store ref) (clock.monotonic 0) (clock.time 0) =
        outcome at checks
      cases checks with
      | fresh => exact fun violation member => absurd member List.not_mem_nil
      | expired _ sojourn => exact List.forall_mem_cons.mpr ⟨sojourn, ih clock.later⟩

theorem pipelineViolation_type {config : SLAConfig} {packet : Packet} {times : PipelineTimes}
    {violation : SLAViolation}
    (violated : config.pipelineViolation packet times = some violation) :
    violation.violationType = .pipeline := by
  simp only [SLAConfig.pipelineViolation] at violated
  split at violated
  next => cases violated
  next =>
    split at violated
    next => cases violated
    next =>
      obtain ⟨_, same⟩ := Option.ite_none_right_eq_some.mp violated
      cases same
      rfl

/-! ## One call -/

section Call

variable {rt : Runtime} {limit : Nat} {monitor : SLAMonitor} {log : List SLAViolation}

theorem Books.process (books : Books limit monitor log) (store : Store) (readings : ProcessReadings)
    (times : PipelineTimes) (ref : PacketRef) :
    Books limit (monitor.process rt store readings times ref).2.1
      (log ++ violations rt (monitor, store) (.process ref readings times)) := by
  simp only [SLAMonitor.process, violations]
  generalize monitor.optimizer.process rt store readings ref = outcome
  obtain ⟨result, optimizer, store⟩ := outcome
  have rest := books.wrapping optimizer
  cases result with
  | error raised =>
      rw [List.append_nil]
      exact rest
  | ok result =>
      simp only
      cases violated : monitor.config.pipelineViolation (store ref) times with
      | none =>
          rw [Option.toList_none, List.append_nil]
          exact rest
      | some violation => exact rest.recordViolation (pipelineViolation_type violated)

theorem process_optimizer (store : Store) (readings : ProcessReadings) (times : PipelineTimes)
    (ref : PacketRef) :
    (monitor.process rt store readings times ref).2.1.optimizer =
      (monitor.optimizer.process rt store readings ref).2.1 := by
  simp only [SLAMonitor.process]
  generalize monitor.optimizer.process rt store readings ref = outcome
  obtain ⟨result, optimizer, store⟩ := outcome
  cases result with
  | error raised => rfl
  | ok result =>
      simp only
      split
      next => rfl
      next => exact recordViolation_optimizer _ _

/-- What holds of a monitor beside its log: its books, and that its queue is in order if that
of the optimizer was at first. -/
structure Kept (ordered : Prop) (limit : Nat)
    (state : (SLAMonitor × Store) × List SLAViolation) : Prop where
  books : Books limit state.1.1 state.2
  heap : ordered → state.1.1.optimizer.engine.HeapOrdered

/-- Every call returns and keeps the books. -/
theorem callLogged_kept {ordered : Prop} {state : (SLAMonitor × Store) × List SLAViolation}
    (call : SLACall) (kept : Kept ordered limit state) :
    ∃ next, callLogged rt state call = some next ∧ Kept ordered limit next := by
  obtain ⟨⟨monitor, store⟩, log⟩ := state
  cases call with
  | process ref readings times =>
      refine ⟨_, rfl, kept.books.process store readings times ref, ?_⟩
      intro ordered
      rw [process_optimizer]
      exact BandwidthOptimizer.process_heapOrdered (kept.heap ordered) rt store readings ref
  | dequeue clock =>
      obtain ⟨answer, after, passed, left, returns, skips⟩ :=
        dequeue_skipsExpired monitor store clock
      refine ⟨((after, store), log ++ violations rt (monitor, store) (.dequeue clock)), ?_, ?_, ?_⟩
      · rw [callLogged, SLAMonitor.call, returns]
        rfl
      · have recorded := kept.books.foldl_expire
          (expiredViolations_sojourn monitor.config store clock (monitor.optimizer.drain store).1)
        rw [skips.recorded]
        exact recorded.wrapping after.optimizer
      · exact fun ordered => skips.heap (kept.heap ordered)
  | resetSlaStats => exact ⟨_, rfl, kept.books.resetSlaStats, kept.heap⟩
  | resetStats =>
      refine ⟨_, rfl, (kept.books.wrapping _).resetSlaStats, ?_⟩
      exact fun ordered => Engine.resetStats_heapOrdered (kept.heap ordered)

end Call

/-! ## Runs -/

/-- The statistics agree with each other, and with the log of the violations since the last
reset: the recent violations are its last ones, as many as there are up to the limit. -/
structure Consistent (stats : SLAStats) (limit : Int) (log : List SLAViolation) : Prop where
  total : stats.totalViolations =
    ∑ priority, stats.pipelineViolations priority + ∑ priority, stats.sojournViolations priority
  expired : stats.packetsExpired = ∑ priority, stats.sojournViolations priority
  logged : stats.totalViolations = log.length
  recent : stats.recentViolations <:+ log
  recent_length : (stats.recentViolations.length : Int) = min (stats.totalViolations : Int) limit

theorem Books.consistent {limit : Int} {monitor : SLAMonitor} {log : List SLAViolation}
    (books : Books limit.toNat monitor log) (nonneg : 0 ≤ limit) :
    Consistent monitor.slaStats limit log where
  total := books.total
  expired := books.expired
  logged := books.logged
  recent := books.recent.suffix
  recent_length := by
    have held := books.recent.length_eq
    rw [books.limit_eq, ← books.logged] at held
    simp only [slaStats, held, Nat.cast_min, Int.toNat_of_nonneg nonneg]

theorem init_books {optimizer : BandwidthOptimizer} {config : SLAConfig} {monitor : SLAMonitor}
    (created : init optimizer config = .ok monitor) :
    Books config.maxViolationsTracked.toNat monitor [] ∧ monitor.optimizer = optimizer ∧
      0 ≤ config.maxViolationsTracked := by
  rw [init] at created
  split at created
  next => cases created
  next nonneg =>
    cases created
    refine ⟨⟨rfl, ?_, ?_, RingBuffer.empty_holds _, rfl⟩, rfl, not_lt.mp nonneg⟩
    · simp
    · simp

/-- Every sequence of calls on a new monitor returns and leaves consistent statistics.  Then a
further `dequeue` returns the first packet that is not past its ceiling when it is examined,
and takes it and those before it; they are examined in the order of service. -/
theorem dequeue_and_counters (rt : Runtime) (optimizer : BandwidthOptimizer) (config : SLAConfig)
    (monitor : SLAMonitor) (created : init optimizer config = .ok monitor) (store : Store)
    (calls : List SLACall) :
    ∃ reached log, replay (callLogged rt) ((monitor, store), []) calls = some (reached, log) ∧
      Consistent reached.1.slaStats config.maxViolationsTracked log ∧
      (∀ clock, ∃ answer after passed left,
        reached.1.dequeue reached.2 clock = some (answer, after) ∧
          reached.1.SkipsExpired reached.2 clock answer after passed left) ∧
      (optimizer.engine.HeapOrdered → reached.1.optimizer.engine.InServiceOrder
        (reached.1.optimizer.drain reached.2).1) := by
  obtain ⟨initial, wraps, nonneg⟩ := init_books created
  have enabled (state : (SLAMonitor × Store) × List SLAViolation) (call : SLACall)
      (kept : Kept optimizer.engine.HeapOrdered config.maxViolationsTracked.toNat state) :
      ∃ next, callLogged rt state call = some next ∧
        Kept optimizer.engine.HeapOrdered config.maxViolationsTracked.toNat next :=
    callLogged_kept call kept
  have start : Kept optimizer.engine.HeapOrdered config.maxViolationsTracked.toNat
      ((monitor, store), []) := by
    refine ⟨initial, ?_⟩
    rw [wraps]
    exact id
  obtain ⟨⟨reached, log⟩, replays, kept⟩ := replay.exists_of_enabled enabled start calls
  refine ⟨reached, log, replays, kept.books.consistent nonneg,
    dequeue_skipsExpired reached.1 reached.2, ?_⟩
  intro ordered
  exact Engine.drain_inServiceOrder (kept.heap ordered) reached.2

/-- A critical packet that takes 600 microseconds, and one `dequeue` after it. -/
def slowCall : List SLACall :=
  [.process 0 (.frozen 0 0) { start := 0, finish := 600000, timestamp := 1 },
    .dequeue { monotonic := fun _ => 1, time := fun _ => 2 }]

theorem dequeue_and_counters_slowCall :
    ∃ optimizer monitor, BandwidthOptimizer.init {} none (fun _ => 0) = .ok optimizer ∧
      init optimizer = .ok monitor ∧
      ∃ reached log,
        replay (callLogged .plain) ((monitor, fun _ => { priority := some .critical }), [])
          slowCall = some (reached, log) ∧
        Consistent reached.1.slaStats 200 log ∧
        reached.1.optimizer.engine.InServiceOrder (reached.1.optimizer.drain reached.2).1 := by
  obtain ⟨optimizer, constructed⟩ := BandwidthOptimizer.default_constructs
  obtain ⟨reached, log, replays, consistent, _, order⟩ := dequeue_and_counters .plain optimizer {}
    _ rfl (fun _ => { priority := some .critical }) slowCall
  exact ⟨optimizer, _, constructed, rfl, reached, log, replays, consistent,
    order (BandwidthOptimizer.init_heapOrdered constructed)⟩

end SLAMonitor

end SmartBandwidth
