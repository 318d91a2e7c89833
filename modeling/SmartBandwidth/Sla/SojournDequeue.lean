import SmartBandwidth.Sla.SLAMonitor
import SmartBandwidth.Pipeline.ServiceOrder

/-!
# What the monitor's `dequeue` answers

The loop takes packets in service order, each against the clock at the moment it is
examined, until one is not past its ceiling.  It ends because each round shortens the queue.
-/

namespace SmartBandwidth

/-- The packet is past the sojourn ceiling of its class at a time. -/
def SLAConfig.Expired (config : SLAConfig) (packet : Packet) (now : ℚ) : Prop :=
  ∃ priority enqueuedAt ceilingMs, packet.priority = some priority ∧
    packet.enqueuedAt = some enqueuedAt ∧ config.sojournCeilingMs priority = some ceilingMs ∧
    ceilingMs < (now - enqueuedAt) * 1000

/-- The two outcomes of the sojourn check. -/
inductive SLAConfig.Checks (config : SLAConfig) (packet : Packet) (now : ℚ) :
    Option SLAViolation → Prop where
  | fresh : ¬ config.Expired packet now → Checks config packet now none
  | expired {violation : SLAViolation} : config.Expired packet now →
      violation.violationType = .sojourn → Checks config packet now (some violation)

/-- A violation is found exactly when the packet is past its ceiling. -/
theorem SLAConfig.sojournViolation_checks (config : SLAConfig) (packet : Packet)
    (monotonic time : ℚ) :
    config.Checks packet monotonic (config.sojournViolation packet monotonic time) := by
  rw [sojournViolation]
  split
  next priority enqueuedAt classed stamped =>
    split
    next unlimited =>
      apply Checks.fresh
      intro ⟨_, _, ceilingMs, classed', _, limited, _⟩
      rw [classed] at classed'
      cases classed'
      rw [unlimited] at limited
      cases limited
    next ceilingMs limited =>
      simp only
      split
      next exceeds =>
        exact .expired ⟨priority, enqueuedAt, ceilingMs, classed, stamped, limited, exceeds⟩ rfl
      next within =>
        apply Checks.fresh
        intro ⟨_, _, _, classed', stamped', limited', exceeds⟩
        rw [classed] at classed'
        cases classed'
        rw [stamped] at stamped'
        cases stamped'
        rw [limited] at limited'
        cases limited'
        exact within exceeds
  next unclassed =>
    apply Checks.fresh
    intro ⟨priority, enqueuedAt, _, classed, stamped, _⟩
    exact unclassed priority enqueuedAt classed stamped

/-- The violations of the expired packets that head a queue. -/
def expiredViolations (config : SLAConfig) (store : Store) :
    SojournClock → List PacketRef → List SLAViolation
  | _, [] => []
  | clock, ref :: rest =>
      match config.sojournViolation (store ref) (clock.monotonic 0) (clock.time 0) with
      | none => []
      | some violation => violation :: expiredViolations config store clock.later rest

namespace SLAMonitor

/-- A `dequeue` passes over expired packets to the first that is not, and leaves those behind
it in their order. -/
structure SkipsExpired (monitor : SLAMonitor) (store : Store) (clock : SojournClock)
    (answer : Option PacketRef) (after : SLAMonitor) (passed left : List PacketRef) :
    Prop where
  order : (monitor.optimizer.drain store).1 = passed ++ answer.toList ++ left
  expired : ∀ index ref, passed[index]? = some ref →
    monitor.config.Expired (store ref) (clock.monotonic index)
  fresh : ∀ ref, answer = some ref →
    ¬ monitor.config.Expired (store ref) (clock.monotonic passed.length)
  exhausted : answer = none → left = []
  kept : (after.optimizer.drain store).1 = left
  recorded : after =
    { (expiredViolations monitor.config store clock (monitor.optimizer.drain store).1).foldl
        expire monitor with optimizer := after.optimizer }
  heap : monitor.optimizer.engine.HeapOrdered → after.optimizer.engine.HeapOrdered

@[simp] theorem recordViolation_optimizer (monitor : SLAMonitor) (violation : SLAViolation) :
    (monitor.recordViolation violation).optimizer = monitor.optimizer := by
  rw [recordViolation]
  split <;> rfl

@[simp] theorem recordViolation_config (monitor : SLAMonitor) (violation : SLAViolation) :
    (monitor.recordViolation violation).config = monitor.config := by
  rw [recordViolation]
  split <;> rfl

theorem expire_wrapping (monitor : SLAMonitor) (optimizer : BandwidthOptimizer)
    (violation : SLAViolation) :
    expire { monitor with optimizer := optimizer } violation =
      { monitor.expire violation with optimizer := optimizer } := by
  simp only [expire, recordViolation]
  split <;> rfl

/-- The counters do not depend on the optimizer. -/
theorem foldl_expire_wrapping (monitor : SLAMonitor) (optimizer : BandwidthOptimizer)
    (violations : List SLAViolation) :
    violations.foldl expire { monitor with optimizer := optimizer } =
      { violations.foldl expire monitor with optimizer := optimizer } := by
  induction violations generalizing monitor with
  | nil => rfl
  | cons violation rest ih => rw [List.foldl_cons, List.foldl_cons, expire_wrapping, ih]

section Loop

variable {store : Store} {clock : SojournClock} {monitor : SLAMonitor}

/-- An empty queue. -/
theorem skipsExpired_of_exhausted {optimizer : BandwidthOptimizer}
    (exhausted : monitor.optimizer.dequeue store = (none, optimizer)) :
    monitor.SkipsExpired store clock none { monitor with optimizer := optimizer } [] [] := by
  obtain ⟨nothing, same⟩ := BandwidthOptimizer.drain_of_exhausted exhausted
  subst same
  constructor
  · exact nothing
  · intro index ref found
    cases found
  · intro ref found
    cases found
  · intro _
    rfl
  · exact nothing
  · rw [nothing]
    rfl
  · exact id

/-- The first packet is within its ceiling. -/
theorem skipsExpired_of_fresh {optimizer : BandwidthOptimizer} {ref : PacketRef}
    (served : monitor.optimizer.dequeue store = (some ref, optimizer))
    (unviolated : monitor.config.sojournViolation (store ref) (clock.monotonic 0)
      (clock.time 0) = none) :
    monitor.SkipsExpired store clock (some ref) { monitor with optimizer := optimizer } []
      (optimizer.drain store).1 := by
  have first := (BandwidthOptimizer.drain_of_served served).1
  have checks := monitor.config.sojournViolation_checks (store ref) (clock.monotonic 0)
    (clock.time 0)
  rw [unviolated] at checks
  constructor
  · exact first
  · intro index ref found
    cases found
  · intro other same
    cases same
    cases checks with
    | fresh fresh => exact fresh
  · intro exhausted
    cases exhausted
  · rfl
  · rw [first, expiredViolations, unviolated]
    rfl
  · intro ordered
    have after := BandwidthOptimizer.dequeue_heapOrdered ordered store
    rwa [served] at after

/-- The first packet is past its ceiling. -/
theorem skipsExpired_of_expired {optimizer : BandwidthOptimizer} {ref : PacketRef}
    {violation : SLAViolation} {answer : Option PacketRef} {after : SLAMonitor}
    {passed left : List PacketRef}
    (served : monitor.optimizer.dequeue store = (some ref, optimizer))
    (violated : monitor.config.sojournViolation (store ref) (clock.monotonic 0)
      (clock.time 0) = some violation)
    (skips : (expire { monitor with optimizer := optimizer } violation).SkipsExpired store
      clock.later answer after passed left) :
    monitor.SkipsExpired store clock answer after (ref :: passed) left := by
  have first := (BandwidthOptimizer.drain_of_served served).1
  have checks := monitor.config.sojournViolation_checks (store ref) (clock.monotonic 0)
    (clock.time 0)
  rw [violated] at checks
  have config : (expire { monitor with optimizer := optimizer } violation).config =
      monitor.config := recordViolation_config _ violation
  have optimizerEq : (expire { monitor with optimizer := optimizer } violation).optimizer =
      optimizer := recordViolation_optimizer _ violation
  constructor
  · rw [first, ← optimizerEq, skips.order]
    rfl
  · intro index other found
    cases index with
    | zero =>
        cases found
        cases checks with
        | expired expired => exact expired
    | succ index =>
        rw [← config]
        exact skips.expired index other found
  · intro other same
    rw [← config]
    exact skips.fresh other same
  · exact skips.exhausted
  · exact skips.kept
  · have recorded := skips.recorded
    rw [config, optimizerEq, expire_wrapping, foldl_expire_wrapping] at recorded
    rw [first, expiredViolations, violated, List.foldl_cons]
    exact recorded
  · intro ordered
    apply skips.heap
    have rest := BandwidthOptimizer.dequeue_heapOrdered ordered store
    rw [served] at rest
    rwa [optimizerEq]

/-- With more fuel than packets the loop returns. -/
theorem dequeueLoop_skipsExpired {fuel : Nat} (clock : SojournClock) {monitor : SLAMonitor}
    (enough : monitor.optimizer.queueSize < fuel) :
    ∃ answer after passed left,
      dequeueLoop store fuel clock monitor = some (answer, after) ∧
        monitor.SkipsExpired store clock answer after passed left := by
  induction fuel generalizing clock monitor with
  | zero => exact absurd enough (Nat.not_lt_zero _)
  | succ fuel ih =>
      rw [dequeueLoop]
      split
      next optimizer exhausted =>
        exact ⟨none, _, [], [], rfl, skipsExpired_of_exhausted exhausted⟩
      next ref optimizer served =>
        simp only
        split
        next unviolated =>
          exact ⟨some ref, _, [], _, rfl, skipsExpired_of_fresh served unviolated⟩
        next violation violated =>
          have shorter : (expire { monitor with optimizer := optimizer }
              violation).optimizer.queueSize < fuel := by
            have size := (BandwidthOptimizer.drain_of_served served).2
            rw [size] at enough
            rw [expire_wrapping]
            exact Nat.lt_of_succ_lt_succ enough
          obtain ⟨answer, after, passed, left, returns, skips⟩ := ih clock.later shorter
          exact ⟨answer, after, ref :: passed, left, returns,
            skipsExpired_of_expired served violated skips⟩

end Loop

/-- `dequeue` always returns. -/
theorem dequeue_skipsExpired (monitor : SLAMonitor) (store : Store) (clock : SojournClock) :
    ∃ answer after passed left, monitor.dequeue store clock = some (answer, after) ∧
      monitor.SkipsExpired store clock answer after passed left :=
  dequeueLoop_skipsExpired clock (Nat.lt_succ_self _)

end SLAMonitor

end SmartBandwidth
