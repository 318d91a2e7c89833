import SmartBandwidth.Pipeline.Optimizer
import Mathlib.Algebra.BigOperators.Group.Finset.Basic

/-!
# Back-pressure

The monitor samples the statistics of an optimizer.  The fill of the queue against two
thresholds gives a level and a recommended throttle, and the samples of a rolling window give
estimates of the arrival and the drain rate.
-/

namespace SmartBandwidth

/-- `BackpressureLevel`. -/
inductive BackpressureLevel where
  | none
  | soft
  | hard
  deriving DecidableEq, Repr

/-- The value of a level in the enumeration. -/
def BackpressureLevel.value : BackpressureLevel → String
  | .none => "none"
  | .soft => "soft"
  | .hard => "hard"

/-- The order of the levels from healthy to full. -/
def BackpressureLevel.severity : BackpressureLevel → Nat
  | .none => 0
  | .soft => 1
  | .hard => 2

/-- `BackpressureState`. -/
structure BackpressureState where
  level : BackpressureLevel
  queueFillRatio : ℚ
  arrivalRatePps : ℚ
  drainRatePps : ℚ
  recommendedThrottlePct : ℚ
  deriving DecidableEq, Repr

/-- One entry of `_samples`. -/
structure RateSample where
  time : ℚ
  packetsReceived : Nat
  packetsForwarded : Nat
  deriving DecidableEq, Repr

/-- The monitor; its thresholds are those the constructor accepts. -/
structure BackpressureMonitor where
  soft : ℚ
  hard : ℚ
  window : ℚ
  soft_pos : 0 < soft
  soft_lt_hard : soft < hard
  hard_le_one : hard ≤ 1
  samples : List RateSample
  lastState : BackpressureState

namespace BackpressureMonitor

/-- `__init__`. -/
def init (softThreshold : ℚ := 6 / 10) (hardThreshold : ℚ := 85 / 100)
    (windowSeconds : ℚ := 5) : Except PyError BackpressureMonitor :=
  if accepted : 0 < softThreshold ∧ softThreshold < hardThreshold ∧ hardThreshold ≤ 1 then
    .ok
      { soft := softThreshold
        hard := hardThreshold
        window := windowSeconds
        soft_pos := accepted.1
        soft_lt_hard := accepted.2.1
        hard_le_one := accepted.2.2
        samples := []
        lastState :=
          { level := .none
            queueFillRatio := 0
            arrivalRatePps := 0
            drainRatePps := 0
            recommendedThrottlePct := 0 } }
  else
    .error (.valueError "soft_threshold must be < hard_threshold; both in (0, 1]")

/-- `_compute_level`. -/
def computeLevel (monitor : BackpressureMonitor) (fillRatio : ℚ) : BackpressureLevel × ℚ :=
  if monitor.hard ≤ fillRatio then
    (.hard, 100)
  else if monitor.soft ≤ fillRatio then
    let frac := (fillRatio - monitor.soft) / (monitor.hard - monitor.soft)
    (.soft, Rounding.round (frac * 100) 1)
  else
    (.none, 0)

/-- The rates from the oldest to the newest sample. -/
def ratesBetween (oldest newest : RateSample) : ℚ × ℚ :=
  let dt := newest.time - oldest.time
  if dt ≤ 0 then
    (0, 0)
  else
    let arrivalPps := ((newest.packetsReceived : ℚ) - oldest.packetsReceived) / dt
    let drainPps := ((newest.packetsForwarded : ℚ) - oldest.packetsForwarded) / dt
    (max 0 arrivalPps, max 0 drainPps)

/-- `_compute_rates`. -/
def computeRates (monitor : BackpressureMonitor) : ℚ × ℚ :=
  if monitor.samples.length < 2 then
    (0, 0)
  else
    match monitor.samples.head?, monitor.samples.getLast? with
    | some oldest, some newest => ratesBetween oldest newest
    | _, _ => (0, 0)

/-- The sample taken of an optimizer's statistics at a time. -/
def sampleOf (raw : OptimizerStats) (now : ℚ) : RateSample where
  time := now
  packetsReceived := raw.packetsReceived
  packetsForwarded := ∑ priority, raw.queue.dequeueCounts priority

/-- `update`, with the statistics it has read before the clock. -/
def update (monitor : BackpressureMonitor) (raw : OptimizerStats) (now : ℚ) :
    BackpressureState × BackpressureMonitor :=
  let fillRatio := raw.queue.fillRatio
  let samples := monitor.samples ++ [sampleOf raw now]
  let cutoff := now - monitor.window
  let monitor := { monitor with
    samples := samples.dropWhile fun sample => decide (sample.time < cutoff) }
  let (arrivalPps, drainPps) := monitor.computeRates
  let (level, throttlePct) := monitor.computeLevel fillRatio
  let state : BackpressureState :=
    { level := level
      queueFillRatio := fillRatio
      arrivalRatePps := arrivalPps
      drainRatePps := drainPps
      recommendedThrottlePct := throttlePct }
  (state, { monitor with lastState := state })

/-- `state`. -/
def state (monitor : BackpressureMonitor) : BackpressureState := monitor.lastState

section Init

variable {softThreshold hardThreshold windowSeconds : ℚ}

/-- The constructor accepts exactly the thresholds a monitor can have. -/
theorem init_eq_ok_iff :
    (∃ monitor, init softThreshold hardThreshold windowSeconds = .ok monitor) ↔
      0 < softThreshold ∧ softThreshold < hardThreshold ∧ hardThreshold ≤ 1 := by
  rw [init]
  split
  next accepted => exact iff_of_true ⟨_, rfl⟩ accepted
  next rejected => exact iff_of_false nofun rejected

/-- A new monitor has the parameters it was given and no samples. -/
theorem init_parameters {monitor : BackpressureMonitor}
    (created : init softThreshold hardThreshold windowSeconds = .ok monitor) :
    monitor.soft = softThreshold ∧ monitor.hard = hardThreshold ∧
      monitor.window = windowSeconds ∧ monitor.samples = [] := by
  rw [init] at created
  split at created
  next =>
    cases created
    exact ⟨rfl, rfl, rfl, rfl⟩
  next => cases created

end Init

/-- The default thresholds are accepted. -/
theorem default_init : ∃ monitor, init = .ok monitor :=
  init_eq_ok_iff.mpr (by norm_num)

end BackpressureMonitor

end SmartBandwidth
