import SmartBandwidth.Sla.Backpressure
import SmartBandwidth.Pipeline.Processing

/-!
# The recommended throttle

Between the thresholds the throttle grows linearly with the fill of the queue and is rounded to
one decimal.  Rounding keeps the order of two recommendations and their range; it does not keep
the recommendations between the thresholds apart from those outside.
-/

namespace SmartBandwidth

theorem BackpressureLevel.severity_le_hard (level : BackpressureLevel) :
    level.severity ≤ hard.severity := by
  cases level <;> decide

namespace BackpressureMonitor

variable {monitor : BackpressureMonitor} {fillRatio : ℚ}

/-- The throttle between the thresholds before it is rounded. -/
def interpolated (monitor : BackpressureMonitor) (fillRatio : ℚ) : ℚ :=
  (fillRatio - monitor.soft) / (monitor.hard - monitor.soft) * 100

/-- The level and the throttle in the three regions of the fill ratio. -/
inductive Computes (monitor : BackpressureMonitor) (fillRatio : ℚ) :
    BackpressureLevel × ℚ → Prop where
  | hard : monitor.hard ≤ fillRatio → Computes monitor fillRatio (.hard, 100)
  | soft : monitor.soft ≤ fillRatio → fillRatio < monitor.hard →
      Computes monitor fillRatio
        (.soft, Rounding.round (monitor.interpolated fillRatio) 1)
  | none : fillRatio < monitor.soft → Computes monitor fillRatio (.none, 0)

theorem computeLevel_computes (monitor : BackpressureMonitor) (fillRatio : ℚ) :
    monitor.Computes fillRatio (monitor.computeLevel fillRatio) := by
  rw [computeLevel]
  split
  next full => exact .hard full
  next room =>
    split
    next filling => exact .soft filling (not_le.mp room)
    next healthy => exact .none (not_le.mp healthy)

theorem gap_pos (monitor : BackpressureMonitor) : 0 < monitor.hard - monitor.soft :=
  sub_pos.mpr monitor.soft_lt_hard

theorem interpolated_mono (monitor : BackpressureMonitor) : Monotone monitor.interpolated := by
  intro less more ordered
  apply mul_le_mul_of_nonneg_right _ (by norm_num)
  exact div_le_div_of_nonneg_right (sub_le_sub_right ordered _) monitor.gap_pos.le

theorem interpolated_soft (monitor : BackpressureMonitor) :
    monitor.interpolated monitor.soft = 0 := by
  simp [interpolated]

theorem interpolated_hard (monitor : BackpressureMonitor) :
    monitor.interpolated monitor.hard = 100 := by
  rw [interpolated, div_self monitor.gap_pos.ne', one_mul]

/-- The rounded throttle stays in its range up to the edges. -/
theorem round_interpolated_bounds (least : monitor.soft ≤ fillRatio)
    (greatest : fillRatio ≤ monitor.hard) :
    0 ≤ Rounding.round (monitor.interpolated fillRatio) 1 ∧
      Rounding.round (monitor.interpolated fillRatio) 1 ≤ 100 := by
  have lower := Rounding.round_mono 1 (monitor.interpolated_mono least)
  have upper := Rounding.round_mono 1 (monitor.interpolated_mono greatest)
  simp only [interpolated_soft, interpolated_hard] at lower upper
  rw [← Int.cast_zero, Rounding.round_intCast] at lower
  rw [show (100 : ℚ) = (100 : Int) by norm_num, Rounding.round_intCast] at upper
  exact ⟨by exact_mod_cast lower, by exact_mod_cast upper⟩

/-- Each throttle is in its range, with its ends at the outer levels. -/
structure InRange (answer : BackpressureLevel × ℚ) : Prop where
  nonneg : 0 ≤ answer.2
  le_hundred : answer.2 ≤ 100
  of_none : answer.1 = .none → answer.2 = 0
  of_hard : answer.1 = .hard → answer.2 = 100

theorem Computes.inRange {answer : BackpressureLevel × ℚ}
    (computes : monitor.Computes fillRatio answer) : InRange answer := by
  cases computes with
  | hard => exact ⟨by norm_num, le_rfl, nofun, fun _ => rfl⟩
  | soft filling room =>
      obtain ⟨nonneg, le_hundred⟩ := round_interpolated_bounds filling room.le
      exact ⟨nonneg, le_hundred, nofun, nofun⟩
  | none => exact ⟨le_rfl, by norm_num, fun _ => rfl, nofun⟩

/-- A fuller queue gets no milder level and no smaller throttle. -/
theorem Computes.mono {less more : ℚ} {answer answer' : BackpressureLevel × ℚ}
    (first : monitor.Computes less answer) (second : monitor.Computes more answer')
    (ordered : less ≤ more) : answer.1.severity ≤ answer'.1.severity ∧ answer.2 ≤ answer'.2 := by
  have range := second.inRange
  cases second with
  | hard => exact ⟨answer.1.severity_le_hard, first.inRange.le_hundred⟩
  | soft _ room =>
      cases first with
      | hard full => exact absurd (full.trans ordered) (not_le.mpr room)
      | soft => exact ⟨le_rfl, Rounding.round_mono 1 (monitor.interpolated_mono ordered)⟩
      | none => exact ⟨Nat.zero_le _, range.nonneg⟩
  | none healthy =>
      have room : ¬ monitor.soft ≤ less := not_le.mpr (ordered.trans_lt healthy)
      cases first with
      | hard full => exact absurd (monitor.soft_lt_hard.le.trans full) room
      | soft filling _ => exact absurd filling room
      | none => exact ⟨le_rfl, le_rfl⟩

/-- A fuller queue never gets a milder level or a smaller throttle; every throttle is between 0
and 100, and it is 0 without back-pressure and 100 under a hard one. -/
theorem throttle_monotone (monitor : BackpressureMonitor) {less more : ℚ}
    (ordered : less ≤ more) :
    (monitor.computeLevel less).1.severity ≤ (monitor.computeLevel more).1.severity ∧
      (monitor.computeLevel less).2 ≤ (monitor.computeLevel more).2 ∧
      ∀ fillRatio, InRange (monitor.computeLevel fillRatio) := by
  obtain ⟨level, throttle⟩ :=
    (monitor.computeLevel_computes less).mono (monitor.computeLevel_computes more) ordered
  exact ⟨level, throttle, fun fillRatio => (monitor.computeLevel_computes fillRatio).inRange⟩

/-- A default monitor on a queue that fills from 70 to 80 percent. -/
theorem throttle_monotone_filling :
    ∃ monitor, init = .ok monitor ∧
      (monitor.computeLevel (7 / 10)).2 ≤ (monitor.computeLevel (8 / 10)).2 := by
  obtain ⟨monitor, created⟩ := default_init
  exact ⟨monitor, created, (monitor.throttle_monotone (by norm_num)).2.1⟩

/-! ## The edges of the soft region -/

/-- Between the thresholds the level is soft. -/
theorem computeLevel_soft (above : monitor.soft ≤ fillRatio) (below : fillRatio < monitor.hard) :
    monitor.computeLevel fillRatio =
      (.soft, Rounding.round (monitor.interpolated fillRatio) 1) := by
  rw [computeLevel, if_neg (not_le.mpr below), if_pos above]
  rfl

/-- The throttle in units of its last digit. -/
theorem interpolated_scaled (monitor : BackpressureMonitor) (fillRatio : ℚ) :
    monitor.interpolated fillRatio * 10 ^ 1 =
      (fillRatio - monitor.soft) * 1000 / (monitor.hard - monitor.soft) := by
  rw [interpolated]
  ring

/-- The rounded throttle is not 0 when the fill ratio is a part in 2000 of the way into the soft
region. -/
theorem round_interpolated_pos_iff :
    0 < Rounding.round (monitor.interpolated fillRatio) 1 ↔
      (monitor.hard - monitor.soft) / 2000 < fillRatio - monitor.soft := by
  rw [Rounding.round_pos_iff, interpolated_scaled, lt_div_iff₀ monitor.gap_pos]
  constructor <;> intro past <;> linarith

/-- The rounded throttle is not 100 when the fill ratio is a part in 2000 of the way before the
end of the soft region. -/
theorem round_interpolated_lt_iff :
    Rounding.round (monitor.interpolated fillRatio) 1 < 100 ↔
      (monitor.hard - monitor.soft) / 2000 < monitor.hard - fillRatio := by
  rw [show (100 : ℚ) = (100 : Int) by norm_num, Rounding.round_lt_iff (by decide),
    interpolated_scaled, div_lt_iff₀ monitor.gap_pos]
  constructor <;> intro below <;> push_cast at below ⊢ <;> linarith

/-- Strictly between the thresholds the level is soft, and the recommendation is neither to stop
nor not to throttle exactly when the fill ratio keeps a part in 2000 of the distance of the
thresholds from both of them. -/
theorem soft_throttle_strict_iff (monitor : BackpressureMonitor) {fillRatio : ℚ}
    (above : monitor.soft < fillRatio) (below : fillRatio < monitor.hard) :
    ((monitor.computeLevel fillRatio).1 = .soft ∧ 0 < (monitor.computeLevel fillRatio).2 ∧
        (monitor.computeLevel fillRatio).2 < 100) ↔
      (monitor.hard - monitor.soft) / 2000 < fillRatio - monitor.soft ∧
        (monitor.hard - monitor.soft) / 2000 < monitor.hard - fillRatio := by
  rw [computeLevel_soft above.le below, round_interpolated_pos_iff, round_interpolated_lt_iff]
  exact and_iff_right rfl

/-- A default monitor on a queue that is full to 70 percent. -/
theorem soft_throttle_strict_filling :
    ∃ monitor, init = .ok monitor ∧ 0 < (monitor.computeLevel (7 / 10)).2 ∧
      (monitor.computeLevel (7 / 10)).2 < 100 := by
  obtain ⟨monitor, created⟩ := default_init
  obtain ⟨soft, hard, _, _⟩ := init_parameters created
  have strict := @soft_throttle_strict_iff monitor (7 / 10)
    (by rw [soft]; norm_num) (by rw [hard]; norm_num)
  rw [soft, hard] at strict
  exact ⟨monitor, created, (strict.mpr (by norm_num)).2⟩

/-- A queue of three packets. -/
def threeSlots : OptimizerConfig where
  maxQueueSize := 3

/-- What the monitor says of such a queue after some packets, with thresholds just below one
third and just above two thirds. -/
def nearThirds (packets : List PacketRef) : Option (BackpressureLevel × ℚ × ℚ) :=
  (BandwidthOptimizer.init threeSlots none fun _ => 0).toOption.bind fun optimizer =>
    (init (3333 / 10000) (6667 / 10000)).toOption.map fun monitor =>
      let calls := packets.map fun ref => OptimizerCall.process ref (.frozen 0 0)
      let reached := (Machine.run (BandwidthOptimizer.call .plain)
        (optimizer, fun _ => { priority := some .critical }) calls).2
      let state := (monitor.update (reached.1.stats fun _ => 0) 0).1
      (state.level, state.queueFillRatio, state.recommendedThrottlePct)

/-- One packet in the queue of three is above the soft threshold and is recommended no throttle;
two are below the hard threshold and are recommended a full stop. -/
theorem soft_throttle_rounds_to_ends :
    (3333 / 10000 : ℚ) < 1 / 3 ∧ nearThirds [0] = some (.soft, 1 / 3, 0) ∧
      (2 / 3 : ℚ) < 6667 / 10000 ∧ nearThirds [0, 1] = some (.soft, 2 / 3, 100) := by
  refine ⟨by norm_num, by decide +kernel, by norm_num, by decide +kernel⟩

end BackpressureMonitor

end SmartBandwidth
