import SmartBandwidth.Benchmark.StressBooks

/-!
# The rate of a stress run

Every worker sleeps before it sends again, so that however the threads interleave, however fast the
optimizer answers and whatever the pattern, the packets sent stay below the rate that the pattern
reaches at its peak.  Where no rate is left to follow, a worker sends a hundred packets a second.
-/

namespace SmartBandwidth

open StressTester

/-! ## The sleep -/

/-- The rate that `sleep_s` keeps. -/
def StressTester.pace (currentPps : ℚ) : ℚ := if 0 < currentPps then currentPps else 100

theorem StressTester.sleepSeconds_eq (currentPps : ℚ) :
    sleepSeconds currentPps = 1 / pace currentPps := by
  rw [sleepSeconds, pace]
  split <;> rfl

theorem StressTester.pace_pos (currentPps : ℚ) : 0 < pace currentPps := by
  rw [pace]
  split
  next positive => exact positive
  next => norm_num

/-- Slowing a rate down does not raise it. -/
theorem StressTester.pace_mul_le {pps factor : ℚ} (positive : 0 < factor) (slower : factor ≤ 1) :
    pace (pps * factor) ≤ pace pps := by
  rw [pace, pace]
  split
  next fast =>
    have base : 0 < pps := pos_of_mul_pos_left fast positive.le
    rw [if_pos base]
    exact mul_le_of_le_one_right base.le slower
  next still =>
    have none : ¬ 0 < pps := fun base => still (mul_pos base positive)
    rw [if_neg none]

namespace StressConfig

/-- The rate of one worker at the peak of the pattern. -/
def peakPps (cfg : StressConfig) : ℚ :=
  match cfg.pattern with
  | .burstFlood => max (pace cfg.perThreadPps) (pace (cfg.perThreadPps * cfg.burstMultiplier))
  | .uniform | .oscillating | .priorityInversion | .allCritical => pace cfg.perThreadPps

theorem peakPps_pos (cfg : StressConfig) : 0 < cfg.peakPps := by
  rw [peakPps]
  cases cfg.pattern with
  | burstFlood => exact lt_max_of_lt_left (pace_pos _)
  | uniform | oscillating | priorityInversion | allCritical => exact pace_pos _

theorem pace_le_peakPps (sine : ℚ → Set.Icc (-1 : ℚ) 1) (cfg : StressConfig) (elapsed : ℚ) :
    pace (cfg.perThreadPps *
      rateMultiplier sine cfg.pattern elapsed cfg.burstMultiplier) ≤ cfg.peakPps := by
  rw [peakPps]
  cases cfg.pattern with
  | uniform | priorityInversion | allCritical =>
      simp only [rateMultiplier, mul_one]
      exact le_rfl
  | burstFlood =>
      simp only [rateMultiplier]
      split
      next => exact le_max_right _ _
      next =>
        rw [mul_one]
        exact le_max_left _ _
  | oscillating =>
      obtain ⟨lower, upper⟩ := (sine elapsed).property
      simp only [rateMultiplier]
      apply pace_mul_le
      · linarith
      · linarith

/-- The time a worker waits at least from one packet to the next. -/
def gap (cfg : StressConfig) : ℚ := 1 / cfg.peakPps

theorem gap_pos (cfg : StressConfig) : 0 < cfg.gap := one_div_pos.mpr cfg.peakPps_pos

theorem gap_le_sleepSeconds (sine : ℚ → Set.Icc (-1 : ℚ) 1) (cfg : StressConfig) (elapsed : ℚ) :
    cfg.gap ≤ sleepSeconds (cfg.perThreadPps *
      rateMultiplier sine cfg.pattern elapsed cfg.burstMultiplier) := by
  rw [sleepSeconds_eq]
  exact one_div_le_one_div_of_le (pace_pos _) (pace_le_peakPps sine cfg elapsed)

end StressConfig

/-! ## One worker -/

/-- When the packets a worker has sent are due at the earliest: one gap apart from its start. -/
def Worker.due (cfg : StressConfig) (worker : Worker) : ℚ :=
  worker.deadline - cfg.durationSeconds + worker.counts.sent * cfg.gap

/-- What the phase of a worker says about the time. -/
def Worker.OnTime (cfg : StressConfig) (worker : Worker) : Prop :=
  match worker.phase with
  | .created => worker.counts.sent = 0
  | .waiting => worker.due cfg ≤ seconds worker.now
  | .looping wakes => worker.due cfg ≤ wakes
  | .running => worker.due cfg ≤ seconds worker.now ∧ worker.due cfg < worker.deadline
  | .paced sleepS => worker.due cfg ≤ seconds worker.now ∧ worker.due cfg < worker.deadline ∧
      cfg.gap ≤ sleepS
  | .processing sleepS t0Ns => worker.due cfg ≤ seconds t0Ns ∧ worker.due cfg < worker.deadline ∧
      cfg.gap ≤ sleepS
  | .answered sleepS t0Ns => worker.due cfg ≤ seconds t0Ns + cfg.gap ∧ cfg.gap ≤ sleepS
  | .leaving | .merged | .raised _ => True

/-- A worker that is on time and has sent no more than its time allows. -/
structure Worker.Paced (cfg : StressConfig) (worker : Worker) : Prop where
  onTime : worker.OnTime cfg
  sent : worker.counts.sent * cfg.gap < max 0 cfg.durationSeconds + cfg.gap

namespace Worker

theorem paced_fresh (cfg : StressConfig) : Paced cfg {} where
  onTime := rfl
  sent := by
    have gap := cfg.gap_pos
    have duration := le_max_left 0 cfg.durationSeconds
    simp only [Nat.cast_zero, zero_mul]
    linarith

theorem seconds_mono {earlier later : Int} (ordered : earlier ≤ later) :
    seconds earlier ≤ seconds later :=
  div_le_div_of_nonneg_right (Int.cast_le.mpr ordered) (by norm_num)

variable {sine : ℚ → Set.Icc (-1 : ℚ) 1} {cfg : StressConfig} {worker next : Worker} {now : Int}
variable {step : WorkerStep}

theorem Paced.moves (paced : worker.Paced cfg) (later : worker.now ≤ now)
    (moves : worker.Moves sine cfg now step next) : next.Paced cfg := by
  obtain ⟨onTime, sent⟩ := paced
  have clock := seconds_mono later
  cases moves with
  | spawn stands =>
      rw [OnTime, stands] at onTime
      refine ⟨?_, sent⟩
      simp only [OnTime, due, onTime, Nat.cast_zero, zero_mul]
      linarith
  | release _ stands =>
      rw [OnTime, stands] at onTime
      exact ⟨onTime.trans clock, sent⟩
  | entered stands awake early =>
      rw [OnTime, stands] at onTime
      exact ⟨⟨onTime.trans awake, (onTime.trans awake).trans_lt early⟩, sent⟩
  | left | merge | raised => exact ⟨trivial, sent⟩
  | pace elapsed stands =>
      rw [OnTime, stands] at onTime
      exact ⟨⟨onTime.1.trans clock, onTime.2, cfg.gap_le_sleepSeconds sine elapsed⟩, sent⟩
  | call stands =>
      rw [OnTime, stands] at onTime
      exact ⟨⟨onTime.1.trans clock, onTime.2⟩, sent⟩
  | answered outcome stands =>
      rw [OnTime, stands] at onTime
      obtain ⟨begun, inTime, asleep⟩ := onTime
      have duration := le_max_right 0 cfg.durationSeconds
      have one : ((worker.counts.sent + 1 : Nat) : ℚ) * cfg.gap =
          worker.counts.sent * cfg.gap + cfg.gap := by
        rw [Nat.cast_succ, add_mul, one_mul]
      constructor
      · refine ⟨?_, asleep⟩
        change _ + ((worker.counts.sent + 1 : Nat) : ℚ) * cfg.gap ≤ _
        rw [due] at begun
        linarith
      · change ((worker.counts.sent + 1 : Nat) : ℚ) * cfg.gap < _
        rw [due] at inTime
        linarith
  | settle depth stands wakes =>
      rw [OnTime, stands] at onTime
      refine ⟨?_, sent⟩
      have due := onTime.1
      have gap := onTime.2
      change worker.due cfg ≤ _
      linarith

theorem Paced.sent_lt (paced : worker.Paced cfg) :
    (worker.counts.sent : ℚ) < 1 + max 0 cfg.durationSeconds * cfg.peakPps := by
  have positive := cfg.peakPps_pos
  have scaled := mul_lt_mul_of_pos_right paced.sent positive
  rw [StressConfig.gap, add_mul, mul_assoc, one_div_mul_cancel positive.ne', mul_one] at scaled
  rwa [add_comm]

end Worker

/-! ## The run -/

theorem StressRun.worker_paced {sine : ℚ → Set.Icc (-1 : ℚ) 1} {cfg : StressConfig}
    {run : StressRun cfg} {actions : List (StressAction cfg)}
    (replays : replay (perform sine) {} actions = some run) (index : Fin cfg.threads) :
    (run.workers index).Paced cfg := by
  have kept (worker : Worker) (timed : Int × WorkerStep) (next : Worker)
      (paced : worker.Paced cfg) (performs : worker.perform sine cfg index timed = some next) :
      next.Paced cfg := by
    obtain ⟨later, moves⟩ := Worker.perform_moves performs
    exact paced.moves later moves
  exact replay.preserves kept (Worker.paced_fresh cfg) (worker_replays replays index)

/-- Off the bursts the workers together keep the target rate. -/
theorem StressConfig.threads_mul_peakPps {cfg : StressConfig} (target : 0 < cfg.targetPps)
    (steady : cfg.pattern ≠ .burstFlood) : cfg.threads * cfg.peakPps = cfg.targetPps := by
  have positive : 0 < max 1 cfg.nThreads := zero_lt_one.trans_le (le_max_left _ _)
  have count : (cfg.threads : ℚ) = (max 1 cfg.nThreads : Int) := by
    rw [threads, ← Int.cast_natCast, Int.toNat_of_nonneg positive.le]
  have some : (0 : ℚ) < (max 1 cfg.nThreads : Int) := Int.cast_pos.mpr positive
  have each : 0 < cfg.perThreadPps := div_pos (Int.cast_pos.mpr target) some
  have peak : cfg.peakPps = cfg.perThreadPps := by
    rw [peakPps]
    cases pattern : cfg.pattern with
    | burstFlood => exact absurd pattern steady
    | uniform | oscillating | priorityInversion | allCritical => exact if_pos each
  rw [peak, count, perThreadPps, mul_div_cancel₀ _ some.ne']

/-- At every moment of every run, however the threads interleave and whatever they are answered,
the packets counted stay below what the peak rate allows in the configured time, which off the
bursts is the target rate. -/
theorem stress_rate_bounded (sine : ℚ → Set.Icc (-1 : ℚ) 1) (cfg : StressConfig)
    (actions : List (StressAction cfg)) (run : StressRun cfg)
    (replays : replay (StressRun.perform sine) {} actions = some run) :
    (run.packetsSent : ℚ) <
        cfg.threads * (1 + max 0 cfg.durationSeconds * cfg.peakPps) ∧
      (0 < cfg.targetPps → cfg.pattern ≠ .burstFlood →
        (run.packetsSent : ℚ) < cfg.threads + max 0 cfg.durationSeconds * cfg.targetPps) := by
  have bounded : (run.packetsSent : ℚ) <
      cfg.threads * (1 + max 0 cfg.durationSeconds * cfg.peakPps) := by
    have positive : (0 : ℚ) < 1 + max 0 cfg.durationSeconds * cfg.peakPps := by
      have late := mul_nonneg (le_max_left 0 cfg.durationSeconds) cfg.peakPps_pos.le
      linarith
    have each (index : Fin cfg.threads) :
        ((run.workers index).share.sent : ℚ) <
          1 + max 0 cfg.durationSeconds * cfg.peakPps := by
      rw [Worker.share]
      split
      next => exact (StressRun.worker_paced replays index).sent_lt
      next => simpa using positive
    rw [(StressRun.replay_shares replays).sent, Nat.cast_sum]
    calc
      ∑ index, ((run.workers index).share.sent : ℚ)
          < ∑ _ : Fin cfg.threads, (1 + max 0 cfg.durationSeconds * cfg.peakPps) :=
        Finset.sum_lt_sum_of_nonempty ⟨0, Finset.mem_univ 0⟩ fun index _ => each index
      _ = cfg.threads * (1 + max 0 cfg.durationSeconds * cfg.peakPps) := by
        rw [Finset.sum_const, Finset.card_univ, Fintype.card_fin, nsmul_eq_mul]
  refine ⟨bounded, ?_⟩
  intro target steady
  have rate := StressConfig.threads_mul_peakPps target steady
  calc
    (run.packetsSent : ℚ) < cfg.threads * (1 + max 0 cfg.durationSeconds * cfg.peakPps) := bounded
    _ = cfg.threads + max 0 cfg.durationSeconds * (cfg.threads * cfg.peakPps) := by ring
    _ = _ := by rw [rate]

theorem stress_rate_bounded_twoThreads :
    ∃ run, replay (StressRun.perform resting) {} StressRun.twoThreads = some run ∧
      (run.packetsSent : ℚ) < 2 + 1 * 10000 := by
  have reaches : (replay (StressRun.perform resting) {} StressRun.twoThreads).isSome = true := by
    decide +kernel
  obtain ⟨run, replays⟩ := Option.isSome_iff_exists.mp reaches
  have rate := (stress_rate_bounded _ _ StressRun.twoThreads run replays).2 (by decide) (by decide)
  refine ⟨run, replays, rate.trans_eq ?_⟩
  have two : StressConfig.threads { durationSeconds := 1, nThreads := 2 } = 2 := rfl
  rw [two]
  norm_num

end SmartBandwidth
