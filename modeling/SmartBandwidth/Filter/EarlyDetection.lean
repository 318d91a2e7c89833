import SmartBandwidth.Filter.PacketFilter
import SmartBandwidth.Lib.PyNumber
import Mathlib.Tactic.Linarith

/-!
# Random early detection

RED compares the fill level of the queue with two thresholds that nobody checks.  The order
of its tests keeps the divisions defined and the probability below one, and makes what it
drops grow with the fill level and with the number of the class.
-/

namespace SmartBandwidth

namespace PacketFilter

/-- The fill level RED compares with its thresholds. -/
def fill (config : OptimizerConfig) (current : Nat) : ℚ := current / config.maxQueueSize

/-- The probability of an early drop, before it is weighed by class. -/
def dropProb (config : OptimizerConfig) (current : Nat) : ℚ :=
  (fill config current - config.redMinThreshold) /
    (config.redMaxThreshold - config.redMinThreshold)

/-- When RED drops: from the lower threshold on, by a draw that counts the class, and always
from the upper one on. -/
theorem redCheck_drop_iff {config : OptimizerConfig} {current : Nat} {draw : ℚ}
    {priority : TrafficPriority} :
    (redCheck config (some current) draw priority).1 = true ↔
      0 < config.maxQueueSize ∧ config.redMinThreshold ≤ fill config current ∧
        (config.redMaxThreshold ≤ fill config current ∨
          draw < dropProb config current * (priority.value / TrafficPriority.all.length)) := by
  rw [fill, dropProb, fill]
  simp only [redCheck]
  split
  next empty => simp [not_lt.mpr empty]
  next positive =>
    split
    next below => simp [not_le.mpr below]
    next reached =>
      split
      next full => simp [not_le.mp positive, not_lt.mp reached, full]
      next room =>
        split
        next drawn => simp [not_le.mp positive, not_lt.mp reached, drawn]
        next spared => simp [not_le.mp positive, room, spared]

/-! ## What is decided before the draw -/

/-- What `_red_check` knows before it draws: that the packet passes, that the queue is full,
or the probability of a drop. -/
inductive RedVerdict where
  | pass
  | full
  | odds (probability : ℚ)
  deriving DecidableEq, Repr

/-- The answer of `_red_check` by a verdict and a draw. -/
def RedVerdict.answer (priority : TrafficPriority) (draw : ℚ) : RedVerdict → Bool × String
  | .pass => (false, "")
  | .full => (true, "red:queue_full:" ++ priority.name)
  | .odds probability =>
      if draw < probability then
        (true, "red:prob_drop:" ++ priority.name ++ ":" ++ Rounding.fixed2 probability)
      else
        (false, "")

/-- `left / right` as the interpreter divides. -/
def divide (left right : ℚ) : Except PyFault ℚ :=
  if right = 0 then .error .zeroDivisionError else .ok (left / right)

/-- `_red_check` up to the draw, with divisions that may raise. -/
def redVerdict (config : OptimizerConfig) (current : Nat) (priority : TrafficPriority) :
    Except PyFault RedVerdict :=
  if config.maxQueueSize ≤ 0 then
    return .pass
  else do
    let fill ← divide current config.maxQueueSize
    if fill < config.redMinThreshold then
      return .pass
    else if config.redMaxThreshold ≤ fill then
      return .full
    else
      let dropProb ← divide (fill - config.redMinThreshold)
        (config.redMaxThreshold - config.redMinThreshold)
      let priorityFactor ← divide priority.value TrafficPriority.all.length
      return .odds (dropProb * priorityFactor)

theorem divide_of_ne {left right : ℚ} (nonzero : right ≠ 0) :
    divide left right = .ok (left / right) := by
  rw [divide, if_neg nonzero]

/-- Below the upper threshold and not below the lower one, the probability lies in the unit
interval. -/
theorem dropProb_bounds {config : OptimizerConfig} {current : Nat}
    (reached : config.redMinThreshold ≤ fill config current)
    (room : fill config current < config.redMaxThreshold) :
    0 ≤ dropProb config current ∧ dropProb config current < 1 := by
  have span : 0 < config.redMaxThreshold - config.redMinThreshold :=
    sub_pos.mpr (reached.trans_lt room)
  constructor
  · exact div_nonneg (sub_nonneg.mpr reached) span.le
  · rw [dropProb, div_lt_one span]
    exact sub_lt_sub_right room config.redMinThreshold

/-- The weight of a class. -/
theorem priorityFactor_bounds (priority : TrafficPriority) :
    0 ≤ (priority.value : ℚ) / TrafficPriority.all.length ∧
      (priority.value : ℚ) / TrafficPriority.all.length ≤ 1 := by
  cases priority <;> decide +kernel

/-- The verdict, with total divisions. -/
def verdict (config : OptimizerConfig) (current : Nat) (priority : TrafficPriority) :
    RedVerdict :=
  if config.maxQueueSize ≤ 0 then .pass
  else if fill config current < config.redMinThreshold then .pass
  else if config.redMaxThreshold ≤ fill config current then .full
  else .odds (dropProb config current * (priority.value / TrafficPriority.all.length))

/-- No division of `_red_check` raises: where the second one is reached, the thresholds differ. -/
theorem redVerdict_eq (config : OptimizerConfig) (current : Nat) (priority : TrafficPriority) :
    redVerdict config current priority = .ok (verdict config current priority) := by
  by_cases empty : config.maxQueueSize ≤ 0
  · rw [redVerdict, verdict, if_pos empty, if_pos empty]
    rfl
  · have size : (config.maxQueueSize : ℚ) ≠ 0 := by
      exact_mod_cast (not_le.mp empty).ne'
    have opened : redVerdict config current priority =
        if fill config current < config.redMinThreshold then .ok .pass
        else if config.redMaxThreshold ≤ fill config current then .ok .full
        else do
          let dropProb ← divide (fill config current - config.redMinThreshold)
            (config.redMaxThreshold - config.redMinThreshold)
          let priorityFactor ← divide priority.value TrafficPriority.all.length
          return .odds (dropProb * priorityFactor) := by
      rw [redVerdict, if_neg empty, divide_of_ne size]
      rfl
    rw [opened, verdict, if_neg empty]
    by_cases below : fill config current < config.redMinThreshold
    · rw [if_pos below, if_pos below]
    · rw [if_neg below, if_neg below]
      by_cases full : config.redMaxThreshold ≤ fill config current
      · rw [if_pos full, if_pos full]
      · have span : config.redMaxThreshold - config.redMinThreshold ≠ 0 :=
          (sub_pos.mpr ((not_lt.mp below).trans_lt (not_le.mp full))).ne'
        have classes : (TrafficPriority.all.length : ℚ) ≠ 0 := by decide +kernel
        rw [if_neg full, if_neg full, divide_of_ne span, divide_of_ne classes]
        rfl

theorem redCheck_eq (config : OptimizerConfig) (current : Nat) (draw : ℚ)
    (priority : TrafficPriority) :
    redCheck config (some current) draw priority =
      (verdict config current priority).answer priority draw := by
  rw [verdict, apply_ite (RedVerdict.answer priority draw),
    apply_ite (RedVerdict.answer priority draw), apply_ite (RedVerdict.answer priority draw)]
  rfl

theorem verdict_odds {config : OptimizerConfig} {current : Nat} {priority : TrafficPriority}
    {probability : ℚ} (odds : verdict config current priority = .odds probability) :
    0 ≤ probability ∧ probability < 1 := by
  rw [verdict] at odds
  split at odds
  next => cases odds
  next =>
    split at odds
    next => cases odds
    next reached =>
      split at odds
      next => cases odds
      next room =>
        cases odds
        obtain ⟨nonneg, lt_one⟩ := dropProb_bounds (not_lt.mp reached) (not_le.mp room)
        obtain ⟨factor_nonneg, factor_le⟩ := priorityFactor_bounds priority
        exact ⟨mul_nonneg nonneg factor_nonneg,
          (mul_le_of_le_one_right nonneg factor_le).trans_lt lt_one⟩

/-! ## Monotonicity -/

theorem fill_mono {config : OptimizerConfig} (positive : 0 < config.maxQueueSize)
    {shorter longer : Nat} (ordered : shorter ≤ longer) :
    fill config shorter ≤ fill config longer := by
  have size : (0 : ℚ) ≤ config.maxQueueSize := by exact_mod_cast positive.le
  exact div_le_div_of_nonneg_right (by exact_mod_cast ordered) size

/-- What RED drops it also drops at a longer queue and of a less important class. -/
theorem redCheck_mono_of_le {config : OptimizerConfig} {shorter longer : Nat}
    (ordered : shorter ≤ longer) {draw : ℚ} {important ordinary : TrafficPriority}
    (less : important.value ≤ ordinary.value)
    (dropped : (redCheck config (some shorter) draw important).1 = true) :
    (redCheck config (some longer) draw ordinary).1 = true := by
  rw [redCheck_drop_iff] at dropped ⊢
  obtain ⟨positive, reached, decided⟩ := dropped
  have fuller := fill_mono positive ordered
  refine ⟨positive, reached.trans fuller, ?_⟩
  by_cases full : config.redMaxThreshold ≤ fill config longer
  · exact .inl full
  · right
    have room : fill config shorter < config.redMaxThreshold := fuller.trans_lt (not_le.mp full)
    have drawn := decided.resolve_left (not_le.mpr room)
    have span : 0 ≤ config.redMaxThreshold - config.redMinThreshold :=
      (sub_pos.mpr (reached.trans_lt room)).le
    have likelier : dropProb config shorter ≤ dropProb config longer :=
      div_le_div_of_nonneg_right (sub_le_sub_right fuller config.redMinThreshold) span
    have factors : (important.value : ℚ) / TrafficPriority.all.length ≤
        ordinary.value / TrafficPriority.all.length :=
      div_le_div_of_nonneg_right (by exact_mod_cast less) (Nat.cast_nonneg _)
    have probability := (dropProb_bounds reached room).1
    have factor := (priorityFactor_bounds important).1
    exact drawn.trans_le (mul_le_mul likelier factors factor (probability.trans likelier))

/-- RED drops at most what it drops of a less important class. -/
theorem redCheck_mono {config : OptimizerConfig} {queueSize : Option Nat} {draw : ℚ}
    {important ordinary : TrafficPriority} (less : important.value ≤ ordinary.value)
    (dropped : (redCheck config queueSize draw important).1 = true) :
    (redCheck config queueSize draw ordinary).1 = true := by
  cases queueSize with
  | none => cases dropped
  | some current => exact redCheck_mono_of_le le_rfl less dropped

/-- Whatever the thresholds and the size of the queue are, `_red_check` divides by nothing
that is zero, compares its draw with a probability below one, and with one draw drops at
every longer queue and in every less important class what it drops at a shorter one. -/
theorem redCheck_sound (config : OptimizerConfig) (current : Nat) (priority : TrafficPriority) :
    (∃ verdict, redVerdict config current priority = .ok verdict ∧
      (∀ draw, redCheck config (some current) draw priority = verdict.answer priority draw) ∧
      ∀ probability, verdict = .odds probability → 0 ≤ probability ∧ probability < 1) ∧
    ∀ draw longer less, current ≤ longer → priority.value ≤ less.value →
      (redCheck config (some current) draw priority).1 = true →
      (redCheck config (some longer) draw less).1 = true := by
  constructor
  · exact ⟨verdict config current priority, redVerdict_eq config current priority,
      fun draw => redCheck_eq config current draw priority, fun _ odds => verdict_odds odds⟩
  · intro draw longer less ordered important dropped
    exact redCheck_mono_of_le ordered important dropped

end PacketFilter

end SmartBandwidth
