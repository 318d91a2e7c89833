import SmartBandwidth.Filter.PacketFilter
import SmartBandwidth.Lib.Metering
import Mathlib.Algebra.BigOperators.Ring.Finset
import Mathlib.Algebra.Order.BigOperators.Group.Finset

/-!
# The rate limit

A token bucket is a meter, and a run of the filter draws each class's meter exactly at
that class's packets.  The bytes admitted in a window are among the bytes the meter
grants there, which the window bound of the library limits.
-/

namespace SmartBandwidth

/-! ## Buckets are meters -/

/-- The meter a bucket implements. -/
def TokenBucket.meter (bucket : TokenBucket) : Metering.Meter ℚ where
  rate := bucket.refillRate
  capacity := bucket.capacity
  level := bucket.tokens
  since := bucket.lastRefill

/-- A bucket holds no less than nothing and no more than its capacity. -/
def TokenBucket.InBounds (bucket : TokenBucket) : Prop :=
  0 ≤ bucket.tokens ∧ bucket.tokens ≤ bucket.capacity

theorem TokenBucket.consume_meter (bucket : TokenBucket) (nbytes : Int) (now : ℚ) :
    (bucket.consume nbytes now).1 = (bucket.meter.draw ⟨now, nbytes⟩).1 ∧
      (bucket.consume nbytes now).2.meter = (bucket.meter.draw ⟨now, nbytes⟩).2 := by
  simp only [consume, Metering.Meter.draw]
  split
  next covered =>
    rw [if_pos (by exact covered)]
    exact ⟨rfl, rfl⟩
  next uncovered =>
    rw [if_neg (by exact uncovered)]
    exact ⟨rfl, rfl⟩

theorem TokenBucket.meter_sound {bucket : TokenBucket} :
    bucket.meter.Sound ↔ bucket.InBounds := by
  constructor
  · intro sound
    exact ⟨sound.level_nonneg, sound.level_le⟩
  · intro bounds
    exact ⟨bucket.refillRate_pos.le, bounds.1, bounds.2⟩

/-! ## Runs of the filter -/

/-- One call of `should_drop` with the readings it takes. -/
structure FilterCall where
  packet : Packet
  now : ℚ
  queueSize : Option Nat
  draw : ℚ

namespace FilterCall

/-- The demand a call makes of its class's meter. -/
def demand (call : FilterCall) : Metering.Demand ℚ where
  time := call.now
  amount := call.packet.sizeBytes

/-- The demands the calls make of one class's meter. -/
def demands (priority : TrafficPriority) (calls : List FilterCall) :
    List (Metering.Demand ℚ) :=
  (calls.filter fun call => call.packet.effectivePriority = priority).map demand

/-- The bytes one decision admits for a class. -/
def admitted (priority : TrafficPriority) (call : FilterCall) (decision : DropDecision) : ℚ :=
  if call.packet.effectivePriority = priority ∧ decision.drop = false then
    call.packet.sizeBytes
  else
    0

end FilterCall

/-- `should_drop` as one step of a machine. -/
def PacketFilter.call (filter : PacketFilter) (call : FilterCall) :
    DropDecision × PacketFilter :=
  filter.shouldDrop call.packet call.queueSize call.now call.draw

/-- The bytes of one class that a list of calls admits. -/
def admittedBytes (priority : TrafficPriority) (calls : List FilterCall)
    (decisions : List DropDecision) : ℚ :=
  ((calls.zip decisions).map fun pair => pair.1.admitted priority pair.2).sum

namespace PacketFilter

/-- A packet draws from the meter of its class and no other. -/
theorem consume_meter (filter : PacketFilter) (packet : Packet) (now : ℚ)
    (priority : TrafficPriority) :
    ((filter.consume packet now).2.buckets priority).meter =
      if packet.effectivePriority = priority then
        ((filter.buckets priority).meter.draw ⟨now, packet.sizeBytes⟩).2
      else
        (filter.buckets priority).meter := by
  simp only [consume, Function.update_apply]
  split
  next same =>
    subst same
    rw [if_pos rfl]
    exact (TokenBucket.consume_meter _ _ _).2
  next other => rw [if_neg (Ne.symm other)]

/-- A call draws the meter of its packet's class and no other. -/
theorem call_meter (filter : PacketFilter) (call : FilterCall) (priority : TrafficPriority) :
    ((filter.call call).2.buckets priority).meter =
      if call.packet.effectivePriority = priority then
        ((filter.buckets priority).meter.draw call.demand).2
      else
        (filter.buckets priority).meter := by
  rw [PacketFilter.call, shouldDrop_buckets]
  exact filter.consume_meter call.packet call.now priority

/-- An admitted non-critical packet was granted by its meter. -/
theorem call_admitted_le (filter : PacketFilter) {call : FilterCall}
    (size : 0 ≤ call.packet.sizeBytes)
    (notCritical : call.packet.effectivePriority ≠ .critical) :
    call.admitted call.packet.effectivePriority (filter.call call).1 ≤
      Metering.Meter.granted call.demand
        ((filter.buckets call.packet.effectivePriority).meter.draw call.demand).1 := by
  have amount : (0 : ℚ) ≤ call.packet.sizeBytes := by exact_mod_cast size
  have answer := (TokenBucket.consume_meter
    (filter.buckets call.packet.effectivePriority) call.packet.sizeBytes call.now).1
  have decides := filter.shouldDrop_decides call.packet call.queueSize call.now call.draw
  simp only [PacketFilter.call, FilterCall.admitted]
  generalize filter.shouldDrop call.packet call.queueSize call.now call.draw = outcome
    at decides ⊢
  have nothing : (0 : ℚ) ≤ Metering.Meter.granted call.demand
      ((filter.buckets call.packet.effectivePriority).meter.draw call.demand).1 := by
    rw [Metering.Meter.granted]
    split
    next => exact amount
    next => exact le_rfl
  cases decides with
  | limited => simpa using nothing
  | early => simpa using nothing
  | passed allowed =>
      have granted : ((filter.buckets call.packet.effectivePriority).meter.draw
          call.demand).1 = true := answer.symm.trans (allowed notCritical).1
      rw [granted]
      simp [Metering.Meter.granted, FilterCall.demand]

/-- Over a run, the meter of a class is drawn by that class's demands, and what the run
admits of a non-critical class its meter grants. -/
theorem run_meter (filter : PacketFilter) (calls : List FilterCall)
    (sizes : ∀ call ∈ calls, 0 ≤ call.packet.sizeBytes) (priority : TrafficPriority) :
    ((Machine.run call filter calls).2.buckets priority).meter =
        (Machine.run Metering.Meter.draw (filter.buckets priority).meter
          (FilterCall.demands priority calls)).2 ∧
      (priority ≠ .critical →
        admittedBytes priority calls (Machine.run call filter calls).1 ≤
          (filter.buckets priority).meter.totalGranted (FilterCall.demands priority calls)) := by
  induction calls generalizing filter with
  | nil => exact ⟨rfl, fun _ => le_rfl⟩
  | cons first rest ih =>
      rw [List.forall_mem_cons] at sizes
      obtain ⟨restMeter, restBytes⟩ := ih (filter.call first).2 sizes.2
      have moved := filter.call_meter first priority
      by_cases same : first.packet.effectivePriority = priority
      · rw [if_pos same] at moved
        rw [moved] at restMeter restBytes
        have demandsEq : FilterCall.demands priority (first :: rest) =
            first.demand :: FilterCall.demands priority rest := by
          simp [FilterCall.demands, same]
        rw [demandsEq]
        refine ⟨restMeter, fun notCritical => ?_⟩
        subst same
        have granted := filter.call_admitted_le sizes.1 notCritical
        have later := restBytes notCritical
        simp only [admittedBytes, Metering.Meter.totalGranted, Machine.run_cons,
          List.zip_cons_cons, List.map_cons, List.sum_cons] at later ⊢
        exact add_le_add granted later
      · rw [if_neg same] at moved
        rw [moved] at restMeter restBytes
        have demandsEq : FilterCall.demands priority (first :: rest) =
            FilterCall.demands priority rest := by
          simp [FilterCall.demands, same]
        rw [demandsEq]
        refine ⟨restMeter, fun notCritical => ?_⟩
        have later := restBytes notCritical
        simp only [admittedBytes, Machine.run_cons, List.zip_cons_cons, List.map_cons,
          List.sum_cons, FilterCall.admitted, same, false_and, ↓reduceIte, zero_add] at later ⊢
        exact later

/-- A window of calls between `start` and `finish`, seen by one class. -/
structure Window (filter final : PacketFilter) (calls : List FilterCall)
    (decisions : List DropDecision) (start finish : ℚ) (priority : TrafficPriority) :
    Prop where
  rate : (final.buckets priority).refillRate = (filter.buckets priority).refillRate
  capacity : (final.buckets priority).capacity = (filter.buckets priority).capacity
  inBounds : (final.buckets priority).InBounds
  settled : (final.buckets priority).lastRefill ≤ finish
  limited : priority ≠ .critical →
    admittedBytes priority calls decisions ≤
      (filter.buckets priority).capacity +
        (filter.buckets priority).refillRate * (finish - start)

theorem run_window {filter : PacketFilter} {calls : List FilterCall}
    (sizes : ∀ call ∈ calls, 0 ≤ call.packet.sizeBytes)
    (chronological : calls.Pairwise fun first second => first.now ≤ second.now)
    {start finish : ℚ} (ordered : start ≤ finish)
    (opens : ∀ call ∈ calls, start ≤ call.now)
    (closes : ∀ call ∈ calls, call.now ≤ finish)
    {priority : TrafficPriority} (inBounds : (filter.buckets priority).InBounds)
    (settled : (filter.buckets priority).lastRefill ≤ start) :
    Window filter (Machine.run call filter calls).2 calls (Machine.run call filter calls).1
      start finish priority := by
  obtain ⟨meterEq, bytes⟩ := run_meter filter calls sizes priority
  have amounts : ∀ demand ∈ FilterCall.demands priority calls, 0 ≤ demand.amount := by
    intro demand member
    obtain ⟨call, kept, rfl⟩ := List.mem_map.mp member
    have size := sizes call (List.mem_of_mem_filter kept)
    change (0 : ℚ) ≤ call.packet.sizeBytes
    exact_mod_cast size
  have times : (FilterCall.demands priority calls).Pairwise
      fun first second => first.time ≤ second.time :=
    List.pairwise_map.mpr (chronological.sublist List.filter_sublist)
  have demandsOpen : ∀ demand ∈ FilterCall.demands priority calls, start ≤ demand.time := by
    intro demand member
    obtain ⟨call, kept, rfl⟩ := List.mem_map.mp member
    exact opens call (List.mem_of_mem_filter kept)
  have demandsClose : ∀ demand ∈ FilterCall.demands priority calls,
      demand.time ≤ finish := by
    intro demand member
    obtain ⟨call, kept, rfl⟩ := List.mem_map.mp member
    exact closes call (List.mem_of_mem_filter kept)
  have sound := TokenBucket.meter_sound.mpr inBounds
  have granted := Metering.Meter.totalGranted_le sound amounts times settled ordered
    demandsOpen demandsClose
  obtain ⟨_, finalSound, finalSince⟩ := Metering.Meter.totalGranted_add_levelAt_le sound
    amounts times settled ordered demandsOpen demandsClose
  have shape := Metering.Meter.run_rate_capacity (filter.buckets priority).meter
    (FilterCall.demands priority calls)
  rw [← meterEq] at finalSound finalSince shape
  exact {
    rate := shape.1
    capacity := shape.2
    inBounds := TokenBucket.meter_sound.mp finalSound
    settled := finalSince
    limited := fun notCritical => (bytes notCritical).trans granted }

/-- A fresh filter's buckets are full and have the configured shape. -/
theorem init_buckets {config : OptimizerConfig} {clock : TrafficPriority → ℚ}
    {filter : PacketFilter} (constructed : init config clock = .ok filter)
    (priority : TrafficPriority) :
    (filter.buckets priority).refillRate = bucketRate config priority ∧
      (filter.buckets priority).capacity =
        bucketRate config priority * config.tokenBucketCapacityMultiplier ∧
      (filter.buckets priority).InBounds ∧
      (filter.buckets priority).lastRefill = clock priority := by
  obtain ⟨rate, capacity, full, settled⟩ :=
    TokenBucket.init_eq_ok (init_bucket constructed priority)
  have positive := (filter.buckets priority).capacity_pos
  refine ⟨rate, capacity, ⟨?_, ?_⟩, settled⟩
  · rw [full, ← capacity]
    exact positive.le
  · rw [full, capacity]

/-- A constructed filter before its first call opens a window with full buckets. -/
theorem init_window {config : OptimizerConfig} {clock : TrafficPriority → ℚ}
    {filter : PacketFilter} (constructed : init config clock = .ok filter)
    {calls : List FilterCall} (sizes : ∀ call ∈ calls, 0 ≤ call.packet.sizeBytes)
    (chronological : calls.Pairwise fun first second => first.now ≤ second.now)
    {priority : TrafficPriority} {finish : ℚ} (ordered : clock priority ≤ finish)
    (started : ∀ call ∈ calls, clock priority ≤ call.now)
    (closes : ∀ call ∈ calls, call.now ≤ finish) :
    Window filter (Machine.run call filter calls).2 calls (Machine.run call filter calls).1
      (clock priority) finish priority := by
  obtain ⟨_, _, full, settled⟩ := init_buckets constructed priority
  exact run_window sizes chronological ordered started closes full settled.le

end PacketFilter

/-- In chronological order every call lies between the first and the last one. -/
theorem FilterCall.between {window : List FilterCall} {first last : FilterCall}
    (chronological : window.Pairwise fun left right => left.now ≤ right.now)
    (opens : window.head? = some first) (closes : window.getLast? = some last) :
    ∀ call ∈ window, first.now ≤ call.now ∧ call.now ≤ last.now := by
  intro call member
  constructor
  · obtain ⟨tail, rfl⟩ := List.head?_eq_some_iff.mp opens
    rcases List.mem_cons.mp member with rfl | later
    · exact le_rfl
    · exact List.rel_of_pairwise_cons chronological later
  · obtain ⟨front, rfl⟩ := List.getLast?_eq_some_iff.mp closes
    rcases List.mem_append.mp member with earlier | same
    · exact (List.pairwise_append.mp chronological).2.2 call earlier last List.mem_cons_self
    · rw [List.mem_singleton.mp same]

/-! ## The shared budget -/

/-- Every class's rate is derived, positive, and a share of a non-negative total. -/
structure OptimizerConfig.SharesTotal (config : OptimizerConfig) : Prop where
  derived : ∀ priority, config.tokenRefillRate priority = none
  positive : ∀ priority, 0 < config.effectiveRefillRate priority
  budgets : ∑ priority, (config.bandwidthBudget priority).getD 0 ≤ 1
  total_nonneg : 0 ≤ config.totalBandwidthBps

namespace OptimizerConfig.SharesTotal

variable {config : OptimizerConfig}

theorem rate_eq (shares : config.SharesTotal) (priority : TrafficPriority) :
    config.effectiveRefillRate priority =
      (config.bandwidthBudget priority).getD 0 * config.totalBandwidthBps := by
  rw [effectiveRefillRate, shares.derived priority]

/-- The rates of the non-critical classes fit into the total. -/
theorem sum_rate_le (shares : config.SharesTotal) :
    ∑ priority ∈ Finset.univ.erase TrafficPriority.critical,
      config.effectiveRefillRate priority ≤ config.totalBandwidthBps := by
  have total : (0 : ℚ) ≤ config.totalBandwidthBps := by exact_mod_cast shares.total_nonneg
  have split := Finset.add_sum_erase Finset.univ config.effectiveRefillRate
    (Finset.mem_univ TrafficPriority.critical)
  have whole : ∑ priority, config.effectiveRefillRate priority ≤ config.totalBandwidthBps := by
    calc ∑ priority, config.effectiveRefillRate priority
        = (∑ priority, (config.bandwidthBudget priority).getD 0) *
            config.totalBandwidthBps := by
          rw [Finset.sum_mul]
          exact Finset.sum_congr rfl fun priority _ => shares.rate_eq priority
      _ ≤ 1 * config.totalBandwidthBps := mul_le_mul_of_nonneg_right shares.budgets total
      _ = config.totalBandwidthBps := one_mul _
  have critical := shares.positive .critical
  linarith

theorem bucketRate_eq (shares : config.SharesTotal) (priority : TrafficPriority) :
    PacketFilter.bucketRate config priority = config.effectiveRefillRate priority := by
  simp only [PacketFilter.bucketRate]
  exact if_neg (not_le.mpr (shares.positive priority))

/-- Classes that each keep to their capacity and income keep to the total together. -/
theorem sum_bytes_le (shares : config.SharesTotal) {clock : TrafficPriority → ℚ}
    {fresh : PacketFilter} (constructed : PacketFilter.init config clock = .ok fresh)
    {bytes : TrafficPriority → ℚ} {start finish : ℚ} (ordered : start ≤ finish)
    (limited : ∀ priority, priority ≠ .critical →
      bytes priority ≤ (fresh.buckets priority).capacity +
        (fresh.buckets priority).refillRate * (finish - start)) :
    ∑ priority ∈ Finset.univ.erase TrafficPriority.critical, bytes priority ≤
      config.totalBandwidthBps *
        (config.tokenBucketCapacityMultiplier + finish - start) := by
  have shape (priority : TrafficPriority) := PacketFilter.init_buckets constructed priority
  have multiplier : 0 < config.tokenBucketCapacityMultiplier := by
    have capacity := (fresh.buckets .critical).capacity_pos
    rw [(shape .critical).2.1, shares.bucketRate_eq] at capacity
    exact (mul_pos_iff_of_pos_left (shares.positive .critical)).mp capacity
  calc ∑ priority ∈ Finset.univ.erase TrafficPriority.critical, bytes priority
      ≤ ∑ priority ∈ Finset.univ.erase TrafficPriority.critical,
          config.effectiveRefillRate priority *
            (config.tokenBucketCapacityMultiplier + finish - start) := by
        apply Finset.sum_le_sum
        intro priority member
        apply (limited priority (Finset.ne_of_mem_erase member)).trans
        rw [(shape priority).1, (shape priority).2.1, shares.bucketRate_eq]
        apply le_of_eq
        ring
    _ = (∑ priority ∈ Finset.univ.erase TrafficPriority.critical,
          config.effectiveRefillRate priority) *
            (config.tokenBucketCapacityMultiplier + finish - start) :=
        (Finset.sum_mul _ _ _).symm
    _ ≤ config.totalBandwidthBps *
          (config.tokenBucketCapacityMultiplier + finish - start) := by
        apply mul_le_mul_of_nonneg_right shares.sum_rate_le
        linarith

end OptimizerConfig.SharesTotal

/-- In every window of every run the bytes admitted of a non-critical class are at most
its capacity and its income, every bucket stays within its bounds, and classes that
share a non-negative total are limited by the total together. -/
theorem admittedBytes_le (config : OptimizerConfig) (clock : TrafficPriority → ℚ)
    (fresh : PacketFilter) (constructed : PacketFilter.init config clock = .ok fresh)
    (before window : List FilterCall)
    (chronological : (before ++ window).Pairwise fun first second => first.now ≤ second.now)
    (started : ∀ call ∈ before ++ window, ∀ priority, clock priority ≤ call.now)
    (sizes : ∀ call ∈ before ++ window, 0 ≤ call.packet.sizeBytes)
    (first last : FilterCall) (opens : window.head? = some first)
    (closes : window.getLast? = some last) :
    let reached := (Machine.run PacketFilter.call fresh before).2
    let decisions := (Machine.run PacketFilter.call reached window).1
    let final := (Machine.run PacketFilter.call reached window).2
    (∀ priority, priority ≠ .critical →
        admittedBytes priority window decisions ≤
          (fresh.buckets priority).capacity +
            (fresh.buckets priority).refillRate * (last.now - first.now)) ∧
      (∀ priority, (reached.buckets priority).InBounds ∧ (final.buckets priority).InBounds ∧
        (reached.buckets priority).capacity = (fresh.buckets priority).capacity ∧
        (final.buckets priority).capacity = (fresh.buckets priority).capacity) ∧
      (config.SharesTotal →
        ∑ priority ∈ Finset.univ.erase TrafficPriority.critical,
            admittedBytes priority window decisions ≤
          config.totalBandwidthBps *
            (config.tokenBucketCapacityMultiplier + last.now - first.now)) := by
  intro reached decisions final
  obtain ⟨beforeOrder, windowOrder, across⟩ := List.pairwise_append.mp chronological
  have between := FilterCall.between windowOrder opens closes
  have firstMem : first ∈ window := List.mem_of_mem_head? opens
  have ordered : first.now ≤ last.now := (between first firstMem).2
  rw [List.forall_mem_append] at started sizes
  have beforeWindow (priority : TrafficPriority) :
      PacketFilter.Window fresh reached before (Machine.run PacketFilter.call fresh before).1
        (clock priority) first.now priority := by
    apply PacketFilter.init_window constructed sizes.1 beforeOrder
    · exact started.2 first firstMem priority
    · exact fun call member => started.1 call member priority
    · exact fun call member => across call member first firstMem
  have thisWindow (priority : TrafficPriority) :
      PacketFilter.Window reached final window decisions first.now last.now priority := by
    apply PacketFilter.run_window sizes.2 windowOrder ordered
    · exact fun call member => (between call member).1
    · exact fun call member => (between call member).2
    · exact (beforeWindow priority).inBounds
    · exact (beforeWindow priority).settled
  have limited : ∀ priority, priority ≠ .critical →
      admittedBytes priority window decisions ≤
        (fresh.buckets priority).capacity +
          (fresh.buckets priority).refillRate * (last.now - first.now) := by
    intro priority notCritical
    rw [← (beforeWindow priority).capacity, ← (beforeWindow priority).rate]
    exact (thisWindow priority).limited notCritical
  refine ⟨limited, ?_, ?_⟩
  · intro priority
    exact ⟨(beforeWindow priority).inBounds, (thisWindow priority).inBounds,
      (beforeWindow priority).capacity,
      (thisWindow priority).capacity.trans (beforeWindow priority).capacity⟩
  · intro shares
    exact shares.sum_bytes_le constructed ordered limited

/-- Two calls of an unclassified packet, one second apart. -/
def twoCalls (packet : Packet) : List FilterCall :=
  [ { packet := packet, now := 0, queueSize := none, draw := 0 },
    { packet := packet, now := 1, queueSize := none, draw := 0 } ]

/-- The bounds at the default configuration, whose budgets share the total. -/
theorem admittedBytes_le_default :
    ∃ fresh, PacketFilter.init {} (fun _ => 0) = .ok fresh ∧
      let window := twoCalls { sizeBytes := 100 }
      let decisions := (Machine.run PacketFilter.call fresh window).1
      admittedBytes .medium window decisions ≤
          (fresh.buckets .medium).capacity + (fresh.buckets .medium).refillRate * (1 - 0) ∧
        ∑ priority ∈ Finset.univ.erase TrafficPriority.critical,
            admittedBytes priority window decisions ≤
          ((10 * 1024 * 1024 : Int) : ℚ) * (2 + 1 - 0) := by
  have shares : OptimizerConfig.SharesTotal {} := by
    refine ⟨fun _ => rfl, fun priority => ?_, by decide +kernel, by decide⟩
    cases priority <;> decide +kernel
  have multiplier : 0 < ({} : OptimizerConfig).tokenBucketCapacityMultiplier := by
    decide +kernel
  obtain ⟨fresh, built⟩ := PacketFilter.init_constructs multiplier (fun _ => 0)
  have bounds := admittedBytes_le {} (fun _ => 0) fresh built [] (twoCalls { sizeBytes := 100 })
    (by simp [twoCalls]) (by simp [twoCalls]) (by simp [twoCalls]) _ _ rfl rfl
  exact ⟨fresh, built, bounds.1 .medium (by decide), bounds.2.2 shares⟩

/-- Budgets that are negative shares of a negative total. -/
def negativeShares : OptimizerConfig where
  totalBandwidthBps := -1
  bandwidthBudget := fun _ => some (-1 / 10)

/-- Every rate is derived and positive and the budgets sum to at most one, yet two empty
packets are admitted in a window whose claimed limit is negative. -/
theorem total_limit_fails :
    (∀ priority, negativeShares.tokenRefillRate priority = none) ∧
      (∀ priority, 0 < negativeShares.effectiveRefillRate priority) ∧
      ∑ priority, (negativeShares.bandwidthBudget priority).getD 0 ≤ 1 ∧
      ∃ fresh, PacketFilter.init negativeShares (fun _ => 0) = .ok fresh ∧
        ¬ ∑ priority ∈ Finset.univ.erase TrafficPriority.critical,
            admittedBytes priority (twoCalls {})
              (Machine.run PacketFilter.call fresh (twoCalls {})).1 ≤
          negativeShares.totalBandwidthBps *
            (negativeShares.tokenBucketCapacityMultiplier + 1 - 0) := by
  have multiplier : 0 < negativeShares.tokenBucketCapacityMultiplier := by decide +kernel
  obtain ⟨fresh, built⟩ := PacketFilter.init_constructs multiplier (fun _ => 0)
  refine ⟨fun _ => rfl, fun priority => ?_, by decide +kernel, fresh, built, ?_⟩
  · cases priority <;> decide +kernel
  · have nothing (priority : TrafficPriority) :
        admittedBytes priority (twoCalls {})
          (Machine.run PacketFilter.call fresh (twoCalls {})).1 = 0 := by
      simp [admittedBytes, twoCalls, FilterCall.admitted]
    simp only [nothing, Finset.sum_const_zero]
    decide +kernel

end SmartBandwidth
