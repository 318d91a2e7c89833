import SmartBandwidth.Core.Packet
import SmartBandwidth.Lib.Rounding

/-!
# Packet filter

Each traffic class has a token bucket that is refilled when it is consulted, and
non-critical packets additionally pass random early detection on the fill level of the
shared queue.  Clock readings, the queue length and the random draw are inputs.
-/

namespace SmartBandwidth

/-! ## Token buckets -/

/-- A rate limiter for one class.  The constructor accepts positive rates and
capacities only. -/
structure TokenBucket where
  refillRate : ℚ
  capacity : ℚ
  tokens : ℚ
  lastRefill : ℚ
  refillRate_pos : 0 < refillRate
  capacity_pos : 0 < capacity

namespace TokenBucket

/-- `__init__`: the bucket starts full. -/
def init (refillRate capacity now : ℚ) : Except PyError TokenBucket :=
  if badRate : refillRate ≤ 0 then
    .error (.valueError "refill_rate must be positive")
  else if badCapacity : capacity ≤ 0 then
    .error (.valueError "capacity must be positive")
  else
    .ok {
      refillRate := refillRate
      capacity := capacity
      tokens := capacity
      lastRefill := now
      refillRate_pos := not_le.mp badRate
      capacity_pos := not_le.mp badCapacity }

/-- `_refill`. -/
def refill (bucket : TokenBucket) (now : ℚ) : TokenBucket :=
  { bucket with
    tokens := min bucket.capacity
      (bucket.tokens + (now - bucket.lastRefill) * bucket.refillRate)
    lastRefill := now }

/-- `consume`. -/
def consume (bucket : TokenBucket) (nbytes : Int) (now : ℚ) : Bool × TokenBucket :=
  let bucket := bucket.refill now
  if nbytes ≤ bucket.tokens then
    (true, { bucket with tokens := bucket.tokens - nbytes })
  else
    (false, bucket)

/-- `available`: the token count after a refill. -/
def available (bucket : TokenBucket) (now : ℚ) : ℚ × TokenBucket :=
  let bucket := bucket.refill now
  (bucket.tokens, bucket)

/-- A constructed bucket is full, and has the rate and capacity it was asked for. -/
theorem init_eq_ok {refillRate capacity now : ℚ} {bucket : TokenBucket}
    (constructed : init refillRate capacity now = .ok bucket) :
    bucket.refillRate = refillRate ∧ bucket.capacity = capacity ∧
      bucket.tokens = capacity ∧ bucket.lastRefill = now := by
  rw [init] at constructed
  split at constructed
  next => cases constructed
  next =>
    split at constructed
    next => cases constructed
    next =>
      cases constructed
      exact ⟨rfl, rfl, rfl, rfl⟩

/-- A bucket keeps its rate. -/
@[simp] theorem consume_refillRate (bucket : TokenBucket) (nbytes : Int) (now : ℚ) :
    (bucket.consume nbytes now).2.refillRate = bucket.refillRate := by
  simp only [consume]
  split
  next => rfl
  next => rfl

theorem init_of_pos {refillRate capacity : ℚ} (rate : 0 < refillRate)
    (positive : 0 < capacity) (now : ℚ) :
    ∃ bucket, init refillRate capacity now = .ok bucket := by
  rw [init, dif_neg (not_le.mpr rate), dif_neg (not_le.mpr positive)]
  exact ⟨_, rfl⟩

end TokenBucket

/-! ## The filter -/

/-- Result of `should_drop`. -/
structure DropDecision where
  drop : Bool
  reason : String := ""
  deriving DecidableEq, Repr

/-- The filter's configuration, its buckets and its drop counters. -/
structure PacketFilter where
  config : OptimizerConfig
  buckets : TrafficPriority → TokenBucket
  dropCounts : TrafficPriority → Nat

namespace PacketFilter

/-- The refill rate of a class, with the floor that keeps its bucket functional. -/
def bucketRate (config : OptimizerConfig) (priority : TrafficPriority) : ℚ :=
  let rate := config.effectiveRefillRate priority
  if rate ≤ 0 then 1 else rate

/-- The bucket `_init_buckets` builds for one class. -/
def initBucket (config : OptimizerConfig) (clock : TrafficPriority → ℚ)
    (priority : TrafficPriority) : Except PyError TokenBucket :=
  let rate := bucketRate config priority
  TokenBucket.init rate (rate * config.tokenBucketCapacityMultiplier) (clock priority)

/-- `_init_buckets`, in the order of the classes. -/
def initBuckets (config : OptimizerConfig) (clock : TrafficPriority → ℚ) :
    Except PyError (TrafficPriority → TokenBucket) := do
  let critical ← initBucket config clock .critical
  let high ← initBucket config clock .high
  let medium ← initBucket config clock .medium
  let low ← initBucket config clock .low
  let background ← initBucket config clock .background
  return fun
    | .critical => critical
    | .high => high
    | .medium => medium
    | .low => low
    | .background => background

/-- `__init__`. -/
def init (config : OptimizerConfig) (clock : TrafficPriority → ℚ) :
    Except PyError PacketFilter :=
  match initBuckets config clock with
  | .error raised => .error raised
  | .ok buckets => .ok { config := config, buckets := buckets, dropCounts := fun _ => 0 }

/-- `_red_check`; the queue length is absent when the filter has no queue to watch. -/
def redCheck (config : OptimizerConfig) (queueSize : Option Nat) (draw : ℚ)
    (priority : TrafficPriority) : Bool × String :=
  match queueSize with
  | none => (false, "")
  | some current =>
      if config.maxQueueSize ≤ 0 then
        (false, "")
      else
        let fill : ℚ := current / config.maxQueueSize
        if fill < config.redMinThreshold then
          (false, "")
        else if config.redMaxThreshold ≤ fill then
          (true, "red:queue_full:" ++ priority.name)
        else
          let dropProb :=
            (fill - config.redMinThreshold) / (config.redMaxThreshold - config.redMinThreshold)
          let priorityFactor : ℚ := priority.value / TrafficPriority.all.length
          let adjustedProb := dropProb * priorityFactor
          if draw < adjustedProb then
            (true, "red:prob_drop:" ++ priority.name ++ ":" ++ Rounding.fixed2 adjustedProb)
          else
            (false, "")

/-- The answer of the packet's bucket, and the filter after it was consulted. -/
def consume (filter : PacketFilter) (packet : Packet) (now : ℚ) : Bool × PacketFilter :=
  let priority := packet.effectivePriority
  let (allowed, bucket) := (filter.buckets priority).consume packet.sizeBytes now
  (allowed, { filter with buckets := Function.update filter.buckets priority bucket })

/-- Count a drop of one class. -/
def countDrop (filter : PacketFilter) (priority : TrafficPriority) : PacketFilter :=
  { filter with
    dropCounts := Function.update filter.dropCounts priority (filter.dropCounts priority + 1) }

/-- `should_drop`. -/
def shouldDrop (filter : PacketFilter) (packet : Packet) (queueSize : Option Nat)
    (now draw : ℚ) : DropDecision × PacketFilter :=
  let priority := packet.effectivePriority
  let (allowed, filter) := filter.consume packet now
  if allowed = false ∧ priority ≠ .critical then
    ({ drop := true, reason := "rate_limit:" ++ priority.name }, filter.countDrop priority)
  else if priority ≠ .critical then
    match redCheck filter.config queueSize draw priority with
    | (true, reason) => ({ drop := true, reason := reason }, filter.countDrop priority)
    | (false, _) => ({ drop := false }, filter)
  else
    ({ drop := false }, filter)

/-- `reset_drop_counts`. -/
def resetDropCounts (filter : PacketFilter) : PacketFilter :=
  { filter with dropCounts := fun _ => 0 }

/-- `bucket_available`. -/
def bucketAvailable (filter : PacketFilter) (priority : TrafficPriority) (now : ℚ) :
    ℚ × PacketFilter :=
  let (tokens, bucket) := (filter.buckets priority).available now
  (tokens, { filter with buckets := Function.update filter.buckets priority bucket })

/-! ## What one decision does -/

/-- The outcomes of `should_drop`: refused by the bucket, dropped early after the bucket
was debited, or let through. -/
inductive Decides (filter : PacketFilter) (packet : Packet) (queueSize : Option Nat)
    (now draw : ℚ) : DropDecision × PacketFilter → Prop where
  | limited : packet.effectivePriority ≠ .critical → (filter.consume packet now).1 = false →
      Decides filter packet queueSize now draw
        ({ drop := true, reason := "rate_limit:" ++ packet.effectivePriority.name },
          (filter.consume packet now).2.countDrop packet.effectivePriority)
  | early {reason : String} : packet.effectivePriority ≠ .critical →
      redCheck filter.config queueSize draw packet.effectivePriority = (true, reason) →
      Decides filter packet queueSize now draw
        ({ drop := true, reason := reason },
          (filter.consume packet now).2.countDrop packet.effectivePriority)
  | passed : (packet.effectivePriority ≠ .critical →
        (filter.consume packet now).1 = true ∧
          (redCheck filter.config queueSize draw packet.effectivePriority).1 = false) →
      Decides filter packet queueSize now draw
        ({ drop := false }, (filter.consume packet now).2)

theorem shouldDrop_decides (filter : PacketFilter) (packet : Packet)
    (queueSize : Option Nat) (now draw : ℚ) :
    Decides filter packet queueSize now draw
      (filter.shouldDrop packet queueSize now draw) := by
  simp only [shouldDrop]
  split
  next refused => exact .limited refused.2 refused.1
  next notRefused =>
    split
    next notCritical =>
      have allowed : (filter.consume packet now).1 = true := by
        cases answer : (filter.consume packet now).1 with
        | true => rfl
        | false => exact absurd ⟨answer, notCritical⟩ notRefused
      split
      next reason early => exact .early notCritical early
      next reason late => exact .passed fun _ => ⟨allowed, congrArg Prod.fst late⟩
    next critical => exact .passed fun notCritical => absurd notCritical critical

/-- A critical packet is never dropped by the filter. -/
theorem shouldDrop_critical {filter : PacketFilter} {packet : Packet}
    (critical : packet.effectivePriority = .critical) (queueSize : Option Nat)
    (now draw : ℚ) :
    filter.shouldDrop packet queueSize now draw =
      ({ drop := false }, (filter.consume packet now).2) := by
  have decides := filter.shouldDrop_decides packet queueSize now draw
  generalize filter.shouldDrop packet queueSize now draw = outcome at decides ⊢
  cases decides with
  | limited notCritical => exact absurd critical notCritical
  | early notCritical => exact absurd critical notCritical
  | passed => rfl

/-- A queue filled to the upper threshold makes RED drop. -/
theorem redCheck_full {config : OptimizerConfig} {current : Nat}
    (positive : 0 < config.maxQueueSize)
    (ordered : config.redMinThreshold ≤ config.redMaxThreshold)
    (full : config.redMaxThreshold ≤ current / config.maxQueueSize) (draw : ℚ)
    (priority : TrafficPriority) :
    redCheck config (some current) draw priority =
      (true, "red:queue_full:" ++ priority.name) := by
  simp only [redCheck]
  rw [if_neg (not_le.mpr positive), if_neg (not_lt.mpr (ordered.trans full)), if_pos full]

/-- The configuration never changes. -/
@[simp] theorem shouldDrop_config (filter : PacketFilter) (packet : Packet)
    (queueSize : Option Nat) (now draw : ℚ) :
    (filter.shouldDrop packet queueSize now draw).2.config = filter.config := by
  have decides := filter.shouldDrop_decides packet queueSize now draw
  generalize filter.shouldDrop packet queueSize now draw = outcome at decides ⊢
  cases decides <;> rfl

/-- The buckets move as the packet's own bucket answers, whatever is decided. -/
@[simp] theorem shouldDrop_buckets (filter : PacketFilter) (packet : Packet)
    (queueSize : Option Nat) (now draw : ℚ) :
    (filter.shouldDrop packet queueSize now draw).2.buckets =
      (filter.consume packet now).2.buckets := by
  have decides := filter.shouldDrop_decides packet queueSize now draw
  generalize filter.shouldDrop packet queueSize now draw = outcome at decides ⊢
  cases decides <;> rfl

/-- Every bucket keeps its rate. -/
theorem shouldDrop_refillRate (filter : PacketFilter) (packet : Packet)
    (queueSize : Option Nat) (now draw : ℚ) (priority : TrafficPriority) :
    ((filter.shouldDrop packet queueSize now draw).2.buckets priority).refillRate =
      (filter.buckets priority).refillRate := by
  simp only [shouldDrop_buckets, consume]
  by_cases same : priority = packet.effectivePriority
  · rw [same, Function.update_self, TokenBucket.consume_refillRate]
  · rw [Function.update_of_ne same]

/-- What construction yields, unless a bucket raises. -/
theorem init_built {config : OptimizerConfig} {clock : TrafficPriority → ℚ}
    {filter : PacketFilter} (constructed : init config clock = .ok filter) :
    initBuckets config clock = .ok filter.buckets ∧ filter.config = config ∧
      filter.dropCounts = fun _ => 0 := by
  rw [init] at constructed
  cases built : initBuckets config clock with
  | error raised =>
      rw [built] at constructed
      cases constructed
  | ok buckets =>
      rw [built] at constructed
      cases constructed
      exact ⟨rfl, rfl, rfl⟩

/-- Each bucket of a constructed filter is the one built for its class. -/
theorem init_bucket {config : OptimizerConfig} {clock : TrafficPriority → ℚ}
    {filter : PacketFilter} (constructed : init config clock = .ok filter)
    (priority : TrafficPriority) :
    initBucket config clock priority = .ok (filter.buckets priority) := by
  have built := (init_built constructed).1
  obtain ⟨critical, criticalBuilt, built⟩ := PyError.of_bind_eq_ok built
  obtain ⟨high, highBuilt, built⟩ := PyError.of_bind_eq_ok built
  obtain ⟨medium, mediumBuilt, built⟩ := PyError.of_bind_eq_ok built
  obtain ⟨low, lowBuilt, built⟩ := PyError.of_bind_eq_ok built
  obtain ⟨background, backgroundBuilt, built⟩ := PyError.of_bind_eq_ok built
  rw [← Except.ok.inj built]
  cases priority <;> assumption

theorem bucketRate_pos (config : OptimizerConfig) (priority : TrafficPriority) :
    0 < bucketRate config priority := by
  simp only [bucketRate]
  split
  next => exact one_pos
  next positive => exact not_le.mp positive

/-- A filter constructs whenever its capacity multiplier is positive. -/
theorem init_constructs {config : OptimizerConfig}
    (multiplier : 0 < config.tokenBucketCapacityMultiplier) (clock : TrafficPriority → ℚ) :
    ∃ filter, init config clock = .ok filter := by
  have built (priority : TrafficPriority) :
      ∃ bucket, initBucket config clock priority = .ok bucket :=
    TokenBucket.init_of_pos (bucketRate_pos config priority)
      (mul_pos (bucketRate_pos config priority) multiplier) _
  obtain ⟨critical, criticalBuilt⟩ := built .critical
  obtain ⟨high, highBuilt⟩ := built .high
  obtain ⟨medium, mediumBuilt⟩ := built .medium
  obtain ⟨low, lowBuilt⟩ := built .low
  obtain ⟨background, backgroundBuilt⟩ := built .background
  rw [init, initBuckets, criticalBuilt, highBuilt, mediumBuilt, lowBuilt, backgroundBuilt]
  exact ⟨_, rfl⟩

/-- Any other multiplier is refused with the text of the bucket's own check. -/
theorem init_raises {config : OptimizerConfig}
    (multiplier : config.tokenBucketCapacityMultiplier ≤ 0) (clock : TrafficPriority → ℚ) :
    init config clock = .error (.valueError "capacity must be positive") := by
  have rate := bucketRate_pos config .critical
  have refused : initBucket config clock .critical =
      .error (.valueError "capacity must be positive") := by
    simp only [initBucket]
    rw [TokenBucket.init, dif_neg (not_le.mpr rate),
      dif_pos (mul_nonpos_of_nonneg_of_nonpos rate.le multiplier)]
  rw [init, initBuckets, refused]
  rfl

/-- A constructed filter has the given configuration and has dropped nothing. -/
theorem init_eq_ok {config : OptimizerConfig} {clock : TrafficPriority → ℚ}
    {filter : PacketFilter} (constructed : init config clock = .ok filter) :
    filter.config = config ∧ filter.dropCounts = fun _ => 0 :=
  (init_built constructed).2

end PacketFilter

end SmartBandwidth
