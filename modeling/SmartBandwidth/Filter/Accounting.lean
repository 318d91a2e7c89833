import SmartBandwidth.Filter.RateLimit

/-!
# Tokens and admissions

The filter debits the bucket of a class before RED decides, and lets critical packets pass
whether the bucket has their bytes or not.  The books of a class match its admissions
where the two do not come apart.
-/

namespace SmartBandwidth

/-- Take bytes out of a bucket. -/
def TokenBucket.debit (bucket : TokenBucket) (bytes : ℚ) : TokenBucket :=
  { bucket with tokens := bucket.tokens - bytes }

theorem TokenBucket.debit_inj {bucket : TokenBucket} {left right : ℚ} :
    bucket.debit left = bucket.debit right ↔ left = right := by
  constructor
  · intro same
    exact sub_right_inj.mp (congrArg TokenBucket.tokens same)
  · exact congrArg bucket.debit

namespace PacketFilter

/-- The bucket of the packet's class at the time of the call. -/
def refilled (filter : PacketFilter) (call : FilterCall) : TokenBucket :=
  (filter.buckets call.packet.effectivePriority).refill call.now

/-- Apart from the refill, the call takes the bytes of the packet out of the bucket of its
class if the packet is admitted, and nothing if it is dropped. -/
def Accounts (filter : PacketFilter) (call : FilterCall) : Prop :=
  (filter.call call).2.buckets call.packet.effectivePriority =
    (filter.refilled call).debit
      (call.admitted call.packet.effectivePriority (filter.call call).1)

/-- The bucket has the bytes of the packet. -/
def Covers (filter : PacketFilter) (call : FilterCall) : Prop :=
  call.packet.sizeBytes ≤ (filter.refilled call).tokens

instance (filter : PacketFilter) (call : FilterCall) : Decidable (filter.Covers call) :=
  inferInstanceAs (Decidable ((call.packet.sizeBytes : ℚ) ≤ (filter.refilled call).tokens))

/-- A critical packet finds its bytes, and a packet that finds them is not dropped early.
A packet without bytes moves nothing. -/
def Balanced (filter : PacketFilter) (call : FilterCall) : Prop :=
  call.packet.sizeBytes = 0 ∨
    (call.packet.effectivePriority = .critical → filter.Covers call) ∧
      (call.packet.effectivePriority ≠ .critical → filter.Covers call →
        (redCheck filter.config call.queueSize call.draw
          call.packet.effectivePriority).1 = false)

instance (filter : PacketFilter) (call : FilterCall) : Decidable (filter.Balanced call) :=
  inferInstanceAs (Decidable (call.packet.sizeBytes = 0 ∨
    (call.packet.effectivePriority = .critical → filter.Covers call) ∧
      (call.packet.effectivePriority ≠ .critical → filter.Covers call →
        (redCheck filter.config call.queueSize call.draw
          call.packet.effectivePriority).1 = false)))

/-- The bucket is debited whenever it has the bytes. -/
theorem call_bucket (filter : PacketFilter) (call : FilterCall) :
    (filter.call call).2.buckets call.packet.effectivePriority =
      (filter.refilled call).debit (if filter.Covers call then call.packet.sizeBytes else 0) := by
  rw [PacketFilter.call, shouldDrop_buckets]
  simp only [consume, Function.update_self, TokenBucket.consume]
  by_cases covers : filter.Covers call
  · rw [if_pos covers, if_pos (by exact covers)]
    rfl
  · rw [if_neg covers, if_neg (by exact covers), TokenBucket.debit, sub_zero]
    rfl

/-- What decides on admission: critical packets pass, the others need their bytes and RED's
consent. -/
theorem call_admitted_iff (filter : PacketFilter) (call : FilterCall) :
    (filter.call call).1.drop = false ↔
      (call.packet.effectivePriority ≠ .critical → filter.Covers call ∧
        (redCheck filter.config call.queueSize call.draw
          call.packet.effectivePriority).1 = false) := by
  have answer : (filter.consume call.packet call.now).1 = true ↔ filter.Covers call := by
    simp only [consume, TokenBucket.consume, Covers, refilled]
    split
    next covers => exact iff_of_true rfl covers
    next missing => exact iff_of_false Bool.false_ne_true missing
  have decides := filter.shouldDrop_decides call.packet call.queueSize call.now call.draw
  rw [PacketFilter.call]
  generalize filter.shouldDrop call.packet call.queueSize call.now call.draw = outcome
    at decides ⊢
  cases decides with
  | limited ordinary refused =>
      have missing : ¬ filter.Covers call := by
        rw [← answer, refused]
        exact Bool.false_ne_true
      simp [ordinary, missing]
  | early ordinary early => simp [ordinary, early]
  | passed allowed =>
      rw [← answer]
      exact iff_of_true rfl allowed

/-- The bytes of a dropped packet are not admitted. -/
theorem admitted_eq (call : FilterCall) (decision : DropDecision) :
    call.admitted call.packet.effectivePriority decision =
      if decision.drop = false then (call.packet.sizeBytes : ℚ) else 0 := by
  simp [FilterCall.admitted]

/-- Two conditional amounts are equal when the amount is nothing or the conditions agree. -/
theorem ite_amount_eq_iff {amount : Int} {left right : Prop} [Decidable left] [Decidable right] :
    (if left then (amount : ℚ) else 0) = (if right then (amount : ℚ) else 0) ↔
      amount = 0 ∨ (left ↔ right) := by
  by_cases isLeft : left <;> by_cases isRight : right <;> simp [isLeft, isRight, eq_comm]

/-- The books match one call exactly when it is balanced. -/
theorem accounts_iff (filter : PacketFilter) (call : FilterCall) :
    filter.Accounts call ↔ filter.Balanced call := by
  rw [Accounts, call_bucket, TokenBucket.debit_inj, admitted_eq, ite_amount_eq_iff, Balanced]
  apply or_congr_right
  rw [call_admitted_iff]
  by_cases critical : call.packet.effectivePriority = .critical
  · simp [critical]
  · simp [critical]

/-- In a run of calls the bucket of each packet's class is debited by what is admitted,
exactly when every call is balanced in its turn. -/
theorem run_accounts_iff (filter : PacketFilter) (calls : List FilterCall) :
    (∀ before current after, calls = before ++ current :: after →
        (Machine.run call filter before).2.Accounts current) ↔
      ∀ before current after, calls = before ++ current :: after →
        (Machine.run call filter before).2.Balanced current := by
  simp only [accounts_iff]

/-- A background packet of 100 bytes at a nearly full queue. -/
def earlyDrop : FilterCall where
  packet := { priority := some .background, sizeBytes := 100 }
  now := 0
  queueSize := some 1000
  draw := 0

/-- A critical packet larger than its bucket. -/
def oversized : FilterCall where
  packet := { priority := some .critical, sizeBytes := 10000000 }
  now := 0
  queueSize := none
  draw := 0

/-- A fresh filter drops the one and has debited it, and admits the other and has not. -/
theorem fresh_filter_unbalanced :
    ∃ filter, init {} (fun _ => 0) = .ok filter ∧
      ¬ filter.Accounts earlyDrop ∧ ¬ filter.Accounts oversized := by
  obtain ⟨filter, constructed⟩ := init_constructs
    (show 0 < OptimizerConfig.tokenBucketCapacityMultiplier {} by decide +kernel) fun _ => 0
  have evaluated : (init {} fun _ => 0).toOption.map (fun filter =>
      (decide (filter.Balanced earlyDrop), decide (filter.Balanced oversized))) =
        some (false, false) := by
    decide +kernel
  rw [constructed] at evaluated
  obtain ⟨early, large⟩ := Prod.ext_iff.mp (Option.some.inj evaluated)
  refine ⟨filter, constructed, ?_, ?_⟩
  · rw [accounts_iff]
    exact of_decide_eq_false early
  · rw [accounts_iff]
    exact of_decide_eq_false large

end PacketFilter

end SmartBandwidth
