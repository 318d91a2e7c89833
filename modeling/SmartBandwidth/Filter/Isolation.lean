import SmartBandwidth.Filter.RateLimit
import SmartBandwidth.Lib.MeterProbes

/-!
# Isolation of classes

Without a queue to watch, the filter decides on a packet by the bucket of its class alone.
Packets of other classes do not touch it, and looking at it only settles it.
-/

namespace SmartBandwidth

/-- A use of a filter that watches no queue. -/
inductive FilterUse where
  | shouldDrop (packet : Packet) (now : ℚ)
  | bucketAvailable (priority : TrafficPriority) (now : ℚ)

/-- What the filter answers. -/
inductive FilterAnswer where
  | decision (decision : DropDecision)
  | tokens (tokens : ℚ)

namespace FilterUse

/-- The clock reading of a use. -/
def now : FilterUse → ℚ
  | .shouldDrop _ now => now
  | .bucketAvailable _ now => now

/-- The timed packet of one class that a use asks about. -/
def check? (priority : TrafficPriority) : FilterUse → Option (Packet × ℚ)
  | .shouldDrop packet now =>
      if packet.effectivePriority = priority then some (packet, now) else none
  | .bucketAvailable _ _ => none

/-- The decision on a packet of one class. -/
def decision? (priority : TrafficPriority) : FilterUse × FilterAnswer → Option DropDecision
  | (.shouldDrop packet _, .decision decision) =>
      if packet.effectivePriority = priority then some decision else none
  | _ => none

/-- What a use does to the meter of one class. -/
def operation? (priority : TrafficPriority) : FilterUse → Option (Metering.Meter.Operation ℚ)
  | .shouldDrop packet now =>
      if packet.effectivePriority = priority then some (.draw ⟨now, packet.sizeBytes⟩) else none
  | .bucketAvailable probed now => if probed = priority then some (.probe now) else none

end FilterUse

namespace PacketFilter

/-- One use; without a queue to watch RED draws nothing. -/
def use (filter : PacketFilter) : FilterUse → FilterAnswer × PacketFilter
  | .shouldDrop packet now =>
      let (decision, filter) := filter.shouldDrop packet none now 0
      (.decision decision, filter)
  | .bucketAvailable priority now =>
      let (tokens, filter) := filter.bucketAvailable priority now
      (.tokens tokens, filter)

/-- The timed packets of one class, in order. -/
def checks (priority : TrafficPriority) (uses : List FilterUse) : List (Packet × ℚ) :=
  uses.filterMap (FilterUse.check? priority)

/-- The decisions on the packets of one class, in order. -/
def decisions (priority : TrafficPriority) (uses : List FilterUse)
    (answers : List FilterAnswer) : List DropDecision :=
  (uses.zip answers).filterMap (FilterUse.decision? priority)

/-- The decision on a packet by the answer of its bucket. -/
def decided (priority : TrafficPriority) (allowed : Bool) : DropDecision :=
  if allowed = false ∧ priority ≠ .critical then
    { drop := true, reason := "rate_limit:" ++ priority.name }
  else
    { drop := false }

theorem shouldDrop_unwatched (filter : PacketFilter) (packet : Packet) (now draw : ℚ) :
    (filter.shouldDrop packet none now draw).1 =
      decided packet.effectivePriority (filter.consume packet now).1 := by
  simp only [shouldDrop, decided, redCheck]
  split
  next => rfl
  next =>
    split
    next => rfl
    next => rfl

/-- A probe settles the meter of its class and no other. -/
theorem bucketAvailable_meter (filter : PacketFilter) (probed : TrafficPriority) (now : ℚ)
    (priority : TrafficPriority) :
    ((filter.bucketAvailable probed now).2.buckets priority).meter =
      if probed = priority then (filter.buckets priority).meter.settle now
      else (filter.buckets priority).meter := by
  simp only [bucketAvailable, Function.update_apply]
  split
  next same =>
    subst same
    rw [if_pos rfl]
    rfl
  next other => rw [if_neg (Ne.symm other)]

section Use

variable (filter : PacketFilter) {priority : TrafficPriority} {step : FilterUse}

/-- A use that does not concern a class leaves its meter alone and decides on none of its
packets. -/
theorem use_of_none (elsewhere : step.operation? priority = none) :
    ((filter.use step).2.buckets priority).meter = (filter.buckets priority).meter ∧
      FilterUse.decision? priority (step, (filter.use step).1) = none := by
  cases step with
  | shouldDrop packet now =>
      have other : packet.effectivePriority ≠ priority := by
        intro same
        rw [FilterUse.operation?, if_pos same] at elsewhere
        cases elsewhere
      constructor
      · rw [use, shouldDrop_buckets, consume_meter, if_neg other]
      · exact if_neg other
  | bucketAvailable probed now =>
      have other : probed ≠ priority := by
        intro same
        rw [FilterUse.operation?, if_pos same] at elsewhere
        cases elsewhere
      constructor
      · rw [use, bucketAvailable_meter, if_neg other]
      · rfl

/-- A use that concerns a class operates its meter, and decides by the answer. -/
theorem use_of_some {operation : Metering.Meter.Operation ℚ}
    (here : step.operation? priority = some operation) :
    ((filter.use step).2.buckets priority).meter =
        ((filter.buckets priority).meter.operate operation).2 ∧
      FilterUse.decision? priority (step, (filter.use step).1) =
        ((filter.buckets priority).meter.operate operation).1.map (decided priority) := by
  cases step with
  | shouldDrop packet now =>
      rw [FilterUse.operation?, Option.ite_none_right_eq_some, Option.some.injEq] at here
      obtain ⟨rfl, rfl⟩ := here
      constructor
      · rw [use, shouldDrop_buckets, consume_meter, if_pos rfl]
        rfl
      · rw [use, FilterUse.decision?, if_pos rfl, shouldDrop_unwatched, consume,
          (TokenBucket.consume_meter _ _ _).1]
        rfl
  | bucketAvailable probed now =>
      rw [FilterUse.operation?, Option.ite_none_right_eq_some, Option.some.injEq] at here
      obtain ⟨rfl, rfl⟩ := here
      constructor
      · rw [use, bucketAvailable_meter, if_pos rfl]
        rfl
      · rfl

end Use

/-- Over a run, the uses that concern a class operate its meter, and its packets are decided
by the answers. -/
theorem run_operations (filter : PacketFilter) (uses : List FilterUse)
    (priority : TrafficPriority) :
    ((Machine.run use filter uses).2.buckets priority).meter =
        (Machine.run Metering.Meter.operate (filter.buckets priority).meter
          (uses.filterMap (FilterUse.operation? priority))).2 ∧
      decisions priority uses (Machine.run use filter uses).1 =
        ((Machine.run Metering.Meter.operate (filter.buckets priority).meter
          (uses.filterMap (FilterUse.operation? priority))).1.filterMap id).map
            (decided priority) := by
  induction uses generalizing filter with
  | nil => exact ⟨rfl, rfl⟩
  | cons first rest ih =>
      obtain ⟨meterAfter, decisionsAfter⟩ := ih (filter.use first).2
      rw [decisions, Machine.run_cons, List.zip_cons_cons, List.filterMap_cons,
        List.filterMap_cons]
      rw [decisions] at decisionsAfter
      cases concerns : first.operation? priority with
      | none =>
          obtain ⟨meterEq, decisionEq⟩ := use_of_none filter concerns
          rw [meterEq] at meterAfter decisionsAfter
          simp only [decisionEq]
          exact ⟨meterAfter, decisionsAfter⟩
      | some operation =>
          obtain ⟨meterEq, decisionEq⟩ := use_of_some filter concerns
          rw [meterEq] at meterAfter decisionsAfter
          simp only [decisionEq, Machine.run_cons, List.filterMap_cons, id_eq]
          refine ⟨meterAfter, ?_⟩
          cases ((filter.buckets priority).meter.operate operation).1 with
          | none => exact decisionsAfter
          | some allowed => exact congrArg (List.cons (decided priority allowed)) decisionsAfter

/-- The draws on the meter of a class are its packets. -/
theorem draws_eq (priority : TrafficPriority) (uses : List FilterUse) :
    (uses.filterMap (FilterUse.operation? priority)).filterMap
        Metering.Meter.Operation.demand? =
      (checks priority uses).map fun timed => ⟨timed.2, timed.1.sizeBytes⟩ := by
  rw [checks, List.filterMap_filterMap, List.map_filterMap]
  congr 1
  funext step
  cases step with
  | shouldDrop packet now =>
      by_cases same : packet.effectivePriority = priority
      · simp [FilterUse.operation?, FilterUse.check?, Metering.Meter.Operation.demand?, same]
      · simp [FilterUse.operation?, FilterUse.check?, same]
  | bucketAvailable probed now =>
      by_cases same : probed = priority
      · simp [FilterUse.operation?, FilterUse.check?, Metering.Meter.Operation.demand?, same]
      · simp [FilterUse.operation?, FilterUse.check?, same]

theorem operation?_time {priority : TrafficPriority} {step : FilterUse}
    {operation : Metering.Meter.Operation ℚ} (here : step.operation? priority = some operation) :
    operation.time = step.now := by
  cases step with
  | shouldDrop packet now =>
      rw [FilterUse.operation?, Option.ite_none_right_eq_some, Option.some.injEq] at here
      obtain ⟨_, rfl⟩ := here
      rfl
  | bucketAvailable probed now =>
      rw [FilterUse.operation?, Option.ite_none_right_eq_some, Option.some.injEq] at here
      obtain ⟨_, rfl⟩ := here
      rfl

/-- What a run says about a class is what the run of the class's packets alone says. -/
theorem run_alone (filter : PacketFilter) (priority : TrafficPriority) {uses : List FilterUse}
    (chronological : uses.Pairwise fun first second => first.now ≤ second.now) {finish : ℚ}
    (closes : ∀ step ∈ uses, step.now ≤ finish) :
    let draws : List (Metering.Demand ℚ) :=
      (checks priority uses).map fun timed => ⟨timed.2, timed.1.sizeBytes⟩
    let alone := Machine.run Metering.Meter.draw (filter.buckets priority).meter draws
    decisions priority uses (Machine.run use filter uses).1 = alone.1.map (decided priority) ∧
      ((Machine.run use filter uses).2.bucketAvailable priority finish).1 =
        alone.2.levelAt finish := by
  obtain ⟨meterEq, decisionsEq⟩ := run_operations filter uses priority
  have rate : 0 ≤ (filter.buckets priority).meter.rate :=
    (filter.buckets priority).refillRate_pos.le
  have ordered : (uses.filterMap (FilterUse.operation? priority)).Pairwise
      fun first second => first.time ≤ second.time := by
    apply List.pairwise_filterMap.mpr
    apply chronological.imp
    intro first second earlier left leftEq right rightEq
    rw [operation?_time leftEq, operation?_time rightEq]
    exact earlier
  have ends : ∀ operation ∈ uses.filterMap (FilterUse.operation? priority),
      operation.time ≤ finish := by
    intro operation member
    obtain ⟨step, listed, here⟩ := List.mem_filterMap.mp member
    rw [operation?_time here]
    exact closes step listed
  obtain ⟨answers, level⟩ := Metering.Meter.run_probed rate ordered ends
  rw [draws_eq] at answers level
  intro draws alone
  constructor
  · rw [decisionsEq, answers]
  · rw [← meterEq] at level
    exact level

/-- Two runs from one filter that ask about the same timed packets of a class get the same
decisions on them and leave the class the same budget, whatever else they contain. -/
theorem decisions_isolated (filter : PacketFilter) (priority : TrafficPriority)
    (left right : List FilterUse)
    (leftOrdered : left.Pairwise fun first second => first.now ≤ second.now)
    (rightOrdered : right.Pairwise fun first second => first.now ≤ second.now)
    (same : checks priority left = checks priority right) (finish : ℚ)
    (leftCloses : ∀ step ∈ left, step.now ≤ finish)
    (rightCloses : ∀ step ∈ right, step.now ≤ finish) :
    decisions priority left (Machine.run use filter left).1 =
        decisions priority right (Machine.run use filter right).1 ∧
      ((Machine.run use filter left).2.bucketAvailable priority finish).1 =
        ((Machine.run use filter right).2.bucketAvailable priority finish).1 := by
  obtain ⟨leftDecisions, leftTokens⟩ := run_alone filter priority leftOrdered leftCloses
  obtain ⟨rightDecisions, rightTokens⟩ := run_alone filter priority rightOrdered rightCloses
  rw [leftDecisions, leftTokens, rightDecisions, rightTokens, same]
  exact ⟨rfl, rfl⟩

/-- A packet of class `high` alone, and among a probe and a packet of class `low`. -/
theorem decisions_isolated_high :
    ∃ filter, init {} (fun _ => 0) = .ok filter ∧
      decisions .high [.shouldDrop { priority := some .high, sizeBytes := 100 } 2]
          (Machine.run use filter
            [.shouldDrop { priority := some .high, sizeBytes := 100 } 2]).1 =
        decisions .high
          [.bucketAvailable .high 1, .shouldDrop { priority := some .low, sizeBytes := 100 } 1,
            .shouldDrop { priority := some .high, sizeBytes := 100 } 2]
          (Machine.run use filter
            [.bucketAvailable .high 1, .shouldDrop { priority := some .low, sizeBytes := 100 } 1,
              .shouldDrop { priority := some .high, sizeBytes := 100 } 2]).1 := by
  obtain ⟨filter, constructed⟩ := init_constructs
    (show 0 < OptimizerConfig.tokenBucketCapacityMultiplier {} by decide +kernel) fun _ => 0
  refine ⟨filter, constructed, ?_⟩
  exact (decisions_isolated filter .high
    [.shouldDrop { priority := some .high, sizeBytes := 100 } 2]
    [.bucketAvailable .high 1, .shouldDrop { priority := some .low, sizeBytes := 100 } 1,
      .shouldDrop { priority := some .high, sizeBytes := 100 } 2]
    (by decide +kernel) (by decide +kernel) rfl 2 (by decide +kernel) (by decide +kernel)).1

end PacketFilter

end SmartBandwidth
