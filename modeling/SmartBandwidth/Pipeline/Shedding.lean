import SmartBandwidth.Pipeline.Processing
import SmartBandwidth.Filter.EarlyDetection
import Mathlib.Tactic.Linarith

/-!
# What load shedding drops

RED weighs the drop probability by traffic class, and the filter knows no coefficients.
What it drops it drops in every less important class too; the value of a packet is looked
at by the scheduler behind it only.
-/

namespace SmartBandwidth

namespace PacketFilter

/-- With tokens available a packet is dropped exactly when RED drops its class. -/
theorem shouldDrop_of_tokens {filter : PacketFilter} {packet : Packet} {now : ℚ}
    (tokens : (filter.consume packet now).1 = true) (queueSize : Option Nat) (draw : ℚ) :
    (filter.shouldDrop packet queueSize now draw).1.drop = true ↔
      packet.effectivePriority ≠ .critical ∧
        (redCheck filter.config queueSize draw packet.effectivePriority).1 = true := by
  have decides := filter.shouldDrop_decides packet queueSize now draw
  generalize filter.shouldDrop packet queueSize now draw = outcome at decides ⊢
  cases decides with
  | limited _ refused =>
      rw [tokens] at refused
      cases refused
  | early ordinary early => simp [ordinary, early]
  | passed allowed =>
      constructor
      · intro impossible
        cases impossible
      · rintro ⟨ordinary, early⟩
        rw [(allowed ordinary).2] at early
        cases early

/-- A more important packet that is worth less has the smaller coefficient. -/
theorem valueCoefficient_lt {cheaper dearer : Packet}
    (outvalued : ValueScheduler.effectiveValue cheaper < ValueScheduler.effectiveValue dearer)
    (important : cheaper.effectivePriority.value < dearer.effectivePriority.value) :
    cheaper.valueCoefficient < dearer.valueCoefficient := by
  have multipliers : priorityMultiplier dearer.effectivePriority ≤
      priorityMultiplier cheaper.effectivePriority := by
    generalize cheaper.effectivePriority = first at important
    generalize dearer.effectivePriority = second at important
    revert important
    cases first <;> cases second <;> decide +kernel
  have positive : 0 < priorityMultiplier dearer.effectivePriority := by
    cases dearer.effectivePriority <;> decide +kernel
  rw [ValueScheduler.effectiveValue, ValueScheduler.effectiveValue] at outvalued
  have coefficients : max 0 cheaper.valueCoefficient < max 0 dearer.valueCoefficient := by
    apply lt_of_mul_lt_mul_right _ positive.le
    exact (mul_le_mul_of_nonneg_left multipliers (le_max_left _ _)).trans_lt outvalued
  rcases lt_max_iff.mp coefficients with negative | less
  · exact absurd (le_max_left 0 cheaper.valueCoefficient) (not_le.mpr negative)
  · exact (le_max_right _ _).trans_lt less

/-- Among packets with tokens available, whoever drops one drops every packet worth less,
unless that one's class is more important and its coefficient smaller. -/
theorem shouldDrop_sheds {filter : PacketFilter} {dearer cheaper : Packet} {now : ℚ}
    (dearerTokens : (filter.consume dearer now).1 = true)
    (cheaperTokens : (filter.consume cheaper now).1 = true)
    (outvalued : ValueScheduler.effectiveValue cheaper < ValueScheduler.effectiveValue dearer)
    {queueSize : Option Nat} {draw : ℚ}
    (dropped : (filter.shouldDrop dearer queueSize now draw).1.drop = true) :
    (filter.shouldDrop cheaper queueSize now draw).1.drop = true ∨
      (cheaper.effectivePriority.value < dearer.effectivePriority.value ∧
        cheaper.valueCoefficient < dearer.valueCoefficient) := by
  by_cases important : cheaper.effectivePriority.value < dearer.effectivePriority.value
  · exact .inr ⟨important, valueCoefficient_lt outvalued important⟩
  · left
    rw [shouldDrop_of_tokens dearerTokens] at dropped
    rw [shouldDrop_of_tokens cheaperTokens]
    have less := not_lt.mp important
    refine ⟨?_, redCheck_mono less dropped.2⟩
    intro critical
    rw [critical] at less
    exact dropped.1 (TrafficPriority.value_le_one_iff.mp less)

/-- Whether two background packets of one size have tokens, and whether the dearer is dropped
at a nearly full queue. -/
private def backgroundPair (filter : PacketFilter) : Bool × Bool × Bool :=
  let dearer : Packet := { priority := some .background, sizeBytes := 100, valueCoefficient := 5 }
  let cheaper : Packet := { priority := some .background, sizeBytes := 100 }
  ((filter.consume dearer 0).1, (filter.consume cheaper 0).1,
    (filter.shouldDrop dearer (some 1000) 0 0).1.drop)

/-- Two background packets at a nearly full queue. -/
theorem shouldDrop_sheds_background :
    ∃ filter, init {} (fun _ => 0) = .ok filter ∧
      ((filter.shouldDrop { priority := some .background, sizeBytes := 100 } (some 1000) 0 0).1.drop
          = true ∨
        (TrafficPriority.background.value < TrafficPriority.background.value ∧ (1 : ℚ) < 5)) := by
  obtain ⟨filter, constructed⟩ := init_constructs
    (show 0 < OptimizerConfig.tokenBucketCapacityMultiplier {} by decide +kernel) fun _ => 0
  have evaluated : (init {} fun _ => 0).toOption.map backgroundPair = some (true, true, true) := by
    decide +kernel
  rw [constructed] at evaluated
  obtain ⟨dearerTokens, rest⟩ := Prod.ext_iff.mp (Option.some.inj evaluated)
  obtain ⟨cheaperTokens, dropped⟩ := Prod.ext_iff.mp rest
  refine ⟨filter, constructed, ?_⟩
  exact shouldDrop_sheds dearerTokens cheaperTokens (by decide +kernel) dropped

end PacketFilter

/-! ## A valuable background packet -/

/-- A queue of ten packets. -/
def tenSlots : OptimizerConfig where
  maxQueueSize := 10

/-- A policy that values port 6881 a hundred times as much as the rest. -/
def bulkFirst : FlowValuePolicy :=
  FlowValuePolicy.init
    [{ name := "bulk", priority := .background, ports := [6881], valueCoefficient := 100 }] 1

/-- A background packet that the policy values. -/
def bulkPacket : Packet := { priority := some .background, dstPort := 6881, sizeBytes := 100 }

/-- A packet of class `high` that the policy does not value. -/
def plainPacket : Packet := { priority := some .high, sizeBytes := 100 }

/-- Six critical packets fill the queue to the lower threshold and a bit more. -/
def fillingCalls : List OptimizerCall :=
  (List.range 6).map fun ref => .process ref (.frozen 0 0)

/-- The filter's answers to the two packets at a draw of one fifth, once the policy has
assigned their coefficients: whether each has tokens, whether each is dropped, and the two
values. -/
def shedding (fresh : BandwidthOptimizer) : (Bool × Bool) × (Bool × Bool) × ℚ × ℚ :=
  let rt := Runtime.ofSearch id fun _ _ => false
  let optimizer := (Machine.run (BandwidthOptimizer.call rt)
    (fresh, fun _ => { priority := some .critical }) fillingCalls).2.1
  let bulk := (bulkFirst.assign rt bulkPacket).1
  let plain := (bulkFirst.assign rt plainPacket).1
  let drops (packet : Packet) : Bool :=
    (optimizer.packetFilter.shouldDrop packet (some optimizer.engine.length) 0 (1 / 5)).1.drop
  (((optimizer.packetFilter.consume bulk 0).1, (optimizer.packetFilter.consume plain 0).1),
    (drops bulk, drops plain),
    ValueScheduler.effectiveValue bulk, ValueScheduler.effectiveValue plain)

/-- Both packets have tokens; the one worth 100 is dropped and the one worth 4 is not. -/
theorem shedding_drops_more_valuable :
    ∃ fresh, BandwidthOptimizer.init tenSlots (some bulkFirst) (fun _ => 0) = .ok fresh ∧
      bulkPacket.sizeBytes = plainPacket.sizeBytes ∧
      shedding fresh = ((true, true), (true, false), 100, 4) := by
  obtain ⟨fresh, constructed⟩ := BandwidthOptimizer.init_constructs (some bulkFirst)
    (show 0 < tenSlots.tokenBucketCapacityMultiplier by decide +kernel) fun _ => 0
  have evaluated : (BandwidthOptimizer.init tenSlots (some bulkFirst) fun _ => 0).toOption.map
      shedding = some ((true, true), (true, false), 100, 4) := by
    decide +kernel
  rw [constructed] at evaluated
  exact ⟨fresh, constructed, rfl, Option.some.inj evaluated⟩

end SmartBandwidth
