import SmartBandwidth.Safety.SafetyGuard
import SmartBandwidth.Pipeline.Processing

/-!
# What a failing open guard forwards

A guard that fails open answers for an optimizer that raised with the packet object it was
given.  The stages of the optimizer write to that object before later ones can raise, so
what is forwarded is what the stages up to the exception have made of it.
-/

namespace SmartBandwidth

/-- The optimizer as a guard wraps it; `describe` is what the guard reads of an
exception. -/
def BandwidthOptimizer.wrapped (rt : Runtime) (describe : PyError → Raised) :
    WrappedOptimizer (BandwidthOptimizer × Store) ProcessReadings :=
  fun state packet readings =>
    let (answer, optimizer, store) := state.1.process rt state.2 readings packet
    (answer.mapError describe, (optimizer, store))

namespace SafetyGuard

/-- The guard forwards the packet with every field as it was submitted. -/
def ForwardsOriginal (rt : Runtime) (describe : PyError → Raised) (guard : SafetyGuard)
    (state : BandwidthOptimizer × Store) (packet : PacketRef) (readings : ProcessReadings)
    (now : ℚ) : Prop :=
  let (result, _, _, store) :=
    guard.process (BandwidthOptimizer.wrapped rt describe) state packet readings now
  result.packet = packet ∧ result.dropped = false ∧ store packet = state.2 packet

end SafetyGuard

namespace BandwidthOptimizer

/-- The classifier raises on the packet. -/
def ClassifyRaises (rt : Runtime) (optimizer : BandwidthOptimizer) (packet : Packet) : Prop :=
  packet.priority = none ∧ ∃ raised, optimizer.classifier.classify rt packet = .error raised

/-- The stages before the filter find nothing to write: the packet has a class that its
flow leaves as it is, and, with a value policy, the coefficient of the policy. -/
def Settled (rt : Runtime) (optimizer : BandwidthOptimizer) (readings : ProcessReadings)
    (packet : Packet) : Prop :=
  let tracked := optimizer.flowTracker.update rt packet readings.flow
  (∃ priority, packet.priority = some priority ∧
      tracked.2.priorityHint priority tracked.1 = priority) ∧
    ∀ policy, optimizer.engine.flowValuePolicy = some policy →
      policy.getCoefficient rt packet = packet.valueCoefficient

variable {rt : Runtime} {optimizer : BandwidthOptimizer} {store : Store}
variable {readings : ProcessReadings} {ref : PacketRef}

/-- Preparation raises where classification does. -/
theorem classifyRaises_of_preparation {raised : PyError}
    (raises : optimizer.preparation rt store readings ref = .error raised) :
    optimizer.ClassifyRaises rt (store ref) := by
  simp only [preparation, prepare, classifyStage] at raises
  cases given : (store ref).priority with
  | some priority =>
      rw [given] at raises
      cases raises
  | none =>
      refine ⟨given, ?_⟩
      cases classifies : optimizer.classifier.classify rt (store ref) with
      | error other => exact ⟨other, rfl⟩
      | ok priority =>
          rw [given, classifies] at raises
          cases raises

theorem not_classifyRaises_of_preparation {prepared : Prepared}
    (prepares : optimizer.preparation rt store readings ref = .ok prepared) :
    ¬ optimizer.ClassifyRaises rt (store ref) := by
  rintro ⟨given, raised, raises⟩
  simp only [preparation, prepare, classifyStage, given, raises] at prepares
  cases prepares

/-- The stages before the filter write the class and the coefficient of a packet that has a
class. -/
private theorem prepared_packet {prepared : Prepared} {priority : TrafficPriority}
    (given : (store ref).priority = some priority)
    (prepares : optimizer.preparation rt store readings ref = .ok prepared) :
    let tracked := optimizer.flowTracker.update rt (store ref) readings.flow
    prepared.packet = { store ref with
      priority := some (tracked.2.priorityHint priority tracked.1)
      valueCoefficient := match optimizer.engine.flowValuePolicy with
        | none => (store ref).valueCoefficient
        | some values => values.getCoefficient rt (store ref) } := by
  intro tracked
  simp only [preparation, prepare, classifyStage, given, hintStage, Except.ok.injEq] at prepares
  rw [← prepares]
  cases policy : optimizer.engine.flowValuePolicy with
  | none => rfl
  | some values =>
      have coefficient := values.getCoefficient_of_sameHeader rt
        (⟨rfl, rfl, rfl⟩ : (store ref).SameHeader { store ref with
          priority := some (tracked.2.priorityHint priority tracked.1) })
      simp only [valueStage, FlowValuePolicy.assign]
      rw [coefficient]

private theorem rewritten_eq_iff (packet : Packet) (priority : Option TrafficPriority)
    (coefficient : ℚ) :
    { packet with priority := priority, valueCoefficient := coefficient } = packet ↔
      priority = packet.priority ∧ coefficient = packet.valueCoefficient := by
  cases packet
  simp

/-- A prepared packet is the submitted one exactly when there was nothing to write. -/
theorem prepared_eq_iff {prepared : Prepared}
    (prepares : optimizer.preparation rt store readings ref = .ok prepared) :
    prepared.packet = store ref ↔ optimizer.Settled rt readings (store ref) := by
  rw [Settled]
  cases given : (store ref).priority with
  | none =>
      obtain ⟨priority, classified⟩ := (preparation_prepares prepares).classified
      constructor
      · intro same
        rw [same, given] at classified
        cases classified
      · rintro ⟨⟨other, impossible, _⟩, _⟩
        cases impossible
  | some priority =>
      rw [prepared_packet given prepares, rewritten_eq_iff, given]
      apply and_congr
      · simp
      · cases optimizer.engine.flowValuePolicy <;> simp

/-- A raising call leaves the packet as it was exactly when classification raised, or the
stages before the filter had nothing to write. -/
theorem raised_unmodified_iff {raised : PyError}
    (raises : (optimizer.process rt store readings ref).1 = .error raised) :
    (optimizer.process rt store readings ref).2.2 ref = store ref ↔
      optimizer.ClassifyRaises rt (store ref) ∨ optimizer.Settled rt readings (store ref) := by
  have processes := optimizer.process_processes rt store readings ref
  generalize optimizer.process rt store readings ref = outcome at processes raises ⊢
  cases processes with
  | classifyRaised prepares => simp [classifyRaises_of_preparation prepares]
  | filtered => cases raises
  | admitted => cases raises
  | compressRaised prepares =>
      simp only [Store.set_self, prepared_eq_iff prepares]
      simp [not_classifyRaises_of_preparation prepares]

end BandwidthOptimizer

namespace SafetyGuard

/-- Where the wrapped optimizer raises, a guard that fails open forwards the submitted packet
exactly when it did not call the optimizer, the exception came from classification, or the
stages before the filter had nothing to write to the packet. -/
theorem forwardsOriginal_iff (rt : Runtime) (describe : PyError → Raised) {guard : SafetyGuard}
    (failOpen : guard.failMode = .failOpen) (optimizer : BandwidthOptimizer) (store : Store)
    (packet : PacketRef) (readings : ProcessReadings) (now : ℚ) {raised : PyError}
    (raises : (optimizer.process rt store readings packet).1 = .error raised) :
    ForwardsOriginal rt describe guard (optimizer, store) packet readings now ↔
      guard.state = .bypassed ∨ optimizer.ClassifyRaises rt (store packet) ∨
        optimizer.Settled rt readings (store packet) := by
  have processes := guard.process_processes (BandwidthOptimizer.wrapped rt describe)
    (optimizer, store) packet readings now
  rw [← BandwidthOptimizer.raised_unmodified_iff raises, ForwardsOriginal]
  generalize guard.process (BandwidthOptimizer.wrapped rt describe) (optimizer, store) packet
    readings now = outcome at processes ⊢
  cases processes with
  | opened bypassed => simp [bypassed]
  | succeeded closed answers =>
      simp only [BandwidthOptimizer.wrapped, raises] at answers
      cases answers
  | failed closed answers =>
      simp only [BandwidthOptimizer.wrapped, raises, Prod.mk.injEq] at answers
      simp [← answers.2, closed, handleError, recordError, failOpen]

/-! ## A compression level out of range -/

/-- A configuration whose compression level zlib refuses. -/
def badLevel : OptimizerConfig where
  compressionLevel := 10

/-- A runtime that refuses the level, and finds no payload pattern. -/
def refusing : Runtime := Runtime.ofSearch id fun _ _ => false

/-- What the guard reads of the refusal. -/
def refusal : PyError → Raised := fun _ => ⟨"error", "Bad compression level"⟩

/-- A packet without a class and with a payload to compress. -/
def longPackets : Store := fun _ => { payload := List.replicate 300 97, sizeBytes := 300 }

/-- Whether the optimizer raises on that packet, and the class that the guard forwards. -/
def classForwarded (fresh : BandwidthOptimizer) : Bool × Option TrafficPriority :=
  ((fresh.process refusing longPackets (.frozen 0 0) 0).1.isOk,
    (((SafetyGuard.init 0).process (BandwidthOptimizer.wrapped refusing refusal)
      (fresh, longPackets) 0 (.frozen 0 0) 0).2.2.2 0).priority)

private theorem badLevel_forwards :
    ∃ fresh, BandwidthOptimizer.init badLevel none (fun _ => 0) = .ok fresh ∧
      classForwarded fresh = (false, some .medium) := by
  obtain ⟨fresh, constructed⟩ := BandwidthOptimizer.init_constructs none
    (show 0 < badLevel.tokenBucketCapacityMultiplier by decide +kernel) fun _ => 0
  have evaluated : (BandwidthOptimizer.init badLevel none fun _ => 0).toOption.map
      classForwarded = some (false, some .medium) := by
    decide +kernel
  rw [constructed] at evaluated
  exact ⟨fresh, constructed, Option.some.inj evaluated⟩

private theorem raises_of_not_isOk {α β : Type} {answer : Except α β}
    (failed : answer.isOk = false) : ∃ raised, answer = .error raised := by
  cases answer with
  | error raised => exact ⟨raised, rfl⟩
  | ok value => cases failed

/-- The optimizer raises, and the packet is forwarded with the class it was given on the
way. -/
theorem badLevel_not_forwardsOriginal :
    ∃ fresh, BandwidthOptimizer.init badLevel none (fun _ => 0) = .ok fresh ∧
      (∃ raised, (fresh.process refusing longPackets (.frozen 0 0) 0).1 = .error raised) ∧
      ¬ ForwardsOriginal refusing refusal (.init 0) (fresh, longPackets) 0 (.frozen 0 0) 0 := by
  obtain ⟨fresh, constructed, forwards⟩ := badLevel_forwards
  refine ⟨fresh, constructed, raises_of_not_isOk (congrArg Prod.fst forwards), ?_⟩
  rintro ⟨_, _, same⟩
  have given : some TrafficPriority.medium = none :=
    (congrArg Prod.snd forwards).symm.trans (congrArg Packet.priority same)
  cases given

/-- The same packets with a class. -/
def classedPackets : Store := fun ref => { longPackets ref with priority := some .medium }

/-- Whether the optimizer raises on such a packet, and the class that its flow suggests. -/
def classSuggested (fresh : BandwidthOptimizer) : Bool × TrafficPriority :=
  let tracked := fresh.flowTracker.update refusing (classedPackets 0) (ProcessReadings.frozen 0 0).flow
  ((fresh.process refusing classedPackets (.frozen 0 0) 0).1.isOk,
    tracked.2.priorityHint .medium tracked.1)

/-- A packet that has its class already is forwarded as it was submitted. -/
theorem classed_forwardsOriginal :
    ∃ fresh, BandwidthOptimizer.init badLevel none (fun _ => 0) = .ok fresh ∧
      ForwardsOriginal refusing refusal (.init 0) (fresh, classedPackets) 0 (.frozen 0 0) 0 := by
  obtain ⟨fresh, constructed⟩ := BandwidthOptimizer.init_constructs none
    (show 0 < badLevel.tokenBucketCapacityMultiplier by decide +kernel) fun _ => 0
  have evaluated : (BandwidthOptimizer.init badLevel none fun _ => 0).toOption.map
      classSuggested = some (false, .medium) := by
    decide +kernel
  rw [constructed] at evaluated
  obtain ⟨failed, suggested⟩ := Prod.mk.inj (Option.some.inj evaluated)
  obtain ⟨raised, raises⟩ := raises_of_not_isOk failed
  refine ⟨fresh, constructed, ?_⟩
  apply (forwardsOriginal_iff refusing refusal rfl fresh classedPackets 0 (.frozen 0 0) 0
    raises).mpr
  refine .inr (.inr ⟨⟨.medium, rfl, suggested⟩, ?_⟩)
  rw [BandwidthOptimizer.init_engine constructed]
  exact nofun

end SafetyGuard

end SmartBandwidth
