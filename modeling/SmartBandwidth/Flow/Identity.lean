import SmartBandwidth.Flow.FlowTracker
import SmartBandwidth.Value.FlowValuePolicy
import Mathlib.Data.Prod.Lex
import Mathlib.Data.String.Basic
import Mathlib.Data.Sym.Sym2.Order

/-!
# The identity of a flow

A flow key is the lower-cased protocol and the unordered pair of the endpoints: it holds the
smaller and the greater one, and these determine the pair.  The classifier and the value policy
read the ports and the protocol of a packet as such a key has them.
-/

namespace SmartBandwidth

/-- The two endpoints of a packet, whichever way it goes. -/
def Packet.endpoints (packet : Packet) : Sym2 (String × Int) :=
  s((packet.srcIp, packet.srcPort), (packet.dstIp, packet.dstPort))

/-- Endpoints are compared by address and then by port. -/
theorem endpointLe_iff {left right : String × Int} :
    endpointLe left right = true ↔ toLex left ≤ toLex right := by
  simp only [endpointLe, Prod.Lex.toLex_le_toLex, Bool.or_eq_true, Bool.and_eq_true,
    decide_eq_true_eq, beq_iff_eq]

namespace FlowKey

/-- The endpoint a key names first. -/
def lower (key : FlowKey) : String ×ₗ Int := toLex (key.srcIp, key.srcPort)

/-- The endpoint a key names second. -/
def upper (key : FlowKey) : String ×ₗ Int := toLex (key.dstIp, key.dstPort)

theorem eq_iff {first second : FlowKey} :
    first = second ↔ first.protocol = second.protocol ∧ first.lower = second.lower ∧
      first.upper = second.upper := by
  cases first
  cases second
  simp only [lower, upper, FlowKey.mk.injEq, EmbeddingLike.apply_eq_iff_eq, Prod.mk.injEq]
  tauto

/-- A key names the smaller endpoint of its packet first. -/
theorem fromPacket_lower (rt : Runtime) (packet : Packet) :
    (fromPacket rt packet).lower = (packet.endpoints.map toLex).inf := by
  rw [fromPacket]
  split
  next ordered => exact (min_eq_left (endpointLe_iff.mp ordered)).symm
  next ordered =>
    have reversed := not_le.mp fun le => ordered (endpointLe_iff.mpr le)
    exact (min_eq_right reversed.le).symm

/-- A key names the greater endpoint of its packet second. -/
theorem fromPacket_upper (rt : Runtime) (packet : Packet) :
    (fromPacket rt packet).upper = (packet.endpoints.map toLex).sup := by
  rw [fromPacket]
  split
  next ordered => exact (max_eq_right (endpointLe_iff.mp ordered)).symm
  next ordered =>
    have reversed := not_le.mp fun le => ordered (endpointLe_iff.mpr le)
    exact (max_eq_left reversed.le).symm

theorem fromPacket_protocol (rt : Runtime) (packet : Packet) :
    (fromPacket rt packet).protocol = rt.lower packet.protocol := by
  rw [fromPacket]
  split <;> rfl

/-- Two packets belong to one flow exactly if their protocols agree in lower case and they have
the same endpoints in either direction. -/
theorem fromPacket_eq_fromPacket_iff {rt : Runtime} {first second : Packet} :
    fromPacket rt first = fromPacket rt second ↔
      rt.lower first.protocol = rt.lower second.protocol ∧ first.endpoints = second.endpoints := by
  rw [eq_iff, fromPacket_protocol, fromPacket_protocol, fromPacket_lower, fromPacket_lower,
    fromPacket_upper, fromPacket_upper, Sym2.inf_eq_inf_and_sup_eq_sup,
    (Sym2.map.injective toLex.injective).eq_iff]

end FlowKey

/-! ## Rules read the key -/

section Rules

variable {rt : Runtime} {first second : Packet}

/-- The port and protocol conditions of a rule have one answer for a flow. -/
theorem headerMatches_of_flow (same : FlowKey.fromPacket rt first = FlowKey.fromPacket rt second)
    (ports : List Int) (protocols : List String) :
    headerMatches rt.lower ports protocols first =
      headerMatches rt.lower ports protocols second := by
  obtain ⟨protocol, endpoints⟩ := FlowKey.fromPacket_eq_fromPacket_iff.mp same
  rcases Sym2.eq_iff.mp endpoints with ⟨source, destination⟩ | ⟨source, destination⟩
  · rw [headerMatches, headerMatches, (Prod.mk.inj source).2, (Prod.mk.inj destination).2,
      protocol]
  · rw [headerMatches, headerMatches, (Prod.mk.inj source).2, (Prod.mk.inj destination).2,
      protocol]
    simp only [and_comm (a := second.dstPort ∉ ports)]

/-- A rule has one answer for the packets of a flow that begin alike. -/
theorem ClassificationRule.matches_of_flow
    (same : FlowKey.fromPacket rt first = FlowKey.fromPacket rt second)
    (begins : first.payload.take 64 = second.payload.take 64) (rule : ClassificationRule) :
    rule.matches rt first = rule.matches rt second := by
  have snippets : first.snippet = second.snippet := by
    rw [Packet.snippet, Packet.snippet, begins]
  rw [ClassificationRule.matches, ClassificationRule.matches, headerMatches_of_flow same, snippets]

theorem TrafficClassifier.classify_of_flow
    (same : FlowKey.fromPacket rt first = FlowKey.fromPacket rt second)
    (begins : first.payload.take 64 = second.payload.take 64) (classifier : TrafficClassifier) :
    classifier.classify rt first = classifier.classify rt second := by
  have answers : (fun rule => ClassificationRule.matches rt rule first) =
      fun rule => ClassificationRule.matches rt rule second :=
    funext (ClassificationRule.matches_of_flow same begins)
  rw [TrafficClassifier.classify, TrafficClassifier.classify, matchingRule, matchingRule, answers]

theorem FlowValuePolicy.getCoefficient_of_flow
    (same : FlowKey.fromPacket rt first = FlowKey.fromPacket rt second)
    (policy : FlowValuePolicy) :
    policy.getCoefficient rt first = policy.getCoefficient rt second := by
  have answers : ruleMatches rt first = ruleMatches rt second :=
    funext fun rule => headerMatches_of_flow same rule.ports rule.protocols
  rw [getCoefficient, getCoefficient, matchingRule, matchingRule, answers]

end Rules

/-- Two packets have one key exactly if their protocols agree in lower case and their endpoints
are the same unordered pair; and packets of one key whose payloads begin alike get the same
classification, or the same exception, and the same value coefficient from all tables. -/
theorem flow_identity (rt : Runtime) (first second : Packet) :
    (FlowKey.fromPacket rt first = FlowKey.fromPacket rt second ↔
      rt.lower first.protocol = rt.lower second.protocol ∧
        s((first.srcIp, first.srcPort), (first.dstIp, first.dstPort)) =
          s((second.srcIp, second.srcPort), (second.dstIp, second.dstPort))) ∧
      (FlowKey.fromPacket rt first = FlowKey.fromPacket rt second →
        first.payload.take 64 = second.payload.take 64 →
        (∀ classifier : TrafficClassifier,
          classifier.classify rt first = classifier.classify rt second) ∧
        ∀ policy : FlowValuePolicy,
          policy.getCoefficient rt first = policy.getCoefficient rt second) := by
  refine ⟨FlowKey.fromPacket_eq_fromPacket_iff, ?_⟩
  intro same begins
  exact ⟨TrafficClassifier.classify_of_flow same begins,
    FlowValuePolicy.getCoefficient_of_flow same⟩

/-- A request and its answer are one flow. -/
theorem flow_identity_answer :
    let request : Packet := { srcIp := "10.0.0.1", srcPort := 5000, dstPort := 443 }
    let answer : Packet := { dstIp := "10.0.0.1", dstPort := 5000, srcPort := 443 }
    FlowKey.fromPacket .plain request = FlowKey.fromPacket .plain answer ∧
      ({} : TrafficClassifier).classify .plain request =
        ({} : TrafficClassifier).classify .plain answer := by
  intro request answer
  have identity := flow_identity .plain request answer
  have same : FlowKey.fromPacket .plain request = FlowKey.fromPacket .plain answer :=
    identity.1.mpr ⟨rfl, Sym2.eq_swap⟩
  exact ⟨same, (identity.2 same rfl).1 {}⟩

end SmartBandwidth
