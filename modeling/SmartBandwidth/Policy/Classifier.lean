import SmartBandwidth.Core.Packet
import SmartBandwidth.Lib.FirstMatch

/-!
# Traffic classification

Rules are evaluated top to bottom and the first match wins.  A rule's conditions are
combined by AND, and an omitted condition is a wildcard.
-/

namespace SmartBandwidth

/-- A rule that maps traffic characteristics to a priority. -/
structure ClassificationRule where
  priority : TrafficPriority
  ports : List Int := []
  protocols : List String := []
  payloadPattern : Option String := none
  deriving DecidableEq, Repr

/-- The port and protocol conditions both rule tables share. -/
def headerMatches (lower : String → String) (ports : List Int) (protocols : List String)
    (packet : Packet) : Bool :=
  if ports ≠ [] ∧ packet.srcPort ∉ ports ∧ packet.dstPort ∉ ports then false
  else if protocols ≠ [] ∧ lower packet.protocol ∉ protocols then false
  else true

/-- `payload[:64].decode("latin-1")`. -/
def Packet.snippet (packet : Packet) : String :=
  String.ofList ((packet.payload.take 64).map fun byte => Char.ofNat byte.toNat)

namespace ClassificationRule

/-- `ClassificationRule.matches`; a malformed pattern raises. -/
def «matches» (rt : Runtime) (rule : ClassificationRule) (packet : Packet) :
    Except PyError Bool :=
  if headerMatches rt.lower rule.ports rule.protocols packet then
    match rule.payloadPattern with
    | some pattern => rt.search pattern packet.snippet
    | none => .ok true
  else
    .ok false

end ClassificationRule

/-- The default rule table. -/
def defaultRules : List ClassificationRule :=
  [ { priority := .critical, ports := [5060, 5061, 5004, 5005], protocols := ["udp", "tcp"] },
    { priority := .critical, protocols := ["icmp"] },
    { priority := .high, ports := [53], protocols := ["udp", "tcp"] },
    { priority := .high, ports := [443], protocols := ["tcp"] },
    { priority := .high, ports := [22], protocols := ["tcp"] },
    { priority := .high, ports := [80, 8080], protocols := ["tcp"] },
    { priority := .medium, ports := [25, 465, 587, 993, 995, 110, 143], protocols := ["tcp"] },
    { priority := .medium, ports := [5222, 5269], protocols := ["tcp"] },
    { priority := .low, ports := [21, 989, 990], protocols := ["tcp"] },
    { priority := .low, ports := [123], protocols := ["udp"] },
    { priority := .background,
      ports := [6881, 6882, 6883, 6884, 6885, 6886, 6887, 6888, 6889],
      protocols := ["tcp", "udp"] },
    { priority := .background, ports := [6969], protocols := ["udp"] } ]

/-- An ordered rule table with a fallback priority. -/
structure TrafficClassifier where
  rules : List ClassificationRule := defaultRules
  defaultPriority : TrafficPriority := .medium
  deriving DecidableEq, Repr

namespace TrafficClassifier

/-- The rule that classifies a packet and its position in the table. -/
def matchingRule (rt : Runtime) (classifier : TrafficClassifier) (packet : Packet) :
    Except PyError (Option (Nat × ClassificationRule)) :=
  FirstMatch.firstMatchM (fun rule => rule.matches rt packet) classifier.rules

/-- `classify`: the priority it returns, which it also writes to `packet.priority`. -/
def classify (rt : Runtime) (classifier : TrafficClassifier) (packet : Packet) :
    Except PyError TrafficPriority :=
  match classifier.matchingRule rt packet with
  | .error raised => .error raised
  | .ok (some (_, rule)) => .ok rule.priority
  | .ok none => .ok classifier.defaultPriority

end TrafficClassifier

end SmartBandwidth
