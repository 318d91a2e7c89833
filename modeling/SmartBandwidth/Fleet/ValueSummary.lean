import SmartBandwidth.Fleet.Coordinator
import SmartBandwidth.Lib.PyValue

/-!
# The fleet's value summary

Each node puts a `value` map into the stats of its heartbeats.  The coordinator sums these
up over the live nodes, names the best and the worst one, and repeats the figures of each.
What stands under `value` comes from the network and can be any JSON value.
-/

namespace SmartBandwidth

open PyValue

/-- The figures reported for one node. -/
structure NodeValue where
  valueEfficiencyPct : PyNumber
  valueDeliveredPerSec : PyNumber
  valueLostPerSec : PyNumber
  deriving DecidableEq, Repr

/-- What `fleet_value_summary` returns. -/
structure FleetSummary where
  fleetValueEfficiencyPct : Option PyNumber
  fleetValueDeliveredPerSec : PyNumber
  fleetValueLostPerSec : PyNumber
  bestNode : Option String
  worstNode : Option String
  pvmNodeCount : Nat
  nonPvmNodes : List String
  nodes : List (String × NodeValue)
  note : Option String := none
  deriving DecidableEq, Repr

namespace AgentCoordinator

/-- `_evict_stale`. -/
def evictStale {Stats : Type} (coordinator : AgentCoordinator Stats) (now : ℚ) :
    AgentCoordinator Stats :=
  { coordinator with
    registry := coordinator.registry.filter fun _ entry =>
      !decide (entry.lastSeen < now - coordinator.agentTtl) }

end AgentCoordinator

namespace FleetSummary

/-- The summary of a fleet without a node that reports values. -/
def empty (nonPvm : List String) : FleetSummary where
  fleetValueEfficiencyPct := none
  fleetValueDeliveredPerSec := .float (.finite 0)
  fleetValueLostPerSec := .float (.finite 0)
  bestNode := none
  worstNode := none
  pvmNodeCount := 0
  nonPvmNodes := nonPvm
  nodes := []
  note := some "No PVM-enabled nodes found.  Enable PVM mode on at least one node."

/-- One of the three figures of a report, with its default. -/
structure Figure where
  key : String
  default : ℚ

/-- `value_delivered_per_sec`. -/
def delivered : Figure := { key := "value_delivered_per_sec", default := 0 }

/-- `value_lost_per_sec`. -/
def lost : Figure := { key := "value_lost_per_sec", default := 0 }

/-- `value_efficiency_pct`. -/
def efficiency : Figure := { key := "value_efficiency_pct", default := 100 }

/-- `v.get(key, default)`. -/
def Figure.read (figure : Figure) (value : PyValue) : Except PyFault PyValue := do
  let value ← value.asDict
  return get value figure.key (.float (.finite figure.default))

/-- A figure that goes into arithmetic. -/
def Figure.number (figure : Figure) (value : PyValue) : Except PyFault PyNumber := do
  let read ← figure.read value
  read.asNumber

/-- `sum` of a figure over the reports, from a running total on. -/
def sumOf (figure : Figure) (total : PyNumber) : List PyValue → Except PyFault PyNumber
  | [] => .ok total
  | value :: rest => do
      let number ← figure.number value
      let total ← total.add number
      sumOf figure total rest

/-- `100.0 * total_delivered / total_flow if total_flow > 0 else 100.0`. -/
def fleetEfficiency (totalDelivered totalFlow : PyNumber) : Except PyFault PyNumber :=
  if (PyNumber.int 0).lt totalFlow then do
    let totalDelivered ← totalDelivered.toFloat
    let totalFlow ← totalFlow.toFloat
    let quotient ← (totalDelivered.scale 100).div totalFlow
    return .float quotient
  else
    .ok (.float (.finite 100))

/-- The loop of `max` and `min`: a node replaces the current one when it beats it. -/
def extreme (beats : PyValue → PyValue → Except PyFault Bool) (current : String × PyValue) :
    List (String × PyValue) → Except PyFault String
  | [] => .ok current.1
  | node :: rest => do
      let better ← beats node.2 current.2
      extreme beats (if better then node else current) rest

/-- `{nid: operation(v) for nid, v in nodes.items()}`. -/
def forNodes {α : Type} (operation : PyValue → Except PyFault α)
    (nodes : List (String × PyValue)) : Except PyFault (List (String × α)) :=
  nodes.mapM fun node => (operation node.2).map fun result => (node.1, result)

/-- The figures of one node, rounded. -/
def nodeValue (value : PyValue) : Except PyFault NodeValue := do
  let efficiencyPct ← efficiency.number value
  let deliveredPerSec ← delivered.number value
  let lostPerSec ← lost.number value
  return {
    valueEfficiencyPct := efficiencyPct.round 2
    valueDeliveredPerSec := deliveredPerSec.round 4
    valueLostPerSec := lostPerSec.round 4 }

/-- The summary of the reports of a first node and of others. -/
def ofReports (listLess : List PyValue → List PyValue → Except PyFault Bool)
    (nonPvm : List String) (first : String × PyValue) (others : List (String × PyValue)) :
    Except PyFault FleetSummary := do
  let nodesValue := first :: others
  let values := nodesValue.map Prod.snd
  let totalDelivered ← sumOf delivered (.int 0) values
  let totalLost ← sumOf lost (.int 0) values
  let totalFlow ← totalDelivered.add totalLost
  let fleetEfficiency ← fleetEfficiency totalDelivered totalFlow
  let firstEfficiency ← efficiency.read first.2
  let efficiencies ← forNodes efficiency.read others
  let bestNode ← extreme (fun node current => lt listLess current node)
    (first.1, firstEfficiency) efficiencies
  let worstNode ← extreme (fun node current => lt listLess node current)
    (first.1, firstEfficiency) efficiencies
  let nodes ← forNodes nodeValue nodesValue
  return {
    fleetValueEfficiencyPct := some (fleetEfficiency.round 2)
    fleetValueDeliveredPerSec := totalDelivered.round 4
    fleetValueLostPerSec := totalLost.round 4
    bestNode := some bestNode
    worstNode := some worstNode
    pvmNodeCount := nodesValue.length
    nonPvmNodes := nonPvm
    nodes := nodes }

/-- The live nodes and what stands under `value` in their stats. -/
def reports (coordinator : AgentCoordinator Entries) : List (String × PyValue) :=
  coordinator.registry.entries.map fun node => (node.1, get node.2.stats "value")

end FleetSummary

open FleetSummary in
/-- `fleet_value_summary`; stats are JSON objects, and eviction stays when it raises. -/
def AgentCoordinator.fleetValueSummary
    (listLess : List PyValue → List PyValue → Except PyFault Bool)
    (coordinator : AgentCoordinator Entries) (now : ℚ) :
    Except PyFault FleetSummary × AgentCoordinator Entries :=
  let coordinator := coordinator.evictStale now
  let nodesValue := (reports coordinator).filter fun node => node.2.truthy
  let nonPvm := ((reports coordinator).filter fun node => !node.2.truthy).map Prod.fst
  match nodesValue with
  | [] => (.ok (FleetSummary.empty nonPvm), coordinator)
  | first :: others => (ofReports listLess nonPvm first others, coordinator)

end SmartBandwidth
