import SmartBandwidth.Fleet.LiveNodes
import SmartBandwidth.Lib.LazyExpiry
import SmartBandwidth.Lib.Machine

/-!
# The views of the registry

Four calls read the registry.  Three of them first evict the nodes whose heartbeats have expired;
`get_agent` reads what is stored.
-/

namespace SmartBandwidth

open PyValue FleetSummary LazyExpiry

/-- What `all_agents` says of one node. -/
structure AgentView (Stats : Type) where
  nodeId : String
  lastSeen : ℚ
  stats : Stats

/-- What `all_agents` returns. -/
structure AllAgents (Stats : Type) where
  agentCount : Nat
  agents : List (String × AgentView Stats)

namespace AgentCoordinator

variable {Stats : Type}

/-- `all_agents`. -/
def allAgents (coordinator : AgentCoordinator Stats) (now : ℚ) :
    AllAgents Stats × AgentCoordinator Stats :=
  let coordinator := coordinator.evictStale now
  ({ agentCount := coordinator.registry.size
     agents := coordinator.registry.entries.map fun node =>
      (node.1, { nodeId := node.1, lastSeen := node.2.lastSeen, stats := node.2.stats }) },
    coordinator)

/-- `agent_count`. -/
def agentCount (coordinator : AgentCoordinator Stats) (now : ℚ) :
    Nat × AgentCoordinator Stats :=
  let coordinator := coordinator.evictStale now
  (coordinator.registry.size, coordinator)

/-- `remove`. -/
def remove (coordinator : AgentCoordinator Stats) (nodeId : String) : AgentCoordinator Stats :=
  { coordinator with registry := coordinator.registry.erase nodeId }

end AgentCoordinator

/-! ## Calls on the registry -/

/-- The calls that read the registry. -/
inductive RegistryView where
  | allAgents
  | getAgent (nodeId : String)
  | agentCount
  | fleetValueSummary

/-- The answers to them. -/
inductive RegistryAnswer where
  | agents (answer : AllAgents Entries)
  | agent (nodeId : String) (stats : Option Entries)
  | count (answer : Nat)
  | summary (answer : Except PyFault FleetSummary)

/-- The calls on a coordinator. -/
inductive RegistryCall where
  | ingest (nodeId : String) (stats : Entries)
  | remove (nodeId : String)
  | view (view : RegistryView)

namespace AgentCoordinator

variable (listLess : List PyValue → List PyValue → Except PyFault Bool)

/-- A reading call at a time. -/
def view (now : ℚ) (coordinator : AgentCoordinator Entries) :
    RegistryView → RegistryAnswer × AgentCoordinator Entries
  | .allAgents =>
      let (answer, coordinator) := coordinator.allAgents now
      (.agents answer, coordinator)
  | .getAgent nodeId => (.agent nodeId (coordinator.getAgent nodeId), coordinator)
  | .agentCount =>
      let (answer, coordinator) := coordinator.agentCount now
      (.count answer, coordinator)
  | .fleetValueSummary =>
      let (answer, coordinator) := coordinator.fleetValueSummary listLess now
      (.summary answer, coordinator)

/-- A call and its time. -/
def perform (coordinator : AgentCoordinator Entries) :
    RegistryCall × ℚ → AgentCoordinator Entries
  | (.ingest nodeId stats, now) => coordinator.ingest nodeId stats now
  | (.remove nodeId, _) => coordinator.remove nodeId
  | (.view view, now) => (coordinator.view listLess now view).2

/-- The coordinator after some calls. -/
def performAll (coordinator : AgentCoordinator Entries) (calls : List (RegistryCall × ℚ)) :
    AgentCoordinator Entries :=
  calls.foldl (perform listLess) coordinator

end AgentCoordinator

/-! ## Heartbeats -/

/-- The last heartbeat of each node since its last removal. -/
abbrev LastHeartbeats := String → Option (RegistryEntry Entries)

namespace LastHeartbeats

/-- The last heartbeats after one more call. -/
def note (last : LastHeartbeats) : RegistryCall × ℚ → LastHeartbeats
  | (.ingest nodeId stats, now) =>
      Function.update last nodeId (some { stats := stats, lastSeen := now })
  | (.remove nodeId, _) => Function.update last nodeId none
  | (.view _, _) => last

/-- The last heartbeats of some calls. -/
def of (calls : List (RegistryCall × ℚ)) : LastHeartbeats := calls.foldl note fun _ => none

/-- The last heartbeat of a node is at most the TTL old. -/
def Live (last : LastHeartbeats) (agentTtl now : ℚ) (nodeId : String) : Prop :=
  ∃ entry, last nodeId = some entry ∧ now - entry.lastSeen ≤ agentTtl

end LastHeartbeats

/-- An answer says of a node whether it is live: it is listed, it has stats, or it is one of
the nodes that are counted. -/
def RegistryAnswer.AgreesOn (live : String → Prop) (nodeId : String) : RegistryAnswer → Prop
  | .agents answer => nodeId ∈ answer.agents.map Prod.fst ↔ live nodeId
  | .agent asked stats => asked = nodeId → ((∃ found, stats = some found) ↔ live nodeId)
  | .count answer => ∃ nodes : List String, nodes.Nodup ∧ nodes.length = answer ∧
      ∀ node, node ∈ nodes ↔ live node
  | .summary (.ok fleet) =>
      nodeId ∈ fleet.nodes.map Prod.fst ∨ nodeId ∈ fleet.nonPvmNodes ↔ live nodeId
  | .summary (.error _) => ¬ live nodeId

/-! ## What a coordinator stores -/

namespace AgentCoordinator

variable {listLess : List PyValue → List PyValue → Except PyFault Bool}
variable {coordinator : AgentCoordinator Entries} {last : LastHeartbeats} {agentTtl now : ℚ}

/-- The registry lacks only heartbeats that have expired by a time. -/
structure Lags (coordinator : AgentCoordinator Entries) (last : LastHeartbeats)
    (agentTtl now : ℚ) : Prop where
  agentTtl_eq : coordinator.agentTtl = agentTtl
  lags : LazyExpiry.Lags (fun entry => entry.lastSeen < now - agentTtl)
    coordinator.registry.get? last

theorem get?_ingest (nodeId : String) (stats : Entries) (now : ℚ) :
    (coordinator.ingest nodeId stats now).registry.get? =
      Function.update coordinator.registry.get? nodeId
        (some { stats := stats, lastSeen := now }) := by
  funext query
  rw [ingest, Dict.get?_set, Function.update_apply]

theorem get?_remove (nodeId : String) :
    (coordinator.remove nodeId).registry.get? =
      Function.update coordinator.registry.get? nodeId none := by
  funext query
  rw [remove, Dict.get?_erase, Function.update_apply]

theorem get?_evictStale :
    (coordinator.evictStale now).registry.get? = fun nodeId =>
      (coordinator.registry.get? nodeId).filter fun entry =>
        !decide (entry.lastSeen < now - coordinator.agentTtl) := by
  funext query
  rw [evictStale, Dict.get?_filter]

/-- An eviction at the same time or before removes expired heartbeats only. -/
theorem Lags.evictStale (stores : coordinator.Lags last agentTtl now) {earlier : ℚ}
    (ordered : earlier ≤ now) : (coordinator.evictStale earlier).Lags last agentTtl now where
  agentTtl_eq := stores.agentTtl_eq
  lags := by
    rw [get?_evictStale]
    apply stores.lags.evict
    intro entry removed
    rw [Bool.not_eq_false', decide_eq_true_eq, stores.agentTtl_eq] at removed
    exact removed.trans_le (sub_le_sub_right ordered _)

theorem fleetValueSummary_state :
    (coordinator.fleetValueSummary listLess now).2 = coordinator.evictStale now := by
  simp only [fleetValueSummary]
  split <;> rfl

/-- A view evicts, but for `get_agent`, which changes nothing. -/
theorem view_state (view : RegistryView) :
    (coordinator.view listLess now view).2 = coordinator ∨
      (coordinator.view listLess now view).2 = coordinator.evictStale now := by
  cases view with
  | allAgents => exact .inr rfl
  | getAgent nodeId => exact .inl rfl
  | agentCount => exact .inr rfl
  | fleetValueSummary => exact .inr fleetValueSummary_state

theorem Lags.perform (stores : coordinator.Lags last agentTtl now) {call : RegistryCall × ℚ}
    (earlier : call.2 ≤ now) :
    (coordinator.perform listLess call).Lags (last.note call) agentTtl now := by
  obtain ⟨call, time⟩ := call
  cases call with
  | ingest nodeId stats =>
      refine { agentTtl_eq := stores.agentTtl_eq, lags := ?_ }
      rw [AgentCoordinator.perform, get?_ingest]
      exact stores.lags.update nodeId _
  | remove nodeId =>
      refine { agentTtl_eq := stores.agentTtl_eq, lags := ?_ }
      rw [AgentCoordinator.perform, get?_remove]
      exact stores.lags.update nodeId none
  | view view =>
      rw [AgentCoordinator.perform, LastHeartbeats.note]
      rcases @view_state listLess coordinator time view with same | evicted
      · rw [same]
        exact stores
      · rw [evicted]
        exact stores.evictStale earlier

/-- After any calls up to a time the registry lacks only what has expired by then. -/
theorem Lags.performAll (stores : coordinator.Lags last agentTtl now)
    {calls : List (RegistryCall × ℚ)} (earlier : ∀ call ∈ calls, call.2 ≤ now) :
    (coordinator.performAll listLess calls).Lags (calls.foldl LastHeartbeats.note last)
      agentTtl now := by
  induction calls generalizing coordinator last with
  | nil => exact stores
  | cons call rest ih =>
      rw [List.forall_mem_cons] at earlier
      exact ih (stores.perform earlier.1) earlier.2

theorem init_lags (requireAuth : Bool) (authSecret : String) :
    (init agentTtl requireAuth authSecret).Lags (fun _ => none) agentTtl now where
  agentTtl_eq := rfl
  lags := .empty

/-- The nodes that are live by the registry are those that are live by their heartbeats. -/
theorem Lags.live_iff (stores : coordinator.Lags last agentTtl now) {nodeId : String} :
    (∃ entry, coordinator.Live now nodeId entry) ↔ last.Live agentTtl now nodeId := by
  have held := stores.lags.live_iff nodeId
  simp only [not_lt] at held
  simp only [Live, LastHeartbeats.Live, stores.agentTtl_eq, sub_le_comm] at held ⊢
  exact held

/-! ## The answers of the views -/

theorem mem_keys_evictStale {nodeId : String} :
    nodeId ∈ (coordinator.evictStale now).registry.keys ↔
      ∃ entry, coordinator.Live now nodeId entry := by
  simp only [Dict.mem_keys_iff, ← Dict.mem_entries_iff, mem_evictStale]

theorem allAgents_ids :
    (coordinator.allAgents now).1.agents.map Prod.fst =
      (coordinator.evictStale now).registry.keys := by
  rw [allAgents, List.map_map]
  rfl

/-- A summary lists the live nodes, in one of its lists. -/
theorem mem_summary_iff {summary : FleetSummary}
    (summarised : (coordinator.fleetValueSummary listLess now).1 = .ok summary)
    {nodeId : String} :
    nodeId ∈ summary.nodes.map Prod.fst ∨ nodeId ∈ summary.nonPvmNodes ↔
      ∃ entry, coordinator.Live now nodeId entry := by
  have lists := summary_listsLive summarised
  rw [lists.mem_nodes_iff, lists.mem_nonPvmNodes_iff, ← exists_or]
  apply exists_congr
  intro entry
  rw [← and_or_left]
  exact and_iff_left (Bool.eq_false_or_eq_true _)

/-- What the views of a coordinator need in order to agree on a node: no expired heartbeat of it
is stored, and while it is live the reports of the fleet fit. -/
structure Reads (coordinator : AgentCoordinator Entries) (last : LastHeartbeats)
    (agentTtl now : ℚ) (nodeId : String) : Prop where
  lags : coordinator.Lags last agentTtl now
  fresh : ∀ entry, coordinator.registry.get? nodeId = some entry →
    now - entry.lastSeen ≤ agentTtl
  fits : last.Live agentTtl now nodeId → FleetFits (liveValues coordinator now)

/-- Evicting a second time at one time removes nothing. -/
theorem evictStale_evictStale :
    (coordinator.evictStale now).evictStale now = coordinator.evictStale now := by
  simp only [evictStale, Dict.filter, List.filter_filter]
  congr 2
  exact List.filter_congr fun node _ => Bool.and_self _

theorem Reads.evictStale {nodeId : String} (reads : coordinator.Reads last agentTtl now nodeId) :
    (coordinator.evictStale now).Reads last agentTtl now nodeId where
  lags := reads.lags.evictStale le_rfl
  fresh entry stored := by
    rw [get?_evictStale] at stored
    exact reads.fresh entry (Option.filter_eq_some_iff.mp stored).1
  fits live := by
    rw [liveValues, evictStale_evictStale]
    exact reads.fits live

theorem Reads.view {nodeId : String} (reads : coordinator.Reads last agentTtl now nodeId)
    (view : RegistryView) :
    (coordinator.view listLess now view).2.Reads last agentTtl now nodeId := by
  rcases @view_state listLess coordinator now view with same | evicted
  · rw [same]
    exact reads
  · rw [evicted]
    exact reads.evictStale

/-- Each view then answers as the last heartbeats say. -/
theorem Reads.agrees {nodeId : String} (reads : coordinator.Reads last agentTtl now nodeId)
    (view : RegistryView) :
    (coordinator.view listLess now view).1.AgreesOn (last.Live agentTtl now) nodeId := by
  cases view with
  | allAgents =>
      simp only [AgentCoordinator.view, RegistryAnswer.AgreesOn, allAgents_ids]
      rw [mem_keys_evictStale, reads.lags.live_iff]
  | getAgent asked =>
      intro same
      simp only [same, getAgent, Option.map_eq_some_iff]
      rw [← reads.lags.live_iff]
      constructor
      · intro stored
        obtain ⟨_, entry, stored, _⟩ := stored
        have fresh := reads.fresh entry stored
        rw [← reads.lags.agentTtl_eq, sub_le_comm] at fresh
        exact ⟨entry, stored, fresh⟩
      · intro live
        obtain ⟨entry, stored, _⟩ := live
        exact ⟨entry.stats, entry, stored, rfl⟩
  | agentCount =>
      refine ⟨(coordinator.evictStale now).registry.keys,
        (coordinator.evictStale now).registry.nodup, List.length_map _, ?_⟩
      intro node
      rw [mem_keys_evictStale, reads.lags.live_iff]
  | fleetValueSummary =>
      simp only [AgentCoordinator.view]
      cases summarised : (coordinator.fleetValueSummary listLess now).1 with
      | ok summary =>
          rw [RegistryAnswer.AgreesOn, mem_summary_iff summarised, reads.lags.live_iff]
      | error fault =>
          intro live
          obtain ⟨summary, returns⟩ := (@exists_summary_iff listLess).mpr (reads.fits live)
          rw [summarised] at returns
          cases returns

/-- After any calls up to a time, all views asked at that time in any order agree on who is live
exactly if no expired heartbeat of the node is stored, and the reports of the fleet fit while it
is live. -/
theorem views_agree_iff (listLess : List PyValue → List PyValue → Except PyFault Bool)
    (agentTtl : ℚ) (requireAuth : Bool) (authSecret : String)
    (calls : List (RegistryCall × ℚ)) (now : ℚ) (earlier : ∀ call ∈ calls, call.2 ≤ now)
    (nodeId : String) :
    let coordinator := (init agentTtl requireAuth authSecret).performAll listLess calls
    let last := LastHeartbeats.of calls
    (∀ views, ∀ answer ∈ (Machine.run (view listLess now) coordinator views).1,
        answer.AgreesOn (last.Live agentTtl now) nodeId) ↔
      (∀ entry, coordinator.registry.get? nodeId = some entry →
        now - entry.lastSeen ≤ agentTtl) ∧
      (last.Live agentTtl now nodeId → FleetFits (liveValues coordinator now)) := by
  intro coordinator last
  have lags : coordinator.Lags last agentTtl now :=
    (init_lags requireAuth authSecret).performAll earlier
  constructor
  · intro agree
    constructor
    · intro entry stored
      have answers := agree [.getAgent nodeId] _ List.mem_cons_self rfl
      obtain ⟨other, isLast, fresh⟩ := answers.mp ⟨entry.stats, by rw [getAgent, stored]; rfl⟩
      cases (lags.lags.latest_of_stored nodeId entry stored).symm.trans isLast
      exact fresh
    · intro live
      have answers : (coordinator.view listLess now .fleetValueSummary).1.AgreesOn
          (last.Live agentTtl now) nodeId := agree [.fleetValueSummary] _ List.mem_cons_self
      simp only [view] at answers
      cases summarised : (coordinator.fleetValueSummary listLess now).1 with
      | ok summary => exact exists_summary_iff.mp ⟨summary, summarised⟩
      | error fault =>
          rw [summarised] at answers
          exact absurd live answers
  · intro holds
    have reads : coordinator.Reads last agentTtl now nodeId := ⟨lags, holds.1, holds.2⟩
    exact @Machine.run_outputs _ _ _ (view listLess now)
      (fun state => state.Reads last agentTtl now nodeId)
      (fun answer => answer.AgreesOn (last.Live agentTtl now) nodeId)
      (fun _ view reads => reads.agrees view) (fun _ view reads => reads.view view) _ reads

/-- While a node is live, and reports no value, the views agree on it. -/
theorem views_agree_iff_live :
    let coordinator := (init 60 false "").performAll (fun _ _ => .ok false) [(.ingest "n1" [], 0)]
    ∀ views, ∀ answer ∈ (Machine.run (view (fun _ _ => .ok false) 30) coordinator views).1,
      answer.AgreesOn ((LastHeartbeats.of [(.ingest "n1" [], 0)]).Live 60 30) "n1" := by
  intro coordinator
  apply (views_agree_iff (fun _ _ => .ok false) 60 false "" [(.ingest "n1" [], 0)] 30
    (by decide +kernel) "n1").mpr
  constructor
  · intro entry stored
    cases stored
    decide +kernel
  · intro _
    have isOk : (coordinator.fleetValueSummary (fun _ _ => .ok false) 30).1.isOk = true := by
      decide +kernel
    cases summarised : (coordinator.fleetValueSummary (fun _ _ => .ok false) 30).1 with
    | ok summary => exact exists_summary_iff.mp ⟨summary, summarised⟩
    | error fault =>
        rw [summarised] at isOk
        cases isOk

/-- One second after a node has expired, `get_agent` still returns its stats, and
`agent_count` counts no node. -/
theorem getAgent_expired :
    let calls : List (RegistryCall × ℚ) := [(.ingest "n1" [], 0)]
    let coordinator := (init 60 false "").performAll (fun _ _ => .ok false) calls
    coordinator.getAgent "n1" = some [] ∧ (coordinator.agentCount 61).1 = 0 ∧
      ¬ ∀ views, ∀ answer ∈ (Machine.run (view (fun _ _ => .ok false) 61) coordinator views).1,
        answer.AgreesOn ((LastHeartbeats.of calls).Live 60 61) "n1" := by
  intro calls coordinator
  refine ⟨rfl, by decide +kernel, ?_⟩
  intro agree
  have answers := agree [.getAgent "n1"] _ List.mem_cons_self rfl
  obtain ⟨entry, isLast, fresh⟩ := answers.mp ⟨[], rfl⟩
  cases isLast
  exact absurd fresh (by decide +kernel)

end AgentCoordinator

end SmartBandwidth
