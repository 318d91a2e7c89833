import SmartBandwidth.Fleet.SummaryErrors

/-!
# Live nodes

A node is live while its last heartbeat has not expired.  Eviction leaves the live nodes, and a
summary of the fleet lists them: those in PVM mode with their figures, the others by their ids.
-/

namespace SmartBandwidth

open PyValue FleetSummary

namespace AgentCoordinator

variable {Stats : Type} {coordinator : AgentCoordinator Stats} {now : ℚ}

/-- The node is registered, and its last heartbeat has not expired. -/
def Live (coordinator : AgentCoordinator Stats) (now : ℚ) (nodeId : String)
    (entry : RegistryEntry Stats) : Prop :=
  coordinator.registry.get? nodeId = some entry ∧ now - coordinator.agentTtl ≤ entry.lastSeen

theorem mem_evictStale {nodeId : String} {entry : RegistryEntry Stats} :
    (nodeId, entry) ∈ (coordinator.evictStale now).registry.entries ↔
      coordinator.Live now nodeId entry := by
  rw [evictStale, Dict.filter, List.mem_filter, Dict.mem_entries_iff, Live]
  simp

end AgentCoordinator

namespace FleetSummary

variable {listLess : List PyValue → List PyValue → Except PyFault Bool}
variable {coordinator : AgentCoordinator Entries} {now : ℚ} {summary : FleetSummary}

theorem mem_reports {nodeId : String} {value : PyValue} :
    (nodeId, value) ∈ reports (coordinator.evictStale now) ↔
      ∃ entry, coordinator.Live now nodeId entry ∧ get entry.stats "value" = value := by
  simp only [reports, List.mem_map, Prod.mk.injEq, Prod.exists,
    AgentCoordinator.mem_evictStale]
  constructor
  · intro listed
    obtain ⟨_, entry, live, rfl, sameValue⟩ := listed
    exact ⟨entry, live, sameValue⟩
  · intro stored
    obtain ⟨entry, live, sameValue⟩ := stored
    exact ⟨nodeId, entry, live, rfl, sameValue⟩

/-- A summary lists the live nodes in PVM mode with their figures, and the other live ones. -/
structure ListsLive (coordinator : AgentCoordinator Entries) (now : ℚ) (summary : FleetSummary) :
    Prop where
  ids : summary.nodes.map Prod.fst = (pvmReports coordinator now).map Prod.fst
  nonPvm : summary.nonPvmNodes =
    ((reports (coordinator.evictStale now)).filter fun node => !node.2.truthy).map Prod.fst

theorem summary_listsLive
    (summarised : (coordinator.fleetValueSummary listLess now).1 = .ok summary) :
    ListsLive coordinator now summary := by
  simp only [AgentCoordinator.fleetValueSummary] at summarised
  cases nodes : (reports (coordinator.evictStale now)).filter fun node => node.2.truthy with
  | nil =>
      rw [nodes] at summarised
      cases summarised
      exact {
        ids := by
          rw [pvmReports, nodes]
          rfl
        nonPvm := rfl }
  | cons first others =>
      rw [nodes] at summarised
      obtain ⟨nonPvm, finished⟩ := ofReports_nodes summarised
      exact {
        ids := by
          rw [pvmReports, nodes]
          exact forNodes_ids finished
        nonPvm := nonPvm }

/-- The nodes with figures are the live ones in PVM mode. -/
theorem ListsLive.mem_nodes_iff (lists : ListsLive coordinator now summary) {nodeId : String} :
    nodeId ∈ summary.nodes.map Prod.fst ↔
      ∃ entry, coordinator.Live now nodeId entry ∧ (get entry.stats "value").truthy = true := by
  rw [lists.ids]
  simp only [pvmReports, List.mem_map, List.mem_filter, Prod.exists, mem_reports]
  constructor
  · intro listed
    obtain ⟨_, value, ⟨⟨entry, live, same⟩, pvm⟩, rfl⟩ := listed
    exact ⟨entry, live, same ▸ pvm⟩
  · intro stored
    obtain ⟨entry, live, pvm⟩ := stored
    exact ⟨nodeId, _, ⟨⟨entry, live, rfl⟩, pvm⟩, rfl⟩

/-- The nodes without are the other live ones. -/
theorem ListsLive.mem_nonPvmNodes_iff (lists : ListsLive coordinator now summary)
    {nodeId : String} :
    nodeId ∈ summary.nonPvmNodes ↔
      ∃ entry, coordinator.Live now nodeId entry ∧ (get entry.stats "value").truthy = false := by
  rw [lists.nonPvm]
  simp only [List.mem_map, List.mem_filter, Prod.exists, mem_reports, Bool.not_eq_true']
  constructor
  · intro listed
    obtain ⟨_, value, ⟨⟨entry, live, same⟩, silent⟩, rfl⟩ := listed
    exact ⟨entry, live, same ▸ silent⟩
  · intro stored
    obtain ⟨entry, live, silent⟩ := stored
    exact ⟨nodeId, _, ⟨⟨entry, live, rfl⟩, silent⟩, rfl⟩

theorem ListsLive.nodup_nodes (lists : ListsLive coordinator now summary) :
    (summary.nodes.map Prod.fst).Nodup := by
  have keys := (coordinator.evictStale now).registry.nodup
  have listed : (reports (coordinator.evictStale now)).map Prod.fst =
      (coordinator.evictStale now).registry.entries.map Prod.fst := by
    rw [reports, List.map_map]
    rfl
  rw [← listed] at keys
  rw [lists.ids]
  exact keys.sublist (List.filter_sublist.map Prod.fst)

end FleetSummary

end SmartBandwidth
