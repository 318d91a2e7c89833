import SmartBandwidth.Fleet.RoundedSummary

/-!
# The fleet's efficiency is a weighted average

While every live node that reports values reports its rates and their efficiency, the fleet's
efficiency lies between that of the worst and that of the best node, up to what floats lose.
The totals are near those of the live nodes in any order, and each live node is listed once.
-/

namespace SmartBandwidth

open PyValue FleetSummary

/-! ## Live nodes -/

namespace AgentCoordinator

variable {Stats : Type}

/-- Take heartbeats one after the other: a node, its stats and the time. -/
def ingestAll (coordinator : AgentCoordinator Stats) (heartbeats : List (String × Stats × ℚ)) :
    AgentCoordinator Stats :=
  heartbeats.foldl (fun coordinator heartbeat =>
    coordinator.ingest heartbeat.1 heartbeat.2.1 heartbeat.2.2) coordinator

/-- The heartbeats of one node. -/
def heartbeatsOf (nodeId : String) (heartbeats : List (String × Stats × ℚ)) :
    List (String × Stats × ℚ) :=
  heartbeats.filter fun heartbeat => heartbeat.1 = nodeId

variable {coordinator : AgentCoordinator Stats} {now : ℚ}

theorem ingestAll_agentTtl (heartbeats : List (String × Stats × ℚ)) :
    (coordinator.ingestAll heartbeats).agentTtl = coordinator.agentTtl := by
  induction heartbeats generalizing coordinator with
  | nil => rfl
  | cons heartbeat rest ih => exact ih

/-- What the registry holds for a node depends on its own heartbeats only. -/
theorem get?_ingestAll {other : AgentCoordinator Stats} {nodeId : String}
    (same : coordinator.registry.get? nodeId = other.registry.get? nodeId)
    (heartbeats : List (String × Stats × ℚ)) :
    (coordinator.ingestAll heartbeats).registry.get? nodeId =
      (other.ingestAll (heartbeatsOf nodeId heartbeats)).registry.get? nodeId := by
  induction heartbeats generalizing coordinator other with
  | nil => exact same
  | cons heartbeat rest ih =>
      rw [heartbeatsOf, List.filter_cons, ingestAll, List.foldl_cons]
      split
      next own =>
        rw [ingestAll, List.foldl_cons]
        apply ih
        rw [ingest, ingest, of_decide_eq_true own, Dict.get?_set_self, Dict.get?_set_self]
      next foreign =>
        have different : nodeId ≠ heartbeat.1 :=
          fun equal => foreign (decide_eq_true equal.symm)
        apply ih
        rw [ingest, Dict.get?_set, if_neg different, same]

end AgentCoordinator

/-! ## The fleet -/

namespace FleetSummary

variable {python : PySum} {listLess : List PyValue → List PyValue → Except PyFault Bool}
variable {coordinator other : AgentCoordinator Entries} {now slack : ℚ}
variable {rates : String → Rates} {reported : String → ℚ} {summary : FleetSummary}

/-- Each live node in PVM mode reports its rates and, up to a relative error, their
efficiency. -/
def ReportRates (coordinator : AgentCoordinator Entries) (now slack : ℚ) (rates : String → Rates)
    (reported : String → ℚ) : Prop :=
  ∀ nodeId entry, coordinator.Live now nodeId entry → (get entry.stats "value").truthy = true →
    ReportsRates slack (get entry.stats "value") (rates nodeId) (reported nodeId)

/-- The rates of the live nodes in PVM mode together. -/
def totalRates (coordinator : AgentCoordinator Entries) (now : ℚ) (rates : String → Rates) :
    Rates :=
  Rates.sum ((pvmReports coordinator now).map fun node => rates node.1)

/-- By how much the fleet's efficiency can be off: a little for each node. -/
def efficiencyGrowth (coordinator : AgentCoordinator Entries) (now : ℚ) : ℚ :=
  PySum.growth ((pvmReports coordinator now).length + 2)

/-- A hundred times the flow of the live nodes is in the range of floats. -/
def InRange (coordinator : AgentCoordinator Entries) (now : ℚ) (rates : String → Rates) : Prop :=
  100 * (efficiencyGrowth coordinator now *
    ((totalRates coordinator now rates).delivered + (totalRates coordinator now rates).lost)) <
      Binary64.limit

instance (coordinator : AgentCoordinator Entries) (now : ℚ) (rates : String → Rates) :
    Decidable (InRange coordinator now rates) :=
  inferInstanceAs (Decidable (_ < _))

/-- The call returns a summary, which shows the totals of the live nodes in PVM mode. -/
structure Sums (python : PySum) (listLess : List PyValue → List PyValue → Except PyFault Bool)
    (coordinator : AgentCoordinator Entries) (now : ℚ) (totals : Totals)
    (summary : FleetSummary) : Prop where
  returns : (coordinator.fleetValueSummaryRounded python listLess now).1 = .ok summary
  adds : FleetSummary.totals python (liveValues coordinator now) = .ok totals
  shown : summary.nodes ≠ [] → totals.ShownBy summary

/-- The efficiency before it is rounded lies between two others, up to a growth factor and to
the relative error of these. -/
def Totals.Between (growth slack worst best : ℚ) (totals : Totals) : Prop :=
  ∃ quotient, totals.efficiency = .ofExact quotient ∧
    (2 - growth) * worst ≤ (1 + slack) * (growth * quotient) ∧
    (1 - slack) * ((2 - growth) * quotient) ≤ growth * best

/-- A summary lists the live nodes: those in PVM mode once under `nodes` and the others under
`non_pvm_nodes`. -/
structure Partitions (coordinator : AgentCoordinator Entries) (now : ℚ)
    (summary : FleetSummary) : Prop where
  nodup : (summary.nodes.map Prod.fst).Nodup
  nodes : ∀ nodeId, nodeId ∈ summary.nodes.map Prod.fst ↔
    ∃ entry, coordinator.Live now nodeId entry ∧ (get entry.stats "value").truthy = true
  live : ∀ nodeId entry, coordinator.Live now nodeId entry →
    Xor (nodeId ∈ summary.nodes.map Prod.fst) (nodeId ∈ summary.nonPvmNodes)
  expired : ∀ nodeId entry, coordinator.registry.get? nodeId = some entry →
    entry.lastSeen < now - coordinator.agentTtl →
    nodeId ∉ summary.nodes.map Prod.fst ∧ nodeId ∉ summary.nonPvmNodes

theorem ReportRates.each (reports : ReportRates coordinator now slack rates reported) :
    ∀ node ∈ pvmReports coordinator now,
      ReportsRates slack node.2 (rates node.1) (reported node.1) := by
  intro node member
  obtain ⟨isReport, pvm⟩ := List.mem_filter.mp member
  obtain ⟨entry, live, same⟩ := mem_reports.mp isReport
  rw [← same] at pvm ⊢
  exact reports node.1 entry live pvm

/-! ## What a summary lists -/

/-- The call without a node in PVM mode. -/
theorem summaryRounded_nil (none : pvmReports coordinator now = []) :
    (coordinator.fleetValueSummaryRounded python listLess now).1 = .ok (FleetSummary.empty
      (((reports (coordinator.evictStale now)).filter fun node => !node.2.truthy).map
        Prod.fst)) := by
  rw [pvmReports] at none
  simp only [AgentCoordinator.fleetValueSummaryRounded, none]

/-- The call with some. -/
theorem summaryRounded_cons {first : String × PyValue} {others : List (String × PyValue)}
    (nodes : pvmReports coordinator now = first :: others) :
    (coordinator.fleetValueSummaryRounded python listLess now).1 = ofReportsRounded python listLess
      (((reports (coordinator.evictStale now)).filter fun node => !node.2.truthy).map Prod.fst)
      first others := by
  rw [pvmReports] at nodes
  simp only [AgentCoordinator.fleetValueSummaryRounded, nodes]

theorem summaryRounded_listsLive
    (summarised : (coordinator.fleetValueSummaryRounded python listLess now).1 = .ok summary) :
    ListsLive coordinator now summary := by
  cases nodes : pvmReports coordinator now with
  | nil =>
      rw [summaryRounded_nil nodes] at summarised
      cases summarised
      exact {
        ids := by
          rw [nodes]
          rfl
        nonPvm := rfl }
  | cons first others =>
      rw [summaryRounded_cons nodes] at summarised
      obtain ⟨nonPvm, finished⟩ := ofReportsRounded_nodes summarised
      exact {
        ids := by
          rw [nodes]
          exact forNodes_ids finished
        nonPvm := nonPvm }

theorem ListsLive.partitions (lists : ListsLive coordinator now summary) :
    Partitions coordinator now summary := by
  have own : ∀ {nodeId entry other}, coordinator.registry.get? nodeId = some entry →
      coordinator.Live now nodeId other → entry = other := by
    intro nodeId entry other stored live
    exact Option.some.inj (stored.symm.trans live.1)
  apply Partitions.mk (lists.nodup_nodes)
  · exact fun _ => lists.mem_nodes_iff
  · intro nodeId entry live
    rw [lists.mem_nodes_iff, lists.mem_nonPvmNodes_iff]
    cases pvm : (get entry.stats "value").truthy with
    | true =>
        refine .inl ⟨⟨entry, live, pvm⟩, ?_⟩
        intro listed
        obtain ⟨other, otherLive, silent⟩ := listed
        rw [← own live.1 otherLive, pvm] at silent
        cases silent
    | false =>
        refine .inr ⟨⟨entry, live, pvm⟩, ?_⟩
        intro listed
        obtain ⟨other, otherLive, speaks⟩ := listed
        rw [← own live.1 otherLive, pvm] at speaks
        cases speaks
  · intro nodeId entry stored expired
    have notLive : ∀ other, ¬ coordinator.Live now nodeId other := by
      intro other live
      rw [own stored live] at expired
      exact not_le.mpr expired live.2
    rw [lists.mem_nodes_iff, lists.mem_nonPvmNodes_iff]
    exact ⟨fun listed => listed.elim fun other isOther => notLive other isOther.1,
      fun listed => listed.elim fun other isOther => notLive other isOther.1⟩

theorem summaryRounded_names (reports : ReportRates coordinator now slack rates reported)
    (summarised : (coordinator.fleetValueSummaryRounded python listLess now).1 = .ok summary)
    (some : summary.nodes ≠ []) : ∃ worst best, NamesExtremes reported summary worst best := by
  have each := reports.each
  cases nodes : pvmReports coordinator now with
  | nil =>
      rw [summaryRounded_nil nodes] at summarised
      cases summarised
      exact absurd rfl some
  | cons first others =>
      rw [summaryRounded_cons nodes] at summarised
      rw [nodes] at each
      exact ofReportsRounded_names (fun node member => (each node member).efficiency) summarised

/-! ## What it sums up -/

/-- Rates in the range are summed up. -/
theorem exists_sums (python : PySum) (listLess : List PyValue → List PyValue → Except PyFault Bool)
    (reports : ReportRates coordinator now slack rates reported)
    (inRange : InRange coordinator now rates) :
    ∃ totals summary, Sums python listLess coordinator now totals summary ∧
      totals.Near (pvmReports coordinator now).length (totalRates coordinator now rates) := by
  obtain ⟨totals, adds, near⟩ := exists_totals python reports.each rfl inRange
  have shows : ∃ summary, Sums python listLess coordinator now totals summary := by
    cases nodes : pvmReports coordinator now with
    | nil =>
        refine ⟨_, summaryRounded_nil nodes, ?_, fun some => absurd rfl some⟩
        rwa [liveValues_eq]
    | cons first others =>
        have each := reports.each
        have addsNodes := adds
        rw [nodes] at each addsNodes
        obtain ⟨summary, summarised, shown⟩ := exists_ofReportsRounded listLess _
          (fun node member => (each node member).fits) addsNodes
        refine ⟨summary, (summaryRounded_cons nodes).trans summarised, ?_, fun _ => shown⟩
        rwa [liveValues_eq]
  obtain ⟨summary, sums⟩ := shows
  exact ⟨totals, summary, sums, near⟩

/-- An efficiency that is reported up to a relative error. -/
theorem ReportsRates.bounds {value : PyValue} {own : Rates} {share : ℚ}
    (reports : ReportsRates slack value own share) :
    (1 - slack) * own.efficiency ≤ share ∧ share ≤ (1 + slack) * own.efficiency := by
  have near := reports.near
  rw [abs_le] at near
  constructor <;> linarith

/-- Near totals have an efficiency between those of the worst and of the best node. -/
theorem Totals.Near.between (slackNonneg : 0 ≤ slack) (slackSmall : slack < 1)
    {nodes : List (String × PyValue)} (some : nodes ≠ [])
    (each : ∀ node ∈ nodes, ReportsRates slack node.2 (rates node.1) (reported node.1))
    {count : Nat} {totals : Totals}
    (near : totals.Near count (Rates.sum (nodes.map fun node => rates node.1))) {worst best : ℚ}
    (least : ∀ node ∈ nodes, worst ≤ reported node.1)
    (greatest : ∀ node ∈ nodes, reported node.1 ≤ best) (worstNonneg : 0 ≤ worst) :
    totals.Between (PySum.growth (count + 2)) slack worst best := by
  obtain ⟨quotient, rounds, nearQuotient⟩ := near.efficiency
  have growthNonneg : 0 ≤ PySum.growth (count + 2) := zero_le_one.trans (PySum.one_le_growth _)
  have less : 0 < 1 - slack := sub_pos.mpr slackSmall
  have more : 0 < 1 + slack := by linarith
  have reporting : nodes.map (fun node => rates node.1) ≠ [] := by simpa using some
  have below : (Rates.sum (nodes.map fun node => rates node.1)).efficiency * (1 - slack) ≤
      best := by
    rw [← le_div_iff₀ less]
    apply Rates.efficiency_sum_le reporting
    rw [List.forall_mem_map]
    intro node member
    rw [le_div_iff₀ less, mul_comm]
    exact (each node member).bounds.1.trans (greatest node member)
  have above : worst ≤ (Rates.sum (nodes.map fun node => rates node.1)).efficiency *
      (1 + slack) := by
    rw [← div_le_iff₀ more]
    apply Rates.le_efficiency_sum reporting
    rw [List.forall_mem_map]
    intro node member
    rw [div_le_iff₀ more, mul_comm]
    exact (least node member).trans (each node member).bounds.2
  refine ⟨quotient, rounds, ?_, ?_⟩
  · rcases le_total 0 (2 - PySum.growth (count + 2)) with narrow | wide
    · have scaled := mul_le_mul_of_nonneg_left above narrow
      have stretched := mul_le_mul_of_nonneg_left nearQuotient.above more.le
      linarith
    · have left := mul_nonpos_of_nonpos_of_nonneg wide worstNonneg
      have right := mul_nonneg more.le (mul_nonneg growthNonneg nearQuotient.nonneg)
      exact left.trans right
  · have scaled := mul_le_mul_of_nonneg_left below growthNonneg
    have stretched := mul_le_mul_of_nonneg_left nearQuotient.below less.le
    linarith

/-! ## The order of the nodes -/

/-- Registries that read alike give the same reports. -/
theorem pvmReports_perm
    (same : ∀ nodeId, coordinator.registry.get? nodeId = other.registry.get? nodeId)
    (sameTtl : coordinator.agentTtl = other.agentTtl) :
    (pvmReports coordinator now).Perm (pvmReports other now) := by
  have entries := Dict.perm_of_get?_eq same
  rw [pvmReports, pvmReports, reports, reports, AgentCoordinator.evictStale,
    AgentCoordinator.evictStale, sameTtl, Dict.filter, Dict.filter]
  exact ((entries.filter _).map _).filter _

/-- Two orders of the same heartbeats of each node fill registries that read alike. -/
theorem ingestAll_alike {base : AgentCoordinator Entries}
    {heartbeats others : List (String × Entries × ℚ)}
    (same : ∀ nodeId, AgentCoordinator.heartbeatsOf nodeId heartbeats =
      AgentCoordinator.heartbeatsOf nodeId others) (nodeId : String) :
    (base.ingestAll heartbeats).registry.get? nodeId =
      (base.ingestAll others).registry.get? nodeId := by
  rw [AgentCoordinator.get?_ingestAll rfl heartbeats, AgentCoordinator.get?_ingestAll rfl others,
    same]

theorem ReportRates.of_alike (reports : ReportRates coordinator now slack rates reported)
    (alike : ∀ nodeId, coordinator.registry.get? nodeId = other.registry.get? nodeId)
    (sameTtl : coordinator.agentTtl = other.agentTtl) :
    ReportRates other now slack rates reported := by
  intro nodeId entry live
  rw [AgentCoordinator.Live, ← alike, ← sameTtl] at live
  exact reports nodeId entry live

theorem totalRates_perm (perm : (pvmReports coordinator now).Perm (pvmReports other now)) :
    totalRates coordinator now rates = totalRates other now rates :=
  Rates.sum_perm (perm.map fun node => rates node.1)

/-- Where the live nodes in PVM mode report rates and the efficiency that follows from them,
the fleet's efficiency is between those of its worst and its best node up to what floats lose,
the totals are near the same sums whatever the order of the nodes, and each live node is listed
once. -/
theorem efficiency_weighted_average (python : PySum)
    (listLess : List PyValue → List PyValue → Except PyFault Bool)
    (coordinator : AgentCoordinator Entries) (now slack : ℚ) (rates : String → Rates)
    (reported : String → ℚ) (slackNonneg : 0 ≤ slack) (slackSmall : slack < 1)
    (reports : ReportRates coordinator now slack rates reported) :
    (∀ summary, (coordinator.fleetValueSummaryRounded python listLess now).1 = .ok summary →
      Partitions coordinator now summary ∧
        (summary.nodes ≠ [] → ∃ worst best, NamesExtremes reported summary worst best)) ∧
      (InRange coordinator now rates →
        ∃ totals summary, Sums python listLess coordinator now totals summary ∧
          totals.Near (pvmReports coordinator now).length (totalRates coordinator now rates) ∧
          (summary.nodes ≠ [] → ∃ worst best, NamesExtremes reported summary worst best ∧
            totals.Between (efficiencyGrowth coordinator now) slack (reported worst)
              (reported best)) ∧
          ∀ (base : AgentCoordinator Entries) (heartbeats others : List (String × Entries × ℚ)),
            base.ingestAll heartbeats = coordinator →
            (∀ nodeId, AgentCoordinator.heartbeatsOf nodeId heartbeats =
              AgentCoordinator.heartbeatsOf nodeId others) →
            ∃ otherTotals other, Sums python listLess (base.ingestAll others) now otherTotals
                other ∧
              otherTotals.Near (pvmReports coordinator now).length
                (totalRates coordinator now rates)) := by
  constructor
  · intro summary summarised
    exact ⟨(summaryRounded_listsLive summarised).partitions,
      summaryRounded_names reports summarised⟩
  · intro inRange
    obtain ⟨totals, summary, sums, near⟩ := exists_sums python listLess reports inRange
    refine ⟨totals, summary, sums, near, ?_, ?_⟩
    · intro some
      obtain ⟨worst, best, names⟩ := summaryRounded_names reports sums.returns some
      refine ⟨worst, best, names, ?_⟩
      have ids := (summaryRounded_listsLive sums.returns).ids
      have least := names.least
      have greatest := names.greatest
      have worstMember := names.worst_member
      rw [ids, List.forall_mem_map] at least greatest
      rw [ids] at worstMember
      obtain ⟨worstNode, isNode, same⟩ := List.mem_map.mp worstMember
      have bounds := (reports.each worstNode isNode).bounds.1
      rw [same] at bounds
      have worstNonneg : 0 ≤ reported worst :=
        (mul_nonneg (sub_nonneg.mpr slackSmall.le) (Rates.efficiency_nonneg _)).trans bounds
      exact near.between slackNonneg slackSmall (List.ne_nil_of_mem isNode) reports.each least
        greatest worstNonneg
    · intro base heartbeats others ingested same
      have alike := @ingestAll_alike base heartbeats others same
      have sameTtl : (base.ingestAll heartbeats).agentTtl = (base.ingestAll others).agentTtl := by
        rw [AgentCoordinator.ingestAll_agentTtl, AgentCoordinator.ingestAll_agentTtl]
      rw [ingested] at alike sameTtl
      have perm := @pvmReports_perm _ _ now alike sameTtl
      have inRangeOther : InRange (base.ingestAll others) now rates := by
        rw [InRange, efficiencyGrowth, ← perm.length_eq, ← totalRates_perm perm]
        exact inRange
      have sumsOther := exists_sums python listLess (reports.of_alike alike sameTtl) inRangeOther
      rw [← perm.length_eq, ← totalRates_perm perm] at sumsOther
      exact sumsOther

/-- What a node with these figures puts into its heartbeats. -/
def report (efficiency delivered lost : PyValue) : Entries := [(.str "value", .dict [
  (.str "value_efficiency_pct", efficiency), (.str "value_delivered_per_sec", delivered),
  (.str "value_lost_per_sec", lost)])]

/-- Two nodes in PVM mode, one without, and one whose heartbeat has expired and could not be
summarised. -/
theorem efficiency_weighted_average_two :
    let coordinator := (AgentCoordinator.init 60 false "").ingestAll [
      ("node-04", [(.str "value", .int 5)], 0),
      ("node-01", report (.int 90) (.float (.finite 90)) (.float (.finite 10)), 100),
      ("node-02", report (.float (.finite 95)) (.int 190) (.int 10), 101),
      ("node-03", [], 102)]
    let rates (nodeId : String) : Rates :=
      if nodeId = "node-01" then ⟨90, 10, by decide, by decide⟩
      else ⟨190, 10, by decide, by decide⟩
    let reported (nodeId : String) : ℚ := if nodeId = "node-01" then 90 else 95
    ∃ totals summary, Sums .compensated (fun _ _ => .ok false) coordinator 103 totals summary ∧
      NamesExtremes reported summary "node-01" "node-02" ∧
      totals.Near 2 (totalRates coordinator 103 rates) ∧
      totals.Between (PySum.growth 4) 0 90 95 ∧
      summary.nonPvmNodes = ["node-03"] ∧
      Partitions coordinator 103 summary := by
  intro coordinator rates reported
  have entries : coordinator.registry.entries = [
      ("node-04", ⟨[(.str "value", .int 5)], 0⟩),
      ("node-01", ⟨report (.int 90) (.float (.finite 90)) (.float (.finite 10)), 100⟩),
      ("node-02", ⟨report (.float (.finite 95)) (.int 190) (.int 10), 101⟩),
      ("node-03", ⟨[], 102⟩)] := rfl
  have reports : ReportRates coordinator 103 0 rates reported := by
    intro nodeId entry live pvm
    have member := Dict.mem_of_get? live.1
    rw [entries] at member
    simp only [List.mem_cons, Prod.mk.injEq, List.not_mem_nil, or_false] at member
    rcases member with ⟨rfl, rfl⟩ | ⟨rfl, rfl⟩ | ⟨rfl, rfl⟩ | ⟨rfl, rfl⟩
    · exact absurd live.2 (show ¬ (103 - 60 : ℚ) ≤ 0 by decide +kernel)
    · exact {
        delivered := ⟨_, rfl, rfl, by decide +kernel, by decide +kernel⟩
        lost := ⟨_, rfl, rfl, by decide +kernel, by decide +kernel⟩
        efficiency := ⟨_, rfl, rfl⟩
        near := by decide +kernel }
    · exact {
        delivered := ⟨_, rfl, rfl, trivial, by decide +kernel⟩
        lost := ⟨_, rfl, rfl, trivial, by decide +kernel⟩
        efficiency := ⟨_, rfl, rfl⟩
        near := by decide +kernel }
    · cases pvm
  obtain ⟨lists, sums⟩ := efficiency_weighted_average .compensated (fun _ _ => .ok false)
    coordinator 103 0 rates reported le_rfl zero_lt_one reports
  obtain ⟨totals, summary, isSummary, near, between, _⟩ := sums (by decide +kernel)
  have count : (pvmReports coordinator 103).length = 2 := by decide +kernel
  have evaluated : (coordinator.fleetValueSummaryRounded .compensated (fun _ _ => .ok false)
      103).1.map (fun summary => (summary.worstNode, summary.bestNode, summary.nonPvmNodes,
        summary.nodes.map Prod.fst)) =
      .ok (some "node-01", some "node-02", ["node-03"], ["node-01", "node-02"]) := by
    decide +kernel
  rw [isSummary.returns] at evaluated
  simp only [Except.map, Except.ok.injEq, Prod.mk.injEq] at evaluated
  obtain ⟨isWorst, isBest, nonPvm, ids⟩ := evaluated
  have listed : summary.nodes ≠ [] := by
    intro none
    simp [none] at ids
  obtain ⟨worst, best, names, isBetween⟩ := between listed
  cases isWorst.symm.trans names.isWorst
  cases isBest.symm.trans names.isBest
  rw [efficiencyGrowth, count] at isBetween
  rw [count] at near
  exact ⟨totals, summary, isSummary, names, near, isBetween, nonPvm,
    (lists summary isSummary.returns).1⟩

/-- A node that loses nothing, so that 100 percent of its values are delivered. -/
def lossless (delivered : ℚ) : Entries :=
  report (.float (.finite 100)) (.float (.finite delivered)) (.float (.finite 0))

/-- A fleet of one such node. -/
def losslessFleet (delivered : ℚ) : AgentCoordinator Entries :=
  (AgentCoordinator.init 60 false "").ingest "node-01" (lossless delivered) 100

theorem losslessFleet_reportRates {delivered : ℚ} (isFloat : (PyFloat.finite delivered).IsFloat)
    (nonneg : 0 ≤ delivered) :
    ReportRates (losslessFleet delivered) 101 0 (fun _ => ⟨delivered, 0, nonneg, le_rfl⟩)
      fun _ => 100 := by
  intro nodeId entry live pvm
  have member := Dict.mem_of_get? live.1
  have entries : (losslessFleet delivered).registry.entries =
      [("node-01", ⟨lossless delivered, 100⟩)] := rfl
  rw [entries, List.mem_singleton, Prod.mk.injEq] at member
  rcases member with ⟨rfl, rfl⟩
  have whole : Rates.efficiency ⟨delivered, 0, nonneg, le_rfl⟩ = 100 := by
    simp only [Rates.efficiency, add_zero]
    split
    next => rfl
    next some => exact mul_div_cancel_right₀ 100 some
  exact {
    delivered := ⟨_, rfl, rfl, isFloat, nonneg⟩
    lost := ⟨_, rfl, rfl, by decide +kernel, le_rfl⟩
    efficiency := ⟨_, rfl, rfl⟩
    near := by rw [whole, sub_self, abs_zero, zero_mul] }

/-- A node that delivers 0.69 a second and loses nothing reports 100 percent, and so do the
worst and the best node; the fleet's efficiency before it is rounded is the next float above,
and an infinity when it delivers a lot.  And four nodes have another total in another order. -/
theorem efficiency_above_best :
    let share := Binary64.nearest (69 / 100)
    let heartbeats : List (String × Entries × ℚ) := [("node-01", lossless (2 ^ 106), 100),
      ("node-02", lossless (2 ^ 53), 100), ("node-03", lossless 1, 100),
      ("node-04", lossless 1, 100)]
    let fleet (heartbeats : List (String × Entries × ℚ)) : AgentCoordinator Entries :=
      (AgentCoordinator.init 60 false "").ingestAll heartbeats
    ReportRates (losslessFleet share) 101 0 (fun _ => ⟨share, 0, by decide +kernel, le_rfl⟩)
        (fun _ => 100) ∧
      ReportRates (losslessFleet (2 ^ 1020)) 101 0
        (fun _ => ⟨2 ^ 1020, 0, by decide +kernel, le_rfl⟩) (fun _ => 100) ∧
      ∀ python : PySum,
        (((losslessFleet share).fleetValueSummaryRounded python (fun _ _ => .ok false) 101).1.map
          fun summary => (summary.worstNode, summary.bestNode)) =
            .ok (some "node-01", some "node-01") ∧
        (totals python (liveValues (losslessFleet share) 101)).map Totals.efficiency =
          .ok (.finite (100 + 1 / 2 ^ 46)) ∧
        (totals python (liveValues (losslessFleet (2 ^ 1020)) 101)).map Totals.efficiency =
          .ok (.infinity false) ∧
        (totals python (liveValues (fleet heartbeats) 101)).map Totals.delivered =
          .ok (.float (.finite (2 ^ 106))) ∧
        (totals python (liveValues (fleet heartbeats.reverse) 101)).map Totals.delivered =
          .ok (.float (.finite (2 ^ 106 + 2 ^ 54))) := by
  intro share heartbeats fleet
  refine ⟨?_, ?_, ?_⟩
  · exact losslessFleet_reportRates (by decide +kernel) (by decide +kernel)
  · exact losslessFleet_reportRates (by decide +kernel) (by decide +kernel)
  · intro python
    cases python with
    | running => decide +kernel
    | compensated => decide +kernel

end FleetSummary

end SmartBandwidth
