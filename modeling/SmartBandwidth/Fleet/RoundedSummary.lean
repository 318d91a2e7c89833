import SmartBandwidth.Fleet.LiveNodes
import SmartBandwidth.Fleet.Rates
import SmartBandwidth.Lib.PySum

/-!
# The value summary with floats

The totals and the efficiency of a fleet are computed with floats, which round.  The summary
lists the live nodes and names those of the greatest and the least efficiency reported.
-/

namespace SmartBandwidth

open PyValue

namespace FleetSummary

/-- The figures of the reports before the first that cannot be read, and how that one fails. -/
def Figure.readAll (figure : Figure) : List PyValue → List PyNumber × Except PyFault Unit
  | [] => ([], .ok ())
  | value :: rest =>
      match figure.number value with
      | .error fault => ([], .error fault)
      | .ok number => (number :: (figure.readAll rest).1, (figure.readAll rest).2)

/-- `sum` of a figure over the reports, which are read one after the other. -/
def sumRounded (python : PySum) (figure : Figure) (values : List PyValue) :
    Except PyFault PyNumber := do
  let total ← python.sum (figure.readAll values).1
  (figure.readAll values).2
  return total

/-- `100.0 * total_delivered / total_flow if total_flow > 0 else 100.0`, on floats. -/
def fleetEfficiencyRounded (totalDelivered totalFlow : PyNumber) : Except PyFault PyFloat :=
  if (PyNumber.int 0).lt totalFlow then do
    let totalDelivered ← totalDelivered.toFloatRounded
    let totalFlow ← totalFlow.toFloatRounded
    ((PyFloat.finite 100).mulRounded totalDelivered).divRounded totalFlow
  else
    .ok (.finite 100)

/-- The figures of one node, rounded. -/
def nodeValueRounded (value : PyValue) : Except PyFault NodeValue := do
  let efficiencyPct ← efficiency.number value
  let deliveredPerSec ← delivered.number value
  let lostPerSec ← lost.number value
  return {
    valueEfficiencyPct := efficiencyPct.roundRounded 2
    valueDeliveredPerSec := deliveredPerSec.roundRounded 4
    valueLostPerSec := lostPerSec.roundRounded 4 }

/-- The totals of some reports and the fleet's efficiency, before they are rounded. -/
structure Totals where
  delivered : PyNumber
  lost : PyNumber
  efficiency : PyFloat
  deriving DecidableEq, Repr

/-- The totals of the reports that are summed up. -/
def totals (python : PySum) (values : List PyValue) : Except PyFault Totals := do
  let totalDelivered ← sumRounded python delivered values
  let totalLost ← sumRounded python lost values
  let totalFlow ← totalDelivered.addRounded totalLost
  let fleetEfficiency ← fleetEfficiencyRounded totalDelivered totalFlow
  return {
    delivered := totalDelivered
    lost := totalLost
    efficiency := fleetEfficiency }

/-- The summary of the reports of a first node and of others. -/
def ofReportsRounded (python : PySum)
    (listLess : List PyValue → List PyValue → Except PyFault Bool) (nonPvm : List String)
    (first : String × PyValue) (others : List (String × PyValue)) :
    Except PyFault FleetSummary := do
  let nodesValue := first :: others
  let totals ← totals python (nodesValue.map Prod.snd)
  let firstEfficiency ← efficiency.read first.2
  let efficiencies ← forNodes efficiency.read others
  let bestNode ← extreme (fun node current => lt listLess current node)
    (first.1, firstEfficiency) efficiencies
  let worstNode ← extreme (fun node current => lt listLess node current)
    (first.1, firstEfficiency) efficiencies
  let nodes ← forNodes nodeValueRounded nodesValue
  return {
    fleetValueEfficiencyPct := some (.float (totals.efficiency.roundRounded 2))
    fleetValueDeliveredPerSec := totals.delivered.roundRounded 4
    fleetValueLostPerSec := totals.lost.roundRounded 4
    bestNode := some bestNode
    worstNode := some worstNode
    pvmNodeCount := nodesValue.length
    nonPvmNodes := nonPvm
    nodes := nodes }

end FleetSummary

open FleetSummary in
/-- `fleet_value_summary`, on floats. -/
def AgentCoordinator.fleetValueSummaryRounded (python : PySum)
    (listLess : List PyValue → List PyValue → Except PyFault Bool)
    (coordinator : AgentCoordinator Entries) (now : ℚ) :
    Except PyFault FleetSummary × AgentCoordinator Entries :=
  let coordinator := coordinator.evictStale now
  let nodesValue := (reports coordinator).filter fun node => node.2.truthy
  let nonPvm := ((reports coordinator).filter fun node => !node.2.truthy).map Prod.fst
  match nodesValue with
  | [] => (.ok (FleetSummary.empty nonPvm), coordinator)
  | first :: others => (ofReportsRounded python listLess nonPvm first others, coordinator)

namespace FleetSummary

/-! ## Sums of figures -/

section Sums

variable {figure : Figure} {values : List PyValue}

theorem readAll_eq (reads : ∀ value ∈ values, ∃ number, figure.number value = .ok number) :
    figure.readAll values = (values.map figure.numberOf, .ok ()) := by
  induction values with
  | nil => rfl
  | cons value rest ih =>
      rw [List.forall_mem_cons] at reads
      rw [Figure.readAll, number_eq_numberOf reads.1, ih reads.2]
      rfl

theorem sumRounded_eq (python : PySum)
    (reads : ∀ value ∈ values, ∃ number, figure.number value = .ok number) :
    sumRounded python figure values = python.sum (values.map figure.numberOf) := by
  rw [sumRounded, readAll_eq reads]
  cases python.sum (values.map figure.numberOf) <;> rfl

end Sums

/-! ## The efficiency of near totals -/

section Efficiency

open Binary64 PyNumber

/-- A quotient that is a percentage of rates, up to a growth factor. -/
structure NearEfficiency (growth : ℚ) (rates : Rates) (quotient : ℚ) : Prop where
  nonneg : 0 ≤ quotient
  below : (2 - growth) * quotient ≤ growth * rates.efficiency
  above : (2 - growth) * rates.efficiency ≤ growth * quotient

/-- A hundred is near the efficiency of rates whose sum is near zero. -/
theorem nearEfficiency_hundred {growth : ℚ} {rates : Rates} (large : 1 ≤ growth)
    (near : rates.delivered + rates.lost ≤ (growth - 1) * (rates.delivered + rates.lost)) :
    NearEfficiency growth rates 100 := by
  have flowNonneg := rates.flow_nonneg
  have efficiencyNonneg := rates.efficiency_nonneg
  have growthNonneg : 0 ≤ growth := zero_le_one.trans large
  rcases flowNonneg.eq_or_lt with empty | positive
  · have whole : rates.efficiency = 100 := by rw [Rates.efficiency, if_pos empty.symm]
    constructor
    · exact Nat.ofNat_nonneg 100
    · rw [whole]
      linarith
    · rw [whole]
      linarith
  · -- Then the bounds say nothing.
    have vacuous : 2 - growth ≤ 0 := by
      by_contra narrow
      have shrinks := mul_pos (not_le.mp narrow) positive
      linarith
    constructor
    · exact Nat.ofNat_nonneg 100
    · have left := mul_nonpos_of_nonpos_of_nonneg vacuous (by norm_num : (0 : ℚ) ≤ 100)
      exact left.trans (mul_nonneg growthNonneg efficiencyNonneg)
    · have left := mul_nonpos_of_nonpos_of_nonneg vacuous efficiencyNonneg
      linarith

section Totals

variable {growth growthFlow more value flow : ℚ} {rates : Rates}
variable {totalDelivered totalFlow : PyNumber}

/-- The quotient of near totals, when something flows. -/
theorem quotient_near (large : 1 ≤ growth) (largeFlow : 1 ≤ growthFlow)
    (near : Near growth rates.delivered totalDelivered value)
    (nearFlow : Near growthFlow (rates.delivered + rates.lost) totalFlow flow)
    (within : growth * (1 + unitRoundoff) * (1 + unitRoundoff) ≤ more)
    (withinFlow : growthFlow * (1 + unitRoundoff) ≤ more)
    (fits : 100 * (more * (rates.delivered + rates.lost)) < limit) (positive : 0 < flow) :
    ∃ quotient, fleetEfficiencyRounded totalDelivered totalFlow = .ok (.ofExact quotient) ∧
      NearEfficiency more rates quotient := by
  have flowNonneg := rates.flow_nonneg
  have grows : 1 ≤ 1 + unitRoundoff := le_add_of_nonneg_right unitRoundoff_nonneg
  have first : growth ≤ growth * (1 + unitRoundoff) :=
    le_mul_of_one_le_right (zero_le_one.trans large) grows
  have growthMore : growth * (1 + unitRoundoff) ≤ more :=
    (le_mul_of_one_le_right ((zero_le_one.trans large).trans first) grows).trans within
  have flowMore : growthFlow ≤ more :=
    (le_mul_of_one_le_right (zero_le_one.trans largeFlow) grows).trans withinFlow
  have moreNonneg : 0 ≤ more := (zero_le_one.trans largeFlow).trans flowMore
  have reachNonneg : 0 ≤ more * (rates.delivered + rates.lost) := mul_nonneg moreNonneg flowNonneg
  have reach : more * (rates.delivered + rates.lost) < limit := by linarith
  have part : rates.delivered ≤ rates.delivered + rates.lost :=
    le_add_of_nonneg_right rates.lost_nonneg
  have partReach := mul_le_mul_of_nonneg_left part moreNonneg
  have flowPositive : 0 < rates.delivered + rates.lost :=
    pos_of_mul_pos_right (positive.trans_le nearFlow.le) (zero_le_one.trans largeFlow)
  obtain ⟨converts, tracks⟩ := near.toFloatRounded large
    ((mul_le_mul_of_nonneg_right (first.trans growthMore) rates.delivered_nonneg).trans_lt
      (partReach.trans_lt reach))
  obtain ⟨convertsFlow, tracksFlow⟩ := nearFlow.toFloatRounded largeFlow
    ((mul_le_mul_of_nonneg_right flowMore flowNonneg).trans_lt reach)
  have hundredfold := (tracks.intCast_mul (by decide : (0 : Int) ≤ 100)).mono within
  rw [Int.cast_ofNat] at hundredfold
  have floatPositive : 0 < nearest flow := by
    have error := nearFlow.amount.isGrid.abs_nearest_sub_le
    rw [abs_of_pos positive, abs_le] at error
    have small : unitRoundoff * flow < flow :=
      mul_lt_of_lt_one_left positive (by norm_num [unitRoundoff])
    linarith
  have productBelow : |100 * nearest value| < limit := by
    have bounded := tracks.bounded.trans
      (mul_le_mul_of_nonneg_right growthMore rates.delivered_nonneg)
    rw [abs_of_nonneg (mul_nonneg (by norm_num) tracks.total_nonneg)]
    linarith
  have product : (PyFloat.finite 100).mulRounded (.finite (nearest value)) =
      .finite (nearest (100 * nearest value)) := PyFloat.ofExact_eq productBelow
  obtain ⟨below, above⟩ := hundredfold.quotient (tracksFlow.mono withinFlow) floatPositive
  have share : rates.efficiency * (rates.delivered + rates.lost) = 100 * rates.delivered := by
    rw [Rates.efficiency, if_neg flowPositive.ne', div_mul_cancel₀ _ flowPositive.ne']
  have zero : (PyNumber.int 0).Is 0 := rfl
  refine ⟨nearest (100 * nearest value) / nearest flow, ?_, ?_⟩
  · rw [fleetEfficiencyRounded, zero.lt_eq nearFlow.amount.is, if_pos (decide_eq_true positive),
      converts, convertsFlow]
    simp only [bind, Except.bind, product]
    exact PyFloat.divRounded_finite floatPositive.ne'
  · rw [← share] at below above
    constructor
    · exact div_nonneg hundredfold.total_nonneg floatPositive.le
    · rw [← mul_assoc] at below
      exact le_of_mul_le_mul_right below flowPositive
    · rw [← mul_assoc] at above
      exact le_of_mul_le_mul_right above flowPositive

/-- The efficiency of near totals. -/
theorem fleetEfficiencyRounded_near (large : 1 ≤ growth) (largeFlow : 1 ≤ growthFlow)
    (near : Near growth rates.delivered totalDelivered value)
    (nearFlow : Near growthFlow (rates.delivered + rates.lost) totalFlow flow)
    (within : growth * (1 + unitRoundoff) * (1 + unitRoundoff) ≤ more)
    (withinFlow : growthFlow * (1 + unitRoundoff) ≤ more)
    (fits : 100 * (more * (rates.delivered + rates.lost)) < limit) :
    ∃ quotient, fleetEfficiencyRounded totalDelivered totalFlow = .ok (.ofExact quotient) ∧
      NearEfficiency more rates quotient := by
  by_cases positive : 0 < flow
  · exact quotient_near large largeFlow near nearFlow within withinFlow fits positive
  · have grows : 1 ≤ 1 + unitRoundoff := le_add_of_nonneg_right unitRoundoff_nonneg
    have flowMore : growthFlow ≤ more :=
      (le_mul_of_one_le_right (zero_le_one.trans largeFlow) grows).trans withinFlow
    have zero : (PyNumber.int 0).Is 0 := rfl
    have same : PyFloat.finite 100 = .ofExact 100 := by decide +kernel
    have close := nearFlow.near
    rw [le_antisymm (not_lt.mp positive) nearFlow.amount.nonneg, zero_sub, abs_neg,
      abs_of_nonneg rates.flow_nonneg] at close
    rw [fleetEfficiencyRounded, zero.lt_eq nearFlow.amount.is, if_neg (by simpa using positive)]
    refine ⟨100, congrArg Except.ok same, nearEfficiency_hundred (largeFlow.trans flowMore) ?_⟩
    exact close.trans (mul_le_mul_of_nonneg_right (sub_le_sub_right flowMore 1) rates.flow_nonneg)

end Totals

end Efficiency

/-! ## Summaries -/

/-- A figure of a report is a number that is not negative. -/
def Figure.ReportsAmount (figure : Figure) (value : PyValue) (rate : ℚ) : Prop :=
  ∃ number, figure.number value = .ok number ∧ number.Amount rate

/-- A report gives the rates of its node, and their efficiency up to a relative error. -/
structure ReportsRates (slack : ℚ) (value : PyValue) (rates : Rates) (reported : ℚ) : Prop where
  delivered : FleetSummary.delivered.ReportsAmount value rates.delivered
  lost : FleetSummary.lost.ReportsAmount value rates.lost
  efficiency : FleetSummary.efficiency.Reports value reported
  near : |reported - rates.efficiency| ≤ slack * rates.efficiency

/-- The summary names a node of the least and one of the greatest efficiency reported. -/
structure NamesExtremes (reported : String → ℚ) (summary : FleetSummary) (worst best : String) :
    Prop where
  isWorst : summary.worstNode = some worst
  isBest : summary.bestNode = some best
  worst_member : worst ∈ summary.nodes.map Prod.fst
  best_member : best ∈ summary.nodes.map Prod.fst
  least : ∀ nodeId ∈ summary.nodes.map Prod.fst, reported worst ≤ reported nodeId
  greatest : ∀ nodeId ∈ summary.nodes.map Prod.fst, reported nodeId ≤ reported best

/-- Totals are near the total rates of some nodes, and their efficiency is the float nearest to
a number that is near that of these rates. -/
structure Totals.Near (count : Nat) (total : Rates) (totals : Totals) : Prop where
  delivered : ∃ value, PyNumber.Near (PySum.growth count) total.delivered totals.delivered value
  lost : ∃ value, PyNumber.Near (PySum.growth count) total.lost totals.lost value
  efficiency : ∃ quotient, totals.efficiency = .ofExact quotient ∧
    NearEfficiency (PySum.growth (count + 2)) total quotient

/-- A summary shows totals rounded. -/
structure Totals.ShownBy (totals : Totals) (summary : FleetSummary) : Prop where
  delivered : summary.fleetValueDeliveredPerSec = totals.delivered.roundRounded 4
  lost : summary.fleetValueLostPerSec = totals.lost.roundRounded 4
  efficiency : summary.fleetValueEfficiencyPct =
    some (.float (totals.efficiency.roundRounded 2))

section Summaries

variable {python : PySum} {listLess : List PyValue → List PyValue → Except PyFault Bool}
variable {nonPvm : List String} {first : String × PyValue} {others nodes : List (String × PyValue)}
variable {slack : ℚ} {rates : String → Rates} {reported : String → ℚ} {summary : FleetSummary}

theorem Figure.ReportsAmount.numberOf {figure : Figure} {value : PyValue} {rate : ℚ}
    (reports : figure.ReportsAmount value rate) : (figure.numberOf value).Amount rate := by
  obtain ⟨number, reads, isAmount⟩ := reports
  cases (number_eq_numberOf ⟨number, reads⟩).symm.trans reads
  exact isAmount

/-- What a summary that exists lists and names. -/
theorem ofReportsRounded_names
    (each : ∀ node ∈ first :: others, efficiency.Reports node.2 (reported node.1))
    (summarised : ofReportsRounded python listLess nonPvm first others = .ok summary) :
    ∃ worst best, NamesExtremes reported summary worst best := by
  simp only [ofReportsRounded, Raising.bind_eq_ok] at summarised
  obtain ⟨_, _, firstRead, readsFirst, efficiencies, readsOthers, best, isBest, worst, isWorst, _,
    finishedNodes, same⟩ := summarised
  cases same
  have finished := forNodes_cons readsFirst readsOthers
  have numbers : ∀ node ∈ (first.1, firstRead) :: efficiencies,
      ∃ number, node.2.asNumber = .ok number ∧ number.Is (reported node.1) := by
    intro node member
    obtain ⟨value, isNode, reads⟩ := (mem_forNodes finished).mp member
    obtain ⟨number, answers, isRate⟩ := each _ isNode
    rw [Figure.number, reads] at answers
    exact ⟨number, answers, isRate⟩
  have ids := (forNodes_ids finished).trans (forNodes_ids finishedNodes).symm
  have compares : ∀ left ∈ (first.1, firstRead) :: efficiencies,
      ∀ right ∈ (first.1, firstRead) :: efficiencies, lt listLess left.2 right.2 =
        .ok (decide (reported left.1 < reported right.1)) := by
    intro left isLeft right isRight
    obtain ⟨leftNumber, readsLeft, leftRate⟩ := numbers left isLeft
    obtain ⟨rightNumber, readsRight, rightRate⟩ := numbers right isRight
    rw [lt_of_asNumber readsLeft readsRight, leftRate.lt_eq rightRate]
  have greatest := @extreme_greatest ℚ _ reported _ _ _ _
    (fun left isLeft right isRight => compares right isRight left isLeft) isBest
  have least := @extreme_greatest ℚᵒᵈ _ (fun node => .toDual (reported node)) _ _ _ _
    (fun left isLeft right isRight => compares left isLeft right isRight) isWorst
  rw [ids] at greatest least
  exact ⟨worst, best, {
    isWorst := rfl
    isBest := rfl
    worst_member := least.1
    best_member := greatest.1
    least := least.2
    greatest := greatest.2 }⟩

theorem ofReportsRounded_nodes
    (summarised : ofReportsRounded python listLess nonPvm first others = .ok summary) :
    summary.nonPvmNodes = nonPvm ∧
      forNodes nodeValueRounded (first :: others) = .ok summary.nodes := by
  simp only [ofReportsRounded, Raising.bind_eq_ok] at summarised
  obtain ⟨_, _, _, _, _, _, _, _, _, _, nodes, finished, same⟩ := summarised
  cases same
  exact ⟨rfl, finished⟩

/-- The total of a figure is near the sum of the rates. -/
theorem sumRounded_near (python : PySum) {figure : Figure} {rate : Rates → ℚ}
    (each : ∀ node ∈ nodes, figure.ReportsAmount node.2 (rate (rates node.1)))
    (fits : PySum.growth nodes.length * (nodes.map fun node => rate (rates node.1)).sum <
      Binary64.limit) :
    ∃ sum value, sumRounded python figure (nodes.map Prod.snd) = .ok sum ∧
      PyNumber.Near (PySum.growth nodes.length)
        (nodes.map fun node => rate (rates node.1)).sum sum value := by
  have reads : ∀ value ∈ nodes.map Prod.snd, ∃ number, figure.number value = .ok number := by
    rw [List.forall_mem_map]
    exact fun node member => (each node member).imp fun _ => And.left
  obtain ⟨sum, value, sums, near⟩ := python.sum_near
    (fun node member => (each node member).numberOf) fits
  refine ⟨sum, value, ?_, near⟩
  rw [sumRounded_eq python reads, List.map_map]
  exact sums

theorem ReportsRates.fits {value : PyValue} {rates : Rates} {reported : ℚ}
    (reports : ReportsRates slack value rates reported) : ReportFits value := by
  rw [reportFits_iff, forall_figures]
  exact ⟨reports.delivered.imp fun _ => And.left, reports.lost.imp fun _ => And.left,
    reports.efficiency.imp fun _ => And.left⟩

theorem exists_nodeValueRounded {value : PyValue} (fits : ReportFits value) :
    ∃ node, nodeValueRounded value = .ok node := by
  rw [reportFits_iff, forall_figures] at fits
  obtain ⟨⟨_, delivered⟩, ⟨_, lost⟩, ⟨_, efficiency⟩⟩ := fits
  rw [nodeValueRounded, delivered, lost, efficiency]
  exact ⟨_, rfl⟩

/-- Rates whose sum stays in the range have near totals. -/
theorem exists_totals (python : PySum)
    (each : ∀ node ∈ nodes, ReportsRates slack node.2 (rates node.1) (reported node.1))
    {total : Rates} (isTotal : total = Rates.sum (nodes.map fun node => rates node.1))
    (fits : 100 * (PySum.growth (nodes.length + 2) * (total.delivered + total.lost)) <
      Binary64.limit) :
    ∃ totals, FleetSummary.totals python (nodes.map Prod.snd) = .ok totals ∧
      totals.Near nodes.length total := by
  have deliveredTotal : (nodes.map fun node => (rates node.1).delivered).sum =
      total.delivered := by
    rw [isTotal, Rates.delivered_sum, List.map_map]
    rfl
  have lostTotal : (nodes.map fun node => (rates node.1).lost).sum = total.lost := by
    rw [isTotal, Rates.lost_sum, List.map_map]
    rfl
  have flowNonneg := total.flow_nonneg
  have large := PySum.one_le_growth nodes.length
  have next : PySum.growth nodes.length ≤ PySum.growth (nodes.length + 1) :=
    PySum.growth_mono (Nat.le_succ _)
  have last : PySum.growth (nodes.length + 1) ≤ PySum.growth (nodes.length + 2) :=
    PySum.growth_mono (Nat.le_succ _)
  have reachNonneg := mul_nonneg
    (zero_le_one.trans (PySum.one_le_growth (nodes.length + 2))) flowNonneg
  have reach : PySum.growth (nodes.length + 1) * (total.delivered + total.lost) <
      Binary64.limit := by
    have scaled := mul_le_mul_of_nonneg_right last flowNonneg
    linarith
  have whole := (mul_le_mul_of_nonneg_right next flowNonneg).trans_lt reach
  rw [mul_add] at whole
  have deliveredNonneg := mul_nonneg (zero_le_one.trans large) total.delivered_nonneg
  have lostNonneg := mul_nonneg (zero_le_one.trans large) total.lost_nonneg
  obtain ⟨totalDelivered, delivered, sumsDelivered, nearDelivered⟩ := sumRounded_near python
    (fun node member => (each node member).delivered) (by rw [deliveredTotal]; linarith)
  obtain ⟨totalLost, lost, sumsLost, nearLost⟩ := sumRounded_near python
    (fun node member => (each node member).lost) (by rw [lostTotal]; linarith)
  rw [deliveredTotal] at nearDelivered
  rw [lostTotal] at nearLost
  obtain ⟨totalFlow, flow, adds, nearFlow⟩ := nearDelivered.addRounded large nearLost
    (by rwa [PySum.growth_succ])
  rw [PySum.growth_succ] at nearFlow
  have squares : PySum.growth nodes.length * (1 + Binary64.unitRoundoff) *
      (1 + Binary64.unitRoundoff) = PySum.growth (nodes.length + 1) := by
    rw [← PySum.growth_succ, PyNumber.stepGrowth]
    ring
  obtain ⟨quotient, divides, nearEfficiency⟩ := fleetEfficiencyRounded_near large
    (PySum.one_le_growth _) nearDelivered nearFlow (squares.trans_le last)
    (PySum.growth_mul_le _) fits
  refine ⟨{
    delivered := totalDelivered
    lost := totalLost
    efficiency := .ofExact quotient }, ?_, ?_⟩
  · rw [totals, sumsDelivered, sumsLost]
    simp only [bind, Except.bind, pure, Except.pure, adds, divides]
  · exact {
      delivered := ⟨delivered, nearDelivered⟩
      lost := ⟨lost, nearLost⟩
      efficiency := ⟨quotient, rfl, nearEfficiency⟩ }

/-- Reports with totals have a summary, which shows them. -/
theorem exists_ofReportsRounded {python : PySum}
    (listLess : List PyValue → List PyValue → Except PyFault Bool) (nonPvm : List String)
    (report : ∀ node ∈ first :: others, ReportFits node.2) {totals : Totals}
    (adds : FleetSummary.totals python ((first :: others).map Prod.snd) = .ok totals) :
    ∃ summary, ofReportsRounded python listLess nonPvm first others = .ok summary ∧
      totals.ShownBy summary := by
  obtain ⟨firstRead, readsFirst, firstNumber⟩ := exists_read (report first List.mem_cons_self)
  obtain ⟨efficiencies, readsOthers, numbers⟩ := exists_efficiencies fun node member =>
    report node (List.mem_cons_of_mem first member)
  obtain ⟨best, isBest⟩ := exists_extreme (fun node current => lt listLess current node)
    (fun _ _ left right => exists_lt right left) (first.1, firstRead) firstNumber numbers
  obtain ⟨worst, isWorst⟩ := exists_extreme (fun node current => lt listLess node current)
    (fun _ _ left right => exists_lt left right) (first.1, firstRead) firstNumber numbers
  obtain ⟨nodes, finished⟩ := exists_forNodes.mpr fun node member =>
    exists_nodeValueRounded (report node member)
  rw [ofReportsRounded, adds]
  simp only [bind, Except.bind, pure, Except.pure, readsFirst, readsOthers, isBest, isWorst,
    finished]
  refine ⟨_, rfl, ?_⟩
  exact {
    delivered := rfl
    lost := rfl
    efficiency := rfl }

end Summaries

end FleetSummary

end SmartBandwidth
