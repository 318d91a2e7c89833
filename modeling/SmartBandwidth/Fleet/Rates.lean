import SmartBandwidth.Fleet.SummaryErrors
import SmartBandwidth.Lib.KeepBest
import SmartBandwidth.Lib.Mediant

/-!
# Reported rates

Nodes report what they deliver and lose a second, and the percentage that is delivered.  The
percentage of the total rates lies between the least and the greatest of the nodes, and a
summary's scan finds nodes of these.
-/

namespace SmartBandwidth

open PyValue FleetSummary

/-! ## Rates -/

/-- What is delivered and what is lost a second. -/
structure Rates where
  delivered : ℚ
  lost : ℚ
  delivered_nonneg : 0 ≤ delivered
  lost_nonneg : 0 ≤ lost

namespace Rates

/-- The percentage that is delivered, which is 100 where nothing flows. -/
def efficiency (rates : Rates) : ℚ :=
  if rates.delivered + rates.lost = 0 then 100
  else 100 * rates.delivered / (rates.delivered + rates.lost)

theorem zero_nonneg : (0 : ℚ) ≤ 0 := le_rfl

/-- The rates of several nodes together. -/
def sum : List Rates → Rates
  | [] => { delivered := 0, lost := 0, delivered_nonneg := zero_nonneg, lost_nonneg := zero_nonneg }
  | rates :: rest => {
      delivered := rates.delivered + (sum rest).delivered
      lost := rates.lost + (sum rest).lost
      delivered_nonneg := add_nonneg rates.delivered_nonneg (sum rest).delivered_nonneg
      lost_nonneg := add_nonneg rates.lost_nonneg (sum rest).lost_nonneg }

/-- A hundred times the delivered rate, and the flow it is a part of. -/
def part (rates : Rates) : ℚ × ℚ := (100 * rates.delivered, rates.delivered + rates.lost)

theorem flow_nonneg (rates : Rates) : 0 ≤ rates.delivered + rates.lost :=
  add_nonneg rates.delivered_nonneg rates.lost_nonneg

theorem part_partOf (rates : Rates) : Mediant.PartOf rates.part where
  whole_nonneg := rates.flow_nonneg
  part_of_empty empty := by
    have zero := (add_eq_zero_iff_of_nonneg rates.delivered_nonneg rates.lost_nonneg).mp empty
    rw [part, zero.1, mul_zero]

theorem efficiency_eq_share (rates : Rates) :
    rates.efficiency = Mediant.share 100 rates.part.1 rates.part.2 := by
  rw [efficiency, Mediant.share, part]
  rcases rates.flow_nonneg.eq_or_lt with empty | positive
  · rw [if_pos empty.symm, if_neg empty.not_lt]
  · rw [if_neg positive.ne', if_pos positive]

theorem efficiency_nonneg (rates : Rates) : 0 ≤ rates.efficiency := by
  rw [efficiency]
  split
  next => exact Nat.ofNat_nonneg 100
  next =>
    have part := mul_nonneg (Nat.ofNat_nonneg 100) rates.delivered_nonneg
    exact div_nonneg part rates.flow_nonneg

theorem delivered_sum (rates : List Rates) :
    (sum rates).delivered = (rates.map delivered).sum := by
  induction rates with
  | nil => rfl
  | cons first rest ih => simp [sum, ih]

theorem lost_sum (rates : List Rates) : (sum rates).lost = (rates.map lost).sum := by
  induction rates with
  | nil => rfl
  | cons first rest ih => simp [sum, ih]

theorem part_sum (rates : List Rates) :
    (sum rates).part =
      (((rates.map part).map Prod.fst).sum, ((rates.map part).map Prod.snd).sum) := by
  simp only [part, delivered_sum, lost_sum, List.map_map, Function.comp_def,
    List.sum_map_mul_left, List.sum_map_add]

theorem sum_perm {rates others : List Rates} (perm : rates.Perm others) :
    sum rates = sum others := by
  induction perm with
  | nil => rfl
  | cons first _ ih => simp [sum, ih]
  | swap first second rest => simp [sum, add_left_comm]
  | trans _ _ first second => exact first.trans second

/-- Together several nodes are at most as efficient as a bound that each of them keeps. -/
theorem efficiency_sum_le {rates : List Rates} {bound : ℚ} (some : rates ≠ [])
    (below : ∀ each ∈ rates, each.efficiency ≤ bound) : (sum rates).efficiency ≤ bound := by
  rw [efficiency_eq_share, part_sum]
  apply Mediant.share_sum_le
  · exact List.forall_mem_map.mpr fun each _ => each.part_partOf
  · simpa using some
  · rw [List.forall_mem_map]
    intro each member
    rw [← efficiency_eq_share]
    exact below each member

theorem le_efficiency_sum {rates : List Rates} {bound : ℚ} (some : rates ≠ [])
    (above : ∀ each ∈ rates, bound ≤ each.efficiency) : bound ≤ (sum rates).efficiency := by
  rw [efficiency_eq_share, part_sum]
  apply Mediant.le_share_sum
  · exact List.forall_mem_map.mpr fun each _ => each.part_partOf
  · simpa using some
  · rw [List.forall_mem_map]
    intro each member
    rw [← efficiency_eq_share]
    exact above each member

end Rates

/-! ## Reports of rates -/

namespace FleetSummary

/-- A figure of a report is a finite number. -/
def Figure.Reports (figure : Figure) (value : PyValue) (rate : ℚ) : Prop :=
  ∃ number, figure.number value = .ok number ∧ number.Is rate

/-! ## The best and the worst node -/

theorem extreme_eq_keep {beats : PyValue → PyValue → Except PyFault Bool}
    {better : String × PyValue → String × PyValue → Bool} (current : String × PyValue)
    {nodes : List (String × PyValue)}
    (decides : ∀ left ∈ current :: nodes, ∀ right ∈ current :: nodes,
      beats left.2 right.2 = .ok (better left right)) :
    extreme beats current nodes = .ok (KeepBest.keep better current nodes).1 := by
  induction nodes generalizing current with
  | nil => rfl
  | cons node rest ih =>
      have among : ∀ other ∈ (if better node current then node else current) :: rest,
          other ∈ current :: node :: rest := by
        intro other member
        rcases List.mem_cons.mp member with rfl | later
        · split <;> simp
        · exact List.mem_cons_of_mem _ (List.mem_cons_of_mem _ later)
      rw [extreme, decides node (by simp) current (by simp)]
      exact ih _ fun left isLeft right isRight =>
        decides left (among left isLeft) right (among right isRight)

/-- The scan finds a node of the greatest key when nodes beat each other by it. -/
theorem extreme_greatest {K : Type} [LinearOrder K] {key : String → K}
    {beats : PyValue → PyValue → Except PyFault Bool} {current : String × PyValue}
    {nodes : List (String × PyValue)} {best : String}
    (decides : ∀ left ∈ current :: nodes, ∀ right ∈ current :: nodes,
      beats left.2 right.2 = .ok (decide (key right.1 < key left.1)))
    (found : extreme beats current nodes = .ok best) :
    best ∈ (current :: nodes).map Prod.fst ∧
      ∀ node ∈ (current :: nodes).map Prod.fst, key node ≤ key best := by
  have keeps := @KeepBest.keep_firstGreatest _ K _ (fun node : String × PyValue => key node.1)
    (fun item current => decide (key current.1 < key item.1)) (by simp) current nodes
  rw [extreme_eq_keep current decides] at found
  cases found
  exact ⟨List.mem_map_of_mem keeps.member,
    List.forall_mem_map.mpr fun node member => keeps.greatest member⟩

theorem forNodes_cons {α : Type} {operation : PyValue → Except PyFault α}
    {node : String × PyValue} {nodes : List (String × PyValue)} {result : α}
    {results : List (String × α)} (answers : operation node.2 = .ok result)
    (finished : forNodes operation nodes = .ok results) :
    forNodes operation (node :: nodes) = .ok ((node.1, result) :: results) := by
  rw [forNodes] at finished
  rw [forNodes, List.mapM_cons, answers, finished]
  rfl

end FleetSummary

end SmartBandwidth
