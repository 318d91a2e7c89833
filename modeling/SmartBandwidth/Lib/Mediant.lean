import Mathlib.Algebra.BigOperators.Ring.List
import Mathlib.Algebra.Order.BigOperators.Group.List
import Mathlib.Algebra.Order.Field.Basic

/-!
# Shares of sums

The share of a part in a whole, where an empty whole has a share of its own.  The share of the
sum of some parts in the sum of their wholes lies between the smallest and the greatest of their
shares, also when some or all of the wholes are empty.
-/

universe u

namespace Mediant

variable {K : Type u} [Field K] [LinearOrder K] [IsStrictOrderedRing K]

/-- The share of a part in a whole. -/
def share (ofEmpty part whole : K) : K :=
  if 0 < whole then part / whole else ofEmpty

/-- A part and its whole, which is empty only with its part. -/
structure PartOf (pair : K × K) : Prop where
  whole_nonneg : 0 ≤ pair.2
  part_of_empty : pair.2 = 0 → pair.1 = 0

variable {ofEmpty bound : K} {pairs : List (K × K)}

omit [IsStrictOrderedRing K] in
theorem share_of_empty {part whole : K} (empty : whole = 0) :
    share ofEmpty part whole = ofEmpty :=
  if_neg (empty ▸ lt_irrefl _)

/-- A bound of a share bounds the part. -/
theorem part_le {pair : K × K} (partOf : PartOf pair)
    (below : share ofEmpty pair.1 pair.2 ≤ bound) : pair.1 ≤ bound * pair.2 := by
  rcases partOf.whole_nonneg.eq_or_lt with empty | positive
  · rw [partOf.part_of_empty empty.symm, ← empty, mul_zero]
  · rw [share, if_pos positive] at below
    exact (div_le_iff₀ positive).mp below

theorem le_part {pair : K × K} (partOf : PartOf pair)
    (above : bound ≤ share ofEmpty pair.1 pair.2) : bound * pair.2 ≤ pair.1 := by
  rcases partOf.whole_nonneg.eq_or_lt with empty | positive
  · rw [partOf.part_of_empty empty.symm, ← empty, mul_zero]
  · rw [share, if_pos positive] at above
    exact (le_div_iff₀ positive).mp above

/-- Where all wholes together are empty, each of them is. -/
theorem whole_eq_zero (parts : ∀ pair ∈ pairs, PartOf pair)
    (empty : ¬ 0 < (pairs.map Prod.snd).sum) {pair : K × K} (member : pair ∈ pairs) :
    pair.2 = 0 := by
  have nonneg : ∀ whole ∈ pairs.map Prod.snd, 0 ≤ whole := by
    intro whole isWhole
    obtain ⟨other, otherMember, rfl⟩ := List.mem_map.mp isWhole
    exact (parts other otherMember).whole_nonneg
  have within := List.single_le_sum nonneg pair.2 (List.mem_map_of_mem member)
  exact le_antisymm (within.trans (not_lt.mp empty)) (parts pair member).whole_nonneg

/-- A bound of all shares bounds the share of the sums. -/
theorem share_sum_le (parts : ∀ pair ∈ pairs, PartOf pair) (some : pairs ≠ [])
    (below : ∀ pair ∈ pairs, share ofEmpty pair.1 pair.2 ≤ bound) :
    share ofEmpty (pairs.map Prod.fst).sum (pairs.map Prod.snd).sum ≤ bound := by
  rw [share]
  split
  next positive =>
    rw [div_le_iff₀ positive, ← List.sum_map_mul_left]
    exact List.sum_le_sum fun pair member => part_le (parts pair member) (below pair member)
  next empty =>
    obtain ⟨pair, member⟩ := List.exists_mem_of_ne_nil pairs some
    have own := below pair member
    rw [share_of_empty (whole_eq_zero parts empty member)] at own
    exact own

/-- A lower bound of all shares is one of the share of the sums. -/
theorem le_share_sum (parts : ∀ pair ∈ pairs, PartOf pair) (some : pairs ≠ [])
    (above : ∀ pair ∈ pairs, bound ≤ share ofEmpty pair.1 pair.2) :
    bound ≤ share ofEmpty (pairs.map Prod.fst).sum (pairs.map Prod.snd).sum := by
  rw [share]
  split
  next positive =>
    rw [le_div_iff₀ positive, ← List.sum_map_mul_left]
    exact List.sum_le_sum fun pair member => le_part (parts pair member) (above pair member)
  next empty =>
    obtain ⟨pair, member⟩ := List.exists_mem_of_ne_nil pairs some
    have own := above pair member
    rw [share_of_empty (whole_eq_zero parts empty member)] at own
    exact own

end Mediant
