import Mathlib.Algebra.Order.BigOperators.Group.List
import Mathlib.Algebra.Order.Field.Basic
import Mathlib.Algebra.Order.Floor.Semiring
import Mathlib.Data.List.Sort
import Mathlib.Data.Rat.Floor

/-!
# Quantiles and means of finite samples

A value is a `q`-quantile of some samples when a fraction `q` of them is at most the value and a
fraction `1 - q` is at least the value.  Samples may repeat.  The sorted samples have a quantile
at the truncated position `n * q`, for every `q` below one.
-/

universe u

namespace Quantile

section Order

variable {α : Type u} [LinearOrder α]

/-- A value splits the samples in the proportion `q` to `1 - q`. -/
structure IsQuantile (q : ℚ) (samples : List α) (value : α) : Prop where
  below : q * samples.length ≤ samples.countP (· ≤ value)
  above : (1 - q) * samples.length ≤ samples.countP (value ≤ ·)

/-- Quantiles do not depend on the order of the samples. -/
theorem IsQuantile.perm {q : ℚ} {samples other : List α} {value : α}
    (quantile : IsQuantile q samples value) (sameSamples : samples.Perm other) :
    IsQuantile q other value where
  below := by
    rw [← sameSamples.length_eq, ← sameSamples.countP_eq]
    exact quantile.below
  above := by
    rw [← sameSamples.length_eq, ← sameSamples.countP_eq]
    exact quantile.above

/-- Sorting forgets the order of the samples. -/
theorem sorted_eq {samples other : List α} (sameSamples : other.Perm samples) :
    other.insertionSort (· ≤ ·) = samples.insertionSort (· ≤ ·) := by
  apply List.Perm.eq_of_sortedLE List.sortedLE_insertionSort List.sortedLE_insertionSort
  exact ((List.perm_insertionSort _ other).trans sameSamples).trans
    (List.perm_insertionSort _ samples).symm

variable {sorted : List α} {k : Nat}

/-- The first sorted sample is the least. -/
theorem first_le (isSorted : sorted.SortedLE) (nonempty : 0 < sorted.length) {sample : α}
    (member : sample ∈ sorted) : sorted[0] ≤ sample := by
  obtain ⟨i, inside, rfl⟩ := List.mem_iff_getElem.mp member
  exact isSorted.getElem_le_getElem_of_le (Nat.zero_le i)

/-- The last one is the greatest. -/
theorem le_last (isSorted : sorted.SortedLE) (nonempty : sorted.length - 1 < sorted.length)
    {sample : α} (member : sample ∈ sorted) : sample ≤ sorted[sorted.length - 1] := by
  obtain ⟨i, inside, rfl⟩ := List.mem_iff_getElem.mp member
  exact isSorted.getElem_le_getElem_of_le (Nat.le_sub_one_of_lt inside)

/-- The samples up to a position are at most the one there. -/
theorem succ_le_countP (isSorted : sorted.SortedLE) (inside : k < sorted.length) :
    k + 1 ≤ sorted.countP (· ≤ sorted[k]) := by
  have upTo : (sorted.take (k + 1)).countP (· ≤ sorted[k]) = (sorted.take (k + 1)).length := by
    rw [List.countP_eq_length]
    intro sample member
    obtain ⟨i, early, rfl⟩ := List.mem_take_iff_getElem.mp member
    rw [decide_eq_true_eq]
    apply isSorted.getElem_le_getElem_of_le
    omega
  have within := (List.take_sublist (k + 1) sorted).countP_le (p := (· ≤ sorted[k]))
  rw [upTo, List.length_take] at within
  omega

/-- The samples from a position on are at least the one there. -/
theorem length_sub_le_countP (isSorted : sorted.SortedLE) (inside : k < sorted.length) :
    sorted.length - k ≤ sorted.countP (sorted[k] ≤ ·) := by
  have onward : (sorted.drop k).countP (sorted[k] ≤ ·) = (sorted.drop k).length := by
    rw [List.countP_eq_length]
    intro sample member
    obtain ⟨i, late, rfl⟩ := List.mem_drop_iff_getElem.mp member
    rw [decide_eq_true_eq]
    apply isSorted.getElem_le_getElem_of_le
    omega
  have within := (List.drop_sublist k sorted).countP_le (p := (sorted[k] ≤ ·))
  rw [onward, List.length_drop] at within
  exact within

end Order

/-! ## Positions -/

/-- The position of the `q`-quantile among `n` sorted samples. -/
def position (q : ℚ) (n : Nat) : Nat := ⌊n * q⌋₊

variable {q r : ℚ} {n : Nat}

theorem position_lt (proper : q < 1) (nonempty : 0 < n) : position q n < n := by
  have positive : (0 : ℚ) < n := Nat.cast_pos.mpr nonempty
  rw [position, Nat.floor_lt' nonempty.ne']
  exact (mul_lt_mul_of_pos_left proper positive).trans_eq (mul_one _)

theorem position_mono (ordered : q ≤ r) (n : Nat) : position q n ≤ position r n :=
  Nat.floor_mono (mul_le_mul_of_nonneg_left ordered (Nat.cast_nonneg n))

/-- The sorted samples have a quantile at its position. -/
theorem isQuantile_position {α : Type u} [LinearOrder α] {sorted : List α}
    (isSorted : sorted.SortedLE) (nonneg : 0 ≤ q)
    (inside : position q sorted.length < sorted.length) :
    IsQuantile q sorted sorted[position q sorted.length] where
  below := by
    have next : sorted.length * q < (position q sorted.length + 1 : Nat) := by
      rw [Nat.cast_succ]
      exact Nat.lt_floor_add_one _
    rw [mul_comm]
    exact next.le.trans (Nat.cast_le.mpr (succ_le_countP isSorted inside))
  above := by
    have truncated : (position q sorted.length : ℚ) ≤ sorted.length * q :=
      Nat.floor_le (mul_nonneg (Nat.cast_nonneg _) nonneg)
    have rest : ((sorted.length - position q sorted.length : Nat) : ℚ) ≤
        sorted.countP (sorted[position q sorted.length] ≤ ·) :=
      Nat.cast_le.mpr (length_sub_le_countP isSorted inside)
    rw [Nat.cast_sub inside.le] at rest
    rw [one_sub_mul, mul_comm]
    exact (sub_le_sub_left truncated _).trans rest

/-! ## Means -/

section Mean

variable {K : Type u} [Field K] [LinearOrder K] [IsStrictOrderedRing K]

/-- The arithmetic mean. -/
def mean (samples : List K) : K := samples.sum / samples.length

variable {samples : List K} {bound : K}

omit [LinearOrder K] [IsStrictOrderedRing K] in
theorem mean_perm {other : List K} (sameSamples : other.Perm samples) :
    mean other = mean samples := by
  rw [mean, mean, sameSamples.sum_eq, sameSamples.length_eq]

theorem le_mean (nonempty : samples ≠ []) (above : ∀ sample ∈ samples, bound ≤ sample) :
    bound ≤ mean samples := by
  have positive : (0 : K) < samples.length := Nat.cast_pos.mpr (List.length_pos_of_ne_nil nonempty)
  rw [mean, le_div_iff₀ positive, mul_comm, ← nsmul_eq_mul]
  exact List.card_nsmul_le_sum samples bound above

theorem mean_le (nonempty : samples ≠ []) (below : ∀ sample ∈ samples, sample ≤ bound) :
    mean samples ≤ bound := by
  have positive : (0 : K) < samples.length := Nat.cast_pos.mpr (List.length_pos_of_ne_nil nonempty)
  rw [mean, div_le_iff₀ positive, mul_comm, ← nsmul_eq_mul]
  exact List.sum_le_card_nsmul samples bound below

end Mean

end Quantile
