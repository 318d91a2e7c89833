import SmartBandwidth.Lib.Quantile

/-!
# Latency statistics

The distribution of the latency samples of a benchmark: the smallest, the greatest, their mean,
and three percentiles taken from the sorted samples at truncated positions.
-/

namespace SmartBandwidth

open Quantile

/-- A latency distribution in microseconds. -/
structure LatencyStats where
  minUs : ℚ
  meanUs : ℚ
  p50Us : ℚ
  p95Us : ℚ
  p99Us : ℚ
  maxUs : ℚ
  sampleCount : Nat
  deriving DecidableEq, Repr

namespace LatencyStats

/-- `from_samples`; none is an `IndexError`. -/
def fromSamples (samplesUs : List ℚ) : Option LatencyStats :=
  if samplesUs.isEmpty then
    some ⟨0, 0, 0, 0, 0, 0, 0⟩
  else do
    let s := samplesUs.insertionSort (· ≤ ·)
    let n := s.length
    let minUs ← s[0]?
    let meanUs := mean s
    let p50Us ← s[position (50 / 100) n]?
    let p95Us ← s[position (95 / 100) n]?
    let p99Us ← s[position (99 / 100) n]?
    let maxUs ← s.getLast?
    some {
      minUs := minUs
      meanUs := meanUs
      p50Us := p50Us
      p95Us := p95Us
      p99Us := p99Us
      maxUs := maxUs
      sampleCount := n }

/-- The figures are those of a distribution. -/
structure Describes (stats : LatencyStats) (samples : List ℚ) : Prop where
  min_isLeast : stats.minUs ∈ samples ∧ ∀ sample ∈ samples, stats.minUs ≤ sample
  max_isGreatest : stats.maxUs ∈ samples ∧ ∀ sample ∈ samples, sample ≤ stats.maxUs
  meanUs_eq : stats.meanUs = mean samples
  sampleCount_eq : stats.sampleCount = samples.length
  min_le_p50 : stats.minUs ≤ stats.p50Us
  p50_le_p95 : stats.p50Us ≤ stats.p95Us
  p95_le_p99 : stats.p95Us ≤ stats.p99Us
  p99_le_max : stats.p99Us ≤ stats.maxUs
  min_le_mean : stats.minUs ≤ stats.meanUs
  mean_le_max : stats.meanUs ≤ stats.maxUs
  p50_isQuantile : IsQuantile (50 / 100) samples stats.p50Us
  p95_isQuantile : IsQuantile (95 / 100) samples stats.p95Us
  p99_isQuantile : IsQuantile (99 / 100) samples stats.p99Us

variable {samples : List ℚ}

/-- On samples the call returns, and the figures are theirs. -/
theorem exists_describes (nonempty : samples ≠ []) :
    ∃ stats, fromSamples samples = some stats ∧ stats.Describes samples := by
  let s := samples.insertionSort (· ≤ ·)
  have sameSamples : s.Perm samples := List.perm_insertionSort _ samples
  have isSorted : s.SortedLE := List.sortedLE_insertionSort
  have positive : 0 < s.length :=
    sameSamples.length_eq.symm ▸ List.length_pos_of_ne_nil nonempty
  have inside50 : position (50 / 100) s.length < s.length :=
    position_lt (by decide +kernel) positive
  have inside95 : position (95 / 100) s.length < s.length :=
    position_lt (by decide +kernel) positive
  have inside99 : position (99 / 100) s.length < s.length :=
    position_lt (by decide +kernel) positive
  have last : s.length - 1 < s.length := Nat.sub_one_lt_of_lt positive
  have least : ∀ sample ∈ samples, s[0] ≤ sample := fun _ member =>
    first_le isSorted positive (sameSamples.mem_iff.mpr member)
  have greatest : ∀ sample ∈ samples, sample ≤ s[s.length - 1] := fun _ member =>
    le_last isSorted last (sameSamples.mem_iff.mpr member)
  refine ⟨{
    minUs := s[0]
    meanUs := mean s
    p50Us := s[position (50 / 100) s.length]
    p95Us := s[position (95 / 100) s.length]
    p99Us := s[position (99 / 100) s.length]
    maxUs := s[s.length - 1]
    sampleCount := s.length }, ?_, ?_⟩
  · rw [fromSamples, if_neg (by simpa using nonempty)]
    simp only [List.getLast?_eq_getElem?]
    rw [List.getElem?_eq_getElem positive, List.getElem?_eq_getElem inside50,
      List.getElem?_eq_getElem inside95, List.getElem?_eq_getElem inside99,
      List.getElem?_eq_getElem last]
    rfl
  · exact {
      min_isLeast := ⟨sameSamples.mem_iff.mp (List.getElem_mem _), least⟩
      max_isGreatest := ⟨sameSamples.mem_iff.mp (List.getElem_mem _), greatest⟩
      meanUs_eq := mean_perm sameSamples
      sampleCount_eq := sameSamples.length_eq
      min_le_p50 := least _ (sameSamples.mem_iff.mp (List.getElem_mem _))
      p50_le_p95 := isSorted.getElem_le_getElem_of_le (position_mono (by decide +kernel) _)
      p95_le_p99 := isSorted.getElem_le_getElem_of_le (position_mono (by decide +kernel) _)
      p99_le_max := greatest _ (sameSamples.mem_iff.mp (List.getElem_mem _))
      min_le_mean := (le_mean nonempty least).trans_eq (mean_perm sameSamples).symm
      mean_le_max := (mean_perm sameSamples).trans_le (mean_le nonempty greatest)
      p50_isQuantile := (isQuantile_position isSorted (by decide +kernel) inside50).perm
        sameSamples
      p95_isQuantile := (isQuantile_position isSorted (by decide +kernel) inside95).perm
        sameSamples
      p99_isQuantile := (isQuantile_position isSorted (by decide +kernel) inside99).perm
        sameSamples }

/-- No list of samples makes the call raise. -/
theorem exists_fromSamples (samples : List ℚ) : ∃ stats, fromSamples samples = some stats := by
  cases samples with
  | nil => exact ⟨_, rfl⟩
  | cons sample rest =>
      obtain ⟨stats, returned, _⟩ := exists_describes (List.cons_ne_nil sample rest)
      exact ⟨stats, returned⟩

theorem sampleCount_of_fromSamples {stats : LatencyStats}
    (returned : fromSamples samples = some stats) : stats.sampleCount = samples.length := by
  cases samples with
  | nil =>
      cases returned
      rfl
  | cons sample rest =>
      obtain ⟨_, again, describes⟩ := exists_describes (List.cons_ne_nil sample rest)
      rw [returned] at again
      cases again
      exact describes.sampleCount_eq

/-- The result does not depend on the order of the samples. -/
theorem fromSamples_eq_of_perm {other : List ℚ} (sameSamples : other.Perm samples) :
    fromSamples other = fromSamples samples := by
  rw [fromSamples, fromSamples, sorted_eq sameSamples, sameSamples.isEmpty_eq]

/-- On samples in any order the call stays inside the list and returns the same figures: they
are ordered, enclose the mean, and the percentiles are quantiles. -/
theorem fromSamples_quantiles (samples : List ℚ) (nonempty : samples ≠ []) :
    ∃ stats, (∀ other : List ℚ, other.Perm samples → fromSamples other = some stats) ∧
      stats.Describes samples := by
  obtain ⟨stats, returned, describes⟩ := exists_describes nonempty
  refine ⟨stats, ?_, describes⟩
  intro other sameSamples
  rw [fromSamples_eq_of_perm sameSamples, returned]

/-- With two samples the median and all above it are the greater one. -/
theorem fromSamples_quantiles_two :
    (∀ other : List ℚ, other.Perm [3, 1] → fromSamples other = some ⟨1, 2, 3, 3, 3, 3, 2⟩) ∧
      Describes ⟨1, 2, 3, 3, 3, 3, 2⟩ [3, 1] := by
  obtain ⟨stats, returned, describes⟩ := fromSamples_quantiles [3, 1] (by simp)
  have evaluated : fromSamples [3, 1] = some ⟨1, 2, 3, 3, 3, 3, 2⟩ := by decide +kernel
  cases (returned _ (.refl _)).symm.trans evaluated
  exact ⟨returned, describes⟩

end LatencyStats

end SmartBandwidth
