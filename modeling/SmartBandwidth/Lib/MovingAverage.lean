import Mathlib.Algebra.Order.Field.Basic
import Mathlib.Data.List.Induction
import Mathlib.Tactic.Linarith

/-!
# Exponential moving averages

The average of a list of samples weighs each new sample against the average so far.  Zero marks
an average that has not been started, so that an average that comes to zero starts again from
the next sample.  With a weight between 0 and 1 the average lies between two of its samples.
-/

universe u

namespace MovingAverage

variable {K : Type u} [LinearOrder K]

/-- A value has a sample below and a sample above. -/
def Within (samples : List K) (value : K) : Prop :=
  ∃ least ∈ samples, ∃ greatest ∈ samples, least ≤ value ∧ value ≤ greatest

/-- A value lies between the smallest and the largest sample. -/
def Between (samples : List K) (value : K) : Prop :=
  (∀ least ∈ samples.min?, least ≤ value) ∧ ∀ greatest ∈ samples.max?, value ≤ greatest

namespace Within

variable {samples : List K} {value : K}

theorem mono (within : Within samples value) (more : List K) : Within (samples ++ more) value := by
  obtain ⟨least, leastMember, greatest, greatestMember, above, below⟩ := within
  exact ⟨least, List.mem_append_left more leastMember, greatest,
    List.mem_append_left more greatestMember, above, below⟩

theorem self {sample : K} (member : sample ∈ samples) : Within samples sample :=
  ⟨sample, member, sample, member, le_rfl, le_rfl⟩

theorem between (within : Within samples value) : Between samples value := by
  obtain ⟨lower, lowerMember, upper, upperMember, above, below⟩ := within
  constructor
  · intro least smallest
    exact ((List.min?_eq_some_iff.mp smallest).2 lower lowerMember).trans above
  · intro greatest largest
    exact below.trans ((List.max?_eq_some_iff.mp largest).2 upper upperMember)

end Within

variable [Field K]

/-- The average after one more sample. -/
def step (weight average sample : K) : K :=
  if average = 0 then sample else weight * sample + (1 - weight) * average

/-- The average of a list of samples. -/
def average (weight : K) (samples : List K) : K :=
  samples.foldl (step weight) 0

@[simp] theorem average_nil (weight : K) : average weight [] = 0 := rfl

theorem average_snoc (weight : K) (samples : List K) (sample : K) :
    average weight (samples ++ [sample]) = step weight (average weight samples) sample := by
  rw [average, List.foldl_append]
  rfl

variable [IsStrictOrderedRing K]

/-- A weighted mean of two values that lie within the samples does so, too. -/
theorem Within.mean {samples : List K} {value weight other : K} (nonneg : 0 ≤ weight)
    (le_one : weight ≤ 1) (first : Within samples value) (second : Within samples other) :
    Within samples (weight * value + (1 - weight) * other) := by
  have rest : 0 ≤ 1 - weight := sub_nonneg.mpr le_one
  obtain ⟨least, leastMember, greatest, greatestMember, above, below⟩ := first
  obtain ⟨least', leastMember', greatest', greatestMember', above', below'⟩ := second
  refine ⟨min least least', ?_, max greatest greatest', ?_, ?_, ?_⟩
  · rcases min_choice least least' with same | same
    · rwa [same]
    · rwa [same]
  · rcases max_choice greatest greatest' with same | same
    · rwa [same]
    · rwa [same]
  · have lower := mul_le_mul_of_nonneg_left ((min_le_left least least').trans above) nonneg
    have lower' := mul_le_mul_of_nonneg_left ((min_le_right least least').trans above') rest
    linarith
  · have upper := mul_le_mul_of_nonneg_left (below.trans (le_max_left greatest greatest')) nonneg
    have upper' := mul_le_mul_of_nonneg_left (below'.trans (le_max_right greatest greatest')) rest
    linarith

/-- The average lies within its samples, also when it has been started again. -/
theorem average_within {weight : K} (nonneg : 0 ≤ weight) (le_one : weight ≤ 1)
    {samples : List K} (some : samples ≠ []) : Within samples (average weight samples) := by
  induction samples using List.reverseRecOn with
  | nil => exact absurd rfl some
  | append_singleton samples sample ih =>
      have newest : Within (samples ++ [sample]) sample :=
        .self (List.mem_append_right samples List.mem_cons_self)
      rw [average_snoc, step]
      split
      next => exact newest
      next started =>
        have earlier : samples ≠ [] := by
          intro none
          rw [none, average_nil] at started
          exact started rfl
        exact newest.mean nonneg le_one ((ih earlier).mono [sample])

theorem average_between {weight : K} (nonneg : 0 ≤ weight) (le_one : weight ≤ 1)
    (samples : List K) : Between samples (average weight samples) := by
  by_cases none : samples = []
  · rw [none]
    exact ⟨nofun, nofun⟩
  · exact (average_within nonneg le_one none).between

end MovingAverage
