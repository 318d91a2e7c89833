import Mathlib.Algebra.BigOperators.Group.Finset.Basic
import Mathlib.Data.Fintype.Basic

/-!
# Logs of samples

Each step of a process executes some of its stages and appends their durations to the logs of
these stages.  The latest samples of all stages then add up to the durations of the step and
to what is left in the logs of the stages that it skipped.
-/

universe u v

namespace SampleLogs

/-- A step: the stages it executes, and how long each takes. -/
structure Step (ι : Type u) (M : Type v) where
  executed : Finset ι
  duration : ι → M

variable {ι : Type u} {M : Type v} [DecidableEq ι]

/-- The logs after a step. -/
def record (logs : ι → List M) (step : Step ι M) : ι → List M := fun stage =>
  if stage ∈ step.executed then logs stage ++ [step.duration stage] else logs stage

/-- The logs after some steps. -/
def recordAll (logs : ι → List M) (steps : List (Step ι M)) : ι → List M :=
  steps.foldl record logs

section Latest

variable [Zero M]

/-- The latest sample of a stage, zero if it has none. -/
def latest (logs : ι → List M) (stage : ι) : M := (logs stage).getLast?.getD 0

variable {logs : ι → List M} {step : Step ι M} {stage : ι}

theorem latest_record_of_mem (executes : stage ∈ step.executed) :
    latest (record logs step) stage = step.duration stage := by
  simp [latest, record, executes]

theorem latest_record_of_not_mem (skips : stage ∉ step.executed) :
    latest (record logs step) stage = latest logs stage := by
  simp [latest, record, skips]

/-- The latest sample of a stage is from the last step that executed it. -/
theorem latest_recordAll (steps : List (Step ι M)) (stage : ι) :
    latest (recordAll logs steps) stage =
      ((steps.reverse.find? (stage ∈ ·.executed)).map (·.duration stage)).getD
        (latest logs stage) := by
  induction steps generalizing logs with
  | nil => rfl
  | cons step rest ih =>
      rw [recordAll, List.foldl_cons, ← recordAll, ih, List.reverse_cons, List.find?_append]
      cases rest.reverse.find? (stage ∈ ·.executed) with
      | some later => rfl
      | none =>
          by_cases executes : stage ∈ step.executed
          · simp [executes, latest_record_of_mem]
          · simp [executes, latest_record_of_not_mem]

end Latest

section Total

variable [Fintype ι] [AddCommGroup M]

/-- The sum of the latest samples. -/
def total (logs : ι → List M) : M := ∑ stage, latest logs stage

/-- The sum of the durations of a step. -/
def Step.total (step : Step ι M) : M := ∑ stage ∈ step.executed, step.duration stage

/-- What the logs of the skipped stages still hold. -/
def stale (logs : ι → List M) (executed : Finset ι) : M := ∑ stage ∈ executedᶜ, latest logs stage

variable {logs : ι → List M}

theorem total_record (step : Step ι M) :
    total (record logs step) = step.total + stale logs step.executed := by
  rw [total, ← Finset.sum_add_sum_compl step.executed]
  congr 1
  · exact Finset.sum_congr rfl fun stage executes => latest_record_of_mem executes
  · refine Finset.sum_congr rfl fun stage skips => ?_
    exact latest_record_of_not_mem (Finset.mem_compl.mp skips)

/-- The latest samples are those of the step where nothing stale is left. -/
theorem total_record_eq_iff (step : Step ι M) :
    total (record logs step) = step.total ↔ stale logs step.executed = 0 := by
  rw [total_record, add_eq_left]

/-- The sums of the latest samples after each step. -/
def totals (logs : ι → List M) : List (Step ι M) → List M
  | [] => []
  | step :: rest => total (record logs step) :: totals (record logs step) rest

theorem length_totals (steps : List (Step ι M)) : (totals logs steps).length = steps.length := by
  induction steps generalizing logs with
  | nil => rfl
  | cons step rest ih => rw [totals, List.length_cons, List.length_cons, ih]

theorem getElem?_totals (steps : List (Step ι M)) (i : Nat) :
    (totals logs steps)[i]? =
      steps[i]?.map fun step => total (record (recordAll logs (steps.take i)) step) := by
  induction steps generalizing logs i with
  | nil => rfl
  | cons step rest ih =>
      cases i with
      | zero => rfl
      | succ i =>
          rw [totals, List.getElem?_cons_succ, ih]
          rfl

/-- The sum after a step is the step's own exactly where nothing stale is left before it. -/
theorem totals_own_iff {steps : List (Step ι M)} {i : Nat} {step : Step ι M}
    (performed : steps[i]? = some step) :
    (totals logs steps)[i]? = some step.total ↔
      stale (recordAll logs (steps.take i)) step.executed = 0 := by
  rw [getElem?_totals, performed, Option.map_some, Option.some.injEq, total_record_eq_iff]

end Total

end SampleLogs
