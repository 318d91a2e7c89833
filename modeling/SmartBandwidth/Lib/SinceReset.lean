import SmartBandwidth.Lib.Machine
import Mathlib.Algebra.BigOperators.Group.List.Basic
import Mathlib.Algebra.Ring.Nat
import Mathlib.Data.List.DropRight

/-!
# Counters read off the outputs

Some inputs of a machine reset its counters.  A counter that a reset clears, and that any other
step raises by a weight of its output, shows the weights of the outputs since the last reset.
-/

namespace Machine

universe u v w

variable {σ : Type u} {ι : Type v} {ο : Type w}

/-- The outputs of a run after its last resetting input. -/
def sinceReset (resets : ι → Bool) (inputs : List ι) (outputs : List ο) : List ο :=
  ((inputs.zip outputs).rtakeWhile fun entry => !resets entry.1).map Prod.snd

variable (step : σ → ι → ο × σ) (resets : ι → Bool)

theorem run_outputs_length (state : σ) (inputs : List ι) :
    (run step state inputs).1.length = inputs.length := by
  induction inputs generalizing state with
  | nil => rfl
  | cons input rest ih => simp [ih]

/-- One more input either empties the outputs since the last reset or adds its own. -/
theorem sinceReset_snoc (state : σ) (inputs : List ι) (input : ι) :
    sinceReset resets (inputs ++ [input]) (run step state (inputs ++ [input])).1 =
      if resets input then []
      else sinceReset resets inputs (run step state inputs).1 ++
        [(step (run step state inputs).2 input).1] := by
  have lengths := run_outputs_length step state inputs
  have zipped : (inputs ++ [input]).zip (run step state (inputs ++ [input])).1 =
      inputs.zip (run step state inputs).1 ++
        [(input, (step (run step state inputs).2 input).1)] := by
    rw [run_append]
    exact List.zip_append lengths.symm
  rw [sinceReset, zipped, List.rtakeWhile_concat]
  cases resets input with
  | true => rfl
  | false => simp [sinceReset]

variable {step resets}

/-- A counter that is cleared by resets and raised by a weight of every other output shows the
weights since the last reset, in the runs that keep a property. -/
theorem counter_eq_sum {M : Type*} [AddMonoid M] {property : σ → Prop} (shown : σ → M)
    {weight : ο → M}
    (kept : ∀ state input, property state → property (step state input).2)
    (counts : ∀ state input, property state →
      shown (step state input).2 =
        if resets input then 0 else shown state + weight (step state input).1)
    {start : σ} (initial : property start) (fresh : shown start = 0) (inputs : List ι) :
    shown (run step start inputs).2 =
      ((sinceReset resets inputs (run step start inputs).1).map weight).sum := by
  induction inputs using List.reverseRecOn with
  | nil => exact fresh
  | append_singleton inputs input ih =>
      have reached := run_invariant kept initial inputs
      rw [run_snoc_final, counts _ input reached, sinceReset_snoc]
      cases resets input with
      | true => rfl
      | false => simp [ih]

end Machine
