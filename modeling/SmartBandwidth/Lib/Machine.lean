import Mathlib.Data.List.Basic

/-!
# Runs of deterministic machines

A machine answers each input with an output and a next state.  This module
collects what a whole run inherits from one step: invariants, and the agreement of
two machines whose steps are related.
-/

namespace Machine

universe u v w

variable {σ : Type u} {ι : Type v} {ο : Type w}

/-- The outputs and the final state of a run over a list of inputs. -/
def run (step : σ → ι → ο × σ) (state : σ) : List ι → List ο × σ
  | [] => ([], state)
  | input :: rest =>
      let (output, next) := step state input
      let (outputs, final) := run step next rest
      (output :: outputs, final)

variable (step : σ → ι → ο × σ)

@[simp] theorem run_nil (state : σ) : run step state [] = ([], state) := rfl

@[simp] theorem run_cons (state : σ) (input : ι) (rest : List ι) :
    run step state (input :: rest) =
      ((step state input).1 :: (run step (step state input).2 rest).1,
        (run step (step state input).2 rest).2) := rfl

theorem run_append (state : σ) (first second : List ι) :
    run step state (first ++ second) =
      ((run step state first).1 ++ (run step (run step state first).2 second).1,
        (run step (run step state first).2 second).2) := by
  induction first generalizing state with
  | nil => rfl
  | cons input first ih => simp [ih]

/-- The final state of a run extended by one input. -/
theorem run_snoc_final (state : σ) (inputs : List ι) (input : ι) :
    (run step state (inputs ++ [input])).2 =
      (step (run step state inputs).2 input).2 := by
  simp [run_append]

variable {step}

/-- A property kept by every step holds in the final state of every run. -/
theorem run_invariant {property : σ → Prop}
    (kept : ∀ state input, property state → property (step state input).2)
    {state : σ} (initial : property state) (inputs : List ι) :
    property (run step state inputs).2 := by
  induction inputs generalizing state with
  | nil => exact initial
  | cons input rest ih => exact ih (kept state input initial)

/-- A property kept by every step on the inputs of a list holds after the run over it. -/
theorem run_invariant_of_mem {property : σ → Prop} {inputs : List ι}
    (kept : ∀ state, ∀ input ∈ inputs, property state → property (step state input).2)
    {state : σ} (initial : property state) : property (run step state inputs).2 := by
  induction inputs generalizing state with
  | nil => exact initial
  | cons input rest ih =>
      exact ih (fun state other member => kept state other (List.mem_cons_of_mem input member))
        (kept state input List.mem_cons_self initial)

/-- Where every state with a property gives good outputs and keeps the property, all outputs of a
run are good. -/
theorem run_outputs {property : σ → Prop} {good : ο → Prop}
    (answers : ∀ state input, property state → good (step state input).1)
    (kept : ∀ state input, property state → property (step state input).2)
    {state : σ} (initial : property state) (inputs : List ι) :
    ∀ output ∈ (run step state inputs).1, good output := by
  induction inputs generalizing state with
  | nil => simp
  | cons input rest ih =>
      rw [run_cons, List.forall_mem_cons]
      exact ⟨answers state input initial, ih (kept state input initial)⟩

/-- Two machines whose related states answer alike and stay related give the same
outputs on every run, and end in related states. -/
theorem run_simulation {σ' : Type*} {step' : σ' → ι → ο × σ'}
    {related : σ → σ' → Prop}
    (agrees : ∀ state state' input, related state state' →
      (step state input).1 = (step' state' input).1 ∧
        related (step state input).2 (step' state' input).2)
    {state : σ} {state' : σ'} (initial : related state state') (inputs : List ι) :
    (run step state inputs).1 = (run step' state' inputs).1 ∧
      related (run step state inputs).2 (run step' state' inputs).2 := by
  induction inputs generalizing state state' with
  | nil => exact ⟨rfl, initial⟩
  | cons input rest ih =>
      obtain ⟨outputEq, next⟩ := agrees state state' input initial
      obtain ⟨outputsEq, final⟩ := ih next
      exact ⟨by simp [outputEq, outputsEq], final⟩

/-- One machine follows another at the inputs that are visible to it: the others show nothing and
keep the states related, and at the visible ones both show the same. -/
theorem run_stuttering {σ' : Type*} {ι' : Type*} {ο' : Type*} {seen : Type*}
    {step' : σ' → ι' → ο' × σ'} (related : σ → σ' → Prop) (visible : ι → Option ι')
    (shown : ο → Option seen) (shown' : ο' → seen) {inputs : List ι}
    (silent : ∀ state state' input, input ∈ inputs → related state state' →
      visible input = none →
      shown (step state input).1 = none ∧ related (step state input).2 state')
    (follows : ∀ state state' input input', input ∈ inputs → related state state' →
      visible input = some input' →
      shown (step state input).1 = some (shown' (step' state' input').1) ∧
        related (step state input).2 (step' state' input').2)
    {state : σ} {state' : σ'} (initial : related state state') :
    (run step state inputs).1.filterMap shown =
        (run step' state' (inputs.filterMap visible)).1.map shown' ∧
      related (run step state inputs).2 (run step' state' (inputs.filterMap visible)).2 := by
  induction inputs generalizing state state' with
  | nil => exact ⟨rfl, initial⟩
  | cons input rest ih =>
      replace ih := @ih
        (fun state state' other member =>
          silent state state' other (List.mem_cons_of_mem input member))
        (fun state state' other other' member =>
          follows state state' other other' (List.mem_cons_of_mem input member))
      cases visibleEq : visible input with
      | none =>
          obtain ⟨hidden, next⟩ := silent state state' input List.mem_cons_self initial visibleEq
          rw [run_cons, List.filterMap_cons_none hidden, List.filterMap_cons_none visibleEq]
          exact ih next
      | some input' =>
          obtain ⟨showsEq, next⟩ :=
            follows state state' input input' List.mem_cons_self initial visibleEq
          obtain ⟨restEq, final⟩ := ih next
          rw [run_cons, List.filterMap_cons_some showsEq, List.filterMap_cons_some visibleEq]
          exact ⟨congrArg _ restEq, final⟩

end Machine
