import Mathlib.Data.List.Basic

/-!
# Replays of partial machines

A partial machine performs an action only in the states that enable it.  A replay is a
list of actions each of which was enabled in its turn; interleavings of concurrent
activities are replays of the machine that holds all of them.
-/

universe u v

variable {σ : Type u} {α : Type v}

/-- The state after a list of actions, if each is enabled in its turn. -/
def replay (perform : σ → α → Option σ) (state : σ) : List α → Option σ
  | [] => some state
  | action :: rest => (perform state action).bind fun next => replay perform next rest

namespace replay

variable {perform : σ → α → Option σ}

@[simp] theorem nil (state : σ) : replay perform state [] = some state := rfl

theorem cons_eq_some {state final : σ} {action : α} {rest : List α} :
    replay perform state (action :: rest) = some final ↔
      ∃ next, perform state action = some next ∧ replay perform next rest = some final :=
  Option.bind_eq_some_iff

theorem append_eq_some {state final : σ} {first second : List α} :
    replay perform state (first ++ second) = some final ↔
      ∃ middle, replay perform state first = some middle ∧
        replay perform middle second = some final := by
  induction first generalizing state with
  | nil => simp
  | cons action first ih =>
      simp only [List.cons_append, cons_eq_some, ih]
      constructor
      · rintro ⟨next, performs, middle, reaches, finishes⟩
        exact ⟨middle, ⟨next, performs, reaches⟩, finishes⟩
      · rintro ⟨middle, ⟨next, performs, reaches⟩, finishes⟩
        exact ⟨next, performs, middle, reaches, finishes⟩

theorem singleton_eq_some {state final : σ} {action : α} :
    replay perform state [action] = some final ↔ perform state action = some final := by
  simp [replay]

/-- A property of the past and the state that every action extends holds after every
replay. -/
theorem invariant {property : List α → σ → Prop}
    (kept : ∀ past state action next, property past state →
      perform state action = some next → property (past ++ [action]) next)
    {start final : σ} {past actions : List α} (initial : property past start)
    (replays : replay perform start actions = some final) :
    property (past ++ actions) final := by
  induction actions generalizing past start with
  | nil =>
      cases replays
      simpa using initial
  | cons action rest ih =>
      obtain ⟨next, performs, finishes⟩ := cons_eq_some.mp replays
      have extended := ih (kept past start action next initial performs) finishes
      rwa [List.append_assoc, List.singleton_append] at extended

/-- A property of the state that every action keeps holds after every replay. -/
theorem preserves {property : σ → Prop}
    (kept : ∀ state action next, property state → perform state action = some next →
      property next)
    {start final : σ} {actions : List α} (initial : property start)
    (replays : replay perform start actions = some final) : property final := by
  have keptAfter : ∀ (_ : List α) (state : σ) (action : α) (next : σ), property state →
      perform state action = some next → property next :=
    fun _ => kept
  exact @invariant σ α perform (fun _ => property) keptAfter start final [] actions initial
    replays

/-- Where a property enables every action and every action keeps it, every list of actions has
a replay. -/
theorem exists_of_enabled {property : σ → Prop}
    (enabled : ∀ state action, property state →
      ∃ next, perform state action = some next ∧ property next)
    {start : σ} (initial : property start) (actions : List α) :
    ∃ final, replay perform start actions = some final ∧ property final := by
  induction actions generalizing start with
  | nil => exact ⟨start, rfl, initial⟩
  | cons action rest ih =>
      obtain ⟨next, performs, kept⟩ := enabled start action initial
      obtain ⟨final, replays, holds⟩ := ih kept
      exact ⟨final, cons_eq_some.mpr ⟨next, performs, replays⟩, holds⟩

/-- Every action of a list meets a condition in the state in which it is performed. -/
def Meets (perform : σ → α → Option σ) (condition : σ → α → Prop) (state : σ) :
    List α → Prop
  | [] => True
  | action :: rest => condition state action ∧
      ∀ next, perform state action = some next → Meets perform condition next rest

instance Meets.decidable {condition : σ → α → Prop}
    [∀ state action, Decidable (condition state action)] :
    ∀ (state : σ) (actions : List α), Decidable (Meets perform condition state actions)
  | _, [] => inferInstanceAs (Decidable True)
  | state, action :: rest =>
      have : ∀ next, Decidable (Meets perform condition next rest) :=
        fun next => Meets.decidable next rest
      inferInstanceAs (Decidable (condition state action ∧
        ∀ next ∈ perform state action, Meets perform condition next rest))

/-- A condition on the actions alone is met where each of them meets it. -/
theorem Meets.of_forall {condition : α → Prop} {actions : List α}
    (every : ∀ action ∈ actions, condition action) (state : σ) :
    Meets perform (fun _ => condition) state actions := by
  induction actions generalizing state with
  | nil => exact trivial
  | cons action rest ih =>
      rw [List.forall_mem_cons] at every
      exact ⟨every.1, fun next _ => ih every.2 next⟩

/-- A property that every action meeting the condition keeps holds after every replay
whose actions all meet it. -/
theorem preserves_meeting {condition : σ → α → Prop} {property : σ → Prop}
    (kept : ∀ state action next, property state → condition state action →
      perform state action = some next → property next)
    {start final : σ} {actions : List α} (initial : property start)
    (meets : Meets perform condition start actions)
    (replays : replay perform start actions = some final) : property final := by
  induction actions generalizing start with
  | nil =>
      cases replays
      exact initial
  | cons action rest ih =>
      obtain ⟨next, performs, finishes⟩ := cons_eq_some.mp replays
      exact ih (kept start action next initial meets.1 performs) (meets.2 next performs) finishes

/-- A property that a step keeps exactly when its action meets a condition holds after a
replay exactly when it held before and all actions meet the condition. -/
theorem property_iff_meets {condition : σ → α → Prop} {property : σ → Prop}
    (exact_step : ∀ state action next, perform state action = some next →
      (property next ↔ property state ∧ condition state action))
    {start final : σ} {actions : List α}
    (replays : replay perform start actions = some final) :
    property final ↔ property start ∧ Meets perform condition start actions := by
  induction actions generalizing start with
  | nil =>
      cases replays
      simp only [Meets, and_true]
  | cons action rest ih =>
      obtain ⟨next, performs, finishes⟩ := cons_eq_some.mp replays
      rw [ih finishes, exact_step start action next performs, Meets, performs, and_assoc]
      simp only [Option.some.injEq, forall_eq']

/-- A part of the state that moves only by the actions it owns has replayed these. -/
theorem component {τ : Type*} {β : Type*} {own : τ → β → Option τ} (view : σ → τ)
    (owned : α → Option β)
    (moves : ∀ state action next step, perform state action = some next →
      owned action = some step → own (view state) step = some (view next))
    (rests : ∀ state action next, perform state action = some next →
      owned action = none → view next = view state)
    {start final : σ} {actions : List α} (replays : replay perform start actions = some final) :
    replay own (view start) (actions.filterMap owned) = some (view final) := by
  induction actions generalizing start with
  | nil =>
      cases replays
      rfl
  | cons action rest ih =>
      obtain ⟨next, performs, finishes⟩ := cons_eq_some.mp replays
      cases owns : owned action with
      | none =>
          rw [List.filterMap_cons_none owns, ← rests start action next performs owns]
          exact ih finishes
      | some step =>
          rw [List.filterMap_cons_some owns, cons_eq_some]
          exact ⟨view next, moves start action next step performs owns, ih finishes⟩

end replay
