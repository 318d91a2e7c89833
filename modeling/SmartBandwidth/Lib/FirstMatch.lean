import Mathlib.Data.List.Basic

/-!
# First-match rule tables

A rule table is read top to bottom and the first rule that accepts decides.  The
evaluators return the accepted rule together with its position, so that two tables
built from the same rows can be compared.
-/

namespace FirstMatch

universe u v w

variable {ρ : Type u} {ε : Type v}

/-- The first accepted rule and its position. -/
def firstMatch (accepts : ρ → Bool) : List ρ → Option (Nat × ρ)
  | [] => none
  | rule :: rest =>
      if accepts rule then
        some (0, rule)
      else
        (firstMatch accepts rest).map fun found => (found.1 + 1, found.2)

/-- The same search with an acceptance test that may raise. -/
def firstMatchM (accepts : ρ → Except ε Bool) : List ρ → Except ε (Option (Nat × ρ))
  | [] => .ok none
  | rule :: rest =>
      match accepts rule with
      | .error raised => .error raised
      | .ok true => .ok (some (0, rule))
      | .ok false =>
          match firstMatchM accepts rest with
          | .error raised => .error raised
          | .ok found => .ok (found.map fun found => (found.1 + 1, found.2))

/-- Searching a table of converted rows is searching the rows. -/
theorem firstMatchM_map {ρ' : Type w} {convert : ρ → ρ'} {accepts : ρ' → Except ε Bool}
    (rules : List ρ) :
    firstMatchM accepts (rules.map convert) =
      (firstMatchM (fun rule => accepts (convert rule)) rules).map
        fun found => found.map fun found => (found.1, convert found.2) := by
  induction rules with
  | nil => rfl
  | cons rule rest ih =>
      simp only [List.map_cons, firstMatchM, ih]
      cases accepts (convert rule) with
      | error raised => rfl
      | ok accepted =>
          cases accepted with
          | true => rfl
          | false =>
              cases firstMatchM (fun rule => accepts (convert rule)) rest with
              | error raised => rfl
              | ok found => cases found <;> rfl

/-- Searching a table of converted rows with a test that never raises is searching the
rows with its Boolean reading. -/
theorem firstMatchM_map_ok {ρ' : Type w} {convert : ρ → ρ'} {accepts : ρ' → Except ε Bool}
    {test : ρ → Bool} (total : ∀ rule, accepts (convert rule) = .ok (test rule))
    (rules : List ρ) :
    firstMatchM accepts (rules.map convert) =
      .ok ((firstMatch test rules).map fun found => (found.1, convert found.2)) := by
  induction rules with
  | nil => rfl
  | cons rule rest ih =>
      cases accepted : test rule with
      | true => simp [firstMatchM, firstMatch, total, accepted]
      | false =>
          simp only [List.map_cons, firstMatchM, firstMatch, total, accepted, ih]
          simp [Function.comp_def]

/-- A search of a converted table. -/
theorem firstMatch_map {ρ' : Type w} {convert : ρ → ρ'} {accepts : ρ' → Bool} {test : ρ → Bool}
    (same : ∀ rule, accepts (convert rule) = test rule) (rules : List ρ) :
    firstMatch accepts (rules.map convert) =
      (firstMatch test rules).map fun found => (found.1, convert found.2) := by
  induction rules with
  | nil => rfl
  | cons rule rest ih =>
      rw [List.map_cons, firstMatch, firstMatch, same, ih]
      split
      next => rfl
      next => rw [Option.map_map, Option.map_map]; rfl

/-- The accepted rule stands at its position and is accepted. -/
theorem firstMatch_spec {accepts : ρ → Bool} {rules : List ρ} {index : Nat} {rule : ρ}
    (found : firstMatch accepts rules = some (index, rule)) :
    rules[index]? = some rule ∧ accepts rule = true := by
  induction rules generalizing index with
  | nil => cases found
  | cons head rest ih =>
      simp only [firstMatch] at found
      split at found
      next accepted =>
        cases found
        exact ⟨rfl, accepted⟩
      next =>
        obtain ⟨⟨later, same⟩, laterFound, equal⟩ := Option.map_eq_some_iff.mp found
        cases equal
        exact ih laterFound

/-- Two searches of one table that agree on the converted rows agree on the rows: the
position already determines the rule. -/
theorem map_firstMatch_eq_iff {ρ' : Type w} (convert : ρ → ρ') {left right : ρ → Bool}
    {rules : List ρ} :
    (firstMatch left rules).map (fun found => (found.1, convert found.2)) =
        (firstMatch right rules).map (fun found => (found.1, convert found.2)) ↔
      firstMatch left rules = firstMatch right rules := by
  constructor
  · intro converted
    cases leftFound : firstMatch left rules with
    | none =>
        rw [leftFound, Option.map_none, eq_comm, Option.map_eq_none_iff] at converted
        exact converted.symm
    | some found =>
        rw [leftFound, Option.map_some, eq_comm, Option.map_eq_some_iff] at converted
        obtain ⟨other, rightFound, equal⟩ := converted
        have position : other.1 = found.1 := (Prod.mk.inj equal).1
        have leftRule := (firstMatch_spec leftFound).1
        have rightRule := (firstMatch_spec rightFound).1
        rw [position, leftRule, Option.some.injEq] at rightRule
        rw [rightFound]
        exact congrArg some (Prod.ext position.symm rightRule)
  · exact congrArg _

/-- A stricter test picks the same rule exactly when it accepts the rule the weaker
test picks. -/
theorem firstMatch_eq_iff {accepts strict : ρ → Bool}
    (implies : ∀ rule, strict rule = true → accepts rule = true) (rules : List ρ) :
    firstMatch strict rules = firstMatch accepts rules ↔
      ∀ index rule, firstMatch accepts rules = some (index, rule) → strict rule = true := by
  constructor
  · intro equal index rule found
    exact (firstMatch_spec (equal.trans found)).2
  · intro passes
    induction rules with
    | nil => rfl
    | cons rule rest ih =>
        by_cases accepted : accepts rule = true
        · have strictly := passes 0 rule (by simp [firstMatch, accepted])
          simp [firstMatch, accepted, strictly]
        · have refused : ¬ strict rule = true := fun taken => accepted (implies rule taken)
          simp only [firstMatch, accepted, refused]
          rw [ih]
          intro index other found
          exact passes (index + 1) other (by simp [firstMatch, accepted, found])

end FirstMatch
