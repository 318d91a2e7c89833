import Mathlib.Algebra.Ring.Nat
import Mathlib.Data.List.Forall2

/-!
# Lists related item by item

What an operation on each item of a list says of the list of its results.
-/

universe u v

namespace Pairing

variable {α : Type u} {β : Type v} {relates : α → β → Prop} {items : List α} {results : List β}

/-- A list has results when each of its items has one. -/
theorem exists_iff :
    (∃ results, List.Forall₂ relates items results) ↔
      ∀ item ∈ items, ∃ result, relates item result := by
  induction items with
  | nil => exact ⟨fun _ _ member => absurd member List.not_mem_nil, fun _ => ⟨[], .nil⟩⟩
  | cons item rest ih =>
      rw [List.forall_mem_cons, ← ih]
      constructor
      · intro paired
        obtain ⟨_, paired⟩ := paired
        cases paired with
        | cons first later => exact ⟨⟨_, first⟩, ⟨_, later⟩⟩
      · intro each
        obtain ⟨⟨result, first⟩, ⟨results, later⟩⟩ := each
        exact ⟨result :: results, .cons first later⟩

theorem exists_item (paired : List.Forall₂ relates items results) {result : β}
    (member : result ∈ results) : ∃ item ∈ items, relates item result := by
  induction paired with
  | nil => cases member
  | cons first later ih =>
      rcases List.mem_cons.mp member with rfl | inRest
      · exact ⟨_, List.mem_cons_self, first⟩
      · obtain ⟨item, itemMember, related⟩ := ih inRest
        exact ⟨item, List.mem_cons_of_mem _ itemMember, related⟩

theorem exists_result (paired : List.Forall₂ relates items results) {item : α}
    (member : item ∈ items) : ∃ result ∈ results, relates item result :=
  exists_item (List.Forall₂.flip paired) member

/-- Results of results. -/
theorem comp {γ : Type*} {also : β → γ → Prop} {finals : List γ}
    (paired : List.Forall₂ relates items results) (further : List.Forall₂ also results finals) :
    List.Forall₂ (fun item final => ∃ result, relates item result ∧ also result final)
      items finals := by
  induction paired generalizing finals with
  | nil =>
      cases further
      exact .nil
  | cons first _ ih =>
      cases further with
      | cons second later => exact .cons ⟨_, first, second⟩ (ih later)

/-- The first items that meet conditions that agree on related items. -/
theorem find?_rel {meets : α → Bool} {meetsResult : β → Bool}
    (same : ∀ item result, relates item result → meets item = meetsResult result)
    (paired : List.Forall₂ relates items results) :
    Option.Rel relates (items.find? meets) (results.find? meetsResult) := by
  induction paired with
  | nil => exact .none
  | @cons item result _ _ first later ih =>
      rw [List.find?_cons, List.find?_cons, same item result first]
      cases meetsResult result with
      | true => exact .some first
      | false => exact ih

theorem map_rel {γ : Type*} {δ : Type*} {shows : γ → δ → Prop} {ofItem : α → γ} {ofResult : β → δ}
    (keeps : ∀ {item result}, relates item result → shows (ofItem item) (ofResult result))
    {item : Option α} {result : Option β} (related : Option.Rel relates item result) :
    Option.Rel shows (item.map ofItem) (result.map ofResult) := by
  cases related with
  | none => exact .none
  | some related => exact .some (keeps related)

/-- A relation between the results that says the same of the items holds pairwise for both. -/
theorem pairwise_iff {ofResults : β → β → Prop} {ofItems : α → α → Prop}
    (same : ∀ {item result item' result'}, relates item result → relates item' result' →
      (ofResults result result' ↔ ofItems item item'))
    (paired : List.Forall₂ relates items results) :
    results.Pairwise ofResults ↔ items.Pairwise ofItems := by
  induction paired with
  | nil => exact iff_of_true .nil .nil
  | cons first later ih =>
      rw [List.pairwise_cons, List.pairwise_cons, ih]
      apply and_congr_left'
      constructor
      · intro apart item member
        obtain ⟨result, resultMember, related⟩ := exists_result later member
        exact (same first related).mp (apart result resultMember)
      · intro apart result member
        obtain ⟨item, itemMember, related⟩ := exists_item later member
        exact (same first related).mpr (apart item itemMember)

/-- Where no result weighs more than its item, all together do not either, and they weigh the
same only where each does. -/
theorem sum_le_and_eq_iff {ofResult : β → Nat} {ofItem : α → Nat} {keeps : α → Prop}
    (bounds : ∀ item ∈ items, ∀ result, relates item result →
      ofResult result ≤ ofItem item ∧ (ofResult result = ofItem item ↔ keeps item))
    (paired : List.Forall₂ relates items results) :
    (results.map ofResult).sum ≤ (items.map ofItem).sum ∧
      ((results.map ofResult).sum = (items.map ofItem).sum ↔ ∀ item ∈ items, keeps item) := by
  induction paired with
  | nil => simp
  | @cons item result rest others first later ih =>
      rw [List.forall_mem_cons] at bounds
      obtain ⟨below, equal⟩ := bounds.1 result first
      obtain ⟨restBelow, restEqual⟩ := ih bounds.2
      simp only [List.map_cons, List.sum_cons, List.forall_mem_cons]
      rw [← equal, ← restEqual]
      omega

end Pairing
