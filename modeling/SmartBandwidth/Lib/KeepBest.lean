import Mathlib.Data.List.Induction
import Mathlib.Order.Lattice

/-!
# Scans for a greatest item

A scan keeps an item until a later one beats it.  When items beat each other by a greater key,
the scan ends with the first item of the greatest key.
-/

universe u v

namespace KeepBest

variable {α : Type u} {K : Type v} [LinearOrder K]

/-- The item a scan over some items ends with. -/
def keep (beats : α → α → Bool) (current : α) (items : List α) : α :=
  items.foldl (fun current item => if beats item current then item else current) current

/-- An item has the greatest key of a list, and it is the first to have it. -/
structure FirstGreatest (key : α → K) (items : List α) (best : α) : Prop where
  split : ∃ before after, items = before ++ best :: after ∧
    (∀ item ∈ before, key item < key best) ∧ ∀ item ∈ after, key item ≤ key best

namespace FirstGreatest

variable {key : α → K} {items : List α} {best : α}

theorem member (first : FirstGreatest key items best) : best ∈ items := by
  obtain ⟨before, after, rfl, _, _⟩ := first
  exact List.mem_append_right before List.mem_cons_self

theorem greatest (first : FirstGreatest key items best) {item : α} (member : item ∈ items) :
    key item ≤ key best := by
  obtain ⟨before, after, rfl, smaller, later⟩ := first
  rcases List.mem_append.mp member with earlier | member
  · exact (smaller item earlier).le
  · rcases List.mem_cons.mp member with rfl | member
    · exact le_rfl
    · exact later item member

/-- In a list that some order sorts, the other items of the greatest key come later. -/
theorem before_equal (first : FirstGreatest key items best) {order : α → α → Prop}
    (sorted : items.Pairwise order) {item : α} (member : item ∈ items)
    (equal : key item = key best) : item = best ∨ order best item := by
  obtain ⟨before, after, rfl, smaller, _⟩ := first
  rcases List.mem_append.mp member with earlier | member
  · exact absurd equal (smaller item earlier).ne
  · rcases List.mem_cons.mp member with same | member
    · exact .inl same
    · exact .inr ((List.pairwise_cons.mp (List.pairwise_append.mp sorted).2.1).1 item member)

end FirstGreatest

theorem keep_firstGreatest {key : α → K} {beats : α → α → Bool}
    (agrees : ∀ item current, beats item current = true ↔ key current < key item)
    (current : α) (items : List α) :
    FirstGreatest key (current :: items) (keep beats current items) := by
  induction items using List.reverseRecOn with
  | nil => exact ⟨[], [], rfl, nofun, nofun⟩
  | append_singleton items item ih =>
      rw [keep, List.foldl_append, List.foldl_cons, List.foldl_nil]
      rw [keep] at ih
      split
      next better =>
        refine ⟨current :: items, [], rfl, ?_, nofun⟩
        intro other member
        exact (ih.greatest member).trans_lt ((agrees _ _).mp better)
      next worse =>
        obtain ⟨before, after, split, smaller, later⟩ := ih
        refine ⟨before, after ++ [item], ?_, smaller, ?_⟩
        · rw [← List.cons_append, split, List.append_assoc, List.cons_append]
        · rw [List.forall_mem_append, List.forall_mem_singleton]
          exact ⟨later, not_lt.mp fun better => worse ((agrees _ _).mpr better)⟩

end KeepBest
