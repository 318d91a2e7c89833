import SmartBandwidth.Lib.Heap

/-!
# Heaps under a change of items

The heap algorithms look at items only by comparing keys.  A map between items that keeps
the strict order of the keys therefore commutes with each of them, slot by slot.
-/

namespace HeapQ

universe u v u' v'

variable {α : Type u} {κ : Type v} {β : Type u'} {κ' : Type v'}
variable [LinearOrder κ] [LinearOrder κ'] {key : α → κ} {key' : β → κ'} {image : α → β}

/-- The map keeps the strict order of the keys. -/
def KeepsOrder (key : α → κ) (key' : β → κ') (image : α → β) : Prop :=
  ∀ left right, key' (image left) < key' (image right) ↔ key left < key right

theorem KeepsOrder.keyAt_lt_iff (keeps : KeepsOrder key key' image) (items : List α)
    (left right : Nat) :
    keyAt key' (items.map image) left < keyAt key' (items.map image) right ↔
      keyAt key items left < keyAt key items right := by
  simp only [keyAt, List.getElem?_map]
  cases items[left]? with
  | none => simp
  | some leftItem =>
      cases items[right]? with
      | none => simp
      | some rightItem => simpa using keeps leftItem rightItem

omit [LinearOrder κ] [LinearOrder κ'] in
theorem swap_map (image : α → β) (items : List α) (left right : Nat) :
    swap (items.map image) left right = (swap items left right).map image := by
  simp only [swap, List.getElem?_map]
  cases items[left]? with
  | none => rfl
  | some leftItem =>
      cases items[right]? with
      | none => rfl
      | some rightItem => simp [List.map_set]

theorem KeepsOrder.siftdownLoop_map (keeps : KeepsOrder key key' image) (start fuel : Nat)
    (items : List α) (slot : Nat) :
    siftdownLoop key' start fuel (items.map image) slot =
      (siftdownLoop key start fuel items slot).map image := by
  induction fuel generalizing items slot with
  | zero => rfl
  | succ fuel ih =>
      simp only [siftdownLoop, keeps.keyAt_lt_iff, swap_map, ih]
      split <;> rfl

theorem KeepsOrder.smallerChild_map (keeps : KeepsOrder key key' image) (items : List α)
    (slot : Nat) : smallerChild key' (items.map image) slot = smallerChild key items slot := by
  simp only [smallerChild, keeps.keyAt_lt_iff, List.length_map]

theorem KeepsOrder.siftupLoop_map (keeps : KeepsOrder key key' image) (fuel : Nat)
    (items : List α) (slot : Nat) :
    siftupLoop key' fuel (items.map image) slot =
      ((siftupLoop key fuel items slot).1.map image, (siftupLoop key fuel items slot).2) := by
  induction fuel generalizing items slot with
  | zero => rfl
  | succ fuel ih =>
      simp only [siftupLoop, List.length_map, keeps.smallerChild_map, swap_map, ih]
      split <;> rfl

theorem KeepsOrder.siftup_map (keeps : KeepsOrder key key' image) (items : List α)
    (slot : Nat) :
    siftup key' (items.map image) slot = (siftup key items slot).map image := by
  simp only [siftup, List.length_map, keeps.siftupLoop_map, siftdown, keeps.siftdownLoop_map]

theorem KeepsOrder.heapify_map (keeps : KeepsOrder key key' image) (items : List α) :
    heapify key' (items.map image) = (heapify key items).map image := by
  simp only [heapify, List.length_map]
  generalize (List.range (items.length / 2)).reverse = slots
  induction slots generalizing items with
  | nil => rfl
  | cons slot slots ih =>
      simp only [List.foldl_cons, keeps.siftup_map]
      exact ih (siftup key items slot)

theorem KeepsOrder.heappush_map (keeps : KeepsOrder key key' image) (items : List α)
    (item : α) :
    heappush key' (items.map image) (image item) = (heappush key items item).map image := by
  rw [heappush, heappush, siftdown, siftdown, ← keeps.siftdownLoop_map, List.map_append,
    List.length_map]
  rfl

theorem KeepsOrder.heappop_map (keeps : KeepsOrder key key' image) (items : List α) :
    heappop key' (items.map image) =
      (heappop key items).map fun popped => (image popped.1, popped.2.map image) := by
  simp only [heappop, List.getLast?_map, ← List.map_dropLast]
  cases items.getLast? with
  | none => rfl
  | some last =>
      cases items.dropLast with
      | nil => rfl
      | cons root rest =>
          simp only [Option.map_some, List.map_cons]
          rw [← List.map_cons, keeps.siftup_map]

end HeapQ
