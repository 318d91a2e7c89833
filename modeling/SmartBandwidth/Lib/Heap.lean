import Mathlib.Data.List.Perm.Basic
import Mathlib.Order.WithBot
import Mathlib.Logic.Equiv.Basic
import Mathlib.Tactic.ByContra

/-!
# Array binary heaps

The list algorithms of a standard binary min-heap: an item rises towards the root
(`siftdown`), the hole left at a slot is filled from below until it reaches a leaf
(`siftup`), and `heapify`, `heappush` and `heappop` are assembled from the two.
Items are compared through a key, so items with equal keys stay distinguishable.

The order proofs read a list as a function from slots to keys in which every slot
past the end holds `⊤`.  Heap order then needs no bounds at all, and a swap of two
slots is composition with a transposition.
-/

namespace HeapQ

universe u v

variable {α : Type u} {κ : Type v} {key : α → κ}

/-- The parent slot in a level-order binary tree. -/
def parent (slot : Nat) : Nat := (slot - 1) / 2

theorem parent_lt {slot : Nat} (positive : 0 < slot) : parent slot < slot := by
  unfold parent
  omega

theorem parent_eq_iff {slot above : Nat} (positive : 0 < slot) :
    parent slot = above ↔ slot = 2 * above + 1 ∨ slot = 2 * above + 2 := by
  unfold parent
  omega

/-- The key stored at a slot; slots past the end hold `⊤`. -/
def keyAt (key : α → κ) (items : List α) (slot : Nat) : WithTop κ :=
  match items[slot]? with
  | some item => (key item : WithTop κ)
  | none => ⊤

theorem keyAt_of_length_le {items : List α} {slot : Nat}
    (past : items.length ≤ slot) : keyAt key items slot = ⊤ := by
  simp [keyAt, List.getElem?_eq_none past]

theorem keyAt_of_lt {items : List α} {slot : Nat} (bound : slot < items.length) :
    keyAt key items slot = (key items[slot] : WithTop κ) := by
  simp [keyAt, List.getElem?_eq_getElem bound]

theorem le_keyAt_of_length_le [LinearOrder κ] {items : List α} {slot : Nat}
    (past : items.length ≤ slot) (bound : WithTop κ) :
    bound ≤ keyAt key items slot := by
  rw [keyAt_of_length_le past]
  exact le_top

@[simp] theorem keyAt_cons_succ (item : α) (items : List α) (slot : Nat) :
    keyAt key (item :: items) (slot + 1) = keyAt key items slot := rfl

theorem keyAt_append_left {items : List α} {slot : Nat}
    (bound : slot < items.length) (tail : List α) :
    keyAt key (items ++ tail) slot = keyAt key items slot := by
  simp [keyAt, List.getElem?_append_left bound]

/-- Exchange two slots.  Out-of-range slots leave the list unchanged. -/
def swap (items : List α) (left right : Nat) : List α :=
  match items[left]?, items[right]? with
  | some leftItem, some rightItem => (items.set left rightItem).set right leftItem
  | _, _ => items

@[simp] theorem swap_length (items : List α) (left right : Nat) :
    (swap items left right).length = items.length := by
  unfold swap
  split <;> simp

theorem swap_perm (items : List α) (left right : Nat) :
    (swap items left right).Perm items := by
  unfold swap
  split
  next leftItem rightItem leftEq rightEq =>
    obtain ⟨leftBound, rfl⟩ := List.getElem?_eq_some_iff.mp leftEq
    obtain ⟨rightBound, rfl⟩ := List.getElem?_eq_some_iff.mp rightEq
    exact List.set_set_perm leftBound rightBound
  next => exact List.Perm.refl _

theorem keyAt_swap (key : α → κ) {items : List α} {left right : Nat}
    (leftBound : left < items.length) (rightBound : right < items.length)
    (slot : Nat) :
    keyAt key (swap items left right) slot =
      keyAt key items (Equiv.swap left right slot) := by
  have swapped : swap items left right =
      (items.set left items[right]).set right items[left] := by
    simp [swap, List.getElem?_eq_getElem leftBound,
      List.getElem?_eq_getElem rightBound]
  rw [swapped]
  by_cases atRight : slot = right
  · subst slot
    simp [keyAt, rightBound, leftBound]
  · by_cases atLeft : slot = left
    · subst slot
      simp [keyAt, leftBound, rightBound, List.getElem_set_ne (Ne.symm atRight)]
    · rw [Equiv.swap_apply_of_ne_of_ne atLeft atRight]
      simp [keyAt, List.getElem?_set_ne (Ne.symm atRight),
        List.getElem?_set_ne (Ne.symm atLeft)]

variable [LinearOrder κ]

/-- Rise from `slot` towards `start` while the item is smaller than its parent. -/
def siftdownLoop (key : α → κ) (start : Nat) : Nat → List α → Nat → List α
  | 0, items, _ => items
  | fuel + 1, items, slot =>
      if start < slot ∧ keyAt key items slot < keyAt key items (parent slot) then
        siftdownLoop key start fuel (swap items slot (parent slot)) (parent slot)
      else
        items

/-- `slot` rounds of rising always suffice, since every round decreases the slot. -/
def siftdown (key : α → κ) (items : List α) (start slot : Nat) : List α :=
  siftdownLoop key start slot items slot

/-- The smaller child slot; the right child also on equal keys. -/
def smallerChild (key : α → κ) (items : List α) (slot : Nat) : Nat :=
  let left := 2 * slot + 1
  let right := left + 1
  if right < items.length ∧ ¬ keyAt key items left < keyAt key items right then
    right
  else
    left

/-- Fill the hole at `slot` from below until a leaf is reached. -/
def siftupLoop (key : α → κ) : Nat → List α → Nat → List α × Nat
  | 0, items, slot => (items, slot)
  | fuel + 1, items, slot =>
      if 2 * slot + 1 < items.length then
        let child := smallerChild key items slot
        siftupLoop key fuel (swap items slot child) child
      else
        (items, slot)

/-- Sink the item at `slot` to a leaf, then let it rise back to its place. -/
def siftup (key : α → κ) (items : List α) (slot : Nat) : List α :=
  let (sunk, leaf) := siftupLoop key items.length items slot
  siftdown key sunk slot leaf

/-- Restore heap order bottom-up from the last internal slot. -/
def heapify (key : α → κ) (items : List α) : List α :=
  (List.range (items.length / 2)).reverse.foldl (siftup key) items

/-- Append an item and let it rise. -/
def heappush (key : α → κ) (items : List α) (item : α) : List α :=
  siftdown key (items ++ [item]) 0 items.length

/-- Take the root; the last item moves to the root and sinks. -/
def heappop (key : α → κ) (items : List α) : Option (α × List α) :=
  match items.getLast? with
  | none => none
  | some last =>
      match items.dropLast with
      | [] => some (last, [])
      | root :: rest => some (root, siftup key (last :: rest) 0)

/-! ## Every operation permutes the items -/

theorem siftdownLoop_perm (start fuel : Nat) (items : List α) (slot : Nat) :
    (siftdownLoop key start fuel items slot).Perm items := by
  induction fuel generalizing items slot with
  | zero => exact List.Perm.refl _
  | succ fuel ih =>
      unfold siftdownLoop
      split
      · exact (ih _ _).trans (swap_perm _ _ _)
      · exact List.Perm.refl _

theorem siftdown_perm (items : List α) (start slot : Nat) :
    (siftdown key items start slot).Perm items :=
  siftdownLoop_perm start slot items slot

theorem siftupLoop_perm (fuel : Nat) (items : List α) (slot : Nat) :
    (siftupLoop key fuel items slot).1.Perm items := by
  induction fuel generalizing items slot with
  | zero => exact List.Perm.refl _
  | succ fuel ih =>
      unfold siftupLoop
      split
      · exact (ih _ _).trans (swap_perm _ _ _)
      · exact List.Perm.refl _

theorem siftup_perm (items : List α) (slot : Nat) :
    (siftup key items slot).Perm items :=
  (siftdown_perm _ _ _).trans (siftupLoop_perm _ _ _)

private theorem foldl_siftup_perm (slots : List Nat) (items : List α) :
    (slots.foldl (siftup key) items).Perm items := by
  induction slots generalizing items with
  | nil => exact List.Perm.refl _
  | cons slot slots ih => exact (ih _).trans (siftup_perm _ _)

theorem heapify_perm (items : List α) : (heapify key items).Perm items :=
  foldl_siftup_perm _ _

theorem heappush_perm (items : List α) (item : α) :
    (heappush key items item).Perm (item :: items) :=
  (siftdown_perm _ _ _).trans (List.perm_append_singleton _ _)

theorem heappop_eq_none {items : List α} :
    heappop key items = none ↔ items = [] := by
  unfold heappop
  constructor
  · intro popped
    split at popped
    next isNone => exact List.getLast?_eq_none_iff.mp isNone
    next => split at popped <;> contradiction
  · intro empty
    simp [empty]

/-- What a successful pop does: the only item leaves, or the last item replaces the
root and sinks. -/
theorem heappop_cases {items : List α} {root : α} {rest : List α}
    (popped : heappop key items = some (root, rest)) :
    items = [root] ∧ rest = [] ∨
      ∃ middle last, items = root :: middle ++ [last] ∧
        rest = siftup key (last :: middle) 0 := by
  rw [heappop] at popped
  split at popped
  next => contradiction
  next last lastEq =>
    have whole : items.dropLast ++ [last] = items :=
      List.dropLast_append_getLast? last lastEq
    split at popped
    next front =>
      left
      rw [front] at whole
      cases popped
      exact ⟨whole.symm, rfl⟩
    next first middle front =>
      right
      rw [front] at whole
      cases popped
      exact ⟨middle, last, whole.symm, rfl⟩

theorem heappop_perm {items : List α} {root : α} {rest : List α}
    (popped : heappop key items = some (root, rest)) :
    items.Perm (root :: rest) := by
  rcases heappop_cases popped with ⟨rfl, rfl⟩ | ⟨middle, last, rfl, rfl⟩
  · exact List.Perm.refl _
  · apply List.Perm.cons
    exact (List.perm_append_singleton _ _).trans (siftup_perm _ _).symm

/-! ## Heap order -/

/-- Heap order on every edge whose parent slot is at least `start`. -/
def HeapFrom (key : α → κ) (items : List α) (start : Nat) : Prop :=
  ∀ slot, 0 < slot → start ≤ parent slot →
    keyAt key items (parent slot) ≤ keyAt key items slot

/-- Heap order on every edge. -/
def IsHeap (key : α → κ) (items : List α) : Prop := HeapFrom key items 0

theorem isHeap_nil : IsHeap key [] := by
  intro slot positive above
  exact le_top

/-- The root holds the least key. -/
theorem IsHeap.root_le {items : List α} (ordered : IsHeap key items) (slot : Nat) :
    keyAt key items 0 ≤ keyAt key items slot := by
  induction slot using Nat.strong_induction_on with
  | _ slot ih =>
      cases slot with
      | zero => exact le_rfl
      | succ slot =>
          have positive : 0 < slot + 1 := Nat.succ_pos slot
          exact (ih _ (parent_lt positive)).trans
            (ordered _ positive (Nat.zero_le _))

theorem IsHeap.head_le {root : α} {rest : List α}
    (ordered : IsHeap key (root :: rest)) {item : α}
    (member : item ∈ root :: rest) : key root ≤ key item := by
  obtain ⟨slot, bound, rfl⟩ := List.getElem_of_mem member
  have least := ordered.root_le slot
  rw [keyAt_of_lt bound, keyAt_of_lt (Nat.succ_pos _)] at least
  exact WithTop.coe_le_coe.mp least

/-- Slots of the subtree rooted at `start`. -/
inductive Below (start : Nat) : Nat → Prop where
  | root : Below start start
  | child {slot : Nat} : 0 < slot → Below start (parent slot) → Below start slot

namespace Below

theorem le {start slot : Nat} (below : Below start slot) : start ≤ slot := by
  induction below with
  | root => exact le_rfl
  | child positive _ ih => exact ih.trans (parent_lt positive).le

theorem parent_of_lt {start slot : Nat} (below : Below start slot)
    (strict : start < slot) : Below start (parent slot) := by
  cases below with
  | root => exact absurd strict (lt_irrefl _)
  | child _ below => exact below

theorem zero (slot : Nat) : Below 0 slot := by
  induction slot using Nat.strong_induction_on with
  | _ slot ih =>
      cases slot with
      | zero => exact .root
      | succ slot =>
          exact .child (Nat.succ_pos slot) (ih _ (parent_lt (Nat.succ_pos slot)))

end Below

/-- The only edge that may be out of order is the one entering `slot`, and the
parent of `slot` may be moved down without breaking an edge leaving `slot`. -/
structure RiseReady (key : α → κ) (items : List α) (start slot : Nat) : Prop where
  below : Below start slot
  bound : slot < items.length
  edges : ∀ other, 0 < other → start ≤ parent other → other ≠ slot →
    keyAt key items (parent other) ≤ keyAt key items other
  children : ∀ child, 0 < child → parent child = slot → start < slot →
    keyAt key items (parent slot) ≤ keyAt key items child

/-- The edges that may be out of order enter or leave `slot`, and either child
may be lifted to `slot` without breaking the edge entering it. -/
structure SinkReady (key : α → κ) (items : List α) (start slot : Nat) : Prop where
  below : Below start slot
  bound : slot < items.length
  edges : ∀ other, 0 < other → start ≤ parent other → other ≠ slot →
    parent other ≠ slot →
    keyAt key items (parent other) ≤ keyAt key items other
  children : ∀ child, 0 < child → parent child = slot → start < slot →
    keyAt key items (parent slot) ≤ keyAt key items child

namespace RiseReady

theorem heapFrom_of_le {items : List α} {start slot : Nat}
    (ready : RiseReady key items start slot)
    (ordered : start < slot →
      keyAt key items (parent slot) ≤ keyAt key items slot) :
    HeapFrom key items start := by
  intro other positive above
  by_cases same : other = slot
  · subst other
    exact ordered (above.trans_lt (parent_lt positive))
  · exact ready.edges other positive above same

theorem swap {items : List α} {start slot : Nat}
    (ready : RiseReady key items start slot) (strict : start < slot)
    (smaller : keyAt key items slot < keyAt key items (parent slot)) :
    RiseReady key (HeapQ.swap items slot (parent slot)) start (parent slot) := by
  have positive : 0 < slot := Nat.zero_lt_of_lt strict
  have above := parent_lt positive
  have parentBelow := ready.below.parent_of_lt strict
  have exchanged := keyAt_swap key ready.bound (above.trans ready.bound)
  refine ⟨parentBelow, by simpa using above.trans ready.bound, ?_, ?_⟩
  · intro other otherPos otherAbove different
    rw [exchanged, exchanged, Equiv.swap_apply_def, Equiv.swap_apply_def]
    by_cases atSlot : other = slot
    · subst other
      simpa [above.ne] using smaller.le
    · by_cases fromSlot : parent other = slot
      · simpa [fromSlot, atSlot, different] using
          ready.children other otherPos fromSlot strict
      · by_cases fromParent : parent other = parent slot
        · have edge := ready.edges other otherPos otherAbove atSlot
          rw [fromParent] at edge
          simpa [fromParent, fromSlot, atSlot, different, above.ne] using
            smaller.le.trans edge
        · simpa [fromSlot, fromParent, atSlot, different] using
            ready.edges other otherPos otherAbove atSlot
  · intro child childPos childOf parentStrict
    have parentPos : 0 < parent slot := Nat.zero_lt_of_lt parentStrict
    have grand := parent_lt parentPos
    have grandAbove := (parentBelow.parent_of_lt parentStrict).le
    have edge := ready.edges (parent slot) parentPos grandAbove above.ne
    have childNe : child ≠ parent slot := by
      rintro rfl
      exact absurd childOf (parent_lt childPos).ne
    rw [exchanged, exchanged,
      Equiv.swap_apply_of_ne_of_ne (grand.trans above).ne grand.ne,
      Equiv.swap_apply_def]
    by_cases atSlot : child = slot
    · simpa [atSlot] using edge
    · have lower := ready.edges child childPos
        (by rw [childOf]; exact parentBelow.le) atSlot
      rw [childOf] at lower
      simpa [atSlot, childNe] using edge.trans lower

end RiseReady

theorem siftdownLoop_heapFrom {start fuel : Nat} {items : List α} {slot : Nat}
    (enough : slot ≤ fuel) (ready : RiseReady key items start slot) :
    HeapFrom key (siftdownLoop key start fuel items slot) start := by
  induction fuel generalizing items slot with
  | zero =>
      exact ready.heapFrom_of_le fun strict => absurd strict (by omega)
  | succ fuel ih =>
      unfold siftdownLoop
      split
      next rises =>
        have above := parent_lt (Nat.zero_lt_of_lt rises.1)
        exact ih (by omega) (ready.swap rises.1 rises.2)
      next stays =>
        apply ready.heapFrom_of_le
        intro strict
        exact le_of_not_gt fun smaller => stays ⟨strict, smaller⟩

namespace SinkReady

theorem smallerChild_spec (key : α → κ) {items : List α} {slot : Nat}
    (bound : 2 * slot + 1 < items.length) :
    (smallerChild key items slot = 2 * slot + 1 ∨
        smallerChild key items slot = 2 * slot + 2) ∧
      smallerChild key items slot < items.length ∧
      ∀ child, child = 2 * slot + 1 ∨ child = 2 * slot + 2 →
        keyAt key items (smallerChild key items slot) ≤ keyAt key items child := by
  unfold smallerChild
  dsimp only
  split
  next right =>
    refine ⟨Or.inr rfl, right.1, ?_⟩
    rintro child (rfl | rfl)
    · exact le_of_not_gt right.2
    · exact le_rfl
  next left =>
    refine ⟨Or.inl rfl, bound, ?_⟩
    rintro child (rfl | rfl)
    · exact le_rfl
    · by_cases present : 2 * slot + 1 + 1 < items.length
      · by_contra larger
        exact left ⟨present, fun less => larger less.le⟩
      · exact le_keyAt_of_length_le (by omega) _

theorem swap {items : List α} {start slot : Nat}
    (ready : SinkReady key items start slot)
    (bound : 2 * slot + 1 < items.length) :
    SinkReady key (HeapQ.swap items slot (smallerChild key items slot)) start
      (smallerChild key items slot) := by
  obtain ⟨isChild, childBound, least⟩ := smallerChild_spec key bound
  generalize smallerChild key items slot = chosen at isChild childBound least ⊢
  have chosenPos : 0 < chosen := by omega
  have parentEq : parent chosen = slot := (parent_eq_iff chosenPos).mpr isChild
  have above := parent_lt chosenPos
  rw [parentEq] at above
  have exchanged := keyAt_swap key ready.bound childBound
  refine ⟨.child chosenPos (by rw [parentEq]; exact ready.below),
    by simpa using childBound, ?_, ?_⟩
  · intro other positive otherAbove different fromChosen
    rw [exchanged, exchanged, Equiv.swap_apply_def, Equiv.swap_apply_def]
    by_cases atSlot : other = slot
    · subst other
      have parentNe := (parent_lt positive).ne
      simpa [parentNe, fromChosen] using
        ready.children chosen chosenPos parentEq
          (otherAbove.trans_lt (parent_lt positive))
    · by_cases fromSlot : parent other = slot
      · simpa [fromSlot, atSlot, different] using
          least other ((parent_eq_iff positive).mp fromSlot)
      · simpa [fromSlot, fromChosen, atSlot, different] using
          ready.edges other positive otherAbove atSlot fromSlot
  · intro child childPos childOf _
    have childAbove := parent_lt childPos
    rw [childOf] at childAbove
    rw [exchanged, exchanged, parentEq, Equiv.swap_apply_left,
      Equiv.swap_apply_of_ne_of_ne (above.trans childAbove).ne' childAbove.ne']
    have edge := ready.edges child childPos
      (by rw [childOf]; exact ready.below.le.trans above.le)
      (above.trans childAbove).ne' (by rw [childOf]; exact above.ne')
    rwa [childOf] at edge

theorem riseReady_of_leaf {items : List α} {start slot : Nat}
    (ready : SinkReady key items start slot)
    (leaf : ¬ 2 * slot + 1 < items.length) :
    RiseReady key items start slot := by
  refine ⟨ready.below, ready.bound, ?_, ready.children⟩
  intro other positive above different
  by_cases fromSlot : parent other = slot
  · have isChild := (parent_eq_iff positive).mp fromSlot
    exact le_keyAt_of_length_le (by omega) _
  · exact ready.edges other positive above different fromSlot

end SinkReady

theorem siftupLoop_riseReady {start fuel : Nat} {items : List α} {slot : Nat}
    (enough : items.length ≤ fuel + slot)
    (ready : SinkReady key items start slot) :
    RiseReady key (siftupLoop key fuel items slot).1 start
      (siftupLoop key fuel items slot).2 := by
  induction fuel generalizing items slot with
  | zero => exact absurd ready.bound (by omega)
  | succ fuel ih =>
      unfold siftupLoop
      split
      next bound =>
        obtain ⟨isChild, _, _⟩ := SinkReady.smallerChild_spec key bound
        apply ih
        · rw [swap_length]
          omega
        · exact ready.swap bound
      next leaf => exact ready.riseReady_of_leaf leaf

theorem siftup_heapFrom {items : List α} {slot : Nat} (bound : slot < items.length)
    (ordered : HeapFrom key items (slot + 1)) :
    HeapFrom key (siftup key items slot) slot := by
  have ready : SinkReady key items slot slot := by
    refine ⟨.root, bound, ?_, fun _ _ _ strict => absurd strict (lt_irrefl _)⟩
    intro other positive above _ notRoot
    exact ordered other positive (lt_of_le_of_ne above (Ne.symm notRoot))
  exact siftdownLoop_heapFrom le_rfl (siftupLoop_riseReady (Nat.le_add_right _ _) ready)

private theorem foldl_siftup_heapFrom (count : Nat) (items : List α)
    (bound : count ≤ items.length) (ordered : HeapFrom key items count) :
    IsHeap key ((List.range count).reverse.foldl (siftup key) items) := by
  induction count generalizing items with
  | zero => exact ordered
  | succ count ih =>
      rw [List.range_succ, List.reverse_append]
      simp only [List.reverse_singleton, List.singleton_append, List.foldl_cons]
      apply ih
      · rw [(siftup_perm items count).length_eq]
        omega
      · exact siftup_heapFrom bound ordered

theorem heapify_isHeap (items : List α) : IsHeap key (heapify key items) := by
  apply foldl_siftup_heapFrom _ _ (Nat.div_le_self _ _)
  intro slot positive above
  exact le_keyAt_of_length_le (by unfold parent at above; omega) _

theorem heappush_isHeap {items : List α} (ordered : IsHeap key items) (item : α) :
    IsHeap key (heappush key items item) := by
  apply siftdownLoop_heapFrom le_rfl
  refine ⟨Below.zero _, by simp, ?_, ?_⟩
  · intro other positive above different
    by_cases inside : other < items.length
    · have edge := ordered other positive above
      have parentInside := (parent_lt positive).trans inside
      rwa [keyAt_append_left inside, keyAt_append_left parentInside]
    · exact le_keyAt_of_length_le (by simp; omega) _
  · intro child positive childOf _
    have lower := parent_lt positive
    exact le_keyAt_of_length_le (by simp; omega) _

theorem heappop_isHeap {items : List α} {root : α} {rest : List α}
    (ordered : IsHeap key items) (popped : heappop key items = some (root, rest)) :
    IsHeap key rest := by
  rcases heappop_cases popped with ⟨rfl, rfl⟩ | ⟨middle, last, rfl, rfl⟩
  · exact isHeap_nil
  · apply siftup_heapFrom (Nat.succ_pos _)
    intro slot positive above
    have slotAbove := parent_lt positive
    by_cases inside : slot < middle.length + 1
    · have edge := ordered slot positive (Nat.zero_le _)
      obtain ⟨up, upEq⟩ : ∃ up, parent slot = up + 1 := ⟨parent slot - 1, by omega⟩
      obtain ⟨down, rfl⟩ : ∃ down, slot = down + 1 := ⟨slot - 1, by omega⟩
      rw [upEq] at edge ⊢
      simp only [List.cons_append, keyAt_cons_succ] at edge ⊢
      rwa [keyAt_append_left (by omega), keyAt_append_left (by omega)] at edge
    · exact le_keyAt_of_length_le (by simp; omega) _

/-- The root is removed first and is no larger than any item. -/
theorem heappop_le {items : List α} {root : α} {rest : List α}
    (ordered : IsHeap key items) (popped : heappop key items = some (root, rest))
    {item : α} (member : item ∈ items) : key root ≤ key item := by
  rcases heappop_cases popped with ⟨rfl, rfl⟩ | ⟨middle, last, rfl, rfl⟩
  · rw [List.mem_singleton.mp member]
  · exact ordered.head_le member

end HeapQ
