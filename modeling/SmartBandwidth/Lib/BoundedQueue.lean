import Mathlib.Data.List.Sort
import Mathlib.Data.Prod.Lex

/-!
# Bounded priority queues

The specification of a priority queue with room for `limit` items.  Items carry a
rank, least first, and a stamp that orders items of one rank.  The items are kept
sorted by rank and then stamp, so the first item is the one to serve next.

A full queue refuses an item whose rank is greater than every rank it holds.  Any
other item displaces one victim: the first item, in stamp order, of the greatest
rank.
-/

universe u v

/-- Service order: by rank, then by stamp. -/
def serviceOrder {α : Type u} {κ : Type v} (rank : α → κ) (stamp : α → Nat)
    (item : α) : κ ×ₗ Nat :=
  toLex (rank item, stamp item)

/-- A queue whose items are sorted and fit its limit by construction. -/
structure BoundedQueue {α : Type u} {κ : Type v} [LinearOrder κ]
    (rank : α → κ) (stamp : α → Nat) where
  limit : Nat
  items : List α
  sorted : items.Pairwise fun left right =>
    serviceOrder rank stamp left ≤ serviceOrder rank stamp right
  bounded : items.length ≤ limit

namespace BoundedQueue

variable {α : Type u} {κ : Type v} [LinearOrder κ]
variable {rank : α → κ} {stamp : α → Nat}

/-- The relation by which items are kept sorted. -/
def Precedes (rank : α → κ) (stamp : α → Nat) (left right : α) : Prop :=
  serviceOrder rank stamp left ≤ serviceOrder rank stamp right

instance : DecidableRel (Precedes rank stamp) := fun left right =>
  inferInstanceAs (Decidable (serviceOrder rank stamp left ≤ serviceOrder rank stamp right))

instance : Std.Total (Precedes rank stamp) := ⟨fun _ _ => le_total _ _⟩

instance : IsTrans α (Precedes rank stamp) := ⟨fun _ _ _ => le_trans⟩

theorem precedes_iff {left right : α} :
    Precedes rank stamp left right ↔
      rank left < rank right ∨ rank left = rank right ∧ stamp left ≤ stamp right :=
  Prod.Lex.le_iff

/-- No item of the list has a greater rank. -/
def Worst (rank : α → κ) (items : List α) (item : α) : Prop :=
  ∀ other ∈ items, rank other ≤ rank item

instance (items : List α) : DecidablePred (Worst rank items) := fun item =>
  inferInstanceAs (Decidable (∀ other ∈ items, rank other ≤ rank item))

/-- Every queued rank is strictly less than the offered one. -/
def Outranked (rank : α → κ) (items : List α) (offered : α) : Prop :=
  ∀ item ∈ items, rank item < rank offered

instance (items : List α) (offered : α) : Decidable (Outranked rank items offered) :=
  inferInstanceAs (Decidable (∀ item ∈ items, rank item < rank offered))

/-- Remove the first item, in service order, among those of the greatest rank. -/
def evict (rank : α → κ) (items : List α) : List α :=
  items.eraseP fun item => decide (Worst rank items item)

/-- Put an item at its place in service order. -/
def insert (rank : α → κ) (stamp : α → Nat) (item : α) (items : List α) : List α :=
  items.orderedInsert (Precedes rank stamp) item

/-- The empty queue of a given limit. -/
def empty (limit : Nat) : BoundedQueue rank stamp where
  limit := limit
  items := []
  sorted := .nil
  bounded := Nat.zero_le limit

theorem insert_perm (item : α) (items : List α) :
    (insert rank stamp item items).Perm (item :: items) :=
  List.perm_orderedInsert _ _ _

theorem insert_sorted {items : List α}
    (sorted : items.Pairwise (Precedes rank stamp)) (item : α) :
    (insert rank stamp item items).Pairwise (Precedes rank stamp) :=
  List.Pairwise.orderedInsert item items sorted

/-- A list with an item has one of greatest rank. -/
theorem exists_worst (rank : α → κ) {items : List α} (inhabited : items ≠ []) :
    ∃ item ∈ items, Worst rank items item := by
  induction items with
  | nil => exact absurd rfl inhabited
  | cons head tail ih =>
      by_cases single : tail = []
      · subst tail
        exact ⟨head, by simp, by simp [Worst]⟩
      · obtain ⟨item, member, worst⟩ := ih single
        rcases le_total (rank head) (rank item) with below | above
        · refine ⟨item, by simp [member], ?_⟩
          intro other otherMem
          rcases List.mem_cons.mp otherMem with rfl | otherMem
          · exact below
          · exact worst other otherMem
        · refine ⟨head, by simp, ?_⟩
          intro other otherMem
          rcases List.mem_cons.mp otherMem with rfl | otherMem
          · exact le_rfl
          · exact (worst other otherMem).trans above

/-- Eviction removes the oldest item of the greatest rank and nothing else. -/
theorem evict_perm_of_oldest {items : List α}
    (sorted : items.Pairwise (Precedes rank stamp))
    (distinct : (items.map stamp).Nodup) {victim : α} (member : victim ∈ items)
    (worst : Worst rank items victim)
    (oldest : ∀ other ∈ items, rank other = rank victim → stamp victim ≤ stamp other) :
    items.Perm (victim :: evict rank items) := by
  obtain ⟨found, before, after, noneBefore, foundWorst, itemsEq, erased⟩ :=
    List.exists_of_eraseP (p := fun item => decide (Worst rank items item)) member
      (decide_eq_true worst)
  have foundMem : found ∈ items := by rw [itemsEq]; simp
  have foundEq : found = victim := by
    have rankEq : rank victim = rank found :=
      le_antisymm (of_decide_eq_true foundWorst victim member) (worst found foundMem)
    have younger := oldest found foundMem rankEq.symm
    have position := member
    rw [itemsEq] at position
    rcases List.mem_append.mp position with early | late
    · exact absurd (decide_eq_true worst) (noneBefore victim early)
    · rcases List.mem_cons.mp late with same | late
      · exact same.symm
      · rw [itemsEq] at sorted
        have ordered := List.rel_of_pairwise_cons (List.pairwise_append.mp sorted).2.1 late
        have stampEq : stamp found = stamp victim := by
          rcases precedes_iff.mp ordered with below | ⟨_, older⟩
          · exact absurd rankEq below.ne'
          · exact le_antisymm older younger
        exact List.inj_on_of_nodup_map distinct foundMem member stampEq
  rw [evict, erased, ← foundEq]
  exact (List.Perm.of_eq itemsEq).trans List.perm_middle

/-- The item `evict` removes. -/
def victim? (rank : α → κ) (items : List α) : Option α :=
  items.find? fun item => decide (Worst rank items item)

/-- A predicate's first match and the rest of the list make up the list. -/
theorem perm_find?_eraseP (accept : α → Bool) (items : List α) :
    items.Perm ((items.find? accept).toList ++ items.eraseP accept) := by
  induction items with
  | nil => exact List.Perm.refl _
  | cons head tail ih =>
      by_cases accepted : accept head = true
      · simp [accepted]
      · rw [List.find?_cons_of_neg accepted, List.eraseP_cons_of_neg accepted]
        exact (ih.cons head).trans List.perm_middle.symm

/-- Eviction removes the victim and nothing else. -/
theorem evict_perm (rank : α → κ) (items : List α) :
    items.Perm ((victim? rank items).toList ++ evict rank items) :=
  perm_find?_eraseP _ items

theorem evict_sublist (items : List α) : (evict rank items).Sublist items :=
  List.eraseP_sublist

theorem evict_length {items : List α} (inhabited : items ≠ []) :
    (evict rank items).length + 1 = items.length := by
  obtain ⟨item, member, worst⟩ := exists_worst rank inhabited
  have erased := List.length_eraseP_of_mem
    (p := fun item => decide (Worst rank items item)) member (decide_eq_true worst)
  have positive := List.length_pos_of_mem member
  rw [evict, erased]
  omega

/-- Offer an item; the answer says whether it was accepted. -/
def offer (queue : BoundedQueue rank stamp) (item : α) : Bool × BoundedQueue rank stamp :=
  if room : queue.items.length < queue.limit then
    (true, { limit := queue.limit
             items := insert rank stamp item queue.items
             sorted := insert_sorted queue.sorted item
             bounded := by
              rw [(insert_perm item queue.items).length_eq, List.length_cons]
              exact room })
  else if refused : Outranked rank queue.items item then
    (false, queue)
  else
    (true, { limit := queue.limit
             items := insert rank stamp item (evict rank queue.items)
             sorted := insert_sorted (queue.sorted.sublist (evict_sublist _)) item
             bounded := by
              have inhabited : queue.items ≠ [] := by
                rintro nothing
                exact refused (by simp [nothing, Outranked])
              rw [(insert_perm item _).length_eq, List.length_cons,
                evict_length inhabited]
              exact queue.bounded })

/-- Serve the first item. -/
def take (queue : BoundedQueue rank stamp) : Option α × BoundedQueue rank stamp :=
  (queue.items.head?,
    { limit := queue.limit
      items := queue.items.tail
      sorted := queue.sorted.tail
      bounded := by
        have bounded := queue.bounded
        rw [List.length_tail]
        omega })

/-- Serve everything. -/
def takeAll (queue : BoundedQueue rank stamp) : List α × BoundedQueue rank stamp :=
  (queue.items, empty queue.limit)

section Offer

variable (queue : BoundedQueue rank stamp) (item : α)

theorem offer_limit : (queue.offer item).2.limit = queue.limit := by
  simp only [offer]
  split
  · rfl
  · split <;> rfl

variable {queue}

theorem offer_of_room (room : queue.items.length < queue.limit) :
    (queue.offer item).1 = true ∧
      (queue.offer item).2.items = insert rank stamp item queue.items := by
  simp [offer, room]

theorem offer_of_outranked (full : queue.limit ≤ queue.items.length)
    (refused : Outranked rank queue.items item) :
    queue.offer item = (false, queue) := by
  simp [offer, full.not_gt, refused]

variable {item}

theorem offer_of_evict (full : queue.limit ≤ queue.items.length)
    (admitted : ¬ Outranked rank queue.items item) :
    (queue.offer item).1 = true ∧
      (queue.offer item).2.items =
        insert rank stamp item (evict rank queue.items) := by
  simp [offer, full.not_gt, admitted]

end Offer

/-- In a queue with distinct stamps, the item that precedes all others is first. -/
theorem head_eq_of_le {items : List α} (sorted : items.Pairwise (Precedes rank stamp))
    (distinct : (items.map stamp).Nodup) {item : α} (member : item ∈ items)
    (least : ∀ other ∈ items, Precedes rank stamp item other) :
    items.head? = some item := by
  cases items with
  | nil => exact absurd member List.not_mem_nil
  | cons first rest =>
      have firstMem : first ∈ first :: rest := List.mem_cons_self
      have lower := least first firstMem
      have upper : Precedes rank stamp first item := by
        rcases List.mem_cons.mp member with rfl | later
        · exact le_rfl
        · exact List.rel_of_pairwise_cons sorted later
      have equal := le_antisymm lower upper
      have stampEq : stamp item = stamp first := congrArg (fun order => (ofLex order).2) equal
      rw [List.inj_on_of_nodup_map distinct member firstMem stampEq]
      rfl

end BoundedQueue
