import SmartBandwidth.Lib.BoundedQueue
import Mathlib.Algebra.Order.BigOperators.Group.Finset
import Mathlib.Algebra.BigOperators.Group.Finset.Piecewise
import Mathlib.Data.Finset.Max

/-!
# Keeping the best of a stream

Offering a stream of items with increasing stamps to a `BoundedQueue` keeps the best
items of the stream: those of least rank, a later item before an earlier one of the
same rank.  The rule that refuses an item and the rule that picks a victim agree on
this order, so a local choice never discards an item that a better selection needs.

Keeping dominating items is optimal for every non-negative value that agrees with the
order.
-/

universe u v

namespace BoundedQueue

variable {α : Type u} {κ : Type v} [LinearOrder κ]
variable {rank : α → κ} {stamp : α → Nat}

/-- `worse` is discarded before `better`: its rank is greater, or it has the same rank
and is older. -/
def LosesTo (rank : α → κ) (stamp : α → Nat) (worse better : α) : Prop :=
  rank better < rank worse ∨ rank better = rank worse ∧ stamp worse < stamp better

theorem LosesTo.trans {first second third : α}
    (left : LosesTo rank stamp first second) (right : LosesTo rank stamp second third) :
    LosesTo rank stamp first third := by
  rcases left with less | ⟨same, older⟩
  · rcases right with less' | ⟨same', _⟩
    · exact Or.inl (less'.trans less)
    · exact Or.inl (same' ▸ less)
  · rcases right with less' | ⟨same', older'⟩
    · exact Or.inl (same ▸ less')
    · exact Or.inr ⟨same'.trans same, older.trans older'⟩

/-- The victim has the greatest rank, and no other item of that rank is older. -/
theorem victim?_spec {items : List α} (sorted : items.Pairwise (Precedes rank stamp))
    {victim : α} (found : victim? rank items = some victim) :
    victim ∈ items ∧ Worst rank items victim ∧
      ∀ other ∈ items, rank other = rank victim → stamp victim ≤ stamp other := by
  obtain ⟨worst, before, after, itemsEq, noneBefore⟩ := List.find?_eq_some_iff_append.mp found
  have worst := of_decide_eq_true worst
  have member : victim ∈ items := by simp [itemsEq]
  refine ⟨member, worst, ?_⟩
  intro other otherMem same
  rw [itemsEq] at otherMem sorted
  rcases List.mem_append.mp otherMem with early | late
  · have otherWorst : Worst rank items other := fun item itemMem => by
      rw [same]
      exact worst item itemMem
    exact absurd (noneBefore other early) (by simp [otherWorst])
  · rcases List.mem_cons.mp late with rfl | late
    · exact le_rfl
    · have ordered := List.rel_of_pairwise_cons (List.pairwise_append.mp sorted).2.1 late
      rcases precedes_iff.mp ordered with less | ⟨_, older⟩
      · exact absurd same less.ne'
      · exact older

/-- A queue with items has a victim. -/
theorem exists_victim (rank : α → κ) {items : List α} (inhabited : items ≠ []) :
    ∃ victim, victim? rank items = some victim := by
  obtain ⟨worst, member, isWorst⟩ := exists_worst rank inhabited
  apply Option.isSome_iff_exists.mp
  exact List.find?_isSome.mpr ⟨worst, member, decide_eq_true isWorst⟩

/-- The victim of an admitted item loses to every other queued item and to the newcomer. -/
theorem victim_losesTo {items : List α} (sorted : items.Pairwise (Precedes rank stamp))
    (distinct : (items.map stamp).Nodup) {victim : α}
    (found : victim? rank items = some victim) {item : α}
    (admitted : ¬ Outranked rank items item) (newest : ∀ old ∈ items, stamp old < stamp item) :
    ∀ better ∈ item :: evict rank items, LosesTo rank stamp victim better := by
  obtain ⟨victimMem, worst, oldest⟩ := victim?_spec sorted found
  rw [List.forall_mem_cons]
  constructor
  · obtain ⟨queued, queuedMem, notWorse⟩ : ∃ queued ∈ items, rank item ≤ rank queued := by
      simpa [Outranked] using admitted
    rcases (notWorse.trans (worst queued queuedMem)).lt_or_eq with less | same
    · exact Or.inl less
    · exact Or.inr ⟨same, newest victim victimMem⟩
  · intro kept keptMem
    have evicted := evict_perm rank items
    rw [found, Option.toList_some, List.singleton_append] at evicted
    have member := evicted.mem_iff.mpr (List.mem_cons_of_mem _ keptMem)
    have stamps := (evicted.map stamp).nodup_iff.mp distinct
    rcases (worst kept member).lt_or_eq with less | same
    · exact Or.inl less
    · have different : stamp victim ≠ stamp kept := by
        intro equal
        exact (List.nodup_cons.mp stamps).1 (equal ▸ List.mem_map_of_mem keptMem)
      exact Or.inr ⟨same, lt_of_le_of_ne (oldest kept member same) different⟩

/-- Offer the items of a stream in turn. -/
def offerAll (queue : BoundedQueue rank stamp) : List α → BoundedQueue rank stamp
  | [] => queue
  | item :: rest => offerAll (queue.offer item).2 rest

/-- The held items are the best `limit` of all offered ones; the others were lost. -/
structure HoldsBest (rank : α → κ) (stamp : α → Nat) (limit : Nat)
    (offered held lost : List α) : Prop where
  split : offered.Perm (held ++ lost)
  size : held.length = min limit offered.length
  best : ∀ better ∈ held, ∀ worse ∈ lost, LosesTo rank stamp worse better

/-- While there is room nothing has been lost, and nothing is. -/
theorem HoldsBest.offer_of_room {queue : BoundedQueue rank stamp} {offered lost : List α}
    (holds : HoldsBest rank stamp queue.limit offered queue.items lost) (item : α)
    (room : queue.items.length < queue.limit) :
    HoldsBest rank stamp (queue.offer item).2.limit (item :: offered)
      (queue.offer item).2.items [] := by
  have size := holds.size
  have total := holds.split.length_eq
  rw [List.length_append] at total
  obtain ⟨_, items⟩ := BoundedQueue.offer_of_room item room
  have nothingLost : lost = [] := List.eq_nil_of_length_eq_zero (by omega)
  constructor
  · rw [items, List.append_nil]
    have split := holds.split
    rw [nothingLost, List.append_nil] at split
    exact (split.cons item).trans (insert_perm _ _).symm
  · rw [items, (insert_perm _ _).length_eq, offer_limit, List.length_cons, List.length_cons]
    omega
  · intro better _ worse nothing
    cases nothing

/-- An item that the whole queue outranks is lost. -/
theorem HoldsBest.offer_of_outranked {queue : BoundedQueue rank stamp} {offered lost : List α}
    (holds : HoldsBest rank stamp queue.limit offered queue.items lost) (item : α)
    (full : queue.limit ≤ queue.items.length) (refused : Outranked rank queue.items item) :
    HoldsBest rank stamp (queue.offer item).2.limit (item :: offered)
      (queue.offer item).2.items (item :: lost) := by
  have size := holds.size
  have fits := queue.bounded
  rw [BoundedQueue.offer_of_outranked item full refused]
  constructor
  · exact (holds.split.cons item).trans List.perm_middle.symm
  · change queue.items.length = min queue.limit (item :: offered).length
    rw [List.length_cons]
    omega
  · intro better betterMem worse worseMem
    cases List.mem_cons.mp worseMem with
    | inl same => exact same ▸ Or.inl (refused better betterMem)
    | inr worseMem => exact holds.best better betterMem worse worseMem

/-- Any other item makes a full queue lose its victim. -/
theorem HoldsBest.offer_of_evict {queue : BoundedQueue rank stamp} {offered lost : List α}
    (holds : HoldsBest rank stamp queue.limit offered queue.items lost)
    (distinct : (offered.map stamp).Nodup) (item : α)
    (newest : ∀ old ∈ offered, stamp old < stamp item)
    (full : queue.limit ≤ queue.items.length) (admitted : ¬ Outranked rank queue.items item) :
    ∃ victim, HoldsBest rank stamp (queue.offer item).2.limit (item :: offered)
      (queue.offer item).2.items (victim :: lost) := by
  have size := holds.size
  have fits := queue.bounded
  obtain ⟨_, items⟩ := BoundedQueue.offer_of_evict full admitted
  have inhabited : queue.items ≠ [] := by
    intro nothing
    exact admitted (by simp [nothing, Outranked])
  obtain ⟨victim, found⟩ := exists_victim rank inhabited
  have stamps : (queue.items.map stamp).Nodup := by
    have all := (holds.split.map stamp).nodup_iff.mp distinct
    rw [List.map_append] at all
    exact List.Nodup.of_append_left all
  have heldOld : ∀ old ∈ queue.items, stamp old < stamp item := fun old member =>
    newest old (holds.split.mem_iff.mpr (List.mem_append_left _ member))
  have loses := victim_losesTo queue.sorted stamps found admitted heldOld
  have victimMem := (victim?_spec queue.sorted found).1
  have evicted := evict_perm rank queue.items
  rw [found, Option.toList_some, List.singleton_append] at evicted
  apply Exists.intro victim
  constructor
  · rw [items]
    have split := holds.split.trans (evicted.append_right lost)
    have moved : (victim :: (evict rank queue.items ++ lost)).Perm
        (evict rank queue.items ++ victim :: lost) := List.perm_middle.symm
    exact ((split.trans moved).cons item).trans ((insert_perm item _).symm.append_right _)
  · rw [items, (insert_perm _ _).length_eq, offer_limit, List.length_cons,
      evict_length inhabited, List.length_cons]
    omega
  · intro better betterMem worse worseMem
    rw [items, (insert_perm item _).mem_iff] at betterMem
    have beats := loses better betterMem
    cases List.mem_cons.mp worseMem with
    | inl same => exact same ▸ beats
    | inr worseMem => exact (holds.best victim victimMem worse worseMem).trans beats

/-- One offer of a new item keeps the best, one item richer. -/
theorem HoldsBest.offer {queue : BoundedQueue rank stamp} {offered lost : List α}
    (holds : HoldsBest rank stamp queue.limit offered queue.items lost)
    (distinct : (offered.map stamp).Nodup) (item : α)
    (newest : ∀ old ∈ offered, stamp old < stamp item) :
    ∃ lost', HoldsBest rank stamp (queue.offer item).2.limit (item :: offered)
      (queue.offer item).2.items lost' := by
  by_cases room : queue.items.length < queue.limit
  · exact ⟨_, holds.offer_of_room item room⟩
  · have full := not_lt.mp room
    by_cases refused : Outranked rank queue.items item
    · exact ⟨_, holds.offer_of_outranked item full refused⟩
    · obtain ⟨victim, next⟩ := holds.offer_of_evict distinct item newest full refused
      exact ⟨_, next⟩

/-- A stream of ever newer items keeps the best of everything offered. -/
theorem HoldsBest.offerAll {queue : BoundedQueue rank stamp} {offered lost : List α}
    (holds : HoldsBest rank stamp queue.limit offered queue.items lost)
    (stream : List α) (distinct : (offered.map stamp).Nodup)
    (newest : ∀ old ∈ offered, ∀ item ∈ stream, stamp old < stamp item)
    (increasing : (stream.map stamp).Pairwise (· < ·)) :
    ∃ lost', HoldsBest rank stamp (queue.offerAll stream).limit (stream.reverse ++ offered)
      (queue.offerAll stream).items lost' := by
  induction stream generalizing queue offered lost with
  | nil => exact ⟨lost, holds⟩
  | cons item rest ih =>
      rw [List.map_cons, List.pairwise_cons] at increasing
      have itemNewest : ∀ old ∈ offered, stamp old < stamp item := fun old member =>
        newest old member item List.mem_cons_self
      obtain ⟨lost', next⟩ := holds.offer distinct item itemNewest
      have distinct' : ((item :: offered).map stamp).Nodup := by
        rw [List.map_cons, List.nodup_cons]
        refine ⟨?_, distinct⟩
        intro member
        obtain ⟨old, oldMem, equal⟩ := List.mem_map.mp member
        exact absurd equal (itemNewest old oldMem).ne
      have newest' : ∀ old ∈ item :: offered, ∀ later ∈ rest, stamp old < stamp later := by
        intro old oldMem later laterMem
        rcases List.mem_cons.mp oldMem with rfl | oldMem
        · exact increasing.1 _ (List.mem_map_of_mem laterMem)
        · exact newest old oldMem later (List.mem_cons_of_mem _ laterMem)
      rw [List.reverse_cons, List.append_assoc]
      exact ih next distinct' newest' increasing.2

theorem offerAll_limit (queue : BoundedQueue rank stamp) (stream : List α) :
    (queue.offerAll stream).limit = queue.limit := by
  induction stream generalizing queue with
  | nil => rfl
  | cons item rest ih => exact (ih _).trans (offer_limit queue item)

/-- A queue that starts empty holds the best items of every stream. -/
theorem empty_offerAll_holdsBest (limit : Nat) (stream : List α)
    (increasing : (stream.map stamp).Pairwise (· < ·)) :
    ∃ lost, HoldsBest rank stamp limit stream
      ((empty limit : BoundedQueue rank stamp).offerAll stream).items lost := by
  have start : HoldsBest rank stamp (empty limit : BoundedQueue rank stamp).limit []
      (empty limit : BoundedQueue rank stamp).items [] :=
    ⟨List.Perm.refl _, (Nat.min_zero limit).symm, by simp⟩
  obtain ⟨lost, holds⟩ := start.offerAll stream List.nodup_nil (by simp) increasing
  rw [List.append_nil] at holds
  refine ⟨lost, (List.reverse_perm stream).symm.trans holds.split, ?_, holds.best⟩
  have size := holds.size
  rwa [offerAll_limit, List.length_reverse] at size

end BoundedQueue

/-- A selection that dominates everything it leaves out has the greatest total value
among all selections that are no larger. -/
theorem Finset.sum_le_sum_of_dominated {ι : Type u} [DecidableEq ι] {M : Type v}
    [AddCommMonoid M] [LinearOrder M] [IsOrderedAddMonoid M] {chosen held : Finset ι}
    (value : ι → M) (nonneg : ∀ index, 0 ≤ value index) (smaller : chosen.card ≤ held.card)
    (dominates : ∀ better ∈ held, ∀ worse ∈ chosen, worse ∉ held →
      value worse ≤ value better) :
    ∑ index ∈ chosen, value index ≤ ∑ index ∈ held, value index := by
  have cards : (chosen \ held).card ≤ (held \ chosen).card := by
    have left := Finset.card_sdiff_add_card_inter chosen held
    have right := Finset.card_sdiff_add_card_inter held chosen
    rw [Finset.inter_comm] at right
    omega
  have outside : ∑ index ∈ chosen \ held, value index ≤
      ∑ index ∈ held \ chosen, value index := by
    rcases (chosen \ held).eq_empty_or_nonempty with nothing | inhabited
    · rw [nothing, Finset.sum_empty]
      exact Finset.sum_nonneg fun index _ => nonneg index
    · obtain ⟨top, topMem, greatest⟩ := Finset.exists_max_image _ value inhabited
      obtain ⟨topChosen, topOut⟩ := Finset.mem_sdiff.mp topMem
      calc ∑ index ∈ chosen \ held, value index
          ≤ (chosen \ held).card • value top := Finset.sum_le_card_nsmul _ _ _ greatest
        _ ≤ (held \ chosen).card • value top := nsmul_le_nsmul_left (nonneg top) cards
        _ ≤ ∑ index ∈ held \ chosen, value index :=
            Finset.card_nsmul_le_sum _ _ _ fun index member =>
              dominates index (Finset.mem_sdiff.mp member).1 top topChosen topOut
  calc ∑ index ∈ chosen, value index
      = ∑ index ∈ chosen ∩ held, value index + ∑ index ∈ chosen \ held, value index :=
        (Finset.sum_inter_add_sum_sdiff _ _ _).symm
    _ ≤ ∑ index ∈ held ∩ chosen, value index +
          ∑ index ∈ held \ chosen, value index := by
        rw [Finset.inter_comm]
        exact add_le_add_right outside _
    _ = ∑ index ∈ held, value index := Finset.sum_inter_add_sum_sdiff _ _ _
