import SmartBandwidth.Queue.Refinement
import SmartBandwidth.Lib.TopK

/-!
# Streaming top-k by effective value

A `ValueScheduler` that only receives packets is a bounded queue offered a stream of
numbered entries, so it holds the entries a `BoundedQueue` keeps: the best by
effective value, later arrivals before earlier ones of the same value.
-/

namespace SmartBandwidth

/-- Arrivals in order, each with the clock reading of its `enqueue`. -/
abbrev Arrivals := List (PacketRef × ℚ)

namespace Arrivals

/-- The `enqueue` calls of a stream. -/
def calls (arrivals : Arrivals) : List SchedulerCall :=
  arrivals.map fun arrival => .enqueue arrival.1 arrival.2

/-- The entries a stream becomes, numbered from `start`. -/
def entries {K : Type} (keyOf : PacketRef → K) : Nat → Arrivals → List (QueueEntry K)
  | _, [] => []
  | start, (ref, _) :: rest => ⟨keyOf ref, start, ref⟩ :: entries keyOf (start + 1) rest

variable {K : Type} (keyOf : PacketRef → K)

theorem mem_entries {start : Nat} {arrivals : Arrivals} {entry : QueueEntry K} :
    entry ∈ entries keyOf start arrivals ↔
      ∃ idx now, arrivals[idx]? = some (entry.packet, now) ∧
        entry.sequence = start + idx ∧ entry.key = keyOf entry.packet := by
  induction arrivals generalizing start with
  | nil => simp [entries]
  | cons arrival rest ih =>
      obtain ⟨ref, time⟩ := arrival
      simp only [entries, List.mem_cons, ih]
      constructor
      · rintro (rfl | ⟨idx, now, found, number, key⟩)
        · exact ⟨0, time, rfl, rfl, rfl⟩
        · exact ⟨idx + 1, now, found, by omega, key⟩
      · rintro ⟨idx, now, found, number, key⟩
        cases idx with
        | zero =>
            left
            cases entry
            simp only [List.getElem?_cons_zero, Option.some.injEq, Prod.mk.injEq] at found
            simp_all
        | succ idx => exact Or.inr ⟨idx, now, found, by omega, key⟩

@[simp] theorem length_entries (start : Nat) (arrivals : Arrivals) :
    (entries keyOf start arrivals).length = arrivals.length := by
  induction arrivals generalizing start with
  | nil => rfl
  | cons arrival rest ih => simp [entries, ih]

theorem entries_increasing (start : Nat) (arrivals : Arrivals) :
    ((entries keyOf start arrivals).map QueueEntry.sequence).Pairwise (· < ·) := by
  induction arrivals generalizing start with
  | nil => exact .nil
  | cons arrival rest ih =>
      simp only [entries, List.map_cons, List.pairwise_cons]
      refine ⟨?_, ih (start + 1)⟩
      intro number member
      obtain ⟨entry, entryMem, rfl⟩ := List.mem_map.mp member
      obtain ⟨idx, _, _, number, _⟩ := (mem_entries keyOf).mp entryMem
      omega

/-- The specification run over `enqueue` calls offers the entries in turn. -/
theorem run_calls [LinearOrder K] (spec : ArrivalQueue K) (arrivals : Arrivals) :
    (Machine.run (ArrivalQueue.call keyOf) spec arrivals.calls).2.queue =
      spec.queue.offerAll (entries keyOf spec.arrivals arrivals) := by
  induction arrivals generalizing spec with
  | nil => rfl
  | cons arrival rest ih => exact ih _

end Arrivals

/-- The effective value of arrival number `idx`; numbers past the end count nothing. -/
def arrivalValue (store : Store) (arrivals : Arrivals) (idx : Nat) : ℚ :=
  match arrivals[idx]? with
  | some (ref, _) => ValueScheduler.effectiveValue (store ref)
  | none => 0

/-- The value scheduler after a stream of arrivals. -/
def afterArrivals (capacity : Nat) (store : Store) (arrivals : Arrivals) :
    ValueScheduler × Store :=
  (Scheduler.runCalls ValueScheduler.key capacity store arrivals.calls).2

/-- The arrival numbers held after a stream. -/
def heldNumbers (capacity : Nat) (store : Store) (arrivals : Arrivals) : List Nat :=
  (afterArrivals capacity store arrivals).1.heap.map QueueEntry.sequence

/-- The held arrivals are the greatest of the stream by value and then by number. -/
structure KeepsTopK (capacity : Nat) (store : Store) (arrivals : Arrivals) : Prop where
  size : (heldNumbers capacity store arrivals).length = min capacity arrivals.length
  distinct : (heldNumbers capacity store arrivals).Nodup
  arrived : ∀ entry ∈ (afterArrivals capacity store arrivals).1.heap,
    ∃ now, arrivals[entry.sequence]? = some (entry.packet, now)
  greatest : ∀ kept ∈ heldNumbers capacity store arrivals, ∀ lost < arrivals.length,
    lost ∉ heldNumbers capacity store arrivals →
    arrivalValue store arrivals lost < arrivalValue store arrivals kept ∨
      arrivalValue store arrivals lost = arrivalValue store arrivals kept ∧ lost < kept
  optimal : ∀ chosen ⊆ Finset.range arrivals.length, chosen.card ≤ capacity →
    ∑ idx ∈ chosen, arrivalValue store arrivals idx ≤
      ((heldNumbers capacity store arrivals).map (arrivalValue store arrivals)).sum
  drained : ∃ order : List (QueueEntry ℚ),
    order.Perm (afterArrivals capacity store arrivals).1.heap ∧
      ((afterArrivals capacity store arrivals).1.drain
        (afterArrivals capacity store arrivals).2).1 = order.map QueueEntry.packet ∧
      order.Pairwise fun first second =>
        arrivalValue store arrivals second.sequence <
            arrivalValue store arrivals first.sequence ∨
          arrivalValue store arrivals second.sequence =
              arrivalValue store arrivals first.sequence ∧
            first.sequence < second.sequence

section Stream

variable (capacity : Nat) (store : Store) (arrivals : Arrivals)

/-- The key an arrival is queued under. -/
private abbrev keyOfRef (store : Store) (ref : PacketRef) : ℚ :=
  ValueScheduler.key (store ref)

/-- The queue the specification reaches. -/
private abbrev reached :=
  (ArrivalQueue.runCalls ValueScheduler.key capacity store arrivals.calls).2

theorem afterArrivals_represents :
    Represents ValueScheduler.key (keyOfRef store) (afterArrivals capacity store arrivals)
      (reached capacity store arrivals) :=
  (runCalls_represents ValueScheduler.key (fun _ _ => rfl) capacity store arrivals.calls).2

theorem reached_holdsBest (positive : 1 ≤ capacity) :
    ∃ lost, BoundedQueue.HoldsBest QueueEntry.key QueueEntry.sequence capacity
      (Arrivals.entries (keyOfRef store) 0 arrivals)
      (reached capacity store arrivals).queue.items lost := by
  have limitEq : (max 1 (capacity : Int)).toNat = capacity := by omega
  have reachedEq : (reached capacity store arrivals).queue =
      (BoundedQueue.empty capacity).offerAll
        (Arrivals.entries (keyOfRef store) 0 arrivals) := by
    rw [reached, ArrivalQueue.runCalls, limitEq]
    exact Arrivals.run_calls (keyOfRef store) (ArrivalQueue.empty capacity) arrivals
  rw [reachedEq]
  exact BoundedQueue.empty_offerAll_holdsBest capacity _ (Arrivals.entries_increasing _ 0 _)

variable {capacity store arrivals}

/-- An entry of the stream carries the value of its arrival number. -/
theorem key_eq_neg_arrivalValue {entry : QueueEntry ℚ}
    (member : entry ∈ Arrivals.entries (keyOfRef store) 0 arrivals) :
    entry.key = -arrivalValue store arrivals entry.sequence := by
  obtain ⟨idx, now, found, number, key⟩ := (Arrivals.mem_entries _).mp member
  rw [Nat.zero_add] at number
  rw [key, number]
  simp [keyOfRef, ValueScheduler.key, arrivalValue, found]

theorem arrivalValue_nonneg (idx : Nat) : 0 ≤ arrivalValue store arrivals idx := by
  simp only [arrivalValue]
  split
  · exact ValueScheduler.effectiveValue_nonneg _
  · exact le_rfl

/-- Comparing keys of stream entries is comparing values of their arrival numbers. -/
theorem key_lt_or_eq_iff {first second : QueueEntry ℚ}
    (firstMem : first ∈ Arrivals.entries (keyOfRef store) 0 arrivals)
    (secondMem : second ∈ Arrivals.entries (keyOfRef store) 0 arrivals) (tie : Prop) :
    first.key < second.key ∨ first.key = second.key ∧ tie ↔
      arrivalValue store arrivals second.sequence <
          arrivalValue store arrivals first.sequence ∨
        arrivalValue store arrivals second.sequence =
          arrivalValue store arrivals first.sequence ∧ tie := by
  rw [key_eq_neg_arrivalValue firstMem, key_eq_neg_arrivalValue secondMem,
    neg_lt_neg_iff, neg_inj, eq_comm]

/-- An arrival that is not held loses to every held one. -/
theorem greatest_of_holdsBest {held lost : List (QueueEntry ℚ)}
    (holds : BoundedQueue.HoldsBest QueueEntry.key QueueEntry.sequence capacity
      (Arrivals.entries (keyOfRef store) 0 arrivals) held lost)
    {kept : QueueEntry ℚ} (keptMem : kept ∈ held) {idx : Nat} (bound : idx < arrivals.length)
    (missing : idx ∉ held.map QueueEntry.sequence) :
    arrivalValue store arrivals idx < arrivalValue store arrivals kept.sequence ∨
      arrivalValue store arrivals idx = arrivalValue store arrivals kept.sequence ∧
        idx < kept.sequence := by
  have keptEntry := holds.split.mem_iff.mpr (List.mem_append_left lost keptMem)
  let worse : QueueEntry ℚ := ⟨keyOfRef store arrivals[idx].1, idx, arrivals[idx].1⟩
  have worseEntry : worse ∈ Arrivals.entries (keyOfRef store) 0 arrivals :=
    (Arrivals.mem_entries _).mpr
      ⟨idx, arrivals[idx].2, List.getElem?_eq_getElem bound, (Nat.zero_add idx).symm, rfl⟩
  have worseLost : worse ∈ lost := by
    rcases List.mem_append.mp (holds.split.mem_iff.mp worseEntry) with member | member
    · exact absurd (List.mem_map_of_mem member) missing
    · exact member
  exact (key_lt_or_eq_iff keptEntry worseEntry _).mp (holds.best kept keptMem _ worseLost)

/-- The reached queue is sorted by value, oldest first among equals. -/
theorem reached_ordered
    (streamed : ∀ entry ∈ (reached capacity store arrivals).queue.items,
      entry ∈ Arrivals.entries (keyOfRef store) 0 arrivals) :
    (reached capacity store arrivals).queue.items.Pairwise fun first second =>
      arrivalValue store arrivals second.sequence <
          arrivalValue store arrivals first.sequence ∨
        arrivalValue store arrivals second.sequence =
            arrivalValue store arrivals first.sequence ∧
          first.sequence < second.sequence := by
  have represents := afterArrivals_represents capacity store arrivals
  have numbers := List.pairwise_map.mp represents.specDistinct
  apply ((reached capacity store arrivals).queue.sorted.and numbers).imp_of_mem
  rintro first second firstMem secondMem ⟨ordered, different⟩
  apply (key_lt_or_eq_iff (streamed first firstMem) (streamed second secondMem) _).mp
  rcases BoundedQueue.precedes_iff.mp ordered with less | ⟨same, older⟩
  · exact Or.inl less
  · exact Or.inr ⟨same, lt_of_le_of_ne older different⟩

/-- Holding the greatest arrivals maximises the total value. -/
theorem sum_le_of_greatest {numbers : List Nat} (distinct : numbers.Nodup)
    (size : numbers.length = min capacity arrivals.length)
    (greatest : ∀ kept ∈ numbers, ∀ idx < arrivals.length, idx ∉ numbers →
      arrivalValue store arrivals idx ≤ arrivalValue store arrivals kept)
    {chosen : Finset Nat} (inRange : chosen ⊆ Finset.range arrivals.length)
    (small : chosen.card ≤ capacity) :
    ∑ idx ∈ chosen, arrivalValue store arrivals idx ≤
      (numbers.map (arrivalValue store arrivals)).sum := by
  rw [← List.sum_toFinset _ distinct]
  apply Finset.sum_le_sum_of_dominated _ arrivalValue_nonneg
  · rw [List.toFinset_card_of_nodup distinct]
    have fits := Finset.card_le_card inRange
    rw [Finset.card_range] at fits
    exact (le_min small fits).trans size.ge
  · intro better betterMem worse worseMem missing
    rw [List.mem_toFinset] at betterMem missing
    exact greatest better betterMem worse (Finset.mem_range.mp (inRange worseMem)) missing

/-- Every capacity and every stream of arrivals keeps the greatest arrivals. -/
theorem enqueue_keepsTopK (capacity : Nat) (positive : 1 ≤ capacity) (store : Store)
    (arrivals : Arrivals) : KeepsTopK capacity store arrivals := by
  have represents := afterArrivals_represents capacity store arrivals
  obtain ⟨lost, holds⟩ := reached_holdsBest capacity store arrivals positive
  have sameNumbers : (heldNumbers capacity store arrivals).Perm
      ((reached capacity store arrivals).queue.items.map QueueEntry.sequence) :=
    represents.contents.map _
  have distinct : (heldNumbers capacity store arrivals).Nodup := represents.distinct
  have itemEntry : ∀ entry ∈ (reached capacity store arrivals).queue.items,
      entry ∈ Arrivals.entries (keyOfRef store) 0 arrivals := fun entry member =>
    holds.split.mem_iff.mpr (List.mem_append_left _ member)
  have size : (heldNumbers capacity store arrivals).length = min capacity arrivals.length := by
    rw [sameNumbers.length_eq, List.length_map, holds.size, Arrivals.length_entries]
  have greatest : ∀ kept ∈ heldNumbers capacity store arrivals, ∀ idx < arrivals.length,
      idx ∉ heldNumbers capacity store arrivals →
      arrivalValue store arrivals idx < arrivalValue store arrivals kept ∨
        arrivalValue store arrivals idx = arrivalValue store arrivals kept ∧ idx < kept := by
    intro kept keptMem idx bound missing
    obtain ⟨better, betterMem, rfl⟩ := List.mem_map.mp (sameNumbers.mem_iff.mp keptMem)
    exact greatest_of_holdsBest holds betterMem bound
      (fun member => missing (sameNumbers.mem_iff.mpr member))
  refine
    { size := size
      distinct := distinct
      arrived := ?_
      greatest := greatest
      optimal := ?_
      drained := ⟨(reached capacity store arrivals).queue.items, represents.contents.symm,
        (represents.drainLoop le_rfl).1, reached_ordered itemEntry⟩ }
  · intro entry member
    obtain ⟨idx, now, found, number, _⟩ := (Arrivals.mem_entries _).mp
      (itemEntry entry (represents.contents.mem_iff.mp member))
    rw [Nat.zero_add] at number
    exact ⟨now, number ▸ found⟩
  · intro chosen inRange small
    apply sum_le_of_greatest distinct size _ inRange small
    intro kept keptMem idx bound missing
    rcases greatest kept keptMem idx bound missing with less | ⟨equal, _⟩
    · exact less.le
    · exact equal.le

end Stream

/-- A one-packet queue keeps the later of two packets of equal value. -/
theorem enqueue_keepsTopK_pair :
    1 ≤ 1 ∧ KeepsTopK 1 (fun _ => {}) [(0, 0), (1, 1)] :=
  ⟨le_rfl, enqueue_keepsTopK 1 le_rfl _ _⟩

end SmartBandwidth
