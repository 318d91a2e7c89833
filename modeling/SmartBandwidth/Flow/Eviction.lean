import SmartBandwidth.Flow.Invariants
import SmartBandwidth.Lib.KeepBest
import Mathlib.Tactic.Linarith

/-!
# The evicted flow

`_evict_oldest` looks for the longest idle time, and reads the clock anew for every flow it
passes.  A flow that is passed later is measured with a later clock, so the flow that comes out
need not be the one that was seen least recently.
-/

namespace SmartBandwidth.FlowTracker

open KeepBest

/-- The idle time of an entry of the scan, read at its slot. -/
def idleAt (clock : Nat → ℚ) (entry : (FlowKey × FlowRecord) × Nat) : ℚ :=
  clock entry.2 - entry.1.2.lastSeen

/-- An entry of the scan has been idle for longer than the current one. -/
def longerIdle (clock : Nat → ℚ) (entry current : (FlowKey × FlowRecord) × Nat) : Bool :=
  decide (idleAt clock current < idleAt clock entry)

/-- The scan of `_evict_oldest` keeps the entry of the longest idle time. -/
theorem longestIdle_eq_keep (clock : Nat → ℚ) (current : (FlowKey × FlowRecord) × Nat)
    (slot : Nat) (entries : List (FlowKey × FlowRecord)) :
    longestIdle clock slot current.1.1 (idleAt clock current) entries =
      (keep (longerIdle clock) current (entries.zipIdx slot)).1.1 := by
  induction entries generalizing slot current with
  | nil => rfl
  | cons entry rest ih =>
      rw [longestIdle, List.zipIdx_cons, keep, List.foldl_cons]
      split
      next longer =>
        have replaced : longerIdle clock (entry, slot) current = true := decide_eq_true longer
        rw [if_pos replaced]
        exact ih (entry, slot) (slot + 1)
      next shorter =>
        have kept : ¬ longerIdle clock (entry, slot) current = true :=
          fun longer => shorter (of_decide_eq_true longer)
        rw [if_neg kept]
        exact ih current (slot + 1)

/-- The flow that `_evict_oldest` removes: the first of the longest idle time. -/
theorem evictOldest_spec {tracker : FlowTracker} (clock : Nat → ℚ)
    (occupied : 0 < tracker.table.size) :
    ∃ longest, FirstGreatest (idleAt clock) tracker.table.entries.zipIdx longest ∧
      tracker.evictOldest clock =
        { tracker with table := tracker.table.erase longest.1.1 } := by
  have agrees (entry current : (FlowKey × FlowRecord) × Nat) :
      longerIdle clock entry current = true ↔ idleAt clock current < idleAt clock entry :=
    decide_eq_true_iff
  simp only [evictOldest]
  split
  next empty => simp [Dict.size, empty] at occupied
  next key record rest nonempty =>
    have longest := keep_firstGreatest agrees ((key, record), 0) (rest.zipIdx 1)
    rw [nonempty, List.zipIdx_cons]
    refine ⟨_, longest, ?_⟩
    rw [← longestIdle_eq_keep]
    rfl

/-- An outcome of `_evict_oldest`: a flow that no other was seen before is gone, and nothing else
has changed. -/
def EvictsLeast (tracker evicted : FlowTracker) : Prop :=
  ∃ oldest ∈ tracker.table.entries,
    (∀ entry ∈ tracker.table.entries, oldest.2.lastSeen ≤ entry.2.lastSeen) ∧
      evicted = { tracker with table := tracker.table.erase oldest.1 }

/-- While the scan goes on from some least recently seen flow to a later one, the clock advances
no more than their time stamps differ. -/
def ClockKeepsUp (tracker : FlowTracker) (clock : Nat → ℚ) : Prop :=
  ∃ oldest ∈ tracker.table.entries.zipIdx,
    (∀ entry ∈ tracker.table.entries, oldest.1.2.lastSeen ≤ entry.2.lastSeen) ∧
      ∀ later ∈ tracker.table.entries.zipIdx, oldest.2 < later.2 →
        clock later.2 - clock oldest.2 ≤ later.1.2.lastSeen - oldest.1.2.lastSeen

instance (tracker : FlowTracker) (clock : Nat → ℚ) : Decidable (tracker.ClockKeepsUp clock) :=
  inferInstanceAs (Decidable (∃ oldest ∈ tracker.table.entries.zipIdx,
    (∀ entry ∈ tracker.table.entries, oldest.1.2.lastSeen ≤ entry.2.lastSeen) ∧
      ∀ later ∈ tracker.table.entries.zipIdx, oldest.2 < later.2 → _ ≤ _))

section Scan

variable {tracker : FlowTracker}

/-- The slots of a scan are in order. -/
theorem zipIdx_sorted (entries : List (FlowKey × FlowRecord)) :
    entries.zipIdx.Pairwise fun first second => first.2 < second.2 := by
  have slots : (entries.zipIdx.map Prod.snd).Pairwise (· < ·) := by
    rw [List.zipIdx_map_snd]
    exact List.pairwise_lt_range'
  exact List.pairwise_map.mp slots

/-- The scan passes each entry of the table. -/
theorem mem_of_mem_zipIdx {entry : (FlowKey × FlowRecord) × Nat}
    (member : entry ∈ tracker.table.entries.zipIdx) : entry.1 ∈ tracker.table.entries :=
  List.mem_of_getElem? (List.mem_zipIdx_iff_getElem?.mp member)

/-- Where the clock keeps up, the flow of the longest idle time is one of those seen least
recently. -/
theorem ClockKeepsUp.least {clock : Nat → ℚ} (keepsUp : tracker.ClockKeepsUp clock)
    (forward : Monotone clock) {longest : (FlowKey × FlowRecord) × Nat}
    (first : FirstGreatest (idleAt clock) tracker.table.entries.zipIdx longest) :
    ∀ entry ∈ tracker.table.entries, longest.1.2.lastSeen ≤ entry.2.lastSeen := by
  obtain ⟨oldest, member, least, keeps⟩ := keepsUp
  have noLonger : ∀ other ∈ tracker.table.entries.zipIdx,
      idleAt clock other ≤ idleAt clock oldest := by
    intro other otherMember
    simp only [idleAt]
    rcases lt_or_ge oldest.2 other.2 with later | earlier
    · have advance := keeps other otherMember later
      linarith
    · have advance := forward earlier
      have seen := least other.1 (mem_of_mem_zipIdx otherMember)
      linarith
  have equal : idleAt clock oldest = idleAt clock longest :=
    le_antisymm (first.greatest member) (noLonger longest first.member)
  have before : longest.2 ≤ oldest.2 := by
    rcases first.before_equal (zipIdx_sorted _) member equal with same | later
    · rw [same]
    · exact later.le
  intro entry entryMember
  have seen := least entry entryMember
  have advance := forward before
  simp only [idleAt] at equal
  linarith

end Scan

/-- On a table that is not empty and under a clock that does not go back, `_evict_oldest` removes a
flow that no other was seen before, and nothing else, exactly if the clock keeps up from some
least recently seen flow on. -/
theorem evictOldest_least_iff (tracker : FlowTracker) (clock : Nat → ℚ)
    (forward : Monotone clock) (occupied : 0 < tracker.table.size) :
    tracker.EvictsLeast (tracker.evictOldest clock) ↔ tracker.ClockKeepsUp clock := by
  obtain ⟨longest, first, evicted⟩ := evictOldest_spec clock occupied
  rw [evicted]
  constructor
  · intro evicts
    obtain ⟨oldest, member, least, same⟩ := evicts
    have longestMember := mem_of_mem_zipIdx first.member
    have keys : longest.1.1 = oldest.1 :=
      Dict.eq_of_erase_eq (tracker.table.get?_of_mem longestMember)
        (congrArg FlowTracker.table same)
    have same : longest.1 = oldest :=
      List.inj_on_of_nodup_map tracker.table.nodup longestMember member keys
    rw [← same] at least
    refine ⟨longest, first.member, least, ?_⟩
    intro later laterMember _
    have noLonger := first.greatest laterMember
    simp only [idleAt] at noLonger
    linarith
  · intro keepsUp
    exact ⟨longest.1, mem_of_mem_zipIdx first.member, keepsUp.least forward first, rfl⟩

/-- A full table of two flows, seen at time 1 and at time 2. -/
def fullTable : FlowTracker :=
  ({ maxFlows := 2 } : FlowTracker).after .plain
    [.update { srcPort := 1 } (.at 1), .update { srcPort := 2 } (.at 2)]

/-- When the clock stands still during the scan, the first flow goes. -/
theorem evictOldest_least_still : fullTable.EvictsLeast (fullTable.evictOldest fun _ => 10) :=
  (evictOldest_least_iff fullTable (fun _ => 10) monotone_const (by decide +kernel)).mpr
    (by decide +kernel)

/-- When the clock advances by two seconds from the first flow to the second, the second goes. -/
theorem evictOldest_misses_least :
    0 < fullTable.table.size ∧ Monotone (fun slot : Nat => (10 + 2 * slot : ℚ)) ∧
      ¬ fullTable.EvictsLeast (fullTable.evictOldest fun slot => 10 + 2 * slot) := by
  refine ⟨by decide +kernel, ?_, ?_⟩
  · intro earlier later ordered
    have advance : (earlier : ℚ) ≤ later := by exact_mod_cast ordered
    linarith
  · intro evicts
    obtain ⟨oldest, member, least, evicted⟩ := evicts
    have gone : (fullTable.evictOldest fun slot => 10 + 2 * slot).table.get? oldest.1 = none := by
      rw [evicted, Dict.get?_erase, if_pos rfl]
    have kept : ∀ oldest ∈ fullTable.table.entries,
        (∀ entry ∈ fullTable.table.entries, oldest.2.lastSeen ≤ entry.2.lastSeen) →
        (fullTable.evictOldest fun slot => 10 + 2 * slot).table.get? oldest.1 ≠ none := by
      decide +kernel
    exact kept oldest member least gone

end SmartBandwidth.FlowTracker
