import Mathlib.Algebra.Ring.Nat
import Mathlib.Data.List.Basic
import Mathlib.Order.Basic

/-!
# Entries under a test of keys

A map as the list of its entries, where a test says whether two keys are the same.  The test need
not be reflexive: a key may differ from itself.  Assigning to a key that is present keeps its
place and its key; other keys are appended.
-/

universe u v

namespace KeyedList

variable {κ : Type u} {β : Type v} (same : κ → κ → Bool)

/-- `entries[key] = value`. -/
def assign (key : κ) (value : β) : List (κ × β) → List (κ × β)
  | [] => [(key, value)]
  | entry :: rest =>
      if same entry.1 key then (entry.1, value) :: rest else entry :: assign key value rest

/-- Assign some pairs one after another. -/
def assignAll (entries : List (κ × β)) (pairs : List (κ × β)) : List (κ × β) :=
  pairs.foldl (fun entries pair => assign same pair.1 pair.2 entries) entries

/-- The map of some pairs. -/
def ofPairs (pairs : List (κ × β)) : List (κ × β) := assignAll same [] pairs

/-- No key is the same as an earlier one. -/
def Distinct (entries : List (κ × β)) : Prop :=
  entries.Pairwise fun earlier later => same earlier.1 later.1 = false

variable {same} {entries : List (κ × β)}

theorem assign_of_absent {key : κ} (absent : ∀ entry ∈ entries, same entry.1 key = false)
    (value : β) : assign same key value entries = entries ++ [(key, value)] := by
  induction entries with
  | nil => rfl
  | cons entry rest ih =>
      rw [List.forall_mem_cons] at absent
      rw [assign, absent.1, if_neg Bool.false_ne_true, ih absent.2, List.cons_append]

theorem length_assign_of_present {key : κ} (present : ∃ entry ∈ entries, same entry.1 key = true)
    (value : β) : (assign same key value entries).length = entries.length := by
  induction entries with
  | nil =>
      obtain ⟨_, member, _⟩ := present
      cases member
  | cons entry rest ih =>
      rw [assign]
      split
      next => rfl
      next differs =>
        rw [List.length_cons, List.length_cons, ih]
        obtain ⟨found, member, isKey⟩ := present
        rcases List.mem_cons.mp member with rfl | later
        · exact absurd isKey differs
        · exact ⟨found, later, isKey⟩

/-- The keys of a map are its own and at most the assigned one. -/
theorem mem_assign {key : κ} {value : β} {entry : κ × β}
    (member : entry ∈ assign same key value entries) :
    (entry.1 = key ∨ entry.1 ∈ entries.map Prod.fst) ∧
      (entry.2 = value ∨ entry.2 ∈ entries.map Prod.snd) := by
  induction entries with
  | nil =>
      cases List.mem_singleton.mp member
      exact ⟨.inl rfl, .inl rfl⟩
  | cons first rest ih =>
      rw [assign] at member
      rw [List.map_cons, List.map_cons, List.mem_cons, List.mem_cons]
      split at member
      next =>
        rcases List.mem_cons.mp member with rfl | later
        · exact ⟨.inr (.inl rfl), .inl rfl⟩
        · exact ⟨.inr (.inr (List.mem_map_of_mem later)),
            .inr (.inr (List.mem_map_of_mem later))⟩
      next =>
        rcases List.mem_cons.mp member with rfl | later
        · exact ⟨.inr (.inl rfl), .inr (.inl rfl)⟩
        · obtain ⟨keys, values⟩ := ih later
          exact ⟨keys.imp_right .inr, values.imp_right .inr⟩

/-- Assigning keeps the keys distinct. -/
theorem distinct_assign (distinct : Distinct same entries) (key : κ) (value : β) :
    Distinct same (assign same key value entries) := by
  induction entries with
  | nil => exact List.pairwise_singleton _ _
  | cons first rest ih =>
      obtain ⟨apart, distinct⟩ := List.pairwise_cons.mp distinct
      rw [assign]
      split
      next => exact List.pairwise_cons.mpr ⟨apart, distinct⟩
      next differs =>
        refine List.pairwise_cons.mpr ⟨?_, ih distinct⟩
        intro entry member
        rcases (mem_assign member).1 with isKey | stored
        · rw [isKey]
          exact Bool.eq_false_iff.mpr differs
        · obtain ⟨other, otherMember, sameKey⟩ := List.mem_map.mp stored
          rw [← sameKey]
          exact apart other otherMember

theorem distinct_assignAll (distinct : Distinct same entries) (pairs : List (κ × β)) :
    Distinct same (assignAll same entries pairs) := by
  induction pairs generalizing entries with
  | nil => exact distinct
  | cons pair rest ih => exact ih (distinct_assign distinct pair.1 pair.2)

theorem distinct_ofPairs (pairs : List (κ × β)) : Distinct same (ofPairs same pairs) :=
  distinct_assignAll .nil pairs

/-- Keys and values of a map of pairs are keys and values of the pairs. -/
theorem mem_assignAll {pairs : List (κ × β)} {entry : κ × β}
    (member : entry ∈ assignAll same entries pairs) :
    (entry.1 ∈ pairs.map Prod.fst ∨ entry.1 ∈ entries.map Prod.fst) ∧
      (entry.2 ∈ pairs.map Prod.snd ∨ entry.2 ∈ entries.map Prod.snd) := by
  induction pairs generalizing entries with
  | nil => exact ⟨.inr (List.mem_map_of_mem member), .inr (List.mem_map_of_mem member)⟩
  | cons pair rest ih =>
      obtain ⟨keys, values⟩ := ih member
      rw [List.map_cons, List.map_cons, List.mem_cons, List.mem_cons]
      constructor
      · rcases keys with later | stored
        · exact .inl (.inr later)
        · obtain ⟨other, otherMember, sameKey⟩ := List.mem_map.mp stored
          rw [← sameKey]
          exact (mem_assign otherMember).1.imp_left .inl
      · rcases values with later | stored
        · exact .inl (.inr later)
        · obtain ⟨other, otherMember, sameValue⟩ := List.mem_map.mp stored
          rw [← sameValue]
          exact (mem_assign otherMember).2.imp_left .inl

theorem mem_ofPairs {pairs : List (κ × β)} {entry : κ × β}
    (member : entry ∈ ofPairs same pairs) :
    entry.1 ∈ pairs.map Prod.fst ∧ entry.2 ∈ pairs.map Prod.snd := by
  obtain ⟨keys, values⟩ := mem_assignAll member
  exact ⟨keys.resolve_right List.not_mem_nil, values.resolve_right List.not_mem_nil⟩

/-- Pairs under distinct keys are a map as they stand. -/
theorem assignAll_of_distinct {pairs : List (κ × β)}
    (distinct : Distinct same (entries ++ pairs)) :
    assignAll same entries pairs = entries ++ pairs := by
  induction pairs generalizing entries with
  | nil => exact (List.append_nil _).symm
  | cons pair rest ih =>
      have absent : ∀ entry ∈ entries, same entry.1 pair.1 = false := fun entry member =>
        (List.pairwise_append.mp distinct).2.2 entry member pair List.mem_cons_self
      rw [List.append_cons] at distinct ⊢
      rw [assignAll, List.foldl_cons, ← assignAll, assign_of_absent absent, ih distinct]

theorem ofPairs_of_distinct {pairs : List (κ × β)} (distinct : Distinct same pairs) :
    ofPairs same pairs = pairs :=
  assignAll_of_distinct distinct

theorem length_assign_le (key : κ) (value : β) (entries : List (κ × β)) :
    (assign same key value entries).length ≤ entries.length + 1 := by
  by_cases present : ∃ entry ∈ entries, same entry.1 key = true
  · exact (length_assign_of_present present value).trans_le (Nat.le_succ _)
  · have absent : ∀ entry ∈ entries, same entry.1 key = false := fun entry member =>
      Bool.eq_false_iff.mpr fun isKey => present ⟨entry, member, isKey⟩
    rw [assign_of_absent absent, List.length_append, List.length_singleton]

theorem length_assignAll_le (entries pairs : List (κ × β)) :
    (assignAll same entries pairs).length ≤ entries.length + pairs.length := by
  induction pairs generalizing entries with
  | nil => exact le_rfl
  | cons pair rest ih =>
      apply (ih (assign same pair.1 pair.2 entries)).trans
      have step := @length_assign_le _ _ same pair.1 pair.2 entries
      rw [List.length_cons]
      omega

/-- No pair is lost exactly where the keys are distinct. -/
theorem length_assignAll_eq_iff (distinct : Distinct same entries) {pairs : List (κ × β)} :
    (assignAll same entries pairs).length = entries.length + pairs.length ↔
      Distinct same (entries ++ pairs) := by
  induction pairs generalizing entries with
  | nil => simpa [assignAll] using distinct
  | cons pair rest ih =>
      by_cases present : ∃ entry ∈ entries, same entry.1 pair.1 = true
      · have shorter := @length_assignAll_le _ _ same (assign same pair.1 pair.2 entries) rest
        rw [length_assign_of_present present] at shorter
        constructor
        · intro kept
          rw [assignAll, List.foldl_cons, ← assignAll, List.length_cons] at kept
          omega
        · intro apart
          obtain ⟨entry, member, isKey⟩ := present
          have differs := (List.pairwise_append.mp apart).2.2 entry member pair
            List.mem_cons_self
          rw [isKey] at differs
          cases differs
      · have absent : ∀ entry ∈ entries, same entry.1 pair.1 = false := fun entry member =>
          Bool.eq_false_iff.mpr fun isKey => present ⟨entry, member, isKey⟩
        have assigned := distinct_assign distinct pair.1 pair.2
        rw [assignAll, List.foldl_cons, ← assignAll, List.append_cons,
          ← assign_of_absent absent pair.2, ← ih assigned,
          assign_of_absent absent, List.length_append, List.length_singleton, List.length_cons,
          Nat.add_right_comm, Nat.add_assoc entries.length rest.length 1]

theorem length_ofPairs_le (pairs : List (κ × β)) : (ofPairs same pairs).length ≤ pairs.length :=
  (length_assignAll_le [] pairs).trans_eq (Nat.zero_add _)

theorem length_ofPairs_eq_iff {pairs : List (κ × β)} :
    (ofPairs same pairs).length = pairs.length ↔ Distinct same pairs := by
  have kept := @length_assignAll_eq_iff _ _ same [] .nil pairs
  rwa [List.length_nil, Nat.zero_add] at kept

/-! ## Weights -/

variable (weight : β → Nat)

/-- The weight of all values together. -/
def totalWeight (entries : List (κ × β)) : Nat := (entries.map fun entry => weight entry.2).sum

theorem totalWeight_assign_le (key : κ) (value : β) (entries : List (κ × β)) :
    totalWeight weight (assign same key value entries) ≤
      totalWeight weight entries + weight value := by
  induction entries with
  | nil => simp [assign, totalWeight]
  | cons first rest ih =>
      rw [assign]
      split
      next =>
        simp only [totalWeight, List.map_cons, List.sum_cons]
        omega
      next =>
        simp only [totalWeight, List.map_cons, List.sum_cons] at ih ⊢
        omega

/-- A map weighs at most what its pairs weigh. -/
theorem totalWeight_assignAll_le (entries pairs : List (κ × β)) :
    totalWeight weight (assignAll same entries pairs) ≤
      totalWeight weight entries + totalWeight weight pairs := by
  induction pairs generalizing entries with
  | nil => exact le_rfl
  | cons pair rest ih =>
      apply (ih (assign same pair.1 pair.2 entries)).trans
      have step := @totalWeight_assign_le _ _ same weight pair.1 pair.2 entries
      simp only [totalWeight, List.map_cons, List.sum_cons] at step ⊢
      omega

theorem totalWeight_ofPairs_le (pairs : List (κ × β)) :
    totalWeight weight (ofPairs same pairs) ≤ totalWeight weight pairs :=
  (totalWeight_assignAll_le weight [] pairs).trans_eq (Nat.zero_add _)

end KeyedList
