import Mathlib.Data.List.Nodup
import Mathlib.Data.List.Perm.Basic

/-!
# Insertion-ordered dictionaries

A finite map that remembers the order in which its keys were first inserted.
Assigning to a present key keeps its place; assigning to a new key appends it.
-/

universe u v w

/-- A list of entries with pairwise distinct keys, in insertion order. -/
structure Dict (κ : Type u) (β : Type v) where
  entries : List (κ × β)
  nodup : (entries.map Prod.fst).Nodup

namespace Dict

variable {κ : Type u} {β : Type v}

/-- The dictionary without entries. -/
def empty : Dict κ β := ⟨[], List.nodup_nil⟩

/-- The keys in insertion order. -/
def keys (dict : Dict κ β) : List κ := dict.entries.map Prod.fst

/-- The number of entries. -/
def size (dict : Dict κ β) : Nat := dict.entries.length

theorem ext {left right : Dict κ β} (same : left.entries = right.entries) : left = right := by
  cases left
  cases right
  cases same
  rfl

/-- Keep the entries a predicate accepts. -/
def filter (keep : κ → β → Bool) (dict : Dict κ β) : Dict κ β where
  entries := dict.entries.filter fun entry => keep entry.1 entry.2
  nodup := dict.nodup.sublist (List.filter_sublist.map Prod.fst)

/-- Change every value in place. -/
def mapValues (image : κ → β → β) (dict : Dict κ β) : Dict κ β where
  entries := dict.entries.map fun entry => (entry.1, image entry.1 entry.2)
  nodup := by
    rw [List.map_map]
    exact dict.nodup

/-- Take every value to another type. -/
def map {γ : Type w} (image : β → γ) (dict : Dict κ β) : Dict κ γ where
  entries := dict.entries.map fun entry => (entry.1, image entry.2)
  nodup := by
    rw [List.map_map]
    exact dict.nodup

theorem keys_map {γ : Type w} (image : β → γ) (dict : Dict κ β) :
    (dict.map image).keys = dict.keys := by
  rw [keys, map, List.map_map]
  rfl

theorem size_map {γ : Type w} (image : β → γ) (dict : Dict κ β) :
    (dict.map image).size = dict.size :=
  List.length_map _

theorem map_filter {γ : Type w} {image : β → γ} {keep : κ → β → Bool} {keep' : κ → γ → Bool}
    (same : ∀ key value, keep' key (image value) = keep key value) (dict : Dict κ β) :
    (dict.filter keep).map image = (dict.map image).filter keep' := by
  simp only [filter, map, mk.injEq, List.filter_map]
  congr 1
  apply List.filter_congr
  intro entry _
  exact (same entry.1 entry.2).symm

theorem size_filter_le (dict : Dict κ β) (keep : κ → β → Bool) :
    (dict.filter keep).size ≤ dict.size :=
  List.length_filter_le _ _

variable [DecidableEq κ]

/-- The value stored under a key. -/
def get? (dict : Dict κ β) (key : κ) : Option β :=
  (dict.entries.find? fun entry => entry.1 = key).map Prod.snd

/-- Assign to a key. -/
def set (dict : Dict κ β) (key : κ) (value : β) : Dict κ β :=
  if present : key ∈ dict.entries.map Prod.fst then
    dict.mapValues fun other old => if other = key then value else old
  else
    { entries := dict.entries ++ [(key, value)]
      nodup := by
        rw [List.map_append, List.map_singleton, List.nodup_append]
        refine ⟨dict.nodup, List.nodup_singleton _, ?_⟩
        intro old oldMem new newMem equal
        have same : old = key := equal.trans (List.mem_singleton.mp newMem)
        exact present (same ▸ oldMem) }

/-- Remove a key, if present. -/
def erase (dict : Dict κ β) (key : κ) : Dict κ β :=
  dict.filter fun other _ => decide (other ≠ key)

private theorem find?_map_values (entries : List (κ × β)) (image : κ → β → β)
    (query : κ) :
    ((entries.map fun entry => (entry.1, image entry.1 entry.2)).find?
        fun entry => entry.1 = query).map Prod.snd =
      ((entries.find? fun entry => entry.1 = query).map Prod.snd).map (image query) := by
  induction entries with
  | nil => rfl
  | cons entry rest ih =>
      by_cases same : entry.1 = query
      · simp [same]
      · simpa [same] using ih

theorem get?_mapValues (dict : Dict κ β) (image : κ → β → β) (query : κ) :
    (dict.mapValues image).get? query = (dict.get? query).map (image query) :=
  find?_map_values dict.entries image query

theorem get?_eq_none_iff {dict : Dict κ β} {key : κ} :
    dict.get? key = none ↔ key ∉ dict.entries.map Prod.fst := by
  simp only [get?, Option.map_eq_none_iff, List.find?_eq_none, decide_eq_true_eq,
    List.mem_map, not_exists, not_and]

/-- Reading a dictionary after an assignment. -/
theorem get?_set (dict : Dict κ β) (key : κ) (value : β) (query : κ) :
    (dict.set key value).get? query = if query = key then some value else dict.get? query := by
  simp only [set]
  split
  next present =>
    rw [get?_mapValues]
    by_cases same : query = key
    · subst query
      have stored : dict.get? key ≠ none := fun missing =>
        get?_eq_none_iff.mp missing present
      obtain ⟨old, oldEq⟩ := Option.ne_none_iff_exists'.mp stored
      simp [oldEq]
    · simp [same]
  next absent =>
    simp only [get?, List.find?_append]
    by_cases same : query = key
    · subst query
      have missing := get?_eq_none_iff.mpr absent
      simp only [get?, Option.map_eq_none_iff] at missing
      simp [missing]
    · simp [same, Ne.symm same]

@[simp] theorem get?_set_self (dict : Dict κ β) (key : κ) (value : β) :
    (dict.set key value).get? key = some value := by
  simp [get?_set]

@[simp] theorem get?_empty (query : κ) : (empty : Dict κ β).get? query = none := rfl

theorem get?_map {γ : Type w} (image : β → γ) (dict : Dict κ β) (query : κ) :
    (dict.map image).get? query = (dict.get? query).map image := by
  rw [get?, map, List.find?_map, get?, Option.map_map, Option.map_map]
  rfl

theorem map_set {γ : Type w} (image : β → γ) (dict : Dict κ β) (key : κ) (value : β) :
    (dict.set key value).map image = (dict.map image).set key (image value) := by
  have sameKeys : (dict.map image).entries.map Prod.fst = dict.entries.map Prod.fst :=
    keys_map image dict
  by_cases present : key ∈ dict.entries.map Prod.fst
  · have presentMapped : key ∈ (dict.map image).entries.map Prod.fst := sameKeys ▸ present
    rw [set, set, dif_pos present, dif_pos presentMapped]
    simp only [map, mapValues, mk.injEq, List.map_map]
    apply List.map_congr_left
    intro entry _
    simp [apply_ite image]
  · have absentMapped : key ∉ (dict.map image).entries.map Prod.fst := sameKeys ▸ present
    rw [set, set, dif_neg present, dif_neg absentMapped]
    simp [map]

theorem map_erase {γ : Type w} (image : β → γ) (dict : Dict κ β) (key : κ) :
    (dict.erase key).map image = (dict.map image).erase key := by
  simp only [erase, filter, map, mk.injEq, List.filter_map]
  rfl

/-- Reading a dictionary after a removal. -/
theorem get?_erase (dict : Dict κ β) (key query : κ) :
    (dict.erase key).get? query = if query = key then none else dict.get? query := by
  simp only [erase, filter, get?, List.find?_filter]
  by_cases same : query = key
  · subst same
    simp
  · have conditions : (fun entry : κ × β => !decide (entry.1 = key) && decide (entry.1 = query)) =
        fun entry => decide (entry.1 = query) := by
      funext entry
      by_cases found : entry.1 = query
      · simp [found, same]
      · simp [found]
    simp [same, conditions]

/-- The removal of a present key tells which key it was. -/
theorem eq_of_erase_eq {dict : Dict κ β} {first second : κ} {value : β}
    (present : dict.get? first = some value) (same : dict.erase first = dict.erase second) :
    first = second := by
  by_contra different
  have erased := congrArg (fun rest => rest.get? first) same
  simp only [get?_erase, ↓reduceIte, different, present] at erased
  cases erased

private theorem find?_filter_of_nodup {entries : List (κ × β)}
    (nodup : (entries.map Prod.fst).Nodup) (keep : κ → β → Bool) (query : κ) :
    ((entries.filter fun entry => keep entry.1 entry.2).find? fun entry => entry.1 = query).map
        Prod.snd =
      ((entries.find? fun entry => entry.1 = query).map Prod.snd).filter (keep query) := by
  induction entries with
  | nil => rfl
  | cons entry rest ih =>
      rw [List.map_cons, List.nodup_cons] at nodup
      by_cases same : entry.1 = query
      · subst same
        have absent : (rest.filter fun other => keep other.1 other.2).find?
            (fun other => other.1 = entry.1) = none := by
          simp only [List.find?_eq_none, List.mem_filter, decide_eq_true_eq]
          rintro other ⟨member, _⟩ equal
          exact nodup.1 (equal ▸ List.mem_map_of_mem member)
        cases kept : keep entry.1 entry.2 with
        | true => simp [kept, Option.filter]
        | false => simp [kept, absent, Option.filter]
      · cases kept : keep entry.1 entry.2 with
        | true => simpa [kept, same] using ih nodup.2
        | false => simpa [kept, same] using ih nodup.2

/-- Reading a filtered dictionary. -/
theorem get?_filter (dict : Dict κ β) (keep : κ → β → Bool) (query : κ) :
    (dict.filter keep).get? query = (dict.get? query).filter (keep query) :=
  find?_filter_of_nodup dict.nodup keep query

theorem mem_keys_iff {dict : Dict κ β} {key : κ} :
    key ∈ dict.keys ↔ ∃ value, dict.get? key = some value := by
  rw [← Option.ne_none_iff_exists', Ne, get?_eq_none_iff, not_not, keys]

/-- The size after an assignment to a key that is not present. -/
theorem size_set_of_absent {dict : Dict κ β} {key : κ} (absent : dict.get? key = none)
    (value : β) : (dict.set key value).size = dict.size + 1 := by
  rw [get?_eq_none_iff] at absent
  simp [set, absent, size]

/-- The size after an assignment to a present key. -/
theorem size_set_of_present {dict : Dict κ β} {key : κ} {old : β}
    (present : dict.get? key = some old) (value : β) :
    (dict.set key value).size = dict.size := by
  have member : key ∈ dict.entries.map Prod.fst := mem_keys_iff.mpr ⟨old, present⟩
  simp only [set, member, ↓reduceDIte, mapValues, size, List.length_map]

/-- The size after the removal of a present key. -/
theorem size_erase_of_present {dict : Dict κ β} {key : κ} {old : β}
    (present : dict.get? key = some old) : (dict.erase key).size + 1 = dict.size := by
  have member : key ∈ dict.entries.map Prod.fst := mem_keys_iff.mpr ⟨old, present⟩
  have counted : (dict.entries.map Prod.fst).count key = 1 :=
    List.count_eq_one_of_mem dict.nodup member
  have split := List.length_eq_countP_add_countP (fun entry : κ × β => decide (entry.1 ≠ key))
    (l := dict.entries)
  rw [List.count, List.countP_map] at counted
  have ones : dict.entries.countP (fun entry => ¬ decide (entry.1 ≠ key) = true) = 1 := by
    rw [← counted]
    apply List.countP_congr
    simp
  rw [ones] at split
  rw [size, size, split, erase, filter, List.countP_eq_length_filter]

/-- Every entry is what its key reads. -/
theorem get?_of_mem (dict : Dict κ β) {entry : κ × β} (member : entry ∈ dict.entries) :
    dict.get? entry.1 = some entry.2 := by
  rw [get?, Option.map_eq_some_iff]
  have found : (dict.entries.find? fun other => other.1 = entry.1).isSome = true := by
    rw [List.find?_isSome]
    exact ⟨entry, member, by simp⟩
  obtain ⟨other, otherEq⟩ := Option.isSome_iff_exists.mp found
  have sameKey : other.1 = entry.1 := by simpa using List.find?_some otherEq
  refine ⟨other, otherEq, ?_⟩
  rw [List.inj_on_of_nodup_map dict.nodup (List.mem_of_find?_eq_some otherEq) member sameKey]

/-- What a key reads is an entry. -/
theorem mem_of_get? {dict : Dict κ β} {key : κ} {value : β}
    (stored : dict.get? key = some value) : (key, value) ∈ dict.entries := by
  obtain ⟨entry, found, rfl⟩ := Option.map_eq_some_iff.mp stored
  have sameKey : entry.1 = key := by simpa using List.find?_some found
  exact sameKey ▸ List.mem_of_find?_eq_some found

/-- The keys after an assignment. -/
theorem keys_set (dict : Dict κ β) (key : κ) (value : β) :
    (dict.set key value).keys = if key ∈ dict.keys then dict.keys else dict.keys ++ [key] := by
  by_cases present : key ∈ dict.entries.map Prod.fst
  · simp only [set, keys, present, ↓reduceDIte, ↓reduceIte, mapValues, List.map_map]
    rfl
  · simp [set, keys, present]

theorem entries_set_of_absent {dict : Dict κ β} {key : κ} (absent : dict.get? key = none)
    (value : β) : (dict.set key value).entries = dict.entries ++ [(key, value)] := by
  rw [get?_eq_none_iff] at absent
  simp only [set, absent, ↓reduceDIte]

theorem entries_set_of_present {dict : Dict κ β} {key : κ} (present : key ∈ dict.keys)
    (value : β) : (dict.set key value).entries =
      dict.entries.map fun entry => (entry.1, if entry.1 = key then value else entry.2) := by
  rw [keys] at present
  simp only [set, present, ↓reduceDIte, mapValues]

/-- Of two assignments to one key the second counts. -/
theorem set_set (dict : Dict κ β) (key : κ) (first second : β) :
    (dict.set key first).set key second = dict.set key second := by
  have inserted : key ∈ (dict.set key first).keys := by
    rw [keys_set]
    split
    next present => exact present
    next => exact List.mem_append_right _ (List.mem_singleton_self key)
  have entries : ((dict.set key first).set key second).entries = (dict.set key second).entries := by
    rw [entries_set_of_present inserted]
    by_cases present : key ∈ dict.keys
    · rw [entries_set_of_present present, entries_set_of_present present, List.map_map]
      apply List.map_congr_left
      intro entry _
      by_cases same : entry.1 = key <;> simp [same]
    · have absent : dict.get? key = none := get?_eq_none_iff.mpr present
      have untouched : (dict.entries.map fun entry =>
          (entry.1, if entry.1 = key then second else entry.2)) = dict.entries := by
        nth_rewrite 2 [← List.map_id dict.entries]
        apply List.map_congr_left
        intro entry member
        have other : entry.1 ≠ key := fun same => present (same ▸ List.mem_map_of_mem member)
        simp [other]
      rw [entries_set_of_absent absent, entries_set_of_absent absent, List.map_append, untouched]
      simp
  exact ext entries

/-- The keys a filter leaves. -/
theorem keys_filter (dict : Dict κ β) (keep : κ → β → Bool) :
    (dict.filter keep).keys =
      dict.keys.filter fun key => (dict.get? key).any (keep key) := by
  have reads : ∀ entry ∈ dict.entries, keep entry.1 entry.2 =
      (dict.get? entry.1).any (keep entry.1) := by
    intro entry member
    rw [dict.get?_of_mem member, Option.any_some]
  simp only [filter, keys, List.filter_map]
  rw [List.filter_congr reads]
  rfl

/-- The entries are the entry of a present key and those that its removal leaves. -/
theorem perm_erase {dict : Dict κ β} {key : κ} {value : β}
    (present : dict.get? key = some value) :
    dict.entries.Perm ((key, value) :: (dict.erase key).entries) := by
  rw [get?, Option.map_eq_some_iff] at present
  obtain ⟨entry, found, rfl⟩ := present
  have sameKey : entry.1 = key := by simpa using List.find?_some found
  subst sameKey
  have member := List.mem_of_find?_eq_some found
  refine (List.perm_ext_iff_of_nodup (List.Nodup.of_map _ dict.nodup) ?_).mpr ?_
  · rw [List.nodup_cons]
    refine ⟨?_, List.Nodup.of_map _ (dict.erase entry.1).nodup⟩
    simp [erase, filter]
  · intro other
    simp only [erase, filter, List.mem_cons, List.mem_filter, decide_eq_true_eq]
    constructor
    · intro otherMember
      by_cases same : other.1 = entry.1
      · left
        exact List.inj_on_of_nodup_map dict.nodup otherMember member same
      · exact .inr ⟨otherMember, same⟩
    · rintro (rfl | ⟨otherMember, _⟩)
      · exact member
      · exact otherMember

theorem mem_entries_iff {dict : Dict κ β} {key : κ} {value : β} :
    (key, value) ∈ dict.entries ↔ dict.get? key = some value :=
  ⟨fun member => dict.get?_of_mem member, mem_of_get?⟩

/-- Dictionaries that read alike differ in the order of their entries only. -/
theorem perm_of_get?_eq {left right : Dict κ β} (same : ∀ key, left.get? key = right.get? key) :
    left.entries.Perm right.entries := by
  have nodup : ∀ dict : Dict κ β, dict.entries.Nodup := fun dict => List.Nodup.of_map _ dict.nodup
  apply (List.perm_ext_iff_of_nodup (nodup left) (nodup right)).mpr
  intro entry
  rw [← Prod.eta entry, mem_entries_iff, mem_entries_iff, same]

/-! ## Aligned dictionaries -/

variable {γ : Type w}

/-- Two dictionaries hold the same keys in the same order, with related values. -/
structure Aligned (related : κ → β → γ → Prop) (left : Dict κ β) (right : Dict κ γ) :
    Prop where
  keys_eq : left.keys = right.keys
  values : ∀ key value value', left.get? key = some value → right.get? key = some value' →
    related key value value'

namespace Aligned

variable {related : κ → β → γ → Prop} {left : Dict κ β} {right : Dict κ γ}

theorem size_eq (aligned : Aligned related left right) : left.size = right.size := by
  have lengths := congrArg List.length aligned.keys_eq
  simpa only [keys, size, List.length_map] using lengths

/-- A key that one of the dictionaries lacks is missing from the other. -/
theorem absent_iff (aligned : Aligned related left right) (key : κ) :
    left.get? key = none ↔ right.get? key = none := by
  rw [get?_eq_none_iff, get?_eq_none_iff]
  exact not_congr (by rw [← keys, aligned.keys_eq, keys])

/-- A key that reads a value reads a related one in the other dictionary. -/
theorem present (aligned : Aligned related left right) {key : κ} {value : β}
    (stored : left.get? key = some value) :
    ∃ value', right.get? key = some value' ∧ related key value value' := by
  have found : right.get? key ≠ none := by
    rw [Ne, ← aligned.absent_iff, stored]
    exact Option.some_ne_none value
  obtain ⟨value', valueEq⟩ := Option.ne_none_iff_exists'.mp found
  exact ⟨value', valueEq, aligned.values key value value' stored valueEq⟩

theorem entries (aligned : Aligned related left right) :
    List.Forall₂ (fun first second => first.1 = second.1 ∧ related first.1 first.2 second.2)
      left.entries right.entries := by
  rw [List.forall₂_iff_get]
  have lengths : left.entries.length = right.entries.length := aligned.size_eq
  refine ⟨lengths, fun index inLeft inRight => ?_⟩
  have sameKey : (left.entries.get ⟨index, inLeft⟩).1 = (right.entries.get ⟨index, inRight⟩).1 := by
    have keys_eq := aligned.keys_eq
    have keyAt := congrArg (fun keys => keys[index]?) keys_eq
    simpa [keys, inLeft, inRight] using keyAt
  have inLeft := left.get?_of_mem (List.get_mem left.entries ⟨index, inLeft⟩)
  have inRight := right.get?_of_mem (List.get_mem right.entries ⟨index, inRight⟩)
  rw [← sameKey] at inRight
  exact ⟨sameKey, aligned.values _ _ _ inLeft inRight⟩

/-- The relation may change where both dictionaries hold values. -/
theorem mono {related' : κ → β → γ → Prop} (aligned : Aligned related left right)
    (implied : ∀ key value value', left.get? key = some value →
      related key value value' → related' key value value') :
    Aligned related' left right where
  keys_eq := aligned.keys_eq
  values key value value' inLeft inRight :=
    implied key value value' inLeft (aligned.values key value value' inLeft inRight)

/-- Assigning related values to one key keeps dictionaries aligned; the relation may
change where the other keys hold values. -/
theorem set {related' : κ → β → γ → Prop} (aligned : Aligned related left right) {key : κ}
    {value : β} {value' : γ} (holds : related' key value value')
    (implied : ∀ other old old', other ≠ key → left.get? other = some old →
      related other old old' → related' other old old') :
    Aligned related' (left.set key value) (right.set key value') where
  keys_eq := by rw [keys_set, keys_set, aligned.keys_eq]
  values other old old' inLeft inRight := by
    rw [get?_set] at inLeft inRight
    split at inLeft
    next same =>
      rw [if_pos same] at inRight
      cases inLeft
      cases inRight
      exact same ▸ holds
    next different =>
      rw [if_neg different] at inRight
      exact implied other old old' different inLeft
        (aligned.values other old old' inLeft inRight)

/-- Assigning to a present key of the left dictionary alone. -/
theorem setLeft {related' : κ → β → γ → Prop} (aligned : Aligned related left right)
    {key : κ} {old value : β} {value' : γ} (inLeft : left.get? key = some old)
    (inRight : right.get? key = some value') (holds : related' key value value')
    (implied : ∀ other old old', other ≠ key → left.get? other = some old →
      related other old old' → related' other old old') :
    Aligned related' (left.set key value) right where
  keys_eq := by rw [keys_set, if_pos (mem_keys_iff.mpr ⟨old, inLeft⟩), aligned.keys_eq]
  values other found found' foundLeft foundRight := by
    rw [get?_set] at foundLeft
    split at foundLeft
    next same =>
      subst same
      rw [inRight] at foundRight
      cases foundLeft
      cases foundRight
      exact holds
    next different =>
      exact implied other found found' different foundLeft
        (aligned.values other found found' foundLeft foundRight)

/-- Filters that agree on related values keep dictionaries aligned. -/
theorem filter (aligned : Aligned related left right) {keep : κ → β → Bool}
    {keep' : κ → γ → Bool}
    (agree : ∀ key value value', left.get? key = some value → related key value value' →
      keep key value = keep' key value') :
    Aligned related (left.filter keep) (right.filter keep') where
  keys_eq := by
    rw [keys_filter, keys_filter, ← aligned.keys_eq]
    apply List.filter_congr
    intro key member
    obtain ⟨value, inLeft⟩ := mem_keys_iff.mp member
    obtain ⟨value', inRight, holds⟩ := aligned.present inLeft
    rw [inLeft, inRight, Option.any_some, Option.any_some]
    exact agree key value value' inLeft holds
  values key value value' inLeft inRight := by
    rw [get?_filter, Option.filter_eq_some_iff] at inLeft inRight
    exact aligned.values key value value' inLeft.1 inRight.1

theorem erase (aligned : Aligned related left right) (key : κ) :
    Aligned related (left.erase key) (right.erase key) :=
  aligned.filter fun _ _ _ _ _ => rfl

end Aligned

end Dict
