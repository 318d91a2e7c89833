import Mathlib.Logic.Function.Basic

/-!
# Stores with lazy expiry

A store holds the latest entry of each key, and an eviction removes those that have expired by
then.  Between two evictions it may hold expired entries, but the only entries it lacks are
expired ones, so the entries that have not expired can be read off it at any time.
-/

universe u v

namespace LazyExpiry

variable {κ : Type u} {β : Type v}

/-- The stored entries are the latest ones, of which at most expired ones are missing. -/
structure Lags (expired : β → Prop) (stored latest : κ → Option β) : Prop where
  latest_of_stored : ∀ key entry, stored key = some entry → latest key = some entry
  expired_of_missing : ∀ key entry, latest key = some entry → stored key = none → expired entry

namespace Lags

variable {expired : β → Prop} {stored latest : κ → Option β}

/-- A store without entries lacks none while there are no latest ones. -/
theorem empty : Lags expired (fun _ : κ => none) (fun _ => none) where
  latest_of_stored := by simp
  expired_of_missing := by simp

/-- A new entry of a key, or its removal. -/
theorem update [DecidableEq κ] (lags : Lags expired stored latest) (key : κ) (entry : Option β) :
    Lags expired (Function.update stored key entry) (Function.update latest key entry) where
  latest_of_stored query found isStored := by
    by_cases same : query = key
    · subst same
      rw [Function.update_self] at isStored ⊢
      exact isStored
    · rw [Function.update_of_ne same] at isStored ⊢
      exact lags.latest_of_stored query found isStored
  expired_of_missing query found isLatest missing := by
    by_cases same : query = key
    · subst same
      rw [Function.update_self] at isLatest missing
      rw [missing] at isLatest
      cases isLatest
    · rw [Function.update_of_ne same] at isLatest missing
      exact lags.expired_of_missing query found isLatest missing

/-- The removal of expired entries. -/
theorem evict (lags : Lags expired stored latest) {keep : β → Bool}
    (removes : ∀ entry, keep entry = false → expired entry) :
    Lags expired (fun key => (stored key).filter keep) latest where
  latest_of_stored key entry isStored :=
    lags.latest_of_stored key entry (Option.filter_eq_some_iff.mp isStored).1
  expired_of_missing key entry isLatest missing := by
    cases held : stored key with
    | none => exact lags.expired_of_missing key entry isLatest held
    | some other =>
        cases (lags.latest_of_stored key other held).symm.trans isLatest
        rw [held, Option.filter_eq_none_iff] at missing
        exact removes entry (Bool.eq_false_iff.mpr (missing entry rfl))

/-- The store has the entries that have not expired. -/
theorem live_iff (lags : Lags expired stored latest) (key : κ) :
    (∃ entry, stored key = some entry ∧ ¬ expired entry) ↔
      ∃ entry, latest key = some entry ∧ ¬ expired entry := by
  constructor
  · intro held
    obtain ⟨entry, isStored, fresh⟩ := held
    exact ⟨entry, lags.latest_of_stored key entry isStored, fresh⟩
  · intro known
    obtain ⟨entry, isLatest, fresh⟩ := known
    cases held : stored key with
    | none => exact absurd (lags.expired_of_missing key entry isLatest held) fresh
    | some other =>
        cases (lags.latest_of_stored key other held).symm.trans isLatest
        exact ⟨entry, rfl, fresh⟩

end Lags

end LazyExpiry
