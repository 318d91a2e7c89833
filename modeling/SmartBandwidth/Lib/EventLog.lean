import Mathlib.Data.List.Basic
import Mathlib.Order.Lattice

/-!
# Pruned event logs

A log of timed events that is read from some time on does not need its older events.  A kept
part of the log serves all reads from a horizon on if it agrees with the log there; later
horizons, new events and pruning before the horizon keep this up, and the log need not be
sorted.
-/

universe u v

namespace EventLog

variable {τ : Type u} {ν : Type v} [LinearOrder τ]

/-- The events of a log from a time on. -/
def since (cutoff : τ) (log : List (τ × ν)) : List (τ × ν) :=
  log.filter fun event => cutoff ≤ event.1

theorem since_append (cutoff : τ) (first second : List (τ × ν)) :
    since cutoff (first ++ second) = since cutoff first ++ since cutoff second :=
  List.filter_append ..

/-- A read from a later time does not see what an earlier cutoff removes. -/
theorem since_since {earlier later : τ} (ordered : earlier ≤ later) (log : List (τ × ν)) :
    since later (since earlier log) = since later log := by
  rw [since, since, List.filter_filter]
  apply List.filter_congr
  intro event _
  rw [Bool.and_eq_left_iff_imp]
  intro recent
  exact decide_eq_true (ordered.trans (of_decide_eq_true recent))

/-- Pruning from the left is not seen by a read of what is never pruned. -/
theorem filter_dropWhile {α : Type*} {prune read : α → Bool}
    (unseen : ∀ event, prune event = true → read event = false) (log : List α) :
    (log.dropWhile prune).filter read = log.filter read := by
  induction log with
  | nil => rfl
  | cons event rest ih =>
      rw [List.dropWhile_cons]
      split
      next old => rw [ih, List.filter_cons_of_neg (by simp [unseen event old])]
      next => rfl

/-- Pruning from the left up to a cutoff is not seen from the cutoff on. -/
theorem since_dropWhile {cutoff horizon : τ} (before : cutoff ≤ horizon) (log : List (τ × ν)) :
    since horizon (log.dropWhile fun event => event.1 < cutoff) = since horizon log := by
  apply filter_dropWhile
  intro event old
  exact decide_eq_false (not_le.mpr ((of_decide_eq_true old).trans_le before))

/-- In a log whose times do not fall, pruning up to a cutoff leaves what comes from the cutoff
on. -/
theorem dropWhile_eq_since {log : List (τ × ν)}
    (sorted : log.Pairwise fun first second => first.1 ≤ second.1) (cutoff : τ) :
    log.dropWhile (fun event => event.1 < cutoff) = since cutoff log := by
  induction log with
  | nil => rfl
  | cons event rest ih =>
      rw [List.pairwise_cons] at sorted
      rw [List.dropWhile_cons, since, List.filter_cons]
      by_cases old : event.1 < cutoff
      · rw [if_pos (decide_eq_true old), if_neg (by simpa using old), ih sorted.2, since]
      · have recent : cutoff ≤ event.1 := not_lt.mp old
        have later : rest.filter (fun event => cutoff ≤ event.1) = rest := by
          rw [List.filter_eq_self]
          intro other member
          exact decide_eq_true (recent.trans (sorted.1 other member))
        rw [if_neg (by simpa using old), if_pos (decide_eq_true recent), later]

/-- The kept events answer every read from the horizon on as the log does. -/
def AgreeFrom (horizon : τ) (kept log : List (τ × ν)) : Prop :=
  since horizon kept = since horizon log

namespace AgreeFrom

variable {horizon : τ} {kept log : List (τ × ν)}

theorem refl (log : List (τ × ν)) : AgreeFrom horizon log log := rfl

theorem since_eq (agree : AgreeFrom horizon kept log) {cutoff : τ} (later : horizon ≤ cutoff) :
    since cutoff kept = since cutoff log := by
  rw [← since_since later kept, agree, since_since later log]

theorem later (agree : AgreeFrom horizon kept log) {other : τ} (ordered : horizon ≤ other) :
    AgreeFrom other kept log :=
  agree.since_eq ordered

theorem append (agree : AgreeFrom horizon kept log) (events : List (τ × ν)) :
    AgreeFrom horizon (kept ++ events) (log ++ events) := by
  rw [AgreeFrom, since_append, since_append, agree]

theorem dropWhile (agree : AgreeFrom horizon kept log) {cutoff : τ} (before : cutoff ≤ horizon) :
    AgreeFrom horizon (kept.dropWhile fun event => event.1 < cutoff) log :=
  (since_dropWhile before kept).trans agree

end AgreeFrom

end EventLog
