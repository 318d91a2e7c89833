import Mathlib.Algebra.Order.Group.Defs
import Mathlib.Algebra.BigOperators.Group.List.Basic
import Mathlib.Algebra.Ring.Nat
import Mathlib.Data.List.Induction

/-!
# Tumbling windows

Events are counted in windows of a length.  A window starts with the event that comes more than
the length after the start of the window before, so it closes only when that event arrives.
-/

universe u

/-- The events of the windows that have closed and of the one that is open. -/
structure TumblingWindows (τ : Type u) where
  start : τ
  closed : List (List τ)
  current : List τ

namespace TumblingWindows

variable {τ : Type u} [LinearOrder τ] [Sub τ]

/-- Close the open window and start the next one with an event. -/
def close (windows : TumblingWindows τ) (now : τ) : TumblingWindows τ where
  start := now
  closed := windows.closed ++ [windows.current]
  current := [now]

/-- The windows after one more event. -/
def step (length : τ) (windows : TumblingWindows τ) (now : τ) : TumblingWindows τ :=
  if length < now - windows.start then
    windows.close now
  else
    { windows with current := windows.current ++ [now] }

/-- The windows of a list of events, the first of which starts at a time. -/
def ofTimes (length start : τ) (times : List τ) : TumblingWindows τ :=
  times.foldl (step length) { start := start, closed := [], current := [] }

theorem ofTimes_snoc (length start : τ) (times : List τ) (now : τ) :
    ofTimes length start (times ++ [now]) = (ofTimes length start times).step length now := by
  rw [ofTimes, List.foldl_append]
  rfl

/-- All events, window by window. -/
def events (windows : TumblingWindows τ) : List τ :=
  windows.closed.flatten ++ windows.current

/-- The events in the closed windows. -/
def closedCounts (windows : TumblingWindows τ) : List Nat :=
  windows.closed.map List.length

/-- The most events of a closed window; no window counts as an empty one. -/
def peak (windows : TumblingWindows τ) : Nat :=
  windows.closedCounts.foldl max 0

omit [LinearOrder τ] [Sub τ] in
theorem peak_close (windows : TumblingWindows τ) (now : τ) :
    (windows.close now).peak = max windows.peak windows.current.length := by
  rw [peak, closedCounts, close, List.map_append, List.foldl_append]
  rfl

/-- Every event is in a window. -/
theorem events_ofTimes (length start : τ) (times : List τ) :
    (ofTimes length start times).events = times := by
  induction times using List.reverseRecOn with
  | nil => rfl
  | append_singleton times now ih =>
      rw [events] at ih
      rw [ofTimes_snoc, step]
      split
      next => simp only [close, events, List.flatten_append, List.flatten_singleton, ih]
      next => simp only [events, ← List.append_assoc, ih]

/-- The events of the closed windows and of the open one are all events. -/
theorem counts_ofTimes (length start : τ) (times : List τ) :
    (ofTimes length start times).closedCounts.sum +
      (ofTimes length start times).current.length = times.length := by
  have all := congrArg List.length (events_ofTimes length start times)
  rwa [events, List.length_append, List.length_flatten] at all

end TumblingWindows
