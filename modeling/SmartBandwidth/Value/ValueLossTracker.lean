import SmartBandwidth.Lib.Rounding
import Mathlib.Data.Rat.Defs
import Mathlib.Algebra.Order.Ring.Rat

/-!
# Value loss tracking

Delivered and dropped value is recorded with its time; totals are cumulative and rates
are taken over a sliding window.
-/

namespace SmartBandwidth

/-- The recorded events, oldest first, and the cumulative totals. -/
structure ValueLossTracker where
  window : ℚ
  delivered : List (ℚ × ℚ)
  dropped : List (ℚ × ℚ)
  totalDelivered : ℚ
  totalDropped : ℚ
  deriving DecidableEq, Repr

/-- The dictionary `to_dict()` returns. -/
structure ValueStats where
  valueDeliveredTotal : ℚ
  valueLostTotal : ℚ
  valueDeliveredPerSec : ℚ
  valueLostPerSec : ℚ
  valueEfficiencyPct : ℚ
  windowSeconds : ℚ
  deriving DecidableEq, Repr

namespace ValueLossTracker

/-- `__init__`: the window is at least a tenth of a second. -/
def init (windowSeconds : ℚ := 5) : ValueLossTracker where
  window := max (1 / 10) windowSeconds
  delivered := []
  dropped := []
  totalDelivered := 0
  totalDropped := 0

/-- `_evict_old`: drop the leading events older than two windows. -/
def evictOld (tracker : ValueLossTracker) (now : ℚ) : ValueLossTracker :=
  let cutoff := now - 2 * tracker.window
  { tracker with
    delivered := tracker.delivered.dropWhile fun event => event.1 < cutoff
    dropped := tracker.dropped.dropWhile fun event => event.1 < cutoff }

/-- `record_delivered`. -/
def recordDelivered (tracker : ValueLossTracker) (value now : ℚ) : ValueLossTracker :=
  evictOld
    { tracker with
      delivered := tracker.delivered ++ [(now, value)]
      totalDelivered := tracker.totalDelivered + value } now

/-- `record_dropped`. -/
def recordDropped (tracker : ValueLossTracker) (value now : ℚ) : ValueLossTracker :=
  evictOld
    { tracker with
      dropped := tracker.dropped ++ [(now, value)]
      totalDropped := tracker.totalDropped + value } now

/-- `_rate`. -/
def rate (tracker : ValueLossTracker) (events : List (ℚ × ℚ)) (now : ℚ) : ℚ :=
  let cutoff := now - tracker.window
  ((events.filter fun event => cutoff ≤ event.1).map Prod.snd).sum / tracker.window

/-- `value_delivered_total`. -/
def valueDeliveredTotal (tracker : ValueLossTracker) : ℚ := tracker.totalDelivered

/-- `value_lost_total`. -/
def valueLostTotal (tracker : ValueLossTracker) : ℚ := tracker.totalDropped

/-- `value_delivered_per_sec`. -/
def valueDeliveredPerSec (tracker : ValueLossTracker) (now : ℚ) : ℚ :=
  tracker.rate tracker.delivered now

/-- `value_lost_per_sec`. -/
def valueLostPerSec (tracker : ValueLossTracker) (now : ℚ) : ℚ :=
  tracker.rate tracker.dropped now

/-- `value_efficiency_pct`, with the clock readings of its two rates. -/
def valueEfficiencyPct (tracker : ValueLossTracker) (deliveredNow lostNow : ℚ) : ℚ :=
  let delivered := tracker.rate tracker.delivered deliveredNow
  let lost := tracker.rate tracker.dropped lostNow
  let total := delivered + lost
  if 0 < total then 100 * delivered / total else 100

/-- `to_dict`, with the four clock readings it takes. -/
def toDict (tracker : ValueLossTracker) (clock : Nat → ℚ) : ValueStats where
  valueDeliveredTotal := Rounding.round tracker.totalDelivered 4
  valueLostTotal := Rounding.round tracker.totalDropped 4
  valueDeliveredPerSec := Rounding.round (tracker.rate tracker.delivered (clock 0)) 4
  valueLostPerSec := Rounding.round (tracker.rate tracker.dropped (clock 1)) 4
  valueEfficiencyPct := Rounding.round (tracker.valueEfficiencyPct (clock 2) (clock 3)) 2
  windowSeconds := tracker.window

/-- `reset`. -/
def reset (tracker : ValueLossTracker) : ValueLossTracker :=
  { tracker with delivered := [], dropped := [], totalDelivered := 0, totalDropped := 0 }

@[simp] theorem recordDelivered_totals (tracker : ValueLossTracker) (value now : ℚ) :
    (tracker.recordDelivered value now).totalDelivered = tracker.totalDelivered + value ∧
      (tracker.recordDelivered value now).totalDropped = tracker.totalDropped :=
  ⟨rfl, rfl⟩

end ValueLossTracker

end SmartBandwidth
