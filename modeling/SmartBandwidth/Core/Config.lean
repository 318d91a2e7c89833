import Mathlib.Data.Rat.Defs
import Mathlib.Algebra.Order.Ring.Rat
import Mathlib.Data.Fintype.Defs
import Mathlib.Data.Finset.Insert

/-!
# Configuration

Traffic classes, deployment modes and the tuneable parameters of the optimizer.
Dictionaries keyed by traffic class are partial functions on the five classes, and
every number the source keeps as a float is an exact rational.
-/

namespace SmartBandwidth

/-- Where the optimizer is deployed. -/
inductive DeploymentMode where
  | router
  | localServer
  | ispEdge
  deriving DecidableEq, Repr

/-- The string value of a deployment mode. -/
def DeploymentMode.value : DeploymentMode → String
  | .router => "router"
  | .localServer => "local_server"
  | .ispEdge => "isp_edge"

/-- The five traffic classes, most important first. -/
inductive TrafficPriority where
  | critical
  | high
  | medium
  | low
  | background
  deriving DecidableEq, Repr

namespace TrafficPriority

/-- The numeric value of a class; a lower number means higher priority. -/
def value : TrafficPriority → Nat
  | .critical => 1
  | .high => 2
  | .medium => 3
  | .low => 4
  | .background => 5

/-- The member name of a class. -/
def name : TrafficPriority → String
  | .critical => "CRITICAL"
  | .high => "HIGH"
  | .medium => "MEDIUM"
  | .low => "LOW"
  | .background => "BACKGROUND"

/-- The classes in declaration order, as `list(TrafficPriority)` gives them. -/
def all : List TrafficPriority := [.critical, .high, .medium, .low, .background]

instance : Fintype TrafficPriority where
  elems := {.critical, .high, .medium, .low, .background}
  complete := by
    intro priority
    cases priority <;> decide

theorem value_injective {left right : TrafficPriority}
    (equal : left.value = right.value) : left = right := by
  cases left <;> cases right <;> first | rfl | cases equal

theorem one_le_value (priority : TrafficPriority) : 1 ≤ priority.value := by
  cases priority <;> decide

/-- A class is critical exactly when its value is the least one. -/
theorem value_le_one_iff {priority : TrafficPriority} :
    priority.value ≤ 1 ↔ priority = .critical := by
  cases priority <;> decide

end TrafficPriority

/-- Default bandwidth budget of each class, as a fraction of the total. -/
def defaultBandwidthBudget : TrafficPriority → ℚ
  | .critical => 3 / 10
  | .high => 3 / 10
  | .medium => 2 / 10
  | .low => 1 / 10
  | .background => 5 / 100

/-- Tuneable parameters for the bandwidth optimizer. -/
structure OptimizerConfig where
  mode : DeploymentMode := .localServer
  totalBandwidthBps : Int := 10 * 1024 * 1024
  bandwidthBudget : TrafficPriority → Option ℚ :=
    fun priority => some (defaultBandwidthBudget priority)
  maxQueueSize : Int := 1024
  compressionThresholdBytes : Int := 256
  compressionLevel : Int := 6
  tokenRefillRate : TrafficPriority → Option ℚ := fun _ => none
  tokenBucketCapacityMultiplier : ℚ := 2
  redMinThreshold : ℚ := 1 / 2
  redMaxThreshold : ℚ := 9 / 10

/-- The token refill rate of a class: an explicit rate, or its budget share of the
total bandwidth. -/
def OptimizerConfig.effectiveRefillRate (config : OptimizerConfig)
    (priority : TrafficPriority) : ℚ :=
  match config.tokenRefillRate priority with
  | some rate => rate
  | none =>
      let budget := (config.bandwidthBudget priority).getD 0
      budget * config.totalBandwidthBps

end SmartBandwidth
