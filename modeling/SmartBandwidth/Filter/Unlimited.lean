import SmartBandwidth.Filter.RateLimit

/-!
# The bandwidth setting of zero

A total bandwidth of zero gives every class a derived rate of zero, which the filter
replaces by a floor of one byte per second.  The rate limit is then a very tight one, and a
run passes it exactly when every window of each class is tiny.
-/

namespace SmartBandwidth

namespace PacketFilter

end PacketFilter

/-- A total bandwidth of zero, with no explicit rates. -/
structure OptimizerConfig.ZeroBandwidth (config : OptimizerConfig) : Prop where
  total : config.totalBandwidthBps = 0
  derived : ∀ priority, config.tokenRefillRate priority = none

/-- The floor of `_init_buckets` is the rate of every class. -/
theorem OptimizerConfig.ZeroBandwidth.bucketRate {config : OptimizerConfig}
    (zero : config.ZeroBandwidth) (priority : TrafficPriority) :
    PacketFilter.bucketRate config priority = 1 := by
  have rate : config.effectiveRefillRate priority = 0 := by
    simp [effectiveRefillRate, zero.derived, zero.total]
  simp [PacketFilter.bucketRate, rate]

/-- The default configuration at a total bandwidth of zero. -/
def unlimited : OptimizerConfig where
  totalBandwidthBps := 0

end SmartBandwidth
