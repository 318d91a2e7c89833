import SmartBandwidth.Value.Coherence

/-!
# Operator and tuner on one policy

The overrides of a value policy are public: an operator sets and clears them while a tuner
writes them too.
-/

namespace SmartBandwidth

/-- What changes coefficients while the optimizer runs: the operator and the tuner. -/
inductive CoefficientCall where
  | setOverride (ruleName : String) (coefficient : ℚ)
  | clearOverride (ruleName : String)
  | tuner (call : TunerCall)

/-- One call by either of them. -/
def ValueCoefficientTuner.operate (shared : TunedPolicy) : CoefficientCall → Unit × TunedPolicy
  | .setOverride ruleName coefficient =>
      ((), shared.1, shared.2.setOverride ruleName coefficient)
  | .clearOverride ruleName => ((), shared.1, shared.2.clearOverride ruleName)
  | .tuner call => ((), (ValueCoefficientTuner.call shared call).2)

end SmartBandwidth
