import SmartBandwidth.Pipeline.Optimizer
import SmartBandwidth.Policy.Loader
import SmartBandwidth.License.LicenseKey

/-!
# Building an optimizer from the command line

Every command builds its optimizer in the same way: it makes a configuration from the
arguments, checks the licence key, loads the policy file, constructs, and writes the rules
of the policy into the classifier.
-/

namespace SmartBandwidth

/-! ## Loaded policies in the pipeline -/

/-- How the pipeline takes what a loaded policy passes on unchecked: a float that need not
be finite as a rational, and a pattern of any type as a text. -/
structure PolicyReading where
  number : PyFloat → ℚ
  pattern : PyValue → String

/-- A loaded rule as the pipeline takes it. -/
def LoadedRule.read (reading : PolicyReading) (rule : LoadedRule) : PolicyRule where
  name := rule.name
  priority := rule.priority
  ports := rule.ports
  protocols := rule.protocols
  payloadPattern := rule.payloadPattern.map reading.pattern
  bandwidthMinPct := reading.number rule.bandwidthMinPct
  description := rule.description
  valueCoefficient := reading.number rule.valueCoefficient

/-- A loaded policy as the pipeline takes it. -/
def LoadedPolicy.read (reading : PolicyReading) (policy : LoadedPolicy) : Policy where
  rules := policy.rules.map (LoadedRule.read reading)
  defaultPriority := policy.defaultPriority
  bandwidthBudget := fun priority => some (policy.bandwidthBudget priority).value

/-! ## The command line -/

/-- The arguments of every command; the parser accepts the modes there are. -/
structure Arguments where
  mode : DeploymentMode := .localServer
  bw : Int := 10 * 1024 * 1024
  policy : Option String := none
  licenseKey : Option PyString.Text := none

/-- The keyword arguments by which the commands differ. -/
structure CfgKwargs where
  maxQueueSize : Int := 1024
  compressionThresholdBytes : Int := 256

/-- What a command uses of the machine it runs on: the licence runtime, the environment's
signing secret, the date, `open` and `read` with the text of an `OSError`, the YAML reader,
and the clock. -/
structure Host where
  license : LicenseRuntime
  licenseSecret : Option PyString.Text
  today : Int
  readFile : String → Raising String PyFault String
  safeLoad : String → Except String PyValue
  reading : PolicyReading
  clock : TrafficPriority → ℚ

/-- How a command ends when it gets no optimizer: with a message and exit status 1, or with
an exception that nothing catches. -/
inductive BuildFailure where
  | exit (message : String)
  | fault (fault : PyFault)
  | construction (raised : PyError)
  deriving DecidableEq, Repr

/-- Exit on the exceptions that are caught. -/
def orExit {ε α : Type} (message : ε → String) :
    Raising ε PyFault α → Except BuildFailure α
  | .ok value => .ok value
  | .error (.documented error) => .error (.exit (message error))
  | .error (.fault fault) => .error (.fault fault)

/-- `_resolve_license`. -/
def resolveLicense (host : Host) (args : Arguments) :
    Except BuildFailure (Option LicenseKey) :=
  let keyStr := args.licenseKey.getD []
  if keyStr = [] then
    .ok none
  else
    orExit (fun error => "License key error: " ++ error.message) do
      let key ← LicenseKey.parseLicenseKey host.license host.licenseSecret keyStr none
      key.requireValid host.license host.today
      return some key

/-- `PolicyLoader.load_file`; an `OSError` and a `PolicyLoadError` stand as their texts. -/
def PolicyLoader.loadFile (host : Host) (path : String) : Raising String PyFault LoadedPolicy := do
  let text ← host.readFile path
  Raising.relabel PolicyLoadError.message (loadString host.safeLoad host.license.text text)

/-- The `try` block around `load_file`. -/
def loadPolicy (host : Host) (path : String) : Except BuildFailure LoadedPolicy :=
  orExit (fun text => "Error loading policy file: " ++ text) (PolicyLoader.loadFile host path)

/-- A policy path, unless it is missing or empty. -/
def Arguments.policyPath (args : Arguments) : Option String := args.policy.filter (· ≠ "")

/-- The configuration made from the arguments. -/
def Arguments.config (args : Arguments) (kwargs : CfgKwargs) : OptimizerConfig where
  mode := args.mode
  totalBandwidthBps := args.bw
  maxQueueSize := kwargs.maxQueueSize
  compressionThresholdBytes := kwargs.compressionThresholdBytes

/-- A flow value policy, if the licence has the feature. -/
def licensedPolicy (license : Option LicenseKey) (values : FlowValuePolicy) :
    Option FlowValuePolicy :=
  if license.any fun key => key.hasFeature "pvm" then some values else none

/-- The call of the optimizer's constructor. -/
def construct (host : Host) (cfg : OptimizerConfig) (values : Option FlowValuePolicy) :
    Except BuildFailure BandwidthOptimizer :=
  match BandwidthOptimizer.init cfg values host.clock with
  | .ok optimizer => .ok optimizer
  | .error raised => .error (.construction raised)

/-- `_build_optimizer`. -/
def buildOptimizer (host : Host) (args : Arguments) (kwargs : CfgKwargs) :
    Except BuildFailure BandwidthOptimizer := do
  let cfg := args.config kwargs
  let license ← resolveLicense host args
  match args.policyPath with
  | some path =>
      let loaded ← loadPolicy host path
      let policy := loaded.read host.reading
      let optimizer ← construct host cfg (licensedPolicy license (.fromPolicy policy))
      -- The budget of the policy is not looked at.
      return { optimizer with
        classifier := {
          rules := policy.toClassificationRules
          defaultPriority := policy.defaultPriority } }
  | none => construct host cfg (licensedPolicy license (.init []))

end SmartBandwidth
