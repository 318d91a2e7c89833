import SmartBandwidth.Cli.BuildOptimizer
import SmartBandwidth.Pipeline.Processing
import SmartBandwidth.Filter.RateLimit
import SmartBandwidth.Policy.Agreement

/-!
# Enforcement of a loaded policy

A policy writes a class for every packet and a rate for every class.  The builder carries
the rules and the default class into the optimizer, and nothing that runs afterwards
touches them.  The bandwidth budget stays behind: every bucket is filled at the default
share of the total.
-/

namespace SmartBandwidth

/-! ## What a policy writes -/

/-- Whether a loaded rule matches a packet; the search for a malformed pattern raises. -/
def LoadedRule.accepts (reading : PolicyReading) (rt : Runtime) (rule : LoadedRule)
    (packet : Packet) : Except PyError Bool :=
  if headerMatches rt.lower rule.ports rule.protocols packet then
    match rule.payloadPattern with
    | some pattern => rt.search (reading.pattern pattern) packet.snippet
    | none => .ok true
  else
    .ok false

/-- The class written for a packet: that of the first rule it matches, or the default. -/
def LoadedPolicy.priorityOf (reading : PolicyReading) (rt : Runtime) (policy : LoadedPolicy)
    (packet : Packet) : Except PyError TrafficPriority :=
  match FirstMatch.firstMatchM (fun rule => rule.accepts reading rt packet) policy.rules with
  | .error raised => .error raised
  | .ok (some (_, rule)) => .ok rule.priority
  | .ok none => .ok policy.defaultPriority

/-- A refill rate with the floor that keeps a bucket functional. -/
def floored (rate : ℚ) : ℚ := if rate ≤ 0 then 1 else rate

/-- The refill rate written for a class: its share of the total. -/
def LoadedPolicy.rateOf (policy : LoadedPolicy) (total : Int) (priority : TrafficPriority) : ℚ :=
  floored ((policy.bandwidthBudget priority).value * total)

/-- An optimizer treats packets and classes as a policy writes.  Classification that raises
makes the call raise. -/
structure Enforces (reading : PolicyReading) (rt : Runtime) (policy : LoadedPolicy)
    (total : Int) (optimizer : BandwidthOptimizer) : Prop where
  classifies : ∀ (store : Store) (readings : ProcessReadings) (ref : PacketRef),
    (store ref).priority = none →
    let (record, tracker) := optimizer.flowTracker.update rt (store ref) readings.flow
    let (result, _, after) := optimizer.process rt store readings ref
    match policy.priorityOf reading rt (store ref) with
    | .ok priority => (after ref).priority = some (tracker.priorityHint priority record)
    | .error raised => result = .error raised ∧ (after ref).priority = none
  meters : ∀ priority,
    (optimizer.packetFilter.buckets priority).refillRate = policy.rateOf total priority

/-! ## The rules reach the classifier -/

theorem LoadedRule.matches_read (reading : PolicyReading) (rt : Runtime) (rule : LoadedRule)
    (packet : Packet) :
    (rule.read reading).toClassificationRule.matches rt packet =
      rule.accepts reading rt packet := by
  change (if headerMatches rt.lower rule.ports rule.protocols packet then _ else _) =
    (if headerMatches rt.lower rule.ports rule.protocols packet then _ else _)
  cases headerMatches rt.lower rule.ports rule.protocols packet with
  | false => rfl
  | true =>
      simp only [↓reduceIte, LoadedRule.read, PolicyRule.toClassificationRule]
      cases rule.payloadPattern with
      | none => rfl
      | some pattern => rfl

theorem LoadedPolicy.classify_read (reading : PolicyReading) (rt : Runtime)
    (policy : LoadedPolicy) (packet : Packet) :
    (policy.read reading).classifier.classify rt packet = policy.priorityOf reading rt packet := by
  have rows : (policy.read reading).classifier.rules =
      policy.rules.map fun rule => (rule.read reading).toClassificationRule :=
    List.map_map
  have tests : (fun rule : LoadedRule =>
      (rule.read reading).toClassificationRule.matches rt packet) =
      fun rule => rule.accepts reading rt packet := by
    funext rule
    exact rule.matches_read reading rt packet
  rw [TrafficClassifier.classify, TrafficClassifier.matchingRule, rows,
    FirstMatch.firstMatchM_map, tests, priorityOf]
  cases FirstMatch.firstMatchM (fun rule => rule.accepts reading rt packet) policy.rules with
  | error raised => rfl
  | ok found =>
      cases found with
      | none => rfl
      | some found => rfl

/-! ## What a packet without a class gets -/

namespace BandwidthOptimizer

/-- Stages 0 to 1c move the class that the classifier returns by the flow's hint. -/
theorem preparation_of_unset (rt : Runtime) (optimizer : BandwidthOptimizer) {store : Store}
    {ref : PacketRef} (unset : (store ref).priority = none) (readings : ProcessReadings) :
    let tracked := optimizer.flowTracker.update rt (store ref) readings.flow
    match optimizer.classifier.classify rt (store ref) with
    | .error raised => optimizer.preparation rt store readings ref = .error raised
    | .ok priority => ∃ prepared, optimizer.preparation rt store readings ref = .ok prepared ∧
        prepared.packet.priority = some (tracked.2.priorityHint priority tracked.1) := by
  intro tracked
  cases classifies : optimizer.classifier.classify rt (store ref) with
  | error raised => simp only [preparation, prepare, classifyStage, unset, classifies]
  | ok priority =>
      simp only [preparation, prepare, classifyStage, unset, classifies]
      cases optimizer.engine.flowValuePolicy with
      | none => exact ⟨_, rfl, rfl⟩
      | some values => exact ⟨_, rfl, rfl⟩

end BandwidthOptimizer

/-! ## What runs keep -/

namespace BandwidthOptimizer

/-- The optimizer classifies by a table and fills its buckets at given rates. -/
structure Runs (classifier : TrafficClassifier) (rates : TrafficPriority → ℚ)
    (optimizer : BandwidthOptimizer) : Prop where
  classifierEq : optimizer.classifier = classifier
  rateEq : ∀ priority, (optimizer.packetFilter.buckets priority).refillRate = rates priority

variable {classifier : TrafficClassifier} {rates : TrafficPriority → ℚ}
variable {optimizer : BandwidthOptimizer}

theorem process_runs (runs : optimizer.Runs classifier rates) (rt : Runtime) (store : Store)
    (readings : ProcessReadings) (ref : PacketRef) :
    (optimizer.process rt store readings ref).2.1.Runs classifier rates := by
  have decided (prepared : Prepared) (priority : TrafficPriority) :
      ((optimizer.filtering readings prepared).2.buckets priority).refillRate =
        rates priority :=
    (PacketFilter.shouldDrop_refillRate _ _ _ _ _ _).trans (runs.rateEq priority)
  have processes := optimizer.process_processes rt store readings ref
  generalize optimizer.process rt store readings ref = outcome at processes ⊢
  cases processes with
  | classifyRaised => exact ⟨runs.classifierEq, runs.rateEq⟩
  | @filtered prepared => exact ⟨runs.classifierEq, decided prepared⟩
  | @compressRaised prepared => exact ⟨runs.classifierEq, decided prepared⟩
  | @admitted prepared => exact ⟨runs.classifierEq, decided prepared⟩

/-- No call changes the table or a rate. -/
theorem call_runs {state : BandwidthOptimizer × Store} (runs : state.1.Runs classifier rates)
    (rt : Runtime) (call : OptimizerCall) :
    (BandwidthOptimizer.call rt state call).2.1.Runs classifier rates := by
  cases call with
  | process ref readings => exact process_runs runs rt state.2 readings ref
  | dequeue => exact ⟨runs.classifierEq, runs.rateEq⟩
  | drain => exact ⟨runs.classifierEq, runs.rateEq⟩
  | drainNext =>
      simp only [BandwidthOptimizer.call]
      split
      next => exact runs
      next => exact ⟨runs.classifierEq, runs.rateEq⟩
  | resetStats => exact ⟨runs.classifierEq, runs.rateEq⟩

theorem run_runs {state : BandwidthOptimizer × Store} (runs : state.1.Runs classifier rates)
    (rt : Runtime) (calls : List OptimizerCall) :
    (Machine.run (BandwidthOptimizer.call rt) state calls).2.1.Runs classifier rates := by
  have kept : ∀ (current : BandwidthOptimizer × Store) (call : OptimizerCall),
      current.1.Runs classifier rates →
      (BandwidthOptimizer.call rt current call).2.1.Runs classifier rates :=
    fun _ call before => call_runs before rt call
  exact Machine.run_invariant kept runs calls

/-- An optimizer that runs on a policy's table enforces the policy exactly when it fills
its buckets at the rates of the policy. -/
theorem Runs.enforces_iff {reading : PolicyReading} {policy : LoadedPolicy}
    (runs : optimizer.Runs (policy.read reading).classifier rates) (rt : Runtime) (total : Int) :
    Enforces reading rt policy total optimizer ↔
      ∀ priority, rates priority = policy.rateOf total priority := by
  constructor
  · intro enforces priority
    rw [← runs.rateEq priority]
    exact enforces.meters priority
  · intro same
    constructor
    · intro store readings ref unset
      have prepares := preparation_of_unset rt optimizer unset readings
      rw [runs.classifierEq, policy.classify_read] at prepares
      cases written : policy.priorityOf reading rt (store ref) with
      | error raised =>
          rw [written] at prepares
          obtain ⟨result, after⟩ := process_of_raised prepares
          exact ⟨result, (congrArg Packet.priority (congrFun after ref)).trans unset⟩
      | ok priority =>
          rw [written] at prepares
          obtain ⟨prepared, ready, hinted⟩ := prepares
          exact (process_priority ready).trans hinted
    · intro priority
      rw [runs.rateEq priority, same priority]

end BandwidthOptimizer

/-! ## Rates -/

theorem floored_of_pos {rate : ℚ} (positive : 0 < rate) : floored rate = rate :=
  if_neg (not_le.mpr positive)

theorem floored_of_nonpos {rate : ℚ} (nonpositive : rate ≤ 0) : floored rate = 1 :=
  if_pos nonpositive

/-- Two shares of a total, the first one positive, give one rate only where they are the
same, or where the floor hides the difference. -/
theorem floored_share_eq_iff {first second total : ℚ} (positive : 0 < first)
    (nonnegative : 0 ≤ second) :
    floored (first * total) = floored (second * total) ↔
      total ≤ 0 ∨ second = first ∨ second = 0 ∧ first * total = 1 := by
  cases le_or_gt total 0 with
  | inl empty =>
      rw [floored_of_nonpos (mul_nonpos_of_nonneg_of_nonpos positive.le empty),
        floored_of_nonpos (mul_nonpos_of_nonneg_of_nonpos nonnegative empty)]
      exact ⟨fun _ => .inl empty, fun _ => rfl⟩
  | inr available =>
      rw [floored_of_pos (mul_pos positive available), or_iff_right (not_le.mpr available)]
      cases nonnegative.eq_or_lt with
      | inl zero =>
          rw [← zero, zero_mul, floored_of_nonpos le_rfl, or_iff_right positive.ne]
          exact (and_iff_right rfl).symm
      | inr given =>
          rw [floored_of_pos (mul_pos given available), mul_left_inj' available.ne', eq_comm]
          constructor
          · exact .inl
          · intro cause
            cases cause with
            | inl same => exact same
            | inr hidden => exact absurd hidden.1 given.ne'

theorem defaultBandwidthBudget_pos (priority : TrafficPriority) :
    0 < defaultBandwidthBudget priority := by
  cases priority <;> decide +kernel

/-! ## The builder -/

section Builder

variable {host : Host} {args : Arguments} {path : String} {policy : LoadedPolicy}
variable {license : Option LicenseKey}

/-- With a licence that passes and a policy that loads, the builder puts the policy's table
into what the constructor returns. -/
theorem buildOptimizer_of_loaded {kwargs : CfgKwargs} {fresh : BandwidthOptimizer}
    (named : args.policyPath = some path) (licensed : resolveLicense host args = .ok license)
    (loads : PolicyLoader.loadFile host path = .ok policy)
    (constructed : BandwidthOptimizer.init (args.config kwargs)
      (licensedPolicy license (.fromPolicy (policy.read host.reading))) host.clock = .ok fresh) :
    buildOptimizer host args kwargs =
      .ok { fresh with classifier := (policy.read host.reading).classifier } := by
  have loaded : loadPolicy host path = .ok policy := by rw [loadPolicy, loads, orExit]
  simp only [buildOptimizer, licensed, named, loaded, construct, constructed, bind, Except.bind]
  rfl

/-- A built optimizer runs on the table of the policy, at the default shares. -/
theorem buildOptimizer_runs (kwargs : CfgKwargs) (named : args.policyPath = some path)
    (licensed : resolveLicense host args = .ok license)
    (loads : PolicyLoader.loadFile host path = .ok policy) :
    ∃ optimizer, buildOptimizer host args kwargs = .ok optimizer ∧
      optimizer.Runs (policy.read host.reading).classifier
        fun priority => floored (defaultBandwidthBudget priority * args.bw) := by
  obtain ⟨fresh, constructed⟩ : ∃ fresh, BandwidthOptimizer.init (args.config kwargs)
      (licensedPolicy license (.fromPolicy (policy.read host.reading))) host.clock = .ok fresh :=
    BandwidthOptimizer.init_constructs _ two_pos _
  obtain ⟨packetFilter, filtered, rfl⟩ := BandwidthOptimizer.init_eq_ok constructed
  apply Exists.intro
  apply And.intro (buildOptimizer_of_loaded named licensed loads constructed)
  constructor
  · rfl
  · intro priority
    exact (PacketFilter.init_buckets filtered priority).1

/-- For every policy that loads and every total, the optimizer that is built enforces the
policy in every state of every run exactly when the total is not positive or each class's
share is the default one, up to a share of zero that the floor meets by chance. -/
theorem buildOptimizer_enforces_iff (rt : Runtime) (kwargs : CfgKwargs)
    (named : args.policyPath = some path) (licensed : resolveLicense host args = .ok license)
    (loads : PolicyLoader.loadFile host path = .ok policy) :
    ∃ optimizer, buildOptimizer host args kwargs = .ok optimizer ∧
      ((∀ (store : Store) (calls : List OptimizerCall),
          Enforces host.reading rt policy args.bw
            (Machine.run (BandwidthOptimizer.call rt) (optimizer, store) calls).2.1) ↔
        ∀ priority,
          args.bw ≤ 0 ∨
            (policy.bandwidthBudget priority).value = defaultBandwidthBudget priority ∨
            (policy.bandwidthBudget priority).value = 0 ∧
              defaultBandwidthBudget priority * args.bw = 1) := by
  obtain ⟨optimizer, built, runs⟩ := buildOptimizer_runs kwargs named licensed loads
  have reached (store : Store) (calls : List OptimizerCall) :
      Enforces host.reading rt policy args.bw
          (Machine.run (BandwidthOptimizer.call rt) (optimizer, store) calls).2.1 ↔
        ∀ priority, floored (defaultBandwidthBudget priority * args.bw) =
          policy.rateOf args.bw priority := by
    have started : (optimizer, store).1.Runs (policy.read host.reading).classifier
        fun priority => floored (defaultBandwidthBudget priority * args.bw) := runs
    exact (BandwidthOptimizer.run_runs started rt calls).enforces_iff rt args.bw
  have rates (priority : TrafficPriority) :
      floored (defaultBandwidthBudget priority * args.bw) = policy.rateOf args.bw priority ↔
        args.bw ≤ 0 ∨
          (policy.bandwidthBudget priority).value = defaultBandwidthBudget priority ∨
          (policy.bandwidthBudget priority).value = 0 ∧
            defaultBandwidthBudget priority * args.bw = 1 := by
    rw [LoadedPolicy.rateOf, floored_share_eq_iff (defaultBandwidthBudget_pos priority)
      (policy.bandwidthBudget priority).nonneg, Int.cast_nonpos]
  apply Exists.intro optimizer
  apply And.intro built
  rw [← forall_congr' rates]
  constructor
  · intro enforces
    exact (reached (fun _ => {}) []).mp (enforces _ [])
  · intro same store calls
    exact (reached store calls).mpr same

end Builder

/-! ## A policy with a budget of its own -/

/-- A policy file that gives a quarter of the bandwidth to critical traffic. -/
def quarterCriticalText : String := "defaults:\n  bandwidth_budget:\n    CRITICAL: 0.25\n"

/-- What the YAML reader makes of it. -/
def quarterCriticalData : PyValue :=
  .dict [(.str "defaults",
    .dict [(.str "bandwidth_budget", .dict [(.str "CRITICAL", .float (.finite (1 / 4)))])])]

/-- A machine that holds this file and no licence. -/
def sampleHost : Host where
  license :=
    { text := .ascii
      lower := id
      hmac := Trust.sampleHmac
      dumps := fun _ => ""
      loads := fun _ => .error ""
      isoFormat := fun _ => ""
      fromIsoFormat := fun _ => none }
  licenseSecret := none
  today := 739617
  readFile := fun _ => .ok quarterCriticalText
  safeLoad := fun text =>
    if text = quarterCriticalText then .ok quarterCriticalData else .error "unexpected text"
  reading := { number := fun _ => 0, pattern := fun _ => "" }
  clock := fun _ => 0

/-- `--policy policy.yaml --bw 1000`. -/
def sampleArguments : Arguments where
  bw := 1000
  policy := some "policy.yaml"

/-- The policy that the file holds. -/
def quarterCritical : LoadedPolicy where
  rules := []
  defaultPriority := .medium
  bandwidthBudget := Function.update defaultFraction .critical
    { value := 1 / 4, nonneg := by decide +kernel, le_one := by decide +kernel }

theorem parseBudget_quarterCritical :
    PolicyLoader.parseBudget .ascii defaultFraction
      [(.str "CRITICAL", .float (.finite (1 / 4)))] = .ok quarterCritical.bandwidthBudget := by
  have share : fraction? (.finite (1 / 4)) = some (quarterCritical.bandwidthBudget .critical) :=
    dif_pos (by decide +kernel)
  refine Raising.bind_eq_ok.mpr ⟨.critical, rfl, ?_⟩
  refine Raising.bind_eq_ok.mpr ⟨.finite (1 / 4), rfl, ?_⟩
  rw [share]
  rfl

theorem loadFile_quarterCritical :
    PolicyLoader.loadFile sampleHost "policy.yaml" = .ok quarterCritical := by
  have budget : PolicyLoader.budgetOf .ascii [(.str "bandwidth_budget",
      .dict [(.str "CRITICAL", .float (.finite (1 / 4)))])] =
        .ok quarterCritical.bandwidthBudget :=
    Raising.bind_eq_ok.mpr ⟨_, rfl, parseBudget_quarterCritical⟩
  have parses : PolicyLoader.parse .ascii quarterCriticalData = .ok quarterCritical := by
    refine Raising.bind_eq_ok.mpr ⟨_, rfl, ?_⟩
    refine Raising.bind_eq_ok.mpr ⟨_, rfl, ?_⟩
    refine Raising.bind_eq_ok.mpr ⟨.medium, rfl, ?_⟩
    refine Raising.bind_eq_ok.mpr ⟨_, budget, ?_⟩
    rfl
  have loads : PolicyLoader.loadString sampleHost.safeLoad sampleHost.license.text
      quarterCriticalText = .ok quarterCritical :=
    parses
  refine Raising.bind_eq_ok.mpr ⟨quarterCriticalText, rfl, ?_⟩
  rw [loads]
  rfl

/-- The rates of the built optimizer are those of the default budget. -/
theorem budget_not_enforced :
    ∃ optimizer, buildOptimizer sampleHost sampleArguments {} = .ok optimizer ∧
      (optimizer.packetFilter.buckets .critical).refillRate = 300 ∧
      quarterCritical.rateOf sampleArguments.bw .critical = 250 ∧
      ¬ Enforces sampleHost.reading .plain quarterCritical sampleArguments.bw optimizer := by
  obtain ⟨optimizer, built, runs⟩ : ∃ optimizer,
      buildOptimizer sampleHost sampleArguments {} = .ok optimizer ∧
        optimizer.Runs (quarterCritical.read sampleHost.reading).classifier
          fun priority => floored (defaultBandwidthBudget priority * sampleArguments.bw) :=
    buildOptimizer_runs {} rfl rfl loadFile_quarterCritical
  have actual : (optimizer.packetFilter.buckets .critical).refillRate = 300 := by
    rw [runs.rateEq]
    decide +kernel
  have written : quarterCritical.rateOf sampleArguments.bw .critical = 250 := by
    decide +kernel
  apply Exists.intro optimizer
  apply And.intro built
  apply And.intro actual
  apply And.intro written
  intro enforces
  have same := enforces.meters .critical
  rw [actual, written] at same
  revert same
  decide +kernel

/-- The share that the file gives to critical traffic is not the default one. -/
theorem quarterCritical_not_enforced :
    ∃ optimizer, buildOptimizer sampleHost sampleArguments {} = .ok optimizer ∧
      ¬ ∀ (store : Store) (calls : List OptimizerCall),
        Enforces sampleHost.reading .plain quarterCritical 1000
          (Machine.run (BandwidthOptimizer.call .plain) (optimizer, store) calls).2.1 := by
  obtain ⟨optimizer, built, enforces_iff⟩ :=
    buildOptimizer_enforces_iff .plain {} (show sampleArguments.policyPath = some "policy.yaml" from rfl)
      (show resolveLicense sampleHost sampleArguments = .ok none from rfl) loadFile_quarterCritical
  refine ⟨optimizer, built, ?_⟩
  intro enforces
  exact absurd (enforces_iff.mp enforces .critical) (by decide +kernel)

end SmartBandwidth
