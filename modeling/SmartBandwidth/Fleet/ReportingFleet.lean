import SmartBandwidth.Fleet.Heartbeats
import SmartBandwidth.Fleet.ReportedValues
import SmartBandwidth.Fleet.Sites
import SmartBandwidth.Fleet.Views

/-!
# A fleet that reports

The optimizers of a fleet answer calls, their agents sign and post what their statistics say, the
network delivers what it likes to a coordinator, and operators read and remove.  Whatever the
order, a summary shows what the replies of the live nodes had logged when they were asked.
-/

namespace SmartBandwidth

open PyObject PyValue FleetSummary

/-- The coordinator, the calls that each node has answered, and the heartbeats posted so far. -/
structure ReportingFleet where
  coordinator : AgentCoordinator Entries
  calls : String → List OptimizerCall
  posted : List HeartbeatPost

/-- A fleet before any call, with a coordinator that requires authentication. -/
def ReportingFleet.init (agentTtl : ℚ) (authSecret : String) : ReportingFleet where
  coordinator := .init agentTtl true authSecret
  calls := fun _ => []
  posted := []

section Fleet

variable (hmac : Hmac) (py : PyText) (dumps : PyObject → Except PyFault (List UInt8))
variable (loads : List UInt8 → Option PyValue)
variable (listLess : List PyValue → List PyValue → Except PyFault Bool)
variable (authSecret : String) (sites : String → Site)

/-- One step.  The clock of a node does not go back.  The network takes any request to any URL,
but it cannot forge, and it takes a heartbeat to the URL of its node only. -/
inductive ReportingStep : ReportingFleet → ReportingFleet → Prop where
  | call {fleet : ReportingFleet} (nodeId : String) (call : OptimizerCall)
      (ordered : (recordReadings (fleet.calls nodeId ++ [call])).Pairwise (· ≤ ·)) :
      ReportingStep fleet
        { fleet with
          calls := Function.update fleet.calls nodeId (fleet.calls nodeId ++ [call]) }
  | heartbeat {fleet : ReportingFleet} (nodeId : String) (agent : NodeAgent) (clock : Nat → ℚ)
      (payload : List UInt8)
      (later : ∀ reading ∈ recordReadings (fleet.calls nodeId), ∀ index < 4,
        reading ≤ clock index)
      (composed : agent.payload py dumps ((sites nodeId).agentConfig nodeId authSecret)
        ((sites nodeId).stats { calls := fleet.calls nodeId, clock := clock }) = .ok payload) :
      ReportingStep fleet
        { fleet with posted := sendHeartbeat hmac nodeId authSecret payload :: fleet.posted }
  | deliver {fleet : ReportingFleet} (url : String) (rawBody : List UInt8)
      (signature : Option String) (now : ℚ) (next : AgentCoordinator Entries)
      (unforged : Trust.verifyPayload hmac authSecret rawBody (signature.getD "") = true →
        ∃ post ∈ fleet.posted, post.rawBody = rawBody ∧ post.nodeId = url)
      (dispatched : (dispatchHeartbeat hmac (loadsMap loads) (some fleet.coordinator) url rawBody
        signature now).2 = some next) :
      ReportingStep fleet { fleet with coordinator := next }
  | remove {fleet : ReportingFleet} (nodeId : String) :
      ReportingStep fleet { fleet with coordinator := fleet.coordinator.remove nodeId }
  | view {fleet : ReportingFleet} (view : RegistryView) (now : ℚ) :
      ReportingStep fleet
        { fleet with coordinator := (fleet.coordinator.view listLess now view).2 }

/-- The fleets that come about. -/
def ReportingReachable (agentTtl : ℚ) (fleet : ReportingFleet) : Prop :=
  Relation.ReflTransGen (ReportingStep hmac py dumps loads listLess authSecret sites)
    (ReportingFleet.init agentTtl authSecret) fleet

/-- Stats name a node, and under `value` they have what its statistics said at some moment. -/
def SaidBy (nodeId : String) (calls : List OptimizerCall) (stats : Entries) : Prop :=
  get stats "node_id" = .str nodeId ∧
    ∃ moment : Moment, moment.Of calls ∧
      get stats "value" = ((sites nodeId).stats moment).decodedValue

/-- Bodies that are posted and stats that are stored are those of their nodes. -/
structure ReportingFleet.Sound (fleet : ReportingFleet) : Prop where
  ordered : ∀ nodeId, (recordReadings (fleet.calls nodeId)).Pairwise (· ≤ ·)
  posted : ∀ post ∈ fleet.posted, ∀ stats, loadsMap loads post.rawBody = some stats →
    SaidBy sites post.nodeId (fleet.calls post.nodeId) stats
  required : fleet.coordinator.requireAuth = true
  secret : fleet.coordinator.authSecret = authSecret
  stored : ∀ nodeId entry, fleet.coordinator.registry.get? nodeId = some entry →
    SaidBy sites nodeId (fleet.calls nodeId) entry.stats

variable {hmac py dumps loads listLess authSecret sites} {fleet next : ReportingFleet}

theorem SaidBy.mono {nodeId : String} {calls more : List OptimizerCall} {stats : Entries}
    (said : SaidBy sites nodeId calls stats) (extended : calls <+: more) :
    SaidBy sites nodeId more stats := by
  obtain ⟨named, moment, happened, reported⟩ := said
  exact ⟨named, moment, happened.mono extended, reported⟩

/-- Another call of some node takes nothing back. -/
theorem update_extends (calls : String → List OptimizerCall) (nodeId : String)
    (call : OptimizerCall) (other : String) :
    calls other <+: Function.update calls nodeId (calls nodeId ++ [call]) other := by
  rw [Function.update_apply]
  split
  next same =>
    subst same
    exact List.prefix_append _ _
  next => exact List.prefix_rfl

namespace ReportingFleet.Sound

theorem init (agentTtl : ℚ) :
    (ReportingFleet.init agentTtl authSecret).Sound loads authSecret sites where
  ordered := fun _ => .nil
  posted := fun _ member => absurd member List.not_mem_nil
  required := rfl
  secret := rfl
  stored := by
    intro nodeId entry stored
    cases stored

theorem call (sound : fleet.Sound loads authSecret sites) {nodeId : String} {call : OptimizerCall}
    (ordered : (recordReadings (fleet.calls nodeId ++ [call])).Pairwise (· ≤ ·)) :
    ({ fleet with
        calls := Function.update fleet.calls nodeId (fleet.calls nodeId ++ [call]) } :
      ReportingFleet).Sound loads authSecret sites where
  ordered := by
    intro other
    change (recordReadings (Function.update fleet.calls nodeId (fleet.calls nodeId ++ [call])
      other)).Pairwise (· ≤ ·)
    rw [Function.update_apply]
    split
    next => exact ordered
    next => exact sound.ordered other
  posted := fun post member stats decoded =>
    (sound.posted post member stats decoded).mono (update_extends _ _ _ _)
  required := sound.required
  secret := sound.secret
  stored := fun other entry stored =>
    (sound.stored other entry stored).mono (update_extends _ _ _ _)

theorem heartbeat (sound : fleet.Sound loads authSecret sites) (codec : RoundTrips dumps loads)
    {nodeId : String} {agent : NodeAgent} {clock : Nat → ℚ} {payload : List UInt8}
    (later : ∀ reading ∈ recordReadings (fleet.calls nodeId), ∀ index < 4, reading ≤ clock index)
    (composed : agent.payload py dumps ((sites nodeId).agentConfig nodeId authSecret)
      ((sites nodeId).stats { calls := fleet.calls nodeId, clock := clock }) = .ok payload) :
    ({ fleet with posted := sendHeartbeat hmac nodeId authSecret payload :: fleet.posted } :
      ReportingFleet).Sound loads authSecret sites where
  ordered := sound.ordered
  posted := by
    rw [List.forall_mem_cons]
    refine ⟨?_, sound.posted⟩
    intro stats decoded
    obtain ⟨entries, reads, named, reported⟩ := NodeAgent.payload_decodes codec composed
    cases reads.symm.trans decoded
    exact ⟨named, _, ⟨List.prefix_rfl, sound.ordered nodeId, later⟩, reported⟩
  required := sound.required
  secret := sound.secret
  stored := sound.stored

/-- A delivery stores what the node of its URL has posted, or nothing. -/
theorem deliver (sound : fleet.Sound loads authSecret sites) (secretSet : authSecret ≠ "")
    {url : String} {rawBody : List UInt8} {signature : Option String} {now : ℚ}
    {next : AgentCoordinator Entries}
    (unforged : Trust.verifyPayload hmac authSecret rawBody (signature.getD "") = true →
      ∃ post ∈ fleet.posted, post.rawBody = rawBody ∧ post.nodeId = url)
    (dispatched : (dispatchHeartbeat hmac (loadsMap loads) (some fleet.coordinator) url rawBody
      signature now).2 = some next) :
    ({ fleet with coordinator := next } : ReportingFleet).Sound loads authSecret sites := by
  rcases @dispatchHeartbeat_stores _ hmac (loadsMap loads) _ sound.required url rawBody signature
    now with same | stores
  · rw [same] at dispatched
    cases dispatched
    exact sound
  · obtain ⟨stats, decoded, verified, stores⟩ := stores
    rw [stores] at dispatched
    cases dispatched
    rw [sound.secret] at verified
    refine { sound with stored := ?_ }
    intro nodeId entry found
    rw [AgentCoordinator.ingest, Dict.get?_set] at found
    split at found
    next same =>
      cases found
      subst same
      obtain ⟨post, member, sameBody, sameNode⟩ := unforged (verified secretSet)
      rw [← sameNode]
      exact sound.posted post member stats (sameBody ▸ decoded)
    next => exact sound.stored nodeId entry found

theorem remove (sound : fleet.Sound loads authSecret sites) (nodeId : String) :
    ({ fleet with coordinator := fleet.coordinator.remove nodeId } :
      ReportingFleet).Sound loads authSecret sites := by
  refine { sound with stored := ?_ }
  intro other entry stored
  rw [AgentCoordinator.get?_remove, Function.update_apply] at stored
  split at stored
  next => cases stored
  next => exact sound.stored other entry stored

theorem view (sound : fleet.Sound loads authSecret sites) (view : RegistryView) (now : ℚ) :
    ({ fleet with coordinator := (fleet.coordinator.view listLess now view).2 } :
      ReportingFleet).Sound loads authSecret sites := by
  rcases @AgentCoordinator.view_state listLess fleet.coordinator now view with same | evicted
  · rw [same]
    exact sound
  · rw [evicted]
    refine { sound with stored := ?_ }
    intro nodeId entry stored
    rw [AgentCoordinator.get?_evictStale] at stored
    exact sound.stored nodeId entry (Option.filter_eq_some_iff.mp stored).1

theorem step (sound : fleet.Sound loads authSecret sites) (codec : RoundTrips dumps loads)
    (secretSet : authSecret ≠ "")
    (steps : ReportingStep hmac py dumps loads listLess authSecret sites fleet next) :
    next.Sound loads authSecret sites := by
  cases steps with
  | call nodeId call ordered => exact sound.call ordered
  | heartbeat nodeId agent clock payload later composed =>
      exact sound.heartbeat codec later composed
  | deliver url rawBody signature now next unforged dispatched =>
      exact sound.deliver secretSet unforged dispatched
  | remove nodeId => exact sound.remove nodeId
  | view view now => exact sound.view view now

end ReportingFleet.Sound

theorem ReportingReachable.sound (codec : RoundTrips dumps loads) (secretSet : authSecret ≠ "")
    {agentTtl : ℚ}
    (reachable : ReportingReachable hmac py dumps loads listLess authSecret sites agentTtl fleet) :
    fleet.Sound loads authSecret sites := by
  induction reachable with
  | refl => exact .init agentTtl
  | tail _ steps ih => exact ih.step codec secretSet steps

/-! ## The summary -/

/-- Stats have a value where their node has a value policy. -/
theorem SaidBy.truthy {nodeId : String} {calls : List OptimizerCall} {stats : Entries}
    (said : SaidBy sites nodeId calls stats) :
    (get stats "value").truthy = (sites nodeId).values.isSome := by
  obtain ⟨_, moment, happened, reported⟩ := said
  rw [reported, OptimizerStats.decodedValue]
  cases policy : (sites nodeId).values with
  | none =>
      rw [Site.stats_value_none policy]
      rfl
  | some values =>
      rw [Site.stats_value happened policy]
      rfl

/-- And the value is the one that the log shows. -/
theorem SaidBy.metrics {nodeId : String} {calls : List OptimizerCall} {stats : Entries}
    (said : SaidBy sites nodeId calls stats) (pvm : (get stats "value").truthy = true) :
    ∃ moment : Moment, moment.Of calls ∧
      get stats "value" = decodedFloats ((sites nodeId).metrics moment).fields := by
  rw [said.truthy] at pvm
  obtain ⟨values, policy⟩ := Option.isSome_iff_exists.mp pvm
  obtain ⟨_, moment, happened, reported⟩ := said
  refine ⟨moment, happened, ?_⟩
  rw [reported, OptimizerStats.decodedValue, Site.stats_value happened policy]
  rfl

/-- What some nodes have reported at some moments. -/
def reportsAt (sites : String → Site) (moments : List (String × Moment)) : Reports :=
  moments.map fun node => (node.1, (sites node.1).metrics node.2)

/-- A summary shows what the logs of the live nodes said, each at a moment in the life of its
node, and totals that are close to the sums of their rates. -/
structure ReportingFleet.Shown (sites : String → Site) (fleet : ReportingFleet) (now : ℚ)
    (summary : FleetSummary) (moments : List (String × Moment)) : Prop where
  named : ∀ nodeId stats, fleet.coordinator.getAgent nodeId = some stats →
    get stats "node_id" = .str nodeId
  happened : ∀ node ∈ moments, node.2.Of (fleet.calls node.1)
  distinct : (moments.map Prod.fst).Nodup
  live : ∀ nodeId, nodeId ∈ moments.map Prod.fst ↔
    (∃ entry, fleet.coordinator.Live now nodeId entry) ∧ (sites nodeId).values.isSome = true
  others : ∀ nodeId, nodeId ∈ summary.nonPvmNodes ↔
    (∃ entry, fleet.coordinator.Live now nodeId entry) ∧ (sites nodeId).values.isSome = false
  shows : summary.Shows (reportsAt sites moments)
  delivered : |(reportsAt sites moments).total ValueStats.valueDeliveredPerSec -
    (moments.map fun node => (sites node.1).deliveredRate node.2).sum| ≤
      moments.length * (1 / 2 / 10 ^ 4)
  lost : |(reportsAt sites moments).total ValueStats.valueLostPerSec -
    (moments.map fun node => (sites node.1).lostRate node.2).sum| ≤
      moments.length * (1 / 2 / 10 ^ 4)

/-- The reports of a summary are those of some moments. -/
theorem ReportingFleet.Sound.reported (sound : fleet.Sound loads authSecret sites) (now : ℚ) :
    ∃ moments : List (String × Moment),
      (∀ node ∈ moments, node.2.Of (fleet.calls node.1)) ∧
      pvmReports fleet.coordinator now = (reportsAt sites moments).decoded := by
  have each : ∀ node ∈ pvmReports fleet.coordinator now, ∃ moment : String × Moment,
      moment.2.Of (fleet.calls moment.1) ∧
        node = (moment.1, decodedFloats ((sites moment.1).metrics moment.2).fields) := by
    intro node member
    obtain ⟨listed, pvm⟩ := List.mem_filter.mp member
    obtain ⟨entry, live, isValue⟩ := mem_reports.mp listed
    have said := sound.stored node.1 entry live.1
    rw [← isValue] at pvm
    obtain ⟨moment, happened, shown⟩ := said.metrics pvm
    rw [isValue] at shown
    exact ⟨(node.1, moment), happened, Prod.ext rfl shown⟩
  obtain ⟨moments, paired⟩ := Pairing.exists_iff.mpr each
  refine ⟨moments, ?_, ?_⟩
  · intro node member
    obtain ⟨_, _, happened, _⟩ := Pairing.exists_item paired member
    exact happened
  · have same : List.Forall₂ (· = ·) (pvmReports fleet.coordinator now)
        (moments.map fun node =>
          (node.1, decodedFloats ((sites node.1).metrics node.2).fields)) :=
      List.forall₂_map_right_iff.mpr (paired.imp fun _ _ related => related.2)
    rw [List.forall₂_eq_eq_eq] at same
    rw [same, Reports.decoded, reportsAt, List.map_map]
    rfl

/-- The live nodes with a value are those with a value policy. -/
theorem ReportingFleet.Sound.live_iff (sound : fleet.Sound loads authSecret sites) (now : ℚ)
    (nodeId : String) (valued : Bool) :
    (∃ entry, fleet.coordinator.Live now nodeId entry ∧
        (get entry.stats "value").truthy = valued) ↔
      (∃ entry, fleet.coordinator.Live now nodeId entry) ∧
        (sites nodeId).values.isSome = valued := by
  rw [← exists_and_right]
  apply exists_congr
  intro entry
  apply and_congr_right
  intro live
  rw [(sound.stored nodeId entry live.1).truthy]

/-- However calls, heartbeats, deliveries, removals and views follow each other in a fleet whose
coordinator requires authentication, its summary does not raise; it shows, for each live node with
a value policy, what the whole log of its replies said at some moment when they were read, and
the fleet's rates are the sums of these up to the rounding of each report. -/
theorem fleet_shows_logs (hmac : Hmac) (py : PyText)
    (dumps : PyObject → Except PyFault (List UInt8)) (loads : List UInt8 → Option PyValue)
    (codec : RoundTrips dumps loads)
    (listLess : List PyValue → List PyValue → Except PyFault Bool) (authSecret : String)
    (secretSet : authSecret ≠ "") (sites : String → Site) (agentTtl : ℚ) (fleet : ReportingFleet)
    (reachable : ReportingReachable hmac py dumps loads listLess authSecret sites agentTtl fleet)
    (now : ℚ) :
    ∃ summary moments, (fleet.coordinator.fleetValueSummary listLess now).1 = .ok summary ∧
      fleet.Shown sites now summary moments := by
  have sound := reachable.sound codec secretSet
  obtain ⟨moments, happened, reported⟩ := sound.reported now
  have rounded : ∀ node ∈ reportsAt sites moments, node.2.Rounded := by
    rw [reportsAt, List.forall_mem_map]
    exact fun _ _ => ValueLossTracker.toDict_rounded _ _
  obtain ⟨summary, summarised, shows⟩ := summary_shows listLess reported rounded
  have names : summary.nodes.map Prod.fst = moments.map Prod.fst := by
    rw [shows.nodes, reportsAt, List.map_map, List.map_map]
    rfl
  refine ⟨summary, moments, summarised, ?_⟩
  exact {
    named := by
      intro nodeId stats found
      obtain ⟨entry, stored, rfl⟩ := Option.map_eq_some_iff.mp found
      exact (sound.stored nodeId entry stored).1
    happened := happened
    distinct := by
      rw [← names]
      exact (summary_listsLive summarised).nodup_nodes
    live := by
      intro nodeId
      rw [← names, (summary_listsLive summarised).mem_nodes_iff, sound.live_iff]
    others := by
      intro nodeId
      rw [(summary_listsLive summarised).mem_nonPvmNodes_iff, sound.live_iff]
    shows := shows
    delivered := by
      rw [Reports.total, reportsAt, List.map_map]
      exact Rounding.abs_sum_round_sub_le moments
        (fun node => (sites node.1).deliveredRate node.2) 4
    lost := by
      rw [Reports.total, reportsAt, List.map_map]
      exact Rounding.abs_sum_round_sub_le moments
        (fun node => (sites node.1).lostRate node.2) 4 }

end Fleet

/-! ## A node that reports -/

section Table

variable (body : PyObject) (text : String)

open Classical in
/-- A stand-in for `json.dumps` that agrees with it on one body. -/
noncomputable def tableDumps (object : PyObject) : Except PyFault (List UInt8) :=
  if object = body then .ok text.toUTF8.data.toList else .error .typeError

/-- A stand-in for `json.loads` that agrees with it on the text of that body. -/
def tableLoads (payload : List UInt8) : Option PyValue :=
  if payload = text.toUTF8.data.toList then some body.toValue else none

theorem table_roundTrips : RoundTrips (tableDumps body text) (tableLoads body text) := by
  intro object payload writes
  rw [tableDumps] at writes
  split at writes
  next same =>
    cases writes
    rw [same]
    exact ⟨_, decodes_toValue body, if_pos rfl⟩
  next => cases writes

end Table

theorem reporting_constructs :
    (BandwidthOptimizer.init singleSlot (some callsFirst) fun _ => 0).toOption.isSome = true := by
  decide +kernel

theorem eq_ok_of_isSome {α ε : Type} {result : Except ε α}
    (isSome : result.toOption.isSome = true) : result = .ok (result.toOption.get isSome) := by
  cases result with
  | error => cases isSome
  | ok => rfl

/-- A node that values port 5060. -/
def reportingSite : Site where
  rt := .plain
  config := singleSlot
  values := some callsFirst
  bucketClock := fun _ => 0
  fresh := _
  constructed := eq_ok_of_isSome reporting_constructs
  classifier := {}
  store := criticalPackets

/-- It has forwarded a packet of value 10, a second ago. -/
def reportedMoment : Moment where
  calls := [.process 0 (.frozen 0 0)]
  clock := fun _ => 1

/-- What its agent then composes. -/
def reportedBody : Except PyFault PyObject :=
  makeSerialisable .ascii (({ coordinatorUrl := "http://hub" } : NodeAgent).stats
    (reportingSite.agentConfig "n1" "key") (reportingSite.stats reportedMoment))

theorem reportedBody_isSome : reportedBody.toOption.isSome = true := by
  decide +kernel

/-- A count of each class in JSON. -/
def countsJson (critical : String) : String :=
  "\x7b\"CRITICAL\": " ++ critical ++
    ", \"HIGH\": 0, \"MEDIUM\": 0, \"LOW\": 0, \"BACKGROUND\": 0\x7d"

/-- Its JSON text. -/
def reportedJson : String :=
  "\x7b\"mode\": \"local_server\", \"total_bandwidth_bps\": 10485760, \"packets_received\": 1, " ++
    "\"packets_dropped\": 0, \"drop_rate\": 0.0, \"bytes_saved_compression\": 0, " ++
    "\"queue\": \x7b\"current_queue_size\": 1, \"max_queue_size\": 1, \"fill_ratio\": 1.0, " ++
    "\"enqueue_counts\": " ++ countsJson "1" ++ ", \"dequeue_counts\": " ++ countsJson "0" ++
    ", \"dropped_overflow\": 0\x7d, \"drops_by_priority\": " ++ countsJson "0" ++
    ", \"flows\": \x7b\"active\": 1\x7d, \"value\": \x7b\"value_delivered_total\": 10.0, " ++
    "\"value_lost_total\": 0.0, \"value_delivered_per_sec\": 2.0, \"value_lost_per_sec\": 0.0, " ++
    "\"value_efficiency_pct\": 100.0, \"window_seconds\": 5.0\x7d, \"node_id\": \"n1\", " ++
    "\"tags\": \x7b\x7d, \"coordinator_url\": \"http://hub\", " ++
    "\"heartbeat\": \x7b\"count\": 0, \"errors\": 0, \"last_sent\": null\x7d\x7d"

/-- The agent posts it. -/
theorem payload_reported :
    ({ coordinatorUrl := "http://hub" } : NodeAgent).payload .ascii
      (tableDumps (reportedBody.toOption.get reportedBody_isSome) reportedJson)
      (reportingSite.agentConfig "n1" "key") (reportingSite.stats reportedMoment) =
        .ok reportedJson.toUTF8.data.toList := by
  have makes : makeSerialisable .ascii (({ coordinatorUrl := "http://hub" } : NodeAgent).stats
      (reportingSite.agentConfig "n1" "key") (reportingSite.stats reportedMoment)) =
        .ok (reportedBody.toOption.get reportedBody_isSome) :=
    eq_ok_of_isSome reportedBody_isSome
  rw [NodeAgent.payload, makes]
  exact if_pos rfl

/-- A fleet after a packet, a heartbeat, and its delivery. -/
theorem reporting_reachable {dumps : PyObject → Except PyFault (List UInt8)}
    {loads : List UInt8 → Option PyValue} (codec : RoundTrips dumps loads)
    {agent : NodeAgent} {payload : List UInt8}
    (composed : agent.payload .ascii dumps (reportingSite.agentConfig "n1" "key")
      (reportingSite.stats reportedMoment) = .ok payload) :
    ∃ fleet : ReportingFleet, ReportingReachable Trust.sampleHmac .ascii dumps loads
        (fun _ _ => .ok false) "key" (fun _ => reportingSite) 60 fleet ∧
      fleet.calls "n1" = reportedMoment.calls ∧
      ∃ entry, fleet.coordinator.Live 3 "n1" entry := by
  obtain ⟨entries, decoded, _⟩ := NodeAgent.payload_decodes codec composed
  let forwarded : ReportingFleet := {
    coordinator := .init 60 true "key"
    calls := Function.update (fun _ => []) "n1" reportedMoment.calls
    posted := [] }
  have isPast : forwarded.calls "n1" = reportedMoment.calls :=
    Function.update_self "n1" reportedMoment.calls fun _ => []
  let posted : ReportingFleet := { forwarded with
    posted := [sendHeartbeat Trust.sampleHmac "n1" "key" payload] }
  let delivered : ReportingFleet := { posted with
    coordinator := posted.coordinator.ingest "n1" entries 2 }
  have forwards : ReportingStep Trust.sampleHmac .ascii dumps loads (fun _ _ => .ok false) "key"
      (fun _ => reportingSite) (.init 60 "key") forwarded :=
    .call "n1" (.process 0 (.frozen 0 0)) (List.pairwise_singleton _ _)
  have posts : ReportingStep Trust.sampleHmac .ascii dumps loads (fun _ _ => .ok false) "key"
      (fun _ => reportingSite) forwarded posted := by
    apply ReportingStep.heartbeat "n1" agent reportedMoment.clock payload
    · intro reading member index _
      rw [isPast] at member
      cases List.mem_singleton.mp member
      exact zero_le_one
    · rw [isPast]
      exact composed
  have delivers : ReportingStep Trust.sampleHmac .ascii dumps loads (fun _ _ => .ok false) "key"
      (fun _ => reportingSite) posted delivered := by
    apply ReportingStep.deliver "n1" payload _ 2 _ fun _ => ⟨_, List.mem_singleton_self _, rfl, rfl⟩
    exact dispatchHeartbeat_signed Trust.sampleHmac rfl rfl decoded "n1" "n1" 2
  refine ⟨delivered, ((Relation.ReflTransGen.single forwards).tail posts).tail delivers, isPast,
    _, Dict.get?_set_self _ _ _, ?_⟩
  change (3 : ℚ) - 60 ≤ 2
  norm_num

/-- Its summary shows the value that was delivered. -/
theorem fleet_shows_logs_one :
    ∃ fleet : ReportingFleet, fleet.calls "n1" = reportedMoment.calls ∧
      (∃ entry, fleet.coordinator.Live 3 "n1" entry) ∧
      ∃ summary moments,
        (fleet.coordinator.fleetValueSummary (fun _ _ => .ok false) 3).1 = .ok summary ∧
          fleet.Shown (fun _ => reportingSite) 3 summary moments := by
  obtain ⟨fleet, reachable, forwarded, live⟩ :=
    reporting_reachable (table_roundTrips _ _) payload_reported
  exact ⟨fleet, forwarded, live, fleet_shows_logs Trust.sampleHmac .ascii _ _
    (table_roundTrips _ _) _ "key" (by decide) _ 60 fleet reachable 3⟩

end SmartBandwidth
