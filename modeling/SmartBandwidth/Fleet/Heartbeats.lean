import SmartBandwidth.Fleet.Coordinator
import Mathlib.Logic.Relation

/-!
# Heartbeats over an untrusted network

Agents sign their own stats and post them to the URL of their node.  The network holds
every posted heartbeat and delivers requests of its choice, any number of times and in
any order.  The signature covers the body and not the URL, so what a delivery writes is
a signed body, but the entry it writes is chosen by the network.
-/

namespace SmartBandwidth

/-- A heartbeat as an agent posts it: the node of its URL, the body and the signature
header, present when the agent has a secret. -/
structure HeartbeatPost where
  nodeId : String
  rawBody : List UInt8
  signature : Option String
  deriving DecidableEq, Repr

/-- `_send_heartbeat`: the request an agent makes with its serialised stats. -/
def sendHeartbeat (hmac : Hmac) (nodeId authSecret : String) (payload : List UInt8) :
    HeartbeatPost where
  nodeId := nodeId
  rawBody := payload
  signature :=
    if authSecret ≠ "" then some (Trust.signPayload hmac authSecret payload) else none

variable {Stats : Type}

/-- A request as the framework dispatches it: a body that is not a stats object never
reaches the handler. -/
def dispatchHeartbeat (hmac : Hmac) (decode : List UInt8 → Option Stats)
    (coordinator : Option (AgentCoordinator Stats)) (nodeId : String)
    (rawBody : List UInt8) (signature : Option String) (now : ℚ) :
    Except HTTPException HeartbeatReply × Option (AgentCoordinator Stats) :=
  match decode rawBody with
  | none => (.error { statusCode := 422, detail := "Unprocessable Entity" }, coordinator)
  | some stats =>
      receiveAgentStats hmac coordinator
        { nodeId := nodeId, rawBody := rawBody, signature := signature, stats := stats } now

/-- A heartbeat an agent signed is stored under whatever URL it is delivered to. -/
theorem dispatchHeartbeat_signed (hmac : Hmac) {decode : List UInt8 → Option Stats}
    {coordinator : AgentCoordinator Stats} (required : coordinator.requireAuth = true)
    {authSecret : String} (secret : coordinator.authSecret = authSecret)
    {payload : List UInt8} {stats : Stats} (decoded : decode payload = some stats)
    (nodeId url : String) (now : ℚ) :
    (dispatchHeartbeat hmac decode (some coordinator) url payload
      (sendHeartbeat hmac nodeId authSecret payload).signature now).2 =
      some (coordinator.ingest url stats now) := by
  simp only [dispatchHeartbeat, decoded]
  have receives := receiveAgentStats_receives hmac required
    { nodeId := url, rawBody := payload,
      signature := (sendHeartbeat hmac nodeId authSecret payload).signature,
      stats := stats } now
  generalize receiveAgentStats hmac (some coordinator)
    { nodeId := url, rawBody := payload,
      signature := (sendHeartbeat hmac nodeId authSecret payload).signature,
      stats := stats } now = outcome at receives ⊢
  cases receives with
  | rejected secretSet failed =>
      rw [secret] at secretSet failed
      simp only [sendHeartbeat, if_pos secretSet, Option.getD_some,
        Trust.verifyPayload_signPayload] at failed
      cases failed
  | stored => rfl

/-- A coordinator that requires authentication is left as it was, or it stores a body whose
signature verifies. -/
theorem dispatchHeartbeat_stores (hmac : Hmac) {decode : List UInt8 → Option Stats}
    {coordinator : AgentCoordinator Stats} (required : coordinator.requireAuth = true)
    (url : String) (rawBody : List UInt8) (signature : Option String) (now : ℚ) :
    (dispatchHeartbeat hmac decode (some coordinator) url rawBody signature now).2 =
        some coordinator ∨
      ∃ stats, decode rawBody = some stats ∧
        (coordinator.authSecret ≠ "" → Trust.verifyPayload hmac coordinator.authSecret rawBody
          (signature.getD "") = true) ∧
        (dispatchHeartbeat hmac decode (some coordinator) url rawBody signature now).2 =
          some (coordinator.ingest url stats now) := by
  rw [dispatchHeartbeat]
  cases decoded : decode rawBody with
  | none => exact .inl rfl
  | some stats =>
      have receives := receiveAgentStats_receives hmac required
        { nodeId := url, rawBody := rawBody, signature := signature, stats := stats } now
      simp only
      generalize receiveAgentStats hmac (some coordinator)
        { nodeId := url, rawBody := rawBody, signature := signature, stats := stats } now
        = outcome at receives ⊢
      cases receives with
      | rejected => exact .inl rfl
      | stored verified => exact .inr ⟨stats, rfl, verified, rfl⟩

/-- The coordinator and every heartbeat agents have posted so far. -/
structure FleetState (Stats : Type) where
  coordinator : Option (AgentCoordinator Stats)
  posted : List HeartbeatPost

section Protocol

variable (hmac : Hmac) (decode : List UInt8 → Option Stats) (nodeIdOf : Stats → String)
variable (authSecret : String) (mayReach : HeartbeatPost → String → Prop)

/-- One step of the fleet.  An agent posts stats that carry its own node id.  The network
delivers any request whatever, as long as it cannot forge: a body whose signature
verifies was posted by some agent, and `mayReach` says to which URLs the network takes
that agent's heartbeat. -/
inductive FleetStep : FleetState Stats → FleetState Stats → Prop where
  | post {state : FleetState Stats} (nodeId : String) (payload : List UInt8)
      (stats : Stats) : decode payload = some stats → nodeIdOf stats = nodeId →
      FleetStep state
        { state with posted := sendHeartbeat hmac nodeId authSecret payload :: state.posted }
  | deliver {state : FleetState Stats} (url : String) (rawBody : List UInt8)
      (signature : Option String) (now : ℚ) :
      (Trust.verifyPayload hmac authSecret rawBody (signature.getD "") = true →
        ∃ post ∈ state.posted, post.rawBody = rawBody ∧ mayReach post url) →
      FleetStep state
        { state with
          coordinator :=
            (dispatchHeartbeat hmac decode state.coordinator url rawBody signature now).2 }

/-- A fresh coordinator that requires authentication, before any heartbeat. -/
def FleetState.init (agentTtl : ℚ) : FleetState Stats where
  coordinator := some (AgentCoordinator.init agentTtl true authSecret)
  posted := []

/-- The states the fleet can reach. -/
def FleetReachable (agentTtl : ℚ) (state : FleetState Stats) : Prop :=
  Relation.ReflTransGen (FleetStep hmac decode nodeIdOf authSecret mayReach)
    (FleetState.init authSecret agentTtl) state

/-- Stats stored for a node were signed by the agent they name, and the network took
that agent's heartbeat to the node's URL. -/
def SignedBy (posted : List HeartbeatPost) (nodeId : String) (stats : Stats) : Prop :=
  ∃ post ∈ posted,
    post = sendHeartbeat hmac post.nodeId authSecret post.rawBody ∧
    decode post.rawBody = some stats ∧ nodeIdOf stats = post.nodeId ∧ mayReach post nodeId

/-- The invariant: the settings are as configured, every posted heartbeat is an agent's
own, and every stored entry is signed. -/
structure FleetInvariant (state : FleetState Stats) : Prop where
  posted : ∀ post ∈ state.posted,
    post = sendHeartbeat hmac post.nodeId authSecret post.rawBody ∧
      ∃ stats, decode post.rawBody = some stats ∧ nodeIdOf stats = post.nodeId
  configured : ∃ coordinator, state.coordinator = some coordinator ∧
    coordinator.requireAuth = true ∧ coordinator.authSecret = authSecret ∧
    ∀ nodeId entry, coordinator.registry.get? nodeId = some entry →
      SignedBy hmac decode nodeIdOf authSecret mayReach state.posted nodeId entry.stats

variable {hmac decode nodeIdOf authSecret mayReach}

theorem SignedBy.mono {posted later : List HeartbeatPost} {nodeId : String} {stats : Stats}
    (signed : SignedBy hmac decode nodeIdOf authSecret mayReach posted nodeId stats)
    (extends_posted : posted ⊆ later) :
    SignedBy hmac decode nodeIdOf authSecret mayReach later nodeId stats := by
  obtain ⟨post, member, facts⟩ := signed
  exact ⟨post, extends_posted member, facts⟩

theorem FleetInvariant.init (agentTtl : ℚ) :
    FleetInvariant hmac decode nodeIdOf authSecret mayReach
      (FleetState.init authSecret agentTtl) where
  posted := by simp [FleetState.init]
  configured := by
    refine ⟨_, rfl, rfl, rfl, ?_⟩
    intro nodeId entry stored
    cases stored

/-- Posting adds a signed heartbeat and keeps what is stored. -/
theorem FleetInvariant.post {state : FleetState Stats}
    (invariant : FleetInvariant hmac decode nodeIdOf authSecret mayReach state)
    {nodeId : String} {payload : List UInt8} {stats : Stats}
    (decoded : decode payload = some stats) (named : nodeIdOf stats = nodeId) :
    FleetInvariant hmac decode nodeIdOf authSecret mayReach
      { state with
        posted := sendHeartbeat hmac nodeId authSecret payload :: state.posted } where
  posted := by
    rw [List.forall_mem_cons]
    exact ⟨⟨rfl, stats, decoded, named⟩, invariant.posted⟩
  configured := by
    obtain ⟨coordinator, present, required, secret, signed⟩ := invariant.configured
    refine ⟨coordinator, present, required, secret, ?_⟩
    intro other entry stored
    exact (signed other entry stored).mono (List.subset_cons_self _ _)

/-- A delivery writes at most the entry of its URL, with stats some agent signed. -/
theorem FleetInvariant.deliver {state : FleetState Stats}
    (invariant : FleetInvariant hmac decode nodeIdOf authSecret mayReach state)
    (secretSet : authSecret ≠ "") {url : String} {rawBody : List UInt8}
    {signature : Option String} {now : ℚ}
    (unforged : Trust.verifyPayload hmac authSecret rawBody (signature.getD "") = true →
      ∃ post ∈ state.posted, post.rawBody = rawBody ∧ mayReach post url) :
    FleetInvariant hmac decode nodeIdOf authSecret mayReach
      { state with
        coordinator :=
          (dispatchHeartbeat hmac decode state.coordinator url rawBody signature now).2 } where
  posted := invariant.posted
  configured := by
    obtain ⟨coordinator, present, required, secret, signed⟩ := invariant.configured
    rw [present]
    rcases dispatchHeartbeat_stores hmac required url rawBody signature now with same | stores
    · exact ⟨coordinator, same, required, secret, signed⟩
    · obtain ⟨stats, decoded, verified, stores⟩ := stores
      rw [secret] at verified
      refine ⟨_, stores, required, secret, ?_⟩
      intro nodeId entry found
      rw [AgentCoordinator.ingest, Dict.get?_set] at found
      split at found
      next same =>
        cases found
        subst same
        obtain ⟨post, member, sameBody, reaches⟩ := unforged (verified secretSet)
        obtain ⟨sent, own, ownDecoded, named⟩ := invariant.posted post member
        rw [sameBody, decoded, Option.some.injEq] at ownDecoded
        subst ownDecoded
        exact ⟨post, member, sent, sameBody ▸ decoded, named, reaches⟩
      next => exact signed nodeId entry found

/-- The network can have a posted heartbeat stored under any URL it may take it to. -/
theorem FleetStep.store_posted {state : FleetState Stats}
    {coordinator : AgentCoordinator Stats} (present : state.coordinator = some coordinator)
    (required : coordinator.requireAuth = true)
    (secret : coordinator.authSecret = authSecret) {nodeId : String} {payload : List UInt8}
    (member : sendHeartbeat hmac nodeId authSecret payload ∈ state.posted) {stats : Stats}
    (decoded : decode payload = some stats) {url : String}
    (reaches : mayReach (sendHeartbeat hmac nodeId authSecret payload) url) (now : ℚ) :
    FleetStep hmac decode nodeIdOf authSecret mayReach state
      { state with coordinator := some (coordinator.ingest url stats now) } := by
  have stored := dispatchHeartbeat_signed hmac required secret decoded nodeId url now
  rw [← present] at stored
  rw [← stored]
  exact .deliver url payload _ now fun _ => ⟨_, member, rfl, reaches⟩

/-- The invariant holds in every reachable state. -/
theorem FleetReachable.invariant (secretSet : authSecret ≠ "") {agentTtl : ℚ}
    {state : FleetState Stats}
    (reachable : FleetReachable hmac decode nodeIdOf authSecret mayReach agentTtl state) :
    FleetInvariant hmac decode nodeIdOf authSecret mayReach state := by
  induction reachable with
  | refl => exact FleetInvariant.init agentTtl
  | tail _ step ih =>
      cases step with
      | post nodeId payload stats decoded named => exact ih.post decoded named
      | deliver url rawBody signature now unforged => exact ih.deliver secretSet unforged

end Protocol

/-- The network may take any heartbeat to any URL. -/
def anyUrl (_ : HeartbeatPost) (_ : String) : Prop := True

/-- The network takes a heartbeat to the URL it was posted to. -/
def ownUrl (post : HeartbeatPost) (url : String) : Prop := url = post.nodeId

/-- Whatever the network re-addresses, the stats stored for a node are a body signed by
the agent that the body names, and the network took that agent's heartbeat to the node's
URL.  Where it takes only the node's own heartbeats there, that agent is the node's own. -/
theorem stored_stats_signed (hmac : Hmac) (decode : List UInt8 → Option Stats)
    (nodeIdOf : Stats → String) (authSecret : String) (secretSet : authSecret ≠ "")
    (mayReach : HeartbeatPost → String → Prop) (agentTtl : ℚ) (state : FleetState Stats)
    (reachable : FleetReachable hmac decode nodeIdOf authSecret mayReach agentTtl state)
    (coordinator : AgentCoordinator Stats) (present : state.coordinator = some coordinator)
    (nodeId : String) (stats : Stats)
    (stored : coordinator.getAgent nodeId = some stats) :
    (∃ post ∈ state.posted,
        post = sendHeartbeat hmac post.nodeId authSecret post.rawBody ∧
        decode post.rawBody = some stats ∧ nodeIdOf stats = post.nodeId ∧
        mayReach post nodeId) ∧
      ((∀ post ∈ state.posted, mayReach post nodeId → post.nodeId = nodeId) →
        ∃ post ∈ state.posted,
          post = sendHeartbeat hmac nodeId authSecret post.rawBody ∧
          decode post.rawBody = some stats ∧ nodeIdOf stats = nodeId) := by
  obtain ⟨entry, found, rfl⟩ := Option.map_eq_some_iff.mp stored
  obtain ⟨reached, reachedEq, _, _, signed⟩ := (reachable.invariant secretSet).configured
  cases present.symm.trans reachedEq
  obtain ⟨post, member, sent, decoded, named, reaches⟩ := signed nodeId entry found
  refine ⟨⟨post, member, sent, decoded, named, reaches⟩, fun own => ?_⟩
  have mine : post.nodeId = nodeId := own post member reaches
  rw [mine] at sent named
  exact ⟨post, member, sent, decoded, named⟩

/-- The name a body consists of, for stats that are nothing but their node id. -/
def bodyName (rawBody : List UInt8) : String :=
  String.ofList (rawBody.map fun byte => Char.ofNat byte.toNat)

/-- Agent `A` has posted one heartbeat and the network has taken it to `url`. -/
def deliveredTo (url : String) : FleetState (List UInt8) where
  coordinator := some ((AgentCoordinator.init 60 true "key").ingest url [65] 0)
  posted := [sendHeartbeat Trust.sampleHmac "A" "key" [65]]

theorem deliveredTo_reachable {mayReach : HeartbeatPost → String → Prop} {url : String}
    (reaches : mayReach (sendHeartbeat Trust.sampleHmac "A" "key" [65]) url) :
    FleetReachable Trust.sampleHmac some bodyName "key" mayReach 60 (deliveredTo url) := by
  have posted : FleetStep Trust.sampleHmac some bodyName "key" mayReach
      (FleetState.init "key" 60)
      { coordinator := some (AgentCoordinator.init 60 true "key")
        posted := [sendHeartbeat Trust.sampleHmac "A" "key" [65]] } :=
    .post "A" [65] [65] rfl (by decide)
  apply (Relation.ReflTransGen.single posted).tail
  refine FleetStep.store_posted ?_ ?_ ?_ (List.mem_singleton_self _) ?_ reaches 0
  all_goals rfl

/-- A heartbeat taken to its own URL is stored for its own agent. -/
theorem stored_stats_signed_own :
    ∃ post ∈ (deliveredTo "A").posted,
      post = sendHeartbeat Trust.sampleHmac "A" "key" post.rawBody ∧
      some post.rawBody = some [65] ∧ bodyName [65] = "A" :=
  (stored_stats_signed Trust.sampleHmac some bodyName "key" (by decide) ownUrl 60
    (deliveredTo "A") (deliveredTo_reachable rfl) _ rfl "A" [65] rfl).2
    fun _ _ own => own.symm

/-- A heartbeat of `A` taken to the URL of `B` becomes the stats of `B`, which never
posted anything. -/
theorem readdressed_heartbeat_stored :
    FleetReachable Trust.sampleHmac some bodyName "key" anyUrl 60 (deliveredTo "B") ∧
      (deliveredTo "B").coordinator.bind (fun coordinator => coordinator.getAgent "B") =
        some [65] ∧
      bodyName [65] = "A" ∧ ∀ post ∈ (deliveredTo "B").posted, post.nodeId ≠ "B" := by
  refine ⟨deliveredTo_reachable trivial, rfl, by decide, ?_⟩
  intro post member
  rw [List.mem_singleton.mp member]
  decide

end SmartBandwidth
