import SmartBandwidth.Fleet.Trust
import SmartBandwidth.Lib.Dict
import SmartBandwidth.Lib.Machine
import Mathlib.Data.Rat.Defs

/-!
# Agent coordinator

The coordinator keeps the latest stats of each node.  Heartbeats reach it through the
endpoint `POST /agent/<node_id>/stats`, which checks their signature when the
coordinator requires authentication.  The stats object is opaque here.
-/

namespace SmartBandwidth

/-- What the registry stores for one node. -/
structure RegistryEntry (Stats : Type) where
  stats : Stats
  lastSeen : ℚ
  deriving DecidableEq, Repr

/-- The registry of connected agents and the authentication settings. -/
structure AgentCoordinator (Stats : Type) where
  agentTtl : ℚ
  requireAuth : Bool
  authSecret : String
  registry : Dict String (RegistryEntry Stats)

namespace AgentCoordinator

variable {Stats : Type}

/-- `__init__`. -/
def init (agentTtl : ℚ := 60) (requireAuth : Bool := false) (authSecret : String := "") :
    AgentCoordinator Stats where
  agentTtl := agentTtl
  requireAuth := requireAuth
  authSecret := authSecret
  registry := .empty

/-- `ingest`: register or update the stats of a node. -/
def ingest (coordinator : AgentCoordinator Stats) (nodeId : String) (stats : Stats) (now : ℚ) :
    AgentCoordinator Stats :=
  { coordinator with
    registry := coordinator.registry.set nodeId { stats := stats, lastSeen := now } }

/-- `ingest_authenticated`: verify the signature, then ingest. -/
def ingestAuthenticated (hmac : Hmac) (coordinator : AgentCoordinator Stats)
    (nodeId : String) (rawBody : List UInt8) (signature : String) (stats : Stats) (now : ℚ) :
    Bool × AgentCoordinator Stats :=
  if coordinator.requireAuth = true ∧ coordinator.authSecret ≠ "" ∧
      Trust.verifyPayload hmac coordinator.authSecret rawBody signature = false then
    (false, coordinator)
  else
    (true, coordinator.ingest nodeId stats now)

/-- `get_agent`. -/
def getAgent (coordinator : AgentCoordinator Stats) (nodeId : String) : Option Stats :=
  (coordinator.registry.get? nodeId).map RegistryEntry.stats

end AgentCoordinator

/-! ## The heartbeat endpoint -/

/-- The error a handler raises. -/
structure HTTPException where
  statusCode : Nat
  detail : String
  deriving DecidableEq, Repr

/-- The body of a successful answer. -/
structure HeartbeatReply where
  ok : Bool
  nodeId : String
  deriving DecidableEq, Repr

/-- A heartbeat request as the handler receives it: the node named by the URL, the raw
body, the signature header if present, and the stats object parsed from the body. -/
structure HeartbeatRequest (Stats : Type) where
  nodeId : String
  rawBody : List UInt8
  signature : Option String
  stats : Stats

variable {Stats : Type}

/-- `receive_agent_stats`. -/
def receiveAgentStats (hmac : Hmac) (coordinator : Option (AgentCoordinator Stats))
    (request : HeartbeatRequest Stats) (now : ℚ) :
    Except HTTPException HeartbeatReply × Option (AgentCoordinator Stats) :=
  match coordinator with
  | none => (.error { statusCode := 404, detail := "Coordinator not configured" }, none)
  | some coordinator =>
      if coordinator.requireAuth then
        let signature := request.signature.getD ""
        let (accepted, coordinator) := coordinator.ingestAuthenticated hmac request.nodeId
          request.rawBody signature request.stats now
        if accepted then
          (.ok { ok := true, nodeId := request.nodeId }, some coordinator)
        else
          (.error { statusCode := 401, detail := "Invalid or missing agent signature" },
            some coordinator)
      else
        (.ok { ok := true, nodeId := request.nodeId },
          some (coordinator.ingest request.nodeId request.stats now))

/-- One request and the clock reading of its handling, as a machine step. -/
def heartbeatStep (hmac : Hmac) (coordinator : Option (AgentCoordinator Stats))
    (input : HeartbeatRequest Stats × ℚ) :
    Except HTTPException HeartbeatReply × Option (AgentCoordinator Stats) :=
  receiveAgentStats hmac coordinator input.1 input.2

/-- What a coordinator that requires authentication does with a request: it rejects it
without a trace, or it stores the stats under the URL's node. -/
inductive Receives (hmac : Hmac) (coordinator : AgentCoordinator Stats)
    (request : HeartbeatRequest Stats) (now : ℚ) :
    Except HTTPException HeartbeatReply × Option (AgentCoordinator Stats) → Prop where
  | rejected : coordinator.authSecret ≠ "" →
      Trust.verifyPayload hmac coordinator.authSecret request.rawBody
        (request.signature.getD "") = false →
      Receives hmac coordinator request now
        (.error { statusCode := 401, detail := "Invalid or missing agent signature" },
          some coordinator)
  | stored : (coordinator.authSecret ≠ "" →
        Trust.verifyPayload hmac coordinator.authSecret request.rawBody
          (request.signature.getD "") = true) →
      Receives hmac coordinator request now
        (.ok { ok := true, nodeId := request.nodeId },
          some (coordinator.ingest request.nodeId request.stats now))

theorem receiveAgentStats_receives (hmac : Hmac) {coordinator : AgentCoordinator Stats}
    (requireAuth : coordinator.requireAuth = true) (request : HeartbeatRequest Stats)
    (now : ℚ) :
    Receives hmac coordinator request now
      (receiveAgentStats hmac (some coordinator) request now) := by
  simp only [receiveAgentStats, requireAuth, ↓reduceIte, AgentCoordinator.ingestAuthenticated,
    true_and]
  by_cases refused : coordinator.authSecret ≠ "" ∧
      Trust.verifyPayload hmac coordinator.authSecret request.rawBody
        (request.signature.getD "") = false
  · rw [if_pos refused]
    exact .rejected refused.1 refused.2
  · rw [if_neg refused]
    apply Receives.stored
    intro secret
    apply Bool.of_not_eq_false
    intro failed
    exact refused ⟨secret, failed⟩

/-- Handling a request never changes the authentication settings. -/
theorem receiveAgentStats_settings (hmac : Hmac) {coordinator : AgentCoordinator Stats}
    (requireAuth : coordinator.requireAuth = true) (request : HeartbeatRequest Stats)
    (now : ℚ) :
    ∃ next, (receiveAgentStats hmac (some coordinator) request now).2 = some next ∧
      next.requireAuth = true ∧ next.authSecret = coordinator.authSecret := by
  have receives := receiveAgentStats_receives hmac requireAuth request now
  generalize receiveAgentStats hmac (some coordinator) request now = outcome at receives ⊢
  cases receives with
  | rejected => exact ⟨coordinator, rfl, requireAuth, rfl⟩
  | stored => exact ⟨_, rfl, requireAuth, rfl⟩

end SmartBandwidth
