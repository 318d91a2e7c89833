import SmartBandwidth.Fleet.Coordinator

/-!
# Authenticated ingestion

A coordinator that requires authentication under a non-empty secret stores a heartbeat
only if the request's signature header is the keyed hash of its raw body.  Without a
secret the check is skipped altogether.
-/

namespace SmartBandwidth

variable {Stats : Type}

/-- The signature header of a request is, up to case, the keyed hash of its raw body
under a non-empty secret. -/
def HeartbeatRequest.Authentic (hmac : Hmac) (authSecret : String)
    (request : HeartbeatRequest Stats) : Prop :=
  authSecret ≠ "" ∧ ∃ signature, request.signature = some signature ∧
    Trust.lower signature = Trust.signPayload hmac authSecret request.rawBody

/-- A request whose header verifies is authentic; a missing header does not verify. -/
theorem HeartbeatRequest.authentic_of_verify {hmac : Hmac} {authSecret : String}
    {request : HeartbeatRequest Stats} (secret : authSecret ≠ "")
    (verified : Trust.verifyPayload hmac authSecret request.rawBody
      (request.signature.getD "") = true) : request.Authentic hmac authSecret := by
  refine ⟨secret, ?_⟩
  cases header : request.signature with
  | none =>
      rw [header, Option.getD_none, Trust.verifyPayload_empty] at verified
      cases verified
  | some signature =>
      rw [header, Option.getD_some] at verified
      exact ⟨signature, rfl, Trust.verifyPayload_iff.mp verified⟩

/-- The coordinator a run of requests reaches. -/
def reachedCoordinator (hmac : Hmac) (coordinator : AgentCoordinator Stats)
    (requests : List (HeartbeatRequest Stats × ℚ)) : Option (AgentCoordinator Stats) :=
  (Machine.run (heartbeatStep hmac) (some coordinator) requests).2

/-- Every request of every run that is not authentic leaves the registry as it was. -/
def RegistryGuarded (hmac : Hmac) (coordinator : AgentCoordinator Stats)
    (authSecret : String) : Prop :=
  ∀ (requests : List (HeartbeatRequest Stats × ℚ)) (request : HeartbeatRequest Stats)
    (now : ℚ), ¬ request.Authentic hmac authSecret →
    (receiveAgentStats hmac (reachedCoordinator hmac coordinator requests) request now).2.map
        AgentCoordinator.registry =
      (reachedCoordinator hmac coordinator requests).map AgentCoordinator.registry

/-- The settings survive every run. -/
theorem reachedCoordinator_settings (hmac : Hmac) {coordinator : AgentCoordinator Stats}
    (requireAuth : coordinator.requireAuth = true)
    (requests : List (HeartbeatRequest Stats × ℚ)) :
    ∃ reached, reachedCoordinator hmac coordinator requests = some reached ∧
      reached.requireAuth = true ∧ reached.authSecret = coordinator.authSecret := by
  have kept : ∀ (state : Option (AgentCoordinator Stats)) (input : HeartbeatRequest Stats × ℚ),
      (∃ reached, state = some reached ∧ reached.requireAuth = true ∧
        reached.authSecret = coordinator.authSecret) →
      ∃ next, (heartbeatStep hmac state input).2 = some next ∧ next.requireAuth = true ∧
        next.authSecret = coordinator.authSecret := by
    rintro state input ⟨reached, rfl, required, secret⟩
    obtain ⟨next, stepEq, nextAuth, nextSecret⟩ :=
      receiveAgentStats_settings hmac required input.1 input.2
    exact ⟨next, stepEq, nextAuth, nextSecret.trans secret⟩
  exact Machine.run_invariant kept ⟨coordinator, rfl, requireAuth, rfl⟩ requests

/-- Authentication guards the registry exactly when a secret is configured. -/
theorem registryGuarded_iff [Inhabited Stats] (hmac : Hmac) (agentTtl : ℚ)
    (authSecret : String) :
    RegistryGuarded hmac
        (AgentCoordinator.init agentTtl true authSecret : AgentCoordinator Stats) authSecret ↔
      authSecret ≠ "" := by
  constructor
  · intro guarded empty
    subst empty
    let intruder : HeartbeatRequest Stats :=
      { nodeId := "node", rawBody := [], signature := none, stats := default }
    have unchanged : some (Dict.empty.set "node" { stats := default, lastSeen := 0 }) =
        some (Dict.empty : Dict String (RegistryEntry Stats)) :=
      guarded [] intruder 0 fun authentic => authentic.1 rfl
    have emptied := congrArg (fun dict => dict.get? "node") (Option.some.inj unchanged)
    rw [Dict.get?_set_self] at emptied
    cases emptied
  · intro secret requests request now notAuthentic
    have required : (AgentCoordinator.init agentTtl true authSecret :
        AgentCoordinator Stats).requireAuth = true := rfl
    obtain ⟨reached, reachedEq, reachedAuth, reachedSecret⟩ :=
      reachedCoordinator_settings hmac required requests
    rw [reachedEq]
    have receives := receiveAgentStats_receives hmac reachedAuth request now
    generalize receiveAgentStats hmac (some reached) request now = outcome at receives ⊢
    cases receives with
    | rejected => rfl
    | stored verified =>
        rw [reachedSecret] at verified
        exact absurd (HeartbeatRequest.authentic_of_verify secret (verified secret))
          notAuthentic

/-- With the default secret an unsigned request enters the registry although
authentication is required. -/
theorem unsigned_accepted :
    let coordinator : AgentCoordinator Nat := AgentCoordinator.init 60 true
    let request : HeartbeatRequest Nat :=
      { nodeId := "intruder", rawBody := [], signature := none, stats := 7 }
    ¬ request.Authentic Trust.sampleHmac coordinator.authSecret ∧
      coordinator.getAgent "intruder" = none ∧
      (receiveAgentStats Trust.sampleHmac (some coordinator) request 0).1 =
        .ok { ok := true, nodeId := "intruder" } ∧
      (receiveAgentStats Trust.sampleHmac (some coordinator) request 0).2.map
        (fun next => next.getAgent "intruder") = some (some 7) := by
  refine ⟨?_, rfl, rfl, rfl⟩
  intro authentic
  exact authentic.1 rfl

end SmartBandwidth
