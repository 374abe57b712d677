/-
# What a request records about itself

Every `handle` call keeps one capture: the tiers and providers it tried, how each
attempt ended, and the conversation it works on. Diagnostics are assembled from it at
the end, whether the request succeeded or failed. Clock readings and durations are left
out, and so are the fields of the diagnostics that only repeat another one.
-/

import LLMRouting.ControlPlane.Repository
import LLMRouting.Registry.ModelRegistry

namespace LLMRouting

variable {μ : Type}

/-- The tiers of the router ladder. -/
inductive RouterTier
  | primaryRouter
  | fallbackRouter
  deriving DecidableEq, Repr

def RouterTier.stage : RouterTier → FailureStage
  | .primaryRouter => .primaryRouter
  | .fallbackRouter => .fallbackRouter

inductive AttemptOutcome
  | success
  | failed
  | cancelled
  | skippedAuthFailure
  | skippedDeadline
  deriving DecidableEq, Repr

/-- An entry of `router_attempts`. -/
structure RouterAttempt where
  router : RouterTier
  outcome : AttemptOutcome
  failureReason : Option String := none
  failureClass : Option String := none
  upstreamStatus : Option ℕ := none
  deriving DecidableEq, Repr

/-- An entry of `provider_attempts`. -/
structure ProviderAttempt where
  providerId : String
  backend : Backend
  model : String
  outcome : AttemptOutcome
  failureReason : Option String := none
  failureScope : Option FailureScope := none
  failureClass : Option String := none
  upstreamStatus : Option ℕ := none
  deriving DecidableEq, Repr

/-- The entry for a provider, before its outcome is filled in. -/
def ProviderConfig.attempt (provider : ProviderConfig μ) (outcome : AttemptOutcome)
    (failureClass : Option String) : ProviderAttempt :=
  { providerId := provider.id, backend := provider.backend, model := provider.model
    outcome := outcome, failureClass := failureClass }

/-- `_DiagnosticsCapture`. `state` is the very record the call works on, so it follows
every change made to that record. -/
structure Capture (μ : Type) where
  requestId : String
  tenant : Option TenantContext := none
  deadline : ℚ := 0
  state : Option ConversationState := none
  stage : FailureStage := .request
  routerUsed : Option RouterTier := none
  routingReason : Option String := none
  taskGroup : Option TaskGroup := none
  capabilitiesConsidered : List AvailableProvider := []
  routerAttempts : List RouterAttempt := []
  initialProvider : Option String := none
  selectedProvider : Option String := none
  providerAttempts : List ProviderAttempt := []
  providerError : Option String := none
  fallbackUsed : Bool := false
  candidateSet : Option (CandidateSet μ) := none
  policyAuditRecorded : Bool := false
  deriving DecidableEq

/-- `RoutingDiagnostics`, as assembled from a capture. -/
structure RoutingDiagnostics where
  requestId : String
  routerUsed : Option RouterTier
  selectedProvider : Option String
  backend : Option Backend
  model : Option String
  routingReason : Option String
  taskGroup : Option TaskGroup
  routerAttempts : List RouterAttempt
  initialProvider : Option String
  fallbackPath : List ProviderAttempt
  fallbackCount : ℕ
  capabilitiesConsidered : List AvailableProvider
  fallbackUsed : Bool
  routerFallbackUsed : Bool
  providerFallbackUsed : Bool
  retryCount : ℕ
  upstreamStatus : Option ℕ
  failureClass : Option String
  failureStage : FailureStage
  failureReason : String
  failureLevel : Option String
  providerError : Option String
  tenantId : Option String
  policyId : Option String
  policyVersion : Option ℕ
  governancePolicyId : Option String
  governancePolicyVersion : Option ℕ
  policyCandidateIds : Option (List String)
  governanceExclusions : Option (List GovernanceExclusion)
  deriving DecidableEq, Repr

/-- The terminal failure a diagnostics object is built for. -/
structure TerminalFailure where
  level : Option String := none
  stage : FailureStage := .none
  reason : String := "NONE"
  upstreamStatus : Option ℕ := none
  deriving DecidableEq, Repr

/-- The upstream status of the last attempt that has one. -/
def Capture.lastUpstreamStatus (capture : Capture μ) : Option ℕ :=
  (capture.routerAttempts.map RouterAttempt.upstreamStatus ++
    capture.providerAttempts.map ProviderAttempt.upstreamStatus).reverse.findSome? id

/-- The failure class of the last attempt that has one. -/
def Capture.lastFailureClass (capture : Capture μ) : Option String :=
  (capture.routerAttempts.map RouterAttempt.failureClass ++
    capture.providerAttempts.map ProviderAttempt.failureClass).reverse.findSome? id

/-- `_build_diagnostics`; `none` where the registry no longer knows the selected provider. -/
def buildDiagnostics (registry : Registry μ) (capture : Capture μ) (failure : TerminalFailure) :
    Option RoutingDiagnostics :=
  let assemble (backend : Option Backend) (model : Option String) : RoutingDiagnostics :=
    { requestId := capture.requestId
      routerUsed := capture.routerUsed
      selectedProvider := capture.selectedProvider
      backend := backend
      model := model
      routingReason := capture.routingReason
      taskGroup := capture.taskGroup
      routerAttempts := capture.routerAttempts
      initialProvider := capture.initialProvider
      fallbackPath := capture.providerAttempts
      fallbackCount := capture.providerAttempts.length - 1
      capabilitiesConsidered := capture.capabilitiesConsidered
      fallbackUsed := capture.fallbackUsed
      routerFallbackUsed := capture.routerAttempts.any fun item =>
        decide (item.router = .fallbackRouter)
      providerFallbackUsed := decide (1 < capture.providerAttempts.length)
      retryCount := (capture.state.map ConversationState.attemptCount).getD 0
      upstreamStatus := failure.upstreamStatus.or capture.lastUpstreamStatus
      failureClass :=
        if failure.reason = "DEADLINE_EXCEEDED" then some "DEADLINE_EXCEEDED"
        else if failure.reason ≠ "NONE" then some (capture.lastFailureClass.getD "UNKNOWN")
        else none
      failureStage := failure.stage
      failureReason := failure.reason
      failureLevel := failure.level
      providerError := capture.providerError
      tenantId := capture.tenant.map TenantContext.tenantId
      policyId := capture.candidateSet.map fun set => set.policy.policyId
      policyVersion := capture.candidateSet.map fun set => set.policy.version
      governancePolicyId := capture.candidateSet.map fun set => set.governance.policyId
      governancePolicyVersion := capture.candidateSet.map fun set => set.governance.version
      policyCandidateIds := capture.candidateSet.map CandidateSet.ids
      governanceExclusions := capture.candidateSet.map CandidateSet.exclusions }
  match capture.selectedProvider with
  | none => some (assemble none none)
  | some providerId => (registry.getProvider? providerId).map fun provider =>
      assemble (some provider.backend) (some provider.model)

/-- Diagnostics can be built as long as the selected provider is registered. -/
theorem exists_buildDiagnostics {registry : Registry μ} {capture : Capture μ}
    (h : ∀ providerId ∈ capture.selectedProvider, ∃ provider,
      registry.getProvider? providerId = some provider) (failure : TerminalFailure) :
    ∃ diagnostics, buildDiagnostics registry capture failure = some diagnostics := by
  rw [buildDiagnostics]
  cases hselected : capture.selectedProvider with
  | none => exact ⟨_, rfl⟩
  | some providerId =>
      obtain ⟨provider, hprovider⟩ := h providerId hselected
      exact ⟨_, congrArg (Option.map _) hprovider⟩

/-- `RoutingEngineError` and its subclasses. -/
inductive RoutingErrorKind
  | routerFailure
  | providerUnavailable
  | gatewayFailure
  | deadlineExceeded
  | internalError
  | invalidRequest
  | governancePolicyDenied
  deriving DecidableEq, Repr

def RoutingErrorKind.code : RoutingErrorKind → String
  | .routerFailure => "ROUTER_FAILURE"
  | .providerUnavailable => "PROVIDER_UNAVAILABLE"
  | .gatewayFailure => "GATEWAY_FAILURE"
  | .deadlineExceeded => "DEADLINE_EXCEEDED"
  | .internalError => "INTERNAL_ERROR"
  | .invalidRequest => "INVALID_REQUEST"
  | .governancePolicyDenied => "GOVERNANCE_POLICY_DENIED"

def RoutingErrorKind.message : RoutingErrorKind → String
  | .routerFailure => "Both configured routers failed"
  | .providerUnavailable => "All eligible task providers are unavailable"
  | .gatewayFailure => "Unable to process the provider response"
  | .deadlineExceeded => "Request deadline exceeded"
  | .internalError => "Unable to process request"
  | .invalidRequest => "Image retries require the image to be attached again"
  | .governancePolicyDenied => "No provider is eligible under the active governance policy"

structure RoutingEngineError where
  kind : RoutingErrorKind
  diagnostics : RoutingDiagnostics
  deriving DecidableEq, Repr

/-- What the engine's code raises. A cancellation is no `Exception`; it remembers whether
the overall deadline requested it. -/
inductive Raised
  | cancelled (byDeadline : Bool)
  | routing (error : RoutingEngineError)
  | conversationNotFound (conversationId : String)
  | policyNotFound (policyId : String)
  | exception (error : PyException)
  deriving DecidableEq

structure RoutingResponse where
  conversationId : String
  action : RouterAction
  response : String
  diagnostics : Option RoutingDiagnostics := none
  deriving DecidableEq

end LLMRouting
