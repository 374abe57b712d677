/-
# The request lifecycle

`RoutingEngine.handle` as a cooperative task. It owns a capture, shares the world with
every other request, and gives up the floor only where it awaits a router or a provider;
the loop clock and the response gateway are asked without suspending. What the routers,
the providers, the gateway and the clock answer is left open.

The record `state` is passed along and kept in the capture at the same time: the source
has one object under both names. Ids that are tested for truth are non-empty when they
are present.
-/

import LLMRouting.ControlPlane.Services
import LLMRouting.Interaction.Coroutine
import LLMRouting.Providers.CircuitBreaker
import LLMRouting.Routing.Diagnostics
import LLMRouting.State.Manager
import LLMRouting.Validation.DecisionValidator

namespace LLMRouting

open LLMRouting.Interaction

/-- How an awaited call fails: the task is cancelled in it, or the call raises. -/
inductive Interruption
  | cancelled (byDeadline : Bool)
  | raised (error : PyException)
  deriving DecidableEq

inductive EngineQuery
  | loopTime
  | decide (tier : RouterTier) (request : RouterRequest)
  | dispatch (providerId : String) (request : ProviderRequest)
  | process (response : String)
  deriving DecidableEq

/-- What the engine asks of its surroundings. Only routers and providers are awaited. -/
abbrev engineInterface : Interface where
  Query := EngineQuery
  Reply
    | .loopTime => ℚ
    | .decide _ _ => Except Interruption RawDecision
    | .dispatch _ _ => Except Interruption String
    | .process _ => Except PyException String
  suspends
    | .decide _ _ | .dispatch _ _ => true
    | .loopTime | .process _ => false

/-- What all requests share. The engine does not touch the circuits; the routers and the
dispatcher it awaits do. -/
structure World (μ : Type) where
  registry : Registry μ
  circuits : Backend → BackendCircuit
  conversations : ConversationStateManager
  policies : PolicyRepository
  governance : GovernanceRepository
  audit : PolicyAuditRepository μ

abbrev Memory (μ : Type) : Type := Mem (World μ) (Capture μ)

/-- The engine's code. -/
abbrev Routine (μ α : Type) : Type := Coro engineInterface (Memory μ) Raised α

/-- The engine's settings: the attempt budget of a new conversation, the overall deadline,
and whether the control plane has been configured. -/
structure RoutingEngine where
  maxAttempts : ℕ
  overallRequestTimeout : ℚ := 60
  candidateResolver : Bool := true
  policyAuditRepository : Bool := true
  deriving DecidableEq

/-- The arguments of one `handle` call. -/
structure HandleCall where
  request : ChatRequest
  developerMode : Bool := false
  tenant : Option TenantContext := none
  routingContext : Option RoutingContext := none
  requestId : String := ""
  deriving DecidableEq

namespace HandleCall

def tenantId (call : HandleCall) : String := (call.tenant.map TenantContext.tenantId).getD "legacy"

def context (call : HandleCall) : RoutingContext := call.routingContext.getD {}

def hasImage (call : HandleCall) : Bool := call.request.image.isSome

end HandleCall

def clarifyMessage : String := "Could you clarify what you would like help with?"

def stopMessage : String := "Unable to produce a better response."

def stopResponse (conversationId : String) : RoutingResponse :=
  { conversationId := conversationId, action := .stop, response := stopMessage }

namespace Routine

variable {μ α : Type}

def memory : Routine μ (Memory μ) := Coro.get

def note (update : Capture μ → Capture μ) : Routine μ Unit :=
  Coro.modify fun m => { m with own := update m.own }

def loopTime : Routine μ ℚ := Coro.ask (I := engineInterface) .loopTime

def askRouter (tier : RouterTier) (request : RouterRequest) :
    Routine μ (Except Interruption RawDecision) :=
  Coro.ask (I := engineInterface) (.decide tier request)

def askProvider (providerId : String) (request : ProviderRequest) :
    Routine μ (Except Interruption String) :=
  Coro.ask (I := engineInterface) (.dispatch providerId request)

def askGateway (response : String) : Routine μ (Except PyException String) :=
  Coro.ask (I := engineInterface) (.process response)

/-- `raise TimeoutError`. -/
def raiseTimeout : Routine μ α := Coro.raise (.exception { kind := .timeoutError })

/-- Raise one of the engine's errors with diagnostics. If the diagnostics cannot be built,
the registry's error is raised instead. -/
def fail (kind : RoutingErrorKind) (failure : TerminalFailure) : Routine μ α := do
  let m ← memory
  match buildDiagnostics m.shared.registry m.own failure with
  | some diagnostics => Coro.raise (.routing ⟨kind, diagnostics⟩)
  | none => Coro.raise (.exception { kind := .unknownProvider })

/-- The loop clock has reached the request's deadline. -/
def deadlinePassed : Routine μ Bool := do
  let now ← loopTime
  let m ← memory
  return decide (m.own.deadline ≤ now)

/-- The record under the capture's name. -/
def remember (state : ConversationState) : Routine μ Unit :=
  note fun capture => { capture with state := some state }

/-- `ConversationStateManager.update`. -/
def writeBack (state : ConversationState) (tenantId : String) : Routine μ Unit := do
  let m ← memory
  match m.shared.conversations.update state tenantId with
  | some conversations =>
      Coro.modify fun m => { m with shared := { m.shared with conversations := conversations } }
  | none => Coro.raise (.conversationNotFound state.conversationId)

/-- A change to the record, written back at once. -/
def storeState (state : ConversationState) (tenantId : String) : Routine μ Unit := do
  remember state
  writeBack state tenantId

end Routine

/-- `_retry_guard_fired`. -/
def retryGuardFired {μ : Type} (registry : Registry μ) (state : ConversationState) : Bool :=
  decide (state.maxAttempts ≤ state.attemptCount) ||
    (registry.availableForRouter state.excludedProviders).isEmpty

namespace Routine

variable {μ : Type}

def guardFired (state : ConversationState) : Routine μ Bool := do
  let m ← memory
  return retryGuardFired m.shared.registry state

/-- The exclusion `_prepare_retry` makes. -/
def excludeLast (state : ConversationState) (tenantId : String) : Routine μ ConversationState :=
  match state.lastProvider with
  | none => pure state
  | some providerId => do
      let excluded := state.excludeProvider providerId
      storeState excluded tenantId
      return excluded

/-- `_prepare_retry`: whether the retry is stopped, and the record afterwards. -/
def prepareRetry (state : ConversationState) (tenantId : String) :
    Routine μ (Bool × ConversationState) := do
  if ← guardFired state then return (true, state)
  let excluded ← excludeLast state tenantId
  let counted := excluded.incrementAttempt
  storeState counted tenantId
  return (← guardFired counted, counted)

/-- `_record_policy_audit`. -/
def recordPolicyAudit (engine : RoutingEngine) (tenant : TenantContext)
    (candidateSet : CandidateSet μ) : Routine μ Unit := do
  let m ← memory
  if m.own.policyAuditRecorded = false ∧ engine.policyAuditRepository = true then
    let reference : PolicyAuditReference μ :=
      { requestId := m.own.requestId
        tenantId := tenant.tenantId
        policyId := candidateSet.policy.policyId
        policyVersion := candidateSet.policy.version
        governancePolicyId := candidateSet.governance.policyId
        governancePolicyVersion := candidateSet.governance.version
        candidateIds := candidateSet.ids
        exclusions := candidateSet.exclusions
        rankings := candidateSet.rankings }
    Coro.modify fun m =>
      { m with shared := { m.shared with audit := m.shared.audit.append reference } }
    note fun capture => { capture with policyAuditRecorded := true }

/-- What `_resolve_candidates` returns without a control plane or a tenant. -/
def legacyCandidateSet (registry : Registry μ) (excluded : List String) : CandidateSet μ :=
  { providers := registry.availableForRouter excluded
    policy := { tenantId := "legacy", policyId := "legacy-balanced", kind := .legacyBalanced }
    governance := { tenantId := "legacy" } }

/-- `_resolve_candidates`. -/
def resolveCandidates [Metric μ] (engine : RoutingEngine) (context : RoutingContext)
    (excluded : List String) : Routine μ (CandidateSet μ) := do
  let m ← memory
  match engine.candidateResolver, m.own.tenant with
  | true, some tenant =>
      match resolveCandidateSet m.shared.registry m.shared.governance m.shared.policies tenant
          context excluded with
      | .error (.policyNotFound policyId) => Coro.raise (.policyNotFound policyId)
      | .error (.unexpected error) => Coro.raise (.exception error)
      | .ok candidateSet => do
          note fun capture => { capture with candidateSet := some candidateSet }
          recordPolicyAudit engine tenant candidateSet
          return candidateSet
  | _, _ => return legacyCandidateSet m.shared.registry excluded

/-- A tier's answer after validation. -/
def judged (request : RouterRequest) (reply : Except Interruption RawDecision) :
    Except Interruption RouterDecision :=
  reply.bind fun raw =>
    (DecisionValidator.validate raw request.availableTaskGroups request.hasImage
      request.retry).mapError fun error => .raised error.toException

/-- The backend a tier's failure blocks. -/
def refusedBackend (error : PyException) : List Backend :=
  if error.blocksBackend then error.backend.toList else []

/-- What the ladder notes about a tier that was cancelled. -/
def noteRouterCancelled (tier : RouterTier) (late : Bool) : Routine μ Unit :=
  note fun capture =>
    { capture with
      routerAttempts := capture.routerAttempts ++
        [{ router := tier, outcome := .cancelled
           failureClass := some (if late then "DEADLINE_EXCEEDED" else "CANCELLED") }] }

/-- What the ladder notes about a tier that failed. -/
def noteRouterFailed (tier : RouterTier) (error : PyException) : Routine μ Unit :=
  note fun capture =>
    { capture with
      fallbackUsed := true
      routerAttempts := capture.routerAttempts ++
        [{ router := tier, outcome := .failed
           failureReason := some (error.failureReason.getD
             (if error.kind = .valueError then "INVALID_DECISION" else "UNKNOWN"))
           failureClass := some (failureClass error)
           upstreamStatus := error.httpStatus }] }

/-- What the ladder notes about a tier that decided. -/
def noteRouterDecided (tier : RouterTier) (decision : RouterDecision) : Routine μ Unit :=
  note fun capture =>
    { capture with
      routerUsed := some tier
      routingReason := some decision.reason
      routerAttempts := capture.routerAttempts ++ [{ router := tier, outcome := .success }] }

/-- The loop of `_decision_from_ladder` over the tiers that are left. -/
def climb (request : RouterRequest) :
    List RouterTier → List Backend → Routine μ (RouterDecision × List Backend)
  | [], _ =>
      fail .routerFailure
        { level := some "router", stage := .fallbackRouter, reason := "ROUTER_CHAIN_EXHAUSTED" }
  | tier :: rest, blocked => do
      note fun capture => { capture with stage := tier.stage }
      let reply ← askRouter tier request
      match judged request reply with
      | .error (.cancelled byDeadline) => do
          noteRouterCancelled tier (← deadlinePassed)
          Coro.raise (.cancelled byDeadline)
      | .error (.raised error) => do
          noteRouterFailed tier error
          climb request rest (blocked ++ refusedBackend error)
      | .ok decision => do
          noteRouterDecided tier decision
          return (decision, blocked)

/-- `_decision_from_ladder`: a validated decision and the backends that refused. -/
def decisionFromLadder (request : RouterRequest) : Routine μ (RouterDecision × List Backend) :=
  climb request [.primaryRouter, .fallbackRouter] []

def appendAttempts (attempts : List ProviderAttempt) (capture : Capture μ) : Capture μ :=
  { capture with providerAttempts := capture.providerAttempts ++ attempts }

/-- The handler of a cancelled dispatch, with the candidates that were still to come. -/
def noteDispatchCancelled (candidate : ProviderConfig μ) (pending : List (ProviderConfig μ)) :
    Routine μ Unit := do
  let late ← deadlinePassed
  note (appendAttempts
    [candidate.attempt .cancelled (some (if late then "DEADLINE_EXCEEDED" else "CANCELLED"))])
  if ← deadlinePassed then
    note (appendAttempts
      (pending.map fun provider => provider.attempt .skippedDeadline (some "DEADLINE_EXCEEDED")))

/-- The handler of a dispatch that failed in a controlled way. -/
def noteDispatchFailed (candidate : ProviderConfig μ) (error : PyException) : Routine μ Unit :=
  note fun capture =>
    { appendAttempts
        [{ candidate.attempt .failed (some (failureClass error)) with
           failureReason := some (error.failureReason.getD "UNKNOWN")
           failureScope := some (error.failureScope.getD .nonTransient)
           upstreamStatus := error.httpStatus }] capture with
      providerError := some (error.failureReason.getD "UNKNOWN")
      fallbackUsed := true }

/-- The bookkeeping after a dispatch that returned a response. -/
def noteDispatchAnswered (candidate : ProviderConfig μ) : Routine μ Unit :=
  note fun capture =>
    let appended := appendAttempts [candidate.attempt .success none] capture
    { appended with
      selectedProvider := some candidate.id
      fallbackUsed := capture.fallbackUsed || decide (1 < appended.providerAttempts.length)
      stage := .gateway }

/-- The rest of an iteration whose candidate has responded: the gateway, the last look at
the deadline, and the commit. -/
def commitAnswer (state : ConversationState) (tenantId : String) (candidate : ProviderConfig μ)
    (response : String) : Routine μ RoutingResponse := do
  noteDispatchAnswered candidate
  match ← askGateway response with
  | .error _ =>
      fail .gatewayFailure { level := some "gateway", stage := .gateway, reason := "UNKNOWN" }
  | .ok clean => do
      if ← deadlinePassed then raiseTimeout
      else do
        storeState
          { state with previousResponse := some clean, lastProvider := some candidate.id } tenantId
        return { conversationId := state.conversationId, action := .answer, response := clean }

/-- The two errors after which the chain goes on. -/
def isControlled (error : PyException) : Bool :=
  decide (error.kind = .providerUnavailable ∨ error.kind = .providerDisabled)

/-- The loop of `_execute_with_fallback` over the candidates that are left. -/
def tryCandidates (request : ProviderRequest) (state : ConversationState) (tenantId : String) :
    List (ProviderConfig μ) → List Backend → Option PyException → Routine μ RoutingResponse
  | [], _, lastError =>
      fail .providerUnavailable
        { level := some "provider", stage := .provider
          reason := (lastError.bind PyException.failureReason).getD "NO_ELIGIBLE_PROVIDER"
          upstreamStatus := lastError.bind PyException.httpStatus }
  | candidate :: rest, blocked, lastError => do
      if ← deadlinePassed then raiseTimeout
      else if candidate.backend ∈ blocked then do
        note (appendAttempts [candidate.attempt .skippedAuthFailure (some "AUTH")])
        tryCandidates request state tenantId rest blocked lastError
      else do
        note fun capture => { capture with stage := .dispatcher }
        match ← askProvider candidate.id request with
        | .error (.cancelled byDeadline) => do
            noteDispatchCancelled candidate rest
            Coro.raise (.cancelled byDeadline)
        | .error (.raised error) =>
            if isControlled error then do
              noteDispatchFailed candidate error
              tryCandidates request state tenantId rest
                (if error.blocksBackend then candidate.backend :: blocked else blocked) (some error)
            else do
              note (appendAttempts [candidate.attempt .failed (some "UNKNOWN")])
              Coro.raise (.exception error)
        | .ok response => commitAnswer state tenantId candidate response

/-- `_execute_with_fallback`. -/
def executeWithFallback (candidates : List (ProviderConfig μ)) (request : ProviderRequest)
    (state : ConversationState) (tenantId : String) (blocked : List Backend) :
    Routine μ RoutingResponse := do
  match candidates with
  | [] => pure ()
  | first :: _ => note fun capture => { capture with initialProvider := some first.id }
  tryCandidates request state tenantId candidates blocked none

/-- The request the ladder is asked in one iteration. -/
def routerRequest (call : HandleCall) (state : ConversationState) (groups : List TaskGroup) :
    RouterRequest :=
  { retry := call.request.retry
    originalQuery := state.originalQuery
    latestUserMessage := call.request.message
    previousResponse := state.previousResponse
    attempt := state.attemptCount
    maxAttempts := state.maxAttempts
    hasImage := call.hasImage
    availableTaskGroups := groups }

/-- What `_route` does with a decision; `next` is the rest of the loop. -/
def followDecision (call : HandleCall) (state : ConversationState) (allowedIds : List String)
    (blocked : List Backend)
    (next : ConversationState → List Backend → Routine μ RoutingResponse)
    (decision : RouterDecision) : Routine μ RoutingResponse :=
  match h : decision.action with
  | .retry => do
      let (stopped, retried) ← prepareRetry state call.tenantId
      if stopped then return stopResponse retried.conversationId
      else next retried blocked
  | .clarify =>
      return { conversationId := state.conversationId, action := .clarify
               response := clarifyMessage }
  | .stop => return stopResponse state.conversationId
  | .answer => do
      let group := decision.answeredGroup h
      note fun capture => { capture with taskGroup := some group }
      let m ← memory
      let candidates := m.shared.registry.candidatesFor group call.hasImage
        state.excludedProviders (some allowedIds) m.own.tenant.isSome
      executeWithFallback candidates { text := call.request.message, image := call.request.image }
        state call.tenantId blocked

/-- One iteration of `_route`; `next` is the rest of the loop. -/
def routeBody [Metric μ] (engine : RoutingEngine) (call : HandleCall)
    (next : ConversationState → List Backend → Routine μ RoutingResponse)
    (state : ConversationState) (blocked : List Backend) : Routine μ RoutingResponse := do
  if ← guardFired state then return stopResponse state.conversationId
  else do
    note fun capture => { capture with stage := .governance }
    let candidateSet ← resolveCandidates engine call.context state.excludedProviders
    let allowedIds := candidateSet.ids
    if allowedIds = [] then
      fail .governancePolicyDenied
        { level := some "governance", stage := .governance, reason := "GOVERNANCE_POLICY_DENIED" }
    else do
      let m ← memory
      let groups := m.shared.registry.availableTaskGroups (some allowedIds) call.hasImage
      note fun capture => { capture with capabilitiesConsidered := candidateSet.providers }
      let (decision, refused) ← decisionFromLadder (routerRequest call state groups)
      followDecision call state allowedIds (blocked ++ refused) next decision

/-- `while True`, cut off after `rounds` further iterations. -/
def routeLoop [Metric μ] (engine : RoutingEngine) (call : HandleCall) :
    ℕ → ConversationState → List Backend → Routine μ RoutingResponse
  | 0 => routeBody engine call fun state _ => pure (stopResponse state.conversationId)
  | rounds + 1 => routeBody engine call (routeLoop engine call rounds)

/-- The loop of `_route`. Every further iteration costs an attempt, so there are at most
as many as the budget has left; `route_eq` is the loop's own equation. -/
def route [Metric μ] (engine : RoutingEngine) (call : HandleCall) (state : ConversationState)
    (blocked : List Backend) : Routine μ RoutingResponse :=
  routeLoop engine call (state.maxAttempts - state.attemptCount) state blocked

/-- `_attach_diagnostics`. -/
def attachDiagnostics (call : HandleCall) (response : RoutingResponse) :
    Routine μ RoutingResponse := do
  if call.developerMode = false then return response
  else do
    let m ← memory
    match buildDiagnostics m.shared.registry m.own {} with
    | some diagnostics => return { response with diagnostics := some diagnostics }
    | none => Coro.raise (.exception { kind := .unknownProvider })

/-- The end of `_handle`, from a record that is ready to be routed. -/
def routeAndAttach [Metric μ] (engine : RoutingEngine) (call : HandleCall)
    (state : ConversationState) : Routine μ RoutingResponse := do
  remember state
  let response ← route engine call state []
  attachDiagnostics call response

/-- The record of a retry, marked with whether the request carries an image. -/
def markImage (call : HandleCall) (state : ConversationState) : ConversationState :=
  { state with hasImage := call.hasImage }

/-- The retry branch of `_handle`. -/
def handleRetry [Metric μ] (engine : RoutingEngine) (call : HandleCall) :
    Routine μ RoutingResponse := do
  let m ← memory
  match m.shared.conversations.load call.request.conversationId call.tenantId with
  | none => Coro.raise (.conversationNotFound call.request.conversationId)
  | some state => do
      remember state
      if state.hasImage = true ∧ call.hasImage = false then
        fail .invalidRequest
          { level := some "request", stage := .request, reason := "IMAGE_REQUIRED" }
      else do
        remember (markImage call state)
        let (stopped, retried) ← prepareRetry (markImage call state) call.tenantId
        if stopped then attachDiagnostics call (stopResponse retried.conversationId)
        else routeAndAttach engine call retried

/-- The stored record of a new message's conversation, created if there is none. -/
def loadOrCreate (engine : RoutingEngine) (call : HandleCall) : Routine μ ConversationState := do
  let m ← memory
  match m.shared.conversations.load call.request.conversationId call.tenantId with
  | some state => return state
  | none => do
      let (conversations, state) := m.shared.conversations.create call.request.conversationId
        call.request.message engine.maxAttempts call.tenantId
      Coro.modify fun m => { m with shared := { m.shared with conversations := conversations } }
      return state

/-- The record a new message starts its turn with. -/
def freshTurn (call : HandleCall) (state : ConversationState) : ConversationState :=
  { state with
    originalQuery := call.request.message
    attemptCount := 0
    excludedProviders := []
    lastProvider := none
    hasImage := call.hasImage }

/-- The branch of `_handle` for a new message. -/
def handleMessage [Metric μ] (engine : RoutingEngine) (call : HandleCall) :
    Routine μ RoutingResponse := do
  let state ← loadOrCreate engine call
  writeBack (freshTurn call state) call.tenantId
  routeAndAttach engine call (freshTurn call state)

/-- `_handle`. -/
def handleBody [Metric μ] (engine : RoutingEngine) (call : HandleCall) :
    Routine μ RoutingResponse :=
  if call.request.retry then handleRetry engine call else handleMessage engine call

/-- The handlers around `_handle`. A cancellation by the deadline arrives as a time-out. -/
def translate (raised : Raised) : Routine μ RoutingResponse :=
  let deadline : Routine μ RoutingResponse :=
    fail .deadlineExceeded
      { level := some "deadline", stage := .deadline, reason := "DEADLINE_EXCEEDED" }
  match raised with
  | .cancelled true => deadline
  | .cancelled false => Coro.raise (.cancelled false)
  | .routing error => Coro.raise (.routing error)
  | .conversationNotFound conversationId => Coro.raise (.conversationNotFound conversationId)
  | .policyNotFound policyId => Coro.raise (.policyNotFound policyId)
  | .exception error =>
      if error.kind = .timeoutError then deadline
      else do
        let m ← memory
        fail .internalError
          { level := some m.own.stage.value, stage := m.own.stage, reason := "UNKNOWN" }

/-- The capture a call begins with. -/
def newCapture (engine : RoutingEngine) (call : HandleCall) (now : ℚ) : Capture μ :=
  { requestId := call.requestId, tenant := call.tenant
    deadline := now + engine.overallRequestTimeout }

/-- `RoutingEngine.handle`. -/
def handle [Metric μ] (engine : RoutingEngine) (call : HandleCall) : Routine μ RoutingResponse := do
  let now ← loopTime
  note fun _ => newCapture engine call now
  match ← (handleBody engine call).attempt with
  | .ok response => return response
  | .error raised => translate raised

end Routine

/-- An enabled text provider of the general group. -/
def generalProvider (id : String) (priority : ℕ) (backend : Backend) : ProviderConfig ℤ :=
  { id := id, backend := backend, model := "model", taskGroup := .general, priority := priority
    apiKey := some "key", costPer1kTokens := 1, latencyMs := 1000, qualityScore := 1
    healthScore := 1, capacityWeight := 1 }

def generalDecision : RouterDecision where
  action := .answer
  taskGroup := some .general
  reason := "general"
  answerRequiresTaskGroup := by decide

def retryDecision : RouterDecision where
  action := .retry
  taskGroup := none
  reason := "again"
  answerRequiresTaskGroup := by decide

/-- The memory before a call, with at most one stored conversation of the legacy tenant. -/
def deployment (providers : List (ProviderConfig ℤ)) (record : Option ConversationState) :
    Memory ℤ where
  shared :=
    { registry := .ofList providers
      circuits := fun _ => { settings := .bearing 2 0 }
      conversations := record.elim .empty fun state =>
        ConversationStateManager.empty.put state "legacy"
      policies := .empty
      governance := .empty
      audit := .empty }
  own := { requestId := "" }

/-- Routers and providers that answer as told, a gateway that passes texts on, and a clock
that stands still. -/
def scripted (router : RouterRequest → Except Interruption RawDecision)
    (provider : String → Except Interruption String) : Coro.Oracle engineInterface
  | _, .loopTime => (0 : ℚ)
  | _, .decide _ request => router request
  | _, .dispatch providerId _ => provider providerId
  | _, .process response => (.ok response : Except PyException String)

end LLMRouting
