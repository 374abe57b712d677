/-
# Routers and providers down to the wire

`StructuredHTTPRouter.decide` and `ProviderDispatcher.dispatch` with the adapter below it, as
programs over the questions that leave the process: posting to a backend and closing a
client suspend, the clocks and the gateway do not. Putting them in the place of the engine's
questions gives the whole `handle` call with its upstream calls.

The time limit of an attempt is not counted: it may expire at every suspension, where it
arrives as a `TimeoutError`.
-/

import LLMRouting.Interaction.Inline
import LLMRouting.Upstream.Http

namespace LLMRouting

open LLMRouting.Interaction

/-- On whose behalf a request is posted. -/
inductive UpstreamCaller
  | router (tier : RouterTier) (request : RouterRequest) (repair : Bool)
  | provider (providerId : String) (request : ProviderRequest)
  deriving DecidableEq

def UpstreamCaller.tier? : UpstreamCaller → Option RouterTier
  | .router tier _ _ => some tier
  | .provider _ _ => none

def UpstreamCaller.isRouter (caller : UpstreamCaller) : Bool := caller.tier?.isSome

inductive SystemQuery
  | loopTime
  | monotonic
  | post (caller : UpstreamCaller) (backend : Backend)
  | closeClient (providerId : String) (backend : Backend) (pending : Option UpstreamError)
  | process (response : String)
  deriving DecidableEq

/-- What the process asks of its surroundings. A client is closed with the exception that is
pending while it is. -/
abbrev systemInterface : Interface where
  Query := SystemQuery
  Reply
    | .loopTime | .monotonic => ℚ
    | .post _ _ => Except TransportFailure HttpResponse
    | .closeClient _ _ _ => Except TransportFailure Unit
    | .process _ => Except PyException String
  suspends
    | .post _ _ | .closeClient _ _ _ => true
    | .loopTime | .monotonic | .process _ => false

/-- The code around an exchange with a backend. -/
abbrev Exchange (μ α : Type) : Type := Coro systemInterface (Memory μ) UpstreamError α

namespace Exchange

variable {μ α : Type}

def throw (error : PyException) : Exchange μ α := Coro.raise (.ofException error)

def monotonic : Exchange μ ℚ := Coro.ask (I := systemInterface) .monotonic

def setCircuit (backend : Backend) (update : BackendCircuit → BackendCircuit) : Exchange μ Unit :=
  Coro.modify fun m =>
    { m with shared :=
      { m.shared with
        circuits :=
          Function.update m.shared.circuits backend (update (m.shared.circuits backend)) } }

/-- `BackendCircuits.allow_request`. -/
def allowRequest (backend : Backend) : Exchange μ Bool := do
  let now ← monotonic
  let m ← Coro.get
  match (m.shared.circuits backend).allowRequest now with
  | none => throw { kind := .other }
  | some (admitted, circuit) => do
      setCircuit backend fun _ => circuit
      return admitted

/-- `BackendCircuits.record_success`. -/
def recordSuccess (backend : Backend) : Exchange μ Unit :=
  setCircuit backend BackendCircuit.recordSuccess

/-- `BackendCircuits.record_failure`. -/
def recordFailure (backend : Backend) (backendTransient : Bool) : Exchange μ Unit := do
  let now ← monotonic
  setCircuit backend fun circuit => circuit.recordFailure now backendTransient

/-- `BackendCircuits.release_probe`. -/
def releaseProbe (backend : Backend) : Exchange μ Unit :=
  setCircuit backend BackendCircuit.releaseProbe

/-- Post a request, and check the status of the response. -/
def post (caller : UpstreamCaller) (backend : Backend) : Exchange μ HttpResponse := do
  let reply ← Coro.ask (I := systemInterface) (.post caller backend)
  Coro.settle (checked reply)

/-- What a call is refused with while its circuit is open. -/
def circuitOpen (kind : ExceptionKind) (backend : Option Backend) : PyException :=
  { kind := kind, failureReason := some "CIRCUIT_OPEN"
    failureScope := some .backendTransient, backend := backend }

end Exchange

/-- A router for one backend. -/
structure StructuredHTTPRouter where
  backend : Backend
  reader : ReplyReader

namespace StructuredHTTPRouter

open Exchange

variable {μ α : Type} (router : StructuredHTTPRouter)

/-- The error `_raise_unavailable` raises. -/
def unavailable (error : UpstreamError) : PyException :=
  let metadata := routerFailureMetadata error
  { kind := .routerUnavailable, failureReason := some metadata.failureReason
    httpStatus := metadata.httpStatus, failureScope := some metadata.failureScope
    backend := some router.backend, blocksBackend := metadata.blocksBackend }

/-- `_raise_unavailable`. -/
def raiseUnavailable (error : UpstreamError) : Exchange μ α := do
  recordFailure router.backend
    (decide ((routerFailureMetadata error).failureScope = .backendTransient))
  throw (router.unavailable error)

/-- One post of a tier; the client's errors are raised as the router's own. -/
def exchange (caller : UpstreamCaller) : Exchange μ HttpResponse :=
  (post caller router.backend).rescue fun error =>
    match error with
    | .http httpError => router.raiseUnavailable (.http httpError)
    | error => Coro.raise error

/-- The error for a second reply that is no decision either. -/
def unusable (defect : ReplyDefect) : PyException :=
  { kind := .routerUnavailable
    failureReason := some (routerFailureMetadata (.defect defect)).failureReason
    failureScope := some .nonTransient }

/-- `_repair`. -/
def repair (tier : RouterTier) (request : RouterRequest) : Exchange μ RouterDecision := do
  let response ← router.exchange (.router tier request true)
  match router.reader.parse response with
  | .ok decision => return decision
  | .error (.defect defect) => do
      recordFailure router.backend false
      throw (unusable defect)
  | .error error => Coro.raise error

/-- `_decide_with_repair`. -/
def decideWithRepair (tier : RouterTier) (request : RouterRequest) :
    Exchange μ RouterDecision := do
  let response ← router.exchange (.router tier request false)
  match router.reader.parse response with
  | .ok decision => return decision
  | .error (.defect _) => router.repair tier request
  | .error error => Coro.raise error

/-- `decide`. What the helpers have raised passes the second handler too. -/
def decide (tier : RouterTier) (request : RouterRequest) : Exchange μ RouterDecision := do
  if ← allowRequest router.backend then
    let decision ← (router.decideWithRepair tier request).rescue fun error =>
      if error.isTimeoutError then router.raiseUnavailable error
      else do
        releaseProbe router.backend
        Coro.raise error
    recordSuccess router.backend
    return decision
  else throw (circuitOpen .routerUnavailable (some router.backend))

end StructuredHTTPRouter

/-- The error `generate` raises. -/
def providerUnavailable (error : UpstreamError) : PyException :=
  let metadata := adapterFailureMetadata error
  { kind := .providerUnavailable, failureReason := some metadata.failureReason
    httpStatus := metadata.httpStatus, failureScope := some metadata.failureScope
    blocksBackend := metadata.blocksBackend }

namespace ProviderDispatcher

open Exchange

variable {μ α : Type}

/-- The exception that is pending after a body with this outcome. -/
def pending : Except UpstreamError α → Option UpstreamError
  | .ok _ => none
  | .error error => some error

/-- The outcome of an `async with` whose exit may raise in place of what its body did. -/
def closed (outcome : Except UpstreamError α) :
    Except TransportFailure Unit → Except UpstreamError α
  | .ok () => outcome
  | .error failure => .error failure.toError

/-- `async with httpx.AsyncClient(...)`. -/
def withClient (config : ProviderConfig μ) (body : Exchange μ α) : Exchange μ α := do
  let outcome ← body.attempt
  let reply ← Coro.ask (I := systemInterface)
    (.closeClient config.id config.backend (pending outcome))
  Coro.settle (closed outcome reply)

/-- The body of `generate`: post the request and read the completion. The headers assert that
the provider has a key. -/
def complete (config : ProviderConfig μ) (request : ProviderRequest) : Exchange μ String :=
  match config.apiKey with
  | none => throw { kind := .other }
  | some _ => do
      let response ← post (.provider config.id request) config.backend
      Coro.settle response.content

/-- The handler of `generate`. -/
def generated (error : UpstreamError) : UpstreamError :=
  if error.isProviderFailure then .ofException (providerUnavailable error) else error

/-- `OpenAICompatibleAdapter.generate`. -/
def generate (config : ProviderConfig μ) (request : ProviderRequest) : Exchange μ String :=
  (withClient config (complete config request)).translate generated

/-- `resolve`, which gives the configuration of the adapter. -/
def resolve (providerId : String) : Exchange μ (ProviderConfig μ) := do
  let m ← Coro.get
  match m.shared.registry.getProvider? providerId with
  | none =>
      throw { kind := .providerUnavailable, failureReason := some "UNKNOWN"
              failureScope := some .nonTransient }
  | some config =>
      if config.enabled then return config
      else throw { kind := .providerDisabled, failureReason := some "UNKNOWN" }

/-- The error that replaces a `TimeoutError`. -/
def executionTimedOut : PyException :=
  { kind := .providerUnavailable, failureReason := some "TIMEOUT"
    failureScope := some .backendTransient }

/-- The inner handler of `dispatch`. -/
def executed (error : UpstreamError) : UpstreamError :=
  if error.isTimeoutError then .ofException executionTimedOut else error

/-- The body of `dispatch` under its time limit. -/
def execute (providerId : String) (request : ProviderRequest) : Exchange μ String :=
  (resolve providerId >>= fun config => generate config request).translate executed

/-- Whether an error is a `ProviderUnavailableError`. -/
def unavailable? : UpstreamError → Option PyException
  | .raised (.raised error) => if error.kind = .providerUnavailable then some error else none
  | _ => none

/-- The outer handlers of `dispatch`, which report to the circuit and raise again. -/
def reportFailure (backend : Backend) (error : UpstreamError) : Exchange μ α := do
  match unavailable? error with
  | some unavailable =>
      recordFailure backend (decide (unavailable.failureScope = some .backendTransient))
  | none => releaseProbe backend
  Coro.raise error

/-- `dispatch`. -/
def dispatch (providerId : String) (request : ProviderRequest) : Exchange μ String := do
  let m ← Coro.get
  match m.shared.registry.getProvider? providerId with
  | none => throw { kind := .unknownProvider }
  | some config => do
      if ← allowRequest config.backend then
        let response ← (execute providerId request).rescue (reportFailure config.backend)
        recordSuccess config.backend
        return response
      else throw (circuitOpen .providerUnavailable none)

end ProviderDispatcher

/-- The two routers of the ladder. -/
abbrev Routers : Type := RouterTier → StructuredHTTPRouter

namespace Routers

variable {μ α : Type}

/-- An exchange in the place of an awaited question. -/
def awaited (exchange : Exchange μ α) :
    Coro systemInterface (Memory μ) Empty (Except Interruption α) :=
  (exchange.translate UpstreamError.toInterruption).attempt

/-- The programs behind the engine's questions. -/
def program (routers : Routers) :
    (query : EngineQuery) → Coro systemInterface (Memory μ) Empty (engineInterface.Reply query)
  | .loopTime => Coro.ask (I := systemInterface) .loopTime
  | .decide tier request =>
      awaited do
        let decision ← (routers tier).decide tier request
        return RawDecision.decision decision
  | .dispatch providerId request => awaited (ProviderDispatcher.dispatch providerId request)
  | .process response => Coro.ask (I := systemInterface) (.process response)

/-- `RoutingEngine.handle` with its routers and its dispatcher. -/
def handle [Metric μ] (routers : Routers) (engine : RoutingEngine) (call : HandleCall) :
    Coro systemInterface (Memory μ) Raised RoutingResponse :=
  (Routine.handle engine call).inline routers.program

end Routers

end LLMRouting
