/-
# The developer gate and the error handlers

`_developer_mode` decides whether a request is shown diagnostics. It is asked before a chat
request is handled, again when its answer is shaped, and twice in `_error_response`, which
every exception handler of the application ends in, the last-resort one included. This
module is that part of `api/main.py`: what the gate answers, and what a client receives
when it does not answer at all.
-/

import LLMRouting.Data.Fallible
import LLMRouting.Data.PyString
import LLMRouting.Routing.Diagnostics

namespace LLMRouting

open LLMRouting.Data

/-- The operator's settings for developer mode. -/
structure DeveloperSettings where
  developerModeEnabled : Bool := false
  developerToken : Option PyString := none
  deriving DecidableEq, Repr

/-- A request as the application sees it: its id, and the raw values of the headers that
are looked at. -/
structure HttpRequest where
  requestId : String := ""
  developerToken : Option (List UInt8) := none
  developerMode : Option (List UInt8) := none
  tenantId : Option (List UInt8) := none
  deriving DecidableEq, Repr

/-- `request.headers.get(name, default)`. -/
def headerText (header : Option (List UInt8)) (default : PyString) : PyString :=
  (header.map PyString.decodeLatin1).getD default

/-- What is raised while a request is served. -/
inductive ApiFailure
  | engine (raised : Raised)
  | http (statusCode : ℕ)
  | requestValidation
  | typeError
  deriving DecidableEq

/-- `secrets.compare_digest` of two strings. -/
def compareDigest (first second : PyString) : Except ApiFailure Bool :=
  if first.isAscii && second.isAscii then .ok (decide (first = second)) else .error .typeError

/-- The mode header is one of the accepted spellings. -/
def modeRequested (request : HttpRequest) : Bool :=
  decide ((headerText request.developerMode []).strip.lower ∈
    [['t', 'r', 'u', 'e'], ['1']])

/-- `_developer_mode`. -/
def developerMode (settings : DeveloperSettings) (request : HttpRequest) : Except ApiFailure Bool :=
  if settings.developerModeEnabled = false then .ok false
  else
    match settings.developerToken with
    | none => .ok (modeRequested request)
    | some token => do
        if ← compareDigest (headerText request.developerToken []) token then
          .ok (modeRequested request)
        else .ok false

/-- The arguments an exception handler passes to `_error_response`. -/
structure ErrorReport where
  statusCode : ℕ
  code : String
  message : String
  failureLevel : String
  diagnostics : Option RoutingDiagnostics := none
  deriving DecidableEq

/-- The diagnostics shown with an error, under the status and level of the response. -/
structure ErrorDiagnostics where
  httpStatus : ℕ
  failureLevel : String
  diagnostics : RoutingDiagnostics
  deriving DecidableEq

/-- The error envelope. -/
structure ErrorResponse where
  statusCode : ℕ
  code : String
  message : String
  failureLevel : Option String
  diagnostics : Option ErrorDiagnostics
  deriving DecidableEq

/-- `_request_failure_diagnostics`. -/
def requestFailureDiagnostics (request : HttpRequest) (failureLevel : String) :
    RoutingDiagnostics where
  requestId := request.requestId
  routerUsed := none
  selectedProvider := none
  backend := none
  model := none
  routingReason := none
  taskGroup := none
  routerAttempts := []
  initialProvider := none
  fallbackPath := []
  fallbackCount := 0
  capabilitiesConsidered := []
  fallbackUsed := false
  routerFallbackUsed := false
  providerFallbackUsed := false
  retryCount := 0
  upstreamStatus := none
  failureClass := none
  failureStage := .request
  failureReason := "UNKNOWN"
  failureLevel := some failureLevel
  providerError := none
  tenantId := none
  policyId := none
  policyVersion := none
  governancePolicyId := none
  governancePolicyVersion := none
  policyCandidateIds := none
  governanceExclusions := none

/-- `_error_response`. -/
def errorResponse (settings : DeveloperSettings) (request : HttpRequest) (report : ErrorReport) :
    Except ApiFailure ErrorResponse := do
  let level := if ← developerMode settings request then some report.failureLevel else none
  let diagnostics :=
    if ← developerMode settings request then
      some
        { httpStatus := report.statusCode
          failureLevel := report.failureLevel
          diagnostics := report.diagnostics.getD
            (requestFailureDiagnostics request report.failureLevel) : ErrorDiagnostics }
    else none
  return { statusCode := report.statusCode, code := report.code, message := report.message
           failureLevel := level, diagnostics := diagnostics }

/-- The handler of an engine error. -/
def routingErrorReport (error : RoutingEngineError) : ErrorReport :=
  let report (statusCode : ℕ) (code message failureLevel : String) : ErrorReport :=
    { statusCode := statusCode, code := code, message := message, failureLevel := failureLevel
      diagnostics := some error.diagnostics }
  match error.kind with
  | .deadlineExceeded => report 504 error.kind.code "Request deadline exceeded." "deadline"
  | .invalidRequest => report 422 error.kind.code error.kind.message "request"
  | .internalError => report 500 error.kind.code "Unable to process request." "unknown"
  | .providerUnavailable =>
      report 503 "PROVIDER_UNAVAILABLE" "Selected provider is unavailable." "provider"
  | .governancePolicyDenied =>
      report 403 "GOVERNANCE_POLICY_DENIED"
        "No provider is eligible under the active governance policy." "governance"
  | .routerFailure => report 503 "ROUTER_FAILURE" "Unable to process request." "router"
  | .gatewayFailure =>
      report 503 "GATEWAY_FAILURE" "Unable to process provider response." "gateway"

/-- The handler registered for a class of exceptions, other than the one for all. -/
def registeredReport : ApiFailure → Option ErrorReport
  | .http statusCode =>
      some { statusCode := statusCode, code := "INVALID_REQUEST"
             message := "Request could not be processed.", failureLevel := "request" }
  | .requestValidation =>
      some { statusCode := 422, code := "INVALID_REQUEST", message := "Request validation failed."
             failureLevel := "request" }
  | .engine (.routing error) => some (routingErrorReport error)
  | .engine (.conversationNotFound _) =>
      some { statusCode := 404, code := "INVALID_CONVERSATION", message := "Conversation not found."
             failureLevel := "request" }
  | .engine (.policyNotFound _) =>
      some { statusCode := 404, code := "POLICY_NOT_FOUND", message := "Policy not found."
             failureLevel := "policy" }
  | .engine (.cancelled _) | .engine (.exception _) | .typeError => none

/-- The report of `unexpected_error_handler`. -/
def unexpectedReport : ErrorReport where
  statusCode := 500
  code := "INTERNAL_ERROR"
  message := "Unable to process request."
  failureLevel := "unknown"

/-- The failure is an `Exception`, as opposed to the cancellation of the request's task. -/
def ApiFailure.isException : ApiFailure → Bool
  | .engine (.cancelled _) => false
  | .engine _ | .http _ | .requestValidation | .typeError => true

/-- What the client receives. -/
inductive HttpReply (α : Type)
  | success (answer : α)
  | failure (response : ErrorResponse)

section Serving

variable {α : Type} (settings : DeveloperSettings) (request : HttpRequest)

/-- The framework's dispatch to the handler registered for the exception's class. -/
def exceptionMiddleware (endpoint : Except ApiFailure α) : Except ApiFailure (HttpReply α) :=
  match endpoint with
  | .ok answer => .ok (.success answer)
  | .error failure =>
      match registeredReport failure with
      | some report => (errorResponse settings request report).map .failure
      | none => .error failure

/-- `request_context`, which catches what has not become a response. The framework's
outermost layer does the same, with the same handler. -/
def requestContext (next : Except ApiFailure (HttpReply α)) : Except ApiFailure (HttpReply α) :=
  match next with
  | .ok reply => .ok reply
  | .error failure =>
      if failure.isException then (errorResponse settings request unexpectedReport).map .failure
      else .error failure

/-- A request from the endpoint to the client. What is left as an error here is answered by
the server, without an envelope. -/
def serve (endpoint : Except ApiFailure α) : Except ApiFailure (HttpReply α) :=
  requestContext settings request
    (requestContext settings request (exceptionMiddleware settings request endpoint))

end Serving

/-- The data of a successful chat answer; `httpStatus` is what is entered in its diagnostics. -/
structure ChatAnswer where
  response : RoutingResponse
  httpStatus : Option ℕ
  deriving DecidableEq

/-- The endpoint `chat`, given what the engine does in either mode. -/
def chat (settings : DeveloperSettings) (request : HttpRequest)
    (handle : Bool → Except ApiFailure RoutingResponse) : Except ApiFailure ChatAnswer := do
  let result ← handle (← developerMode settings request)
  let shown ← developerMode settings request
  return { response := result
           httpStatus := if shown && result.diagnostics.isSome then some 200 else none }

/-- Developer mode as it is documented. -/
structure Authorized (settings : DeveloperSettings) (request : HttpRequest) : Prop where
  enabled : settings.developerModeEnabled = true
  token : ∀ token ∈ settings.developerToken, headerText request.developerToken [] = token
  mode : modeRequested request = true

/-- The report an exception is answered with. -/
def ApiFailure.report (failure : ApiFailure) : ErrorReport :=
  (registeredReport failure).getD unexpectedReport

/-- The response shows the report, with diagnostics for a developer and without for others. -/
structure Reports (settings : DeveloperSettings) (request : HttpRequest) (report : ErrorReport)
    (response : ErrorResponse) : Prop where
  statusCode_eq : response.statusCode = report.statusCode
  code_eq : response.code = report.code
  message_eq : response.message = report.message
  level : response.failureLevel.isSome ↔ Authorized settings request
  diagnostics : response.diagnostics.isSome ↔ Authorized settings request

/-- The gate answers, every exception is answered with an error envelope, and a request that
is not authorized is handled as one without diagnostics. -/
structure GateHolds (settings : DeveloperSettings) (request : HttpRequest) : Prop where
  answers : ∃ mode, developerMode settings request = .ok mode ∧
    (mode = true ↔ Authorized settings request)
  enveloped : ∀ (α : Type) (failure : ApiFailure), failure.isException = true →
    ∃ response, serve settings request (.error failure : Except ApiFailure α) =
        .ok (.failure response) ∧
      Reports settings request failure.report response
  unauthorized : ¬ Authorized settings request → ∀ handle,
    chat settings request handle =
      (handle false).map fun result => { response := result, httpStatus := none }

/-- Whenever the token has to be compared, both it and the header are ASCII. -/
def Comparable (settings : DeveloperSettings) (request : HttpRequest) : Prop :=
  settings.developerModeEnabled = true → ∀ token ∈ settings.developerToken,
    (headerText request.developerToken []).isAscii = true ∧ token.isAscii = true

variable {settings : DeveloperSettings} {request : HttpRequest}

/-- The gate answers, and as documented, unless it compares what is not ASCII. -/
theorem developerMode_of_comparable (h : Comparable settings request) :
    ∃ mode, developerMode settings request = .ok mode ∧
      (mode = true ↔ Authorized settings request) := by
  rw [developerMode]
  by_cases henabled : settings.developerModeEnabled = true
  · rw [if_neg (by simp [henabled])]
    cases htoken : settings.developerToken with
    | none =>
        refine ⟨modeRequested request, rfl, ?_⟩
        constructor
        · intro hmode
          exact ⟨henabled, by simp [htoken], hmode⟩
        · exact Authorized.mode
    | some token =>
        obtain ⟨hheader, hascii⟩ := h henabled token htoken
        have hcompare : compareDigest (headerText request.developerToken []) token =
            .ok (decide (headerText request.developerToken [] = token)) := by
          rw [compareDigest, hheader, hascii]
          rfl
        simp only [hcompare]
        by_cases hequal : headerText request.developerToken [] = token
        · refine ⟨modeRequested request, by rw [decide_eq_true hequal]; rfl, ?_⟩
          constructor
          · intro hmode
            exact ⟨henabled, by simpa [htoken] using hequal, hmode⟩
          · exact Authorized.mode
        · refine ⟨false, by rw [decide_eq_false hequal]; rfl, ?_⟩
          constructor
          · intro hfalse
            cases hfalse
          · intro hauthorized
            exact absurd (hauthorized.token token htoken) hequal
  · rw [if_pos (by simpa using henabled)]
    refine ⟨false, rfl, ?_⟩
    constructor
    · intro hfalse
      cases hfalse
    · intro hauthorized
      exact absurd hauthorized.enabled henabled

/-- Otherwise it raises. -/
theorem developerMode_of_not_comparable (h : ¬ Comparable settings request) :
    developerMode settings request = .error .typeError := by
  simp only [Comparable, not_forall] at h
  obtain ⟨henabled, token, htoken, hascii⟩ := h
  have hcompare : compareDigest (headerText request.developerToken []) token =
      .error .typeError := by
    rw [compareDigest, if_neg (by simpa using hascii)]
  rw [developerMode]
  rw [if_neg (by simp [henabled]), Option.mem_def.mp htoken]
  simp only [hcompare]
  rfl

section Answered

variable {mode : Bool} (hanswer : developerMode settings request = .ok mode)
  (hmode : mode = true ↔ Authorized settings request)

include hanswer hmode in
/-- An error response is built if the gate answers. -/
theorem exists_errorResponse (report : ErrorReport) :
    ∃ response, errorResponse settings request report = .ok response ∧
      Reports settings request report response := by
  rw [errorResponse]
  simp only [hanswer]
  refine ⟨_, rfl, rfl, rfl, rfl, ?_, ?_⟩
  · rw [← hmode]
    cases mode <;> simp
  · rw [← hmode]
    cases mode <;> simp

include hanswer hmode in
/-- Every exception is answered with the envelope of its report. -/
theorem exists_serve_error {failure : ApiFailure} (hexception : failure.isException = true)
    (α : Type) :
    ∃ response, serve settings request (.error failure : Except ApiFailure α) =
        .ok (.failure response) ∧
      Reports settings request failure.report response := by
  cases hregistered : registeredReport failure with
  | some report =>
      obtain ⟨response, hresponse, hreports⟩ := exists_errorResponse hanswer hmode report
      refine ⟨response, ?_, ?_⟩
      · simp only [serve, requestContext, exceptionMiddleware, hregistered, hresponse, Except.map]
      · rw [ApiFailure.report, hregistered]
        exact hreports
  | none =>
      obtain ⟨response, hresponse, hreports⟩ := exists_errorResponse hanswer hmode unexpectedReport
      refine ⟨response, ?_, ?_⟩
      · simp only [serve, requestContext, exceptionMiddleware, hregistered, hexception, if_true,
          hresponse, Except.map]
      · rw [ApiFailure.report, hregistered]
        exact hreports

include hanswer hmode in
/-- Without authorization the engine is asked for a plain answer, and nothing is added. -/
theorem chat_of_unauthorized (hunauthorized : ¬ Authorized settings request)
    (handle : Bool → Except ApiFailure RoutingResponse) :
    chat settings request handle =
      (handle false).map fun result => { response := result, httpStatus := none } := by
  have hfalse : mode = false := by
    by_contra htrue
    exact hunauthorized (hmode.mp (by simpa using htrue))
  rw [hfalse] at hanswer
  rw [chat]
  simp only [hanswer]
  show (handle false >>= _) = _
  cases handle false with
  | error failure => rfl
  | ok result => rfl

end Answered

/-- The gate keeps its promises exactly when it has nothing but ASCII to compare. -/
theorem gateHolds_iff (settings : DeveloperSettings) (request : HttpRequest) :
    GateHolds settings request ↔ Comparable settings request := by
  constructor
  · intro hholds
    by_contra hcomparable
    obtain ⟨mode, hanswer, -⟩ := hholds.answers
    rw [developerMode_of_not_comparable hcomparable] at hanswer
    cases hanswer
  · intro hcomparable
    obtain ⟨mode, hanswer, hmode⟩ := developerMode_of_comparable hcomparable
    exact ⟨⟨mode, hanswer, hmode⟩,
      fun α failure hexception => exists_serve_error hanswer hmode hexception α,
      fun hunauthorized handle => chat_of_unauthorized hanswer hmode hunauthorized handle⟩

/-- An operator's token, and a client that sends one byte outside ASCII in its place. -/
def operatorSettings : DeveloperSettings :=
  { developerModeEnabled := true, developerToken := some ['k', 'e', 'y'] }

def accentedRequest : HttpRequest := { developerToken := some [0xE9] }

/-- The byte makes the gate raise, and with it every chat request and every error handler:
not even the last one produces an envelope. -/
theorem gate_breaks :
    (¬ ∀ settings request, GateHolds settings request) ∧
      ∀ handle, serve operatorSettings accentedRequest
        (chat operatorSettings accentedRequest handle) = .error .typeError := by
  have hgate : developerMode operatorSettings accentedRequest = .error .typeError := by
    decide +kernel
  constructor
  · intro hclaim
    obtain ⟨mode, hanswer, -⟩ := (hclaim operatorSettings accentedRequest).answers
    rw [hgate] at hanswer
    cases hanswer
  · intro handle
    have hchat : chat operatorSettings accentedRequest handle = .error .typeError := by
      rw [chat]
      simp only [hgate]
      rfl
    have herror : ∀ report, errorResponse operatorSettings accentedRequest report =
        .error .typeError := by
      intro report
      rw [errorResponse]
      simp only [hgate]
      rfl
    simp [hchat, serve, requestContext, exceptionMiddleware, registeredReport,
      ApiFailure.isException, herror, Except.map]

end LLMRouting
