/-
# Replies of an upstream backend

What an exchange with a backend can bring: a response with some status and body, or a failure
of the transport. Routers and task adapters read both in the same way at first and then
classify what went wrong, each with a table of its own. Reading a text as JSON and checking
it against the schema of a decision is left to the libraries that do it.
-/

import LLMRouting.Schemas.Models
import LLMRouting.Routing.Engine

namespace LLMRouting

/-- A decoded JSON value. -/
inductive Json
  | null
  | bool (value : Bool)
  | number (value : ℚ)
  | string (text : String)
  | array (items : List Json)
  | object (members : List (String × Json))

/-- Why a text cannot be decoded: it is no JSON, which is a `ValueError`, or it is nested too deep
for the decoder, which is a `RecursionError`. -/
inductive DecodeError
  | invalid
  | tooDeep
  deriving DecidableEq

/-- A response as it arrived, with what decoding its body gives. -/
structure HttpResponse where
  status : ℕ
  text : String := ""
  json : Except DecodeError Json := .error .invalid

/-- How an awaited operation of the HTTP client fails: with one of the client's own errors,
or by what interrupts it. The expiry of an attempt's time limit is a `TimeoutError`. -/
inductive TransportFailure
  | timeout
  | network
  | other
  | interrupted (interruption : Interruption)
  deriving DecidableEq

/-- `httpx.HTTPError`: an error of the transport, or a status that is no success. -/
inductive HttpError
  | timeout
  | network
  | other
  | status (code : ℕ) (text : String)
  deriving DecidableEq

/-- What is wrong with the body of a successful response. -/
inductive ReplyDefect
  | notJson
  | schemaMismatch
  | malformed
  deriving DecidableEq

/-- Everything the code around an exchange may catch. -/
inductive UpstreamError
  | http (error : HttpError)
  | defect (defect : ReplyDefect)
  | raised (interruption : Interruption)
  deriving DecidableEq

def TransportFailure.toError : TransportFailure → UpstreamError
  | .timeout => .http .timeout
  | .network => .http .network
  | .other => .http .other
  | .interrupted interruption => .raised interruption

namespace UpstreamError

/-- A Python exception that is not one of the client's and not about a response's body. -/
def ofException (error : PyException) : UpstreamError := .raised (.raised error)

/-- The error is a `TimeoutError`, which the client's own time-out is not. -/
def isTimeoutError : UpstreamError → Bool
  | .raised (.raised error) => decide (error.kind = .timeoutError)
  | _ => false

/-- The error as the engine sees it. -/
def toInterruption : UpstreamError → Interruption
  | .http _ => .raised { kind := .other }
  | .defect _ => .raised { kind := .valueError }
  | .raised interruption => interruption

end UpstreamError

/-- `raise_for_status`: only a 2xx response is let through. -/
def HttpResponse.raiseForStatus (response : HttpResponse) : Except UpstreamError HttpResponse :=
  if 200 ≤ response.status ∧ response.status < 300 then .ok response
  else .error (.http (.status response.status response.text))

/-- The outcome of awaiting `client.post` and checking the status of what it returns. -/
def checked (reply : Except TransportFailure HttpResponse) : Except UpstreamError HttpResponse :=
  match reply with
  | .error failure => .error failure.toError
  | .ok response => response.raiseForStatus

/-- The statuses by which a backend refuses the request's credentials. -/
def isAuthStatus (status : ℕ) : Bool := decide (status = 401 ∨ status = 403)

namespace Json

/-- `payload[key]` of a dictionary; anything else raises. -/
def member? (key : String) : Json → Option Json
  | .object members => (members.find? fun entry => decide (entry.1 = key)).map Prod.snd
  | _ => none

/-- `payload[0]` of a list; of anything else it raises, or leads to a lookup that does. -/
def first? : Json → Option Json
  | .array items => items.head?
  | _ => none

/-- `payload["choices"][0]["message"]["content"]`, which has to be a string. -/
def content? (payload : Json) : Option String := do
  let choice ← (← payload.member? "choices").first?
  match ← (← choice.member? "message").member? "content" with
  | .string text => some text
  | _ => none

end Json

/-- The exception a failed decoding raises. -/
def DecodeError.toError : DecodeError → UpstreamError
  | .invalid => .defect .notJson
  | .tooDeep => .ofException { kind := .other }

/-- The content of the first choice of a response. -/
def HttpResponse.content (response : HttpResponse) : Except UpstreamError String :=
  match response.json with
  | .error error => .error error.toError
  | .ok payload =>
      match payload.content? with
      | some text => .ok text
      | none => .error (.defect .malformed)

/-- What the libraries make of a router's text: `json.loads` decodes it, and
`RouterDecision.model_validate` checks what was decoded against the schema. -/
structure ReplyReader where
  loads : String → Except DecodeError Json
  modelValidate : Json → Option RouterDecision

/-- `_parse`, of the body of a successful response. -/
def ReplyReader.parse (reader : ReplyReader) (response : HttpResponse) :
    Except UpstreamError RouterDecision :=
  response.content.bind fun text =>
    match reader.loads text with
    | .error error => .error error.toError
    | .ok value =>
        match reader.modelValidate value with
        | some decision => .ok decision
        | none => .error (.defect .schemaMismatch)

/-- The errors of reading a body: a defect of it, or the decoder's `RecursionError`. -/
def UpstreamError.IsReading (error : UpstreamError) : Prop :=
  (∃ defect, error = .defect defect) ∨ error = .ofException { kind := .other }

theorem DecodeError.isReading_toError (error : DecodeError) : error.toError.IsReading := by
  cases error with
  | invalid => exact .inl ⟨_, rfl⟩
  | tooDeep => exact .inr rfl

theorem HttpResponse.isReading_of_content {response : HttpResponse} {error : UpstreamError}
    (h : response.content = .error error) : error.IsReading := by
  rw [HttpResponse.content] at h
  cases hjson : response.json with
  | error decodeError =>
      simp only [hjson] at h
      cases h
      exact decodeError.isReading_toError
  | ok payload =>
      simp only [hjson] at h
      cases hcontent : payload.content? with
      | some text => simp only [hcontent, reduceCtorEq] at h
      | none =>
          simp only [hcontent] at h
          cases h
          exact .inl ⟨_, rfl⟩

theorem ReplyReader.isReading_of_parse {reader : ReplyReader} {response : HttpResponse}
    {error : UpstreamError} (h : reader.parse response = .error error) : error.IsReading := by
  rw [ReplyReader.parse] at h
  cases hcontent : response.content with
  | error failure =>
      rw [hcontent] at h
      cases h
      exact HttpResponse.isReading_of_content hcontent
  | ok text =>
      simp only [hcontent, Except.bind] at h
      cases hloads : reader.loads text with
      | error decodeError =>
          simp only [hloads] at h
          cases h
          exact decodeError.isReading_toError
      | ok value =>
          simp only [hloads] at h
          cases hvalue : reader.modelValidate value with
          | some decision => simp only [hvalue, reduceCtorEq] at h
          | none =>
              simp only [hvalue] at h
              cases h
              exact .inl ⟨_, rfl⟩

def modelSpecificMarkers : List String :=
  ["model unavailable", "model is unavailable", "model not found", "unsupported modality",
    "unsupported image", "unsupported request format"]

/-- `classify_http_failure`. -/
def classifyHttpFailure (status : ℕ) (responseText : String) : FailureScope :=
  let text := responseText.toList.map Char.toLower
  if modelSpecificMarkers.any fun marker => decide (marker.toList <:+: text) then
    .modelSpecific
  else if status = 429 then .modelSpecific
  else if 500 ≤ status then .backendTransient
  else if status = 404 then .modelSpecific
  else .nonTransient

/-- What `_failure_metadata` finds out about an error. -/
structure FailureMetadata where
  httpStatus : Option ℕ := none
  failureReason : String
  failureScope : FailureScope
  deriving DecidableEq

/-- Whether the failure blocks the backend for the rest of the request. -/
def FailureMetadata.blocksBackend (metadata : FailureMetadata) : Bool :=
  metadata.httpStatus.any isAuthStatus

/-- `StructuredHTTPRouter._failure_metadata`. -/
def routerFailureMetadata : UpstreamError → FailureMetadata
  | .http (.status code text) =>
      { httpStatus := some code, failureReason := httpFailureReason code
        failureScope := classifyHttpFailure code text }
  | .http .timeout => { failureReason := "TIMEOUT", failureScope := .backendTransient }
  | .http .network => { failureReason := "NETWORK_ERROR", failureScope := .backendTransient }
  | .http .other => { failureReason := "UNKNOWN", failureScope := .nonTransient }
  | .defect .schemaMismatch =>
      { failureReason := "SCHEMA_VALIDATION_FAILED", failureScope := .nonTransient }
  | .defect _ => { failureReason := "INVALID_ROUTER_JSON", failureScope := .nonTransient }
  | .raised (.cancelled _) => { failureReason := "UNKNOWN", failureScope := .nonTransient }
  | .raised (.raised error) =>
      if error.kind = .timeoutError then
        { failureReason := "TIMEOUT", failureScope := .backendTransient }
      else if error.kind = .valueError ∨ error.kind = .lookupError then
        { failureReason := "INVALID_ROUTER_JSON", failureScope := .nonTransient }
      else { failureReason := "UNKNOWN", failureScope := .nonTransient }

/-- `OpenAICompatibleAdapter._failure_metadata`. -/
def adapterFailureMetadata : UpstreamError → FailureMetadata
  | .http (.status code text) =>
      { httpStatus := some code, failureReason := httpFailureReason code
        failureScope := classifyHttpFailure code text }
  | .http .timeout => { failureReason := "TIMEOUT", failureScope := .backendTransient }
  | .http .network => { failureReason := "NETWORK_ERROR", failureScope := .backendTransient }
  | _ => { failureReason := "INVALID_PROVIDER_RESPONSE", failureScope := .modelSpecific }

/-- The errors `generate` turns into a `ProviderUnavailableError`. -/
def UpstreamError.isProviderFailure : UpstreamError → Bool
  | .http _ | .defect _ => true
  | .raised (.cancelled _) => false
  | .raised (.raised error) => decide (error.kind = .valueError ∨ error.kind = .lookupError)

end LLMRouting
