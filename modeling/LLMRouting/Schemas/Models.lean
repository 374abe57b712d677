/-
# Application contracts

The provider-agnostic types of `schemas/models.py`: enumerations, the private
provider metadata, the router's request and decision, conversation state, and the
classification of failures. Fields that no modelled function reads are left out,
and so are the timestamps.

The metric fields of a provider are floats that the control plane only compares,
negates and multiplies. Their bounds keep out what is not a number, so they live in an abstract
ordered type; the product of two of them may be no number all the same.
-/

import LLMRouting.Data.Sorter

namespace LLMRouting

open LLMRouting.Data

/-- What the policy metrics are compared, computed and sorted in. A product is `none` where it
is not a number, as that of zero and infinity. -/
class Metric (μ : Type) extends LinearOrder μ, Neg μ, Zero μ where
  product : μ → μ → Option μ
  sorter : Sorter (μ ×ₗ String)
  neg_le_neg_iff : ∀ first second : μ, -first ≤ -second ↔ second ≤ first

instance : Metric ℤ where
  product first second := some (first * second)
  sorter := .insertion
  neg_le_neg_iff _ _ := neg_le_neg_iff

inductive RouterAction
  | answer
  | retry
  | clarify
  | stop
  deriving DecidableEq, Repr

inductive TaskGroup
  | general
  | codingReasoning
  | creative
  | multimodal
  deriving DecidableEq, Repr

/-- The members of `TaskGroup` in declaration order. -/
def TaskGroup.all : List TaskGroup := [.general, .codingReasoning, .creative, .multimodal]

theorem TaskGroup.mem_all (group : TaskGroup) : group ∈ TaskGroup.all := by
  cases group <;> decide

inductive InputModality
  | text
  | image
  deriving DecidableEq, Repr

inductive FailureScope
  | backendTransient
  | modelSpecific
  | nonTransient
  deriving DecidableEq, Repr

/-- The architecture boundary at which a request terminally failed. -/
inductive FailureStage
  | none
  | request
  | deadline
  | primaryRouter
  | fallbackRouter
  | dispatcher
  | provider
  | gateway
  | validator
  | governance
  deriving DecidableEq, Repr

def FailureStage.value : FailureStage → String
  | .none => "none"
  | .request => "request"
  | .deadline => "deadline"
  | .primaryRouter => "primary_router"
  | .fallbackRouter => "fallback_router"
  | .dispatcher => "dispatcher"
  | .provider => "provider"
  | .gateway => "gateway"
  | .validator => "validator"
  | .governance => "governance"

/-- The four backends a provider configuration may name. -/
inductive Backend
  | google
  | nvidia
  | openrouter
  | groq
  deriving DecidableEq, Repr

/-- A stable failure reason for an upstream HTTP response. -/
def httpFailureReason (statusCode : ℕ) : String :=
  let phrase := match statusCode with
    | 400 => "BAD_REQUEST"
    | 401 => "AUTHENTICATION_FAILED"
    | 402 => "PAYMENT_REQUIRED"
    | 403 => "PERMISSION_DENIED"
    | 404 => "MODEL_NOT_FOUND"
    | 429 => "RATE_LIMIT"
    | 500 => "INTERNAL_SERVER_ERROR"
    | 502 => "BAD_GATEWAY"
    | 503 => "PROVIDER_UNAVAILABLE"
    | 504 => "GATEWAY_TIMEOUT"
    | _ => "ERROR"
  s!"HTTP_{statusCode}_{phrase}"

/-- The classes the modelled `except` clauses and `isinstance` tests tell apart. A
`lookupError` is a `KeyError`, an `IndexError` or a `TypeError`. -/
inductive ExceptionKind
  | providerUnavailable
  | providerDisabled
  | routerUnavailable
  | unknownProvider
  | valueError
  | lookupError
  | timeoutError
  | other
  deriving DecidableEq, Repr

/-- A raised exception with the attributes its handlers ask for. An attribute the
exception does not have is `none`, where `getattr` falls back to its default. -/
structure PyException where
  kind : ExceptionKind
  failureReason : Option String := none
  httpStatus : Option ℕ := none
  failureScope : Option FailureScope := none
  backend : Option Backend := none
  blocksBackend : Bool := false
  deriving DecidableEq, Repr

/-- The failure class a diagnostics entry reports for an exception. -/
def failureClass (error : PyException) : String :=
  if error.httpStatus = some 401 ∨ error.httpStatus = some 403 then "AUTH"
  else if error.httpStatus = some 429 then "HTTP_429"
  else if error.httpStatus.any (500 ≤ ·) then "HTTP_5XX"
  else if error.httpStatus = some 404 ∨ error.failureScope = some .modelSpecific then
    "MODEL_UNAVAILABLE"
  else if error.httpStatus.any (400 ≤ ·) then "HTTP_4XX"
  else error.failureReason.getD "UNKNOWN"

structure ProviderCapability where
  inputModalities : List InputModality := [.text]
  deriving DecidableEq, Repr

/-- Private registry metadata; it is never included in a `RouterRequest`. -/
structure ProviderConfig (μ : Type) where
  id : String
  enabled : Bool := true
  backend : Backend
  model : String
  taskGroup : TaskGroup
  priority : ℕ
  apiKey : Option String := none
  capabilities : ProviderCapability := {}
  regions : List String := []
  supportedDataClassifications : List String :=
    ["PUBLIC", "INTERNAL", "CONFIDENTIAL", "RESTRICTED"]
  costPer1kTokens : μ
  latencyMs : μ
  qualityScore : μ
  healthScore : μ
  capacityWeight : μ
  deriving DecidableEq, Repr

/-- The provider's declared modalities include images. -/
def ProviderConfig.acceptsImage {μ : Type} (provider : ProviderConfig μ) : Bool :=
  decide (InputModality.image ∈ provider.capabilities.inputModalities)

/-- The vendor-neutral view provided to the router. -/
structure AvailableProvider where
  id : String
  capabilities : ProviderCapability
  deriving DecidableEq, Repr

structure RouterRequest where
  retry : Bool
  originalQuery : String
  latestUserMessage : String
  previousResponse : Option String
  attempt : ℕ
  maxAttempts : ℕ
  hasImage : Bool
  availableTaskGroups : List TaskGroup
  deriving DecidableEq, Repr

/-- A schema-conformant decision: exactly the ANSWER decisions name a task group. -/
structure RouterDecision where
  action : RouterAction
  taskGroup : Option TaskGroup
  reason : String
  answerRequiresTaskGroup : action = .answer ↔ taskGroup.isSome
  deriving DecidableEq

/-- What a router may hand to the validator: a decision, or a dictionary, given
here by what `RouterDecision.model_validate` makes of it. -/
inductive RawDecision
  | decision (parsed : RouterDecision)
  | record (validated : Option RouterDecision)
  deriving DecidableEq

structure ImageInput where
  mediaType : String
  dataBase64 : String
  deriving DecidableEq, Repr

structure ProviderRequest where
  text : String
  image : Option ImageInput
  deriving DecidableEq, Repr

structure ConversationState where
  hasImage : Bool := false
  conversationId : String
  originalQuery : String
  previousResponse : Option String := none
  attemptCount : ℕ := 0
  maxAttempts : ℕ
  excludedProviders : List String := []
  lastProvider : Option String := none
  deriving DecidableEq, Repr

structure ChatRequest where
  conversationId : String
  message : String
  image : Option ImageInput := none
  retry : Bool := false
  deriving DecidableEq, Repr

/-- Tenant identity resolved at the API boundary for V2 requests. -/
structure TenantContext where
  tenantId : String := "default"
  deriving DecidableEq, Repr

/-- Deterministic control-plane input. The optional strings are non-empty when
present, so the truth tests on them are tests for presence. -/
structure RoutingContext where
  policyId : Option String := none
  dataClassification : String := "INTERNAL"
  region : Option String := none
  deriving DecidableEq, Repr

end LLMRouting
