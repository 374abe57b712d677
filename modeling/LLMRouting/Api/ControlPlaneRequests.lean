/-
# Control-plane request bodies

The rules on the fields of a policy or a governance update are written twice: on the request
models, where a violation is answered with 422, and on the stored models, where the endpoint
raises out of its handler. This module builds both from the same body and says when what the
first accepts the second stores. A body is given by what its keys hold once the values have
the declared types.
-/

import LLMRouting.Api.TenantBoundary

namespace LLMRouting

open LLMRouting.Data

/-- The characters of a policy id after the first. -/
def isPolicyChar (c : Char) : Bool :=
  c.isLower || c.isDigit || decide (c = '_') || decide (c = '-')

/-- The pattern of every `policy_id` field. -/
def matchesPolicyPattern (policyId : String) : Bool :=
  match policyId.toList with
  | [] => false
  | first :: rest => first.isLower && rest.all isPolicyChar

/-- `max_length` of every `description` field. -/
def maxDescriptionLength : ℕ := 500

/-- `GovernancePolicy.unique_values` lets the list pass. -/
def uniqueValues (values : List String) : Bool :=
  decide (values.length = values.toFinset.card)

theorem uniqueValues_iff {values : List String} : uniqueValues values = true ↔ values.Nodup := by
  rw [uniqueValues, decide_eq_true_iff, eq_comm]
  exact Multiset.toFinset_card_eq_card_iff_nodup

def PolicyKind.value : PolicyKind → String
  | .legacyBalanced => "legacy-balanced"
  | .balanced => "balanced"
  | .cheapest => "cheapest"
  | .lowestLatency => "lowest_latency"
  | .highestQuality => "highest_quality"
  | .compliance => "compliance"

/-- The members of `PolicyKind` in declaration order. -/
def PolicyKind.all : List PolicyKind :=
  [.legacyBalanced, .balanced, .cheapest, .lowestLatency, .highestQuality, .compliance]

/-- The member of the enumeration with a value. -/
def PolicyKind.ofValue? (value : String) : Option PolicyKind :=
  PolicyKind.all.find? fun kind => decide (kind.value = value)

theorem PolicyKind.ofValue?_value (kind : PolicyKind) :
    PolicyKind.ofValue? kind.value = some kind := by
  cases kind <;> decide

/-- The body of `create_policy`; a key that is absent is `none`. -/
structure PolicyCreateBody where
  policyId : Option String := none
  kind : Option String := none
  description : Option String := none
  activate : Option Bool := none
  deriving DecidableEq, Repr

structure V2PolicyCreateRequest where
  policyId : String
  kind : PolicyKind
  description : String
  activate : Bool
  policyId_matches : matchesPolicyPattern policyId = true
  description_short : description.length ≤ maxDescriptionLength

namespace V2PolicyCreateRequest

def validate (body : PolicyCreateBody) : Option V2PolicyCreateRequest := do
  let policyId ← body.policyId
  let kind ← body.kind.bind PolicyKind.ofValue?
  let description := body.description.getD ""
  if h : matchesPolicyPattern policyId = true ∧ description.length ≤ maxDescriptionLength then
    return { policyId := policyId, kind := kind, description := description
             activate := body.activate.getD false
             policyId_matches := h.1, description_short := h.2 }
  else none

end V2PolicyCreateRequest

/-- The body of `update_governance_policy`; a key that is absent is `none`. -/
structure GovernancePolicyBody where
  policyId : Option String := none
  allowedProviderIds : Option (List String) := none
  deniedProviderIds : Option (List String) := none
  allowedRegions : Option (List String) := none
  activate : Option Bool := none
  deriving DecidableEq, Repr

structure V2GovernancePolicyRequest where
  policyId : String
  allowedProviderIds : List String
  deniedProviderIds : List String
  allowedRegions : List String
  activate : Bool
  policyId_matches : matchesPolicyPattern policyId = true

namespace V2GovernancePolicyRequest

def validate (body : GovernancePolicyBody) : Option V2GovernancePolicyRequest :=
  let policyId := body.policyId.getD "default-governance"
  if h : matchesPolicyPattern policyId = true then
    some { policyId := policyId
           allowedProviderIds := body.allowedProviderIds.getD []
           deniedProviderIds := body.deniedProviderIds.getD []
           allowedRegions := body.allowedRegions.getD []
           activate := body.activate.getD true
           policyId_matches := h }
  else none

/-- No list of the request repeats a value. -/
structure RepeatsNothing (request : V2GovernancePolicyRequest) : Prop where
  allowedProviderIds : request.allowedProviderIds.Nodup
  deniedProviderIds : request.deniedProviderIds.Nodup
  allowedRegions : request.allowedRegions.Nodup

end V2GovernancePolicyRequest

/-- A body that says nothing is accepted: the defaults pass their own checks. -/
theorem governanceDefaults_accepted : (V2GovernancePolicyRequest.validate {}).isSome = true := by
  decide

/-- A `ValidationError` out of an endpoint: a `ValueError`, for which no handler is registered. -/
def validationError : ApiFailure := .engine (.exception { kind := .valueError })

/-- The constructor of `PolicyDefinition`. -/
def PolicyDefinition.build (tenantId policyId : String) (kind : PolicyKind)
    (description : String) : Except ApiFailure PolicyDefinition :=
  if matchesTenantPattern tenantId.toList = true ∧ matchesPolicyPattern policyId = true ∧
      description.length ≤ maxDescriptionLength then
    .ok { tenantId := tenantId, policyId := policyId, kind := kind, description := description }
  else .error validationError

/-- The constructor of `GovernancePolicy`. -/
def GovernancePolicy.build (tenantId policyId : String)
    (allowedProviderIds deniedProviderIds allowedRegions : List String) (active : Bool) :
    Except ApiFailure GovernancePolicy :=
  if matchesTenantPattern tenantId.toList = true ∧ matchesPolicyPattern policyId = true ∧
      uniqueValues allowedProviderIds = true ∧ uniqueValues deniedProviderIds = true ∧
        uniqueValues allowedRegions = true then
    .ok { tenantId := tenantId, policyId := policyId
          allowedProviderIds := allowedProviderIds, deniedProviderIds := deniedProviderIds
          allowedRegions := allowedRegions, active := active }
  else .error validationError

/-- The definition `create_policy` builds. -/
def V2PolicyCreateRequest.definition (request : V2PolicyCreateRequest) (tenant : TenantContext) :
    Except ApiFailure PolicyDefinition :=
  PolicyDefinition.build tenant.tenantId request.policyId request.kind request.description

/-- The policy `update_governance_policy` builds. -/
def V2GovernancePolicyRequest.policy (request : V2GovernancePolicyRequest)
    (tenant : TenantContext) : Except ApiFailure GovernancePolicy :=
  GovernancePolicy.build tenant.tenantId request.policyId request.allowedProviderIds
    request.deniedProviderIds request.allowedRegions request.activate

/-- The framework refuses a body the request model does not accept. -/
def acceptBody {α : Type} (validated : Option α) : Except ApiFailure α :=
  match validated with
  | some request => .ok request
  | none => .error .requestValidation

def createPolicy (policies : PolicyRepository) (http : HttpRequest) (body : PolicyCreateBody) :
    Except ApiFailure (PolicyRepository × PolicyDefinition) := do
  let request ← acceptBody (V2PolicyCreateRequest.validate body)
  let tenant ← TenantContextResolver.resolve http
  let definition ← request.definition tenant
  return policies.create definition request.activate

def updateGovernancePolicy (governance : GovernanceRepository) (http : HttpRequest)
    (body : GovernancePolicyBody) :
    Except ApiFailure (GovernanceRepository × GovernancePolicy) := do
  let request ← acceptBody (V2GovernancePolicyRequest.validate body)
  let tenant ← TenantContextResolver.resolve http
  let policy ← request.policy tenant
  return governance.upsert policy

/-- A request is answered with its result, or refused as invalid. -/
def RefusedOnly422 {α : Type} (outcome : Except ApiFailure α) : Prop :=
  ∀ failure, outcome = .error failure →
    failure.report.statusCode = 422 ∧ failure.report.code ≠ "INTERNAL_ERROR"

/-- What the request models and the tenant resolver let in, the stored models take, and the
endpoints refuse the rest as invalid. -/
structure BoundaryHolds (policies : PolicyRepository) (governance : GovernanceRepository)
    (http : HttpRequest) (policyBody : PolicyCreateBody) (governanceBody : GovernancePolicyBody) :
    Prop where
  policyBuilds : ∀ request, V2PolicyCreateRequest.validate policyBody = some request →
    ∀ tenant, TenantContextResolver.resolve http = .ok tenant →
      ∃ definition, request.definition tenant = .ok definition
  governanceBuilds : ∀ request, V2GovernancePolicyRequest.validate governanceBody = some request →
    ∀ tenant, TenantContextResolver.resolve http = .ok tenant →
      ∃ policy, request.policy tenant = .ok policy
  createPolicy_refuses : RefusedOnly422 (createPolicy policies http policyBody)
  updateGovernancePolicy_refuses :
    RefusedOnly422 (updateGovernancePolicy governance http governanceBody)

/-- The tenants the resolver admits match the pattern of the stored models. -/
theorem matchesTenantPattern_of_resolve {http : HttpRequest} {tenant : TenantContext}
    (h : TenantContextResolver.resolve http = .ok tenant) :
    matchesTenantPattern tenant.tenantId.toList = true := by
  rw [TenantContextResolver.resolve] at h
  by_cases hmatches : matchesTenantPattern (TenantContextResolver.tenantText http) = true
  · rw [if_pos hmatches] at h
    cases h
    simpa using hmatches
  · rw [if_neg hmatches] at h
    cases h

/-- Another tenant header is refused as invalid. -/
theorem resolve_refuses (http : HttpRequest) :
    RefusedOnly422 (TenantContextResolver.resolve http) := by
  intro failure h
  rw [TenantContextResolver.resolve] at h
  by_cases hmatches : matchesTenantPattern (TenantContextResolver.tenantText http) = true
  · rw [if_pos hmatches] at h
    cases h
  · rw [if_neg hmatches] at h
    cases h
    decide

theorem acceptBody_refuses {α : Type} (validated : Option α) :
    RefusedOnly422 (acceptBody validated) := by
  intro failure h
  cases validated with
  | none =>
      cases h
      decide
  | some request => cases h

theorem acceptBody_eq_ok {α : Type} {validated : Option α} {request : α} :
    acceptBody validated = .ok request ↔ validated = some request := by
  cases validated with
  | none => simp [acceptBody]
  | some accepted => simp [acceptBody]

theorem RefusedOnly422.bind {α β : Type} {first : Except ApiFailure α}
    {next : α → Except ApiFailure β} (hfirst : RefusedOnly422 first)
    (hnext : ∀ value, first = .ok value → RefusedOnly422 (next value)) :
    RefusedOnly422 (first >>= next) := by
  cases first with
  | error error => exact fun failure h => hfirst failure (by cases h; rfl)
  | ok value => exact hnext value rfl

theorem refusedOnly422_ok {α : Type} (value : α) :
    RefusedOnly422 (.ok value : Except ApiFailure α) := by
  intro failure h
  cases h

namespace V2PolicyCreateRequest

/-- An accepted creation can be stored for every admitted tenant. -/
theorem definition_builds (request : V2PolicyCreateRequest) {tenant : TenantContext}
    (htenant : matchesTenantPattern tenant.tenantId.toList = true) :
    ∃ definition, request.definition tenant = .ok definition :=
  ⟨_, if_pos ⟨htenant, request.policyId_matches, request.description_short⟩⟩

end V2PolicyCreateRequest

namespace V2GovernancePolicyRequest

/-- An accepted update can be stored exactly when none of its lists repeats a value. -/
theorem policy_builds_iff (request : V2GovernancePolicyRequest) {tenant : TenantContext}
    (htenant : matchesTenantPattern tenant.tenantId.toList = true) :
    (∃ policy, request.policy tenant = .ok policy) ↔ request.RepeatsNothing := by
  constructor
  · intro h
    obtain ⟨policy, hpolicy⟩ := h
    rw [V2GovernancePolicyRequest.policy, GovernancePolicy.build] at hpolicy
    split at hpolicy
    · next hrules =>
        obtain ⟨-, -, hallowed, hdenied, hregions⟩ := hrules
        exact ⟨uniqueValues_iff.mp hallowed, uniqueValues_iff.mp hdenied,
          uniqueValues_iff.mp hregions⟩
    · cases hpolicy
  · intro h
    exact ⟨_, if_pos ⟨htenant, request.policyId_matches, uniqueValues_iff.mpr h.allowedProviderIds,
      uniqueValues_iff.mpr h.deniedProviderIds, uniqueValues_iff.mpr h.allowedRegions⟩⟩

end V2GovernancePolicyRequest

/-- The two halves of the boundary agree on every creation, and on a governance update exactly
when it is not one that is accepted for an admitted tenant and repeats a value in a list. -/
theorem boundaryHolds_iff (policies : PolicyRepository) (governance : GovernanceRepository)
    (http : HttpRequest) (policyBody : PolicyCreateBody) (governanceBody : GovernancePolicyBody) :
    BoundaryHolds policies governance http policyBody governanceBody ↔
      ∀ request, V2GovernancePolicyRequest.validate governanceBody = some request →
        ∀ tenant, TenantContextResolver.resolve http = .ok tenant → request.RepeatsNothing := by
  constructor
  · intro h request hrequest tenant htenant
    exact (request.policy_builds_iff (matchesTenantPattern_of_resolve htenant)).mp
      (h.governanceBuilds request hrequest tenant htenant)
  · intro h
    have hpolicy : ∀ request, V2PolicyCreateRequest.validate policyBody = some request →
        ∀ tenant, TenantContextResolver.resolve http = .ok tenant →
          ∃ definition, request.definition tenant = .ok definition :=
      fun request _ tenant htenant =>
        request.definition_builds (matchesTenantPattern_of_resolve htenant)
    have hgovernance : ∀ request, V2GovernancePolicyRequest.validate governanceBody = some request →
        ∀ tenant, TenantContextResolver.resolve http = .ok tenant →
          ∃ policy, request.policy tenant = .ok policy :=
      fun request hrequest tenant htenant =>
        (request.policy_builds_iff (matchesTenantPattern_of_resolve htenant)).mpr
          (h request hrequest tenant htenant)
    refine ⟨hpolicy, hgovernance, ?_, ?_⟩
    · refine (acceptBody_refuses _).bind fun request hrequest => ?_
      refine (resolve_refuses http).bind fun tenant htenant => ?_
      obtain ⟨definition, hdefinition⟩ :=
        hpolicy request (acceptBody_eq_ok.mp hrequest) tenant htenant
      rw [hdefinition]
      exact refusedOnly422_ok _
    · refine (acceptBody_refuses _).bind fun request hrequest => ?_
      refine (resolve_refuses http).bind fun tenant htenant => ?_
      obtain ⟨policy, hstored⟩ := hgovernance request (acceptBody_eq_ok.mp hrequest) tenant htenant
      rw [hstored]
      exact refusedOnly422_ok _

/-- An allow list that names a provider twice is accepted and ends in `INTERNAL_ERROR`. -/
theorem repeated_provider_internal_error :
    ¬ BoundaryHolds .empty .empty {} {}
      { allowedProviderIds := some ["provider_a", "provider_a"] } := by
  intro h
  have hrefused := h.updateGovernancePolicy_refuses validationError rfl
  revert hrefused
  decide

end LLMRouting
