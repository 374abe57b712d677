/-
# Governance and policy evaluation

Governance filters the registry's view provider by provider, a policy orders what
is left, and the resolver composes the two into the candidate set of one routing
iteration. Nothing here calls a provider or reads a prompt.
-/

import LLMRouting.ControlPlane.Repository
import LLMRouting.Data.Fallible
import LLMRouting.Registry.ModelRegistry

namespace LLMRouting

open LLMRouting.Data

variable {μ : Type}

/-- The exceptions candidate resolution can raise. -/
inductive ResolveError
  | policyNotFound (policyId : String)
  | unexpected (error : PyException)
  deriving DecidableEq

/-- The registry lookup of a provider view; `UnknownProviderError` if it is gone. -/
def lookupConfig (registry : Registry μ) (provider : AvailableProvider) :
    Except ResolveError (ProviderConfig μ) :=
  match registry.getProvider? provider.id with
  | some config => .ok config
  | none => .error (.unexpected { kind := .unknownProvider })

theorem lookupConfig_eq_ok {registry : Registry μ} {provider : AvailableProvider}
    {config : ProviderConfig μ} :
    lookupConfig registry provider = .ok config ↔
      registry.getProvider? provider.id = some config := by
  rw [lookupConfig]
  cases registry.getProvider? provider.id with
  | none => exact ⟨fun h => (nomatch h), fun h => (nomatch h)⟩
  | some found => exact ⟨fun h => congrArg some (Except.ok.inj h), fun h => by cases h; rfl⟩

namespace GovernanceEvaluator

/-- The first governance rule a provider fails. -/
def exclusionReason (policy : GovernancePolicy) (context : RoutingContext) (providerId : String)
    (providerRegions classifications : List String) : Option String :=
  if policy.allowedProviderIds ≠ [] ∧ providerId ∉ policy.allowedProviderIds then
    some "PROVIDER_NOT_ALLOWED"
  else if providerId ∈ policy.deniedProviderIds then some "PROVIDER_DENIED"
  else if context.dataClassification ∉ classifications then
    some "DATA_CLASSIFICATION_NOT_ALLOWED"
  else match context.region with
    | none => none
    | some region =>
        if policy.allowedRegions ≠ [] ∧ region ∉ policy.allowedRegions then
          some "TENANT_REGION_DENIED"
        else if providerRegions ≠ [] ∧ region ∉ providerRegions then some "REGION_NOT_ALLOWED"
        else none

/-- `_exclusion_reason` on a registered configuration. -/
def reasonFor (policy : GovernancePolicy) (context : RoutingContext) (config : ProviderConfig μ) :
    Option String :=
  exclusionReason policy context config.id config.regions config.supportedDataClassifications

/-- The loop of `evaluate`: split the providers into allowed and excluded ones. -/
def split (policy : GovernancePolicy) (context : RoutingContext) (registry : Registry μ) :
    List AvailableProvider →
      Except ResolveError (List AvailableProvider × List GovernanceExclusion)
  | [] => .ok ([], [])
  | provider :: rest => do
      let config ← lookupConfig registry provider
      let (allowed, exclusions) ← split policy context registry rest
      match reasonFor policy context config with
      | some reason => .ok (allowed, ⟨provider.id, reason⟩ :: exclusions)
      | none => .ok (provider :: allowed, exclusions)

def evaluate (governance : GovernanceRepository) (tenant : TenantContext)
    (context : RoutingContext) (providers : List AvailableProvider) (registry : Registry μ) :
    Except ResolveError
      (GovernancePolicy × List AvailableProvider × List GovernanceExclusion) := do
  let policy := governance.getActive tenant.tenantId
  let (allowed, exclusions) ← split policy context registry providers
  return (policy, allowed, exclusions)

/-- A provider governance leaves in is registered and fails no rule. -/
theorem mem_of_split {policy : GovernancePolicy} {context : RoutingContext}
    {registry : Registry μ} {providers allowed : List AvailableProvider}
    {exclusions : List GovernanceExclusion}
    (h : split policy context registry providers = .ok (allowed, exclusions)) :
    ∀ provider ∈ allowed, provider ∈ providers ∧ ∃ config,
      registry.getProvider? provider.id = some config ∧ reasonFor policy context config = none := by
  induction providers generalizing allowed exclusions with
  | nil =>
      cases h
      simp
  | cons first rest ih =>
      obtain ⟨config, hconfig, h⟩ := bind_eq_ok.mp h
      obtain ⟨⟨kept, dropped⟩, hrest, h⟩ := bind_eq_ok.mp h
      have hkept : ∀ provider ∈ kept, provider ∈ first :: rest ∧ ∃ config,
          registry.getProvider? provider.id = some config ∧
            reasonFor policy context config = none := fun provider hprovider =>
        (ih hrest provider hprovider).imp_left (List.mem_cons_of_mem first)
      cases hreason : reasonFor policy context config with
      | some reason =>
          simp only [hreason, Except.ok.injEq, Prod.mk.injEq] at h
          exact h.1 ▸ hkept
      | none =>
          simp only [hreason, Except.ok.injEq, Prod.mk.injEq] at h
          rw [← h.1]
          intro provider hprovider
          rcases List.mem_cons.mp hprovider with rfl | hprovider
          · exact ⟨List.mem_cons_self, config, lookupConfig_eq_ok.mp hconfig, hreason⟩
          · exact hkept provider hprovider

/-- A listed provider that fails no rule is left in. -/
theorem mem_split {policy : GovernancePolicy} {context : RoutingContext}
    {registry : Registry μ} {providers allowed : List AvailableProvider}
    {exclusions : List GovernanceExclusion}
    (h : split policy context registry providers = .ok (allowed, exclusions))
    {provider : AvailableProvider} {config : ProviderConfig μ} (hprovider : provider ∈ providers)
    (hconfig : registry.getProvider? provider.id = some config)
    (hreason : reasonFor policy context config = none) : provider ∈ allowed := by
  induction providers generalizing allowed exclusions with
  | nil => cases hprovider
  | cons first rest ih =>
      obtain ⟨found, hfound, h⟩ := bind_eq_ok.mp h
      obtain ⟨⟨kept, dropped⟩, hrest, h⟩ := bind_eq_ok.mp h
      rcases List.mem_cons.mp hprovider with rfl | hmem
      · obtain rfl : found = config :=
          Option.some.inj ((lookupConfig_eq_ok.mp hfound).symm.trans hconfig)
        simp only [hreason, Except.ok.injEq, Prod.mk.injEq] at h
        rw [← h.1]
        exact List.mem_cons_self
      · have hkept := ih hrest hmem
        cases hfirst : reasonFor policy context found with
        | some reason =>
            simp only [hfirst, Except.ok.injEq, Prod.mk.injEq] at h
            exact h.1 ▸ hkept
        | none =>
            simp only [hfirst, Except.ok.injEq, Prod.mk.injEq] at h
            rw [← h.1]
            exact List.mem_cons_of_mem first hkept

/-- When no registered provider fails a rule, governance leaves the list as it is. -/
theorem split_eq_self {policy : GovernancePolicy} {context : RoutingContext}
    {registry : Registry μ} {providers : List AvailableProvider}
    (h : ∀ provider ∈ providers, ∃ config,
      registry.getProvider? provider.id = some config ∧ reasonFor policy context config = none) :
    split policy context registry providers = .ok (providers, []) := by
  induction providers with
  | nil => rfl
  | cons first rest ih =>
      obtain ⟨config, hget, hreason⟩ := h first List.mem_cons_self
      have hrest := ih fun provider hprovider => h provider (List.mem_cons_of_mem first hprovider)
      refine bind_eq_ok.mpr ⟨config, lookupConfig_eq_ok.mpr hget, bind_eq_ok.mpr ⟨_, hrest, ?_⟩⟩
      simp only [hreason]

end GovernanceEvaluator

namespace PolicyEvaluator

def resolvePolicy (policies : PolicyRepository) (tenant : TenantContext)
    (context : RoutingContext) : Except ResolveError PolicyDefinition :=
  match context.policyId with
  | some policyId =>
      match policies.get? tenant.tenantId policyId with
      | some policy => .ok policy
      | none => .error (.policyNotFound policyId)
  | none =>
      match policies.getActive? tenant.tenantId with
      | some policy => .ok policy
      | none => .error (.unexpected { kind := .other })

def reason : PolicyKind → String
  | .legacyBalanced => "Preserved Registry order for V1 compatibility."
  | .balanced => "Ranked by health and capacity metadata."
  | .cheapest => "Ranked by projected cost metadata."
  | .lowestLatency => "Ranked by published latency metadata."
  | .highestQuality => "Ranked by published quality metadata."
  | .compliance => "Preserved eligible Registry order after governance filtering."

variable [Metric μ]

def balancedScore (config : ProviderConfig μ) : Option μ :=
  Metric.product config.healthScore config.capacityWeight

def score (kind : PolicyKind) (config : ProviderConfig μ) : Option μ :=
  match kind with
  | .balanced => balancedScore config
  | .cheapest => some (-config.costPer1kTokens)
  | .lowestLatency => some (-config.latencyMs)
  | .highestQuality => some config.qualityScore
  | .legacyBalanced | .compliance => some 0

/-- The providers with their configurations in the order of the policy. The key is a pair, and
a pair that starts with what is not a number compares with no other. -/
def order (kind : PolicyKind) (candidates : List (AvailableProvider × ProviderConfig μ)) :
    List (AvailableProvider × ProviderConfig μ) :=
  let orderBy (metric : ProviderConfig μ → Option μ) :=
    Metric.sorter.sorted (fun candidate => (metric candidate.2).map fun value =>
      (toLex (value, candidate.1.id) : μ ×ₗ String)) candidates
  match kind with
  | .legacyBalanced | .compliance => candidates
  | .balanced => orderBy fun config => (balancedScore config).map fun score => -score
  | .cheapest => orderBy fun config => some config.costPer1kTokens
  | .lowestLatency => orderBy fun config => some config.latencyMs
  | .highestQuality => orderBy fun config => some (-config.qualityScore)

def evaluate (policies : PolicyRepository) (tenant : TenantContext) (context : RoutingContext)
    (providers : List AvailableProvider) (registry : Registry μ) :
    Except ResolveError
      (PolicyDefinition × List AvailableProvider × List (CandidateRanking μ)) := do
  let policy ← resolvePolicy policies tenant context
  let configs ← providers.mapM (lookupConfig registry)
  let ordered := order policy.kind (providers.zip configs)
  let rankings := ordered.zipIdx.map fun entry =>
    { providerId := entry.1.1.id
      rank := entry.2 + 1
      score := score policy.kind entry.1.2
      reason := reason policy.kind }
  return (policy, ordered.map Prod.fst, rankings)

/-- A policy only permutes the candidates. -/
theorem order_perm (kind : PolicyKind)
    (candidates : List (AvailableProvider × ProviderConfig μ)) :
    (order kind candidates).Perm candidates := by
  cases kind with
  | legacyBalanced | compliance => exact List.Perm.refl _
  | balanced | cheapest | lowestLatency | highestQuality => exact Metric.sorter.perm _ _

omit [Metric μ] in
/-- The candidates a policy is given are its providers, in the given order. -/
theorem map_fst_zip_lookup {registry : Registry μ} {providers : List AvailableProvider}
    {configs : List (ProviderConfig μ)}
    (h : providers.mapM (lookupConfig registry) = .ok configs) :
    (providers.zip configs).map Prod.fst = providers :=
  List.map_fst_zip (length_of_mapM_eq_ok h).ge

/-- Whatever the policy, the ranked providers are the eligible ones. -/
theorem perm_of_evaluate {policies : PolicyRepository} {tenant : TenantContext}
    {context : RoutingContext} {providers ranked : List AvailableProvider}
    {registry : Registry μ} {policy : PolicyDefinition} {rankings : List (CandidateRanking μ)}
    (h : evaluate policies tenant context providers registry = .ok (policy, ranked, rankings)) :
    ranked.Perm providers := by
  obtain ⟨resolved, -, h⟩ := bind_eq_ok.mp h
  obtain ⟨configs, hconfigs, h⟩ := bind_eq_ok.mp h
  have hperm := (order_perm resolved.kind (providers.zip configs)).map Prod.fst
  rw [map_fst_zip_lookup hconfigs] at hperm
  cases pure_eq_ok.mp h
  exact hperm

end PolicyEvaluator

/-- `CandidateSetResolver.resolve`. -/
def resolveCandidateSet [Metric μ] (registry : Registry μ) (governance : GovernanceRepository)
    (policies : PolicyRepository) (tenant : TenantContext) (context : RoutingContext)
    (excluded : List String) : Except ResolveError (CandidateSet μ) := do
  let available := registry.availableForRouter excluded
  let (governancePolicy, eligible, exclusions) ←
    GovernanceEvaluator.evaluate governance tenant context available registry
  let (policy, ranked, rankings) ←
    PolicyEvaluator.evaluate policies tenant context eligible registry
  return { providers := ranked, policy, governance := governancePolicy, exclusions, rankings }

/-- Every candidate is an enabled provider outside the exclusions that fails no
rule of the tenant's governance policy in force. -/
theorem resolveCandidateSet_sound [Metric μ] {registry : Registry μ}
    {governance : GovernanceRepository} {policies : PolicyRepository} {tenant : TenantContext}
    {context : RoutingContext} {excluded : List String} {candidateSet : CandidateSet μ}
    (h : resolveCandidateSet registry governance policies tenant context excluded =
      .ok candidateSet) {id : String} (hid : id ∈ candidateSet.ids) :
    ∃ config, registry.getProvider? id = some config ∧ config.enabled = true ∧ id ∉ excluded ∧
      GovernanceEvaluator.reasonFor (governance.getActive tenant.tenantId) context config =
        none := by
  obtain ⟨⟨governancePolicy, eligible, exclusions⟩, hgovernance, h⟩ := bind_eq_ok.mp h
  obtain ⟨⟨policy, ranked, rankings⟩, hpolicy, h⟩ := bind_eq_ok.mp h
  obtain ⟨⟨allowed, dropped⟩, hsplit, hgovernance⟩ := bind_eq_ok.mp hgovernance
  cases pure_eq_ok.mp hgovernance
  cases pure_eq_ok.mp h
  obtain ⟨provider, hprovider, rfl⟩ := List.mem_map.mp hid
  obtain ⟨havailable, config, hget, hreason⟩ := GovernanceEvaluator.mem_of_split hsplit provider
    ((PolicyEvaluator.perm_of_evaluate hpolicy).mem_iff.mp hprovider)
  obtain ⟨found, hfound, henabled, hexcluded, -⟩ :=
    Registry.mem_availableForRouter_iff.mp havailable
  obtain rfl : found = config := Option.some.inj (hfound.symm.trans hget)
  exact ⟨found, hget, henabled, hexcluded, hreason⟩

end LLMRouting
