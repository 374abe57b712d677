/-
# The chain of an unconfigured tenant

A tenant that stored nothing runs under `legacy-balanced`, which preserves registry
order, while a V1 request sorts the same providers by priority. Both see the same
task groups. Their chains agree exactly when the providers a group can use happen to
be registered in priority order.
-/

import LLMRouting.ControlPlane.Services

namespace LLMRouting

open LLMRouting.Data

variable {μ : Type}

/-- Every provider supports the classification of the default routing context. -/
def SupportsInternal (registry : Registry μ) : Prop :=
  ∀ provider ∈ registry.listProviders, "INTERNAL" ∈ provider.supportedDataClassifications

/-- The ids a V1 request routes over. -/
def legacyIds (registry : Registry μ) (excluded : List String) : List String :=
  (registry.availableForRouter excluded).map AvailableProvider.id

/-- With nothing configured every available provider is a candidate, in registry order. -/
theorem resolveCandidateSet_default [Metric μ] {registry : Registry μ}
    {governance : GovernanceRepository} {policies : PolicyRepository} {tenant : TenantContext}
    (hinternal : SupportsInternal registry) (hgovernance : governance.stored tenant.tenantId = [])
    (hpolicy : policies.active.get? tenant.tenantId = none) (excluded : List String) :
    ∃ candidateSet : CandidateSet μ,
      resolveCandidateSet registry governance policies tenant {} excluded = .ok candidateSet ∧
        candidateSet.providers = registry.availableForRouter excluded := by
  have hactive : governance.getActive tenant.tenantId = { tenantId := tenant.tenantId } := by
    rw [GovernanceRepository.getActive, hgovernance]
    rfl
  have hallowed : ∀ provider ∈ registry.availableForRouter excluded, ∃ config,
      registry.getProvider? provider.id = some config ∧
        GovernanceEvaluator.reasonFor { tenantId := tenant.tenantId } {} config = none := by
    intro provider hprovider
    obtain ⟨config, hget, -⟩ := Registry.mem_availableForRouter_iff.mp hprovider
    have hid := registry.consistent.id_eq _ _ hget
    have hserves : "INTERNAL" ∈ config.supportedDataClassifications :=
      hinternal config (Registry.mem_listProviders_iff.mpr (hid ▸ hget))
    exact ⟨config, hget, by simp [GovernanceEvaluator.reasonFor,
      GovernanceEvaluator.exclusionReason, hserves]⟩
  obtain ⟨configs, hconfigs⟩ := exists_mapM_eq_ok fun provider hprovider =>
    let ⟨config, hget, _⟩ := hallowed provider hprovider
    ⟨config, lookupConfig_eq_ok.mpr hget⟩
  have hsplit := GovernanceEvaluator.split_eq_self hallowed
  have hresolve : PolicyEvaluator.resolvePolicy policies tenant {} =
      .ok { tenantId := tenant.tenantId, policyId := "legacy-balanced", kind := .legacyBalanced
            active := true } := by
    simp [PolicyEvaluator.resolvePolicy, PolicyRepository.getActive?, hpolicy]
  refine ⟨_, bind_eq_ok.mpr ⟨_, bind_eq_ok.mpr ⟨_, hactive ▸ hsplit, rfl⟩, bind_eq_ok.mpr
    ⟨_, bind_eq_ok.mpr ⟨_, hresolve, bind_eq_ok.mpr ⟨_, hconfigs, rfl⟩⟩, rfl⟩⟩, ?_⟩
  exact PolicyEvaluator.map_fst_zip_lookup hconfigs

/-- Restricting the chain to the ids of the router's view changes nothing. -/
theorem eligibleProviders_legacyIds (registry : Registry μ) (taskGroup : TaskGroup)
    (requiresImage : Bool) (excluded : List String) :
    registry.eligibleProviders taskGroup requiresImage excluded
        (some (legacyIds registry excluded)) =
      registry.eligibleProviders taskGroup requiresImage excluded none := by
  refine List.filter_congr fun provider hprovider => ?_
  by_cases havailable : provider.enabled = true ∧ provider.id ∉ excluded
  · have hmem : provider.id ∈ legacyIds registry excluded := by
      refine List.mem_map.mpr ⟨⟨provider.id, provider.capabilities⟩, ?_, rfl⟩
      exact Registry.mem_availableForRouter_iff.mpr
        ⟨provider, Registry.mem_listProviders_iff.mp hprovider, havailable.1, havailable.2, rfl⟩
    simp [Registry.allows, hmem]
  · rcases not_and_or.mp havailable with hdisabled | hexcluded
    · simp [hdisabled]
    · simp [not_not.mp hexcluded]

/-- In registry order, the providers of a group are sorted by their rank in the router's view. -/
theorem pairwise_policyKey_eligibleProviders (registry : Registry μ) (taskGroup : TaskGroup)
    (requiresImage : Bool) (excluded : List String) :
    (registry.eligibleProviders taskGroup requiresImage excluded none).Pairwise
      fun first second => Registry.policyKey (legacyIds registry excluded) first ≤
        Registry.policyKey (legacyIds registry excluded) second := by
  rw [legacyIds, Registry.map_id_availableForRouter]
  have hsub : (registry.eligibleProviders taskGroup requiresImage excluded none).Sublist
      (registry.listProviders.filter fun provider =>
        provider.enabled && decide (provider.id ∉ excluded)) := by
    refine List.monotone_filter_right _ fun provider h => ?_
    simp only [Bool.and_eq_true] at h ⊢
    exact ⟨h.1.1.1.1, h.1.1.2⟩
  refine (Registry.pairwise_policyKey ?_).sublist hsub
  exact registry.nodup_map_id_listProviders.sublist (List.filter_sublist.map _)

/-- The request of an unconfigured V2 tenant sees the task groups a V1 request sees, and
the same chain for `taskGroup`. -/
def AgreesWithLegacy [Metric μ] (registry : Registry μ) (governance : GovernanceRepository)
    (policies : PolicyRepository) (tenant : TenantContext) (excluded : List String)
    (requiresImage : Bool) (taskGroup : TaskGroup) : Prop :=
  ∃ candidateSet : CandidateSet μ,
    resolveCandidateSet registry governance policies tenant {} excluded = .ok candidateSet ∧
    registry.availableTaskGroups (some candidateSet.ids) requiresImage =
      registry.availableTaskGroups (some (legacyIds registry excluded)) requiresImage ∧
    registry.candidatesFor taskGroup requiresImage excluded (some candidateSet.ids) true =
      registry.candidatesFor taskGroup requiresImage excluded
        (some (legacyIds registry excluded)) false

/-- An unconfigured tenant's chain is the V1 chain exactly when the enabled, non-excluded
providers that can serve the request in the group are registered in priority order. -/
theorem agreesWithLegacy_iff [Metric μ] (registry : Registry μ)
    (governance : GovernanceRepository) (policies : PolicyRepository) (tenant : TenantContext)
    (hinternal : SupportsInternal registry) (hgovernance : governance.stored tenant.tenantId = [])
    (hpolicy : policies.active.get? tenant.tenantId = none) (excluded : List String)
    (requiresImage : Bool) (taskGroup : TaskGroup) :
    AgreesWithLegacy registry governance policies tenant excluded requiresImage taskGroup ↔
      (registry.eligibleProviders taskGroup requiresImage excluded none).Pairwise
        fun first second => Registry.priorityKey first ≤ Registry.priorityKey second := by
  obtain ⟨resolved, hresolved, hproviders⟩ :=
    resolveCandidateSet_default hinternal hgovernance hpolicy excluded
  have hids : resolved.ids = legacyIds registry excluded := by
    rw [CandidateSet.ids, hproviders, legacyIds]
  have hpolicyChain : registry.candidatesFor taskGroup requiresImage excluded
      (some (legacyIds registry excluded)) true =
      registry.eligibleProviders taskGroup requiresImage excluded none := by
    rw [Registry.candidatesFor, eligibleProviders_legacyIds, sortedBy_eq_self_iff]
    exact pairwise_policyKey_eligibleProviders registry taskGroup requiresImage excluded
  have hlegacyChain : registry.candidatesFor taskGroup requiresImage excluded
      (some (legacyIds registry excluded)) false =
      sortedBy Registry.priorityKey
        (registry.eligibleProviders taskGroup requiresImage excluded none) := by
    change sortedBy Registry.priorityKey _ = _
    rw [eligibleProviders_legacyIds]
  rw [← sortedBy_eq_self_iff]
  constructor
  · rintro ⟨candidateSet, hset, -, hchain⟩
    obtain rfl : resolved = candidateSet := Except.ok.inj (hresolved.symm.trans hset)
    rw [hids, hpolicyChain, hlegacyChain] at hchain
    exact hchain.symm
  · intro hsorted
    refine ⟨resolved, hresolved, by rw [hids], ?_⟩
    rw [hids, hpolicyChain, hlegacyChain, hsorted]

/-- A general provider. -/
def choice (id : String) (priority : ℕ) : ProviderConfig ℤ :=
  { id := id, backend := .openrouter, model := "model", taskGroup := .general
    priority := priority, costPer1kTokens := 1, latencyMs := 1000, qualityScore := 1
    healthScore := 1, capacityWeight := 1 }

/-- Two general providers, the second choice registered first. -/
def secondChoiceFirst : Registry ℤ := .ofList [choice "second" 2, choice "first" 1]

theorem supportsInternal_secondChoiceFirst : SupportsInternal secondChoiceFirst := by
  rw [SupportsInternal]
  decide

/-- Registered out of priority order, the unconfigured tenant tries the second choice first. -/
theorem not_agreesWithLegacy_secondChoiceFirst :
    SupportsInternal secondChoiceFirst ∧
      GovernanceRepository.empty.stored "default" = [] ∧
      PolicyRepository.empty.active.get? "default" = none ∧
      ¬ AgreesWithLegacy secondChoiceFirst .empty .empty {} [] false .general := by
  refine ⟨supportsInternal_secondChoiceFirst, rfl, rfl, ?_⟩
  rintro ⟨candidateSet, hset, -, hchain⟩
  have hids : candidateSet.ids = ["second", "first"] := by
    cases hset
    decide
  rw [hids] at hchain
  exact absurd (congrArg (List.map ProviderConfig.id) hchain) (by decide)

/-- Three general providers, the third choice registered first. -/
def thirdChoiceFirst : Registry ℤ :=
  .ofList [choice "third" 3, choice "first" 1, choice "second" 2]

theorem supportsInternal_thirdChoiceFirst : SupportsInternal thirdChoiceFirst := by
  rw [SupportsInternal]
  decide

/-- With the third choice excluded by an earlier answer, the two chains agree. -/
theorem agreesWithLegacy_excluded :
    (thirdChoiceFirst.eligibleProviders .general false ["third"] none).map ProviderConfig.id =
        ["first", "second"] ∧
      AgreesWithLegacy thirdChoiceFirst .empty .empty {} ["third"] false .general :=
  ⟨by decide, (agreesWithLegacy_iff thirdChoiceFirst .empty .empty {}
    supportsInternal_thirdChoiceFirst rfl rfl ["third"] false .general).mpr (by decide)⟩

end LLMRouting
