/-
# Regions a tenant is restricted to

A governance policy may list the regions a tenant's requests are allowed in, a provider
may list the regions it serves, and a request may name the region it is for. Both region
rules of the evaluator ask about the region the request names. This module says what that
means for a tenant's restriction: it is kept by requests that name a region, and otherwise
depends on which providers the remaining rules let through.
-/

import LLMRouting.ControlPlane.Services

namespace LLMRouting

open LLMRouting.Data

variable {μ : Type}

/-- The provider has a region in common with those the tenant is restricted to. -/
def ProviderConfig.Serves (config : ProviderConfig μ) (allowedRegions : List String) : Prop :=
  ∃ region ∈ config.regions, region ∈ allowedRegions

namespace GovernanceEvaluator

/-- The rules that do not ask about regions: the tenant's provider lists and the data
classification. -/
structure PassesIdRules (policy : GovernancePolicy) (context : RoutingContext)
    (config : ProviderConfig μ) : Prop where
  allowed : policy.allowedProviderIds ≠ [] → config.id ∈ policy.allowedProviderIds
  not_denied : config.id ∉ policy.deniedProviderIds
  classification : context.dataClassification ∈ config.supportedDataClassifications

/-- The two rules about the region a request names. -/
structure PassesRegionRules (policy : GovernancePolicy) (context : RoutingContext)
    (config : ProviderConfig μ) : Prop where
  tenant : ∀ region ∈ context.region, policy.allowedRegions ≠ [] → region ∈ policy.allowedRegions
  provider : ∀ region ∈ context.region, config.regions ≠ [] → region ∈ config.regions

variable {policy : GovernancePolicy} {context : RoutingContext} {config : ProviderConfig μ}

/-- No rule excludes a provider exactly when it passes the rules of both kinds. -/
theorem reasonFor_eq_none_iff :
    reasonFor policy context config = none ↔
      PassesIdRules policy context config ∧ PassesRegionRules policy context config := by
  rw [reasonFor, exclusionReason]
  constructor
  · intro h
    split_ifs at h with hallowed hdenied hclassification
    have hid : PassesIdRules policy context config :=
      ⟨by simpa using hallowed, hdenied, by simpa using hclassification⟩
    refine ⟨hid, ?_⟩
    cases hregion : context.region with
    | none => exact ⟨by simp [hregion], by simp [hregion]⟩
    | some region =>
        simp only [hregion] at h
        split_ifs at h with htenant hprovider
        constructor
        · simpa [hregion] using htenant
        · simpa [hregion] using hprovider
  · intro ⟨hid, hregions⟩
    rw [if_neg (by simpa using hid.allowed), if_neg hid.not_denied,
      if_neg (by simpa using hid.classification)]
    cases hregion : context.region with
    | none => rfl
    | some region =>
        have htenant := hregions.tenant region hregion
        have hprovider := hregions.provider region hregion
        show (if _ then _ else if _ then _ else none) = none
        rw [if_neg (by simpa using htenant), if_neg (by simpa using hprovider)]

/-- Every eligible provider with regions of its own serves a region of the tenant's. -/
def RegionsRespected (registry : Registry μ) (policy : GovernancePolicy)
    (eligible : List AvailableProvider) : Prop :=
  ∀ provider ∈ eligible, ∀ config, registry.getProvider? provider.id = some config →
    config.regions ≠ [] → config.Serves policy.allowedRegions

/-- A request that names a region is bound to the tenant's regions. -/
theorem serves_of_region {region : String} (hregion : context.region = some region)
    (hallowed : policy.allowedRegions ≠ []) (hregions : config.regions ≠ [])
    (h : PassesRegionRules policy context config) : config.Serves policy.allowedRegions :=
  ⟨region, h.provider region hregion hregions, h.tenant region hregion hallowed⟩

/-- Without a region the region rules exclude nobody. -/
theorem passesRegionRules_of_none (hregion : context.region = none) :
    PassesRegionRules policy context config where
  tenant region hmem := by simp [hregion] at hmem
  provider region hmem := by simp [hregion] at hmem

/-- The restriction to a tenant's regions holds of what governance leaves eligible exactly
when the request names a region, or the providers the other rules let through happen to
serve the tenant's regions. -/
theorem regionsRespected_iff {governance : GovernanceRepository} {tenant : TenantContext}
    {registry : Registry μ} {providers eligible : List AvailableProvider}
    {exclusions : List GovernanceExclusion}
    (h : evaluate governance tenant context providers registry = .ok (policy, eligible, exclusions))
    (hallowed : policy.allowedRegions ≠ []) :
    RegionsRespected registry policy eligible ↔
      context.region.isSome ∨ ∀ provider ∈ providers, ∀ config,
        registry.getProvider? provider.id = some config → PassesIdRules policy context config →
          config.regions ≠ [] → config.Serves policy.allowedRegions := by
  obtain ⟨⟨allowed, dropped⟩, hsplit, h⟩ := bind_eq_ok.mp h
  cases pure_eq_ok.mp h
  constructor
  · intro hrespected
    cases hregion : context.region with
    | some region => exact Or.inl rfl
    | none =>
        right
        intro provider hprovider config hconfig hid hregions
        have hreason : reasonFor (governance.getActive tenant.tenantId) context config = none :=
          reasonFor_eq_none_iff.mpr ⟨hid, passesRegionRules_of_none hregion⟩
        exact hrespected provider (mem_split hsplit hprovider hconfig hreason) config
          hconfig hregions
  · intro hcondition provider hprovider config hconfig hregions
    obtain ⟨hlisted, found, hfound, hreason⟩ := mem_of_split hsplit provider hprovider
    obtain rfl : found = config := Option.some.inj (hfound.symm.trans hconfig)
    obtain ⟨hid, hrules⟩ := reasonFor_eq_none_iff.mp hreason
    rcases hcondition with hnamed | hserve
    · obtain ⟨region, hregion⟩ := Option.isSome_iff_exists.mp hnamed
      exact serves_of_region hregion hallowed hregions hrules
    · exact hserve provider hlisted found hconfig hid hregions

end GovernanceEvaluator

/-- An enabled text provider that serves the given region. -/
def regionalProvider (id region : String) (priority : ℕ) : ProviderConfig ℤ :=
  { id := id, backend := .google, model := "model", taskGroup := .general, priority := priority
    regions := [region], costPer1kTokens := 1, latencyMs := 1000, qualityScore := 1
    healthScore := 1, capacityWeight := 1 }

/-- One provider in the tenant's region, and one elsewhere. -/
def twoRegions : Registry ℤ :=
  .ofList [regionalProvider "near" "eu" 1, regionalProvider "overseas" "us" 2]

/-- The tenant's requests are restricted to one region. -/
def restrictedToEu : GovernanceRepository :=
  (GovernanceRepository.empty.upsert { tenantId := "tenant", allowedRegions := ["eu"] }).1

/-- A request that leaves its region out is routed around the tenant's restriction. -/
theorem region_restriction_bypassed :
    ¬ ∀ (governance : GovernanceRepository) (tenant : TenantContext) (context : RoutingContext)
      (registry : Registry ℤ) (providers eligible : List AvailableProvider)
      (policy : GovernancePolicy) (exclusions : List GovernanceExclusion),
      GovernanceEvaluator.evaluate governance tenant context providers registry =
        .ok (policy, eligible, exclusions) → policy.allowedRegions ≠ [] →
      GovernanceEvaluator.RegionsRespected registry policy eligible := by
  intro hclaim
  have hrespected := hclaim restrictedToEu { tenantId := "tenant" } {} twoRegions
    (twoRegions.availableForRouter []) (twoRegions.availableForRouter [])
    (restrictedToEu.getActive "tenant") [] (by decide) (by decide)
  obtain ⟨region, hserved, hallowed⟩ := hrespected ⟨"overseas", {}⟩ (by decide)
    (regionalProvider "overseas" "us" 2) (by decide) (by decide)
  have hregion : region = "us" := List.mem_singleton.mp hserved
  rw [hregion] at hallowed
  exact absurd hallowed (by decide)

/-- A request for the tenant's region reaches the provider there and no other. -/
theorem regionsRespected_eu :
    GovernanceEvaluator.RegionsRespected twoRegions (restrictedToEu.getActive "tenant")
      [⟨"near", {}⟩] := by
  have hevaluate : GovernanceEvaluator.evaluate restrictedToEu { tenantId := "tenant" }
      { region := some "eu" } (twoRegions.availableForRouter []) twoRegions =
        .ok (restrictedToEu.getActive "tenant", [⟨"near", {}⟩],
          [⟨"overseas", "REGION_NOT_ALLOWED"⟩]) := by decide
  exact (GovernanceEvaluator.regionsRespected_iff hevaluate (by decide)).mpr (Or.inl rfl)

end LLMRouting
