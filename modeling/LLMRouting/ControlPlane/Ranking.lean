/-
# What resolution returns

Governance leaves out the providers that fail one of its rules, and the policy puts the rest
in order. This module says what a candidate set is in terms of the registry: which providers
are in it, which rule keeps each of the others out, and what the ranks and the scores have to
do with each other. The sort keys and the scores are written down separately for each kind of
policy; `score_le_score_iff` is where they meet, as long as they are numbers.
-/

import LLMRouting.ControlPlane.Services

namespace LLMRouting

open LLMRouting.Data

variable {μ : Type}

/-- The rules, in the order in which they are tried. -/
inductive GovernanceRule
  | allowedProviders
  | deniedProviders
  | classification
  | tenantRegion
  | providerRegion
  deriving DecidableEq, Repr

namespace GovernanceRule

def all : List GovernanceRule :=
  [.allowedProviders, .deniedProviders, .classification, .tenantRegion, .providerRegion]

/-- What an exclusion under the rule gives as its reason. -/
def reason : GovernanceRule → String
  | .allowedProviders => "PROVIDER_NOT_ALLOWED"
  | .deniedProviders => "PROVIDER_DENIED"
  | .classification => "DATA_CLASSIFICATION_NOT_ALLOWED"
  | .tenantRegion => "TENANT_REGION_DENIED"
  | .providerRegion => "REGION_NOT_ALLOWED"

/-- The provider passes the rule. -/
def Passes (policy : GovernancePolicy) (context : RoutingContext) (config : ProviderConfig μ) :
    GovernanceRule → Prop
  | .allowedProviders => policy.allowedProviderIds ≠ [] → config.id ∈ policy.allowedProviderIds
  | .deniedProviders => config.id ∉ policy.deniedProviderIds
  | .classification => context.dataClassification ∈ config.supportedDataClassifications
  | .tenantRegion => ∀ region ∈ context.region,
      policy.allowedRegions ≠ [] → region ∈ policy.allowedRegions
  | .providerRegion => ∀ region ∈ context.region, config.regions ≠ [] → region ∈ config.regions

/-- The rule is the first one that the provider fails. -/
def FirstFailed (policy : GovernancePolicy) (context : RoutingContext) (config : ProviderConfig μ)
    (rule : GovernanceRule) : Prop :=
  ∃ before after, all = before ++ rule :: after ∧
    (∀ earlier ∈ before, earlier.Passes policy context config) ∧ ¬ rule.Passes policy context config

end GovernanceRule

namespace GovernanceEvaluator

variable {policy : GovernancePolicy} {context : RoutingContext} {config : ProviderConfig μ}

open Classical in
/-- The evaluator tries the rules in turn and reports the first one that is failed. -/
theorem reasonFor_eq_find (policy : GovernancePolicy) (context : RoutingContext)
    (config : ProviderConfig μ) :
    reasonFor policy context config =
      (GovernanceRule.all.find? fun rule => decide ¬ rule.Passes policy context config).map
        GovernanceRule.reason := by
  have hallowed : (policy.allowedProviderIds ≠ [] ∧ config.id ∉ policy.allowedProviderIds) ↔
      ¬ GovernanceRule.allowedProviders.Passes policy context config :=
    Classical.not_imp.symm
  have hdenied : config.id ∈ policy.deniedProviderIds ↔
      ¬ GovernanceRule.deniedProviders.Passes policy context config :=
    Classical.not_not.symm
  have hclassification : context.dataClassification ∉ config.supportedDataClassifications ↔
      ¬ GovernanceRule.classification.Passes policy context config :=
    Iff.rfl
  rw [reasonFor, exclusionReason]
  simp only [hallowed, hdenied, hclassification, GovernanceRule.all, List.find?_cons,
    List.find?_nil]
  by_cases h₁ : GovernanceRule.allowedProviders.Passes policy context config
  case neg => simp [h₁, GovernanceRule.reason]
  by_cases h₂ : GovernanceRule.deniedProviders.Passes policy context config
  case neg => simp [h₁, h₂, GovernanceRule.reason]
  by_cases h₃ : GovernanceRule.classification.Passes policy context config
  case neg => simp [h₁, h₂, h₃, GovernanceRule.reason]
  simp only [h₁, h₂, h₃, not_true_eq_false, if_false, decide_false]
  cases hregion : context.region with
  | none =>
      have htenant : GovernanceRule.tenantRegion.Passes policy context config := by
        intro region hmem
        rw [hregion] at hmem
        cases hmem
      have hprovider : GovernanceRule.providerRegion.Passes policy context config := by
        intro region hmem
        rw [hregion] at hmem
        cases hmem
      simp [htenant, hprovider]
  | some region =>
      have htenant : (policy.allowedRegions ≠ [] ∧ region ∉ policy.allowedRegions) ↔
          ¬ GovernanceRule.tenantRegion.Passes policy context config := by
        simp [GovernanceRule.Passes, hregion]
      have hprovider : (config.regions ≠ [] ∧ region ∉ config.regions) ↔
          ¬ GovernanceRule.providerRegion.Passes policy context config := by
        simp [GovernanceRule.Passes, hregion]
      simp only [htenant, hprovider]
      by_cases h₄ : GovernanceRule.tenantRegion.Passes policy context config
      case neg => simp [h₄, GovernanceRule.reason]
      by_cases h₅ : GovernanceRule.providerRegion.Passes policy context config
      case neg => simp [h₄, h₅, GovernanceRule.reason]
      simp [h₄, h₅]

/-- A provider is left in exactly when it passes every rule. -/
theorem reasonFor_eq_none_iff_passes :
    reasonFor policy context config = none ↔
      ∀ rule : GovernanceRule, rule.Passes policy context config := by
  rw [reasonFor_eq_find, Option.map_eq_none_iff, List.find?_eq_none]
  constructor
  · intro h rule
    have hmem : rule ∈ GovernanceRule.all := by cases rule <;> decide
    simpa using h rule hmem
  · intro h rule _
    simpa using h rule

/-- The reason is that of the first rule the provider fails. -/
theorem exists_firstFailed_of_reasonFor {reason : String}
    (h : reasonFor policy context config = some reason) :
    ∃ rule, GovernanceRule.FirstFailed policy context config rule ∧ rule.reason = reason := by
  rw [reasonFor_eq_find, Option.map_eq_some_iff] at h
  obtain ⟨rule, hfind, hreason⟩ := h
  obtain ⟨hfailed, before, after, hall, hbefore⟩ := List.find?_eq_some_iff_append.mp hfind
  refine ⟨rule, ⟨before, after, hall, ?_, by simpa using hfailed⟩, hreason⟩
  intro earlier hearlier
  simpa using hbefore earlier hearlier

/-- What governance has against a provider. -/
def verdict (policy : GovernancePolicy) (context : RoutingContext) (registry : Registry μ)
    (provider : AvailableProvider) : Option String :=
  (registry.getProvider? provider.id).bind (reasonFor policy context)

/-- The exclusion of a provider that governance has something against. -/
def exclusion? (policy : GovernancePolicy) (context : RoutingContext) (registry : Registry μ)
    (provider : AvailableProvider) : Option GovernanceExclusion :=
  (verdict policy context registry provider).map fun reason => ⟨provider.id, reason⟩

variable {registry : Registry μ} {providers : List AvailableProvider}

/-- The loop of the evaluator, as two passes over registered providers. -/
theorem split_eq_ok (policy : GovernancePolicy) (context : RoutingContext)
    (h : ∀ provider ∈ providers, ∃ config, registry.getProvider? provider.id = some config) :
    split policy context registry providers =
      .ok (providers.filter fun provider => (verdict policy context registry provider).isNone,
        providers.filterMap (exclusion? policy context registry)) := by
  induction providers with
  | nil => rfl
  | cons first rest ih =>
      obtain ⟨config, hconfig⟩ := h first List.mem_cons_self
      have hrest := ih fun provider hprovider => h provider (List.mem_cons_of_mem first hprovider)
      have hverdict : verdict policy context registry first = reasonFor policy context config := by
        rw [verdict, hconfig, Option.bind_some]
      rw [split, lookupConfig_eq_ok.mpr hconfig, hrest, List.filter_cons, List.filterMap_cons,
        exclusion?, hverdict]
      cases hreason : reasonFor policy context config with
      | none => simp [bind, Except.bind, hreason]
      | some reason => simp [bind, Except.bind, hreason]

/-- Every provider is left in or excluded. -/
theorem left_append_excluded_perm (policy : GovernancePolicy) (context : RoutingContext)
    (registry : Registry μ) (providers : List AvailableProvider) :
    ((providers.filter fun provider => (verdict policy context registry provider).isNone).map
        AvailableProvider.id ++
      (providers.filterMap (exclusion? policy context registry)).map
        GovernanceExclusion.providerId).Perm (providers.map AvailableProvider.id) := by
  induction providers with
  | nil => exact List.Perm.refl _
  | cons first rest ih =>
      rw [List.filter_cons, List.filterMap_cons, exclusion?]
      cases hverdict : verdict policy context registry first with
      | none => simpa using ih
      | some reason => simpa using List.perm_middle.trans (ih.cons first.id)

end GovernanceEvaluator

namespace PolicyEvaluator

/-- The providers with the configurations they are registered with. -/
def withConfigs (registry : Registry μ) (providers : List AvailableProvider) :
    List (AvailableProvider × ProviderConfig μ) :=
  providers.filterMap fun provider =>
    (registry.getProvider? provider.id).map fun config => (provider, config)

theorem zip_lookup_eq_withConfigs {registry : Registry μ} {providers : List AvailableProvider}
    {configs : List (ProviderConfig μ)} (h : providers.mapM (lookupConfig registry) = .ok configs) :
    providers.zip configs = withConfigs registry providers := by
  induction providers generalizing configs with
  | nil => rfl
  | cons first rest ih =>
      rw [List.mapM_cons] at h
      obtain ⟨config, hconfig, h⟩ := bind_eq_ok.mp h
      obtain ⟨others, hrest, h⟩ := bind_eq_ok.mp h
      have hfirst := lookupConfig_eq_ok.mp hconfig
      rw [← pure_eq_ok.mp h, List.zip_cons_cons, ih hrest]
      show _ = List.filterMap _ (first :: rest)
      rw [List.filterMap_cons, hfirst]
      rfl

/-- One ranking for each provider, in order and numbered from one. -/
def rankingsOf [Metric μ] (kind : PolicyKind)
    (ordered : List (AvailableProvider × ProviderConfig μ)) : List (CandidateRanking μ) :=
  ordered.zipIdx.map fun entry =>
    { providerId := entry.1.1.id
      rank := entry.2 + 1
      score := score kind entry.1.2
      reason := reason kind }

end PolicyEvaluator

/-- The enabled providers outside the exclusions that governance leaves in. -/
def eligibleFor (registry : Registry μ) (policy : GovernancePolicy) (context : RoutingContext)
    (excluded : List String) : List AvailableProvider :=
  (registry.availableForRouter excluded).filter fun provider =>
    (GovernanceEvaluator.verdict policy context registry provider).isNone

/-- Those providers with their configurations, in the order of a policy. -/
def rankedProviders [Metric μ] (registry : Registry μ) (policy : GovernancePolicy)
    (context : RoutingContext) (excluded : List String) (kind : PolicyKind) :
    List (AvailableProvider × ProviderConfig μ) :=
  PolicyEvaluator.order kind
    (PolicyEvaluator.withConfigs registry (eligibleFor registry policy context excluded))

/-- The candidate set under a governance policy and a policy. -/
def rankedSet [Metric μ] (registry : Registry μ) (governance : GovernancePolicy)
    (policy : PolicyDefinition) (context : RoutingContext) (excluded : List String) :
    CandidateSet μ :=
  let ordered := rankedProviders registry governance context excluded policy.kind
  { providers := ordered.map Prod.fst
    policy := policy
    governance := governance
    exclusions := (registry.availableForRouter excluded).filterMap
      (GovernanceEvaluator.exclusion? governance context registry)
    rankings := PolicyEvaluator.rankingsOf policy.kind ordered }

section Resolution

variable [Metric μ] {registry : Registry μ} {governance : GovernanceRepository}
  {policies : PolicyRepository} {tenant : TenantContext} {context : RoutingContext}

omit [Metric μ] in
theorem registered_of_availableForRouter {excluded : List String} {provider : AvailableProvider}
    (h : provider ∈ registry.availableForRouter excluded) :
    ∃ config, registry.getProvider? provider.id = some config := by
  obtain ⟨config, hget, -⟩ := Registry.mem_availableForRouter_iff.mp h
  exact ⟨config, hget⟩

/-- Resolution is total up to the choice of the policy. -/
theorem resolveCandidateSet_eq_bind (registry : Registry μ) (governance : GovernanceRepository)
    (policies : PolicyRepository) (tenant : TenantContext) (context : RoutingContext)
    (excluded : List String) :
    resolveCandidateSet registry governance policies tenant context excluded =
      (PolicyEvaluator.resolvePolicy policies tenant context).map fun policy =>
        rankedSet registry (governance.getActive tenant.tenantId) policy context excluded := by
  have hregistered : ∀ provider ∈ registry.availableForRouter excluded,
      ∃ config, registry.getProvider? provider.id = some config :=
    fun _ => registered_of_availableForRouter
  have hsplit := GovernanceEvaluator.split_eq_ok (governance.getActive tenant.tenantId) context
    hregistered
  have hgovernance : GovernanceEvaluator.evaluate governance tenant context
      (registry.availableForRouter excluded) registry =
        .ok (governance.getActive tenant.tenantId, _, _) :=
    bind_eq_ok.mpr ⟨_, hsplit, rfl⟩
  cases hpolicy : PolicyEvaluator.resolvePolicy policies tenant context with
  | error error =>
      simp only [resolveCandidateSet, hgovernance, PolicyEvaluator.evaluate, hpolicy]
      rfl
  | ok policy =>
      obtain ⟨configs, hconfigs⟩ := exists_mapM_eq_ok fun provider hprovider =>
        have ⟨config, hget⟩ := hregistered provider (List.mem_of_mem_filter hprovider)
        ⟨config, lookupConfig_eq_ok.mpr hget⟩
      have hzip := PolicyEvaluator.zip_lookup_eq_withConfigs hconfigs
      refine bind_eq_ok.mpr ⟨_, hgovernance, bind_eq_ok.mpr ⟨_, bind_eq_ok.mpr ⟨policy, hpolicy,
        bind_eq_ok.mpr ⟨configs, hconfigs, rfl⟩⟩, ?_⟩⟩
      rw [hzip]
      rfl

end Resolution

/-- The policy sorts by a metric; the other two kinds keep the registry's order. -/
def PolicyKind.RanksByMetric (kind : PolicyKind) : Prop :=
  kind ≠ .legacyBalanced ∧ kind ≠ .compliance

namespace PolicyEvaluator

variable [Metric μ] {kind : PolicyKind}

/-- What a policy sorts by before it looks at ids, if it is a number. -/
def sortMetric (kind : PolicyKind) (config : ProviderConfig μ) : Option μ :=
  match kind with
  | .balanced => (balancedScore config).map fun score => -score
  | .cheapest => some config.costPer1kTokens
  | .lowestLatency => some config.latencyMs
  | .highestQuality => some (-config.qualityScore)
  | .legacyBalanced | .compliance => some 0

def sortKey (kind : PolicyKind) (candidate : AvailableProvider × ProviderConfig μ) :
    Option (μ ×ₗ String) :=
  (sortMetric kind candidate.2).map fun value => toLex (value, candidate.1.id)

/-- The sort key of a candidate that has one. -/
def numberKey (kind : PolicyKind) (candidate : AvailableProvider × ProviderConfig μ) :
    μ ×ₗ String :=
  toLex ((sortMetric kind candidate.2).getD 0, candidate.1.id)

theorem sortMetric_isSome (kind : PolicyKind) (config : ProviderConfig μ) :
    (sortMetric kind config).isSome = (score kind config).isSome := by
  cases kind with
  | balanced => exact Option.isSome_map
  | legacyBalanced | compliance | cheapest | lowestLatency | highestQuality => rfl

theorem sortKey_eq_numberKey {candidate : AvailableProvider × ProviderConfig μ}
    (h : (score kind candidate.2).isSome) :
    sortKey kind candidate = some (numberKey kind candidate) := by
  rw [← sortMetric_isSome] at h
  obtain ⟨value, hvalue⟩ := Option.isSome_iff_exists.mp h
  rw [sortKey, numberKey, hvalue]
  rfl

theorem sortKey_eq_none {candidate : AvailableProvider × ProviderConfig μ}
    (h : score kind candidate.2 = none) : sortKey kind candidate = none := by
  have hmetric : sortMetric kind candidate.2 = none := by
    rw [← Option.not_isSome_iff_eq_none, sortMetric_isSome, h]
    exact Bool.false_ne_true
  rw [sortKey, hmetric, Option.map_none]

/-- A candidate whose key is below another's has a number for its score, and so has the other. -/
theorem numberKey_lt_of_keyBelow {first second : AvailableProvider × ProviderConfig μ}
    (h : KeyBelow (sortKey kind first) (sortKey kind second)) :
    (score kind first.2).isSome ∧ (score kind second.2).isSome ∧
      numberKey kind first < numberKey kind second := by
  obtain ⟨low, hlow, high, hhigh, hlt⟩ := h
  have hscore : ∀ {candidate : AvailableProvider × ProviderConfig μ} {key : μ ×ₗ String},
      sortKey kind candidate = some key → (score kind candidate.2).isSome := by
    intro candidate key hkey
    obtain ⟨value, hvalue, -⟩ := Option.map_eq_some_iff.mp hkey
    rw [← sortMetric_isSome, hvalue]
    rfl
  have hfirst := hscore hlow
  have hsecond := hscore hhigh
  refine ⟨hfirst, hsecond, ?_⟩
  rw [← Option.some.inj ((sortKey_eq_numberKey hfirst).symm.trans hlow)] at hlt
  rwa [← Option.some.inj ((sortKey_eq_numberKey hsecond).symm.trans hhigh)] at hlt

theorem order_eq_sorted (h : kind.RanksByMetric)
    (candidates : List (AvailableProvider × ProviderConfig μ)) :
    order kind candidates = Metric.sorter.sorted (sortKey kind) candidates := by
  cases kind with
  | legacyBalanced => exact (h.1 rfl).elim
  | compliance => exact (h.2 rfl).elim
  | balanced | cheapest | lowestLatency | highestQuality => rfl

/-- Where all scores are numbers, the policy sorts by a key that orders all candidates. -/
theorem order_eq_sortedBy (h : kind.RanksByMetric)
    {candidates : List (AvailableProvider × ProviderConfig μ)}
    (hnumbers : ∀ candidate ∈ candidates, (score kind candidate.2).isSome) :
    order kind candidates = sortedBy (numberKey kind) candidates := by
  rw [order_eq_sorted h]
  apply Metric.sorter.stable
  intro candidate hcandidate
  exact sortKey_eq_numberKey (hnumbers candidate hcandidate)

/-- A higher score comes first: the two signs of each policy are opposite. -/
theorem score_le_score_iff (h : kind.RanksByMetric) {first second : ProviderConfig μ}
    {better worse low high : μ} (hbetter : score kind first = some better)
    (hworse : score kind second = some worse) (hlow : sortMetric kind first = some low)
    (hhigh : sortMetric kind second = some high) : worse ≤ better ↔ low ≤ high := by
  cases kind with
  | legacyBalanced => exact (h.1 rfl).elim
  | compliance => exact (h.2 rfl).elim
  | balanced =>
      rw [score] at hbetter hworse
      rw [sortMetric, hbetter, Option.map_some] at hlow
      rw [sortMetric, hworse, Option.map_some] at hhigh
      rw [← Option.some.inj hlow, ← Option.some.inj hhigh]
      exact (Metric.neg_le_neg_iff _ _).symm
  | highestQuality =>
      rw [← Option.some.inj hbetter, ← Option.some.inj hworse, ← Option.some.inj hlow,
        ← Option.some.inj hhigh]
      exact (Metric.neg_le_neg_iff _ _).symm
  | cheapest | lowestLatency =>
      rw [← Option.some.inj hbetter, ← Option.some.inj hworse, ← Option.some.inj hlow,
        ← Option.some.inj hhigh]
      exact Metric.neg_le_neg_iff _ _

/-- The better score first, and the smaller id where scores are equal. -/
theorem score_of_numberKey_le (h : kind.RanksByMetric)
    {first second : AvailableProvider × ProviderConfig μ}
    (hle : numberKey kind first ≤ numberKey kind second) :
    ∀ better ∈ score kind first.2, ∀ worse ∈ score kind second.2,
      worse ≤ better ∧ (better = worse → first.1.id ≤ second.1.id) := by
  intro better hbetter worse hworse
  have hexists : ∀ {config : ProviderConfig μ} {value : μ}, score kind config = some value →
      ∃ metric, sortMetric kind config = some metric := by
    intro config value hvalue
    rw [← Option.isSome_iff_exists, sortMetric_isSome, hvalue]
    rfl
  obtain ⟨low, hlow⟩ := hexists hbetter
  obtain ⟨high, hhigh⟩ := hexists hworse
  have hiff := score_le_score_iff h hbetter hworse hlow hhigh
  rw [numberKey, numberKey, hlow, hhigh, Prod.Lex.toLex_le_toLex] at hle
  simp only [Option.getD_some] at hle
  rcases hle with hlt | ⟨heq, hid⟩
  · refine ⟨hiff.mpr hlt.le, ?_⟩
    rintro rfl
    have hback := (score_le_score_iff h hworse hbetter hhigh hlow).mp le_rfl
    exact (hlt.not_ge hback).elim
  · exact ⟨hiff.mpr heq.le, fun _ => hid⟩

theorem map_providerId_rankingsOf (kind : PolicyKind)
    (ordered : List (AvailableProvider × ProviderConfig μ)) :
    (rankingsOf kind ordered).map CandidateRanking.providerId =
      (ordered.map Prod.fst).map AvailableProvider.id := by
  calc (rankingsOf kind ordered).map CandidateRanking.providerId
      = (ordered.zipIdx.map Prod.fst).map fun candidate => candidate.1.id := by
        rw [rankingsOf, List.map_map, List.map_map]
        rfl
    _ = (ordered.map Prod.fst).map AvailableProvider.id := by
        rw [List.zipIdx_map_fst, List.map_map]
        rfl

theorem map_rank_rankingsOf (kind : PolicyKind)
    (ordered : List (AvailableProvider × ProviderConfig μ)) :
    (rankingsOf kind ordered).map CandidateRanking.rank = List.range' 1 ordered.length := by
  calc (rankingsOf kind ordered).map CandidateRanking.rank
      = (ordered.zipIdx.map Prod.snd).map (· + 1) := by
        rw [rankingsOf, List.map_map, List.map_map]
        rfl
    _ = List.range' 1 ordered.length := by
        rw [List.zipIdx_map_snd]
        simp only [Nat.add_comm _ 1]
        exact List.map_add_range' 0 ordered.length 1

theorem map_score_rankingsOf (kind : PolicyKind)
    (ordered : List (AvailableProvider × ProviderConfig μ)) :
    (rankingsOf kind ordered).map CandidateRanking.score =
      ordered.map fun candidate => score kind candidate.2 := by
  calc (rankingsOf kind ordered).map CandidateRanking.score
      = (ordered.zipIdx.map Prod.fst).map fun candidate => score kind candidate.2 := by
        rw [rankingsOf, List.map_map, List.map_map]
        rfl
    _ = ordered.map fun candidate => score kind candidate.2 := by
        rw [List.zipIdx_map_fst]

/-- What holds of the ordered providers holds of their rankings. -/
theorem pairwise_rankingsOf {R : CandidateRanking μ → CandidateRanking μ → Prop}
    {S : AvailableProvider × ProviderConfig μ → AvailableProvider × ProviderConfig μ → Prop}
    {ordered : List (AvailableProvider × ProviderConfig μ)} (h : ordered.Pairwise S)
    (himp : ∀ first second, S first second → ∀ rank rank',
      R ⟨first.1.id, rank, score kind first.2, reason kind⟩
        ⟨second.1.id, rank', score kind second.2, reason kind⟩) :
    (rankingsOf kind ordered).Pairwise R := by
  have hindexed : ordered.zipIdx.Pairwise fun first second => S first.1 second.1 := by
    rw [← List.zipIdx_map_fst 0 ordered, List.pairwise_map] at h
    exact h
  rw [rankingsOf, List.pairwise_map]
  apply hindexed.imp
  intro first second hordered
  exact himp first.1 second.1 hordered _ _

end PolicyEvaluator

/-- The ids of the enabled providers outside the exclusions. -/
def enabledIds (registry : Registry μ) (excluded : List String) : List String :=
  (registry.listProviders.filter fun provider =>
    provider.enabled && decide (provider.id ∉ excluded)).map ProviderConfig.id

/-- The candidate set partitions the enabled, non-excluded providers and ranks its part.
`eligible` does not mention the policy, so no policy changes who is a candidate. -/
structure PartitionsAndRanks [Metric μ] (registry : Registry μ) (policy : GovernancePolicy)
    (context : RoutingContext) (excluded : List String) (candidateSet : CandidateSet μ) :
    Prop where
  partition : (candidateSet.ids ++ candidateSet.exclusions.map GovernanceExclusion.providerId).Perm
    (enabledIds registry excluded)
  once : (candidateSet.ids ++
    candidateSet.exclusions.map GovernanceExclusion.providerId).Nodup
  candidate_iff : ∀ config ∈ registry.listProviders, config.enabled = true → config.id ∉ excluded →
    (config.id ∈ candidateSet.ids ↔ ∀ rule : GovernanceRule, rule.Passes policy context config)
  excluded_by : ∀ exclusion ∈ candidateSet.exclusions, ∃ config rule,
    registry.getProvider? exclusion.providerId = some config ∧
      GovernanceRule.FirstFailed policy context config rule ∧ rule.reason = exclusion.reason
  eligible : candidateSet.providers.Perm (eligibleFor registry policy context excluded)
  ranked : candidateSet.rankings.map CandidateRanking.providerId = candidateSet.ids
  numbered : candidateSet.rankings.map CandidateRanking.rank =
    List.range' 1 candidateSet.ids.length
  scored : ∀ ranking ∈ candidateSet.rankings, ∃ config,
    registry.getProvider? ranking.providerId = some config ∧
      ranking.score = PolicyEvaluator.score candidateSet.policy.kind config
  ordered : candidateSet.policy.kind.RanksByMetric →
    (∀ ranking ∈ candidateSet.rankings, ranking.score.isSome) →
    candidateSet.rankings.Pairwise fun first second =>
      ∀ better ∈ first.score, ∀ worse ∈ second.score,
        worse ≤ better ∧ (better = worse → first.providerId < second.providerId)

section Resolved

variable [Metric μ] {registry : Registry μ} {governance : GovernancePolicy}
  {policy : PolicyDefinition} {context : RoutingContext} {excluded : List String}

omit [Metric μ] in
theorem map_fst_withConfigs_eligibleFor (registry : Registry μ) (policy : GovernancePolicy)
    (context : RoutingContext) (excluded : List String) :
    (PolicyEvaluator.withConfigs registry (eligibleFor registry policy context excluded)).map
      Prod.fst = eligibleFor registry policy context excluded := by
  have hregistered : ∀ provider ∈ eligibleFor registry policy context excluded,
      ∃ config, registry.getProvider? provider.id = some config :=
    fun _ hprovider => registered_of_availableForRouter (List.mem_of_mem_filter hprovider)
  generalize eligibleFor registry policy context excluded = providers at hregistered
  induction providers with
  | nil => rfl
  | cons first rest ih =>
      obtain ⟨config, hconfig⟩ := hregistered first List.mem_cons_self
      have hrest := ih fun provider hprovider =>
        hregistered provider (List.mem_cons_of_mem first hprovider)
      rw [PolicyEvaluator.withConfigs] at hrest ⊢
      rw [List.filterMap_cons, hconfig, Option.map_some, List.map_cons, hrest]

omit [Metric μ] in
/-- The listed providers of a candidate set are registered with the configuration they are
listed with. -/
theorem getProvider?_of_mem_withConfigs {providers : List AvailableProvider}
    {candidate : AvailableProvider × ProviderConfig μ}
    (h : candidate ∈ PolicyEvaluator.withConfigs registry providers) :
    registry.getProvider? candidate.1.id = some candidate.2 := by
  obtain ⟨provider, -, hmem⟩ := List.mem_filterMap.mp h
  obtain ⟨config, hget, rfl⟩ := Option.map_eq_some_iff.mp hmem
  exact hget

theorem rankedSet_providers_perm (registry : Registry μ) (governance : GovernancePolicy)
    (policy : PolicyDefinition) (context : RoutingContext) (excluded : List String) :
    (rankedSet registry governance policy context excluded).providers.Perm
      (eligibleFor registry governance context excluded) := by
  have hperm := (PolicyEvaluator.order_perm policy.kind
    (PolicyEvaluator.withConfigs registry (eligibleFor registry governance context excluded))).map
      Prod.fst
  rwa [map_fst_withConfigs_eligibleFor] at hperm

omit [Metric μ] in
/-- An enabled provider outside the exclusions is eligible if it passes every rule. -/
theorem mem_map_id_eligibleFor_iff {config : ProviderConfig μ}
    (hconfig : config ∈ registry.listProviders) (henabled : config.enabled = true)
    (hexcluded : config.id ∉ excluded) :
    config.id ∈ (eligibleFor registry governance context excluded).map AvailableProvider.id ↔
      GovernanceEvaluator.reasonFor governance context config = none := by
  have hget := Registry.mem_listProviders_iff.mp hconfig
  constructor
  · intro hmem
    obtain ⟨provider, hprovider, hid⟩ := List.mem_map.mp hmem
    have hverdict := (List.mem_filter.mp hprovider).2
    rwa [GovernanceEvaluator.verdict, hid, hget, Option.bind_some, Option.isNone_iff_eq_none]
      at hverdict
  · intro hreason
    refine List.mem_map.mpr ⟨⟨config.id, config.capabilities⟩, List.mem_filter.mpr ⟨?_, ?_⟩, rfl⟩
    · exact Registry.mem_availableForRouter_iff.mpr ⟨config, hget, henabled, hexcluded, rfl⟩
    · rw [GovernanceEvaluator.verdict, hget, Option.bind_some, hreason]
      rfl

omit [Metric μ] in
theorem nodup_enabledIds (registry : Registry μ) (excluded : List String) :
    (enabledIds registry excluded).Nodup :=
  registry.nodup_map_id_listProviders.sublist (List.filter_sublist.map ProviderConfig.id)

/-- The candidates and the exclusions of a candidate set are the enabled providers. -/
theorem rankedSet_partition (registry : Registry μ) (governance : GovernancePolicy)
    (policy : PolicyDefinition) (context : RoutingContext) (excluded : List String) :
    ((rankedSet registry governance policy context excluded).ids ++
      (rankedSet registry governance policy context excluded).exclusions.map
        GovernanceExclusion.providerId).Perm (enabledIds registry excluded) := by
  rw [enabledIds, ← Registry.map_id_availableForRouter]
  have hcandidates := (rankedSet_providers_perm registry governance policy context excluded).map
    AvailableProvider.id
  exact (hcandidates.append_right _).trans
    (GovernanceEvaluator.left_append_excluded_perm governance context registry _)

/-- Under a metric policy the scores fall, and where they are equal the ids rise, if all of them
are numbers. -/
theorem ordered_rankedSet (hkind : policy.kind.RanksByMetric)
    (hnumbers : ∀ ranking ∈ (rankedSet registry governance policy context excluded).rankings,
      ranking.score.isSome) :
    (rankedSet registry governance policy context excluded).rankings.Pairwise fun first second =>
      ∀ better ∈ first.score, ∀ worse ∈ second.score,
        worse ≤ better ∧ (better = worse → first.providerId < second.providerId) := by
  have hperm := rankedSet_partition registry governance policy context excluded
  have hnodup := (hperm.nodup_iff.mpr (nodup_enabledIds registry excluded)).of_append_left
  have hscores : ∀ candidate ∈ PolicyEvaluator.withConfigs registry
      (eligibleFor registry governance context excluded),
      (PolicyEvaluator.score policy.kind candidate.2).isSome := by
    intro candidate hcandidate
    have hordered := (PolicyEvaluator.order_perm policy.kind _).mem_iff.mpr hcandidate
    have hscore := List.mem_map_of_mem (f := fun candidate =>
      PolicyEvaluator.score policy.kind candidate.2) hordered
    rw [← PolicyEvaluator.map_score_rankingsOf] at hscore
    obtain ⟨ranking, hranking, hreported⟩ := List.mem_map.mp hscore
    rw [← hreported]
    exact hnumbers ranking hranking
  have hsorted := pairwise_sortedBy (PolicyEvaluator.numberKey policy.kind)
    (PolicyEvaluator.withConfigs registry (eligibleFor registry governance context excluded))
  rw [← PolicyEvaluator.order_eq_sortedBy hkind hscores] at hsorted
  have hdistinct : (rankedProviders registry governance context excluded policy.kind).Pairwise
      fun first second => first.1.id ≠ second.1.id := by
    rw [CandidateSet.ids, rankedSet, List.map_map] at hnodup
    exact List.pairwise_map.mp hnodup
  apply PolicyEvaluator.pairwise_rankingsOf (hsorted.and hdistinct)
  intro first second ⟨hkey, hne⟩ rank rank' better hbetter worse hworse
  obtain ⟨hscore, hties⟩ :=
    PolicyEvaluator.score_of_numberKey_le hkind hkey better hbetter worse hworse
  exact ⟨hscore, fun heq => lt_of_le_of_ne (hties heq) hne⟩

theorem partitionsAndRanks_rankedSet (registry : Registry μ) (governance : GovernancePolicy)
    (policy : PolicyDefinition) (context : RoutingContext) (excluded : List String) :
    PartitionsAndRanks registry governance context excluded
      (rankedSet registry governance policy context excluded) := by
  have hpartition := rankedSet_partition registry governance policy context excluded
  have honce := hpartition.nodup_iff.mpr (nodup_enabledIds registry excluded)
  have heligible := rankedSet_providers_perm registry governance policy context excluded
  refine ⟨hpartition, honce, ?_, ?_, heligible, ?_, ?_, ?_, ?_⟩
  · intro config hconfig henabled hexcluded
    rw [CandidateSet.ids, (heligible.map AvailableProvider.id).mem_iff,
      mem_map_id_eligibleFor_iff hconfig henabled hexcluded,
      GovernanceEvaluator.reasonFor_eq_none_iff_passes]
  · intro exclusion hexclusion
    obtain ⟨provider, -, hmem⟩ := List.mem_filterMap.mp hexclusion
    obtain ⟨reason, hverdict, rfl⟩ := Option.map_eq_some_iff.mp hmem
    obtain ⟨config, hget, hreason⟩ := Option.bind_eq_some_iff.mp hverdict
    obtain ⟨rule, hfailed, hrule⟩ := GovernanceEvaluator.exists_firstFailed_of_reasonFor hreason
    exact ⟨config, rule, hget, hfailed, hrule⟩
  · exact PolicyEvaluator.map_providerId_rankingsOf _ _
  · show _ = List.range' 1 (List.map AvailableProvider.id (List.map Prod.fst _)).length
    rw [List.length_map, List.length_map]
    exact PolicyEvaluator.map_rank_rankingsOf _ _
  · intro ranking hranking
    obtain ⟨entry, hentry, rfl⟩ := List.mem_map.mp hranking
    have hmem := (PolicyEvaluator.order_perm _ _).mem_iff.mp (List.fst_mem_of_mem_zipIdx hentry)
    exact ⟨entry.1.2, getProvider?_of_mem_withConfigs hmem, rfl⟩
  · exact ordered_rankedSet

/-- Whatever the registry, the tenant, the context, the policy and the exclusions: if the
policy exists, resolution succeeds, and its candidate set partitions and ranks the enabled
providers under the tenant's governance; if it does not, the error says so. -/
theorem resolveCandidateSet_partitionsAndRanks (registry : Registry μ)
    (governance : GovernanceRepository) (policies : PolicyRepository) (tenant : TenantContext)
    (context : RoutingContext) (excluded : List String) :
    (∀ policy, PolicyEvaluator.resolvePolicy policies tenant context = .ok policy →
      ∃ candidateSet,
        resolveCandidateSet registry governance policies tenant context excluded =
            .ok candidateSet ∧
          candidateSet.policy = policy ∧
          PartitionsAndRanks registry (governance.getActive tenant.tenantId) context excluded
            candidateSet) ∧
      ∀ error, PolicyEvaluator.resolvePolicy policies tenant context = .error error →
        resolveCandidateSet registry governance policies tenant context excluded =
          .error error := by
  rw [resolveCandidateSet_eq_bind]
  constructor
  · intro policy hpolicy
    rw [hpolicy]
    exact ⟨_, rfl, rfl, partitionsAndRanks_rankedSet registry _ policy context excluded⟩
  · intro error herror
    rw [herror]
    rfl

end Resolved

end LLMRouting
