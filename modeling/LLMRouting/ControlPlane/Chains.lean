/-
# The order of dispatch

The chain of a task group is put together in two sorts: the policy orders the candidates, and
the registry sorts the group's providers by their rank among them. Both keys end in the id, so
both sorts are determined by their elements, as long as the scores are numbers. The chain is
then the policy's order cut down to the group, and the order of registration leaves no trace in
it unless a policy asks for it. A provider whose score is not a number undoes both: the order
of the others depends on where it is registered, and on whether it is excluded.
-/

import LLMRouting.ControlPlane.DefaultChain
import LLMRouting.ControlPlane.Ranking

namespace LLMRouting

open LLMRouting.Data

variable {μ : Type}

namespace Registry

variable {registry : Registry μ} {ids : List String}

theorem eq_of_id_eq {first second : ProviderConfig μ} (hfirst : first ∈ registry.listProviders)
    (hsecond : second ∈ registry.listProviders) (hid : first.id = second.id) : first = second := by
  have hget := mem_listProviders_iff.mp hfirst
  rw [hid, mem_listProviders_iff.mp hsecond] at hget
  exact (Option.some.inj hget).symm

/-- No two registered providers have the same place in the V1 order. -/
theorem injOn_priorityKey (registry : Registry μ) :
    Set.InjOn priorityKey {provider | provider ∈ registry.listProviders} := by
  intro first hfirst second hsecond hkey
  have hid : first.id = second.id := congrArg (fun key => (ofLex key).2) hkey
  exact eq_of_id_eq hfirst hsecond hid

/-- No two registered providers have the same place in the order of an allow-list. -/
theorem injOn_policyKey (registry : Registry μ) (ids : List String) :
    Set.InjOn (policyKey ids) {provider | provider ∈ registry.listProviders} := by
  intro first hfirst second hsecond hkey
  have hpriority : priorityKey first = priorityKey second :=
    congrArg (fun key => (ofLex key).2) hkey
  exact registry.injOn_priorityKey hfirst hsecond hpriority

theorem mem_listProviders_of_mem_eligibleProviders {taskGroup : TaskGroup} {requiresImage : Bool}
    {excluded : List String} {allowed : Option (List String)} {provider : ProviderConfig μ}
    (h : provider ∈ registry.eligibleProviders taskGroup requiresImage excluded allowed) :
    provider ∈ registry.listProviders :=
  List.mem_of_mem_filter h

/-- The registered providers under the given ids. -/
theorem map_id_filterMap_getProvider? (hregistered : ∀ id ∈ ids, ∃ provider,
    registry.getProvider? id = some provider) :
    (ids.filterMap registry.getProvider?).map ProviderConfig.id = ids := by
  induction ids with
  | nil => rfl
  | cons id rest ih =>
      obtain ⟨provider, hget⟩ := hregistered id List.mem_cons_self
      have hid : provider.id = id := registry.consistent.id_eq id provider hget
      have hrest := ih fun other hother => hregistered other (List.mem_cons_of_mem id hother)
      rw [List.filterMap_cons_some hget, List.map_cons, hrest, hid]

/-- Cutting the ids down to those of certain providers, or the providers themselves. -/
theorem map_id_filter_filterMap (registry : Registry μ) (ids : List String)
    (test : ProviderConfig μ → Bool) :
    ((ids.filterMap registry.getProvider?).filter test).map ProviderConfig.id =
      ids.filter fun id => (registry.getProvider? id).any test := by
  induction ids with
  | nil => rfl
  | cons id rest ih =>
      cases hget : registry.getProvider? id with
      | none => simp [hget, ih]
      | some provider =>
          have hid : provider.id = id := registry.consistent.id_eq id provider hget
          by_cases htest : test provider
          · simp [hget, htest, hid, ih]
          · simp [hget, htest, ih]

/-- The provider is in the group and serves the request's modality. -/
def servesGroup (taskGroup : TaskGroup) (requiresImage : Bool) (provider : ProviderConfig μ) :
    Bool :=
  decide (provider.taskGroup = taskGroup) && servesModality requiresImage provider

/-- In the order of an allow-list, a chain is the allow-list cut down to the group. -/
theorem candidatesFor_eq_filter (hregistered : ∀ id ∈ ids, ∃ provider,
    registry.getProvider? id = some provider) (hnodup : ids.Nodup) (taskGroup : TaskGroup)
    (requiresImage : Bool) (excluded : List String) :
    registry.candidatesFor taskGroup requiresImage excluded (some ids) true =
      (ids.filterMap registry.getProvider?).filter fun provider =>
        provider.enabled && decide (provider.id ∉ excluded) &&
          servesGroup taskGroup requiresImage provider := by
  have hids := map_id_filterMap_getProvider? hregistered
  have hnodup' : (ids.filterMap registry.getProvider?).Nodup := by
    rw [← hids] at hnodup
    exact hnodup.of_map
  apply sortedBy_eq_of_perm
  · apply (registry.injOn_policyKey ids).mono
    intro provider hprovider
    exact mem_listProviders_of_mem_eligibleProviders hprovider
  · have heligible : (registry.eligibleProviders taskGroup requiresImage excluded
        (some ids)).Nodup := registry.nodup_listProviders.filter _
    apply (List.perm_ext_iff_of_nodup (hnodup'.filter _) heligible).mpr
    intro provider
    have hmem : provider ∈ ids.filterMap registry.getProvider? ↔
        registry.getProvider? provider.id = some provider ∧ provider.id ∈ ids := by
      rw [List.mem_filterMap]
      constructor
      · intro hmem
        obtain ⟨id, hid, hget⟩ := hmem
        rw [registry.consistent.id_eq id provider hget]
        exact ⟨hget, hid⟩
      · intro hmem
        obtain ⟨hget, hid⟩ := hmem
        exact ⟨provider.id, hid, hget⟩
    rw [List.mem_filter, hmem, mem_eligibleProviders_iff]
    simp only [servesGroup, allows, Option.all_some, Bool.and_eq_true, decide_eq_true_eq]
    tauto
  · rw [← hids] at hnodup
    have hsorted := pairwise_policyKey hnodup
    rw [hids] at hsorted
    exact hsorted.filter _

end Registry

namespace PolicyEvaluator

variable {registry : Registry μ} {providers : List AvailableProvider}

theorem withConfigs_filter (registry : Registry μ) (providers : List AvailableProvider)
    (test : AvailableProvider → Bool) :
    withConfigs registry (providers.filter test) =
      (withConfigs registry providers).filter fun candidate => test candidate.1 := by
  rw [withConfigs, withConfigs, List.filterMap_filter, List.filter_filterMap]
  congr 1
  funext provider
  cases registry.getProvider? provider.id with
  | none => simp
  | some config => by_cases htest : test provider <;> simp [htest, Option.filter]

/-- Candidates with different ids have different places in a metric policy's order. -/
theorem injOn_numberKey [Metric μ] (kind : PolicyKind)
    (hnodup : (providers.map AvailableProvider.id).Nodup) :
    Set.InjOn (numberKey kind) {candidate | candidate ∈ withConfigs registry providers} := by
  intro first hfirst second hsecond hkey
  have hid : first.1.id = second.1.id := congrArg (fun key => (ofLex key).2) hkey
  have hlisted : ∀ candidate ∈ withConfigs registry providers, candidate.1 ∈ providers := by
    intro candidate hcandidate
    obtain ⟨provider, hprovider, hmem⟩ := List.mem_filterMap.mp hcandidate
    obtain ⟨config, -, rfl⟩ := Option.map_eq_some_iff.mp hmem
    exact hprovider
  have hprovider : first.1 = second.1 :=
    List.inj_on_of_nodup_map hnodup (hlisted first hfirst) (hlisted second hsecond) hid
  have hconfig : first.2 = second.2 := by
    have hget := getProvider?_of_mem_withConfigs hfirst
    rw [hid, getProvider?_of_mem_withConfigs hsecond] at hget
    exact (Option.some.inj hget).symm
  exact Prod.ext hprovider hconfig

/-- Leaving candidates out of a policy's order does not move the others, if all scores are
numbers. -/
theorem order_filter [Metric μ] (kind : PolicyKind)
    (hnodup : (providers.map AvailableProvider.id).Nodup)
    (hnumbers : ∀ candidate ∈ withConfigs registry providers, (score kind candidate.2).isSome)
    (test : AvailableProvider → Bool) :
    order kind (withConfigs registry (providers.filter test)) =
      (order kind (withConfigs registry providers)).filter fun candidate => test candidate.1 := by
  rw [withConfigs_filter]
  by_cases hkind : kind.RanksByMetric
  · rw [order_eq_sortedBy hkind hnumbers,
      order_eq_sortedBy hkind fun candidate h => hnumbers candidate (List.mem_of_mem_filter h)]
    exact sortedBy_filter (injOn_numberKey kind hnodup) _
  · cases kind with
    | legacyBalanced | compliance => rfl
    | balanced | cheapest | lowestLatency | highestQuality =>
        exact (hkind ⟨fun h => (by cases h), fun h => (by cases h)⟩).elim

end PolicyEvaluator

theorem nodup_map_id_eligibleFor (registry : Registry μ) (policy : GovernancePolicy)
    (context : RoutingContext) (excluded : List String) :
    ((eligibleFor registry policy context excluded).map AvailableProvider.id).Nodup := by
  have hnodup := nodup_enabledIds registry excluded
  rw [enabledIds, ← Registry.map_id_availableForRouter] at hnodup
  exact hnodup.sublist (List.filter_sublist.map AvailableProvider.id)

/-- Excluding more providers takes them away from the eligible ones. -/
theorem eligibleFor_of_subset (registry : Registry μ) (policy : GovernancePolicy)
    (context : RoutingContext) {excluded more : List String} (hmore : excluded ⊆ more) :
    eligibleFor registry policy context more =
      (eligibleFor registry policy context excluded).filter fun provider =>
        decide (provider.id ∉ more) := by
  have havailable : registry.availableForRouter more =
      (registry.availableForRouter excluded).filter fun provider =>
        decide (provider.id ∉ more) := by
    rw [Registry.availableForRouter, Registry.availableForRouter, List.filter_map,
      List.filter_filter]
    congr 1
    apply List.filter_congr
    intro provider _
    by_cases hid : provider.id ∈ more
    · simp [hid]
    · have hid' : provider.id ∉ excluded := fun h => hid (hmore h)
      simp [hid, hid']
  rw [eligibleFor, eligibleFor, havailable, List.filter_comm]

/-- The enabled providers that governance leaves in. -/
def eligibleConfigs (policy : GovernancePolicy) (context : RoutingContext)
    (providers : List (ProviderConfig μ)) : List (ProviderConfig μ) :=
  providers.filter fun config =>
    config.enabled && (GovernanceEvaluator.reasonFor policy context config).isNone

/-- A provider under the view of it that the policies are given. -/
def ProviderConfig.candidate (config : ProviderConfig μ) : AvailableProvider × ProviderConfig μ :=
  ({ id := config.id, capabilities := config.capabilities }, config)

/-- What a policy is given to put in order. -/
theorem withConfigs_eligibleFor (registry : Registry μ) (policy : GovernancePolicy)
    (context : RoutingContext) (excluded : List String) :
    PolicyEvaluator.withConfigs registry (eligibleFor registry policy context excluded) =
      ((eligibleConfigs policy context registry.listProviders).filter fun config =>
        decide (config.id ∉ excluded)).map ProviderConfig.candidate := by
  rw [PolicyEvaluator.withConfigs, eligibleFor, Registry.availableForRouter, eligibleConfigs]
  conv_rhs => rw [← List.filterMap_eq_map]
  simp only [List.filter_map, List.filterMap_map, List.filter_filter, List.filterMap_filter]
  apply List.filterMap_congr
  intro config hconfig
  have hget := Registry.mem_listProviders_iff.mp hconfig
  cases hreason : GovernanceEvaluator.reasonFor policy context config <;>
    simp [GovernanceEvaluator.verdict, hget, hreason, ProviderConfig.candidate, and_comm]

section Chains

variable [Metric μ]

/-- Excluding more providers takes them out of a policy's order and moves no other, if all
scores are numbers. -/
theorem map_snd_rankedProviders_of_subset (registry : Registry μ) {governance : GovernancePolicy}
    {context : RoutingContext} {kind : PolicyKind} {excluded more : List String}
    (hmore : excluded ⊆ more)
    (hnumbers : ∀ config ∈ eligibleConfigs governance context registry.listProviders,
      (PolicyEvaluator.score kind config).isSome) :
    (rankedProviders registry governance context more kind).map Prod.snd =
      ((rankedProviders registry governance context excluded kind).map Prod.snd).filter
        fun config => decide (config.id ∉ more) := by
  have hnodup := nodup_map_id_eligibleFor registry governance context excluded
  have hcandidates : ∀ candidate ∈ PolicyEvaluator.withConfigs registry
      (eligibleFor registry governance context excluded),
      candidate.1.id = candidate.2.id ∧ (PolicyEvaluator.score kind candidate.2).isSome := by
    rw [withConfigs_eligibleFor]
    intro candidate hcandidate
    obtain ⟨config, hconfig, rfl⟩ := List.mem_map.mp hcandidate
    exact ⟨rfl, hnumbers config (List.mem_of_mem_filter hconfig)⟩
  rw [rankedProviders, rankedProviders, eligibleFor_of_subset registry governance context hmore,
    PolicyEvaluator.order_filter kind hnodup fun candidate h => (hcandidates candidate h).2,
    List.filter_map]
  congr 1
  apply List.filter_congr
  intro candidate hcandidate
  have hlisted := (PolicyEvaluator.order_perm kind _).mem_iff.mp hcandidate
  rw [(hcandidates candidate hlisted).1]
  rfl

variable {registry : Registry μ} {governance : GovernanceRepository}
  {policies : PolicyRepository} {tenant : TenantContext} {context : RoutingContext}
  {excluded : List String} {candidateSet : CandidateSet μ}

theorem eq_rankedSet_of_resolve
    (h : resolveCandidateSet registry governance policies tenant context excluded =
      .ok candidateSet) :
    ∃ policy, PolicyEvaluator.resolvePolicy policies tenant context = .ok policy ∧
      candidateSet =
        rankedSet registry (governance.getActive tenant.tenantId) policy context excluded := by
  rw [resolveCandidateSet_eq_bind] at h
  cases hpolicy : PolicyEvaluator.resolvePolicy policies tenant context with
  | error error =>
      rw [hpolicy] at h
      cases h
  | ok policy =>
      rw [hpolicy] at h
      exact ⟨policy, rfl, (Except.ok.inj h).symm⟩

/-- The ids of a candidate set are those of enabled providers outside the exclusions. -/
theorem mem_ids_of_resolve
    (h : resolveCandidateSet registry governance policies tenant context excluded =
      .ok candidateSet) {id : String} (hid : id ∈ candidateSet.ids) :
    ∃ config, registry.getProvider? id = some config ∧ config.enabled = true ∧ id ∉ excluded := by
  obtain ⟨config, hget, henabled, hexcluded, -⟩ := resolveCandidateSet_sound h hid
  exact ⟨config, hget, henabled, hexcluded⟩

theorem nodup_ids_of_resolve
    (h : resolveCandidateSet registry governance policies tenant context excluded =
      .ok candidateSet) : candidateSet.ids.Nodup := by
  obtain ⟨policy, -, rfl⟩ := eq_rankedSet_of_resolve h
  exact (partitionsAndRanks_rankedSet registry _ policy context excluded).once.of_append_left

/-- The chain over a candidate set, whatever the chain's own exclusions are. -/
theorem candidatesFor_ids_of_resolve
    (h : resolveCandidateSet registry governance policies tenant context excluded =
      .ok candidateSet) (taskGroup : TaskGroup) (requiresImage : Bool) (more : List String) :
    registry.candidatesFor taskGroup requiresImage more (some candidateSet.ids) true =
      ((candidateSet.ids.filterMap registry.getProvider?).filter
        (Registry.servesGroup taskGroup requiresImage)).filter fun provider =>
          decide (provider.id ∉ more) := by
  have hregistered : ∀ id ∈ candidateSet.ids,
      ∃ provider, registry.getProvider? id = some provider := by
    intro id hid
    obtain ⟨config, hget, -⟩ := mem_ids_of_resolve h hid
    exact ⟨config, hget⟩
  rw [Registry.candidatesFor_eq_filter hregistered (nodup_ids_of_resolve h), List.filter_filter]
  apply List.filter_congr
  intro provider hprovider
  obtain ⟨id, hid, hget⟩ := List.mem_filterMap.mp hprovider
  obtain ⟨config, hget', henabled, -⟩ := mem_ids_of_resolve h hid
  obtain rfl : config = provider := Option.some.inj (hget'.symm.trans hget)
  rw [henabled, Bool.true_and]

/-- The chain of a V2 request. -/
def tenantChain (registry : Registry μ) (governance : GovernanceRepository)
    (policies : PolicyRepository) (tenant : TenantContext) (context : RoutingContext)
    (taskGroup : TaskGroup) (requiresImage : Bool) (excluded : List String) :
    Except ResolveError (List (ProviderConfig μ)) :=
  (resolveCandidateSet registry governance policies tenant context excluded).map
    fun candidateSet => registry.candidatesFor taskGroup requiresImage excluded
      (some candidateSet.ids) true

/-- The chain over a resolved candidate set is that set in its own order, cut down to the
providers of the group that serve the request. -/
theorem candidatesFor_of_resolve
    (h : resolveCandidateSet registry governance policies tenant context excluded =
      .ok candidateSet) (taskGroup : TaskGroup) (requiresImage : Bool) :
    registry.candidatesFor taskGroup requiresImage excluded (some candidateSet.ids) true =
      (candidateSet.ids.filterMap registry.getProvider?).filter
        (Registry.servesGroup taskGroup requiresImage) := by
  rw [candidatesFor_ids_of_resolve h, List.filter_eq_self]
  intro provider hprovider
  obtain ⟨id, hid, hget⟩ := List.mem_filterMap.mp (List.mem_of_mem_filter hprovider)
  obtain ⟨config, -, -, hexcluded⟩ := mem_ids_of_resolve h hid
  rw [registry.consistent.id_eq id provider hget]
  exact decide_eq_true hexcluded

variable {policy : PolicyDefinition}

/-- The chain in terms of the policy's order. -/
theorem tenantChain_eq
    (hpolicy : PolicyEvaluator.resolvePolicy policies tenant context = .ok policy)
    (registry : Registry μ) (taskGroup : TaskGroup) (requiresImage : Bool)
    (excluded : List String) :
    tenantChain registry governance policies tenant context taskGroup requiresImage excluded =
      .ok (((rankedProviders registry (governance.getActive tenant.tenantId) context excluded
        policy.kind).map Prod.snd).filter (Registry.servesGroup taskGroup requiresImage)) := by
  have hresolve : resolveCandidateSet registry governance policies tenant context excluded =
      .ok (rankedSet registry (governance.getActive tenant.tenantId) policy context excluded) := by
    rw [resolveCandidateSet_eq_bind, hpolicy]
    rfl
  have hregistered : ∀ candidate ∈ rankedProviders registry
      (governance.getActive tenant.tenantId) context excluded policy.kind,
      registry.getProvider? candidate.1.id = some candidate.2 := by
    intro candidate hcandidate
    exact getProvider?_of_mem_withConfigs
      ((PolicyEvaluator.order_perm policy.kind _).mem_iff.mp hcandidate)
  have hconfigs : (rankedSet registry (governance.getActive tenant.tenantId) policy context
      excluded).ids.filterMap registry.getProvider? =
        (rankedProviders registry (governance.getActive tenant.tenantId) context excluded
          policy.kind).map Prod.snd := by
    rw [CandidateSet.ids, rankedSet, List.map_map, List.filterMap_map, ← List.filterMap_eq_map]
    exact List.filterMap_congr hregistered
  rw [tenantChain, hresolve, ← hconfigs]
  exact congrArg Except.ok (candidatesFor_of_resolve hresolve taskGroup requiresImage)

/-- Where no candidate is below the one registered before it, the policy keeps their order. -/
theorem tenantChain_of_ascending {shown : List (ProviderConfig μ)}
    (hpolicy : PolicyEvaluator.resolvePolicy policies tenant context = .ok policy)
    (hkind : policy.kind.RanksByMetric) (taskGroup : TaskGroup) (requiresImage : Bool)
    (hshown : (eligibleConfigs (governance.getActive tenant.tenantId) context
      registry.listProviders).filter (fun config => decide (config.id ∉ excluded)) = shown)
    (hascending : Ascending (PolicyEvaluator.sortKey policy.kind)
      (shown.map ProviderConfig.candidate)) :
    tenantChain registry governance policies tenant context taskGroup requiresImage excluded =
      .ok (shown.filter (Registry.servesGroup taskGroup requiresImage)) := by
  rw [tenantChain_eq hpolicy, rankedProviders, withConfigs_eligibleFor, hshown,
    PolicyEvaluator.order_eq_sorted hkind, Metric.sorter.ascending hascending, List.map_map]
  have hcandidate : Prod.snd ∘ ProviderConfig.candidate = (id : ProviderConfig μ → _) := rfl
  rw [hcandidate, List.map_id]

/-- Excluding more providers takes them out of the chains and moves no other. -/
def ExclusionsKeepOrder (registry : Registry μ) (governance : GovernanceRepository)
    (policies : PolicyRepository) (tenant : TenantContext) (context : RoutingContext) : Prop :=
  ∀ taskGroup requiresImage excluded more, excluded ⊆ more →
    tenantChain registry governance policies tenant context taskGroup requiresImage more =
      (tenantChain registry governance policies tenant context taskGroup requiresImage
        excluded).map fun chain => chain.filter fun config => decide (config.id ∉ more)

section Sublists

variable {all shown : List (ProviderConfig μ)}

omit [Metric μ]

/-- The elements of a sublist, taken out of the whole list by their ids. -/
theorem filter_ids_of_sublist (h : shown.Sublist all) (hnodup : (all.map ProviderConfig.id).Nodup) :
    all.filter (fun config => decide (config.id ∈ shown.map ProviderConfig.id)) = shown := by
  induction h with
  | slnil => rfl
  | @cons shown rest first hsub ih =>
      obtain ⟨hfirst, hrest⟩ := List.nodup_cons.mp hnodup
      have hother : first.id ∉ shown.map ProviderConfig.id :=
        fun hmem => hfirst ((hsub.map _).subset hmem)
      rw [List.filter_cons_of_neg (by simpa using hother), ih hrest]
  | @cons_cons shown rest first hsub ih =>
      obtain ⟨hfirst, hrest⟩ := List.nodup_cons.mp hnodup
      rw [List.filter_cons_of_pos (by simp)]
      congr 1
      calc rest.filter (fun config => decide (config.id ∈ (first :: shown).map ProviderConfig.id))
          = rest.filter fun config => decide (config.id ∈ shown.map ProviderConfig.id) := by
            apply List.filter_congr
            intro config hconfig
            have hne : config.id ≠ first.id := fun h => hfirst (h ▸ List.mem_map_of_mem hconfig)
            simp [hne]
        _ = shown := ih hrest

/-- The ids of the other elements. -/
def idsBeside (all shown : List (ProviderConfig μ)) : List String :=
  (all.map ProviderConfig.id).filter fun id => decide (id ∉ shown.map ProviderConfig.id)

theorem not_mem_idsBeside {config : ProviderConfig μ} (h : config ∈ shown) :
    config.id ∉ idsBeside all shown := by
  have hmem := List.mem_map_of_mem (f := ProviderConfig.id) h
  rw [idsBeside, List.mem_filter, not_and]
  intro _ hother
  exact of_decide_eq_true hother hmem

/-- A sublist is what excluding the others leaves. -/
theorem filter_idsBeside (h : shown.Sublist all) (hnodup : (all.map ProviderConfig.id).Nodup) :
    all.filter (fun config => decide (config.id ∉ idsBeside all shown)) = shown := by
  calc all.filter (fun config => decide (config.id ∉ idsBeside all shown))
      = all.filter fun config => decide (config.id ∈ shown.map ProviderConfig.id) := by
        apply List.filter_congr
        intro config hconfig
        have hmem := List.mem_map_of_mem (f := ProviderConfig.id) hconfig
        simp only [idsBeside, List.mem_filter, hmem, true_and, decide_eq_true_eq, not_not]
    _ = shown := filter_ids_of_sublist h hnodup

/-- Excluding the element in the middle as well. -/
theorem filter_idsBeside_middle {first middle second : ProviderConfig μ}
    (h : [first, middle, second].Sublist all) (hnodup : (all.map ProviderConfig.id).Nodup) :
    all.filter (fun config => decide (config.id ∉
        middle.id :: idsBeside all [first, middle, second])) = [first, second] ∧
      [first, middle, second].filter (fun config => decide (config.id ∉
        middle.id :: idsBeside all [first, middle, second])) = [first, second] := by
  have hids := hnodup.sublist (h.map ProviderConfig.id)
  simp only [List.map_cons, List.map_nil, List.nodup_cons, List.mem_cons, List.not_mem_nil,
    or_false, not_or] at hids
  obtain ⟨⟨hfirst, -⟩, hsecond, -⟩ := hids
  have hsplit : (fun config : ProviderConfig μ => decide (config.id ∉
      middle.id :: idsBeside all [first, middle, second])) = fun config =>
        decide (config.id ≠ middle.id) &&
          decide (config.id ∉ idsBeside all [first, middle, second]) := by
    funext config
    simp
  have hmiddle : [first, middle, second].filter
      (fun config => decide (config.id ≠ middle.id)) = [first, second] := by
    simp [hfirst, Ne.symm hsecond]
  have hbeside : [first, middle, second].filter (fun config =>
      decide (config.id ∉ idsBeside all [first, middle, second])) = [first, middle, second] := by
    rw [List.filter_eq_self]
    exact fun config hconfig => decide_eq_true (not_mem_idsBeside hconfig)
  rw [hsplit, ← List.filter_filter, ← List.filter_filter, filter_idsBeside h hnodup, hbeside]
  exact ⟨hmiddle, hmiddle⟩

end Sublists

omit [Metric μ] in
theorem nodup_map_id_eligibleConfigs (registry : Registry μ) (policy : GovernancePolicy)
    (context : RoutingContext) :
    ((eligibleConfigs policy context registry.listProviders).map ProviderConfig.id).Nodup :=
  registry.nodup_map_id_listProviders.sublist (List.filter_sublist.map ProviderConfig.id)

/-- Two candidates alone are put in the order of their keys. -/
theorem tenantChain_of_pair {first second : ProviderConfig μ}
    (hpolicy : PolicyEvaluator.resolvePolicy policies tenant context = .ok policy)
    (hkind : policy.kind.RanksByMetric) (taskGroup : TaskGroup) (requiresImage : Bool)
    (hshown : (eligibleConfigs (governance.getActive tenant.tenantId) context
      registry.listProviders).filter (fun config => decide (config.id ∉ excluded)) =
        [first, second])
    (hbelow : KeyBelow (PolicyEvaluator.sortKey policy.kind second.candidate)
      (PolicyEvaluator.sortKey policy.kind first.candidate)) :
    tenantChain registry governance policies tenant context taskGroup requiresImage excluded =
      .ok ([second, first].filter (Registry.servesGroup taskGroup requiresImage)) := by
  obtain ⟨hsecond, hfirst, hlt⟩ := PolicyEvaluator.numberKey_lt_of_keyBelow hbelow
  have hsorted : PolicyEvaluator.order policy.kind [first.candidate, second.candidate] =
      [second.candidate, first.candidate] := by
    rw [PolicyEvaluator.order_eq_sortedBy hkind
      (by simpa [ProviderConfig.candidate] using ⟨hfirst, hsecond⟩)]
    exact sortedBy_pair _ hlt
  rw [tenantChain_eq hpolicy, rankedProviders, withConfigs_eligibleFor, hshown]
  exact congrArg (fun ordered => Except.ok ((List.map Prod.snd ordered).filter
    (Registry.servesGroup taskGroup requiresImage))) hsorted

/-- A policy that cannot compare one candidate with the two around it keeps those two in the
order of registration, and orders them once the one between them is excluded. -/
theorem not_keyBelow_of_exclusionsKeepOrder {first unranked second : ProviderConfig μ}
    (hpolicy : PolicyEvaluator.resolvePolicy policies tenant context = .ok policy)
    (hkeeps : ExclusionsKeepOrder registry governance policies tenant context)
    (hlisted : [first, unranked, second].Sublist
      (eligibleConfigs (governance.getActive tenant.tenantId) context registry.listProviders))
    (hgroup : first.taskGroup = second.taskGroup)
    (hunranked : PolicyEvaluator.score policy.kind unranked = none) :
    ¬ KeyBelow (PolicyEvaluator.sortKey policy.kind second.candidate)
      (PolicyEvaluator.sortKey policy.kind first.candidate) := by
  intro hbelow
  have hkind : policy.kind.RanksByMetric := by
    constructor
    · intro hlegacy
      rw [hlegacy] at hunranked
      cases hunranked
    · intro hcompliance
      rw [hcompliance] at hunranked
      cases hunranked
  have hnodup := nodup_map_id_eligibleConfigs registry (governance.getActive tenant.tenantId)
    context
  have hshown := filter_idsBeside hlisted hnodup
  obtain ⟨hrest, hkept⟩ := filter_idsBeside_middle hlisted hnodup
  generalize idsBeside _ [first, unranked, second] = others at hshown hrest hkept
  have hnone : PolicyEvaluator.sortKey policy.kind unranked.candidate = none :=
    PolicyEvaluator.sortKey_eq_none hunranked
  have hwith := tenantChain_of_ascending hpolicy hkind first.taskGroup false hshown
    (by simp [Ascending, hnone])
  have hwithout := tenantChain_of_pair hpolicy hkind first.taskGroup false hrest hbelow
  have hchains := hkeeps first.taskGroup false others (unranked.id :: others)
    (List.subset_cons_self unranked.id others)
  rw [hwith, hwithout] at hchains
  have hserved : Registry.servesGroup first.taskGroup false first = true ∧
      Registry.servesGroup first.taskGroup false second = true := by
    simp [Registry.servesGroup, Registry.servesModality, hgroup]
  have hlists : [second, first].filter (Registry.servesGroup first.taskGroup false) =
      [first, second].filter (Registry.servesGroup first.taskGroup false) := by
    rw [← hkept, List.filter_comm]
    exact Except.ok.inj hchains
  simp only [List.filter_cons, hserved, if_true, List.filter_nil] at hlists
  obtain ⟨rfl, -⟩ := List.cons.inj hlists
  exact (PolicyEvaluator.numberKey_lt_of_keyBelow hbelow).2.2.ne rfl

/-- The chain of a task group is the candidate set in its own order, cut down to the
providers of the group that serve the request. Excluding more providers takes them out of the
chain and moves no other where every candidate's score is a number; and where a candidate
without one stands between two of one group that rank the other way round, it moves them. -/
theorem policyChain
    (hpolicy : PolicyEvaluator.resolvePolicy policies tenant context = .ok policy)
    (registry : Registry μ) :
    (∀ excluded taskGroup requiresImage, ∃ candidateSet,
      resolveCandidateSet registry governance policies tenant context excluded =
          .ok candidateSet ∧
        registry.candidatesFor taskGroup requiresImage excluded (some candidateSet.ids) true =
          (candidateSet.ids.filterMap registry.getProvider?).filter
            (Registry.servesGroup taskGroup requiresImage) ∧
        (registry.candidatesFor taskGroup requiresImage excluded (some candidateSet.ids)
            true).map ProviderConfig.id =
          candidateSet.ids.filter fun id =>
            (registry.getProvider? id).any (Registry.servesGroup taskGroup requiresImage)) ∧
      ((∀ config ∈ eligibleConfigs (governance.getActive tenant.tenantId) context
          registry.listProviders, (PolicyEvaluator.score policy.kind config).isSome) →
        ExclusionsKeepOrder registry governance policies tenant context) ∧
      (ExclusionsKeepOrder registry governance policies tenant context →
        ∀ first unranked second, [first, unranked, second].Sublist
          (eligibleConfigs (governance.getActive tenant.tenantId) context
            registry.listProviders) →
          first.taskGroup = second.taskGroup →
          PolicyEvaluator.score policy.kind unranked = none →
          ¬ KeyBelow (PolicyEvaluator.sortKey policy.kind second.candidate)
            (PolicyEvaluator.sortKey policy.kind first.candidate)) := by
  refine ⟨?_, ?_, ?_⟩
  · intro excluded taskGroup requiresImage
    have hresolve : resolveCandidateSet registry governance policies tenant context excluded =
        .ok (rankedSet registry (governance.getActive tenant.tenantId) policy context
          excluded) := by
      rw [resolveCandidateSet_eq_bind, hpolicy]
      rfl
    have hchain := candidatesFor_of_resolve hresolve taskGroup requiresImage
    refine ⟨_, hresolve, hchain, ?_⟩
    rw [hchain]
    exact registry.map_id_filter_filterMap _ _
  · intro hnumbers taskGroup requiresImage excluded more hmore
    rw [tenantChain_eq hpolicy, tenantChain_eq hpolicy,
      map_snd_rankedProviders_of_subset registry hmore hnumbers, List.filter_comm]
    rfl
  · intro hkeeps first unranked second hlisted hgroup hunranked
    exact not_keyBelow_of_exclusionsKeepOrder hpolicy hkeeps hlisted hgroup hunranked

end Chains

/-- A general provider at the given cost. -/
def pricedProvider (id : String) (priority : ℕ) (cost : ℤ) : ProviderConfig ℤ :=
  { id := id, backend := .google, model := "model", taskGroup := .general, priority := priority
    costPer1kTokens := cost, latencyMs := 1000, qualityScore := 1, healthScore := 1
    capacityWeight := 1 }

def pricedProviders : List (ProviderConfig ℤ) :=
  [pricedProvider "dear" 1 9, pricedProvider "cheap" 3 1, pricedProvider "middling" 2 5]

/-- A tenant that has activated the policy. -/
def policiesOf (kind : PolicyKind) : PolicyRepository :=
  (PolicyRepository.empty.create
    { tenantId := "acme", policyId := "chosen", kind := kind } true).1

/-- The cheapest provider comes first, and without it the next cheapest. -/
theorem policyChain_thrifty :
    ExclusionsKeepOrder (.ofList pricedProviders) .empty (policiesOf .cheapest)
        { tenantId := "acme" } {} ∧
      (tenantChain (.ofList pricedProviders) .empty (policiesOf .cheapest) { tenantId := "acme" } {}
        .general false []).map (List.map ProviderConfig.id) = .ok ["cheap", "middling", "dear"] ∧
      (tenantChain (.ofList pricedProviders) .empty (policiesOf .cheapest) { tenantId := "acme" } {}
        .general false ["cheap"]).map (List.map ProviderConfig.id) = .ok ["middling", "dear"] := by
  have hpolicy : PolicyEvaluator.resolvePolicy (policiesOf .cheapest) { tenantId := "acme" } {} =
      .ok { tenantId := "acme", policyId := "chosen", kind := .cheapest, active := true } := by
    decide
  refine ⟨?_, by decide +kernel, by decide +kernel⟩
  apply (policyChain hpolicy (.ofList pricedProviders)).2.1
  intro config _
  rfl

/-- A whole number or an infinity, as a float may be. -/
inductive Reading
  | negInfinity
  | finite (value : ℤ)
  | infinity
  deriving DecidableEq, Repr

namespace Reading

def toExtended : Reading → WithBot (WithTop ℤ)
  | negInfinity => ⊥
  | finite value => ((value : WithTop ℤ) : WithBot (WithTop ℤ))
  | infinity => ((⊤ : WithTop ℤ) : WithBot (WithTop ℤ))

theorem toExtended_injective : Function.Injective toExtended := by
  intro first second h
  cases first <;> cases second <;> simp_all [toExtended]

instance : LinearOrder Reading := LinearOrder.lift' toExtended toExtended_injective

instance : Zero Reading := ⟨finite 0⟩

def negate : Reading → Reading
  | negInfinity => infinity
  | finite value => finite (-value)
  | infinity => negInfinity

instance : Neg Reading := ⟨negate⟩

def sign : Reading → ℤ
  | negInfinity => -1
  | finite value => value.sign
  | infinity => 1

/-- An infinity with the given sign, which zero does not give. -/
def ofSign (sign : ℤ) : Option Reading :=
  if 0 < sign then some infinity else if sign < 0 then some negInfinity else none

/-- The product of two floats: that of zero and an infinity is not a number. -/
def product : Reading → Reading → Option Reading
  | finite first, finite second => some (finite (first * second))
  | first, second => ofSign (first.sign * second.sign)

theorem negate_le_negate_iff (first second : Reading) : -first ≤ -second ↔ second ≤ first := by
  show toExtended first.negate ≤ toExtended second.negate ↔
    toExtended second ≤ toExtended first
  cases first with
  | negInfinity | infinity => cases second <;> simp [toExtended, negate]
  | finite value =>
      cases second with
      | negInfinity | infinity => simp [toExtended, negate]
      | finite other =>
          exact WithBot.coe_le_coe.trans (WithTop.coe_le_coe.trans
            (neg_le_neg_iff.trans (WithTop.coe_le_coe.symm.trans WithBot.coe_le_coe.symm)))

instance : Metric Reading where
  product := product
  sorter := .insertion
  neg_le_neg_iff := negate_le_negate_iff

end Reading

/-- A general provider with the given health and weight. -/
def weighedProvider (id : String) (health weight : Reading) : ProviderConfig Reading :=
  { id := id, backend := .google, model := "model", taskGroup := .general, priority := 1
    costPer1kTokens := 0, latencyMs := .finite 1000, qualityScore := .finite 1
    healthScore := health, capacityWeight := weight }

/-- The provider in the middle has no balanced score. -/
def weighedProviders : List (ProviderConfig Reading) :=
  [weighedProvider "slow" (.finite 1) (.finite 1), weighedProvider "down" (.finite 0) .infinity,
    weighedProvider "fast" (.finite 1) (.finite 2)]

/-- Excluding the provider without a score turns the other two around. -/
theorem exclusion_reorders :
    (tenantChain (.ofList weighedProviders) .empty (policiesOf .balanced) { tenantId := "acme" } {}
        .general false []).map (List.map ProviderConfig.id) = .ok ["slow", "down", "fast"] ∧
      (tenantChain (.ofList weighedProviders) .empty (policiesOf .balanced) { tenantId := "acme" }
        {} .general false ["down"]).map (List.map ProviderConfig.id) = .ok ["fast", "slow"] ∧
      ¬ ExclusionsKeepOrder (.ofList weighedProviders) .empty (policiesOf .balanced)
        { tenantId := "acme" } {} := by
  refine ⟨by decide +kernel, by decide +kernel, ?_⟩
  intro hkeeps
  have hchain := hkeeps .general false [] ["down"] (List.nil_subset _)
  revert hchain
  decide +kernel

namespace Registry

private theorem getProvider?_foldl_register {providers : List (ProviderConfig μ)}
    (hnodup : (providers.map ProviderConfig.id).Nodup) (registry : Registry μ) (id : String)
    (provider : ProviderConfig μ) :
    (providers.foldl (fun registry provider =>
      ⟨registry.table.register provider, registry.consistent.register provider⟩)
        registry).getProvider? id = some provider ↔
      (provider ∈ providers ∧ provider.id = id) ∨
        (id ∉ providers.map ProviderConfig.id ∧ registry.getProvider? id = some provider) := by
  induction providers generalizing registry with
  | nil => simp
  | cons first rest ih =>
      obtain ⟨hfirst, hrest⟩ := List.nodup_cons.mp hnodup
      have hregister : (⟨registry.table.register first, registry.consistent.register first⟩ :
          Registry μ).getProvider? id =
            if id = first.id then some first else registry.getProvider? id :=
        Dict.get?_set _ _ _ _
      rw [List.foldl_cons, ih hrest, hregister, List.mem_cons, List.map_cons, List.mem_cons]
      by_cases hid : id = first.id
      · subst hid
        rw [if_pos rfl]
        constructor
        · rintro (⟨hmem, hid⟩ | ⟨-, hsome⟩)
          · exact Or.inl ⟨Or.inr hmem, hid⟩
          · cases hsome
            exact Or.inl ⟨Or.inl rfl, rfl⟩
        · rintro (⟨rfl | hmem, hid⟩ | ⟨hnew, -⟩)
          · exact Or.inr ⟨hfirst, rfl⟩
          · exact Or.inl ⟨hmem, hid⟩
          · exact (hnew (Or.inl rfl)).elim
      · rw [if_neg hid]
        constructor
        · rintro (⟨hmem, hprovider⟩ | ⟨hnew, hget⟩)
          · exact Or.inl ⟨Or.inr hmem, hprovider⟩
          · exact Or.inr ⟨fun h => h.elim hid hnew, hget⟩
        · rintro (⟨rfl | hmem, hprovider⟩ | ⟨hnew, hget⟩)
          · exact (hid hprovider.symm).elim
          · exact Or.inl ⟨hmem, hprovider⟩
          · exact Or.inr ⟨fun h => hnew (Or.inr h), hget⟩

/-- Registered under different ids, every provider is found under its own. -/
theorem getProvider?_ofList {providers : List (ProviderConfig μ)}
    (hnodup : (providers.map ProviderConfig.id).Nodup) {id : String} {provider : ProviderConfig μ} :
    (ofList providers).getProvider? id = some provider ↔
      provider ∈ providers ∧ provider.id = id := by
  rw [ofList, getProvider?_foldl_register hnodup]
  simp [getProvider?, ModelRegistry.getProvider?, ModelRegistry.empty]

theorem getProvider?_ofList_eq_of_perm {providers reordered : List (ProviderConfig μ)}
    (hperm : reordered.Perm providers) (hnodup : (providers.map ProviderConfig.id).Nodup) :
    (ofList reordered).getProvider? = (ofList providers).getProvider? := by
  have hnodup' := (hperm.map ProviderConfig.id).nodup_iff.mpr hnodup
  funext id
  ext provider
  rw [getProvider?_ofList hnodup, getProvider?_ofList hnodup', hperm.mem_iff]

variable {registry other : Registry μ}

/-- Two registries that find the same providers list them in some order each. -/
theorem listProviders_perm (hget : other.getProvider? = registry.getProvider?) :
    other.listProviders.Perm registry.listProviders := by
  apply (List.perm_ext_iff_of_nodup other.nodup_listProviders registry.nodup_listProviders).mpr
  intro provider
  rw [mem_listProviders_iff, mem_listProviders_iff, hget]

/-- The V1 chain does not depend on the order of the list. -/
theorem candidatesFor_priority_congr (hget : other.getProvider? = registry.getProvider?)
    (taskGroup : TaskGroup) (requiresImage : Bool) (excluded : List String)
    (allowed : Option (List String)) :
    other.candidatesFor taskGroup requiresImage excluded allowed false =
      registry.candidatesFor taskGroup requiresImage excluded allowed false := by
  have hperm : (registry.eligibleProviders taskGroup requiresImage excluded allowed).Perm
      (other.eligibleProviders taskGroup requiresImage excluded allowed) :=
    ((listProviders_perm hget).filter _).symm
  apply sortedBy_congr _ hperm
  apply other.injOn_priorityKey.mono
  intro provider hprovider
  exact mem_listProviders_of_mem_eligibleProviders hprovider

end Registry

/-- The chain of a V1 request. -/
def legacyChain (registry : Registry μ) (taskGroup : TaskGroup) (requiresImage : Bool)
    (excluded : List String) : List (ProviderConfig μ) :=
  registry.candidatesFor taskGroup requiresImage excluded (some (legacyIds registry excluded)) false

section Registration

variable {registry other : Registry μ}

theorem legacyChain_congr (hget : other.getProvider? = registry.getProvider?)
    (taskGroup : TaskGroup) (requiresImage : Bool) (excluded : List String) :
    legacyChain other taskGroup requiresImage excluded =
      legacyChain registry taskGroup requiresImage excluded := by
  have hunrestricted : ∀ registry : Registry μ, legacyChain registry taskGroup requiresImage
      excluded = registry.candidatesFor taskGroup requiresImage excluded none false := by
    intro registry
    show sortedBy _ _ = sortedBy _ _
    rw [eligibleProviders_legacyIds]
  rw [hunrestricted, hunrestricted]
  exact Registry.candidatesFor_priority_congr hget taskGroup requiresImage excluded none

/-- What a policy is given to put in order, up to the order. -/
theorem withConfigs_eligibleFor_perm (hget : other.getProvider? = registry.getProvider?)
    (policy : GovernancePolicy) (context : RoutingContext) (excluded : List String) :
    (PolicyEvaluator.withConfigs other (eligibleFor other policy context excluded)).Perm
      (PolicyEvaluator.withConfigs registry (eligibleFor registry policy context excluded)) := by
  rw [withConfigs_eligibleFor, withConfigs_eligibleFor]
  exact (((Registry.listProviders_perm hget).filter _).filter _).map _

variable [Metric μ]

/-- A metric policy orders the same candidates in the same way, if their scores are numbers. -/
theorem rankedProviders_congr (hget : other.getProvider? = registry.getProvider?)
    (policy : GovernancePolicy) (context : RoutingContext) (excluded : List String)
    {kind : PolicyKind} (hkind : kind.RanksByMetric)
    (hnumbers : ∀ config ∈ eligibleConfigs policy context registry.listProviders,
      (PolicyEvaluator.score kind config).isSome) :
    rankedProviders other policy context excluded kind =
      rankedProviders registry policy context excluded kind := by
  have hperm := withConfigs_eligibleFor_perm hget policy context excluded
  have hscores : ∀ candidate ∈ PolicyEvaluator.withConfigs registry
      (eligibleFor registry policy context excluded),
      (PolicyEvaluator.score kind candidate.2).isSome := by
    rw [withConfigs_eligibleFor]
    intro candidate hcandidate
    obtain ⟨config, hconfig, rfl⟩ := List.mem_map.mp hcandidate
    exact hnumbers config (List.mem_of_mem_filter hconfig)
  rw [rankedProviders, rankedProviders, PolicyEvaluator.order_eq_sortedBy hkind hscores,
    PolicyEvaluator.order_eq_sortedBy hkind fun candidate h =>
      hscores candidate (hperm.mem_iff.mp h)]
  apply Eq.symm
  apply sortedBy_congr _ hperm
  exact PolicyEvaluator.injOn_numberKey kind
    (nodup_map_id_eligibleFor registry policy context excluded)

/-- Whatever the policy makes of them, the same providers are ranked. -/
theorem map_snd_rankedProviders_perm (registry : Registry μ) (policy : GovernancePolicy)
    (context : RoutingContext) (excluded : List String) (kind : PolicyKind) :
    ((rankedProviders registry policy context excluded kind).map Prod.snd).Perm
      ((eligibleConfigs policy context registry.listProviders).filter fun config =>
        decide (config.id ∉ excluded)) := by
  have hperm := (PolicyEvaluator.order_perm kind (PolicyEvaluator.withConfigs registry
    (eligibleFor registry policy context excluded))).map Prod.snd
  rw [withConfigs_eligibleFor, List.map_map] at hperm
  have hcandidate : Prod.snd ∘ ProviderConfig.candidate = (id : ProviderConfig μ → _) := rfl
  rwa [hcandidate, List.map_id, ← withConfigs_eligibleFor] at hperm

end Registration

namespace Registry

variable {providers : List (ProviderConfig μ)}

/-- Registered under different ids, the providers are listed in the order of registration. -/
theorem listProviders_ofList (hnodup : (providers.map ProviderConfig.id).Nodup) :
    (ofList providers).listProviders = providers := by
  have horder : ∀ registered : List (ProviderConfig μ), (registered.map ProviderConfig.id).Nodup →
      (ofList registered).table.order = registered.map ProviderConfig.id := by
    intro registered hregistered
    induction registered using List.reverseRecOn with
    | nil => rfl
    | append_singleton earlier provider ih =>
        rw [List.map_append, List.nodup_append'] at hregistered
        obtain ⟨hearlier, -, hdisjoint⟩ := hregistered
        have hnew : provider.id ∉ (ofList earlier).table.providers.keys := by
          rw [← (ofList earlier).consistent.mem_order, ih hearlier]
          exact fun hmem => hdisjoint hmem (List.mem_singleton_self _)
        rw [ofList, List.foldl_append, List.map_append, ← ih hearlier]
        exact if_pos hnew
  rw [listProviders, horder providers hnodup, List.filterMap_map]
  calc providers.filterMap ((ofList providers).getProvider? ∘ ProviderConfig.id)
      = providers.filterMap some := by
        apply List.filterMap_congr
        intro provider hprovider
        exact (getProvider?_ofList hnodup).mpr ⟨hprovider, rfl⟩
    _ = providers := List.filterMap_some

end Registry

section Orders

variable [Metric μ] {providers shown : List (ProviderConfig μ)}
  {governance : GovernanceRepository} {policies : PolicyRepository} {tenant : TenantContext}
  {context : RoutingContext} {policy : PolicyDefinition}

/-- However the providers are registered, their chains are the same. -/
def RegistrationOrderFree (providers : List (ProviderConfig μ)) (governance : GovernanceRepository)
    (policies : PolicyRepository) (tenant : TenantContext) (context : RoutingContext) : Prop :=
  ∀ first second : List (ProviderConfig μ), first.Perm providers → second.Perm providers →
    ∀ taskGroup requiresImage excluded,
      legacyChain (.ofList first) taskGroup requiresImage excluded =
          legacyChain (.ofList second) taskGroup requiresImage excluded ∧
        tenantChain (.ofList first) governance policies tenant context taskGroup requiresImage
            excluded =
          tenantChain (.ofList second) governance policies tenant context taskGroup requiresImage
            excluded

/-- The providers to be shown, before the others. -/
def shownFirst (providers shown : List (ProviderConfig μ)) : List (ProviderConfig μ) :=
  shown ++ providers.filter fun config => decide (config.id ∉ shown.map ProviderConfig.id)

omit [Metric μ] in
theorem shownFirst_perm (hnodup : (providers.map ProviderConfig.id).Nodup)
    (hshown : (shown.map ProviderConfig.id).Nodup) (hsub : ∀ config ∈ shown, config ∈ providers) :
    (shownFirst providers shown).Perm providers := by
  have hdistinct : (shownFirst providers shown).Nodup := by
    rw [shownFirst, List.nodup_append']
    refine ⟨hshown.of_map, (hnodup.of_map).filter _, ?_⟩
    intro config hconfig hother
    have hnot := of_decide_eq_true (List.mem_filter.mp hother).2
    exact hnot (List.mem_map_of_mem hconfig)
  apply (List.perm_ext_iff_of_nodup hdistinct hnodup.of_map).mpr
  intro config
  rw [shownFirst, List.mem_append, List.mem_filter]
  constructor
  · rintro (hconfig | ⟨hconfig, -⟩)
    · exact hsub config hconfig
    · exact hconfig
  · intro hconfig
    by_cases hid : config.id ∈ shown.map ProviderConfig.id
    · obtain ⟨same, hsame, hsameId⟩ := List.mem_map.mp hid
      have heq : same = config :=
        List.inj_on_of_nodup_map hnodup (hsub same hsame) hconfig hsameId
      exact .inl (heq ▸ hsame)
    · exact .inr ⟨hconfig, decide_eq_true hid⟩

/-- A policy that can compare no two neighbours of the shown providers keeps their order. -/
theorem tenantChain_shownFirst
    (hpolicy : PolicyEvaluator.resolvePolicy policies tenant context = .ok policy)
    (hkind : policy.kind.RanksByMetric) (hnodup : (providers.map ProviderConfig.id).Nodup)
    (hshown : (shown.map ProviderConfig.id).Nodup)
    (hsub : ∀ config ∈ shown,
      config ∈ eligibleConfigs (governance.getActive tenant.tenantId) context providers)
    (hascending : Ascending (PolicyEvaluator.sortKey policy.kind)
      (shown.map ProviderConfig.candidate)) (taskGroup : TaskGroup) :
    tenantChain (.ofList (shownFirst providers shown)) governance policies tenant context taskGroup
        false (idsBeside providers shown) =
      .ok (shown.filter (Registry.servesGroup taskGroup false)) := by
  apply tenantChain_of_ascending hpolicy hkind taskGroup false _ hascending
  have hperm := shownFirst_perm hnodup hshown fun config h => List.mem_of_mem_filter (hsub config h)
  rw [Registry.listProviders_ofList ((hperm.map _).nodup_iff.mpr hnodup), eligibleConfigs,
    shownFirst, List.filter_append, List.filter_append]
  have hkept : (shown.filter fun config => config.enabled &&
      (GovernanceEvaluator.reasonFor (governance.getActive tenant.tenantId) context
        config).isNone).filter (fun config => decide (config.id ∉ idsBeside providers shown)) =
      shown := by
    rw [List.filter_filter, List.filter_eq_self]
    intro config hconfig
    rw [(List.mem_filter.mp (hsub config hconfig)).2, decide_eq_true (not_mem_idsBeside hconfig)]
    rfl
  have hhidden : ((providers.filter fun config =>
      decide (config.id ∉ shown.map ProviderConfig.id)).filter fun config => config.enabled &&
        (GovernanceEvaluator.reasonFor (governance.getActive tenant.tenantId) context
          config).isNone).filter (fun config => decide (config.id ∉ idsBeside providers shown)) =
      [] := by
    rw [List.filter_eq_nil_iff]
    intro config hconfig houtside
    obtain ⟨hmem, hother⟩ := List.mem_filter.mp (List.mem_of_mem_filter hconfig)
    apply of_decide_eq_true houtside
    rw [idsBeside, List.mem_filter]
    exact ⟨List.mem_map_of_mem hmem, hother⟩
  rw [hkept, hhidden, List.append_nil]

omit [Metric μ] in
theorem idsBeside_congr {shown' : List (ProviderConfig μ)} (h : shown.Perm shown') :
    idsBeside providers shown = idsBeside providers shown' := by
  apply List.filter_congr
  intro id _
  simp only [(h.map ProviderConfig.id).mem_iff]

/-- Two orders of the same providers that a policy leaves alone cannot give the same chains, if
one group has the first of each order in it. -/
theorem not_registrationOrderFree {first second : ProviderConfig μ}
    (between : List (ProviderConfig μ))
    (hpolicy : PolicyEvaluator.resolvePolicy policies tenant context = .ok policy)
    (hkind : policy.kind.RanksByMetric) (hnodup : (providers.map ProviderConfig.id).Nodup)
    (hshown : ((first :: between ++ [second]).map ProviderConfig.id).Nodup)
    (hsub : ∀ config ∈ first :: between ++ [second],
      config ∈ eligibleConfigs (governance.getActive tenant.tenantId) context providers)
    (hforwards : Ascending (PolicyEvaluator.sortKey policy.kind)
      ((first :: between ++ [second]).map ProviderConfig.candidate))
    (hbackwards : Ascending (PolicyEvaluator.sortKey policy.kind)
      ((second :: between ++ [first]).map ProviderConfig.candidate))
    (hgroup : first.taskGroup = second.taskGroup) :
    ¬ RegistrationOrderFree providers governance policies tenant context := by
  intro hfree
  have hperm : (second :: between ++ [first]).Perm (first :: between ++ [second]) := by
    calc (second :: between ++ [first]).Perm (first :: (second :: between)) :=
          List.perm_append_singleton _ _
      _ |>.Perm (first :: (between ++ [second])) :=
          (List.perm_append_singleton _ _).symm.cons first
  have hshown' := (hperm.map ProviderConfig.id).nodup_iff.mpr hshown
  have hsub' : ∀ config ∈ second :: between ++ [first],
      config ∈ eligibleConfigs (governance.getActive tenant.tenantId) context providers :=
    fun config h => hsub config (hperm.mem_iff.mp h)
  have hlisted : ∀ {shown : List (ProviderConfig μ)}, (∀ config ∈ shown,
      config ∈ eligibleConfigs (governance.getActive tenant.tenantId) context providers) →
      ∀ config ∈ shown, config ∈ providers :=
    fun h config hconfig => List.mem_of_mem_filter (h config hconfig)
  have hchains := (hfree _ _ (shownFirst_perm hnodup hshown (hlisted hsub))
    (shownFirst_perm hnodup hshown' (hlisted hsub')) first.taskGroup false
    (idsBeside providers (first :: between ++ [second]))).2
  rw [tenantChain_shownFirst hpolicy hkind hnodup hshown hsub hforwards,
    ← idsBeside_congr hperm,
    tenantChain_shownFirst hpolicy hkind hnodup hshown' hsub' hbackwards] at hchains
  have hserved : Registry.servesGroup first.taskGroup false first = true ∧
      Registry.servesGroup first.taskGroup false second = true := by
    simp [Registry.servesGroup, Registry.servesModality, hgroup]
  rw [List.cons_append, List.cons_append, List.filter_cons_of_pos hserved.1,
    List.filter_cons_of_pos hserved.2] at hchains
  obtain ⟨rfl, -⟩ := List.cons.inj (Except.ok.inj hchains)
  simp at hshown

/-- Where the order does not matter, all scores are numbers or no group has two providers: one of
two without a score may as well come last, and so may one of two around a third without. -/
theorem numbers_or_apart_of_free
    (hpolicy : PolicyEvaluator.resolvePolicy policies tenant context = .ok policy)
    (hkind : policy.kind.RanksByMetric) (hnodup : (providers.map ProviderConfig.id).Nodup)
    (hfree : RegistrationOrderFree providers governance policies tenant context) :
    (∀ config ∈ eligibleConfigs (governance.getActive tenant.tenantId) context providers,
      (PolicyEvaluator.score policy.kind config).isSome) ∨
      (eligibleConfigs (governance.getActive tenant.tenantId) context providers).Pairwise
        fun first second => first.taskGroup ≠ second.taskGroup := by
  by_contra hneither
  obtain ⟨hnumbers, hgroups⟩ := not_or.mp hneither
  simp only [not_forall, Option.not_isSome_iff_eq_none] at hnumbers
  obtain ⟨unranked, hunranked, hnone⟩ := hnumbers
  simp only [List.pairwise_iff_forall_sublist, not_forall, not_not] at hgroups
  obtain ⟨first, second, hpair, hgroup⟩ := hgroups
  have heligible := hpair.subset
  have hids : ((eligibleConfigs (governance.getActive tenant.tenantId) context providers).map
      ProviderConfig.id).Nodup := hnodup.sublist (List.filter_sublist.map ProviderConfig.id)
  have hdistinct := hids.sublist (hpair.map ProviderConfig.id)
  have hkey : ∀ {config : ProviderConfig μ}, PolicyEvaluator.score policy.kind config = none →
      PolicyEvaluator.sortKey policy.kind config.candidate = none :=
    fun h => PolicyEvaluator.sortKey_eq_none h
  by_cases hscored : PolicyEvaluator.score policy.kind first = none ∨
      PolicyEvaluator.score policy.kind second = none
  · apply not_registrationOrderFree [] hpolicy hkind hnodup hdistinct heligible _ _ hgroup hfree
    · rcases hscored with h | h <;> simp [Ascending, hkey h]
    · rcases hscored with h | h <;> simp [Ascending, hkey h]
  · obtain ⟨hfirst, hsecond⟩ := not_or.mp hscored
    have hother : ∀ config ∈ [first, second],
        PolicyEvaluator.score policy.kind config ≠ none → unranked.id ≠ config.id := by
      intro config hconfig hscore hid
      have heq := List.inj_on_of_nodup_map hids hunranked (heligible hconfig) hid
      exact hscore (heq ▸ hnone)
    have hapart : unranked.id ≠ first.id ∧ unranked.id ≠ second.id :=
      ⟨hother first List.mem_cons_self hfirst,
        hother second (List.mem_cons_of_mem _ (List.mem_singleton_self _)) hsecond⟩
    apply not_registrationOrderFree [unranked] hpolicy hkind hnodup _ _ _ _ hgroup hfree
    · simpa [hapart.1.symm, hapart.2] using hdistinct
    · simpa [hunranked] using heligible
    · simp [Ascending, hkey hnone]
    · simp [Ascending, hkey hnone]

/-- Where no group has two providers, a chain has no two. -/
theorem pairwise_chain_of_apart (hnodup : (providers.map ProviderConfig.id).Nodup)
    (hgroups : (eligibleConfigs (governance.getActive tenant.tenantId) context providers).Pairwise
      fun first second => first.taskGroup ≠ second.taskGroup)
    {registered : List (ProviderConfig μ)} (hregistered : registered.Perm providers)
    (kind : PolicyKind) (taskGroup : TaskGroup) (requiresImage : Bool) (excluded : List String) :
    (((rankedProviders (.ofList registered) (governance.getActive tenant.tenantId) context excluded
      kind).map Prod.snd).filter (Registry.servesGroup taskGroup requiresImage)).Pairwise
        fun _ _ => False := by
  have hranked := map_snd_rankedProviders_perm (.ofList registered)
    (governance.getActive tenant.tenantId) context excluded kind
  have hids := (hregistered.map ProviderConfig.id).nodup_iff.mpr hnodup
  rw [Registry.listProviders_ofList hids] at hranked
  have heligible := hranked.trans ((hregistered.filter _).filter _)
  have hapart := (heligible.pairwise_iff fun h => h.symm).mpr (hgroups.filter _)
  apply (hapart.filter _).imp_of_mem
  intro one other hone hother hgroup
  apply hgroup
  have hserves := List.mem_filter.mp hone
  have hserves' := List.mem_filter.mp hother
  simp only [Registry.servesGroup, Bool.and_eq_true, decide_eq_true_eq] at hserves hserves'
  exact hserves.2.1.trans hserves'.2.1.symm

/-- Registries that find the same providers rank the same ones. -/
theorem map_snd_rankedProviders_perm_of_lookup {registry other : Registry μ}
    (hget : other.getProvider? = registry.getProvider?) (active : GovernancePolicy)
    (context : RoutingContext) (excluded : List String) (kind : PolicyKind) :
    ((rankedProviders other active context excluded kind).map Prod.snd).Perm
      ((rankedProviders registry active context excluded kind).map Prod.snd) := by
  have hlisted := Registry.listProviders_perm hget
  exact (map_snd_rankedProviders_perm _ _ _ _ _).trans
    (((hlisted.filter _).filter _).trans (map_snd_rankedProviders_perm _ _ _ _ _).symm)

/-- Providers with different ids may be registered in any order: the V1 chains are the same, and
the V2 chains under a metric policy are the same exactly if every eligible provider's score is a
number, or no group has two eligible providers. -/
theorem chains_of_registration_order (hnodup : (providers.map ProviderConfig.id).Nodup)
    (hpolicy : PolicyEvaluator.resolvePolicy policies tenant context = .ok policy)
    (hkind : policy.kind.RanksByMetric) :
    (∀ first second : List (ProviderConfig μ), first.Perm providers → second.Perm providers →
      ∀ taskGroup requiresImage excluded,
        legacyChain (.ofList first) taskGroup requiresImage excluded =
          legacyChain (.ofList second) taskGroup requiresImage excluded) ∧
      (RegistrationOrderFree providers governance policies tenant context ↔
        (∀ config ∈ eligibleConfigs (governance.getActive tenant.tenantId) context providers,
          (PolicyEvaluator.score policy.kind config).isSome) ∨
          (eligibleConfigs (governance.getActive tenant.tenantId) context providers).Pairwise
            fun first second => first.taskGroup ≠ second.taskGroup) := by
  have hlookup : ∀ {first second : List (ProviderConfig μ)}, first.Perm providers →
      second.Perm providers →
        (Registry.ofList first).getProvider? = (Registry.ofList second).getProvider? := by
    intro first second hfirst hsecond
    rw [Registry.getProvider?_ofList_eq_of_perm hfirst hnodup,
      Registry.getProvider?_ofList_eq_of_perm hsecond hnodup]
  refine ⟨fun first second hfirst hsecond => legacyChain_congr (hlookup hfirst hsecond),
    numbers_or_apart_of_free hpolicy hkind hnodup, ?_⟩
  rintro hcases first second hfirst hsecond taskGroup requiresImage excluded
  have hget := hlookup hfirst hsecond
  refine ⟨legacyChain_congr hget taskGroup requiresImage excluded, ?_⟩
  rw [tenantChain_eq hpolicy, tenantChain_eq hpolicy]
  congr 1
  rcases hcases with hnumbers | hgroups
  · have hids := (hsecond.map ProviderConfig.id).nodup_iff.mpr hnodup
    rw [rankedProviders_congr hget _ context excluded hkind]
    rw [Registry.listProviders_ofList hids]
    intro config hconfig
    exact hnumbers config ((hsecond.filter _).mem_iff.mp hconfig)
  · have hperm := (map_snd_rankedProviders_perm_of_lookup hget
      (governance.getActive tenant.tenantId) context excluded policy.kind).filter
        (Registry.servesGroup taskGroup requiresImage)
    exact hperm.eq_of_pairwise (fun _ _ _ _ h => h.elim)
      (pairwise_chain_of_apart hnodup hgroups hfirst _ _ _ _)
      (pairwise_chain_of_apart hnodup hgroups hsecond _ _ _ _)

end Orders

/-- The cheapest policy finds its order in a registry however it was filled. -/
theorem chains_of_registration_order_thrifty :
    RegistrationOrderFree pricedProviders .empty (policiesOf .cheapest) { tenantId := "acme" }
      {} := by
  have hpolicy : PolicyEvaluator.resolvePolicy (policiesOf .cheapest) { tenantId := "acme" } {} =
      .ok { tenantId := "acme", policyId := "chosen", kind := .cheapest, active := true } := by
    decide
  apply (chains_of_registration_order (by decide) hpolicy ⟨by decide, by decide⟩).2.mpr
  exact .inl fun config _ => rfl

/-- Registered backwards, providers around one without a score are tried backwards. -/
theorem registration_order_shows :
    (tenantChain (.ofList weighedProviders) .empty (policiesOf .balanced) { tenantId := "acme" } {}
        .general false []).map (List.map ProviderConfig.id) = .ok ["slow", "down", "fast"] ∧
      (tenantChain (.ofList weighedProviders.reverse) .empty (policiesOf .balanced)
        { tenantId := "acme" } {} .general false []).map (List.map ProviderConfig.id) =
          .ok ["fast", "down", "slow"] ∧
      ¬ RegistrationOrderFree weighedProviders .empty (policiesOf .balanced)
        { tenantId := "acme" } {} := by
  refine ⟨by decide +kernel, by decide +kernel, ?_⟩
  intro hfree
  have hchains := (hfree weighedProviders weighedProviders.reverse (List.Perm.refl _)
    (List.reverse_perm _) .general false []).2
  revert hchains
  decide +kernel

end LLMRouting
