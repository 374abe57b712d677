/-
# The provider registry

`ModelRegistry` keeps a dictionary of provider metadata and, by hand, a list of
the registration order. Every operation keeps the two in step; `Registry` carries
that as a field, so the queries the rest of the program makes (the router's view,
the exposed task groups, the candidate chain) are total functions of it.
-/

import LLMRouting.Data.Dict
import LLMRouting.Data.SortedBy
import LLMRouting.Schemas.Models

namespace LLMRouting

open LLMRouting.Data

variable {μ : Type}

/-- The two fields of the registry as the source has them. -/
structure ModelRegistry (μ : Type) where
  providers : Dict String (ProviderConfig μ)
  order : List String

namespace ModelRegistry

def empty : ModelRegistry μ := ⟨.empty, []⟩

def register (registry : ModelRegistry μ) (provider : ProviderConfig μ) : ModelRegistry μ where
  providers := registry.providers.set provider.id provider
  order :=
    if provider.id ∉ registry.providers.keys then registry.order ++ [provider.id]
    else registry.order

/-- `none` where the source raises `UnknownProviderError`. -/
def getProvider? (registry : ModelRegistry μ) (providerId : String) : Option (ProviderConfig μ) :=
  registry.providers.get? providerId

def remove (registry : ModelRegistry μ) (providerId : String) : Option (ModelRegistry μ) :=
  (registry.getProvider? providerId).map fun _ =>
    { providers := registry.providers.erase providerId
      order := registry.order.erase providerId }

/-- `enable` and `disable`: replace the stored configuration by a copy with the flag set. -/
def setEnabled (registry : ModelRegistry μ) (providerId : String) (enabled : Bool) :
    Option (ModelRegistry μ) :=
  (registry.getProvider? providerId).map fun provider =>
    { registry with
      providers := registry.providers.set providerId { provider with enabled := enabled } }

def enable (registry : ModelRegistry μ) (providerId : String) : Option (ModelRegistry μ) :=
  registry.setEnabled providerId true

def disable (registry : ModelRegistry μ) (providerId : String) : Option (ModelRegistry μ) :=
  registry.setEnabled providerId false

/-- The order list enumerates the dictionary's keys once each, and every
configuration is stored under its own id. -/
structure Consistent (registry : ModelRegistry μ) : Prop where
  nodup : registry.order.Nodup
  mem_order : ∀ id, id ∈ registry.order ↔ id ∈ registry.providers.keys
  id_eq : ∀ id provider, registry.getProvider? id = some provider → provider.id = id

theorem consistent_empty : (empty : ModelRegistry μ).Consistent where
  nodup := List.nodup_nil
  mem_order _ := Iff.rfl
  id_eq _ _ h := by simp [getProvider?, empty] at h

theorem Consistent.register {registry : ModelRegistry μ} (h : registry.Consistent)
    (provider : ProviderConfig μ) : (registry.register provider).Consistent where
  nodup := by
    rw [ModelRegistry.register]
    split
    · rename_i hnew
      refine List.nodup_append'.mpr ⟨h.nodup, by simp, ?_⟩
      simpa [h.mem_order] using hnew
    · exact h.nodup
  mem_order id := by
    rw [ModelRegistry.register]
    rw [Dict.keys_set]
    by_cases hmem : provider.id ∈ registry.providers.keys
    · simpa [hmem] using h.mem_order id
    · simp [hmem, h.mem_order]
  id_eq id other hget := by
    change (registry.providers.set provider.id provider).get? id = some other at hget
    rw [Dict.get?_set] at hget
    split at hget
    · rename_i hid
      rw [← Option.some.inj hget, hid]
    · exact h.id_eq id other hget

theorem Consistent.remove {registry registry' : ModelRegistry μ} (h : registry.Consistent)
    {providerId : String} (hremove : registry.remove providerId = some registry') :
    registry'.Consistent := by
  obtain ⟨provider, -, rfl⟩ := Option.map_eq_some_iff.mp hremove
  exact
    { nodup := h.nodup.erase providerId
      mem_order := by
        intro id
        show id ∈ registry.order.erase providerId ↔
          id ∈ (registry.providers.restrict fun key => decide (key ≠ providerId)).keys
        rw [h.nodup.mem_erase_iff, Dict.mem_keys_restrict, h.mem_order, decide_eq_true_eq, and_comm]
      id_eq := by
        intro id other hget
        have hkept : id ≠ providerId := by
          have hmem :
              id ∈ (registry.providers.restrict fun key => decide (key ≠ providerId)).keys :=
            Dict.mem_keys_iff.mpr ⟨other, hget⟩
          exact of_decide_eq_true (Dict.mem_keys_restrict.mp hmem).2
        have hread : (registry.providers.restrict fun key => decide (key ≠ providerId)).get? id =
            registry.providers.get? id :=
          Dict.get?_restrict (decide_eq_true hkept)
        exact h.id_eq id other (hread.symm.trans hget) }

theorem Consistent.setEnabled {registry registry' : ModelRegistry μ} (h : registry.Consistent)
    {providerId : String} {enabled : Bool}
    (hset : registry.setEnabled providerId enabled = some registry') : registry'.Consistent := by
  obtain ⟨provider, hprovider, rfl⟩ := Option.map_eq_some_iff.mp hset
  have hmem : providerId ∈ registry.providers.keys := Dict.mem_keys_iff.mpr ⟨provider, hprovider⟩
  exact
    { nodup := h.nodup
      mem_order := by
        intro id
        show id ∈ registry.order ↔
          id ∈ (registry.providers.set providerId { provider with enabled := enabled }).keys
        rw [Dict.keys_set, if_pos hmem]
        exact h.mem_order id
      id_eq := by
        intro id other hget
        rw [getProvider?, Dict.get?_set] at hget
        split at hget
        · rename_i hid
          rw [← Option.some.inj hget, hid]
          exact h.id_eq providerId provider hprovider
        · exact h.id_eq id other hget }

end ModelRegistry

/-- The operations that change a registry. -/
inductive RegistryOperation (μ : Type)
  | register (provider : ProviderConfig μ)
  | remove (providerId : String)
  | enable (providerId : String)
  | disable (providerId : String)

/-- The registry after an operation; `none` where the operation raises. -/
def RegistryOperation.perform (registry : ModelRegistry μ) :
    RegistryOperation μ → Option (ModelRegistry μ)
  | .register provider => some (registry.register provider)
  | .remove providerId => registry.remove providerId
  | .enable providerId => registry.enable providerId
  | .disable providerId => registry.disable providerId

theorem ModelRegistry.Consistent.perform {registry registry' : ModelRegistry μ}
    (h : registry.Consistent) {operation : RegistryOperation μ}
    (hperform : operation.perform registry = some registry') : registry'.Consistent := by
  cases operation with
  | register provider =>
      cases hperform
      exact h.register provider
  | remove providerId => exact h.remove hperform
  | enable providerId => exact h.setEnabled hperform
  | disable providerId => exact h.setEnabled hperform

/-- A registry whose two fields agree. -/
structure Registry (μ : Type) where
  table : ModelRegistry μ
  consistent : table.Consistent

namespace Registry

/-- The registry built by registering the given providers in turn. -/
def ofList (providers : List (ProviderConfig μ)) : Registry μ :=
  providers.foldl
    (fun registry provider =>
      ⟨registry.table.register provider, registry.consistent.register provider⟩)
    ⟨.empty, ModelRegistry.consistent_empty⟩

/-- The registry after an operation, which leaves it as it is where it raises. -/
def change (registry : Registry μ) (operation : RegistryOperation μ) : Registry μ :=
  match h : operation.perform registry.table with
  | some table => ⟨table, registry.consistent.perform h⟩
  | none => registry

def getProvider? (registry : Registry μ) (providerId : String) : Option (ProviderConfig μ) :=
  registry.table.getProvider? providerId

/-- The registered providers in registration order. -/
def listProviders (registry : Registry μ) : List (ProviderConfig μ) :=
  registry.table.order.filterMap registry.getProvider?

def availableForRouter (registry : Registry μ) (excluded : List String) : List AvailableProvider :=
  (registry.listProviders.filter fun provider =>
    provider.enabled && decide (provider.id ∉ excluded)).map fun provider =>
      { id := provider.id, capabilities := provider.capabilities }

/-- The allow-list test: no list allows every id. -/
def allows (allowed : Option (List String)) (providerId : String) : Bool :=
  allowed.all fun ids => decide (providerId ∈ ids)

/-- The modality test the exposed groups and the candidate chain share. -/
def servesModality (requiresImage : Bool) (provider : ProviderConfig μ) : Bool :=
  !requiresImage || provider.acceptsImage

def availableTaskGroups (registry : Registry μ) (allowedProviderIds : Option (List String))
    (requiresImage : Bool) : List TaskGroup :=
  let present := (registry.listProviders.filter fun provider =>
    provider.enabled && allows allowedProviderIds provider.id &&
      servesModality requiresImage provider).map ProviderConfig.taskGroup
  TaskGroup.all.filter fun group => decide (group ∈ present)

/-- `{provider_id: index for index, provider_id in enumerate(ids)}`. -/
def policyRank (ids : List String) : Dict String ℕ :=
  ids.zipIdx.foldl (fun ranks entry => ranks.set entry.1 entry.2) .empty

/-- The providers `candidates_for` selects, in registration order. -/
def eligibleProviders (registry : Registry μ) (taskGroup : TaskGroup) (requiresImage : Bool)
    (excludedProviderIds : List String) (allowedProviderIds : Option (List String)) :
    List (ProviderConfig μ) :=
  registry.listProviders.filter fun provider =>
    provider.enabled && decide (provider.taskGroup = taskGroup) &&
      decide (provider.id ∉ excludedProviderIds) && allows allowedProviderIds provider.id &&
      servesModality requiresImage provider

/-- The V1 sort key. -/
def priorityKey (provider : ProviderConfig μ) : ℕ ×ₗ String :=
  toLex (provider.priority, provider.id)

/-- The sort key when an allow-list's order is to be preserved. -/
def policyKey (ids : List String) (provider : ProviderConfig μ) : ℕ ×ₗ ℕ ×ₗ String :=
  toLex (((policyRank ids).get? provider.id).getD (policyRank ids).keys.length,
    priorityKey provider)

def candidatesFor (registry : Registry μ) (taskGroup : TaskGroup) (requiresImage : Bool)
    (excludedProviderIds : List String) (allowedProviderIds : Option (List String))
    (preserveAllowedOrder : Bool) : List (ProviderConfig μ) :=
  let candidates := registry.eligibleProviders taskGroup requiresImage excludedProviderIds
    allowedProviderIds
  match preserveAllowedOrder, allowedProviderIds with
  | true, some ids => sortedBy (policyKey ids) candidates
  | _, _ => sortedBy priorityKey candidates

/-- The listed providers have, in order, exactly the ids of the order list. -/
theorem map_id_listProviders (registry : Registry μ) :
    registry.listProviders.map ProviderConfig.id = registry.table.order := by
  have hget : ∀ id ∈ registry.table.order, ∃ provider, registry.getProvider? id = some provider :=
    fun id hid => Dict.mem_keys_iff.mp ((registry.consistent.mem_order id).mp hid)
  have hid : ∀ id provider, registry.getProvider? id = some provider → provider.id = id :=
    registry.consistent.id_eq
  rw [listProviders]
  generalize registry.table.order = order at hget
  induction order with
  | nil => rfl
  | cons id rest ih =>
      obtain ⟨provider, hprovider⟩ := hget id List.mem_cons_self
      have hrest := ih fun other hother => hget other (List.mem_cons_of_mem id hother)
      rw [List.filterMap_cons_some hprovider, List.map_cons, hid id provider hprovider, hrest]

/-- Provider ids are unique in the registry. -/
theorem nodup_map_id_listProviders (registry : Registry μ) :
    (registry.listProviders.map ProviderConfig.id).Nodup :=
  registry.map_id_listProviders ▸ registry.consistent.nodup

theorem nodup_listProviders (registry : Registry μ) : registry.listProviders.Nodup :=
  registry.nodup_map_id_listProviders.of_map

/-- A listed provider is the one found under its id. -/
theorem mem_listProviders_iff {registry : Registry μ} {provider : ProviderConfig μ} :
    provider ∈ registry.listProviders ↔ registry.getProvider? provider.id = some provider := by
  rw [listProviders]
  rw [List.mem_filterMap]
  constructor
  · rintro ⟨id, -, hget⟩
    rwa [registry.consistent.id_eq id provider hget]
  · intro hget
    exact ⟨provider.id, (registry.consistent.mem_order _).mpr (Dict.mem_keys_iff.mpr ⟨_, hget⟩),
      hget⟩

theorem mem_eligibleProviders_iff {registry : Registry μ} {taskGroup : TaskGroup}
    {requiresImage : Bool} {excluded : List String} {allowed : Option (List String)}
    {provider : ProviderConfig μ} :
    provider ∈ registry.eligibleProviders taskGroup requiresImage excluded allowed ↔
      registry.getProvider? provider.id = some provider ∧ provider.enabled = true ∧
        provider.taskGroup = taskGroup ∧ provider.id ∉ excluded ∧
        allows allowed provider.id = true ∧ servesModality requiresImage provider = true := by
  simp only [eligibleProviders, List.mem_filter, mem_listProviders_iff, Bool.and_eq_true,
    decide_eq_true_eq, and_assoc]

/-- The chain is the eligible providers, sorted one way or the other. -/
theorem candidatesFor_perm (registry : Registry μ) (taskGroup : TaskGroup) (requiresImage : Bool)
    (excluded : List String) (allowed : Option (List String)) (preserve : Bool) :
    (registry.candidatesFor taskGroup requiresImage excluded allowed preserve).Perm
      (registry.eligibleProviders taskGroup requiresImage excluded allowed) := by
  unfold candidatesFor
  split
  · exact sortedBy_perm _ _
  · exact sortedBy_perm _ _

/-- A candidate is the provider registered under its id. -/
theorem getProvider?_of_mem_candidatesFor {registry : Registry μ} {taskGroup : TaskGroup}
    {requiresImage : Bool} {excluded : List String} {allowed : Option (List String)}
    {preserve : Bool} {provider : ProviderConfig μ}
    (h : provider ∈ registry.candidatesFor taskGroup requiresImage excluded allowed preserve) :
    registry.getProvider? provider.id = some provider := by
  have heligible := (candidatesFor_perm _ _ _ _ _ _).mem_iff.mp h
  exact (mem_eligibleProviders_iff.mp heligible).1

/-- No provider occurs twice in a chain. -/
theorem nodup_map_id_candidatesFor (registry : Registry μ) (taskGroup : TaskGroup)
    (requiresImage : Bool) (excluded : List String) (allowed : Option (List String))
    (preserve : Bool) :
    ((registry.candidatesFor taskGroup requiresImage excluded allowed preserve).map
      ProviderConfig.id).Nodup := by
  have hperm := (registry.candidatesFor_perm taskGroup requiresImage excluded allowed preserve).map
    ProviderConfig.id
  refine hperm.nodup_iff.mpr (registry.nodup_map_id_listProviders.sublist ?_)
  exact List.filter_sublist.map ProviderConfig.id

theorem mem_availableForRouter_iff {registry : Registry μ} {excluded : List String}
    {available : AvailableProvider} :
    available ∈ registry.availableForRouter excluded ↔
      ∃ provider, registry.getProvider? available.id = some provider ∧ provider.enabled = true ∧
        available.id ∉ excluded ∧ available.capabilities = provider.capabilities := by
  simp only [availableForRouter, List.mem_map, List.mem_filter, mem_listProviders_iff,
    Bool.and_eq_true, decide_eq_true_eq]
  constructor
  · rintro ⟨provider, ⟨hget, henabled, hexcluded⟩, rfl⟩
    exact ⟨provider, hget, henabled, hexcluded, rfl⟩
  · rintro ⟨provider, hget, henabled, hexcluded, hcap⟩
    have hid := registry.consistent.id_eq _ _ hget
    refine ⟨provider, ⟨hid ▸ hget, henabled, hid ▸ hexcluded⟩, ?_⟩
    rw [hid, ← hcap]

/-- The ids the router is shown are the enabled, non-excluded ones in registration order. -/
theorem map_id_availableForRouter (registry : Registry μ) (excluded : List String) :
    (registry.availableForRouter excluded).map AvailableProvider.id =
      (registry.listProviders.filter fun provider =>
        provider.enabled && decide (provider.id ∉ excluded)).map ProviderConfig.id := by
  rw [availableForRouter, List.map_map]
  rfl

private theorem get?_foldl_set (ids : List String) (hnodup : ids.Nodup) (start : ℕ)
    (ranks : Dict String ℕ) (id : String) :
    ((ids.zipIdx start).foldl (fun ranks entry => ranks.set entry.1 entry.2) ranks).get? id =
      if id ∈ ids then some (start + ids.idxOf id) else ranks.get? id := by
  induction ids generalizing start ranks with
  | nil => rfl
  | cons first rest ih =>
      obtain ⟨hfirst, hrest⟩ := List.nodup_cons.mp hnodup
      rw [List.zipIdx_cons, List.foldl_cons, ih hrest, Dict.get?_set]
      by_cases hid : id = first
      · subst hid
        simp [hfirst]
      · by_cases hmem : id ∈ rest
        · have hindex : (first :: rest).idxOf id = rest.idxOf id + 1 :=
            List.idxOf_cons_ne rest (Ne.symm hid)
          rw [if_pos hmem, if_pos (List.mem_cons_of_mem first hmem), hindex]
          congr 1
          omega
        · simp [hid, hmem]

/-- Without duplicates, the rank of an id is its position. -/
theorem get?_policyRank {ids : List String} (hnodup : ids.Nodup) {id : String} (hid : id ∈ ids) :
    (policyRank ids).get? id = some (ids.idxOf id) := by
  rw [policyRank, get?_foldl_set ids hnodup, if_pos hid, Nat.zero_add]

/-- A list of providers is sorted by its own order of ids. -/
theorem pairwise_policyKey {providers : List (ProviderConfig μ)}
    (hnodup : (providers.map ProviderConfig.id).Nodup) :
    providers.Pairwise fun first second =>
      policyKey (providers.map ProviderConfig.id) first ≤
        policyKey (providers.map ProviderConfig.id) second := by
  have hrank : ∀ index (h : index < providers.length),
      (policyRank (providers.map ProviderConfig.id)).get? providers[index].id = some index := by
    intro index h
    have hmem : providers[index].id ∈ providers.map ProviderConfig.id :=
      List.mem_map_of_mem (List.getElem_mem h)
    have hindex := hnodup.idxOf_getElem index (by simpa using h)
    rw [List.getElem_map] at hindex
    rw [get?_policyRank hnodup hmem, hindex]
  rw [List.pairwise_iff_getElem]
  intro i j hi hj hij
  rw [policyKey, policyKey, hrank i hi, hrank j hj, Prod.Lex.toLex_le_toLex]
  exact Or.inl hij

end Registry

end LLMRouting
