/-
# The provider topology settings accept

`provider_configs` hands its list to `_validate_provider_configs` before anything is
registered. Four checks run one after the other; a list that passes them is a topology.
-/

import LLMRouting.Data.SortedBy
import LLMRouting.Schemas.Models

namespace LLMRouting

open LLMRouting.Data

variable {μ : Type}

/-- The value of a `TaskGroup`, by which its members sort. -/
def TaskGroup.value : TaskGroup → String
  | .general => "general"
  | .codingReasoning => "coding_reasoning"
  | .creative => "creative"
  | .multimodal => "multimodal"

def TaskGroup.name : TaskGroup → String
  | .general => "GENERAL"
  | .codingReasoning => "CODING_REASONING"
  | .creative => "CREATIVE"
  | .multimodal => "MULTIMODAL"

/-- A member as a list of members prints it. -/
def TaskGroup.representation (group : TaskGroup) : String :=
  s!"<TaskGroup.{group.name}: '{group.value}'>"

/-- The reasons for the `ValueError` of `_validate_provider_configs`. -/
inductive ProviderConfigsError
  | duplicateIds
  | duplicatePriorities
  | missingGroups (missing : List TaskGroup)
  | multimodalWithoutImage
  deriving DecidableEq, Repr

def ProviderConfigsError.message : ProviderConfigsError → String
  | .duplicateIds => "Provider IDs must be unique"
  | .duplicatePriorities => "Provider priorities must be unique within each task group"
  | .missingGroups missing =>
      let listed := ", ".intercalate (missing.map TaskGroup.representation)
      s!"Every task group requires an enabled provider: [{listed}]"
  | .multimodalWithoutImage => "Multimodal providers must support image input"

namespace Settings

/-- The groups of the enabled providers. -/
def enabledGroups (configs : List (ProviderConfig μ)) : List TaskGroup :=
  (configs.filter ProviderConfig.enabled).map ProviderConfig.taskGroup

/-- `set(TaskGroup) - enabled_groups`. -/
def missingGroups (configs : List (ProviderConfig μ)) : List TaskGroup :=
  TaskGroup.all.filter fun group => decide (group ∉ enabledGroups configs)

/-- `_validate_provider_configs`. -/
def validateProviderConfigs (configs : List (ProviderConfig μ)) :
    Except ProviderConfigsError Unit :=
  if ¬ (configs.map ProviderConfig.id).Nodup then .error .duplicateIds
  else if ¬ (configs.map fun config => (config.taskGroup, config.priority)).Nodup then
    .error .duplicatePriorities
  else if missingGroups configs ≠ [] then
    .error (.missingGroups (sortedBy TaskGroup.value (missingGroups configs)))
  else if ∃ config ∈ configs, config.taskGroup = .multimodal ∧ config.acceptsImage = false then
    .error .multimodalWithoutImage
  else .ok ()

/-- A list of providers the application can be started with. -/
structure Topology (configs : List (ProviderConfig μ)) : Prop where
  nodup_ids : (configs.map ProviderConfig.id).Nodup
  nodup_priorities : (configs.map fun config => (config.taskGroup, config.priority)).Nodup
  served : ∀ group : TaskGroup, ∃ config ∈ configs, config.enabled = true ∧ config.taskGroup = group
  acceptsImage : ∀ config ∈ configs, config.taskGroup = .multimodal → config.acceptsImage = true

/-- No group is missing exactly when every group has an enabled provider. -/
theorem missingGroups_eq_nil_iff {configs : List (ProviderConfig μ)} :
    missingGroups configs = [] ↔
      ∀ group : TaskGroup, ∃ config ∈ configs, config.enabled = true ∧
        config.taskGroup = group := by
  rw [missingGroups, List.filter_eq_nil_iff]
  constructor
  · intro h group
    have hgroup : group ∈ enabledGroups configs := by simpa using h group group.mem_all
    obtain ⟨config, hconfig, hcfg⟩ := List.mem_map.mp hgroup
    obtain ⟨hmem, henabled⟩ := List.mem_filter.mp hconfig
    exact ⟨config, hmem, henabled, hcfg⟩
  · intro h group _
    obtain ⟨config, hmem, henabled, hcfg⟩ := h group
    have hgroup : group ∈ enabledGroups configs :=
      List.mem_map.mpr ⟨config, List.mem_filter.mpr ⟨hmem, henabled⟩, hcfg⟩
    simpa using hgroup

/-- The checks accept exactly the topologies. -/
theorem validateProviderConfigs_eq_ok_iff {configs : List (ProviderConfig μ)} :
    validateProviderConfigs configs = .ok () ↔ Topology configs := by
  rw [validateProviderConfigs]
  constructor
  · intro h
    split_ifs at h with hids hpriorities hmissing himage
    have hserved := missingGroups_eq_nil_iff.mp (not_not.mp hmissing)
    refine ⟨hids, hpriorities, hserved, ?_⟩
    intro config hconfig hgroup
    by_contra hno
    exact himage ⟨config, hconfig, hgroup, Bool.eq_false_iff.mpr hno⟩
  · intro h
    have hmissing : missingGroups configs = [] := missingGroups_eq_nil_iff.mpr h.served
    have himage : ¬ ∃ config ∈ configs,
        config.taskGroup = .multimodal ∧ config.acceptsImage = false := by
      intro ⟨config, hconfig, hgroup, hno⟩
      exact absurd (h.acceptsImage config hconfig hgroup) (Bool.eq_false_iff.mp hno)
    rw [if_neg (not_not.mpr h.nodup_ids), if_neg (not_not.mpr h.nodup_priorities),
      if_neg (not_not.mpr hmissing), if_neg himage]

end Settings

end LLMRouting
