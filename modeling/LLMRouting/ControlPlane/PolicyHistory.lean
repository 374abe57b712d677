/-
# Histories of the policy store

Creating a version and activating an id are all that changes the policy store. A history
lists these operations since the store was empty, the latest first. This module reads off a
history what the store holds after it, the versions of every policy and the id a tenant
activated last, and from that says when storing an inactive version goes unnoticed and when
the three ways to read the policy in force agree.
-/

import LLMRouting.ControlPlane.Repository
import LLMRouting.Data.Fallible

namespace LLMRouting

open LLMRouting.Data

/-- An operation that changes the policy store. -/
inductive PolicyOperation
  | create (definition : PolicyDefinition) (activate : Bool)
  | activate (tenantId policyId : String)
  deriving DecidableEq, Repr

namespace PolicyRepository

variable (policies : PolicyRepository) (definition : PolicyDefinition) (activate : Bool)
variable (tenantId policyId : String)

/-- The version `create` stores. -/
def nextVersion : PolicyDefinition :=
  { definition with
    version := (policies.stored definition.tenantId definition.policyId).length + 1
    active := activate }

/-- The version is appended, and the pointer moves to its id if it is to be active. -/
theorem create_eq : (policies.create definition activate).1 =
    { versions := policies.versions.set (definition.tenantId, definition.policyId)
        (policies.stored definition.tenantId definition.policyId ++
          [policies.nextVersion definition activate])
      active := if activate then policies.active.set definition.tenantId definition.policyId
        else policies.active } := by
  cases activate with
  | false => rfl
  | true => simp [create, PolicyRepository.activate, get?, stored, nextVersion]

theorem stored_create : (policies.create definition activate).1.stored tenantId policyId =
    if definition.tenantId = tenantId ∧ definition.policyId = policyId then
      policies.stored tenantId policyId ++ [policies.nextVersion definition activate]
    else policies.stored tenantId policyId := by
  rw [create_eq, stored, Dict.get?_set]
  by_cases hkey : definition.tenantId = tenantId ∧ definition.policyId = policyId
  · obtain ⟨rfl, rfl⟩ := hkey
    simp
  · have hne : (tenantId, policyId) ≠ (definition.tenantId, definition.policyId) := by
      intro heq
      exact hkey ⟨(congrArg Prod.fst heq).symm, (congrArg Prod.snd heq).symm⟩
    rw [if_neg hne, if_neg hkey]
    rfl

theorem active_create : (policies.create definition activate).1.active.get? tenantId =
    if activate = true ∧ definition.tenantId = tenantId then some definition.policyId
    else policies.active.get? tenantId := by
  rw [create_eq]
  cases activate with
  | false => simp
  | true => simp [Dict.get?_set, eq_comm]

/-- Only a stored policy can be activated. -/
theorem activate_eq : policies.activate tenantId policyId =
    (policies.stored tenantId policyId).getLast?.map fun latest =>
      ({ policies with active := policies.active.set tenantId policyId },
        { latest with active := true }) := by
  rw [PolicyRepository.activate, get?, Option.map_map]
  rfl

/-- The store an operation leaves; an activation that raises `KeyError` leaves it as it is. -/
def apply : PolicyOperation → PolicyRepository
  | .create definition activate => (policies.create definition activate).1
  | .activate tenantId policyId =>
      ((policies.activate tenantId policyId).map Prod.fst).getD policies

theorem apply_activate : policies.apply (.activate tenantId policyId) =
    if policies.stored tenantId policyId = [] then policies
    else { policies with active := policies.active.set tenantId policyId } := by
  rw [apply, activate_eq]
  cases hlast : (policies.stored tenantId policyId).getLast? with
  | none => simp [List.getLast?_eq_none_iff.mp hlast]
  | some latest =>
      have hstored : policies.stored tenantId policyId ≠ [] := by
        intro hnil
        simp [hnil] at hlast
      simp [hstored]

end PolicyRepository

namespace PolicyHistory

/-- What an operation creates of a policy, with the flag it is created with. -/
def creationOf (tenantId policyId : String) : PolicyOperation → Option (PolicyDefinition × Bool)
  | .create definition activate =>
      if definition.tenantId = tenantId ∧ definition.policyId = policyId then
        some (definition, activate)
      else none
  | .activate _ _ => none

/-- The creations of a policy, the latest first. -/
def creations (tenantId policyId : String) (history : List PolicyOperation) :
    List (PolicyDefinition × Bool) :=
  history.filterMap (creationOf tenantId policyId)

/-- The id an operation activates for a tenant: that of a version created active, or one that
was created earlier. -/
def activated (tenantId : String) (earlier : List PolicyOperation) : PolicyOperation → Option String
  | .create definition activate =>
      if activate = true ∧ definition.tenantId = tenantId then some definition.policyId else none
  | .activate other policyId =>
      if other = tenantId ∧ creations tenantId policyId earlier ≠ [] then some policyId else none

/-- The id a tenant activated last. -/
def lastActivated (tenantId : String) : List PolicyOperation → Option String
  | [] => none
  | operation :: earlier =>
      (activated tenantId earlier operation).or (lastActivated tenantId earlier)

/-- The versions that creations amount to, in the order of their numbers. -/
def numbered : List (PolicyDefinition × Bool) → List PolicyDefinition
  | [] => []
  | (definition, activate) :: earlier =>
      numbered earlier ++
        [{ definition with version := earlier.length + 1, active := activate }]

@[simp]
theorem length_numbered (created : List (PolicyDefinition × Bool)) :
    (numbered created).length = created.length := by
  induction created with
  | nil => rfl
  | cons creation earlier ih => simp [numbered, ih]

@[simp]
theorem numbered_eq_nil_iff {created : List (PolicyDefinition × Bool)} :
    numbered created = [] ↔ created = [] := by
  rw [← List.length_eq_zero_iff, length_numbered, List.length_eq_zero_iff]

theorem creation_mem {tenantId policyId : String} {history : List PolicyOperation}
    {definition : PolicyDefinition} {activate : Bool}
    (h : (definition, activate) ∈ creations tenantId policyId history) :
    definition.tenantId = tenantId ∧ definition.policyId = policyId := by
  obtain ⟨operation, -, hoperation⟩ := List.mem_filterMap.mp h
  cases operation with
  | create created flag =>
      obtain ⟨hkey, heq⟩ := Option.ite_none_right_eq_some.mp hoperation
      cases heq
      exact hkey
  | activate other otherId => cases hoperation

/-- A policy that was activated was created. -/
theorem creations_ne_nil {tenantId policyId : String} {history : List PolicyOperation}
    (h : lastActivated tenantId history = some policyId) :
    creations tenantId policyId history ≠ [] := by
  induction history with
  | nil => cases h
  | cons operation earlier ih =>
      rw [lastActivated, Option.or_eq_some_iff] at h
      rw [creations, List.filterMap_cons]
      cases operation with
      | create definition activate =>
          rcases h with h | ⟨-, h⟩
          · obtain ⟨⟨-, htenant⟩, hpolicy⟩ := Option.ite_none_right_eq_some.mp h
            simp [creationOf, htenant, Option.some.inj hpolicy]
          · cases hcreated : creationOf tenantId policyId (.create definition activate) with
            | none => exact ih h
            | some creation => simp
      | activate other otherId =>
          rcases h with h | ⟨-, h⟩
          · obtain ⟨⟨-, hcreated⟩, hpolicy⟩ := Option.ite_none_right_eq_some.mp h
            exact Option.some.inj hpolicy ▸ hcreated
          · exact ih h

end PolicyHistory

namespace PolicyRepository

open PolicyHistory

/-- The store after a history. -/
def after : List PolicyOperation → PolicyRepository
  | [] => empty
  | operation :: earlier => (after earlier).apply operation

/-- The stored versions are the creations, in their order. -/
theorem stored_after (history : List PolicyOperation) (tenantId policyId : String) :
    (after history).stored tenantId policyId = numbered (creations tenantId policyId history) := by
  induction history with
  | nil => rfl
  | cons operation earlier ih =>
      rw [after, creations, List.filterMap_cons]
      cases operation with
      | create definition activate =>
          rw [apply, stored_create, creationOf]
          by_cases hkey : definition.tenantId = tenantId ∧ definition.policyId = policyId
          · rw [if_pos hkey, if_pos hkey, numbered, nextVersion, hkey.1, hkey.2, ih,
              length_numbered]
            rfl
          · rw [if_neg hkey, if_neg hkey]
            exact ih
      | activate other otherId =>
          rw [apply_activate]
          by_cases hstored : (after earlier).stored other otherId = []
          · rw [if_pos hstored]
            exact ih
          · rw [if_neg hstored]
            exact ih

/-- The pointer is at the id activated last. -/
theorem active_after (history : List PolicyOperation) (tenantId : String) :
    (after history).active.get? tenantId = lastActivated tenantId history := by
  induction history with
  | nil => rfl
  | cons operation earlier ih =>
      rw [after, lastActivated, ← ih]
      cases operation with
      | create definition activate =>
          rw [apply, active_create, activated]
          by_cases hactive : activate = true ∧ definition.tenantId = tenantId
          · simp [hactive]
          · simp [hactive]
      | activate other policyId =>
          have hstored : (after earlier).stored other policyId = [] ↔
              creations other policyId earlier = [] := by
            rw [stored_after, numbered_eq_nil_iff]
          rw [apply_activate, activated]
          by_cases hcreated : creations other policyId earlier = []
          · have hnone : ¬ (other = tenantId ∧ creations tenantId policyId earlier ≠ []) := by
              intro h
              exact h.2 (h.1 ▸ hcreated)
            rw [if_pos (hstored.mpr hcreated), if_neg hnone, Option.none_or]
          · rw [if_neg (mt hstored.mp hcreated)]
            by_cases htenant : other = tenantId
            · simp [← htenant, hcreated]
            · simp [htenant, Dict.get?_set_of_ne _ _ (Ne.symm htenant)]

/-- No key is stored without a version under it. -/
theorem versions_ne_nil (history : List PolicyOperation) :
    ∀ entry ∈ (after history).versions.entries, entry.2 ≠ [] := by
  suffices h : ∀ key versions,
      (after history).versions.get? key = some versions → versions ≠ [] from
    fun entry hentry => h _ _ (Dict.get?_of_mem_entries hentry)
  induction history with
  | nil => simp [after, empty]
  | cons operation earlier ih =>
      rw [after]
      cases operation with
      | create definition activate =>
          rw [apply, create_eq]
          intro key versions hget
          rw [Dict.get?_set] at hget
          by_cases hkey : key = (definition.tenantId, definition.policyId)
          · rw [if_pos hkey] at hget
            simp [← Option.some.inj hget]
          · rw [if_neg hkey] at hget
            exact ih key versions hget
      | activate tenantId policyId =>
          rw [apply_activate]
          by_cases hstored : (after earlier).stored tenantId policyId = []
          · rw [if_pos hstored]
            exact ih
          · rw [if_neg hstored]
            exact ih

/-- The latest version of a policy. -/
theorem latest_after {history : List PolicyOperation} {tenantId policyId : String}
    {definition : PolicyDefinition} {activate : Bool} {earlier : List (PolicyDefinition × Bool)}
    (h : creations tenantId policyId history = (definition, activate) :: earlier) :
    ((after history).stored tenantId policyId).getLast? =
      some { definition with version := earlier.length + 1, active := activate } := by
  rw [stored_after, h, numbered, List.getLast?_concat]

/-- What `get_active` tells of the policy in force. -/
def inForce (policies : PolicyRepository) (tenantId : String) : Option (String × ℕ × PolicyKind) :=
  (policies.getActive? tenantId).map fun policy => (policy.policyId, policy.version, policy.kind)

/-- Storing the definition inactive changes the policy in force for no tenant. -/
def UnnoticedWhenInactive (policies : PolicyRepository) (definition : PolicyDefinition) : Prop :=
  ∀ tenantId, (policies.create definition false).1.inForce tenantId = policies.inForce tenantId

/-- Another tenant's policy, or another policy than the one in force, is read as before. -/
theorem getActive?_create_of_ne {policies : PolicyRepository} {definition : PolicyDefinition}
    (h : policies.active.get? definition.tenantId ≠ some definition.policyId) (tenantId : String) :
    (policies.create definition false).1.getActive? tenantId = policies.getActive? tenantId := by
  rw [getActive?, getActive?, active_create, if_neg (by simp)]
  cases hactive : policies.active.get? tenantId with
  | none => rfl
  | some policyId =>
      have hother : ¬ (definition.tenantId = tenantId ∧ definition.policyId = policyId) := by
        intro hsame
        exact h (by rw [hsame.1, hsame.2, hactive])
      simp only [stored_create, if_neg hother]

/-- After every history, an inactive version goes unnoticed exactly when the policy it is a
version of is not the one its tenant activated last. -/
theorem inactive_creation_unnoticed_iff (history : List PolicyOperation)
    (definition : PolicyDefinition) :
    (after history).UnnoticedWhenInactive definition ↔
      lastActivated definition.tenantId history ≠ some definition.policyId := by
  rw [← active_after]
  by_cases hactive : (after history).active.get? definition.tenantId = some definition.policyId
  · refine iff_of_false (fun hunnoticed => ?_) (fun hne => hne hactive)
    have hread : ((after history).stored definition.tenantId definition.policyId).getLast?.map
        PolicyDefinition.version =
          some (((after history).stored definition.tenantId definition.policyId).length + 1) := by
      have hversion := congrArg (Option.map fun read => read.2.1) (hunnoticed definition.tenantId)
      rw [inForce, inForce, getActive?, getActive?, active_create, if_neg (by simp)] at hversion
      simpa [hactive, stored_create, nextVersion, Function.comp_def] using hversion.symm
    rw [stored_after] at hread
    cases hcreated : creations definition.tenantId definition.policyId history with
    | nil => simp [hcreated, numbered] at hread
    | cons creation earlier => simp [hcreated, numbered] at hread
  · exact iff_of_true
      (fun tenantId => congrArg (Option.map _) (getActive?_create_of_ne hactive tenantId)) hactive

/-- The tenant runs under `cheapest`; storing a next version of that policy, without activating
it, puts the tenant under `highest_quality`. -/
theorem inactive_version_takes_effect :
    ¬ UnnoticedWhenInactive
      (after [.create { tenantId := "tenant-a", policyId := "low-cost", kind := .cheapest } true])
      { tenantId := "tenant-a", policyId := "low-cost", kind := .highestQuality } := by
  intro hunnoticed
  have hread := hunnoticed "tenant-a"
  revert hread
  decide

/-- Two readings of a policy, compared. -/
def SameReading (first second : PolicyDefinition) : Prop :=
  first.policyId = second.policyId ∧ first.version = second.version ∧ first.kind = second.kind ∧
    first.active = second.active

/-- `get_active` returns a policy marked active, which `get` returns under its id, and which is
the one entry that `list` marks active once the tenant has activated a policy. -/
def ReadPathsAgree (policies : PolicyRepository) (tenantId : String) : Prop :=
  ∃ policy, policies.getActive? tenantId = some policy ∧ policy.active = true ∧
    (∃ read, policies.get? tenantId policy.policyId = some read ∧ SameReading read policy) ∧
    ((policies.active.get? tenantId).isSome → ∃ listed entry,
      policies.list tenantId = some listed ∧ listed.filter PolicyDefinition.active = [entry] ∧
        SameReading entry policy)

theorem ReadPathsAgree.marked {policies : PolicyRepository} {tenantId : String}
    (h : ReadPathsAgree policies tenantId) :
    (policies.getActive? tenantId).any PolicyDefinition.active = true := by
  obtain ⟨policy, hpolicy, hmarked, -⟩ := h
  rw [hpolicy]
  exact hmarked

/-- What `list` says of one entry of the store. -/
private def listing (policies : PolicyRepository) (tenantId : String)
    (entry : (String × String) × List PolicyDefinition) : Option PolicyDefinition :=
  entry.2.getLast?.map fun latest =>
    { latest with active := decide (policies.active.get? tenantId = some entry.1.2) }

/-- Every policy of the tenant is listed, and only that at the pointer is marked active. -/
theorem list_after {history : List PolicyOperation} {tenantId policyId : String}
    {latest : PolicyDefinition} (hactive : lastActivated tenantId history = some policyId)
    (hlatest : ((after history).stored tenantId policyId).getLast? = some latest) :
    ∃ listed, (after history).list tenantId = some listed ∧
      listed.filter PolicyDefinition.active = [{ latest with active := true }] := by
  have hlist : (after history).list tenantId =
      some (((after history).versions.entries.filter fun entry =>
        decide (entry.1.1 = tenantId)).filterMap (listing (after history) tenantId)) := by
    rw [list]
    apply mapM_eq_some_filterMap
    intro entry hentry
    have hne := versions_ne_nil history entry (List.mem_of_mem_filter hentry)
    exact ⟨_, congrArg (Option.map _) (List.getLast?_eq_some_getLast hne)⟩
  refine ⟨_, hlist, ?_⟩
  have hmarked : ∀ entry : (String × String) × List PolicyDefinition,
      (if decide (entry.1.1 = tenantId) = true then
        (listing (after history) tenantId entry).filter PolicyDefinition.active else none) =
      if decide (entry.1 = (tenantId, policyId)) = true then
        entry.2.getLast?.map fun latest => { latest with active := true } else none := by
    intro entry
    obtain ⟨⟨tenant, stored⟩, versions⟩ := entry
    rw [listing, active_after, hactive]
    cases versions.getLast? with
    | none => simp
    | some version =>
        by_cases htenant : tenant = tenantId
        · by_cases hstored : policyId = stored
          · simp [htenant, hstored]
          · simp [htenant, hstored, Ne.symm hstored]
        · simp [htenant]
  have hget : (after history).versions.get? (tenantId, policyId) =
      some ((after history).stored tenantId policyId) := by
    rw [stored] at hlatest ⊢
    cases hversions : (after history).versions.get? (tenantId, policyId) with
    | none => simp [hversions] at hlatest
    | some versions => rfl
  rw [List.filter_filterMap, List.filterMap_filter,
    List.filterMap_congr fun entry _ => hmarked entry,
    ← List.filterMap_filter, Dict.filter_entries_key, hget]
  simp [hlatest]

/-- After every history the three ways to read a tenant's policy in force agree exactly when the
tenant has activated a policy and the latest version of that policy was created active. -/
theorem readPathsAgree_iff (history : List PolicyOperation) (tenantId : String) :
    ReadPathsAgree (after history) tenantId ↔ ∃ policyId definition earlier,
      lastActivated tenantId history = some policyId ∧
        creations tenantId policyId history = (definition, true) :: earlier := by
  cases hactive : lastActivated tenantId history with
  | none =>
      refine iff_of_false ?_ (by simp)
      rintro ⟨policy, hpolicy, -, ⟨read, hread, -, -, -, hmarked⟩, -⟩
      rw [getActive?, active_after, hactive] at hpolicy
      rw [get?, active_after, hactive] at hread
      obtain ⟨latest, -, rfl⟩ := Option.map_eq_some_iff.mp hread
      rw [← Option.some.inj hpolicy] at hmarked
      simp at hmarked
  | some policyId =>
      obtain ⟨⟨definition, activate⟩, earlier, hcreated⟩ :=
        List.exists_cons_of_ne_nil (creations_ne_nil hactive)
      have hlatest := latest_after hcreated
      obtain ⟨-, rfl⟩ := creation_mem (hcreated ▸ List.mem_cons_self)
      have hinForce : (after history).getActive? tenantId =
          some { definition with version := earlier.length + 1, active := activate } := by
        rw [getActive?, active_after, hactive]
        exact hlatest
      cases activate with
      | false =>
          refine iff_of_false (fun hagree => ?_) (by simp [hcreated])
          have hmarked := hagree.marked
          rw [hinForce] at hmarked
          cases hmarked
      | true =>
          refine iff_of_true ⟨_, hinForce, rfl, ⟨_, ?_, rfl, rfl, rfl, rfl⟩, fun _ => ?_⟩
            ⟨_, definition, earlier, rfl, hcreated⟩
          · rw [get?, hlatest, active_after, hactive]
            simp
          · obtain ⟨listed, hlist, hfilter⟩ := list_after hactive hlatest
            exact ⟨listed, _, hlist, hfilter, rfl, rfl, rfl, rfl⟩

/-- A policy that is created inactive and activated afterwards is in force, and `get_active` still
returns it marked inactive. -/
theorem activated_later_reads_inactive :
    ¬ ReadPathsAgree (after [.activate "tenant-a" "low-cost",
      .create { tenantId := "tenant-a", policyId := "low-cost", kind := .cheapest } false])
      "tenant-a" := by
  intro hagree
  have hmarked := hagree.marked
  revert hmarked
  decide

end PolicyRepository

end LLMRouting
