/-
# Tenants of one control plane

All tenants share the policy store, the governance store and the audit log. This module
says that none of them notices: what is stored for a tenant is a control plane of its own,
every operation of the tenant does there what it does in the shared one, and the operations
of other tenants leave it alone. Generated ids and timestamps are no part of the model.
-/

import LLMRouting.ControlPlane.Services
import LLMRouting.Interaction.Confinement

namespace LLMRouting

open LLMRouting.Data LLMRouting.Interaction

variable {μ : Type}

/-- The repositories of `create_app`. -/
structure ControlPlane (μ : Type) where
  policies : PolicyRepository
  governance : GovernanceRepository
  audit : PolicyAuditRepository μ

/-- The operations of the control plane on behalf of a tenant. -/
inductive ControlOperation (μ : Type)
  | createPolicy (definition : PolicyDefinition) (activate : Bool)
  | activatePolicy (tenantId policyId : String)
  | upsertGovernance (policy : GovernancePolicy)
  | resolve (tenant : TenantContext) (context : RoutingContext) (excluded : List String)
  | appendAudit (reference : PolicyAuditReference μ)

namespace ControlOperation

def tenantId : ControlOperation μ → String
  | .createPolicy definition _ => definition.tenantId
  | .activatePolicy tenantId _ => tenantId
  | .upsertGovernance policy => policy.tenantId
  | .resolve tenant _ _ => tenant.tenantId
  | .appendAudit reference => reference.tenantId

end ControlOperation

/-- What an operation returns; an activation returns nothing where it raises `KeyError`. -/
inductive ControlResult (μ : Type)
  | policy (policy : Option PolicyDefinition)
  | governance (policy : GovernancePolicy)
  | resolved (candidateSet : Except ResolveError (CandidateSet μ))
  | appended

namespace ControlPlane

variable [Metric μ]

def perform (registry : Registry μ) (plane : ControlPlane μ) :
    ControlOperation μ → ControlResult μ × ControlPlane μ
  | .createPolicy definition activate =>
      let (policies, created) := plane.policies.create definition activate
      (.policy (some created), { plane with policies := policies })
  | .activatePolicy tenantId policyId =>
      match plane.policies.activate tenantId policyId with
      | some (policies, activated) =>
          (.policy (some activated), { plane with policies := policies })
      | none => (.policy none, plane)
  | .upsertGovernance policy =>
      let (governance, created) := plane.governance.upsert policy
      (.governance created, { plane with governance := governance })
  | .resolve tenant context excluded =>
      (.resolved
        (resolveCandidateSet registry plane.governance plane.policies tenant context excluded),
        plane)
  | .appendAudit reference => (.appended, { plane with audit := plane.audit.append reference })

end ControlPlane

namespace PolicyRepository

/-- What the store holds for a tenant. -/
def only (policies : PolicyRepository) (tenantId : String) : PolicyRepository where
  versions := policies.versions.restrict fun key => decide (key.1 = tenantId)
  active := policies.active.restrict fun key => decide (key = tenantId)

variable (policies : PolicyRepository) (tenantId policyId : String)

theorem stored_only : (policies.only tenantId).stored tenantId policyId =
    policies.stored tenantId policyId := by
  unfold stored only
  rw [Dict.get?_restrict (by simp)]

theorem active_only : (policies.only tenantId).active.get? tenantId =
    policies.active.get? tenantId := by
  rw [only]
  rw [Dict.get?_restrict (by simp)]

theorem get?_only : (policies.only tenantId).get? tenantId policyId =
    policies.get? tenantId policyId := by
  unfold get?
  rw [stored_only, active_only]

theorem getActive?_only : (policies.only tenantId).getActive? tenantId =
    policies.getActive? tenantId := by
  unfold getActive?
  rw [active_only]
  cases policies.active.get? tenantId with
  | none => rfl
  | some policyId => exact congrArg List.getLast? (stored_only policies tenantId policyId)

theorem list_only : (policies.only tenantId).list tenantId = policies.list tenantId := by
  unfold list
  rw [active_only]
  show List.mapM _ (List.filter _ (List.filter _ policies.versions.entries)) = _
  rw [List.filter_filter]
  simp only [Bool.and_self]

/-- Activating one of the tenant's policies in its own store. -/
theorem activate_only : (policies.only tenantId).activate tenantId policyId =
    (policies.activate tenantId policyId).map fun activated =>
      (activated.1.only tenantId, activated.2) := by
  unfold activate
  rw [get?_only, Option.map_map]
  congr 1
  funext policy
  have hactive : (policies.active.set tenantId policyId).restrict
      (fun key => decide (key = tenantId)) =
        (policies.only tenantId).active.set tenantId policyId :=
    Dict.restrict_set _ _ (by simp)
  simp only [Function.comp_apply, only, Prod.mk.injEq, mk.injEq, true_and, and_true]
  exact hactive.symm

/-- Another tenant's activation. -/
theorem only_activate_of_ne {other : String} (hother : other ≠ tenantId)
    {activated : PolicyRepository × PolicyDefinition}
    (h : policies.activate other policyId = some activated) :
    activated.1.only tenantId = policies.only tenantId := by
  obtain ⟨policy, -, rfl⟩ := Option.map_eq_some_iff.mp h
  have hactive : (policies.active.set other policyId).restrict
      (fun key => decide (key = tenantId)) =
        policies.active.restrict fun key => decide (key = tenantId) :=
    Dict.restrict_set_of_not _ _ (by simpa using hother)
  exact congrArg (PolicyRepository.mk _) hactive

variable {tenantId}

/-- Creating one of the tenant's policies in its own store. -/
theorem create_only (definition : PolicyDefinition) (activate : Bool) :
    (policies.only definition.tenantId).create definition activate =
      ((policies.create definition activate).1.only definition.tenantId,
        (policies.create definition activate).2) := by
  let versions := policies.stored definition.tenantId definition.policyId
  let created : PolicyDefinition :=
    { definition with version := versions.length + 1, active := activate }
  let appended : PolicyRepository :=
    { policies with
      versions := policies.versions.set (definition.tenantId, definition.policyId)
        (versions ++ [created]) }
  have happended : PolicyRepository.mk
      ((policies.only definition.tenantId).versions.set
        (definition.tenantId, definition.policyId) (versions ++ [created]))
      (policies.only definition.tenantId).active = appended.only definition.tenantId := by
    have hversions : appended.versions.restrict (fun key => decide (key.1 = definition.tenantId)) =
        (policies.only definition.tenantId).versions.set
          (definition.tenantId, definition.policyId) (versions ++ [created]) :=
      Dict.restrict_set _ _ (by simp)
    rw [← hversions]
    rfl
  have hresult : (if activate then
      (((appended.only definition.tenantId).activate definition.tenantId
        definition.policyId).map Prod.fst).getD (appended.only definition.tenantId)
      else appended.only definition.tenantId) =
        (if activate then ((appended.activate definition.tenantId
          definition.policyId).map Prod.fst).getD appended else appended).only
            definition.tenantId := by
    cases activate with
    | false => rfl
    | true =>
        rw [activate_only, Option.map_map]
        cases appended.activate definition.tenantId definition.policyId with
        | none => rfl
        | some activated => rfl
  unfold create
  simp only [stored_only]
  rw [happended, hresult, get?_only]

/-- Another tenant's policy. -/
theorem only_create_of_ne (definition : PolicyDefinition) (activate : Bool)
    (hother : definition.tenantId ≠ tenantId) :
    (policies.create definition activate).1.only tenantId = policies.only tenantId := by
  let versions := policies.stored definition.tenantId definition.policyId
  let created : PolicyDefinition :=
    { definition with version := versions.length + 1, active := activate }
  let appended : PolicyRepository :=
    { policies with
      versions := policies.versions.set (definition.tenantId, definition.policyId)
        (versions ++ [created]) }
  have happended : appended.only tenantId = policies.only tenantId := by
    have hversions : appended.versions.restrict (fun key => decide (key.1 = tenantId)) =
        policies.versions.restrict fun key => decide (key.1 = tenantId) :=
      Dict.restrict_set_of_not _ _ (by simpa using hother)
    exact congrArg (PolicyRepository.mk · _) hversions
  show (if activate then ((appended.activate definition.tenantId
    definition.policyId).map Prod.fst).getD appended else appended).only tenantId = _
  cases activate with
  | false => exact happended
  | true =>
      cases hactivate : appended.activate definition.tenantId definition.policyId with
      | none => exact happended
      | some activated =>
          exact (appended.only_activate_of_ne tenantId _ hother hactivate).trans happended

end PolicyRepository

namespace GovernanceRepository

def only (governance : GovernanceRepository) (tenantId : String) : GovernanceRepository where
  versions := governance.versions.restrict fun key => decide (key = tenantId)

variable (governance : GovernanceRepository) {tenantId : String}

theorem stored_only : (governance.only tenantId).stored tenantId = governance.stored tenantId := by
  unfold stored only
  rw [Dict.get?_restrict (by simp)]

theorem getActive_only :
    (governance.only tenantId).getActive tenantId = governance.getActive tenantId := by
  unfold getActive
  rw [stored_only]

theorem upsert_only (policy : GovernancePolicy) :
    (governance.only policy.tenantId).upsert policy =
      ((governance.upsert policy).1.only policy.tenantId, (governance.upsert policy).2) := by
  unfold upsert
  rw [stored_only]
  simp only [only, Prod.mk.injEq, mk.injEq, and_true]
  exact (Dict.restrict_set _ _ (by simp)).symm

theorem only_upsert_of_ne (policy : GovernancePolicy) (hother : policy.tenantId ≠ tenantId) :
    (governance.upsert policy).1.only tenantId = governance.only tenantId :=
  congrArg GovernanceRepository.mk (Dict.restrict_set_of_not _ _ (by simpa using hother))

end GovernanceRepository

/-- The resolver reads what is stored for the tenant it resolves for, and nothing else. -/
theorem resolveCandidateSet_only [Metric μ] (registry : Registry μ)
    (governance : GovernanceRepository) (policies : PolicyRepository) (tenant : TenantContext)
    (context : RoutingContext) (excluded : List String) :
    resolveCandidateSet registry (governance.only tenant.tenantId) (policies.only tenant.tenantId)
        tenant context excluded =
      resolveCandidateSet registry governance policies tenant context excluded := by
  have hpolicy : PolicyEvaluator.resolvePolicy (policies.only tenant.tenantId) tenant context =
      PolicyEvaluator.resolvePolicy policies tenant context := by
    unfold PolicyEvaluator.resolvePolicy
    simp only [PolicyRepository.get?_only, PolicyRepository.getActive?_only]
  unfold resolveCandidateSet GovernanceEvaluator.evaluate PolicyEvaluator.evaluate
  simp only [GovernanceRepository.getActive_only, hpolicy]

namespace ControlPlane

/-- What the control plane holds for a tenant. -/
def only (tenantId : String) (plane : ControlPlane μ) : ControlPlane μ where
  policies := plane.policies.only tenantId
  governance := plane.governance.only tenantId
  audit := ⟨plane.audit.list tenantId⟩

variable [Metric μ]

/-- Every operation does for its tenant what it does in the tenant's own control plane. -/
theorem perform_only (registry : Registry μ) (plane : ControlPlane μ)
    (operation : ControlOperation μ) :
    (plane.only operation.tenantId).perform registry operation =
      ((plane.perform registry operation).1,
        (plane.perform registry operation).2.only operation.tenantId) := by
  cases operation with
  | createPolicy definition activate =>
      have hcreate := plane.policies.create_only definition activate
      simp only [perform, ControlOperation.tenantId, only, hcreate]
  | activatePolicy tenantId policyId =>
      have hactivate := plane.policies.activate_only tenantId policyId
      simp only [perform, ControlOperation.tenantId, only, hactivate]
      cases plane.policies.activate tenantId policyId with
      | none => rfl
      | some activated => rfl
  | upsertGovernance policy =>
      have hupsert := plane.governance.upsert_only policy
      simp only [perform, ControlOperation.tenantId, only, hupsert]
  | resolve tenant context excluded =>
      simp only [perform, ControlOperation.tenantId, only, resolveCandidateSet_only]
  | appendAudit reference =>
      simp [perform, ControlOperation.tenantId, only, PolicyAuditRepository.append,
        PolicyAuditRepository.list]

/-- No operation of another tenant is noticed. -/
theorem only_perform_of_ne (registry : Registry μ) (plane : ControlPlane μ)
    (operation : ControlOperation μ) {tenantId : String} (hother : operation.tenantId ≠ tenantId) :
    (plane.perform registry operation).2.only tenantId = plane.only tenantId := by
  cases operation with
  | createPolicy definition activate =>
      have hcreate := plane.policies.only_create_of_ne definition activate hother
      simp only [perform, only, hcreate]
  | activatePolicy other policyId =>
      simp only [perform]
      cases hactivate : plane.policies.activate other policyId with
      | none => rfl
      | some activated =>
          have hactivated := plane.policies.only_activate_of_ne tenantId policyId hother hactivate
          simp only [only, hactivated]
  | upsertGovernance policy =>
      have hupsert := plane.governance.only_upsert_of_ne policy hother
      simp only [perform, only, hupsert]
  | resolve tenant context excluded => rfl
  | appendAudit reference =>
      have hskipped : reference.tenantId ≠ tenantId := hother
      simp [perform, only, PolicyAuditRepository.append, PolicyAuditRepository.list, hskipped]

theorem confined (registry : Registry μ) :
    Confined (fun plane : ControlPlane μ => plane.perform registry)
      ControlOperation.tenantId only where
  result_eq plane operation := by rw [perform_only]
  part_own plane operation := by rw [perform_only]
  part_foreign plane operation _ := plane.only_perform_of_ne registry operation

/-- A tenant cannot tell two control planes apart by anything it can ask of them. -/
structure LooksLike (registry : Registry μ) (tenantId : String) (first second : ControlPlane μ) :
    Prop where
  list_eq : first.policies.list tenantId = second.policies.list tenantId
  get?_eq : ∀ policyId, first.policies.get? tenantId policyId =
    second.policies.get? tenantId policyId
  versions_eq : ∀ policyId, first.policies.stored tenantId policyId =
    second.policies.stored tenantId policyId
  getActive?_eq : first.policies.getActive? tenantId = second.policies.getActive? tenantId
  governance_eq : first.governance.getActive tenantId = second.governance.getActive tenantId
  governanceVersions_eq : first.governance.stored tenantId = second.governance.stored tenantId
  candidateSet_eq : ∀ (tenant : TenantContext) context excluded, tenant.tenantId = tenantId →
    resolveCandidateSet registry first.governance first.policies tenant context excluded =
      resolveCandidateSet registry second.governance second.policies tenant context excluded
  audit_eq : first.audit.list tenantId = second.audit.list tenantId

/-- Everything a tenant can ask is answered from its own control plane. -/
theorem looksLike_of_only_eq (registry : Registry μ) {tenantId : String}
    {first second : ControlPlane μ} (h : first.only tenantId = second.only tenantId) :
    LooksLike registry tenantId first second := by
  obtain ⟨hpolicies, hgovernance, haudit⟩ := ControlPlane.mk.inj h
  constructor
  · rw [← first.policies.list_only, hpolicies, PolicyRepository.list_only]
  · intro policyId
    rw [← first.policies.get?_only, hpolicies, PolicyRepository.get?_only]
  · intro policyId
    rw [← first.policies.stored_only, hpolicies, PolicyRepository.stored_only]
  · rw [← first.policies.getActive?_only, hpolicies, PolicyRepository.getActive?_only]
  · rw [← first.governance.getActive_only, hgovernance, GovernanceRepository.getActive_only]
  · rw [← first.governance.stored_only, hgovernance, GovernanceRepository.stored_only]
  · intro tenant context excluded htenant
    subst htenant
    rw [← resolveCandidateSet_only registry first.governance, hpolicies, hgovernance,
      resolveCandidateSet_only]
  · exact PolicyAuditRepository.mk.inj haudit

/-- Whatever the tenants of a control plane do to it, deleting from the history everything the
other tenants do changes nothing a tenant can observe: neither what it can ask afterwards nor
what its own operations returned. -/
theorem tenants_noninterfering (registry : Registry μ) (plane : ControlPlane μ)
    (history : List (ControlOperation μ)) (tenantId : String) :
    LooksLike registry tenantId
        (performAll (fun plane => perform registry plane) plane
          (ownActions ControlOperation.tenantId tenantId history))
        (performAll (fun plane => perform registry plane) plane history) ∧
      resultsOf (fun plane => perform registry plane) ControlOperation.tenantId tenantId plane
          (ownActions ControlOperation.tenantId tenantId history) =
        resultsOf (fun plane => perform registry plane) ControlOperation.tenantId tenantId plane
          history := by
  have hconfined := confined registry
  constructor
  · apply looksLike_of_only_eq
    exact hconfined.part_ownActions tenantId plane history
  · exact hconfined.resultsOf_ownActions tenantId plane history

end ControlPlane

end LLMRouting
