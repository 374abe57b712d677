/-
# Governance updates

An update carries a flag that says whether it is to take effect. The flag passes from the
request body to the policy that is built from it, and the store overwrites it. This module
follows histories of update requests, the latest first, through these three layers, and says
in which of them the flag is respected.
-/

import LLMRouting.Api.ControlPlaneRequests
import LLMRouting.ControlPlane.GovernanceHistory

namespace LLMRouting

open LLMRouting.Data

/-- A request to `update_governance_policy`. -/
structure GovernanceUpdate where
  http : HttpRequest
  body : GovernancePolicyBody

namespace GovernanceUpdate

/-- The policy the request hands to the store. -/
def policy (update : GovernanceUpdate) : Except ApiFailure GovernancePolicy := do
  let request ← acceptBody (V2GovernancePolicyRequest.validate update.body)
  let tenant ← TenantContextResolver.resolve update.http
  request.policy tenant

/-- The same, nothing if the request is refused. -/
def policy? (update : GovernanceUpdate) : Option GovernancePolicy := update.policy.toOption

/-- The policies that update requests hand to the store. -/
def policies (history : List GovernanceUpdate) : List GovernancePolicy := history.filterMap policy?

/-- The endpoint stores the policy of the request. -/
theorem updateGovernancePolicy_eq (governance : GovernanceRepository) (update : GovernanceUpdate) :
    updateGovernancePolicy governance update.http update.body =
      update.policy.map governance.upsert := by
  rw [updateGovernancePolicy, GovernanceUpdate.policy]
  cases acceptBody (V2GovernancePolicyRequest.validate update.body) with
  | error failure => rfl
  | ok request =>
      cases TenantContextResolver.resolve update.http with
      | error failure => rfl
      | ok tenant =>
          show (request.policy tenant >>= fun policy => .ok (governance.upsert policy)) =
            (request.policy tenant).map governance.upsert
          cases request.policy tenant with
          | error failure => rfl
          | ok policy => rfl

/-- The flag of the request is that of the policy. -/
theorem active_of_policy? {update : GovernanceUpdate} {policy : GovernancePolicy}
    (h : update.policy? = some policy) : policy.active = update.body.activate.getD true := by
  rw [policy?] at h
  cases hpolicy : update.policy with
  | error failure => simp [hpolicy, Except.toOption] at h
  | ok built =>
      obtain rfl : built = policy := by simpa [hpolicy, Except.toOption] using h
      obtain ⟨request, hrequest, hpolicy⟩ := bind_eq_ok.mp hpolicy
      obtain ⟨tenant, -, hpolicy⟩ := bind_eq_ok.mp hpolicy
      have hactivate : request.activate = update.body.activate.getD true := by
        have hvalid := acceptBody_eq_ok.mp hrequest
        rw [V2GovernancePolicyRequest.validate] at hvalid
        obtain ⟨_, haccepted⟩ := Option.dite_none_right_eq_some.mp hvalid
        rw [← Option.some.inj haccepted]
      rw [V2GovernancePolicyRequest.policy, GovernancePolicy.build] at hpolicy
      rw [← hactivate]
      split at hpolicy
      · cases hpolicy
        rfl
      · cases hpolicy

end GovernanceUpdate

namespace GovernanceRepository

open GovernanceUpdate

/-- The store after a history of update requests; a refused one leaves it as it is. -/
def served : List GovernanceUpdate → GovernanceRepository
  | [] => empty
  | update :: earlier =>
      match updateGovernancePolicy (served earlier) update.http update.body with
      | .ok stored => stored.1
      | .error _ => served earlier

theorem served_eq_after (history : List GovernanceUpdate) :
    served history = after (policies history) := by
  induction history with
  | nil => rfl
  | cons update earlier ih =>
      have hpolicies : policies (update :: earlier) =
          update.policy?.toList ++ policies earlier := by
        rw [policies, List.filterMap_cons]
        cases update.policy? with
        | none => rfl
        | some policy => rfl
      rw [served, updateGovernancePolicy_eq, ih, hpolicies, policy?]
      cases update.policy with
      | error failure => rfl
      | ok policy => rfl

/-- What should be in force after a history of update requests. -/
def meant (tenantId : String) (history : List GovernanceUpdate) : GovernancePolicy :=
  meantInForce tenantId (updatesOf tenantId (policies history))

/-- Throughout the history the policy in force is the latest one that was sent to take effect,
and an update sent not to is stored as a version without changing who is eligible. -/
structure ActivationRespected (μ : Type) (history : List GovernanceUpdate) : Prop where
  inForce : ∀ reached, reached <:+ history → ∀ tenantId,
    (served reached).getActive tenantId = meant tenantId reached
  versioned : ∀ update earlier, update :: earlier <:+ history → ∀ policy ∈ update.policy?,
    ∃ stored, (served (update :: earlier)).stored policy.tenantId =
        (served earlier).stored policy.tenantId ++ [stored] ∧
      stored.version = ((served earlier).stored policy.tenantId).length + 1
  staged : ∀ update earlier, update :: earlier <:+ history → update.body.activate = some false →
    ∀ tenant context providers (registry : Registry μ),
      GovernanceEvaluator.eligible (served (update :: earlier)) tenant context providers registry =
        GovernanceEvaluator.eligible (served earlier) tenant context providers registry

/-- An update sent not to take effect is the first one its tenant has stored, and restates the
default. -/
def StagesOnlyDefaults (history : List GovernanceUpdate) : Prop :=
  ∀ update earlier, update :: earlier <:+ history → update.body.activate = some false →
    ∀ policy ∈ update.policy?,
      updatesOf policy.tenantId (policies earlier) = [] ∧ IsDefault policy

theorem policies_cons_of_some {update : GovernanceUpdate} {policy : GovernancePolicy}
    (h : update.policy? = some policy) (earlier : List GovernanceUpdate) :
    policies (update :: earlier) = policy :: policies earlier := by
  rw [policies, List.filterMap_cons, h]
  rfl

theorem policies_cons_of_none {update : GovernanceUpdate} (h : update.policy? = none)
    (earlier : List GovernanceUpdate) : policies (update :: earlier) = policies earlier := by
  rw [policies, List.filterMap_cons, h]
  rfl

/-- Where updates sent not to take effect only restate the default, a tenant's latest update
counts. -/
theorem latestCounts_of_stagesOnlyDefaults {history : List GovernanceUpdate}
    (h : StagesOnlyDefaults history) (tenantId : String) :
    LatestCounts (updatesOf tenantId (policies history)) := by
  induction history with
  | nil => trivial
  | cons update earlier ih =>
      have hearlier := ih fun other rest hrest => h other rest (hrest.trans (List.suffix_cons _ _))
      cases hpolicy : update.policy? with
      | none => rwa [policies_cons_of_none hpolicy]
      | some policy =>
          rw [policies_cons_of_some hpolicy]
          by_cases htenant : policy.tenantId = tenantId
          · rw [updatesOf_cons_of_eq htenant]
            have hactive := active_of_policy? hpolicy
            cases hsent : update.body.activate with
            | none => exact .inl (by rw [hactive, hsent]; rfl)
            | some activate =>
                cases activate with
                | true => exact .inl (by rw [hactive, hsent]; rfl)
                | false =>
                    obtain ⟨hfirst, hdefault⟩ :=
                      h update earlier List.suffix_rfl hsent policy hpolicy
                    exact .inr ⟨htenant ▸ hfirst, hdefault⟩
          · rwa [updatesOf_cons_of_ne htenant]

/-- What should be in force is not changed by an update sent not to take effect. -/
theorem meant_cons_of_staged {update : GovernanceUpdate} (h : update.body.activate = some false)
    (earlier : List GovernanceUpdate) (tenantId : String) :
    meant tenantId (update :: earlier) = meant tenantId earlier := by
  rw [meant, meant]
  cases hpolicy : update.policy? with
  | none => rw [policies_cons_of_none hpolicy]
  | some policy =>
      have hactive : policy.active = false := by
        rw [active_of_policy? hpolicy, h]
        rfl
      rw [policies_cons_of_some hpolicy]
      by_cases htenant : policy.tenantId = tenantId
      · rw [updatesOf_cons_of_eq htenant, meantInForce, hactive, if_neg (by simp)]
      · rw [updatesOf_cons_of_ne htenant]

/-- The activation flag is respected in exactly the histories in which an update sent not to take
effect is its tenant's first and restates the default. -/
theorem activationRespected_iff (μ : Type) (history : List GovernanceUpdate) :
    ActivationRespected μ history ↔ StagesOnlyDefaults history := by
  constructor
  · intro h update earlier hreached hsent policy hpolicy
    have hinForce := h.inForce _ hreached policy.tenantId
    rw [served_eq_after, meant, getActive_after_eq_iff, policies_cons_of_some hpolicy,
      updatesOf_cons_of_eq rfl] at hinForce
    have hactive : policy.active = false := by
      rw [active_of_policy? hpolicy, hsent]
      rfl
    exact hinForce.resolve_left (by simp [hactive])
  · intro h
    have hinForce : ∀ reached, reached <:+ history → ∀ tenantId,
        (served reached).getActive tenantId = meant tenantId reached := by
      intro reached hreached tenantId
      rw [served_eq_after, meant, getActive_after_eq_iff]
      exact latestCounts_of_stagesOnlyDefaults
        (fun other rest hrest => h other rest (hrest.trans hreached)) tenantId
    refine ⟨hinForce, fun update earlier hreached policy hpolicy => ?_,
      fun update earlier hreached hsent tenant context providers registry => ?_⟩
    · rw [served_eq_after, served_eq_after, policies_cons_of_some hpolicy, after, stored_upsert,
        if_pos rfl]
      exact ⟨_, rfl, rfl⟩
    · refine GovernanceEvaluator.eligible_congr ?_ context providers registry
      rw [hinForce _ hreached, meant_cons_of_staged hsent,
        hinForce _ ((List.suffix_cons _ _).trans hreached)]

/-- A tenant sends a policy that denies a provider, not to take effect; the provider is denied. -/
theorem staged_denial_takes_effect : ¬ ActivationRespected ℤ
    [{ http := {},
       body := { deniedProviderIds := some ["provider_a"], activate := some false } }] := by
  intro h
  have hinForce := h.inForce _ List.suffix_rfl "default"
  revert hinForce
  decide

end GovernanceRepository

end LLMRouting
