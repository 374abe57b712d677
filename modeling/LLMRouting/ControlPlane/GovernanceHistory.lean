/-
# Histories of the governance store

Every governance update is stored as the next version of its tenant, and the version stored
last is in force. A history lists the policies handed to the store, the latest first. The
policy that should be in force after it is the latest one that was meant to be active; this
module says when the two are the same.
-/

import LLMRouting.ControlPlane.Services

namespace LLMRouting

open LLMRouting.Data

namespace GovernanceRepository

/-- The store after a history. -/
def after : List GovernancePolicy → GovernanceRepository
  | [] => empty
  | policy :: earlier => ((after earlier).upsert policy).1

/-- What a tenant handed to the store, the latest first. -/
def updatesOf (tenantId : String) (history : List GovernancePolicy) : List GovernancePolicy :=
  history.filter fun policy => decide (policy.tenantId = tenantId)

/-- The policy as it is stored after `earlier` updates. -/
def version (earlier : List GovernancePolicy) (policy : GovernancePolicy) : GovernancePolicy :=
  { policy with version := earlier.length + 1 }

/-- The tenant's latest update as the store returns it. -/
def latestStored (tenantId : String) : List GovernancePolicy → GovernancePolicy
  | [] => { tenantId := tenantId }
  | policy :: earlier => { version earlier policy with active := true }

/-- The policy that should be in force: the latest one stored to be active, or the unrestricted
default. -/
def meantInForce (tenantId : String) : List GovernancePolicy → GovernancePolicy
  | [] => { tenantId := tenantId }
  | policy :: earlier =>
      if policy.active then version earlier policy else meantInForce tenantId earlier

theorem updatesOf_cons_of_eq {policy : GovernancePolicy} {tenantId : String}
    (h : policy.tenantId = tenantId) (earlier : List GovernancePolicy) :
    updatesOf tenantId (policy :: earlier) = policy :: updatesOf tenantId earlier := by
  simp [updatesOf, h]

theorem updatesOf_cons_of_ne {policy : GovernancePolicy} {tenantId : String}
    (h : policy.tenantId ≠ tenantId) (earlier : List GovernancePolicy) :
    updatesOf tenantId (policy :: earlier) = updatesOf tenantId earlier := by
  simp [updatesOf, h]

theorem stored_upsert (governance : GovernanceRepository) (policy : GovernancePolicy)
    (tenantId : String) : (governance.upsert policy).1.stored tenantId =
      if policy.tenantId = tenantId then
        governance.stored tenantId ++
          [{ policy with version := (governance.stored tenantId).length + 1, active := true }]
      else governance.stored tenantId := by
  show ((governance.versions.set _ _).get? tenantId).getD [] = _
  by_cases htenant : policy.tenantId = tenantId
  · subst htenant
    simp [stored]
  · rw [Dict.get?_set_of_ne _ _ (Ne.symm htenant), if_neg htenant]
    rfl

theorem length_stored_after (history : List GovernancePolicy) (tenantId : String) :
    ((after history).stored tenantId).length = (updatesOf tenantId history).length := by
  induction history with
  | nil => rfl
  | cons policy earlier ih =>
      rw [after, stored_upsert]
      by_cases htenant : policy.tenantId = tenantId
      · rw [if_pos htenant, updatesOf_cons_of_eq htenant, List.length_append, ih]
        rfl
      · rw [if_neg htenant, updatesOf_cons_of_ne htenant, ih]

/-- The policy in force is the tenant's latest update, whatever its flag. -/
theorem getActive_after (history : List GovernancePolicy) (tenantId : String) :
    (after history).getActive tenantId = latestStored tenantId (updatesOf tenantId history) := by
  induction history with
  | nil => rfl
  | cons policy earlier ih =>
      rw [getActive, after, stored_upsert]
      by_cases htenant : policy.tenantId = tenantId
      · rw [if_pos htenant, updatesOf_cons_of_eq htenant, List.getLast?_concat, length_stored_after]
        rfl
      · rw [if_neg htenant, updatesOf_cons_of_ne htenant]
        exact ih

/-- What should be in force is stored no later than the tenant's latest update. -/
theorem version_meantInForce_le (tenantId : String) (updates : List GovernancePolicy) :
    (meantInForce tenantId updates).version ≤ max 1 updates.length := by
  induction updates with
  | nil => exact le_rfl
  | cons policy earlier ih =>
      rw [meantInForce]
      cases policy.active with
      | true => exact le_max_right _ _
      | false => exact ih.trans (max_le_max le_rfl (by simp))

/-- The policy restricts nothing, under the id of the default. -/
def IsDefault (policy : GovernancePolicy) : Prop :=
  { policy with version := 1, active := true } =
    ({ tenantId := policy.tenantId } : GovernancePolicy)

/-- The latest of a tenant's updates is active, or else nothing was stored before it and it says
what is in force without it. -/
def LatestCounts : List GovernancePolicy → Prop
  | [] => True
  | policy :: earlier => policy.active = true ∨ (earlier = [] ∧ IsDefault policy)

/-- After every history the policy in force is the one that should be exactly when the tenant's
latest update was meant to take effect, or restates the default. -/
theorem getActive_after_eq_iff (history : List GovernancePolicy) (tenantId : String) :
    (after history).getActive tenantId = meantInForce tenantId (updatesOf tenantId history) ↔
      LatestCounts (updatesOf tenantId history) := by
  rw [getActive_after]
  have htenants : ∀ policy ∈ updatesOf tenantId history, policy.tenantId = tenantId := by
    intro policy hpolicy
    exact of_decide_eq_true (List.mem_filter.mp hpolicy).2
  cases hupdates : updatesOf tenantId history with
  | nil => exact iff_of_true rfl trivial
  | cons policy earlier =>
      have htenant := htenants policy (hupdates ▸ List.mem_cons_self)
      rw [LatestCounts, meantInForce]
      cases hactive : policy.active with
      | true =>
          refine iff_of_true ?_ (.inl rfl)
          cases policy
          cases hactive
          rfl
      | false =>
          rw [if_neg (by simp), or_iff_right (by simp)]
          constructor
          · intro heq
            have hversion : earlier.length + 1 ≤ max 1 earlier.length := by
              have hle := version_meantInForce_le tenantId earlier
              rw [← heq] at hle
              exact hle
            have hnil : earlier = [] := by
              rw [← List.length_eq_zero_iff]
              omega
            subst hnil
            rw [meantInForce, ← htenant] at heq
            exact ⟨rfl, heq⟩
          · intro h
            obtain ⟨rfl, hdefault⟩ := h
            rw [meantInForce, ← htenant]
            exact hdefault

end GovernanceRepository

/-- The providers governance leaves in for a request of the tenant. -/
def GovernanceEvaluator.eligible {μ : Type} (governance : GovernanceRepository)
    (tenant : TenantContext) (context : RoutingContext) (providers : List AvailableProvider)
    (registry : Registry μ) : Except ResolveError (List AvailableProvider) :=
  (evaluate governance tenant context providers registry).map fun evaluated => evaluated.2.1

/-- Eligibility is decided by the policy in force. -/
theorem GovernanceEvaluator.eligible_congr {μ : Type} {first second : GovernanceRepository}
    {tenant : TenantContext}
    (h : first.getActive tenant.tenantId = second.getActive tenant.tenantId)
    (context : RoutingContext) (providers : List AvailableProvider) (registry : Registry μ) :
    eligible first tenant context providers registry =
      eligible second tenant context providers registry := by
  rw [eligible, eligible, evaluate, evaluate, h]

end LLMRouting
