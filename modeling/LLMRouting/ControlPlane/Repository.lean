/-
# Control-plane contracts and repositories

The tenant-scoped policy and governance records of `control_plane/models.py`, and
the in-memory repositories that version them. All tenants share each repository;
the policy store is keyed by tenant and policy id, the governance store by tenant,
and the audit log is one append-only list.
-/

import LLMRouting.Data.Dict
import LLMRouting.Schemas.Models

namespace LLMRouting

open LLMRouting.Data

inductive PolicyKind
  | legacyBalanced
  | balanced
  | cheapest
  | lowestLatency
  | highestQuality
  | compliance
  deriving DecidableEq, Repr

/-- A tenant-scoped, versioned built-in policy definition. -/
structure PolicyDefinition where
  tenantId : String
  policyId : String
  kind : PolicyKind
  description : String := ""
  version : ℕ := 1
  active : Bool := false
  deriving DecidableEq, Repr

/-- Deterministic tenant eligibility constraints applied before the router. -/
structure GovernancePolicy where
  tenantId : String
  policyId : String := "default-governance"
  version : ℕ := 1
  allowedProviderIds : List String := []
  deniedProviderIds : List String := []
  allowedRegions : List String := []
  active : Bool := true
  deriving DecidableEq, Repr

structure GovernanceExclusion where
  providerId : String
  reason : String
  deriving DecidableEq, Repr

/-- The place of a candidate; its score is `none` where it is not a number. -/
structure CandidateRanking (μ : Type) where
  providerId : String
  rank : ℕ
  score : Option μ
  reason : String
  deriving DecidableEq, Repr

/-- Per-request control-plane reference, retained without request content. -/
structure PolicyAuditReference (μ : Type) where
  requestId : String
  tenantId : String
  policyId : String
  policyVersion : ℕ
  governancePolicyId : String
  governancePolicyVersion : ℕ
  candidateIds : List String
  exclusions : List GovernanceExclusion
  rankings : List (CandidateRanking μ)
  deriving DecidableEq, Repr

/-- The policy and governance output consumed by the routing workflow. -/
structure CandidateSet (μ : Type) where
  providers : List AvailableProvider
  policy : PolicyDefinition
  governance : GovernancePolicy
  exclusions : List GovernanceExclusion := []
  rankings : List (CandidateRanking μ) := []
  deriving DecidableEq, Repr

/-- The ids a candidate set offers, in its order. -/
def CandidateSet.ids {μ : Type} (candidateSet : CandidateSet μ) : List String :=
  candidateSet.providers.map AvailableProvider.id

structure PolicyRepository where
  versions : Dict (String × String) (List PolicyDefinition)
  active : Dict String String

namespace PolicyRepository

def empty : PolicyRepository := ⟨.empty, .empty⟩

/-- What `_versions`, a `defaultdict(list)`, holds under a key. -/
def stored (policies : PolicyRepository) (tenantId policyId : String) : List PolicyDefinition :=
  (policies.versions.get? (tenantId, policyId)).getD []

/-- The tenant's policies in the order of their creation; `none` where `[-1]` is taken of an
empty list of versions. -/
def list (policies : PolicyRepository) (tenantId : String) : Option (List PolicyDefinition) :=
  (policies.versions.entries.filter fun entry => decide (entry.1.1 = tenantId)).mapM fun entry =>
    entry.2.getLast?.map fun latest =>
      { latest with active := decide (policies.active.get? tenantId = some entry.1.2) }

def get? (policies : PolicyRepository) (tenantId policyId : String) : Option PolicyDefinition :=
  (policies.stored tenantId policyId).getLast?.map fun latest =>
    { latest with active := decide (policies.active.get? tenantId = some policyId) }

/-- `none` where `[-1]` is taken of an empty list of versions. -/
def getActive? (policies : PolicyRepository) (tenantId : String) : Option PolicyDefinition :=
  match policies.active.get? tenantId with
  | some policyId => (policies.stored tenantId policyId).getLast?
  | none => some
      { tenantId := tenantId, policyId := "legacy-balanced", kind := .legacyBalanced
        active := true }

/-- `none` where the source raises `KeyError`. -/
def activate (policies : PolicyRepository) (tenantId policyId : String) :
    Option (PolicyRepository × PolicyDefinition) :=
  (policies.get? tenantId policyId).map fun policy =>
    ({ policies with active := policies.active.set tenantId policyId },
      { policy with active := true })

def create (policies : PolicyRepository) (definition : PolicyDefinition) (activate : Bool) :
    PolicyRepository × PolicyDefinition :=
  let versions := policies.stored definition.tenantId definition.policyId
  let created := { definition with version := versions.length + 1, active := activate }
  let appended : PolicyRepository :=
    { policies with
      versions := policies.versions.set (definition.tenantId, definition.policyId)
        (versions ++ [created]) }
  let result :=
    if activate then
      ((appended.activate created.tenantId created.policyId).map Prod.fst).getD appended
    else appended
  (result, (result.get? created.tenantId created.policyId).getD created)

end PolicyRepository

structure GovernanceRepository where
  versions : Dict String (List GovernancePolicy)

namespace GovernanceRepository

def empty : GovernanceRepository := ⟨.empty⟩

def stored (governance : GovernanceRepository) (tenantId : String) : List GovernancePolicy :=
  (governance.versions.get? tenantId).getD []

def getActive (governance : GovernanceRepository) (tenantId : String) : GovernancePolicy :=
  (governance.stored tenantId).getLast?.getD { tenantId := tenantId }

def upsert (governance : GovernanceRepository) (policy : GovernancePolicy) :
    GovernanceRepository × GovernancePolicy :=
  let versions := governance.stored policy.tenantId
  let created := { policy with version := versions.length + 1, active := true }
  (⟨governance.versions.set policy.tenantId (versions ++ [created])⟩, created)

end GovernanceRepository

structure PolicyAuditRepository (μ : Type) where
  records : List (PolicyAuditReference μ)

namespace PolicyAuditRepository

variable {μ : Type}

def empty : PolicyAuditRepository μ := ⟨[]⟩

def append (audit : PolicyAuditRepository μ) (reference : PolicyAuditReference μ) :
    PolicyAuditRepository μ :=
  ⟨audit.records ++ [reference]⟩

def list (audit : PolicyAuditRepository μ) (tenantId : String) : List (PolicyAuditReference μ) :=
  audit.records.filter fun record => decide (record.tenantId = tenantId)

end PolicyAuditRepository

end LLMRouting
