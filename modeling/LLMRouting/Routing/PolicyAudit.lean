/-
# What the audit says of a request

A request of a tenant resolves its candidates anew in every iteration and writes one audit
reference, when it has resolved them for the first time. The control plane may be changed
whenever the request gives up the floor. This module follows the reference and the candidate
set through every part of the engine, under a pledge that tolerates every other request and
every change that leaves the audit log alone.
-/

import LLMRouting.Interaction.Pledge
import LLMRouting.Routing.Trace
import LLMRouting.State.Turn

namespace LLMRouting

open LLMRouting.Interaction

variable {μ α β : Type}

/-- The policies a candidate set was resolved under. -/
structure Stamp where
  policyId : String
  policyVersion : ℕ
  governancePolicyId : String
  governancePolicyVersion : ℕ
  deriving DecidableEq

def CandidateSet.stamp (candidateSet : CandidateSet μ) : Stamp where
  policyId := candidateSet.policy.policyId
  policyVersion := candidateSet.policy.version
  governancePolicyId := candidateSet.governance.policyId
  governancePolicyVersion := candidateSet.governance.version

def PolicyAuditReference.stamp (reference : PolicyAuditReference μ) : Stamp where
  policyId := reference.policyId
  policyVersion := reference.policyVersion
  governancePolicyId := reference.governancePolicyId
  governancePolicyVersion := reference.governancePolicyVersion

/-- A candidate set that adds no candidate to another one, under the same policies. -/
def CandidateSet.Within (again current : CandidateSet μ) : Prop :=
  again.ids ⊆ current.ids ∧ again.stamp = current.stamp

/-- A reference speaks for a candidate set. -/
def PolicyAuditReference.Covers (reference : PolicyAuditReference μ)
    (candidateSet : CandidateSet μ) : Prop :=
  candidateSet.ids ⊆ reference.candidateIds ∧ reference.stamp = candidateSet.stamp

theorem PolicyAuditReference.Covers.within {reference : PolicyAuditReference μ}
    {again current : CandidateSet μ} (h : reference.Covers current)
    (hwithin : again.Within current) :
    reference.Covers again :=
  ⟨List.Subset.trans hwithin.1 h.1, h.2.trans hwithin.2.symm⟩

/-- The reference to a candidate set. -/
def CandidateSet.reference (candidateSet : CandidateSet μ) (requestId : String)
    (tenant : TenantContext) : PolicyAuditReference μ where
  requestId := requestId
  tenantId := tenant.tenantId
  policyId := candidateSet.policy.policyId
  policyVersion := candidateSet.policy.version
  governancePolicyId := candidateSet.governance.policyId
  governancePolicyVersion := candidateSet.governance.version
  candidateIds := candidateSet.ids
  exclusions := candidateSet.exclusions
  rankings := candidateSet.rankings

theorem CandidateSet.covers_reference (candidateSet : CandidateSet μ) (requestId : String)
    (tenant : TenantContext) : (candidateSet.reference requestId tenant).Covers candidateSet :=
  ⟨List.Subset.refl _, rfl⟩

namespace PolicyAuditRepository

/-- The references under a request id. -/
def references (audit : PolicyAuditRepository μ) (requestId : String) :
    List (PolicyAuditReference μ) :=
  audit.records.filter fun reference => decide (reference.requestId = requestId)

variable {audit : PolicyAuditRepository μ} {reference : PolicyAuditReference μ}

theorem references_append_self :
    (audit.append reference).references reference.requestId =
      audit.references reference.requestId ++ [reference] := by
  simp [references, append]

theorem references_append_of_ne {requestId : String} (h : requestId ≠ reference.requestId) :
    (audit.append reference).references requestId = audit.references requestId := by
  simp [references, append, h.symm]

theorem references_eq_nil_iff {requestId : String} :
    audit.references requestId = [] ↔
      ∀ reference ∈ audit.records, reference.requestId ≠ requestId := by
  simp [references]

end PolicyAuditRepository

/-- What the audit says of a request: nothing until it has resolved its candidates, and from
then on one reference of its tenant. If the control plane holds `steady` for the request, the
reference speaks for the candidate set the request works with. -/
structure Audited (steady : Prop) (call : HandleCall) (m : Memory μ) : Prop where
  requestId_eq : m.own.requestId = call.requestId
  tenant_eq : m.own.tenant = call.tenant
  unresolved : m.own.candidateSet = none →
    m.own.policyAuditRecorded = false ∧ m.shared.audit.references call.requestId = []
  recorded : ∀ current, m.own.candidateSet = some current →
    m.own.policyAuditRecorded = true ∧ ∃ tenant reference, call.tenant = some tenant ∧
      reference.tenantId = tenant.tenantId ∧
      m.shared.audit.references call.requestId = [reference] ∧
      (steady → reference.Covers current)

/-- A router's reply that lets the request try again. -/
def retryAsked : (query : EngineQuery) → engineInterface.Reply query → Bool
  | .decide _ request, reply =>
      match Routine.judged request reply with
      | .ok decision => decide (decision.action = .retry)
      | .error _ => false
  | .loopTime, _ | .dispatch _ _, _ | .process _, _ => false

/-- Unless the retry is stopped, the control plane resolves for it no candidates but those
the request works with, under the same policies. -/
def StillResolves [Metric μ] (call : HandleCall) (m : Memory μ) : Prop :=
  ∀ tenant ∈ m.own.tenant, ∀ current ∈ m.own.candidateSet, ∀ state ∈ m.own.state,
    retryGuardFired m.shared.registry state.retried = false →
      ∀ again ∈ (resolveCandidateSet m.shared.registry m.shared.governance m.shared.policies tenant
        call.context state.retried.excludedProviders).toOption, again.Within current

/-- A provider is only dispatched for a tenant out of the candidate set in force. -/
def Offered (call : HandleCall) (m : Memory μ) : EngineQuery → Prop
  | .dispatch providerId _ => call.tenant.isSome →
      ∃ current, m.own.candidateSet = some current ∧ providerId ∈ current.ids
  | .loopTime | .decide _ _ | .process _ => True

/-- The audit says of a request what its own memory and its references say. -/
theorem Audited.drift {steady : Prop} {call : HandleCall} {m m' : Memory μ}
    (h : Audited steady call m) (hown : m'.own = m.own)
    (hreferences : m'.shared.audit.references call.requestId =
      m.shared.audit.references call.requestId) : Audited steady call m' where
  requestId_eq := by rw [hown, h.requestId_eq]
  tenant_eq := by rw [hown, h.tenant_eq]
  unresolved hnone := by
    rw [hown] at hnone ⊢
    rw [hreferences]
    exact h.unresolved hnone
  recorded current hcurrent := by
    rw [hown] at hcurrent ⊢
    rw [hreferences]
    exact h.recorded current hcurrent

theorem Offered.drift {call : HandleCall} {m m' : Memory μ} {query : EngineQuery}
    (h : Offered call m query) (hown : m'.own = m.own) : Offered call m' query := by
  cases query with
  | dispatch providerId request =>
      intro htenant
      rw [hown]
      exact h htenant
  | loopTime | decide | process => trivial

/-- The pledge of a request. What the others do meanwhile leaves its own memory and its
references alone. -/
def auditPledge [Metric μ] (steady : Prop) (call : HandleCall) :
    Pledge engineInterface (Memory μ) where
  drift m m' := m'.own = m.own ∧
    m'.shared.audit.references call.requestId = m.shared.audit.references call.requestId
  guar m m' := ∀ requestId, requestId ≠ call.requestId →
    m'.shared.audit.references requestId = m.shared.audit.references requestId
  parks query m := Audited steady call m ∧ Offered call m query
  resumes query reply m m' := (m'.own = m.own ∧
    m'.shared.audit.references call.requestId = m.shared.audit.references call.requestId) ∧
    (steady → retryAsked query reply = true → StillResolves call m')
  rests m := Audited steady call m
  parks_drift hparks hdrift := ⟨hparks.1.drift hdrift.1 hdrift.2, hparks.2.drift hdrift.1⟩
  resumes_drift hdrift hresumes :=
    ⟨⟨hresumes.1.1.trans hdrift.1, hresumes.1.2.trans hdrift.2⟩, hresumes.2⟩
  rests_drift hrests hdrift := hrests.drift hdrift.1 hdrift.2

/-- Two memories that do not differ in the control plane, in the audit, and in what a request
knows about either. -/
structure Aside (m m' : Memory μ) : Prop where
  registry : m'.shared.registry = m.shared.registry
  policies : m'.shared.policies = m.shared.policies
  governance : m'.shared.governance = m.shared.governance
  audit : m'.shared.audit = m.shared.audit
  requestId : m'.own.requestId = m.own.requestId
  tenant : m'.own.tenant = m.own.tenant
  candidateSet : m'.own.candidateSet = m.own.candidateSet
  recorded : m'.own.policyAuditRecorded = m.own.policyAuditRecorded

theorem Aside.refl (m : Memory μ) : Aside m m := ⟨rfl, rfl, rfl, rfl, rfl, rfl, rfl, rfl⟩

theorem Aside.trans {first second third : Memory μ} (h : Aside first second)
    (h' : Aside second third) : Aside first third where
  registry := h'.registry.trans h.registry
  policies := h'.policies.trans h.policies
  governance := h'.governance.trans h.governance
  audit := h'.audit.trans h.audit
  requestId := h'.requestId.trans h.requestId
  tenant := h'.tenant.trans h.tenant
  candidateSet := h'.candidateSet.trans h.candidateSet
  recorded := h'.recorded.trans h.recorded

theorem Audited.aside {steady : Prop} {call : HandleCall} {m m' : Memory μ}
    (h : Audited steady call m) (haside : Aside m m') : Audited steady call m' where
  requestId_eq := by rw [haside.requestId, h.requestId_eq]
  tenant_eq := by rw [haside.tenant, h.tenant_eq]
  unresolved hnone := by
    rw [haside.candidateSet] at hnone
    rw [haside.recorded, haside.audit]
    exact h.unresolved hnone
  recorded current hcurrent := by
    rw [haside.candidateSet] at hcurrent
    rw [haside.recorded, haside.audit]
    exact h.recorded current hcurrent

/-- A request works on a record, with the candidate set it has chosen. -/
structure Working (steady : Prop) (call : HandleCall) (chosen : Option (CandidateSet μ))
    (state : ConversationState) (m : Memory μ) : Prop where
  audited : Audited steady call m
  candidateSet_eq : m.own.candidateSet = chosen
  state_eq : m.own.state = some state

/-- A note that is neither about the audit nor about the record. -/
def Plain (update : Capture μ → Capture μ) : Prop :=
  ∀ capture, (update capture).requestId = capture.requestId ∧
    (update capture).tenant = capture.tenant ∧
    (update capture).candidateSet = capture.candidateSet ∧
    (update capture).policyAuditRecorded = capture.policyAuditRecorded ∧
    (update capture).state = capture.state

theorem aside_note {update : Capture μ → Capture μ} (h : Plain update) (m : Memory μ) :
    Aside m { m with own := update m.own } := by
  obtain ⟨hrequestId, htenant, hcandidateSet, hrecorded, -⟩ := h m.own
  exact ⟨rfl, rfl, rfl, rfl, hrequestId, htenant, hcandidateSet, hrecorded⟩

section Rules

variable {p : Pledge engineInterface (Memory μ)} {m : Memory μ}
  {post : Memory μ → Except Raised β → Prop}

/-- A look at the loop clock, and then the rest. -/
theorem keeps_deadlinePassed_bind {next : Bool → Routine μ β}
    (h : ∀ late, (next late).keeps p post m) :
    (Routine.deadlinePassed >>= next).keeps p post m := by
  rw [Routine.deadlinePassed, Routine.loopTime, bind_assoc]
  apply Coro.keeps_ask_bind_local rfl
  intro now
  rw [bind_assoc]
  exact h _

/-- A question to the gateway, and then the rest. -/
theorem keeps_askGateway_bind {response : String} {next : Except PyException String → Routine μ β}
    (h : ∀ reply, (next reply).keeps p post m) :
    (Routine.askGateway response >>= next).keeps p post m :=
  Coro.keeps_ask_bind_local rfl h

/-- Raising one of the engine's errors. -/
theorem keeps_fail {kind : RoutingErrorKind} {failure : TerminalFailure}
    (h : ∀ raised, post m (.error raised)) : (Routine.fail kind failure).keeps p post m := by
  rw [Routine.fail]
  apply Coro.keeps_get_bind
  cases buildDiagnostics m.shared.registry m.own failure with
  | none => exact h _
  | some diagnostics => exact h _

theorem keeps_guardFired_bind {state : ConversationState} {next : Bool → Routine μ β}
    (h : (next (retryGuardFired m.shared.registry state)).keeps p post m) :
    (Routine.guardFired state >>= next).keeps p post m := by
  rw [Routine.guardFired, bind_assoc]
  apply Coro.keeps_get_bind
  rwa [pure_bind]

end Rules

section Pieces

variable [Metric μ] {steady : Prop} {call : HandleCall} {chosen : Option (CandidateSet μ)}
  {state : ConversationState} {m : Memory μ} {post : Memory μ → Except Raised β → Prop}

theorem StillResolves.aside {m' : Memory μ} (h : StillResolves call m) (haside : Aside m m')
    (hstate : m'.own.state = m.own.state) : StillResolves call m' := by
  rw [StillResolves, haside.registry, haside.governance, haside.policies, haside.tenant,
    haside.candidateSet, hstate]
  exact h

namespace Working

omit [Metric μ] in
theorem note (h : Working steady call chosen state m) {update : Capture μ → Capture μ}
    (hplain : Plain update) : Working steady call chosen state { m with own := update m.own } where
  audited := h.audited.aside (aside_note hplain m)
  candidateSet_eq := by
    rw [(aside_note hplain m).candidateSet, h.candidateSet_eq]
  state_eq := by
    rw [← h.state_eq]
    exact (hplain m.own).2.2.2.2

theorem resumes (h : Working steady call chosen state m) {m' : Memory μ} {query : EngineQuery}
    {reply : engineInterface.Reply query}
    (hresumes : (auditPledge steady call).resumes query reply m m') :
    Working steady call chosen state m' where
  audited := h.audited.drift hresumes.1.1 hresumes.1.2
  candidateSet_eq := by rw [hresumes.1.1, h.candidateSet_eq]
  state_eq := by rw [hresumes.1.1, h.state_eq]

/-- A note, and then the rest. -/
theorem note_bind (hm : Working steady call chosen state m) {update : Capture μ → Capture μ}
    {next : Unit → Routine μ β} (hplain : Plain update)
    (h : ∀ m', Working steady call chosen state m' → Aside m m' →
      (next ()).keeps (auditPledge steady call) post m') :
    (Routine.note update >>= next).keeps (auditPledge steady call) post m :=
  Coro.keeps_modify_bind (fun _ _ => rfl) (h _ (hm.note hplain) (aside_note hplain m))

/-- A question to a router, and then the rest. -/
theorem askRouter_bind {tier : RouterTier} {request : RouterRequest}
    {next : Except Interruption RawDecision → Routine μ β} (hm : Working steady call chosen state m)
    (h : ∀ reply m', Working steady call chosen state m' →
      (steady → retryAsked (.decide tier request) reply = true → StillResolves call m') →
        (next reply).keeps (auditPledge steady call) post m') :
    (Routine.askRouter tier request >>= next).keeps (auditPledge steady call) post m :=
  Coro.keeps_ask_bind rfl ⟨hm.audited, trivial⟩ fun reply m' hresumes =>
    h reply m' (hm.resumes hresumes) hresumes.2

/-- A question to a provider out of the candidate set, and then the rest. -/
theorem askProvider_bind {providerId : String} {request : ProviderRequest}
    {next : Except Interruption String → Routine μ β} (hm : Working steady call chosen state m)
    (hoffered : Offered call m (.dispatch providerId request))
    (h : ∀ reply m', Working steady call chosen state m' →
      (next reply).keeps (auditPledge steady call) post m') :
    (Routine.askProvider providerId request >>= next).keeps (auditPledge steady call) post m :=
  Coro.keeps_ask_bind rfl ⟨hm.audited, hoffered⟩ fun reply m' hresumes =>
    h reply m' (hm.resumes hresumes)

/-- After the ladder the request works on as before. If it may try again, the router's reply
has met what the pledge counts on. -/
theorem climb {request : RouterRequest} (tiers : List RouterTier) (blocked : List Backend)
    (hm : Working steady call chosen state m) :
    (Routine.climb request tiers blocked).keeps (auditPledge steady call) (fun m' out =>
      Working steady call chosen state m' ∧ ∀ result, out = .ok result → steady →
        result.1.action = .retry → StillResolves call m') m := by
  induction tiers generalizing blocked m with
  | nil =>
      apply keeps_fail
      intro raised
      exact ⟨hm, fun result h => by cases h⟩
  | cons tier rest ih =>
      rw [Routine.climb]
      refine hm.note_bind (fun _ => ⟨rfl, rfl, rfl, rfl, rfl⟩) fun m₁ hm₁ _ => ?_
      refine askRouter_bind hm₁ fun reply m₂ hm₂ hagain => ?_
      cases hjudged : Routine.judged request reply with
      | ok decision =>
          refine hm₂.note_bind (fun _ => ⟨rfl, rfl, rfl, rfl, rfl⟩) fun m₃ hm₃ haside => ?_
          refine ⟨hm₃, ?_⟩
          intro result hresult hsteady hretry
          cases hresult
          have hasked : retryAsked (.decide tier request) reply = true := by
            rw [retryAsked, hjudged]
            exact decide_eq_true hretry
          apply (hagain hsteady hasked).aside haside
          rw [hm₃.state_eq, hm₂.state_eq]
      | error interruption =>
          cases interruption with
          | cancelled byDeadline =>
              apply keeps_deadlinePassed_bind
              intro late
              refine hm₂.note_bind (fun _ => ⟨rfl, rfl, rfl, rfl, rfl⟩) fun m₃ hm₃ _ => ?_
              exact ⟨hm₃, fun result h => by cases h⟩
          | raised error =>
              refine hm₂.note_bind (fun _ => ⟨rfl, rfl, rfl, rfl, rfl⟩) fun m₃ hm₃ _ => ?_
              exact ih _ hm₃

end Working

theorem keeps_remember_bind {next : Unit → Routine μ β}
    (h : ∀ m', Aside m m' → m'.own.state = some state →
      (next ()).keeps (auditPledge steady call) post m') :
    (Routine.remember state >>= next).keeps (auditPledge steady call) post m :=
  Coro.keeps_modify_bind (fun _ _ => rfl) (h _ ⟨rfl, rfl, rfl, rfl, rfl, rfl, rfl, rfl⟩ rfl)

theorem keeps_writeBack (tenantId : String) :
    (Routine.writeBack state tenantId).keeps (auditPledge steady call)
      (fun m' _ => Aside m m' ∧ m'.own = m.own) m := by
  rw [Routine.writeBack]
  apply Coro.keeps_get_bind
  cases m.shared.conversations.update state tenantId with
  | none => exact ⟨.refl m, rfl⟩
  | some conversations =>
      exact ⟨fun _ _ => rfl, ⟨rfl, rfl, rfl, rfl, rfl, rfl, rfl, rfl⟩, rfl⟩

theorem keeps_storeState (tenantId : String) :
    (Routine.storeState state tenantId).keeps (auditPledge steady call)
      (fun m' _ => Aside m m' ∧ m'.own.state = some state) m := by
  rw [Routine.storeState]
  apply keeps_remember_bind
  intro m₁ haside hstate
  apply Coro.keeps_mono (keeps_writeBack tenantId)
  intro m₂ out hout
  refine ⟨haside.trans hout.1, ?_⟩
  rw [hout.2, hstate]

/-- Writing a record back, and then the rest. -/
theorem keeps_storeState_bind {tenantId : String} {next : Unit → Routine μ β}
    (h : ∀ m', Aside m m' → m'.own.state = some state →
      (next ()).keeps (auditPledge steady call) post m')
    (hraised : ∀ m' raised, Aside m m' → post m' (.error raised)) :
    (Routine.storeState state tenantId >>= next).keeps (auditPledge steady call) post m :=
  Coro.keeps_bind (keeps_storeState tenantId) (fun _ m' hm' => h m' hm'.1 hm'.2)
    fun raised m' hm' => hraised m' raised hm'.1

theorem keeps_excludeLast (tenantId : String) :
    (Routine.excludeLast state tenantId).keeps (auditPledge steady call)
      (fun m' out => Aside m m' ∧ ∀ excluded, out = .ok excluded → excluded = state.excludeLast)
      m := by
  rw [Routine.excludeLast, ConversationState.excludeLast]
  cases state.lastProvider with
  | none =>
      refine ⟨.refl m, ?_⟩
      intro excluded hexcluded
      cases hexcluded
      rfl
  | some providerId =>
      apply keeps_storeState_bind
      · intro m' haside _
        refine ⟨haside, ?_⟩
        intro excluded hexcluded
        cases hexcluded
        rfl
      · intro m' raised haside
        exact ⟨haside, fun excluded h => by cases h⟩

/-- A retry that is not stopped has counted one more attempt, and no guard fires on it. -/
theorem keeps_prepareRetry (tenantId : String) :
    (Routine.prepareRetry state tenantId).keeps (auditPledge steady call)
      (fun m' out => Aside m m' ∧ ∀ retried, out = .ok (false, retried) →
        retried = state.retried ∧ m'.own.state = some retried ∧
          retryGuardFired m.shared.registry retried = false) m := by
  rw [Routine.prepareRetry]
  apply keeps_guardFired_bind
  cases retryGuardFired m.shared.registry state with
  | true => exact ⟨.refl m, fun retried h => by cases h⟩
  | false =>
      apply Coro.keeps_bind (keeps_excludeLast tenantId)
      · intro excluded m₁ hm₁
        obtain ⟨haside₁, hexcluded⟩ := hm₁
        have hcounted : excluded.incrementAttempt = state.retried := by
          rw [hexcluded excluded rfl, ConversationState.retried]
        apply keeps_storeState_bind
        · intro m₂ haside₂ hstate
          have haside := haside₁.trans haside₂
          apply keeps_guardFired_bind
          refine ⟨haside, ?_⟩
          intro retried hretried
          obtain ⟨hguard, rfl⟩ := Prod.mk.inj (Except.ok.inj hretried)
          rw [haside.registry] at hguard
          exact ⟨hcounted, hstate, hguard⟩
        · intro m₂ raised haside₂
          exact ⟨haside₁.trans haside₂, fun retried h => by cases h⟩
      · intro raised m₁ hm₁
        exact ⟨hm₁.1, fun retried h => by cases h⟩

namespace Working

theorem noteDispatchCancelled_bind {candidate : ProviderConfig μ}
    {pending : List (ProviderConfig μ)} {next : Unit → Routine μ β}
    (hm : Working steady call chosen state m)
    (h : ∀ m', Working steady call chosen state m' →
      (next ()).keeps (auditPledge steady call) post m') :
    (Routine.noteDispatchCancelled candidate pending >>= next).keeps (auditPledge steady call)
      post m := by
  rw [Routine.noteDispatchCancelled]
  simp only [bind_assoc]
  apply keeps_deadlinePassed_bind
  intro late
  refine hm.note_bind (fun _ => ⟨rfl, rfl, rfl, rfl, rfl⟩) fun m₁ hm₁ _ => ?_
  apply keeps_deadlinePassed_bind
  intro later
  cases later with
  | false => exact h m₁ hm₁
  | true =>
      refine hm₁.note_bind (fun _ => ⟨rfl, rfl, rfl, rfl, rfl⟩) fun m₂ hm₂ _ => ?_
      exact h m₂ hm₂

theorem commitAnswer (hm : Working steady call chosen state m) (candidate : ProviderConfig μ)
    (response : String) :
    (Routine.commitAnswer state call.tenantId candidate response).keeps (auditPledge steady call)
      (fun m' _ => Audited steady call m') m := by
  rw [Routine.commitAnswer]
  refine hm.note_bind (fun _ => ⟨rfl, rfl, rfl, rfl, rfl⟩) fun m₁ hm₁ _ => ?_
  apply keeps_askGateway_bind
  intro reply
  cases reply with
  | error error => exact keeps_fail fun _ => hm₁.audited
  | ok clean =>
      apply keeps_deadlinePassed_bind
      intro late
      cases late with
      | true => exact hm₁.audited
      | false =>
          apply keeps_storeState_bind
          · intro m₂ haside _
            exact hm₁.audited.aside haside
          · intro m₂ raised haside
            exact hm₁.audited.aside haside

/-- Whatever becomes of the candidates, the audit says the same. -/
theorem tryCandidates {request : ProviderRequest} (candidates : List (ProviderConfig μ))
    (blocked : List Backend) (lastError : Option PyException)
    (hm : Working steady call chosen state m)
    (hoffered : call.tenant.isSome → ∃ current, chosen = some current ∧
      ∀ candidate ∈ candidates, candidate.id ∈ current.ids) :
    (Routine.tryCandidates request state call.tenantId candidates blocked lastError).keeps
      (auditPledge steady call) (fun m' _ => Audited steady call m') m := by
  induction candidates generalizing blocked lastError m with
  | nil => exact keeps_fail fun _ => hm.audited
  | cons candidate rest ih =>
      have hrest : call.tenant.isSome → ∃ current, chosen = some current ∧
          ∀ candidate ∈ rest, candidate.id ∈ current.ids := by
        intro htenant
        obtain ⟨current, hchosen, hids⟩ := hoffered htenant
        exact ⟨current, hchosen, fun other hother => hids other (List.mem_cons_of_mem _ hother)⟩
      rw [Routine.tryCandidates]
      apply keeps_deadlinePassed_bind
      intro late
      cases late with
      | true => exact hm.audited
      | false =>
          by_cases hblocked : candidate.backend ∈ blocked
          · rw [if_neg Bool.false_ne_true, if_pos hblocked]
            refine hm.note_bind (fun _ => ⟨rfl, rfl, rfl, rfl, rfl⟩) fun m₁ hm₁ _ => ?_
            exact ih _ _ hm₁ hrest
          · rw [if_neg Bool.false_ne_true, if_neg hblocked]
            refine hm.note_bind (fun _ => ⟨rfl, rfl, rfl, rfl, rfl⟩) fun m₁ hm₁ _ => ?_
            refine hm₁.askProvider_bind ?_ fun reply m₂ hm₂ => ?_
            · intro htenant
              obtain ⟨current, hchosen, hids⟩ := hoffered htenant
              exact ⟨current, hm₁.candidateSet_eq.trans hchosen, hids _ List.mem_cons_self⟩
            · cases reply with
              | ok response => exact hm₂.commitAnswer candidate response
              | error interruption =>
                  cases interruption with
                  | cancelled byDeadline =>
                      refine hm₂.noteDispatchCancelled_bind fun m₃ hm₃ => ?_
                      exact hm₃.audited
                  | raised error =>
                      cases hcontrolled : Routine.isControlled error with
                      | true =>
                          simp only [hcontrolled, if_true]
                          refine hm₂.note_bind (fun _ => ⟨rfl, rfl, rfl, rfl, rfl⟩)
                            fun m₃ hm₃ _ => ?_
                          exact ih _ _ hm₃ hrest
                      | false =>
                          simp only [hcontrolled, Bool.false_eq_true, if_false]
                          refine hm₂.note_bind (fun _ => ⟨rfl, rfl, rfl, rfl, rfl⟩)
                            fun m₃ hm₃ _ => ?_
                          exact hm₃.audited

theorem executeWithFallback {request : ProviderRequest} {candidates : List (ProviderConfig μ)}
    (blocked : List Backend) (hm : Working steady call chosen state m)
    (hoffered : call.tenant.isSome → ∃ current, chosen = some current ∧
      ∀ candidate ∈ candidates, candidate.id ∈ current.ids) :
    (Routine.executeWithFallback candidates request state call.tenantId blocked).keeps
      (auditPledge steady call) (fun m' _ => Audited steady call m') m := by
  cases candidates with
  | nil =>
      rw [Routine.executeWithFallback]
      exact hm.tryCandidates [] blocked none hoffered
  | cons first rest =>
      rw [Routine.executeWithFallback]
      refine hm.note_bind (fun _ => ⟨rfl, rfl, rfl, rfl, rfl⟩) fun m₁ hm₁ _ => ?_
      exact hm₁.tryCandidates (first :: rest) blocked none hoffered

end Working

end Pieces

end LLMRouting
