/-
# The audit in every run

The loop of a request resolves candidates in each of its iterations; whether the one audit
reference fits the candidate set of a later iteration depends on what the control plane
resolves when a router lets the request try again. This module carries the pledge of the
audit through the loop and the whole call, and from there to every interleaving of calls with
changes to the control plane.
-/

import LLMRouting.Routing.Crew
import LLMRouting.Routing.PolicyAudit

namespace LLMRouting

open LLMRouting.Interaction

variable {μ α β : Type}

section Call

variable [Metric μ] {engine : RoutingEngine} {steady : Prop} {call : HandleCall}
  {state : ConversationState} {m : Memory μ}

/-- A request may enter an iteration: under a steady control plane, what it resolves there
is what it works with already. -/
structure Ready (steady : Prop) (call : HandleCall) (state : ConversationState) (m : Memory μ) :
    Prop where
  audited : Audited steady call m
  state_eq : m.own.state = some state
  settled : steady → ∀ tenant ∈ m.own.tenant, ∀ current ∈ m.own.candidateSet,
    ∀ again ∈ (resolveCandidateSet m.shared.registry m.shared.governance m.shared.policies tenant
      call.context state.excludedProviders).toOption, again.Within current

theorem Ready.aside {m' : Memory μ} (h : Ready steady call state m) (haside : Aside m m')
    (hstate : m'.own.state = some state) : Ready steady call state m' where
  audited := h.audited.aside haside
  state_eq := hstate
  settled := by
    rw [haside.registry, haside.governance, haside.policies, haside.tenant, haside.candidateSet]
    exact h.settled

/-- The candidate set a request has just resolved is in force, and the audit has one
reference. -/
theorem Ready.record (hm : Ready steady call state m)
    (haudit : engine.policyAuditRepository = true) {tenant : TenantContext}
    {candidateSet : CandidateSet μ} (htenant : m.own.tenant = some tenant)
    (hresolved : resolveCandidateSet m.shared.registry m.shared.governance m.shared.policies tenant
      call.context state.excludedProviders = .ok candidateSet) :
    (Routine.recordPolicyAudit engine tenant candidateSet).keeps (auditPledge steady call)
      (fun m' _ => Audited steady call m' ∧ m'.own.state = some state ∧
        m'.own.candidateSet = some candidateSet)
      { m with own := { m.own with candidateSet := some candidateSet } } := by
  have hcall : call.tenant = some tenant := by rw [← hm.audited.tenant_eq, htenant]
  have hid := hm.audited.requestId_eq
  rw [Routine.recordPolicyAudit]
  apply Coro.keeps_get_bind
  by_cases hrecorded : m.own.policyAuditRecorded = false
  · have hnone : m.own.candidateSet = none := by
      cases hcandidateSet : m.own.candidateSet with
      | none => rfl
      | some current =>
          have hset := (hm.audited.recorded current hcandidateSet).1
          rw [hrecorded] at hset
          cases hset
    have hempty := (hm.audited.unresolved hnone).2
    rw [if_pos ⟨hrecorded, haudit⟩]
    refine Coro.keeps_modify_bind ?_ ⟨fun _ _ => rfl, ?_, hm.state_eq, rfl⟩
    · intro requestId hother
      apply PolicyAuditRepository.references_append_of_ne
      show requestId ≠ m.own.requestId
      rw [hid]
      exact hother
    · refine ⟨hid, hm.audited.tenant_eq, fun h => (by cases h), ?_⟩
      rintro current ⟨⟩
      let reference := candidateSet.reference call.requestId tenant
      refine ⟨rfl, tenant, reference, hcall, rfl, ?_, fun _ => candidateSet.covers_reference _ _⟩
      show (m.shared.audit.append (candidateSet.reference m.own.requestId tenant)).references
        reference.requestId = [reference]
      rw [hid, PolicyAuditRepository.references_append_self]
      show m.shared.audit.references call.requestId ++ [reference] = [reference]
      rw [hempty, List.nil_append]
  · rw [if_neg fun h => hrecorded h.1]
    refine ⟨?_, hm.state_eq, rfl⟩
    cases hcandidateSet : m.own.candidateSet with
    | none => exact absurd (hm.audited.unresolved hcandidateSet).1 hrecorded
    | some current =>
        obtain ⟨hset, tenant', reference, htenant', htenantId, hreferences, hcovers⟩ :=
          hm.audited.recorded current hcandidateSet
        refine ⟨hid, hm.audited.tenant_eq, fun h => (by cases h), ?_⟩
        rintro again ⟨⟩
        refine ⟨hset, tenant', reference, htenant', htenantId, hreferences, ?_⟩
        intro hsteady
        have hagain := hm.settled hsteady tenant htenant current hcandidateSet candidateSet
          (by rw [hresolved]; rfl)
        exact (hcovers hsteady).within hagain

/-- Every iteration resolves its candidates; a tenant's request works with them. -/
theorem Ready.resolveCandidates (hm : Ready steady call state m)
    (hresolver : engine.candidateResolver = true) (haudit : engine.policyAuditRepository = true) :
    (Routine.resolveCandidates engine call.context state.excludedProviders).keeps
      (auditPledge steady call) (fun m' out => Audited steady call m' ∧
        m'.own.state = some state ∧ ∀ candidateSet, out = .ok candidateSet →
          call.tenant.isSome → m'.own.candidateSet = some candidateSet) m := by
  rw [Routine.resolveCandidates]
  apply Coro.keeps_get_bind
  rw [hresolver]
  cases htenant : m.own.tenant with
  | none =>
      refine ⟨hm.audited, hm.state_eq, ?_⟩
      intro candidateSet _ hsome
      rw [← hm.audited.tenant_eq, htenant] at hsome
      cases hsome
  | some tenant =>
      dsimp only
      cases hresolved : resolveCandidateSet m.shared.registry m.shared.governance m.shared.policies
          tenant call.context state.excludedProviders with
      | error error =>
          have hraised : ∀ raised : Raised, Audited steady call m ∧ m.own.state = some state ∧
              ∀ candidateSet, (.error raised : Except Raised (CandidateSet μ)) = .ok candidateSet →
                call.tenant.isSome → m.own.candidateSet = some candidateSet :=
            fun raised => ⟨hm.audited, hm.state_eq, fun _ h => by cases h⟩
          cases error with
          | policyNotFound policyId => exact hraised _
          | unexpected error => exact hraised _
      | ok candidateSet =>
          refine Coro.keeps_modify_bind (fun _ _ => rfl) ?_
          apply Coro.keeps_bind (hm.record haudit htenant hresolved)
          · intro _ m' hm'
            obtain ⟨haudited, hstate, hcurrent⟩ := hm'
            refine ⟨haudited, hstate, ?_⟩
            intro other hother _
            cases hother
            exact hcurrent
          · intro raised m' hm'
            exact ⟨hm'.1, hm'.2.1, fun _ h => by cases h⟩

/-- What a request does with a decision. -/
theorem Working.followDecision {chosen : Option (CandidateSet μ)} {allowedIds : List String}
    {blocked : List Backend} {decision : RouterDecision}
    {next : ConversationState → List Backend → Routine μ RoutingResponse}
    (hm : Working steady call chosen state m)
    (hallowed : call.tenant.isSome → ∃ current, chosen = some current ∧ allowedIds = current.ids)
    (hagain : steady → decision.action = .retry → StillResolves call m)
    (hnext : ∀ m' blocked', Ready steady call state.retried m' →
      (next state.retried blocked').keeps (auditPledge steady call)
        (fun m' _ => Audited steady call m') m') :
    (Routine.followDecision call state allowedIds blocked next decision).keeps
      (auditPledge steady call) (fun m' _ => Audited steady call m') m := by
  rw [Routine.followDecision]
  split
  · rename_i hretry
    apply Coro.keeps_bind (keeps_prepareRetry call.tenantId)
    · intro result m₁ hm₁
      obtain ⟨stopped, retried⟩ := result
      obtain ⟨haside, hcounted⟩ := hm₁
      cases stopped with
      | true => exact hm.audited.aside haside
      | false =>
          obtain ⟨hretried, hstate, hguard⟩ := hcounted retried rfl
          rw [hretried] at hstate hguard ⊢
          apply hnext
          refine ⟨hm.audited.aside haside, hstate, ?_⟩
          intro hsteady
          rw [haside.registry, haside.governance, haside.policies, haside.tenant,
            haside.candidateSet]
          intro tenant htenant current hcurrent
          exact hagain hsteady hretry tenant htenant current hcurrent state hm.state_eq hguard
    · intro raised m₁ hm₁
      exact hm.audited.aside hm₁.1
  · exact hm.audited
  · exact hm.audited
  · refine hm.note_bind (fun _ => ⟨rfl, rfl, rfl, rfl, rfl⟩) fun m₁ hm₁ _ => ?_
    apply Coro.keeps_get_bind
    apply hm₁.executeWithFallback
    intro htenant
    obtain ⟨current, hchosen, hids⟩ := hallowed htenant
    refine ⟨current, hchosen, ?_⟩
    intro candidate hcandidate
    rw [← hids]
    have heligible := (Registry.candidatesFor_perm _ _ _ _ _ _).mem_iff.mp hcandidate
    exact decide_eq_true_iff.mp (Registry.mem_eligibleProviders_iff.mp heligible).2.2.2.2.1

/-- One iteration of the loop. -/
theorem Ready.routeBody (hresolver : engine.candidateResolver = true)
    (haudit : engine.policyAuditRepository = true) {blocked : List Backend}
    {next : ConversationState → List Backend → Routine μ RoutingResponse}
    (hm : Ready steady call state m)
    (hnext : ∀ m' blocked', Ready steady call state.retried m' →
      (next state.retried blocked').keeps (auditPledge steady call)
        (fun m' _ => Audited steady call m') m') :
    (Routine.routeBody engine call next state blocked).keeps (auditPledge steady call)
      (fun m' _ => Audited steady call m') m := by
  rw [Routine.routeBody]
  apply keeps_guardFired_bind
  cases retryGuardFired m.shared.registry state with
  | true => exact hm.audited
  | false =>
      have hready : Ready steady call state
          { m with own := { m.own with stage := .governance } } :=
        hm.aside ⟨rfl, rfl, rfl, rfl, rfl, rfl, rfl, rfl⟩ hm.state_eq
      refine Coro.keeps_modify_bind (fun _ _ => rfl) ?_
      apply Coro.keeps_bind (hready.resolveCandidates hresolver haudit)
      · intro candidateSet m₁ hm₁
        obtain ⟨haudited, hstate, hcurrent⟩ := hm₁
        have hworking : Working steady call m₁.own.candidateSet state m₁ := ⟨haudited, rfl, hstate⟩
        by_cases hids : candidateSet.ids = []
        · rw [if_pos hids]
          exact keeps_fail fun _ => haudited
        · rw [if_neg hids]
          apply Coro.keeps_get_bind
          refine hworking.note_bind (fun _ => ⟨rfl, rfl, rfl, rfl, rfl⟩) fun m₂ hm₂ _ => ?_
          apply Coro.keeps_bind (hm₂.climb _ _)
          · intro result m₃ hm₃
            apply hm₃.1.followDecision _ (hm₃.2 result rfl) hnext
            intro htenant
            exact ⟨candidateSet, hcurrent candidateSet rfl htenant, rfl⟩
          · intro raised m₃ hm₃
            exact hm₃.1.audited
      · intro raised m₁ hm₁
        exact hm₁.1

/-- The loop; its cut-off is an end like any other. -/
theorem Ready.routeLoop (hresolver : engine.candidateResolver = true)
    (haudit : engine.policyAuditRepository = true) (rounds : ℕ) (blocked : List Backend)
    (hm : Ready steady call state m) :
    (Routine.routeLoop engine call rounds state blocked).keeps (auditPledge steady call)
      (fun m' _ => Audited steady call m') m := by
  induction rounds generalizing state blocked m with
  | zero =>
      apply hm.routeBody hresolver haudit
      intro m' blocked' hm'
      exact hm'.audited
  | succ rounds ih =>
      apply hm.routeBody hresolver haudit
      intro m' blocked' hm'
      exact ih blocked' hm'

/-- A request that has not resolved its candidates yet. -/
structure Unresolved (call : HandleCall) (m : Memory μ) : Prop where
  requestId_eq : m.own.requestId = call.requestId
  tenant_eq : m.own.tenant = call.tenant
  candidateSet_eq : m.own.candidateSet = none
  unrecorded : m.own.policyAuditRecorded = false
  absent : m.shared.audit.references call.requestId = []

namespace Unresolved

omit [Metric μ] in
theorem aside {m' : Memory μ} (h : Unresolved call m) (haside : Aside m m') :
    Unresolved call m' where
  requestId_eq := haside.requestId.trans h.requestId_eq
  tenant_eq := haside.tenant.trans h.tenant_eq
  candidateSet_eq := haside.candidateSet.trans h.candidateSet_eq
  unrecorded := haside.recorded.trans h.unrecorded
  absent := by rw [haside.audit, h.absent]

omit [Metric μ] in
theorem audited (h : Unresolved call m) : Audited steady call m where
  requestId_eq := h.requestId_eq
  tenant_eq := h.tenant_eq
  unresolved _ := ⟨h.unrecorded, h.absent⟩
  recorded current hcurrent := by
    rw [h.candidateSet_eq] at hcurrent
    cases hcurrent

theorem ready (h : Unresolved call m) (hstate : m.own.state = some state) :
    Ready steady call state m where
  audited := h.audited
  state_eq := hstate
  settled _ tenant _ current hcurrent := by
    rw [h.candidateSet_eq] at hcurrent
    cases hcurrent

end Unresolved

theorem Audited.attachDiagnostics (hm : Audited steady call m) (response : RoutingResponse) :
    (Routine.attachDiagnostics call response).keeps (auditPledge steady call)
      (fun m' _ => Audited steady call m') m := by
  rw [Routine.attachDiagnostics]
  split
  · exact hm
  · apply Coro.keeps_get_bind
    cases buildDiagnostics m.shared.registry m.own {} with
    | none => exact hm
    | some diagnostics => exact hm

theorem Unresolved.routeAndAttach (hresolver : engine.candidateResolver = true)
    (haudit : engine.policyAuditRepository = true) (hm : Unresolved call m) :
    (Routine.routeAndAttach engine call state).keeps (auditPledge steady call)
      (fun m' _ => Audited steady call m') m := by
  rw [Routine.routeAndAttach]
  apply keeps_remember_bind
  intro m₁ haside hstate
  apply Coro.keeps_bind (((hm.aside haside).ready hstate).routeLoop hresolver haudit _ _)
  · intro response m₂ hm₂
    exact hm₂.attachDiagnostics response
  · intro raised m₂ hm₂
    exact hm₂

theorem Unresolved.handleRetry (hresolver : engine.candidateResolver = true)
    (haudit : engine.policyAuditRepository = true) (hm : Unresolved call m) :
    (Routine.handleRetry engine call).keeps (auditPledge steady call)
      (fun m' _ => Audited steady call m') m := by
  rw [Routine.handleRetry]
  apply Coro.keeps_get_bind
  cases m.shared.conversations.load call.request.conversationId call.tenantId with
  | none => exact hm.audited
  | some stored =>
      apply keeps_remember_bind
      intro m₁ haside₁ _
      by_cases himage : stored.hasImage = true ∧ call.hasImage = false
      · rw [if_pos himage]
        exact keeps_fail fun _ => (hm.aside haside₁).audited
      · rw [if_neg himage]
        apply keeps_remember_bind
        intro m₂ haside₂ _
        have hm₂ := (hm.aside haside₁).aside haside₂
        apply Coro.keeps_bind (keeps_prepareRetry call.tenantId)
        · intro result m₃ hm₃
          obtain ⟨stopped, retried⟩ := result
          cases stopped with
          | true => exact (hm₂.aside hm₃.1).audited.attachDiagnostics _
          | false => exact (hm₂.aside hm₃.1).routeAndAttach hresolver haudit
        · intro raised m₃ hm₃
          exact (hm₂.aside hm₃.1).audited

theorem keeps_loadOrCreate :
    (Routine.loadOrCreate engine call).keeps (auditPledge steady call)
      (fun m' _ => Aside m m') m := by
  rw [Routine.loadOrCreate]
  apply Coro.keeps_get_bind
  cases m.shared.conversations.load call.request.conversationId call.tenantId with
  | none => exact ⟨fun _ _ => rfl, rfl, rfl, rfl, rfl, rfl, rfl, rfl, rfl⟩
  | some stored => exact .refl m

theorem Unresolved.handleMessage (hresolver : engine.candidateResolver = true)
    (haudit : engine.policyAuditRepository = true) (hm : Unresolved call m) :
    (Routine.handleMessage engine call).keeps (auditPledge steady call)
      (fun m' _ => Audited steady call m') m := by
  rw [Routine.handleMessage]
  apply Coro.keeps_bind keeps_loadOrCreate
  · intro stored m₁ haside₁
    apply Coro.keeps_bind (keeps_writeBack call.tenantId)
    · intro _ m₂ hm₂
      exact ((hm.aside haside₁).aside hm₂.1).routeAndAttach hresolver haudit
    · intro raised m₂ hm₂
      exact ((hm.aside haside₁).aside hm₂.1).audited
  · intro raised m₁ haside₁
    exact (hm.aside haside₁).audited

theorem Audited.translate (hm : Audited steady call m) (raised : Raised) :
    (Routine.translate raised).keeps (auditPledge steady call)
      (fun m' _ => Audited steady call m') m := by
  cases raised with
  | cancelled byDeadline =>
      cases byDeadline with
      | true => exact keeps_fail fun _ => hm
      | false => exact hm
  | routing error => exact hm
  | conversationNotFound conversationId => exact hm
  | policyNotFound policyId => exact hm
  | exception error =>
      rw [Routine.translate]
      split
      · exact keeps_fail fun _ => hm
      · apply Coro.keeps_get_bind
        exact keeps_fail fun _ => hm

/-- A call whose request id is new to the audit keeps its pledge. -/
theorem keeps_handle (hresolver : engine.candidateResolver = true)
    (haudit : engine.policyAuditRepository = true)
    (hfresh : m.shared.audit.references call.requestId = []) :
    (Routine.handle engine call).keeps (auditPledge steady call)
      (fun m' _ => Audited steady call m') m := by
  rw [Routine.handle]
  apply Coro.keeps_ask_bind_local rfl
  intro now
  refine Coro.keeps_modify_bind (fun _ _ => rfl) ?_
  have hm : Unresolved call { m with own := Routine.newCapture engine call now } :=
    ⟨rfl, rfl, rfl, rfl, hfresh⟩
  have hbody : (Routine.handleBody engine call).keeps (auditPledge steady call)
      (fun m' _ => Audited steady call m')
      { m with own := Routine.newCapture engine call now } := by
    rw [Routine.handleBody]
    split
    · exact hm.handleRetry hresolver haudit
    · exact hm.handleMessage hresolver haudit
  have hresult : (Routine.handleBody engine call).attempt.keeps (auditPledge steady call)
      (fun m' (_ : Except Raised (Except Raised RoutingResponse)) => Audited steady call m')
      { m with own := Routine.newCapture engine call now } := by
    apply Coro.keeps_attempt
    exact hbody
  apply Coro.keeps_bind hresult
  · intro result m' hm'
    cases result with
    | ok response => exact hm'
    | error raised => exact hm'.translate raised
  · intro raised m' hm'
    exact hm'

end Call

section Runs

variable [Metric μ] {engine : RoutingEngine} {steady : Prop} {pool pool' : EnginePool μ}
  {move : EngineMove μ} {moves : List (EngineMove μ)}

/-- The moves of an application: a call brings a request id of its own, and the audit log is
left to the calls. -/
def AuditMove (pool : EnginePool μ) : EngineMove μ → Prop
  | .start call _ => (∀ reference ∈ pool.shared.audit.records,
      reference.requestId ≠ call.requestId) ∧
      ∀ seat ∈ pool.seats, seat.label.requestId ≠ call.requestId
  | .resume _ _ => True
  | .disturb update => (update pool.shared).audit.records = pool.shared.audit.records

/-- No call is told to try again while the control plane resolves for it anything beyond what
it works with. -/
def SteadyMove (pool : EnginePool μ) : EngineMove μ → Prop
  | .resume index oracle => ∀ seat ∈ pool.seats[index]?, ∀ query ∈ awaited? seat,
      retryAsked query (oracle 0 query) = true →
        StillResolves seat.label ⟨pool.shared, seat.own⟩
  | .start _ _ | .disturb _ => True

/-- The references under a call's request id and tenant. -/
def ownReferences (pool : EnginePool μ) (seat : EngineSeat μ) (tenant : TenantContext) :
    List (PolicyAuditReference μ) :=
  (pool.shared.audit.list tenant.tenantId).filter fun reference =>
    decide (reference.requestId = seat.label.requestId)

/-- A tenant's call that has resolved candidates has left exactly one reference. -/
def RecordedOnce (pool : EnginePool μ) (seat : EngineSeat μ) : Prop :=
  ∀ tenant ∈ seat.label.tenant, seat.own.candidateSet.isSome →
    ∃ reference, ownReferences pool seat tenant = [reference]

/-- What a tenant's call dispatches is in the candidate set it works with and in its
reference, which was made under the same policies. -/
def DispatchRecorded (pool : EnginePool μ) (seat : EngineSeat μ) : Prop :=
  ∀ tenant ∈ seat.label.tenant, ∀ providerId request,
    awaited? seat = some (.dispatch providerId request) →
      ∃ current ∈ seat.own.candidateSet, providerId ∈ current.ids ∧
        ∃ reference, ownReferences pool seat tenant = [reference] ∧
          providerId ∈ reference.candidateIds ∧ reference.stamp = current.stamp

/-- Every call stands by its pledge, and no two have the same request id. -/
structure AuditInvariant (steady : Prop) (pool : EnginePool μ) : Prop where
  kept : pool.Kept (auditPledge steady)
  distinct : (pool.seats.map fun seat => seat.label.requestId).Nodup

theorem references_of_guaranteed {call : HandleCall} {m m' : Memory μ} {requestId : String}
    (h : Relation.ReflTransGen (auditPledge steady call).guar m m')
    (hother : requestId ≠ call.requestId) :
    m'.shared.audit.references requestId = m.shared.audit.references requestId := by
  induction h with
  | refl => rfl
  | tail _ hguar ih => exact (hguar requestId hother).trans ih

/-- What one call does is a drift to every other. -/
theorem AuditInvariant.drift (hpool : AuditInvariant steady pool) (hmove : AuditMove pool move)
    {index : ℕ} {seat : EngineSeat μ} {shared : World μ} (hseat : pool.seats[index]? = some seat)
    (hothers : ¬ Pool.Addresses move index)
    (hshift : Pool.Shift (engineCrew μ engine) (auditPledge steady) pool move shared) :
    (auditPledge steady seat.label).drift ⟨pool.shared, seat.own⟩ ⟨shared, seat.own⟩ := by
  refine ⟨rfl, ?_⟩
  show shared.audit.references seat.label.requestId =
    pool.shared.audit.references seat.label.requestId
  cases hshift with
  | started guaranteed =>
      exact references_of_guaranteed guaranteed (hmove.2 seat (List.mem_of_getElem? hseat))
  | @resumed other oracle moved m seated guaranteed =>
      apply references_of_guaranteed guaranteed
      intro hsame
      have hindex : (pool.seats.map fun seat => seat.label.requestId)[index]? =
          (pool.seats.map fun seat => seat.label.requestId)[other]? := by
        rw [List.getElem?_map, List.getElem?_map, hseat, seated, Option.map_some, Option.map_some,
          hsame]
      obtain ⟨hlt, -⟩ := List.getElem?_eq_some_iff.mp hseat
      have hequal := (List.getElem?_inj (by rwa [List.length_map]) hpool.distinct).mp hindex
      exact hothers ⟨oracle, by rw [hequal]⟩
  | disturbed =>
      show (PolicyAuditRepository.records _).filter _ = _
      rw [show _ = _ from hmove]
      rfl

/-- One move keeps the invariant, if the control plane is steady where a call counts on it. -/
theorem AuditInvariant.step (hresolver : engine.candidateResolver = true)
    (haudit : engine.policyAuditRepository = true) (hpool : AuditInvariant steady pool)
    (hmove : AuditMove pool move) (hsteady : steady → SteadyMove pool move)
    (h : pool.step (engineCrew μ engine) move = some pool') : AuditInvariant steady pool' := by
  have hadmits : Pool.Admits (engineCrew μ engine) (auditPledge steady) pool move := by
    cases move with
    | start call oracle =>
        apply keeps_handle hresolver haudit
        exact PolicyAuditRepository.references_eq_nil_iff.mpr hmove.1
    | resume index oracle =>
        intro seat query next hseat hstanding
        refine ⟨⟨rfl, rfl⟩, ?_⟩
        intro hholds hretry
        exact hsteady hholds seat hseat query (by rw [awaited?, hstanding]; rfl) hretry
    | disturb update => trivial
  constructor
  · apply hpool.kept.step hadmits _ h
    intro index seat shared hseat hothers hshift
    exact hpool.drift hmove hseat hothers hshift
  · have hlabels := congrArg (List.map HandleCall.requestId) (Pool.labels_of_step h)
    rw [List.map_append, List.map_map, List.map_map] at hlabels
    show (pool'.seats.map (HandleCall.requestId ∘ Seat.label)).Nodup
    rw [hlabels]
    cases move with
    | start call oracle =>
        apply List.Nodup.append hpool.distinct (List.nodup_singleton _)
        intro requestId hold hnew
        rw [List.mem_singleton.mp hnew] at hold
        obtain ⟨seat, hseat, hsame⟩ := List.mem_map.mp hold
        exact hmove.2 seat hseat hsame
    | resume index oracle =>
        rw [Move.started, List.map_nil, List.append_nil]
        exact hpool.distinct
    | disturb update =>
        rw [Move.started, List.map_nil, List.append_nil]
        exact hpool.distinct

omit [Metric μ] in
theorem AuditInvariant.empty [Metric μ] (world : World μ) :
    AuditInvariant steady (⟨world, []⟩ : EnginePool μ) where
  kept index seat hseat := by cases hseat
  distinct := List.nodup_nil

/-- Wherever a call stands, the audit says of it what it says of a request. -/
theorem AuditInvariant.audited (hpool : AuditInvariant steady pool) {seat : EngineSeat μ}
    (hseat : seat ∈ pool.seats) : Audited steady seat.label ⟨pool.shared, seat.own⟩ := by
  obtain ⟨index, hindex⟩ := List.getElem?_of_mem hseat
  have hstands := hpool.kept index seat hindex
  cases hstanding : seat.standing with
  | parked query next =>
      rw [hstanding] at hstands
      exact hstands.1.1
  | ended out =>
      rw [hstanding] at hstands
      exact hstands

omit [Metric μ] in
/-- The one reference under a request id is the one under its tenant. -/
theorem ownReferences_eq {seat : EngineSeat μ} {tenant : TenantContext}
    {reference : PolicyAuditReference μ} (htenantId : reference.tenantId = tenant.tenantId)
    (hreferences : pool.shared.audit.references seat.label.requestId = [reference]) :
    ownReferences pool seat tenant = [reference] := by
  rw [ownReferences, PolicyAuditRepository.list, List.filter_comm]
  show (pool.shared.audit.references seat.label.requestId).filter _ = [reference]
  rw [hreferences]
  simp [htenantId]

theorem AuditInvariant.recordedOnce (hpool : AuditInvariant steady pool) {seat : EngineSeat μ}
    (hseat : seat ∈ pool.seats) : RecordedOnce pool seat := by
  intro tenant htenant hresolved
  obtain ⟨current, hcurrent⟩ := Option.isSome_iff_exists.mp hresolved
  obtain ⟨-, tenant', reference, htenant', htenantId, hreferences, -⟩ :=
    (hpool.audited hseat).recorded current hcurrent
  have hsame : tenant' = tenant := Option.some.inj (htenant'.symm.trans htenant)
  rw [hsame] at htenantId
  exact ⟨reference, ownReferences_eq htenantId hreferences⟩

theorem AuditInvariant.dispatchRecorded (hpool : AuditInvariant True pool) {seat : EngineSeat μ}
    (hseat : seat ∈ pool.seats) : DispatchRecorded pool seat := by
  intro tenant htenant providerId request hawaited
  obtain ⟨index, hindex⟩ := List.getElem?_of_mem hseat
  have hstands := hpool.kept index seat hindex
  cases hstanding : seat.standing with
  | ended out =>
      rw [awaited?, hstanding] at hawaited
      cases hawaited
  | parked query next =>
      rw [awaited?, hstanding] at hawaited
      obtain rfl := Option.some.inj hawaited
      rw [hstanding] at hstands
      obtain ⟨⟨haudited, hoffered⟩, -⟩ := hstands
      have htenant' : seat.label.tenant = some tenant := htenant
      obtain ⟨current, hcurrent, hid⟩ := hoffered (by rw [htenant']; rfl)
      obtain ⟨-, tenant', reference, hsame, htenantId, hreferences, hcovers⟩ :=
        haudited.recorded current hcurrent
      rw [Option.some.inj (hsame.symm.trans htenant)] at htenantId
      refine ⟨current, hcurrent, hid, reference, ownReferences_eq htenantId hreferences, ?_⟩
      exact ⟨(hcovers trivial).1 hid, (hcovers trivial).2⟩

/-- The policy audit: every call that has resolved candidates has left one reference under its
request id and tenant; and as long as no call is told to try again while the control plane
resolves for it anything beyond what it works with, whatever is dispatched is in the call's
reference, under the policies it was resolved under. -/
theorem policy_audit (hresolver : engine.candidateResolver = true)
    (haudit : engine.policyAuditRepository = true) (world : World μ) :
    (∀ moves pool, Steps (Guarded (Pool.step (engineCrew μ engine)) AuditMove) ⟨world, []⟩ moves
      pool → ∀ seat ∈ pool.seats, RecordedOnce pool seat) ∧
    ∀ moves pool, Steps (Guarded (Pool.step (engineCrew μ engine)) fun pool move =>
      AuditMove pool move ∧ SteadyMove pool move) ⟨world, []⟩ moves pool →
        ∀ seat ∈ pool.seats, RecordedOnce pool seat ∧ DispatchRecorded pool seat := by
  constructor
  · intro moves pool hrun seat hseat
    have hpool : AuditInvariant False pool := hrun.invariant (.empty world)
      fun first move second hfirst hstep =>
        hfirst.step hresolver haudit hstep.2 False.elim hstep.1
    exact hpool.recordedOnce hseat
  · intro moves pool hrun seat hseat
    have hpool : AuditInvariant True pool := hrun.invariant (.empty world)
      fun first move second hfirst hstep =>
        hfirst.step hresolver haudit hstep.2.1 (fun _ => hstep.2.2) hstep.1
    exact ⟨hpool.recordedOnce hseat, hpool.dispatchRecorded hseat⟩

end Runs

instance {again current : CandidateSet μ} : Decidable (again.Within current) :=
  inferInstanceAs (Decidable (_ ∧ _))

instance [Metric μ] (call : HandleCall) (m : Memory μ) : Decidable (StillResolves call m) :=
  inferInstanceAs (Decidable (∀ tenant ∈ m.own.tenant, ∀ current ∈ m.own.candidateSet,
    ∀ state ∈ m.own.state, _ → ∀ again ∈ (_ : Option (CandidateSet μ)), _))

instance [Metric μ] (pool : EnginePool μ) (move : EngineMove μ) :
    Decidable (AuditMove pool move) :=
  match move with
  | .start _ _ => inferInstanceAs (Decidable (_ ∧ _))
  | .resume _ _ => isTrue trivial
  | .disturb update => inferInstanceAs (Decidable ((update pool.shared).audit.records = _))

instance [Metric μ] (pool : EnginePool μ) (move : EngineMove μ) :
    Decidable (SteadyMove pool move) :=
  match move with
  | .start _ _ | .disturb _ => isTrue trivial
  | .resume _ _ => inferInstanceAs (Decidable (∀ seat ∈ _, ∀ query ∈ _, _ → _))

/-- The references of a tenant's calls are faithful, whenever the control plane is written
to. -/
def AuditFaithful (μ : Type) [Metric μ] (engine : RoutingEngine) : Prop :=
  ∀ (world : World μ) moves pool, Steps (Guarded (Pool.step (engineCrew μ engine)) AuditMove)
    ⟨world, []⟩ moves pool →
      ∀ seat ∈ pool.seats, RecordedOnce pool seat ∧ DispatchRecorded pool seat

/-- A call of one tenant. -/
def tenantCall (requestId message : String) (retry : Bool) : HandleCall where
  request := { conversationId := "c", message := message, retry := retry }
  tenant := some { tenantId := "acme" }
  requestId := requestId

/-- The routers decide as told, and every provider answers. -/
def deciding (decision : RouterDecision) : Coro.Oracle engineInterface :=
  scripted (fun _ => .ok (.decision decision)) fun _ => .ok "text"

/-- A governance update of the tenant. -/
def denying (providerIds : List String) : EngineMove ℤ :=
  .disturb (World.perform
    (.upsertGovernance { tenantId := "acme", deniedProviderIds := providerIds }))

/-- A question is answered by the first provider and asked again. The routers are asked, and
while they deliberate the governance policy may change; they let the request try once more and
then decide to answer. -/
def askedAgain (update : List (EngineMove ℤ)) : List (EngineMove ℤ) :=
  [denying ["third"], .start (tenantCall "r1" "question" false) (deciding generalDecision),
    .resume 0 (deciding generalDecision), .resume 0 (deciding generalDecision),
    .start (tenantCall "r2" "again" true) (deciding generalDecision)] ++ update ++
  [.resume 1 (deciding retryDecision), .resume 1 (deciding generalDecision)]

def threeProviders : World ℤ :=
  (deployment [generalProvider "first" 1 .google, generalProvider "second" 2 .nvidia,
    generalProvider "third" 3 .groq] none).shared

def auditEngine : RoutingEngine := { maxAttempts := 5 }

/-- The provider chain's request when the question is asked again. -/
def askedProvider : ProviderRequest where
  text := "again"
  image := none

/-- A governance update between two iterations: the provider that is dispatched is not in the
reference. -/
theorem audit_outdated : ¬ AuditFaithful ℤ auditEngine := by
  intro hfaithful
  have hruns : (replay (restrict (Pool.step (engineCrew ℤ auditEngine)) AuditMove)
      ⟨threeProviders, []⟩ (askedAgain [denying ["second"]])).isSome := by decide +kernel
  have hmissing : ∀ pool ∈ replay (restrict (Pool.step (engineCrew ℤ auditEngine)) AuditMove)
      ⟨threeProviders, []⟩ (askedAgain [denying ["second"]]), ∃ seat ∈ pool.seats,
        seat.label.tenant = some { tenantId := "acme" } ∧
        awaited? seat = some (.dispatch "third" askedProvider) ∧
        ∀ reference ∈ pool.shared.audit.references seat.label.requestId,
          "third" ∉ reference.candidateIds := by decide +kernel
  obtain ⟨pool, hpool⟩ := Option.isSome_iff_exists.mp hruns
  obtain ⟨seat, hseat, htenant, hawaited, habsent⟩ := hmissing pool hpool
  have hrecorded := (hfaithful threeProviders _ pool (guarded_of_replay hpool) seat hseat).2
  obtain ⟨_, _, _, reference, hreferences, hcandidate, _⟩ :=
    hrecorded _ htenant "third" askedProvider hawaited
  have hmem : reference ∈ ownReferences pool seat { tenantId := "acme" } := by
    rw [hreferences]
    exact List.mem_singleton_self reference
  rw [ownReferences, PolicyAuditRepository.list, List.filter_comm] at hmem
  exact habsent reference (List.mem_of_mem_filter hmem) hcandidate

/-- Without the update the provider that is dispatched is in the reference. -/
theorem policy_audit_steady : ∃ (pool : EnginePool ℤ) (seat : EngineSeat ℤ), seat ∈ pool.seats ∧
    awaited? seat = some (.dispatch "second" askedProvider) ∧ RecordedOnce pool seat ∧
      DispatchRecorded pool seat := by
  have hruns : (replay (restrict (Pool.step (engineCrew ℤ auditEngine)) fun pool move =>
      AuditMove pool move ∧ SteadyMove pool move) ⟨threeProviders, []⟩ (askedAgain [])).isSome := by
    decide +kernel
  have hawaits : ∀ pool ∈ replay (restrict (Pool.step (engineCrew ℤ auditEngine)) fun pool move =>
      AuditMove pool move ∧ SteadyMove pool move) ⟨threeProviders, []⟩ (askedAgain []),
        ∃ seat ∈ pool.seats, awaited? seat = some (.dispatch "second" askedProvider) := by
    decide +kernel
  obtain ⟨pool, hpool⟩ := Option.isSome_iff_exists.mp hruns
  obtain ⟨seat, hseat, hawaited⟩ := hawaits pool hpool
  have hfaithful := (@policy_audit ℤ _ auditEngine rfl rfl threeProviders).2 _ pool
    (guarded_of_replay hpool) seat hseat
  exact ⟨pool, seat, hseat, hawaited, hfaithful.1, hfaithful.2⟩

end LLMRouting
