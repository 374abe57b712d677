/-
# Rejected retries

A retry can be turned away before any router is asked: its image is missing, its policy is
unknown, or no candidate is left. Up to that point nothing is awaited, so each of these ends
is reached by a straight stretch of code, and the bookkeeping of the retry is somewhere along
it. This module follows the stretch and says which rejections cost the conversation an
attempt.
-/

import LLMRouting.Interaction.Raising
import LLMRouting.Routing.NewTurn

namespace LLMRouting

open LLMRouting.Interaction

variable {μ : Type} {engine : RoutingEngine} {call : HandleCall}

section Straight

open Routine

variable {rely : Memory μ → Memory μ → Prop} {m : Memory μ} {α β : Type}
  {post : List (EngineEvent μ) → Memory μ → Except Raised β → Prop}

/-- Writing back the record of a stored conversation, and then the rest. -/
theorem storeState_bind_relying {state stored : ConversationState} {tenantId : String}
    {next : Unit → Routine μ β}
    (hload : m.shared.conversations.load state.conversationId tenantId = some stored)
    (h : (next ()).wp (Contract.relying rely) post
      { shared := { m.shared with conversations := m.shared.conversations.put state tenantId }
        own := { m.own with state := some state } }) :
    (storeState state tenantId >>= next).wp (Contract.relying rely) post m := by
  rw [storeState, remember, writeBack, bind_assoc]
  apply note_bind_relying
  rw [bind_assoc]
  apply Discipline.memory_bind
  simp only [ConversationStateManager.update_of_load hload]
  apply Coro.wp_modify_bind_relying.mpr
  exact h

/-- Memory in which a retry has been counted: the record after it is kept, by the call and in
the store, and nothing else has changed. -/
structure Counted (state : ConversationState) (tenantId : String) (m m' : Memory μ) : Prop where
  registry_eq : m'.shared.registry = m.shared.registry
  policies_eq : m'.shared.policies = m.shared.policies
  governance_eq : m'.shared.governance = m.shared.governance
  own_eq : m'.own = { m.own with state := some state.retried }
  load_eq : m'.shared.conversations.load state.conversationId tenantId = some state.retried

/-- The bookkeeping of a retry of a stored conversation, and then the rest. -/
theorem prepareRetry_bind_relying {state stored : ConversationState} {tenantId : String}
    {next : Bool × ConversationState → Routine μ β}
    (hload : m.shared.conversations.load state.conversationId tenantId = some stored)
    (hexhausted : retryGuardFired m.shared.registry state = true →
      (next (true, state)).wp (Contract.relying rely) post m)
    (hcounted : retryGuardFired m.shared.registry state = false →
      ∀ m', Counted state tenantId m m' →
      (next (retryGuardFired m.shared.registry state.retried, state.retried)).wp
        (Contract.relying rely) post m') :
    (prepareRetry state tenantId >>= next).wp (Contract.relying rely) post m := by
  have hid : state.retried.conversationId = state.conversationId :=
    (ConversationState.retried_retried state).conversationId_eq
  rw [prepareRetry, bind_assoc]
  apply Discipline.guardFired_bind
  cases hguard : retryGuardFired m.shared.registry state with
  | true => exact hexhausted hguard
  | false =>
      simp only [Bool.false_eq_true, if_false, bind_assoc, pure_bind]
      rw [Routine.excludeLast]
      cases hlast : state.lastProvider with
      | none =>
          have hretried : state.incrementAttempt = state.retried := by
            rw [ConversationState.retried, ConversationState.excludeLast, hlast]
          simp only [pure_bind, hretried]
          apply storeState_bind_relying (hid ▸ hload)
          apply Discipline.guardFired_bind
          exact hcounted hguard _ ⟨rfl, rfl, rfl, rfl, hid ▸ ConversationStateManager.load_put_self⟩
      | some providerId =>
          have hretried : (state.excludeProvider providerId).incrementAttempt = state.retried := by
            rw [ConversationState.retried, ConversationState.excludeLast, hlast]
          have hexcluded : (state.excludeProvider providerId).conversationId =
            state.conversationId :=
            (ConversationState.extends_excludeProvider state providerId).conversationId_eq
          simp only [pure_bind, bind_assoc, hretried]
          apply storeState_bind_relying (hexcluded ▸ hload)
          apply storeState_bind_relying
            (show (m.shared.conversations.put (state.excludeProvider providerId) tenantId).load
              state.retried.conversationId tenantId = some (state.excludeProvider providerId) by
                rw [hid, ← hexcluded]
                exact ConversationStateManager.load_put_self)
          apply Discipline.guardFired_bind
          exact hcounted hguard _ ⟨rfl, rfl, rfl, rfl, hid ▸ ConversationStateManager.load_put_self⟩

/-- What is raised in place of one of the engine's errors: the error itself, unless its
diagnostics name a provider that is gone. -/
inductive Failed (kind : RoutingErrorKind) (m : Memory μ) : Raised → Prop
  | diagnosed (diagnostics : RoutingDiagnostics) : Failed kind m (.routing ⟨kind, diagnostics⟩)
  | undiagnosed (selected : m.own.selectedProvider ≠ none) :
      Failed kind m (.exception { kind := .unknownProvider })

theorem Failed.exists_diagnostics {kind : RoutingErrorKind} {raised : Raised}
    (h : Failed kind m raised) (hselected : m.own.selectedProvider = none) :
    ∃ diagnostics, raised = .routing ⟨kind, diagnostics⟩ := by
  cases h with
  | diagnosed diagnostics => exact ⟨diagnostics, rfl⟩
  | undiagnosed selected => exact (selected hselected).elim

theorem fail_relying {kind : RoutingErrorKind} {failure : TerminalFailure}
    (h : ∀ raised, Failed kind m raised → post [] m (.error raised)) :
    (fail kind failure).wp (Contract.relying rely) post m := by
  rw [fail]
  apply Discipline.memory_bind
  cases hbuilt : buildDiagnostics m.shared.registry m.own failure with
  | some diagnostics => exact h _ (.diagnosed diagnostics)
  | none =>
      apply h _ (.undiagnosed _)
      intro hselected
      simp [buildDiagnostics, hselected] at hbuilt

/-- Diagnostics are attached to a response without changing what it says. -/
theorem attachDiagnostics_relying {response : RoutingResponse}
    {post : List (EngineEvent μ) → Memory μ → Except Raised RoutingResponse → Prop}
    (hselected : m.own.selectedProvider = none)
    (h : ∀ answer : RoutingResponse, answer.action = response.action → post [] m (.ok answer)) :
    (attachDiagnostics call response).wp (Contract.relying rely) post m := by
  rw [attachDiagnostics]
  by_cases hmode : call.developerMode = false
  · rw [if_pos hmode]
    exact h response rfl
  · rw [if_neg hmode]
    apply Discipline.memory_bind
    cases hbuilt : buildDiagnostics m.shared.registry m.own {} with
    | some diagnostics => exact h _ rfl
    | none => simp [buildDiagnostics, hselected] at hbuilt

end Straight

/-- What `_resolve_candidates` finds for the call. -/
def HandleCall.candidates [Metric μ] (call : HandleCall) (engine : RoutingEngine) (world : World μ)
    (excluded : List String) : Except ResolveError (CandidateSet μ) :=
  match engine.candidateResolver, call.tenant with
  | true, some tenant =>
      resolveCandidateSet world.registry world.governance world.policies tenant
        call.context excluded
  | _, _ => .ok (Routine.legacyCandidateSet world.registry excluded)

/-- What the engine raises where candidate resolution fails. -/
def ResolveError.raised : ResolveError → Raised
  | .policyNotFound policyId => .policyNotFound policyId
  | .unexpected error => .exception error

section Candidates

open Routine

variable {rely : Memory μ → Memory μ → Prop} {m : Memory μ} {β : Type}
  {post : List (EngineEvent μ) → Memory μ → Except Raised β → Prop}

/-- Notes and audit records only, and no provider is selected. -/
structure Noted (m m' : Memory μ) : Prop extends Quiet m m' where
  selected : m'.own.selectedProvider = m.own.selectedProvider

theorem Noted.trans {first second third : Memory μ} (h : Noted first second)
    (h' : Noted second third) : Noted first third :=
  ⟨h.toQuiet.trans h'.toQuiet, h'.selected.trans h.selected⟩

theorem recordPolicyAudit_bind_relying {tenant : TenantContext} {candidateSet : CandidateSet μ}
    {next : Unit → Routine μ β}
    (h : ∀ m', Noted m m' → (next ()).wp (Contract.relying rely) post m') :
    (recordPolicyAudit engine tenant candidateSet >>= next).wp (Contract.relying rely) post m := by
  rw [recordPolicyAudit, bind_assoc]
  apply Discipline.memory_bind
  by_cases hrecord : m.own.policyAuditRecorded = false ∧ engine.policyAuditRepository = true
  · rw [if_pos hrecord, bind_assoc]
    apply Coro.wp_modify_bind_relying.mpr
    apply note_bind_relying
    exact h _ ⟨⟨rfl, rfl, rfl, rfl, rfl, rfl⟩, rfl⟩
  · rw [if_neg hrecord]
    exact h m ⟨Quiet.refl m, rfl⟩

variable [Metric μ] {state : ConversationState}

theorem resolveCandidates_bind_relying {excluded : List String}
    {next : CandidateSet μ → Routine μ β} (htenant : m.own.tenant = call.tenant)
    (hraised : ∀ error, call.candidates engine m.shared excluded = .error error →
      post [] m (.error error.raised))
    (h : ∀ candidateSet, call.candidates engine m.shared excluded = .ok candidateSet →
      ∀ m', Noted m m' → (next candidateSet).wp (Contract.relying rely) post m') :
    (resolveCandidates engine call.context excluded >>= next).wp
      (Contract.relying rely) post m := by
  rw [resolveCandidates, bind_assoc]
  apply Discipline.memory_bind
  rw [HandleCall.candidates, ← htenant] at hraised h
  split
  · rename_i tenant hresolver hsome
    rw [hresolver, hsome] at hraised h
    cases hresolved : resolveCandidateSet m.shared.registry m.shared.governance m.shared.policies
        tenant call.context excluded with
    | error error =>
        cases error with
        | policyNotFound policyId => exact hraised _ hresolved
        | unexpected error => exact hraised _ hresolved
    | ok candidateSet =>
        have hfound : Noted m { m with own := { m.own with candidateSet := some candidateSet } } :=
          ⟨⟨rfl, rfl, rfl, rfl, rfl, rfl⟩, rfl⟩
        simp only [bind_assoc]
        apply note_bind_relying
        apply recordPolicyAudit_bind_relying
        intro m' hnoted
        exact h candidateSet hresolved m' (hfound.trans hnoted)
  · rename_i hnone
    refine h _ ?_ m ⟨Quiet.refl m, rfl⟩
    split
    · rename_i tenant hresolver hsome
      exact (hnone tenant hresolver hsome).elim
    · rfl

/-- An iteration of the loop up to its ladder: the guard stops it, no candidates can be
resolved, there are none, or the ladder is asked. -/
theorem routeBody_relying {blocked : List Backend}
    {next : ConversationState → List Backend → Routine μ RoutingResponse}
    {post : List (EngineEvent μ) → Memory μ → Except Raised RoutingResponse → Prop}
    (htenant : m.own.tenant = call.tenant)
    (hfired : retryGuardFired m.shared.registry state = true →
      post [] m (.ok (stopResponse state.conversationId)))
    (hraised : retryGuardFired m.shared.registry state = false → ∀ error m', Noted m m' →
      call.candidates engine m.shared state.excludedProviders = .error error →
        post [] m' (.error error.raised))
    (hdenied : retryGuardFired m.shared.registry state = false → ∀ candidateSet m', Noted m m' →
      call.candidates engine m.shared state.excludedProviders = .ok candidateSet →
        candidateSet.ids = [] → ∀ raised, Failed .governancePolicyDenied m' raised →
          post [] m' (.error raised))
    (hladder : retryGuardFired m.shared.registry state = false → ∀ candidateSet m', Noted m m' →
      call.candidates engine m.shared state.excludedProviders = .ok candidateSet →
        candidateSet.ids ≠ [] → (decisionFromLadder (routerRequest call state
          (m.shared.registry.availableTaskGroups (some candidateSet.ids) call.hasImage)) >>=
            fun decided => followDecision call state candidateSet.ids (blocked ++ decided.2) next
              decided.1).wp (Contract.relying rely) post m') :
    (routeBody engine call next state blocked).wp (Contract.relying rely) post m := by
  rw [routeBody]
  apply Discipline.guardFired_bind
  cases hguard : retryGuardFired m.shared.registry state with
  | true => exact hfired hguard
  | false =>
      have hstage : Noted m { m with own := { m.own with stage := .governance } } :=
        ⟨⟨rfl, rfl, rfl, rfl, rfl, rfl⟩, rfl⟩
      apply note_bind_relying
      apply resolveCandidates_bind_relying
      · exact htenant
      · intro error herror
        exact hraised hguard error _ hstage herror
      · intro candidateSet hresolved m' hnoted
        have hm' := hstage.trans hnoted
        simp only
        by_cases hids : candidateSet.ids = []
        · rw [if_pos hids]
          apply fail_relying
          exact hdenied hguard candidateSet m' hm' hresolved hids
        · rw [if_neg hids]
          apply Discipline.memory_bind
          rw [hm'.registry]
          apply note_bind_relying
          exact hladder hguard candidateSet _ (hm'.trans ⟨⟨rfl, rfl, rfl, rfl, rfl, rfl⟩, rfl⟩)
            hresolved hids

end Candidates

/-- The errors that turn a request away. -/
inductive IsRejection : Raised → Prop
  | imageRequired (diagnostics : RoutingDiagnostics) :
      IsRejection (.routing ⟨.invalidRequest, diagnostics⟩)
  | unknownPolicy (policyId : String) : IsRejection (.policyNotFound policyId)
  | denied (diagnostics : RoutingDiagnostics) :
      IsRejection (.routing ⟨.governancePolicyDenied, diagnostics⟩)

/-- What `handle` makes of the end of `_handle`: rejections pass, and none is made up. -/
inductive Translated : Except Raised RoutingResponse → Except Raised RoutingResponse → Prop
  | ok (response : RoutingResponse) : Translated (.ok response) (.ok response)
  | error {raised raised' : Raised}
      (same : IsRejection raised ∨ IsRejection raised' → raised' = raised) :
      Translated (.error raised) (.error raised')

/-- The call lacks the image its conversation is about. -/
def ImageMissing (call : HandleCall) (stored : ConversationState) : Prop :=
  stored.hasImage = true ∧ call.hasImage = false

section Retry

open Routine

variable {rely : Memory μ → Memory μ → Prop} {m : Memory μ} {stored : ConversationState}
  {post : List (EngineEvent μ) → Memory μ → Except Raised RoutingResponse → Prop}

theorem translate_relying {raised : Raised}
    (h : ∀ out, Translated (.error raised) out → post [] m out) :
    (translate raised).wp (Contract.relying rely) post m := by
  have hother : ∀ kind, kind ≠ .invalidRequest → kind ≠ .governancePolicyDenied →
      ¬ IsRejection raised → ∀ failure,
        (fail kind failure).wp (Contract.relying rely) post m := by
    intro kind hinvalid hdenied hraised failure
    apply fail_relying
    intro raised' hfailed
    apply h _ (.error _)
    intro hrejection
    rcases hrejection with hrejection | hrejection
    · exact (hraised hrejection).elim
    · cases hfailed with
      | undiagnosed selected => cases hrejection
      | diagnosed diagnostics =>
          cases hrejection with
          | imageRequired diagnostics => exact (hinvalid rfl).elim
          | denied diagnostics => exact (hdenied rfl).elim
  cases raised with
  | routing error => exact h _ (.error fun _ => rfl)
  | conversationNotFound conversationId => exact h _ (.error fun _ => rfl)
  | policyNotFound policyId => exact h _ (.error fun _ => rfl)
  | cancelled byDeadline =>
      cases byDeadline with
      | false => exact h _ (.error fun _ => rfl)
      | true =>
          apply hother
          · decide
          · decide
          · intro hrejection
            cases hrejection
  | exception error =>
      have hno : ¬ IsRejection (.exception error) := fun hrejection => by cases hrejection
      unfold Routine.translate
      simp only
      by_cases htimeout : error.kind = .timeoutError
      · rw [if_pos htimeout]
        apply hother _ (by decide) (by decide) hno
      · rw [if_neg htimeout]
        apply Discipline.memory_bind
        apply hother _ (by decide) (by decide) hno

variable [Metric μ]

/-- A call looks at the clock, takes a new capture, and does what `_handle` does. -/
theorem handle_relying
    (h : ∀ now : ℚ, (handleBody engine call).wp (Contract.relying rely)
      (fun body m' result => ∀ out, Translated result out →
        post (⟨.loopTime, m, now⟩ :: body) m' out)
      { m with own := newCapture engine call now }) :
    (handle engine call).wp (Contract.relying rely) post m := by
  rw [handle, loopTime, Coro.wp_bind, Coro.wp_ask]
  refine ⟨fun _ => trivial, fun now resumed hresumed => ?_⟩
  obtain rfl : resumed = m := by simpa [Coro.Resumes] using hresumed
  apply note_bind_relying
  rw [Coro.wp_bind, Coro.wp_attempt]
  apply Coro.wp_mono (h now)
  intro body m' result hresult
  cases result with
  | ok response =>
      show post ([_] ++ (body ++ [])) m' (.ok response)
      rw [List.append_nil]
      exact hresult _ (.ok response)
  | error raised =>
      apply translate_relying
      intro out htranslated
      show post ([_] ++ (body ++ [])) m' out
      rw [List.append_nil]
      exact hresult out htranslated

/-- A retry of a stored conversation, up to its routing. -/
theorem handleRetry_relying (hselected : m.own.selectedProvider = none)
    (hload : m.shared.conversations.load call.request.conversationId call.tenantId = some stored)
    (himage : ImageMissing call stored → ∀ m' raised, m'.shared = m.shared →
      Failed .invalidRequest m' raised → post [] m' (.error raised))
    (hexhausted : ¬ ImageMissing call stored → retryGuardFired m.shared.registry stored = true →
      ∀ m' response, m'.shared = m.shared → response.action = .stop → post [] m' (.ok response))
    (hstopped : ¬ ImageMissing call stored →
      retryGuardFired m.shared.registry (markImage call stored).retried = true →
        ∀ m' response, response.action = .stop → post [] m' (.ok response))
    (hrouted : ¬ ImageMissing call stored →
      retryGuardFired m.shared.registry (markImage call stored).retried = false → ∀ m',
        Counted (markImage call stored) call.tenantId
          { m with own := { m.own with state := some (markImage call stored) } } m' →
        (routeAndAttach engine call (markImage call stored).retried).wp (Contract.relying rely)
          post m') :
    (handleRetry engine call).wp (Contract.relying rely) post m := by
  have hid : stored.conversationId = call.request.conversationId :=
    ConversationStateManager.conversationId_of_load hload
  have hmarked : m.shared.conversations.load (markImage call stored).conversationId call.tenantId =
      some stored := by
    rw [← hload, ← hid]
    rfl
  rw [handleRetry]
  apply Discipline.memory_bind
  simp only [hload]
  apply note_bind_relying
  by_cases hmissing : stored.hasImage = true ∧ call.hasImage = false
  · rw [if_pos hmissing]
    apply fail_relying
    intro raised hfailed
    exact himage hmissing _ raised rfl hfailed
  · rw [if_neg hmissing]
    apply note_bind_relying
    apply prepareRetry_bind_relying
    · exact hmarked
    · intro hguard
      rw [if_pos rfl]
      apply attachDiagnostics_relying
      · exact hselected
      · intro answer haction
        exact hexhausted hmissing hguard _ answer rfl haction
    · intro hguard m' hcounted
      have hselected' : m'.own.selectedProvider = none := by
        rw [hcounted.own_eq]
        exact hselected
      simp only
      cases hguard' : retryGuardFired m.shared.registry (markImage call stored).retried with
      | true =>
          rw [if_pos rfl]
          apply attachDiagnostics_relying hselected'
          intro answer haction
          exact hstopped hmissing hguard' m' answer haction
      | false => exact hrouted hmissing hguard' m' hcounted

end Retry

/-- Some router tier is asked. -/
def AsksRouter (trace : List (EngineEvent μ)) : Prop := ∃ event ∈ trace, event.routed? ≠ none

theorem AsksRouter.append (trace rest : List (EngineEvent μ)) (h : AsksRouter trace) :
    AsksRouter (trace ++ rest) := by
  obtain ⟨event, hevent, hrouted⟩ := h
  exact ⟨event, List.mem_append_left rest hevent, hrouted⟩

theorem BeginsWithLadder.asksRouter {request : RouterRequest} {trace : List (EngineEvent μ)}
    (h : BeginsWithLadder request trace) : AsksRouter trace := by
  obtain ⟨asked, reply, rest, rfl⟩ := h
  refine ⟨_, List.mem_cons_self, ?_⟩
  simp [EngineEvent.routed?]

theorem asksRouter_cons_loopTime {m : Memory μ} {now : ℚ} {trace : List (EngineEvent μ)} :
    AsksRouter (⟨.loopTime, m, now⟩ :: trace) ↔ AsksRouter trace := by
  simp [AsksRouter, EngineEvent.routed?]

section Asking

open Routine

variable {rely : Memory μ → Memory μ → Prop} {m : Memory μ} {state : ConversationState}

/-- Whatever follows the ladder, a router has been asked. -/
theorem asksRouter_decisionFromLadder_bind {β : Type} {request : RouterRequest}
    {next : RouterDecision × List Backend → Routine μ β} :
    (decisionFromLadder request >>= next).wp (Contract.relying rely)
      (fun trace _ _ => AsksRouter trace) m := by
  apply Coro.wp_bind_of_beginning AsksRouter.append
  apply Coro.wp_mono (beginsWithLadder_decisionFromLadder request)
  intro trace m' out hbegins
  exact hbegins.asksRouter

variable [Metric μ] {post : List (EngineEvent μ) → Memory μ → Except Raised RoutingResponse → Prop}

/-- The routing of a ready record: no candidates can be resolved, there are none, or a router
is asked. -/
theorem routeAndAttach_relying (htenant : m.own.tenant = call.tenant)
    (hguard : retryGuardFired m.shared.registry state = false)
    (hraised : ∀ error m', m'.shared.conversations = m.shared.conversations →
      call.candidates engine m.shared state.excludedProviders = .error error →
        post [] m' (.error error.raised))
    (hdenied : ∀ candidateSet m', m'.shared.conversations = m.shared.conversations →
      m'.own.selectedProvider = m.own.selectedProvider →
        call.candidates engine m.shared state.excludedProviders = .ok candidateSet →
          candidateSet.ids = [] → ∀ raised, Failed .governancePolicyDenied m' raised →
            post [] m' (.error raised))
    (hasked : ∀ candidateSet,
      call.candidates engine m.shared state.excludedProviders = .ok candidateSet →
        candidateSet.ids ≠ [] → ∀ trace m' out, AsksRouter trace → post trace m' out) :
    (routeAndAttach engine call state).wp (Contract.relying rely) post m := by
  rw [routeAndAttach, remember]
  apply note_bind_relying
  rw [Coro.wp_bind, route_eq]
  apply routeBody_relying
  · exact htenant
  · intro hfired
    rw [hguard] at hfired
    cases hfired
  · intro _ error m' hnoted herror
    exact hraised error m' hnoted.conversations herror
  · intro _ candidateSet m' hnoted hresolved hids raised hfailed
    exact hdenied candidateSet m' hnoted.conversations hnoted.selected hresolved hids raised hfailed
  · intro _ candidateSet m' _ hresolved hids
    apply Coro.wp_mono asksRouter_decisionFromLadder_bind
    intro trace m₁ out htrace
    cases out with
    | error raised => exact hasked candidateSet hresolved hids trace m₁ _ htrace
    | ok response =>
        apply Coro.wp_mono (Coro.wp_relying _)
        intro rest m₂ out _
        exact hasked candidateSet hresolved hids _ m₂ out (htrace.append trace rest)

end Asking

/-- The attempts, the exclusions and the last provider are the same. -/
structure SameCosts (before after : ConversationState) : Prop where
  attemptCount_eq : after.attemptCount = before.attemptCount
  excludedProviders_eq : after.excludedProviders = before.excludedProviders
  lastProvider_eq : after.lastProvider = before.lastProvider

section Costs

open Routine

variable [Metric μ]

/-- A retry that is rejected before any router is asked costs its conversation nothing. -/
def CostsNothing (engine : RoutingEngine) (call : HandleCall) (m : Memory μ) : Prop :=
  call.request.retry = true → ∀ stored, call.record m = some stored →
    ∀ trace m' raised, Coro.Run (Surroundings False Set.univ call) (handle engine call) m trace m'
      (.error raised) →
    IsRejection raised → ¬ AsksRouter trace →
      ∃ after, call.record m' = some after ∧ SameCosts stored after

/-- No router can be asked: the policy is unknown, or no candidate is left. -/
def Unroutable (engine : RoutingEngine) (call : HandleCall) (world : World μ)
    (excluded : List String) : Prop :=
  match call.candidates engine world excluded with
  | .error error => IsRejection error.raised
  | .ok candidateSet => candidateSet.ids = []

/-- The retry passes the image check and both looks of the guard, so that it is counted, and
then there is nothing to route it to. -/
def RejectedLate (engine : RoutingEngine) (call : HandleCall) (m : Memory μ) : Prop :=
  call.request.retry = true ∧ ∃ stored, call.record m = some stored ∧ ¬ ImageMissing call stored ∧
    retryGuardFired m.shared.registry stored.retried = false ∧
    Unroutable engine call m.shared stored.retried.excludedProviders

/-- Retrying and marking the image are changes to different fields. -/
theorem retried_markImage (stored : ConversationState) :
    (markImage call stored).retried = markImage call stored.retried := by
  have hexclude : ∀ providerId, (markImage call stored).excludeProvider providerId =
      markImage call (stored.excludeProvider providerId) := by
    intro providerId
    rw [ConversationState.excludeProvider, ConversationState.excludeProvider,
      apply_ite (markImage call)]
    rfl
  rw [ConversationState.retried, ConversationState.excludeLast,
    show (markImage call stored).lastProvider = stored.lastProvider from rfl,
    ConversationState.retried, ConversationState.excludeLast]
  cases stored.lastProvider with
  | none => rfl
  | some providerId =>
      simp only
      rw [hexclude]
      rfl

omit [Metric μ] in
/-- A guard that is open on a record was open on the record before it. -/
theorem guard_open_of_extends {registry : Registry μ} {before after : ConversationState}
    (hextends : before.Extends after) (hguard : retryGuardFired registry after = false) :
    retryGuardFired registry before = false := by
  obtain ⟨hbudget, havailable⟩ := Bool.or_eq_false_iff.mp hguard
  rw [List.isEmpty_eq_false_iff] at havailable
  obtain ⟨provider, hprovider⟩ := List.exists_mem_of_ne_nil _ havailable
  obtain ⟨config, hget, henabled, hexcluded, hview⟩ :=
    Registry.mem_availableForRouter_iff.mp hprovider
  have hprovider' : provider ∈ registry.availableForRouter before.excludedProviders :=
    Registry.mem_availableForRouter_iff.mpr
      ⟨config, hget, henabled, fun hmem => hexcluded (hextends.excluded_subset hmem), hview⟩
  have hcount := hextends.attemptCount_le
  have hmax := hextends.maxAttempts_eq
  apply Bool.or_eq_false_iff.mpr
  constructor
  · rw [decide_eq_false_iff_not] at hbudget ⊢
    omega
  · exact List.isEmpty_eq_false_iff.mpr (List.ne_nil_of_mem hprovider')

/-- A retry of a stored conversation, for the end that `handle` makes of it. -/
theorem handle_retry_relying {m : Memory μ} {rely : Memory μ → Memory μ → Prop}
    {post : List (EngineEvent μ) → Memory μ → Except Raised RoutingResponse → Prop}
    (hretry : call.request.retry = true)
    (h : ∀ now : ℚ, (handleRetry engine call).wp (Contract.relying rely)
      (fun body m' result => ∀ out, Translated result out →
        post (⟨.loopTime, m, now⟩ :: body) m' out)
      { m with own := newCapture engine call now }) :
    (handle engine call).wp (Contract.relying rely) post m := by
  apply handle_relying
  intro now
  rw [handleBody, if_pos hretry]
  exact h now

/-- Counting a retry does not change what candidates are found. -/
theorem Counted.candidates_eq {m m' : Memory μ} {state : ConversationState} {tenantId : String}
    (h : Counted state tenantId m m') : call.candidates engine m'.shared =
      call.candidates engine m.shared := by
  funext excluded
  rw [HandleCall.candidates, h.registry_eq, h.governance_eq, h.policies_eq, HandleCall.candidates]

/-- A retry that is not rejected late costs nothing if it is rejected unasked. -/
theorem costsNothing_of_not_rejectedLate {m : Memory μ} {rely : Memory μ → Memory μ → Prop}
    {stored : ConversationState} (hretry : call.request.retry = true)
    (hstored : call.record m = some stored) (hlate : ¬ RejectedLate engine call m) :
    (handle engine call).wp (Contract.relying rely) (fun trace m' out =>
      ∀ raised, out = .error raised → IsRejection raised → ¬ AsksRouter trace →
        ∃ after, call.record m' = some after ∧ SameCosts stored after) m := by
  have hroutable : ¬ ImageMissing call stored →
      retryGuardFired m.shared.registry (markImage call stored).retried = false →
      ¬ Unroutable engine call m.shared (markImage call stored).retried.excludedProviders := by
    intro himage hguard hunroutable
    rw [retried_markImage] at hguard hunroutable
    exact hlate ⟨hretry, stored, hstored, himage, hguard, hunroutable⟩
  apply handle_retry_relying hretry
  intro now
  apply handleRetry_relying
  · rfl
  · exact hstored
  · intro _ m' raised hshared _ out _ _ _ _ _
    refine ⟨stored, ?_, rfl, rfl, rfl⟩
    rw [HandleCall.record, hshared]
    exact hstored
  · intro _ _ m' response _ _ out htranslated raised hraised
    cases htranslated
    cases hraised
  · intro _ _ m' response _ out htranslated raised hraised
    cases htranslated
    cases hraised
  · intro himage hguard m' hcounted
    have hworld : call.candidates engine m'.shared = call.candidates engine m.shared :=
      hcounted.candidates_eq
    have hroutable' := hroutable himage hguard
    rw [Unroutable] at hroutable'
    apply routeAndAttach_relying
    · rw [hcounted.own_eq]
      rfl
    · rw [hcounted.registry_eq]
      exact hguard
    · intro error m₁ _ herror out htranslated raised hraised hrejection
      rw [hworld] at herror
      rw [herror] at hroutable'
      cases htranslated with
      | error same =>
          cases hraised
          rw [same (Or.inr hrejection)] at hrejection
          exact (hroutable' hrejection).elim
    · intro candidateSet m₁ _ _ hresolved hids
      rw [hworld] at hresolved
      rw [hresolved] at hroutable'
      exact (hroutable' hids).elim
    · intro _ _ _ trace m₁ out hasked out' _ raised _ _ hunasked
      exact (hunasked (asksRouter_cons_loopTime.mpr hasked)).elim

/-- A retry that is rejected late has been counted. -/
theorem counted_of_rejectedLate {m : Memory μ} {rely : Memory μ → Memory μ → Prop}
    (hlate : RejectedLate engine call m) :
    (handle engine call).wp (Contract.relying rely) (fun trace m' out =>
      (∃ raised, out = .error raised ∧ IsRejection raised) ∧ ¬ AsksRouter trace ∧
        call.record m' = (call.record m).map fun stored => (markImage call stored).retried) m := by
  obtain ⟨hretry, stored, hstored, himage, hguard, hunroutable⟩ := hlate
  have hopen : retryGuardFired m.shared.registry stored = false :=
    guard_open_of_extends (ConversationState.retried_retried stored).toExtends hguard
  have hguard' : retryGuardFired m.shared.registry (markImage call stored).retried = false := by
    rw [retried_markImage]
    exact hguard
  have hunroutable' :
      Unroutable engine call m.shared (markImage call stored).retried.excludedProviders := by
    rw [retried_markImage]
    exact hunroutable
  have hno : ∀ now : ℚ, ¬ AsksRouter [(⟨.loopTime, m, now⟩ : EngineEvent μ)] := by
    intro now hasks
    obtain ⟨event, hevent, -⟩ := asksRouter_cons_loopTime.mp hasks
    cases hevent
  rw [hstored, Option.map_some]
  apply handle_retry_relying hretry
  intro now
  apply handleRetry_relying
  · rfl
  · exact hstored
  · intro hmissing
    exact (himage hmissing).elim
  · intro _ hfired
    rw [hopen] at hfired
    cases hfired
  · intro _ hfired
    rw [hguard'] at hfired
    cases hfired
  · intro _ _ m' hcounted
    have hstored' : m'.shared.conversations.load call.request.conversationId call.tenantId =
        some (markImage call stored).retried := by
      rw [← ConversationStateManager.conversationId_of_load hstored]
      exact hcounted.load_eq
    have hworld : call.candidates engine m'.shared = call.candidates engine m.shared :=
      hcounted.candidates_eq
    rw [Unroutable, ← hworld] at hunroutable'
    have hend : ∀ raised (m₁ : Memory μ), m₁.shared.conversations = m'.shared.conversations →
        IsRejection raised → ∀ out, Translated (.error raised) out →
          (∃ raised, out = .error raised ∧ IsRejection raised) ∧
            ¬ AsksRouter [(⟨.loopTime, m, now⟩ : EngineEvent μ)] ∧
            call.record m₁ = some (markImage call stored).retried := by
      intro raised m₁ hsame hrejection out htranslated
      rw [HandleCall.record, hsame]
      cases htranslated with
      | error same =>
          rw [same (Or.inl hrejection)]
          exact ⟨⟨raised, rfl, hrejection⟩, hno now, hstored'⟩
    apply routeAndAttach_relying
    · rw [hcounted.own_eq]
      rfl
    · rw [hcounted.registry_eq]
      exact hguard'
    · intro error m₁ hsame herror
      rw [herror] at hunroutable'
      exact hend error.raised m₁ hsame hunroutable'
    · intro candidateSet m₁ hsame hselected _ _ raised hfailed
      rw [hcounted.own_eq] at hselected
      obtain ⟨diagnostics, rfl⟩ := hfailed.exists_diagnostics hselected
      exact hend _ m₁ hsame (.denied diagnostics)
    · intro candidateSet hresolved hids
      rw [hresolved] at hunroutable'
      exact (hids hunroutable').elim

/-- A retry that is rejected late has cost an attempt, whatever the routers would have said. -/
theorem not_costsNothing_of_rejectedLate {m : Memory μ} (hlate : RejectedLate engine call m) :
    ¬ CostsNothing engine call m := by
  intro hcosts
  have ⟨hretry, stored, hstored, _⟩ := hlate
  have hrun : Coro.Run (Surroundings False Set.univ call) (handle engine call) m _ _ _ :=
    Coro.run_eval Surroundings.refl
      (scripted (fun _ => .ok (.decision generalDecision)) fun _ => .ok "text") _ m 0
  obtain ⟨⟨raised, hraised, hrejection⟩, hunasked, hrecord⟩ :=
    Coro.wp_sound (counted_of_rejectedLate hlate) hrun
  rw [hraised] at hrun
  obtain ⟨after, hafter, hsame⟩ := hcosts hretry stored hstored _ _ raised hrun hrejection hunasked
  rw [hafter, hstored] at hrecord
  have hcount := congrArg ConversationState.attemptCount (Option.some.inj hrecord)
  rw [hsame.attemptCount_eq, ConversationState.attemptCount_retried] at hcount
  exact Nat.ne_of_lt (Nat.lt_succ_self _) hcount

/-- A retry that is rejected before any router is asked costs its conversation nothing, except
where it has been counted before the engine finds out that it cannot be routed. -/
theorem costsNothing_iff (engine : RoutingEngine) (call : HandleCall) (m : Memory μ) :
    CostsNothing engine call m ↔ ¬ RejectedLate engine call m := by
  refine ⟨fun hcosts hlate => not_costsNothing_of_rejectedLate hlate hcosts, ?_⟩
  intro hlate hretry stored hstored trace m' raised hrun hrejection hunasked
  exact Coro.wp_sound (costsNothing_of_not_rejectedLate hretry hstored hlate) hrun raised rfl
    hrejection hunasked

end Costs

/-- Two providers, and an answered question of a tenant. -/
def acmeMemory : Memory ℤ :=
  let deployed := deployment pair none
  { deployed with
    shared := { deployed.shared with
      conversations := deployed.shared.conversations.put answeredOnce "acme" } }

/-- The tenant asks again, under a policy it does not have. -/
def misnamedCall : HandleCall where
  request := { conversationId := "c", message := "again", retry := true }
  tenant := some { tenantId := "acme" }
  routingContext := some { policyId := some "missing" }

def misnamed : List (EngineEvent ℤ) × Memory ℤ × Except Raised RoutingResponse :=
  (Routine.handle { maxAttempts := 3 } misnamedCall).eval
    (scripted (fun _ => .ok (.decision generalDecision)) fun _ => .ok "text") acmeMemory 0

/-- The retry is rejected, and yet it has been counted. -/
theorem misnamed_retry_counted :
    ¬ ∀ (engine : RoutingEngine) (call : HandleCall) (m : Memory ℤ),
      CostsNothing engine call m := by
  intro hclaim
  have hrun : Coro.Run (Surroundings False Set.univ misnamedCall)
      (Routine.handle { maxAttempts := 3 } misnamedCall) acmeMemory misnamed.1 misnamed.2.1
        misnamed.2.2 :=
    Coro.run_eval Surroundings.refl _ _ _ _
  have hraised : misnamed.2.2 = .error (.policyNotFound "missing") := by decide +kernel
  have hunasked : ∀ event ∈ misnamed.1, event.routed? = none := by decide +kernel
  have hcounted : ∀ after ∈ misnamedCall.record misnamed.2.1, after.attemptCount = 1 := by
    decide +kernel
  rw [hraised] at hrun
  obtain ⟨after, hafter, hsame⟩ := hclaim _ misnamedCall acmeMemory rfl answeredOnce
    (by decide +kernel) _ _ _ hrun (.unknownPolicy "missing") (by
      intro hasked
      obtain ⟨event, hevent, hrouted⟩ := hasked
      exact hrouted (hunasked event hevent))
  have hcount := hsame.attemptCount_eq
  rw [hcounted after hafter] at hcount
  cases hcount

end LLMRouting
