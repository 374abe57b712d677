/-
# The engine leaves the circuits to its upstream calls

The board of circuits is shared by all requests, but only routers and adapters work on it: no
write of the engine's own code touches it. So what holds of the circuits alone is kept by every
routine of the engine, and by a whole call if the programs behind its questions keep it.
-/

import LLMRouting.Interaction.Invariant
import LLMRouting.Routing.Engine

namespace LLMRouting

open LLMRouting.Interaction

variable {μ : Type}

/-- A property of a memory that is one of its circuits. -/
def OfCircuits (P : Memory μ → Prop) : Prop :=
  ∀ m m', m'.shared.circuits = m.shared.circuits → P m → P m'

namespace Routine

open Coro

variable {P : Memory μ → Prop} {call : HandleCall} {engine : RoutingEngine} {α : Type}

section Steps

variable (hP : OfCircuits P)
include hP

theorem note_maintains {update : Capture μ → Capture μ} : (note update).Maintains P :=
  maintains_modify fun m => hP m _ rfl

omit hP in
theorem fail_maintains {kind : RoutingErrorKind} {failure : TerminalFailure} :
    (fail (α := α) kind failure : Routine μ α).Maintains P := by
  apply maintains_get_bind
  intro m _
  split
  · exact maintains_raise
  · exact maintains_raise

omit hP in
theorem deadlinePassed_maintains : (deadlinePassed : Routine μ Bool).Maintains P := by
  apply maintains_ask.bind
  intro now
  exact maintains_get_bind fun _ _ => maintains_pure

omit hP in
theorem guardFired_maintains {state : ConversationState} :
    (guardFired state : Routine μ Bool).Maintains P :=
  maintains_get_bind fun _ _ => maintains_pure

theorem writeBack_maintains {state : ConversationState} {tenantId : String} :
    (writeBack state tenantId).Maintains P := by
  apply maintains_get_bind
  intro m _
  split
  · exact maintains_modify fun m => hP m _ rfl
  · exact maintains_raise

theorem storeState_maintains {state : ConversationState} {tenantId : String} :
    (storeState state tenantId).Maintains P :=
  (note_maintains hP).bind fun _ => writeBack_maintains hP

theorem prepareRetry_maintains {state : ConversationState} {tenantId : String} :
    (prepareRetry state tenantId).Maintains P := by
  have hexclude : (excludeLast state tenantId).Maintains P := by
    rw [excludeLast]
    split
    · exact maintains_pure
    · exact (storeState_maintains hP).bind fun _ => maintains_pure
  apply guardFired_maintains.bind
  intro fired
  split
  · exact maintains_pure
  · apply hexclude.bind
    intro excluded
    apply (storeState_maintains hP).bind
    intro _
    exact guardFired_maintains.bind fun _ => maintains_pure

theorem recordPolicyAudit_maintains {tenant : TenantContext} {candidateSet : CandidateSet μ} :
    (recordPolicyAudit engine tenant candidateSet).Maintains P := by
  apply maintains_get_bind
  intro m _
  split
  · exact Maintains.bind (maintains_modify fun m => hP m _ rfl) fun _ => note_maintains hP
  · exact maintains_pure

theorem resolveCandidates_maintains [Metric μ] {context : RoutingContext} {excluded : List String} :
    (resolveCandidates engine context excluded).Maintains P := by
  apply maintains_get_bind
  intro m _
  split
  · split
    · exact maintains_raise
    · exact maintains_raise
    · apply (note_maintains hP).bind
      intro _
      exact (recordPolicyAudit_maintains hP).bind fun _ => maintains_pure
  · exact maintains_pure

end Steps

section Loops

variable (hP : OfCircuits P)
include hP

theorem climb_maintains {request : RouterRequest} (tiers : List RouterTier)
    (blocked : List Backend) : (climb (μ := μ) request tiers blocked).Maintains P := by
  induction tiers generalizing blocked with
  | nil => exact fail_maintains
  | cons tier rest ih =>
      apply (note_maintains hP).bind
      intro _
      apply maintains_ask.bind
      intro reply
      split
      · apply deadlinePassed_maintains.bind
        intro late
        exact (note_maintains hP).bind fun _ => maintains_raise
      · exact (note_maintains hP).bind fun _ => ih _
      · exact (note_maintains hP).bind fun _ => maintains_pure

theorem noteDispatchCancelled_maintains {candidate : ProviderConfig μ}
    {pending : List (ProviderConfig μ)} :
    (noteDispatchCancelled candidate pending).Maintains P := by
  apply deadlinePassed_maintains.bind
  intro late
  apply (note_maintains hP).bind
  intro _
  apply deadlinePassed_maintains.bind
  intro late'
  split
  · exact note_maintains hP
  · exact maintains_pure

theorem commitAnswer_maintains {state : ConversationState} {tenantId : String}
    {candidate : ProviderConfig μ} {response : String} :
    (commitAnswer state tenantId candidate response).Maintains P := by
  apply (note_maintains hP).bind
  intro _
  apply maintains_ask.bind
  intro reply
  split
  · exact fail_maintains
  · apply deadlinePassed_maintains.bind
    intro late
    split
    · exact maintains_raise
    · exact (storeState_maintains hP).bind fun _ => maintains_pure

theorem tryCandidates_maintains {request : ProviderRequest} {state : ConversationState}
    {tenantId : String} (candidates : List (ProviderConfig μ)) (blocked : List Backend)
    (lastError : Option PyException) :
    (tryCandidates request state tenantId candidates blocked lastError).Maintains P := by
  induction candidates generalizing blocked lastError with
  | nil => exact fail_maintains
  | cons candidate rest ih =>
      apply deadlinePassed_maintains.bind
      intro late
      split
      · exact maintains_raise
      · split
        · exact (note_maintains hP).bind fun _ => ih _ _
        · apply (note_maintains hP).bind
          intro _
          apply maintains_ask.bind
          intro reply
          split
          · exact (noteDispatchCancelled_maintains hP).bind fun _ => maintains_raise
          · split
            · exact (note_maintains hP).bind fun _ => ih _ _
            · exact (note_maintains hP).bind fun _ => maintains_raise
          · exact commitAnswer_maintains hP

theorem executeWithFallback_maintains {candidates : List (ProviderConfig μ)}
    {request : ProviderRequest} {state : ConversationState} {tenantId : String}
    {blocked : List Backend} :
    (executeWithFallback candidates request state tenantId blocked).Maintains P := by
  cases candidates with
  | nil =>
      show (tryCandidates request state tenantId [] blocked none).Maintains P
      exact tryCandidates_maintains hP [] blocked none
  | cons first rest =>
      exact (note_maintains hP).bind fun _ =>
        tryCandidates_maintains hP (first :: rest) blocked none

theorem followDecision_maintains {state : ConversationState} {allowedIds : List String}
    {blocked : List Backend} {next : ConversationState → List Backend → Routine μ RoutingResponse}
    {decision : RouterDecision} (hnext : ∀ state blocked, (next state blocked).Maintains P) :
    (followDecision call state allowedIds blocked next decision).Maintains P := by
  rw [followDecision]
  split
  · apply (prepareRetry_maintains hP).bind
    intro outcome
    split
    split
    · exact maintains_pure
    · exact hnext _ _
  · exact maintains_pure
  · exact maintains_pure
  · apply (note_maintains hP).bind
    intro _
    exact maintains_get_bind fun _ _ => executeWithFallback_maintains hP

variable [Metric μ]

theorem routeBody_maintains {state : ConversationState} {blocked : List Backend}
    {next : ConversationState → List Backend → Routine μ RoutingResponse}
    (hnext : ∀ state blocked, (next state blocked).Maintains P) :
    (routeBody engine call next state blocked).Maintains P := by
  apply guardFired_maintains.bind
  intro fired
  split
  · exact maintains_pure
  · apply (note_maintains hP).bind
    intro _
    apply (resolveCandidates_maintains hP).bind
    intro candidateSet
    simp only
    split
    · exact fail_maintains
    · apply maintains_get_bind
      intro m _
      apply (note_maintains hP).bind
      intro _
      apply (climb_maintains hP _ _).bind
      intro decided
      exact followDecision_maintains hP hnext

/-- The loop, by induction on the rounds it may take. -/
theorem routeLoop_maintains (rounds : ℕ) (state : ConversationState) (blocked : List Backend) :
    (routeLoop (μ := μ) engine call rounds state blocked).Maintains P := by
  induction rounds generalizing state blocked with
  | zero => exact routeBody_maintains hP fun _ _ => maintains_pure
  | succ rounds ih => exact routeBody_maintains hP ih

omit hP [Metric μ] in
theorem attachDiagnostics_maintains {response : RoutingResponse} :
    (attachDiagnostics call response : Routine μ RoutingResponse).Maintains P := by
  rw [attachDiagnostics]
  split
  · exact maintains_pure
  · apply maintains_get_bind
    intro m _
    split
    · exact maintains_pure
    · exact maintains_raise

theorem routeAndAttach_maintains {state : ConversationState} :
    (routeAndAttach (μ := μ) engine call state).Maintains P := by
  apply (note_maintains hP).bind
  intro _
  exact (routeLoop_maintains hP _ _ _).bind fun _ => attachDiagnostics_maintains

theorem handleRetry_maintains : (handleRetry (μ := μ) engine call).Maintains P := by
  apply maintains_get_bind
  intro m _
  split
  · exact maintains_raise
  · apply (note_maintains hP).bind
    intro _
    split
    · exact fail_maintains
    · apply (note_maintains hP).bind
      intro _
      apply (prepareRetry_maintains hP).bind
      intro outcome
      split
      split
      · exact attachDiagnostics_maintains
      · exact routeAndAttach_maintains hP

theorem handleMessage_maintains : (handleMessage (μ := μ) engine call).Maintains P := by
  have hload : (loadOrCreate (μ := μ) engine call).Maintains P := by
    apply maintains_get_bind
    intro m _
    split
    · exact maintains_pure
    · exact Maintains.bind (maintains_modify fun m => hP m _ rfl) fun _ => maintains_pure
  apply hload.bind
  intro state
  exact (writeBack_maintains hP).bind fun _ => routeAndAttach_maintains hP

omit hP [Metric μ] in
theorem translate_maintains {raised : Raised} :
    (Routine.translate raised : Routine μ RoutingResponse).Maintains P := by
  cases raised with
  | routing error => exact maintains_raise
  | conversationNotFound conversationId => exact maintains_raise
  | policyNotFound policyId => exact maintains_raise
  | cancelled byDeadline =>
      cases byDeadline with
      | false => exact maintains_raise
      | true => exact fail_maintains
  | exception error =>
      rw [Routine.translate]
      split
      · exact fail_maintains
      · exact maintains_get_bind fun _ _ => fail_maintains

/-- A whole call keeps what holds of the circuits. -/
theorem handle_maintains : (handle (μ := μ) engine call).Maintains P := by
  have hbody : (handleBody (μ := μ) engine call).Maintains P := by
    rw [handleBody]
    split
    · exact handleRetry_maintains hP
    · exact handleMessage_maintains hP
  apply maintains_ask.bind
  intro now
  apply (note_maintains hP).bind
  intro _
  apply hbody.attempt.bind
  intro result
  split
  · exact maintains_pure
  · exact translate_maintains

end Loops

end Routine

end LLMRouting
