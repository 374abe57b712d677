/-
# What holds of every step of a call

A call passes records along and writes them back. A property of routines, and of the records they
return, that the elementary steps have and that sequencing keeps holds of every call. The steps
are the notes a call makes, its questions, what it looks at, and the three things it writes: a
reference for the audit, a new conversation, and a record it has been passed.
-/

import LLMRouting.Routing.Engine

namespace LLMRouting

open LLMRouting.Interaction

variable {μ α β : Type}

/-- Two memories that agree on all a call looks at. -/
structure Matched (call : HandleCall) (m m' : Memory μ) : Prop where
  own : m'.own = m.own
  registry : m'.shared.registry = m.shared.registry
  policies : m'.shared.policies = m.shared.policies
  governance : m'.shared.governance = m.shared.governance
  record : m'.shared.conversations.load call.request.conversationId call.tenantId =
    m.shared.conversations.load call.request.conversationId call.tenantId

/-- A property of a call's routines that is a matter of their steps. The records a routine returns
are the call's own, and it writes back no others. -/
structure Tracking (call : HandleCall) (Own : ConversationState → Prop)
    (T : (α : Type) → (α → List ConversationState) → Routine μ α → Prop) : Prop where
  changed : ∀ {state state' : ConversationState}, Own state →
    state'.conversationId = state.conversationId → Own state'
  loaded : ∀ {conversations : ConversationStateManager} {stored : ConversationState},
    conversations.load call.request.conversationId call.tenantId = some stored → Own stored
  pure : ∀ {α : Type} {records : α → List ConversationState} {value : α},
    (∀ state ∈ records value, Own state) → T α records (pure value)
  raise : ∀ {α : Type} {records : α → List ConversationState} (raised : Raised),
    T α records (Coro.raise raised)
  bind : ∀ {α β : Type} {records : α → List ConversationState}
    {records' : β → List ConversationState} {routine : Routine μ α} {next : α → Routine μ β},
    T α records routine →
      (∀ value, (∀ state ∈ records value, Own state) → T β records' (next value)) →
        T β records' (routine >>= next)
  attempt : ∀ {α : Type} {records : α → List ConversationState} {routine : Routine μ α},
    T α records routine → T (Except Raised α) (fun _ => []) routine.attempt
  ask : ∀ query : EngineQuery, T _ (fun _ => []) (Coro.ask (I := engineInterface) query)
  note : ∀ update, T Unit (fun _ => []) (Routine.note update)
  look : ∀ {α : Type} {records : α → List ConversationState} {next : Memory μ → Routine μ α},
    (∀ m, T α records (next m)) → (∀ m m', Matched call m m' → next m' = next m) →
      T α records (Routine.memory >>= next)
  audit : ∀ reference, T Unit (fun _ => []) (Coro.modify fun m =>
    { m with shared := { m.shared with audit := m.shared.audit.append reference } })
  create : ∀ engine : RoutingEngine,
    T ConversationState (fun state => [state]) (Routine.loadOrCreate engine call)
  writeBack : ∀ state, Own state →
    T Unit (fun _ => []) (Routine.writeBack state call.tenantId)

namespace Tracking

variable {call : HandleCall} {Own : ConversationState → Prop}
  {T : (α : Type) → (α → List ConversationState) → Routine μ α → Prop} (w : Tracking call Own T)

include w

theorem deadlinePassed : T Bool (fun _ => []) Routine.deadlinePassed := by
  apply w.bind (w.ask .loopTime)
  intro now _
  apply w.look
  · intro m
    exact w.pure (List.forall_mem_nil _)
  · intro m m' h
    rw [h.own]

theorem fail {records : α → List ConversationState} (kind : RoutingErrorKind)
    (failure : TerminalFailure) : T α records (Routine.fail kind failure) := by
  apply w.look
  · intro m
    cases buildDiagnostics m.shared.registry m.own failure with
    | none => exact w.raise _
    | some diagnostics => exact w.raise _
  · intro m m' h
    rw [h.own, h.registry]

theorem guardFired (state : ConversationState) :
    T Bool (fun _ => []) (Routine.guardFired state) := by
  apply w.look
  · intro m
    exact w.pure (List.forall_mem_nil _)
  · intro m m' h
    rw [h.registry]

theorem storeState {state : ConversationState} (h : Own state) :
    T Unit (fun _ => []) (Routine.storeState state call.tenantId) :=
  w.bind (w.note _) fun _ _ => w.writeBack state h

theorem excludeLast {state : ConversationState} (h : Own state) :
    T ConversationState (fun state => [state]) (Routine.excludeLast state call.tenantId) := by
  rw [Routine.excludeLast]
  cases state.lastProvider with
  | none => exact w.pure (List.forall_mem_singleton.mpr h)
  | some providerId =>
      have hexcluded : Own (state.excludeProvider providerId) := by
        apply w.changed h
        rw [ConversationState.excludeProvider_eq]
      exact w.bind (w.storeState hexcluded) fun _ _ =>
        w.pure (List.forall_mem_singleton.mpr hexcluded)

theorem prepareRetry {state : ConversationState} (h : Own state) :
    T (Bool × ConversationState) (fun result => [result.2])
      (Routine.prepareRetry state call.tenantId) := by
  apply w.bind (w.guardFired state)
  intro fired _
  cases fired with
  | true => exact w.pure (List.forall_mem_singleton.mpr h)
  | false =>
      apply w.bind (w.excludeLast h)
      intro excluded hexcluded
      have hcounted : Own excluded.incrementAttempt :=
        w.changed (List.forall_mem_singleton.mp hexcluded) rfl
      apply w.bind (w.storeState hcounted)
      intro _ _
      exact w.bind (w.guardFired _) fun _ _ => w.pure (List.forall_mem_singleton.mpr hcounted)

theorem recordPolicyAudit (engine : RoutingEngine) (tenant : TenantContext)
    (candidateSet : CandidateSet μ) :
    T Unit (fun _ => []) (Routine.recordPolicyAudit engine tenant candidateSet) := by
  apply w.look
  · intro m
    by_cases hrecords : m.own.policyAuditRecorded = false ∧ engine.policyAuditRepository = true
    · simp only [if_pos hrecords]
      exact w.bind (w.audit _) fun _ _ => w.note _
    · simp only [if_neg hrecords]
      exact w.pure (List.forall_mem_nil _)
  · intro m m' h
    rw [h.own]

theorem resolveCandidates [Metric μ] (engine : RoutingEngine) (context : RoutingContext)
    (excluded : List String) :
    T (CandidateSet μ) (fun _ => []) (Routine.resolveCandidates engine context excluded) := by
  apply w.look
  · intro m
    cases engine.candidateResolver with
    | false => exact w.pure (List.forall_mem_nil _)
    | true =>
        cases m.own.tenant with
        | none => exact w.pure (List.forall_mem_nil _)
        | some tenant =>
            dsimp only
            cases resolveCandidateSet m.shared.registry m.shared.governance m.shared.policies tenant
                context excluded with
            | error error =>
                cases error with
                | policyNotFound policyId => exact w.raise _
                | unexpected error => exact w.raise _
            | ok candidateSet =>
                apply w.bind (w.note _)
                intro _ _
                exact w.bind (w.recordPolicyAudit engine tenant candidateSet)
                  fun _ _ => w.pure (List.forall_mem_nil _)
  · intro m m' h
    rw [h.own, h.registry, h.policies, h.governance]

theorem climb (request : RouterRequest) (tiers : List RouterTier) (blocked : List Backend) :
    T (RouterDecision × List Backend) (fun _ => []) (Routine.climb request tiers blocked) := by
  induction tiers generalizing blocked with
  | nil => exact w.fail _ _
  | cons tier rest ih =>
      rw [Routine.climb]
      apply w.bind (w.note _)
      intro _ _
      apply w.bind (w.ask _)
      intro reply _
      cases Routine.judged request reply with
      | ok decision => exact w.bind (w.note _) fun _ _ => w.pure (List.forall_mem_nil _)
      | error interruption =>
          cases interruption with
          | cancelled byDeadline =>
              exact w.bind w.deadlinePassed fun _ _ => w.bind (w.note _) fun _ _ => w.raise _
          | raised error => exact w.bind (w.note _) fun _ _ => ih _

theorem noteDispatchCancelled (candidate : ProviderConfig μ) (pending : List (ProviderConfig μ)) :
    T Unit (fun _ => []) (Routine.noteDispatchCancelled candidate pending) := by
  apply w.bind w.deadlinePassed
  intro late _
  apply w.bind (w.note _)
  intro _ _
  apply w.bind w.deadlinePassed
  intro later _
  cases later with
  | true => exact w.note _
  | false => exact w.pure (List.forall_mem_nil _)

theorem commitAnswer {state : ConversationState} (h : Own state)
    (candidate : ProviderConfig μ) (response : String) :
    T RoutingResponse (fun _ => [])
      (Routine.commitAnswer state call.tenantId candidate response) := by
  apply w.bind (w.note _)
  intro _ _
  apply w.bind (w.ask _)
  intro reply _
  cases reply with
  | error error => exact w.fail _ _
  | ok clean =>
      apply w.bind w.deadlinePassed
      intro late _
      cases late with
      | true => exact w.raise _
      | false =>
          have hanswered : Own { state with
              previousResponse := some clean, lastProvider := some candidate.id } :=
            w.changed h rfl
          exact w.bind (w.storeState hanswered) fun _ _ => w.pure (List.forall_mem_nil _)

theorem tryCandidates (request : ProviderRequest) {state : ConversationState}
    (h : Own state) (candidates : List (ProviderConfig μ)) (blocked : List Backend)
    (lastError : Option PyException) :
    T RoutingResponse (fun _ => [])
      (Routine.tryCandidates request state call.tenantId candidates blocked lastError) := by
  induction candidates generalizing blocked lastError with
  | nil => exact w.fail _ _
  | cons candidate rest ih =>
      rw [Routine.tryCandidates]
      apply w.bind w.deadlinePassed
      intro late _
      cases late with
      | true => exact w.raise _
      | false =>
          by_cases hblocked : candidate.backend ∈ blocked
          · simp only [Bool.false_eq_true, if_false, if_pos hblocked]
            exact w.bind (w.note _) fun _ _ => ih _ _
          · simp only [Bool.false_eq_true, if_false, if_neg hblocked]
            apply w.bind (w.note _)
            intro _ _
            apply w.bind (w.ask _)
            intro reply _
            cases reply with
            | ok response => exact w.commitAnswer h candidate response
            | error interruption =>
                cases interruption with
                | cancelled byDeadline =>
                    exact w.bind (w.noteDispatchCancelled candidate rest) fun _ _ => w.raise _
                | raised error =>
                    by_cases hcontrolled : Routine.isControlled error = true
                    · simp only [hcontrolled, if_true]
                      exact w.bind (w.note _) fun _ _ => ih _ _
                    · simp only [hcontrolled]
                      exact w.bind (w.note _) fun _ _ => w.raise _

theorem executeWithFallback (candidates : List (ProviderConfig μ)) (request : ProviderRequest)
    {state : ConversationState} (h : Own state) (blocked : List Backend) :
    T RoutingResponse (fun _ => [])
      (Routine.executeWithFallback candidates request state call.tenantId blocked) := by
  cases candidates with
  | nil => exact w.tryCandidates request h [] blocked none
  | cons first rest =>
      exact w.bind (w.note _) fun _ _ => w.tryCandidates request h (first :: rest) blocked none

theorem followDecision {state : ConversationState} (h : Own state)
    (allowedIds : List String) (blocked : List Backend)
    {next : ConversationState → List Backend → Routine μ RoutingResponse}
    (hnext : ∀ state blocked, Own state →
      T RoutingResponse (fun _ => []) (next state blocked))
    (decision : RouterDecision) :
    T RoutingResponse (fun _ => [])
      (Routine.followDecision call state allowedIds blocked next decision) := by
  obtain ⟨action, taskGroup, reason, hgroup⟩ := decision
  cases action with
  | retry =>
      apply w.bind (w.prepareRetry h)
      intro result hresult
      obtain ⟨stopped, retried⟩ := result
      cases stopped with
      | true => exact w.pure (List.forall_mem_nil _)
      | false => exact hnext retried blocked (List.forall_mem_singleton.mp hresult)
  | clarify => exact w.pure (List.forall_mem_nil _)
  | stop => exact w.pure (List.forall_mem_nil _)
  | answer =>
      apply w.bind (w.note _)
      intro _ _
      apply w.look
      · intro m
        exact w.executeWithFallback _ _ h blocked
      · intro m m' hmatched
        dsimp only
        rw [hmatched.own, hmatched.registry]

variable [Metric μ] {engine : RoutingEngine}

theorem routeBody {next : ConversationState → List Backend → Routine μ RoutingResponse}
    (hnext : ∀ state blocked, Own state →
      T RoutingResponse (fun _ => []) (next state blocked))
    {state : ConversationState} (h : Own state) (blocked : List Backend) :
    T RoutingResponse (fun _ => []) (Routine.routeBody engine call next state blocked) := by
  apply w.bind (w.guardFired state)
  intro fired _
  cases fired with
  | true => exact w.pure (List.forall_mem_nil _)
  | false =>
      apply w.bind (w.note _)
      intro _ _
      apply w.bind (w.resolveCandidates engine call.context state.excludedProviders)
      intro candidateSet _
      by_cases hids : candidateSet.ids = []
      · simp only [if_pos hids]
        exact w.fail _ _
      · simp only [if_neg hids]
        apply w.look
        · intro m
          apply w.bind (w.note _)
          intro _ _
          apply w.bind (w.climb _ _ _)
          intro result _
          exact w.followDecision h _ _ hnext result.1
        · intro m m' hmatched
          rw [hmatched.registry]

theorem routeLoop (rounds : ℕ) {state : ConversationState} (h : Own state)
    (blocked : List Backend) :
    T RoutingResponse (fun _ => []) (Routine.routeLoop engine call rounds state blocked) := by
  induction rounds generalizing state blocked with
  | zero => exact w.routeBody (fun _ _ _ => w.pure (List.forall_mem_nil _)) h blocked
  | succ rounds ih => exact w.routeBody (fun _ blocked h => ih h blocked) h blocked

omit [Metric μ] in
theorem attachDiagnostics (response : RoutingResponse) :
    T RoutingResponse (fun _ => []) (Routine.attachDiagnostics call response) := by
  rw [Routine.attachDiagnostics]
  by_cases hmode : call.developerMode = false
  · rw [if_pos hmode]
    exact w.pure (List.forall_mem_nil _)
  · rw [if_neg hmode]
    apply w.look
    · intro m
      cases buildDiagnostics m.shared.registry m.own {} with
      | none => exact w.raise _
      | some diagnostics => exact w.pure (List.forall_mem_nil _)
    · intro m m' h
      rw [h.own, h.registry]

theorem routeAndAttach {state : ConversationState} (h : Own state) :
    T RoutingResponse (fun _ => []) (Routine.routeAndAttach engine call state) := by
  apply w.bind (w.note _)
  intro _ _
  apply w.bind (w.routeLoop _ h [])
  intro response _
  exact w.attachDiagnostics response

theorem handleRetry :
    T RoutingResponse (fun _ => []) (Routine.handleRetry engine call) := by
  apply w.look
  · intro m
    cases hload : m.shared.conversations.load call.request.conversationId call.tenantId with
    | none => exact w.raise _
    | some stored =>
        have hmarked : Own (Routine.markImage call stored) := w.changed (w.loaded hload) rfl
        apply w.bind (w.note _)
        intro _ _
        by_cases himage : stored.hasImage = true ∧ call.hasImage = false
        · simp only [if_pos himage]
          exact w.fail _ _
        · simp only [if_neg himage]
          apply w.bind (w.note _)
          intro _ _
          apply w.bind (w.prepareRetry hmarked)
          intro result hresult
          obtain ⟨stopped, retried⟩ := result
          cases stopped with
          | true => exact w.attachDiagnostics _
          | false => exact w.routeAndAttach (List.forall_mem_singleton.mp hresult)
  · intro m m' h
    rw [h.record]

theorem handleMessage :
    T RoutingResponse (fun _ => []) (Routine.handleMessage engine call) := by
  apply w.bind (w.create engine)
  intro stored hstored
  have hfresh : Own (Routine.freshTurn call stored) :=
    w.changed (List.forall_mem_singleton.mp hstored) rfl
  exact w.bind (w.writeBack _ hfresh) fun _ _ => w.routeAndAttach hfresh

omit [Metric μ] in
theorem translate (raised : Raised) :
    T RoutingResponse (fun _ => []) (Routine.translate raised) := by
  cases raised with
  | cancelled byDeadline =>
      cases byDeadline with
      | true => exact w.fail _ _
      | false => exact w.raise _
  | routing error => exact w.raise _
  | conversationNotFound conversationId => exact w.raise _
  | policyNotFound policyId => exact w.raise _
  | exception error =>
      rw [Routine.translate]
      by_cases htimeout : error.kind = .timeoutError
      · simp only [if_pos htimeout]
        exact w.fail _ _
      · simp only [if_neg htimeout]
        apply w.look
        · intro m
          exact w.fail _ _
        · intro m m' h
          rw [h.own]

/-- A property of the steps is a property of the call. -/
theorem handle : T RoutingResponse (fun _ => []) (Routine.handle engine call) := by
  apply w.bind (w.ask .loopTime)
  intro now _
  apply w.bind (w.note _)
  intro _ _
  have hbody : T RoutingResponse (fun _ => []) (Routine.handleBody engine call) := by
    rw [Routine.handleBody]
    cases call.request.retry with
    | true => exact w.handleRetry
    | false => exact w.handleMessage
  apply w.bind (w.attempt hbody)
  intro result _
  cases result with
  | ok response => exact w.pure (List.forall_mem_nil _)
  | error raised => exact w.translate raised

end Tracking

end LLMRouting
