/-
# The stored records of every conversation

A call works on a copy of its conversation's record and writes the copy back, and calls on one
conversation may overwrite each other. Whatever they lose, they leave a record that makes
sense: its attempts are within the budget, its exclusions are paid for, and it names the
provider of an answer only with the answer. A retry is stored in two steps with no suspension
in between, so the others never see the exclusion without the attempt.
-/

import LLMRouting.Interaction.Upkeep
import LLMRouting.Routing.Crew
import LLMRouting.Routing.Overlap

namespace LLMRouting

open LLMRouting.Interaction

variable {μ α : Type}

/-- A record that makes sense under a budget of attempts. -/
structure ConversationState.Sound (budget : ℕ) (state : ConversationState) : Prop where
  maxAttempts_eq : state.maxAttempts = budget
  attemptCount_le : state.attemptCount ≤ budget
  nodup_excluded : state.excludedProviders.Nodup
  length_excluded_le : state.excludedProviders.length ≤ state.attemptCount
  answered : state.lastProvider.isSome → state.previousResponse.isSome

namespace ConversationState.Sound

variable {budget : ℕ} {state : ConversationState}

theorem created (budget : ℕ) (conversationId originalQuery : String) :
    Sound budget { conversationId := conversationId, originalQuery := originalQuery
                   maxAttempts := budget } where
  maxAttempts_eq := rfl
  attemptCount_le := Nat.zero_le _
  nodup_excluded := List.nodup_nil
  length_excluded_le := le_rfl
  answered := nofun

theorem freshTurn (h : state.Sound budget) (call : HandleCall) :
    (Routine.freshTurn call state).Sound budget where
  maxAttempts_eq := h.maxAttempts_eq
  attemptCount_le := Nat.zero_le _
  nodup_excluded := List.nodup_nil
  length_excluded_le := le_rfl
  answered := nofun

theorem markImage (h : state.Sound budget) (call : HandleCall) :
    (Routine.markImage call state).Sound budget :=
  ⟨h.maxAttempts_eq, h.attemptCount_le, h.nodup_excluded, h.length_excluded_le, h.answered⟩

theorem commit (h : state.Sound budget) (providerId response : String) :
    (state.answered providerId response).Sound budget :=
  ⟨h.maxAttempts_eq, h.attemptCount_le, h.nodup_excluded, h.length_excluded_le, fun _ => rfl⟩

theorem length_excludeLast_le (state : ConversationState) :
    state.excludeLast.excludedProviders.length ≤ state.excludedProviders.length + 1 := by
  rw [excludeLast]
  cases state.lastProvider with
  | none => exact Nat.le_succ _
  | some providerId =>
      simp only [excludeProvider]
      split
      · exact Nat.le_succ _
      · exact (List.length_append ..).le

/-- The attempt of a retry pays for its exclusion. -/
theorem retried (h : state.Sound budget) (hleft : state.attemptCount < budget) :
    state.retried.Sound budget := by
  have hextends := state.retried_retried
  refine ⟨?_, ?_, nodup_excluded_retried h.nodup_excluded, ?_, ?_⟩
  · rw [hextends.maxAttempts_eq, h.maxAttempts_eq]
  · rw [attemptCount_retried]
    exact hleft
  · have hlength := length_excludeLast_le state
    have hpaid := h.length_excluded_le
    rw [attemptCount_retried]
    exact hlength.trans (Nat.succ_le_succ hpaid)
  · rw [hextends.lastProvider_eq, hextends.previousResponse_eq]
    exact h.answered

/-- A record that is reset is as good as new. -/
theorem reset (h : state.Sound budget) :
    Sound budget { state with previousResponse := none, attemptCount := 0, excludedProviders := []
                              lastProvider := none } :=
  ⟨h.maxAttempts_eq, Nat.zero_le _, List.nodup_nil, le_rfl, nofun⟩

end ConversationState.Sound

/-- All stored records are sound, and those there were before are still there. -/
structure ConversationStateManager.Kept (budget : ℕ) (manager before : ConversationStateManager) :
    Prop where
  sound : ∀ conversationId tenantId state, manager.load conversationId tenantId = some state →
    state.Sound budget
  kept : ∀ conversationId tenantId, (before.load conversationId tenantId).isSome →
    (manager.load conversationId tenantId).isSome

namespace ConversationStateManager.Kept

variable {budget : ℕ} {before manager : ConversationStateManager} {state : ConversationState}
  {tenantId : String}

theorem put (h : manager.Kept budget before) (hstate : state.Sound budget) (tenantId : String) :
    (manager.put state tenantId).Kept budget before where
  sound conversationId otherTenant stored hload := by
    rw [load_put] at hload
    split at hload
    · cases hload
      exact hstate
    · exact h.sound conversationId otherTenant stored hload
  kept conversationId otherTenant hbefore := by
    rw [load_put]
    split
    · rfl
    · exact h.kept conversationId otherTenant hbefore

/-- The second of two writes of one record counts. -/
theorem put_put (h : manager.Kept budget before) (hstate : state.Sound budget)
    {first : ConversationState} (hid : first.conversationId = state.conversationId) :
    ((manager.put first tenantId).put state tenantId).Kept budget before := by
  have hloads : ∀ conversationId otherTenant,
      ((manager.put first tenantId).put state tenantId).load conversationId otherTenant =
        (manager.put state tenantId).load conversationId otherTenant := by
    intro conversationId otherTenant
    rw [load_put, load_put, load_put, hid]
    split <;> rfl
  have hput := h.put hstate tenantId
  constructor
  · intro conversationId otherTenant stored hload
    rw [hloads] at hload
    exact hput.sound conversationId otherTenant stored hload
  · intro conversationId otherTenant hbefore
    rw [hloads]
    exact hput.kept conversationId otherTenant hbefore

theorem reset {manager' : ConversationStateManager} (h : manager.Kept budget before)
    {conversationId : String} (hreset : manager.reset conversationId tenantId = some manager') :
    manager'.Kept budget before := by
  obtain ⟨state, hload, hupdate⟩ := Option.bind_eq_some_iff.mp hreset
  obtain ⟨_, -, rfl⟩ := Option.map_eq_some_iff.mp hupdate
  exact h.put (h.sound _ _ _ hload).reset tenantId

end ConversationStateManager.Kept

/-- The records of a world, compared with those there were before. -/
def World.Records (budget : ℕ) (before : ConversationStateManager) (world : World μ) : Prop :=
  world.conversations.Kept budget before

/-- The routine keeps the records up, and returns what `post` says. -/
def Keeping (budget : ℕ) (before : ConversationStateManager) (routine : Routine μ α)
    (post : α → Prop) : Prop :=
  routine.KeepsUp (Pool.Invariant (World.Records budget before) fun _ => True) post

namespace Routine

variable {budget : ℕ} {before : ConversationStateManager} {state : ConversationState}
  {tenantId : String}

theorem note_keeping (update : Capture μ → Capture μ) :
    Keeping budget before (note update) fun _ => True :=
  Coro.keepsUp_modify fun _ hm => ⟨hm.1, trivial⟩

theorem memory_bind_keeping {next : Memory μ → Routine μ α} {post : α → Prop}
    (h : ∀ m, m.shared.Records budget before → Keeping budget before (next m) post) :
    Keeping budget before (memory >>= next) post :=
  Coro.keepsUp_get_bind fun m hm => h m hm.1

theorem deadlinePassed_keeping :
    Keeping budget before (deadlinePassed (μ := μ)) fun _ => True :=
  Coro.keepsUp_ask.bind fun _ _ => memory_bind_keeping fun _ _ => Coro.keepsUp_pure trivial

theorem fail_keeping {kind : RoutingErrorKind} {failure : TerminalFailure} {post : α → Prop} :
    Keeping budget before (fail (μ := μ) kind failure) post := by
  apply memory_bind_keeping
  intro m _
  cases buildDiagnostics m.shared.registry m.own failure with
  | none => exact Coro.keepsUp_raise
  | some diagnostics => exact Coro.keepsUp_raise

theorem writeBack_keeping (h : state.Sound budget) :
    Keeping budget before (writeBack (μ := μ) state tenantId) fun _ => True := by
  apply memory_bind_keeping
  intro m hm
  cases hupdate : m.shared.conversations.update state tenantId with
  | none => exact Coro.keepsUp_raise
  | some conversations =>
      obtain ⟨_, -, rfl⟩ := Option.map_eq_some_iff.mp hupdate
      exact Coro.keepsUp_modify fun _ _ => ⟨hm.put h tenantId, trivial⟩

theorem storeState_keeping (h : state.Sound budget) :
    Keeping budget before (storeState (μ := μ) state tenantId) fun _ => True :=
  (note_keeping _).bind fun _ _ => writeBack_keeping h

theorem guardFired_keeping (state : ConversationState) :
    Keeping budget before (guardFired (μ := μ) state) fun fired =>
      fired = false → state.attemptCount < state.maxAttempts := by
  apply memory_bind_keeping
  intro m _
  apply Coro.keepsUp_pure
  intro hfired
  rw [retryGuardFired, Bool.or_eq_false_iff, decide_eq_false_iff_not, not_le] at hfired
  exact hfired.1

/-- The exclusion and the attempt, stored one after the other. -/
theorem storeTwice_keeping {first : ConversationState} (h : state.Sound budget)
    (hid : first.conversationId = state.conversationId) :
    Keeping budget before (do storeState (μ := μ) first tenantId; storeState state tenantId)
      fun _ => True := by
  intro m hm
  rw [storeState, remember, note, bind_assoc]
  apply Coro.wp_modify_bind.mpr
  refine ⟨trivial, ?_⟩
  rw [writeBack, bind_assoc]
  apply Discipline.memory_bind
  cases hload : m.shared.conversations.load first.conversationId tenantId with
  | none =>
      have hnone : m.shared.conversations.update first tenantId = none := by
        rw [ConversationStateManager.update, hload]
        rfl
      simp only [hnone]
      exact ⟨hm, fun _ _ => trivial⟩
  | some original =>
      simp only [ConversationStateManager.update_of_load hload]
      apply Coro.wp_modify_bind.mpr
      refine ⟨trivial, ?_⟩
      rw [storeState, remember, note]
      apply Coro.wp_modify_bind.mpr
      refine ⟨trivial, ?_⟩
      rw [writeBack]
      apply Discipline.memory_bind
      have hfirst : (m.shared.conversations.put first tenantId).load state.conversationId tenantId =
          some first := by
        rw [← hid, ConversationStateManager.load_put_self]
      simp only [ConversationStateManager.update_of_load hfirst]
      exact ⟨trivial, ⟨hm.1.put_put h hid, trivial⟩, fun _ _ => trivial⟩

theorem prepareRetry_keeping (h : state.Sound budget) :
    Keeping budget before (prepareRetry (μ := μ) state tenantId) fun result =>
      result.2.Sound budget := by
  apply (guardFired_keeping state).bind
  intro fired hleft
  cases fired with
  | true => exact Coro.keepsUp_pure h
  | false =>
      have hretried := h.retried (h.maxAttempts_eq ▸ hleft rfl)
      have hend : ∀ state : ConversationState, state.Sound budget → Keeping budget before
          (do return (← guardFired (μ := μ) state, state)) fun result => result.2.Sound budget :=
        fun state hstate => (guardFired_keeping state).bind fun _ _ => Coro.keepsUp_pure hstate
      rw [ConversationState.retried, ConversationState.excludeLast] at hretried
      cases hlast : state.lastProvider with
      | none =>
          simp only [hlast] at hretried
          simp only [excludeLast, hlast, pure_bind]
          exact (storeState_keeping hretried).bind fun _ _ => hend _ hretried
      | some providerId =>
          simp only [hlast] at hretried
          simp only [excludeLast, hlast, bind_assoc, pure_bind]
          have htwice : Keeping budget before
              (do storeState (μ := μ) (state.excludeProvider providerId) tenantId
                  storeState (state.excludeProvider providerId).incrementAttempt tenantId)
              fun _ => True :=
            storeTwice_keeping hretried rfl
          have hboth := htwice.bind fun _ _ => hend _ hretried
          rwa [bind_assoc] at hboth

theorem resolveCandidates_keeping [Metric μ] {engine : RoutingEngine} {context : RoutingContext}
    {excluded : List String} :
    Keeping budget before (resolveCandidates (μ := μ) engine context excluded) fun _ => True := by
  apply memory_bind_keeping
  intro m _
  cases engine.candidateResolver with
  | false => exact Coro.keepsUp_pure trivial
  | true =>
      cases m.own.tenant with
      | none => exact Coro.keepsUp_pure trivial
      | some tenant =>
          dsimp only
          cases resolveCandidateSet m.shared.registry m.shared.governance m.shared.policies tenant
              context excluded with
          | error error =>
              cases error with
              | policyNotFound policyId => exact Coro.keepsUp_raise
              | unexpected error => exact Coro.keepsUp_raise
          | ok candidateSet =>
              have haudit : Keeping budget before (recordPolicyAudit engine tenant candidateSet)
                  fun _ => True := by
                apply memory_bind_keeping
                intro m _
                by_cases hrecords : m.own.policyAuditRecorded = false ∧
                    engine.policyAuditRepository = true
                · simp only [if_pos hrecords]
                  exact Coro.KeepsUp.bind
                    (Coro.keepsUp_modify fun _ hm => ⟨hm.1, trivial⟩) fun _ _ => note_keeping _
                · simp only [if_neg hrecords]
                  exact Coro.keepsUp_pure trivial
              exact (note_keeping _).bind fun _ _ =>
                haudit.bind fun _ _ => Coro.keepsUp_pure trivial

theorem climb_keeping (request : RouterRequest) (tiers : List RouterTier)
    (blocked : List Backend) :
    Keeping budget before (climb (μ := μ) request tiers blocked) fun _ => True := by
  induction tiers generalizing blocked with
  | nil => exact fail_keeping
  | cons tier rest ih =>
      apply (note_keeping _).bind
      intro _ _
      apply Coro.KeepsUp.bind Coro.keepsUp_ask
      intro reply _
      cases judged request reply with
      | ok decision => exact (note_keeping _).bind fun _ _ => Coro.keepsUp_pure trivial
      | error interruption =>
          cases interruption with
          | cancelled byDeadline =>
              exact deadlinePassed_keeping.bind fun _ _ =>
                (note_keeping _).bind fun _ _ => Coro.keepsUp_raise
          | raised error => exact (note_keeping _).bind fun _ _ => ih _

theorem noteDispatchCancelled_keeping (candidate : ProviderConfig μ)
    (pending : List (ProviderConfig μ)) :
    Keeping budget before (noteDispatchCancelled candidate pending) fun _ => True := by
  apply deadlinePassed_keeping.bind
  intro _ _
  apply (note_keeping _).bind
  intro _ _
  apply deadlinePassed_keeping.bind
  intro later _
  cases later with
  | true => exact note_keeping _
  | false => exact Coro.keepsUp_pure trivial

theorem commitAnswer_keeping (h : state.Sound budget) (candidate : ProviderConfig μ)
    (response : String) :
    Keeping budget before (commitAnswer state tenantId candidate response) fun _ => True := by
  apply (note_keeping _).bind
  intro _ _
  apply Coro.KeepsUp.bind Coro.keepsUp_ask
  intro reply _
  cases reply with
  | error error => exact fail_keeping
  | ok clean =>
      apply deadlinePassed_keeping.bind
      intro late _
      cases late with
      | true => exact Coro.keepsUp_raise
      | false =>
          exact (storeState_keeping (h.commit candidate.id clean)).bind fun _ _ =>
            Coro.keepsUp_pure trivial

theorem tryCandidates_keeping (h : state.Sound budget) (tenantId : String)
    (request : ProviderRequest) (candidates : List (ProviderConfig μ)) (blocked : List Backend)
    (lastError : Option PyException) :
    Keeping budget before (tryCandidates request state tenantId candidates blocked lastError)
      fun _ => True := by
  induction candidates generalizing blocked lastError with
  | nil => exact fail_keeping
  | cons candidate rest ih =>
      apply deadlinePassed_keeping.bind
      intro late _
      cases late with
      | true => exact Coro.keepsUp_raise
      | false =>
          by_cases hblocked : candidate.backend ∈ blocked
          · simp only [Bool.false_eq_true, if_false, if_pos hblocked]
            exact (note_keeping _).bind fun _ _ => ih _ _
          · simp only [Bool.false_eq_true, if_false, if_neg hblocked]
            apply (note_keeping _).bind
            intro _ _
            apply Coro.KeepsUp.bind Coro.keepsUp_ask
            intro reply _
            cases reply with
            | ok response => exact commitAnswer_keeping h candidate response
            | error interruption =>
                cases interruption with
                | cancelled byDeadline =>
                    exact (noteDispatchCancelled_keeping candidate rest).bind fun _ _ =>
                      Coro.keepsUp_raise
                | raised error =>
                    by_cases hcontrolled : isControlled error = true
                    · simp only [hcontrolled, if_true]
                      exact (note_keeping _).bind fun _ _ => ih _ _
                    · simp only [hcontrolled]
                      exact (note_keeping _).bind fun _ _ => Coro.keepsUp_raise

theorem executeWithFallback_keeping (h : state.Sound budget) (candidates : List (ProviderConfig μ))
    (request : ProviderRequest) (blocked : List Backend) :
    Keeping budget before (executeWithFallback candidates request state tenantId blocked)
      fun _ => True := by
  cases candidates with
  | nil => exact tryCandidates_keeping h tenantId request [] blocked none
  | cons first rest =>
      exact (note_keeping _).bind fun _ _ =>
        tryCandidates_keeping h tenantId request (first :: rest) blocked none

section Calls

variable {call : HandleCall}

theorem followDecision_keeping (h : state.Sound budget) (allowedIds : List String)
    (blocked : List Backend)
    {next : ConversationState → List Backend → Routine μ RoutingResponse}
    (hnext : ∀ state blocked, state.Sound budget →
      Keeping budget before (next state blocked) fun _ => True)
    (decision : RouterDecision) :
    Keeping budget before (followDecision call state allowedIds blocked next decision)
      fun _ => True := by
  obtain ⟨action, taskGroup, reason, hgroup⟩ := decision
  cases action with
  | retry =>
      apply (prepareRetry_keeping h).bind
      rintro ⟨stopped, retried⟩ hretried
      cases stopped with
      | true => exact Coro.keepsUp_pure trivial
      | false => exact hnext retried blocked hretried
  | clarify => exact Coro.keepsUp_pure trivial
  | stop => exact Coro.keepsUp_pure trivial
  | answer =>
      apply (note_keeping _).bind
      intro _ _
      exact memory_bind_keeping fun _ _ => executeWithFallback_keeping h _ _ blocked

theorem attachDiagnostics_keeping (response : RoutingResponse) :
    Keeping budget before (attachDiagnostics (μ := μ) call response) fun _ => True := by
  rw [attachDiagnostics]
  by_cases hmode : call.developerMode = false
  · rw [if_pos hmode]
    exact Coro.keepsUp_pure trivial
  · rw [if_neg hmode]
    apply memory_bind_keeping
    intro m _
    cases buildDiagnostics m.shared.registry m.own {} with
    | none => exact Coro.keepsUp_raise
    | some diagnostics => exact Coro.keepsUp_pure trivial

theorem translate_keeping (raised : Raised) :
    Keeping budget before (translate (μ := μ) raised) fun _ => True := by
  cases raised with
  | cancelled byDeadline =>
      cases byDeadline with
      | true => exact fail_keeping
      | false => exact Coro.keepsUp_raise
  | routing error => exact Coro.keepsUp_raise
  | conversationNotFound conversationId => exact Coro.keepsUp_raise
  | policyNotFound policyId => exact Coro.keepsUp_raise
  | exception error =>
      rw [translate]
      by_cases htimeout : error.kind = .timeoutError
      · simp only [if_pos htimeout]
        exact fail_keeping
      · simp only [if_neg htimeout]
        exact memory_bind_keeping fun _ _ => fail_keeping

variable [Metric μ] {engine : RoutingEngine}

theorem routeBody_keeping (h : state.Sound budget)
    {next : ConversationState → List Backend → Routine μ RoutingResponse}
    (hnext : ∀ state blocked, state.Sound budget →
      Keeping budget before (next state blocked) fun _ => True)
    (blocked : List Backend) :
    Keeping budget before (routeBody engine call next state blocked) fun _ => True := by
  apply (guardFired_keeping state).bind
  intro fired _
  cases fired with
  | true => exact Coro.keepsUp_pure trivial
  | false =>
      apply (note_keeping _).bind
      intro _ _
      apply resolveCandidates_keeping.bind
      intro candidateSet _
      by_cases hids : candidateSet.ids = []
      · simp only [if_pos hids]
        exact fail_keeping
      · simp only [if_neg hids]
        apply memory_bind_keeping
        intro m _
        apply (note_keeping _).bind
        intro _ _
        apply (climb_keeping _ _ _).bind
        intro result _
        exact followDecision_keeping h _ _ hnext result.1

theorem routeLoop_keeping (rounds : ℕ) (h : state.Sound budget) (blocked : List Backend) :
    Keeping budget before (routeLoop (μ := μ) engine call rounds state blocked)
      fun _ => True := by
  induction rounds generalizing state blocked with
  | zero => exact routeBody_keeping h (fun _ _ _ => Coro.keepsUp_pure trivial) blocked
  | succ rounds ih => exact routeBody_keeping h (fun _ blocked h => ih h blocked) blocked

theorem routeAndAttach_keeping (h : state.Sound budget) :
    Keeping budget before (routeAndAttach (μ := μ) engine call state) fun _ => True := by
  apply (note_keeping _).bind
  intro _ _
  apply (routeLoop_keeping _ h []).bind
  exact fun response _ => attachDiagnostics_keeping response

theorem handleRetry_keeping :
    Keeping budget before (handleRetry (μ := μ) engine call) fun _ => True := by
  apply memory_bind_keeping
  intro m hm
  cases hload : m.shared.conversations.load call.request.conversationId call.tenantId with
  | none => exact Coro.keepsUp_raise
  | some stored =>
      apply (note_keeping _).bind
      intro _ _
      by_cases himage : stored.hasImage = true ∧ call.hasImage = false
      · simp only [if_pos himage]
        exact fail_keeping
      · simp only [if_neg himage]
        apply (note_keeping _).bind
        intro _ _
        apply (prepareRetry_keeping ((hm.sound _ _ _ hload).markImage call)).bind
        rintro ⟨stopped, retried⟩ hretried
        cases stopped with
        | true => exact attachDiagnostics_keeping _
        | false => exact routeAndAttach_keeping hretried

omit [Metric μ] in
theorem loadOrCreate_keeping (engine : RoutingEngine) (call : HandleCall) :
    Keeping engine.maxAttempts before (loadOrCreate (μ := μ) engine call) fun state =>
      state.Sound engine.maxAttempts := by
  apply memory_bind_keeping
  intro m hm
  cases hload : m.shared.conversations.load call.request.conversationId call.tenantId with
  | some stored => exact Coro.keepsUp_pure (hm.sound _ _ _ hload)
  | none =>
      have hcreated := ConversationState.Sound.created engine.maxAttempts
        call.request.conversationId call.request.message
      exact Coro.KeepsUp.bind
        (Coro.keepsUp_modify fun _ _ => ⟨hm.put hcreated call.tenantId, trivial⟩)
        fun _ _ => Coro.keepsUp_pure hcreated

theorem handleMessage_keeping :
    Keeping engine.maxAttempts before (handleMessage (μ := μ) engine call) fun _ => True := by
  apply (loadOrCreate_keeping engine call).bind
  intro stored hstored
  exact (writeBack_keeping (hstored.freshTurn call)).bind fun _ _ =>
    routeAndAttach_keeping (hstored.freshTurn call)

/-- A call keeps the records up. -/
theorem handle_keeping (engine : RoutingEngine) (call : HandleCall) :
    Keeping engine.maxAttempts before (handle (μ := μ) engine call) fun _ => True := by
  apply Coro.KeepsUp.bind Coro.keepsUp_ask
  intro now _
  apply (note_keeping _).bind
  intro _ _
  have hbody : Keeping engine.maxAttempts before (handleBody (μ := μ) engine call)
      fun _ => True := by
    rw [handleBody]
    cases call.request.retry with
    | true => exact handleRetry_keeping
    | false => exact handleMessage_keeping
  apply Coro.KeepsUp.bind hbody.attempt
  intro result _
  cases result with
  | ok response => exact Coro.keepsUp_pure trivial
  | error raised => exact translate_keeping raised

end Calls

end Routine

/-- Whatever calls run interleaved, on one conversation or on many, and whatever else happens
that leaves the records sound: whenever somebody else can look, every stored record makes sense
under the engine's budget, and no conversation is lost. -/
theorem records_of_run [Metric μ] {engine : RoutingEngine} {world : World μ}
    {moves : List (EngineMove μ)} {pool : EnginePool μ}
    (hsound : ∀ conversationId tenantId state,
      world.conversations.load conversationId tenantId = some state →
        state.Sound engine.maxAttempts)
    (hrun : Steps (Pool.Considerate (engineCrew μ engine)
      (World.Records engine.maxAttempts world.conversations)) ⟨world, []⟩ moves pool) :
    ∀ conversationId tenantId,
      (∀ state, pool.shared.conversations.load conversationId tenantId = some state →
        state.Sound engine.maxAttempts) ∧
      ((world.conversations.load conversationId tenantId).isSome →
        (pool.shared.conversations.load conversationId tenantId).isSome) := by
  have hprogram : ∀ call, ((engineCrew μ engine).program call).KeepsUp
      (Pool.Invariant (World.Records engine.maxAttempts world.conversations) fun _ => True)
      fun _ => True := fun call => Routine.handle_keeping engine call
  have hkept := Pool.keptUp_of_run hprogram (fun _ => trivial) ⟨hsound, fun _ _ h => h⟩ hrun
  intro conversationId tenantId
  exact ⟨hkept.shared.sound conversationId tenantId, hkept.shared.kept conversationId tenantId⟩

/-- A question is answered; then of two retries that overlap one goes on to its answer before
the other does. -/
def overtaken : List (EngineMove ℤ) :=
  [.start (asking "question").call agreeable, .resume 0 agreeable, .resume 0 agreeable,
    .start retrying.call agreeable, .start retrying.call agreeable, .resume 2 agreeable,
    .resume 2 agreeable, .resume 1 agreeable]

def overtakenWorld : World ℤ :=
  (deployment
    [generalProvider "first" 1 .google, generalProvider "second" 2 .nvidia,
      generalProvider "third" 3 .groq] none).shared

def overtakenPool : Option (EnginePool ℤ) :=
  replay (Pool.step (engineCrew ℤ { maxAttempts := 5 })) ⟨overtakenWorld, []⟩ overtaken

/-- What they leave behind is sound. -/
theorem records_of_run_overtaken :
    ∃ pool ∈ overtakenPool, ∃ state ∈ pool.shared.conversations.load "c" "legacy",
      state.attemptCount = 2 ∧ state.excludedProviders.length ≤ 2 := by
  obtain ⟨pool, hpool, state, hstate, hcount⟩ :
      ∃ pool ∈ overtakenPool, ∃ state ∈ pool.shared.conversations.load "c" "legacy",
        state.attemptCount = 2 := by
    decide +kernel
  have hempty : ∀ conversationId tenantId state,
      overtakenWorld.conversations.load conversationId tenantId = some state → state.Sound 5 :=
    fun _ _ _ hload => nomatch hload
  have hrun : Steps (Pool.Considerate (engineCrew ℤ { maxAttempts := 5 })
      (World.Records 5 overtakenWorld.conversations)) ⟨overtakenWorld, []⟩ overtaken pool :=
    Pool.considerate_of_replay hpool (by simp [overtaken])
  have hsound := (records_of_run hempty hrun "c" "legacy").1 state hstate
  refine ⟨pool, hpool, state, hstate, hcount, ?_⟩
  rw [← hcount]
  exact hsound.length_excluded_le

end LLMRouting
