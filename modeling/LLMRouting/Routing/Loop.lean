/-
# The routing loop

One iteration of `_route` resolves candidates, consults the ladder and follows its
decision. What it can do is said once, as an inductive outcome; a property of a whole
loop follows from that by the loop rule, whose induction is on the attempts that are left.
The bound on the number of rounds is no cut-off: `route_eq` is the loop's equation.
-/

import LLMRouting.Routing.Outcomes

namespace LLMRouting

open LLMRouting.Interaction

variable {μ : Type}

namespace Routine

variable {α : Type} {state : ConversationState} {tenantId : String}

/-- Whatever follows the exclusion sees the same record. -/
theorem excludeLast_bind_congr {next next' : ConversationState → Routine μ α}
    (h : next state.excludeLast = next' state.excludeLast) :
    excludeLast state tenantId >>= next = excludeLast state tenantId >>= next' := by
  rw [excludeLast]
  unfold ConversationState.excludeLast at h
  cases hlast : state.lastProvider with
  | none =>
      rw [hlast] at h
      exact h
  | some providerId =>
      rw [hlast] at h
      simp only [bind_assoc, pure_bind]
      exact congrArg _ (funext fun _ => h)

/-- Whatever follows the retry bookkeeping sees the record as it was, stopped, or the record
after one retry. -/
theorem prepareRetry_bind_congr {next next' : Bool × ConversationState → Routine μ α}
    (hexhausted : next (true, state) = next' (true, state))
    (hcounted : ∀ stopped, next (stopped, state.retried) = next' (stopped, state.retried)) :
    prepareRetry state tenantId >>= next = prepareRetry state tenantId >>= next' := by
  rw [prepareRetry]
  simp only [bind_assoc]
  refine congrArg _ (funext fun fired => ?_)
  cases fired with
  | true => exact hexhausted
  | false =>
      simp only [Bool.false_eq_true, if_false, bind_assoc, pure_bind]
      refine excludeLast_bind_congr (congrArg _ (funext fun _ => congrArg _ (funext fun _ => ?_)))
      exact hcounted _

/-- An iteration goes on at most to the record after one retry, and only while there is
budget left. -/
theorem routeBody_congr [Metric μ] {engine : RoutingEngine} {call : HandleCall}
    {blocked : List Backend}
    {next next' : ConversationState → List Backend → Routine μ RoutingResponse}
    (h : state.attemptCount < state.maxAttempts →
      ∀ blocked', next state.retried blocked' = next' state.retried blocked') :
    routeBody engine call next state blocked = routeBody engine call next' state blocked := by
  by_cases hbudget : state.attemptCount < state.maxAttempts
  · have hfollow : ∀ allowedIds blocked' decision,
        followDecision call state allowedIds blocked' next decision =
          followDecision call state allowedIds blocked' next' decision := by
      intro allowedIds blocked' decision
      unfold followDecision
      split
      · refine prepareRetry_bind_congr rfl fun stopped => ?_
        cases stopped with
        | true => rfl
        | false => exact h hbudget blocked'
      · rfl
      · rfl
      · rfl
    unfold routeBody
    simp only [hfollow]
  · have hfired : ∀ registry : Registry μ, retryGuardFired registry state = true := by
      intro registry
      rw [retryGuardFired, decide_eq_true (not_lt.mp hbudget), Bool.true_or]
    unfold routeBody guardFired
    simp only [bind_assoc, pure_bind, hfired, if_true]

/-- The loop repeats its body until an iteration returns. -/
theorem route_eq [Metric μ] (engine : RoutingEngine) (call : HandleCall)
    (state : ConversationState) (blocked : List Backend) :
    (route engine call state blocked : Routine μ RoutingResponse) =
      routeBody engine call (route engine call) state blocked := by
  have hretried : state.retried.maxAttempts - state.retried.attemptCount =
      state.maxAttempts - state.attemptCount - 1 := by
    rw [ConversationState.attemptCount_retried,
      (ConversationState.retried_retried state).maxAttempts_eq]
    omega
  rw [route]
  cases hrounds : state.maxAttempts - state.attemptCount with
  | zero => exact routeBody_congr fun hbudget => by omega
  | succ rounds =>
      refine routeBody_congr fun _ blocked' => ?_
      rw [route, hretried, hrounds, Nat.add_sub_cancel]

/-- The loop never reaches the cut-off if it is allowed as many rounds as the budget has
attempts left. -/
theorem routeLoop_eq_route [Metric μ] (engine : RoutingEngine) (call : HandleCall)
    {rounds : ℕ} {state : ConversationState} (blocked : List Backend)
    (h : state.maxAttempts - state.attemptCount ≤ rounds) :
    (routeLoop engine call rounds state blocked : Routine μ RoutingResponse) =
      route engine call state blocked := by
  induction rounds generalizing state blocked with
  | zero => rw [route, Nat.le_zero.mp h]
  | succ rounds ih =>
      rw [route_eq]
      apply routeBody_congr
      intro hbudget blocked'
      apply ih
      rw [ConversationState.attemptCount_retried,
        (ConversationState.retried_retried state).maxAttempts_eq]
      omega

end Routine

namespace Discipline

open Routine

variable {c : Contract (Memory μ)} {call : HandleCall} (d : Discipline c call.tenantId)
  {engine : RoutingEngine} {state : ConversationState} {m : Memory μ}

/-- The ladder of one iteration: the guard is open, a candidate set with candidates is
resolved, and every tier is asked about the request made from it. -/
structure Consultation [Metric μ] (engine : RoutingEngine) (call : HandleCall)
    (d : Discipline c call.tenantId) (state : ConversationState) (m : Memory μ)
    (candidateSet : CandidateSet μ) (ladder : List (EngineEvent μ)) : Prop where
  guard : retryGuardFired m.shared.registry state = false
  resolution : Resolution engine call.context state.excludedProviders m candidateSet
  ids_ne_nil : candidateSet.ids ≠ []
  heldAsking : ∀ event ∈ ladder, d.held state event.memory
  undispatched : ∀ event ∈ ladder, event.dispatched? = none
  routed : ∀ event ∈ ladder, ∀ asked ∈ event.routed?, asked = routerRequest call state
    (m.shared.registry.availableTaskGroups (some candidateSet.ids) call.hasImage)
  asked_sublist : (ladder.filterMap EngineEvent.tier?).Sublist [.primaryRouter, .fallbackRouter]
  attempts : ladderAttempts ladder = [state.attemptCount]
  head : ∃ (first : EngineEvent μ) (rest : List (EngineEvent μ)), ladder = first :: rest ∧
    Quiet m first.memory ∧ first.routed? = some (routerRequest call state
      (m.shared.registry.availableTaskGroups (some candidateSet.ids) call.hasImage))

/-- The ladder's last reply is the decision that is followed. -/
def DecidedBy (ladder : List (EngineEvent μ)) (decision : RouterDecision) : Prop :=
  ∃ before last, ladder = before ++ [last] ∧ EngineEvent.Decides decision last

/-- A router may ask for another retry only if the call is one. -/
theorem Consultation.retry_of_decidedBy [Metric μ] {d : Discipline c call.tenantId}
    {candidateSet : CandidateSet μ} {ladder : List (EngineEvent μ)}
    (hconsulted : Consultation engine call d state m candidateSet ladder)
    {decision : RouterDecision} (hdecided : DecidedBy ladder decision)
    (haction : decision.action = .retry) : call.request.retry = true := by
  obtain ⟨before, last, rfl, hlast⟩ := hdecided
  have hsuits := hlast.suits (hconsulted.routed last (by simp))
  exact hsuits.retry_of_action haction

/-- What one iteration can do; `rest` is the outcome of the loop from the next one on, given
the backends that have refused so far. -/
inductive IterationOutcome [Metric μ] (engine : RoutingEngine) (call : HandleCall)
    (d : Discipline c call.tenantId) (state : ConversationState) (blocked : List Backend)
    (m : Memory μ)
    (rest : List Backend → Memory μ → List (EngineEvent μ) → Memory μ →
      Except Raised RoutingResponse → Prop) :
    List (EngineEvent μ) → Memory μ → Except Raised RoutingResponse → Prop
  | guarded (guard : retryGuardFired m.shared.registry state = true) :
      IterationOutcome engine call d state blocked m rest [] m
        (.ok (stopResponse state.conversationId))
  | refused {m' : Memory μ} {raised : Raised} (held : d.held state m') :
      IterationOutcome engine call d state blocked m rest [] m' (.error raised)
  | undecided {candidateSet : CandidateSet μ} {ladder : List (EngineEvent μ)} {m' : Memory μ}
      {raised : Raised} (consulted : Consultation engine call d state m candidateSet ladder)
      (held : d.held state m') :
      IterationOutcome engine call d state blocked m rest ladder m' (.error raised)
  | replied {candidateSet : CandidateSet μ} {ladder : List (EngineEvent μ)} {m' : Memory μ}
      {decision : RouterDecision} {response : RoutingResponse}
      (consulted : Consultation engine call d state m candidateSet ladder)
      (decided : DecidedBy ladder decision) (held : d.held state m')
      (action : decision.action = .clarify ∨ decision.action = .stop)
      (response_action : response.action = decision.action) :
      IterationOutcome engine call d state blocked m rest ladder m' (.ok response)
  | stopped {candidateSet : CandidateSet μ} {ladder : List (EngineEvent μ)} {m' : Memory μ}
      {decision : RouterDecision} {state' : ConversationState}
      (consulted : Consultation engine call d state m candidateSet ladder)
      (decided : DecidedBy ladder decision) (action : decision.action = .retry)
      (held : d.held state' m') (record : state' = state ∨ state' = state.retried)
      (guard : retryGuardFired m'.shared.registry state' = true) :
      IterationOutcome engine call d state blocked m rest ladder m'
        (.ok (stopResponse state'.conversationId))
  | lost {candidateSet : CandidateSet μ} {ladder : List (EngineEvent μ)} {m' : Memory μ}
      {raised : Raised} (consulted : Consultation engine call d state m candidateSet ladder)
      (lost : d.lost m') :
      IterationOutcome engine call d state blocked m rest ladder m' (.error raised)
  | retried {candidateSet : CandidateSet μ} {ladder trace : List (EngineEvent μ)}
      {next m' : Memory μ} {decision : RouterDecision} {out : Except Raised RoutingResponse}
      {blocked' : List Backend}
      (consulted : Consultation engine call d state m candidateSet ladder)
      (decided : DecidedBy ladder decision) (action : decision.action = .retry)
      (refused : ∀ backendOf,
        blocked' = blocked ++ ladder.flatMap (EngineEvent.refusals backendOf))
      (held : d.held state.retried next) (later : rest blocked' next trace m' out)
      (guard : retryGuardFired next.shared.registry state.retried = false) :
      IterationOutcome engine call d state blocked m rest (ladder ++ trace) m' out
  | executed {candidateSet : CandidateSet μ} {ladder trace : List (EngineEvent μ)}
      {asked m' : Memory μ} {decision : RouterDecision} {out : Except Raised RoutingResponse}
      {blocked' : List Backend}
      (consulted : Consultation engine call d state m candidateSet ladder)
      (decided : DecidedBy ladder decision) (action : decision.action = .answer)
      (refused : ∀ backendOf,
        blocked' = blocked ++ ladder.flatMap (EngineEvent.refusals backendOf))
      (held : d.held state asked)
      (chain : d.ChainOutcome state
        (asked.shared.registry.candidatesFor (decision.answeredGroup action) call.hasImage
          state.excludedProviders (some candidateSet.ids) asked.own.tenant.isSome) blocked'
        trace m' out) :
      IterationOutcome engine call d state blocked m rest (ladder ++ trace) m' out

theorem followDecision [Metric μ] {candidateSet : CandidateSet μ}
    {ladder : List (EngineEvent μ)} {blocked blocked' : List Backend} {m' : Memory μ}
    {decision : RouterDecision}
    {next : ConversationState → List Backend → Routine μ RoutingResponse}
    {rest : List Backend → Memory μ → List (EngineEvent μ) → Memory μ →
      Except Raised RoutingResponse → Prop}
    (hconsulted : Consultation engine call d state m candidateSet ladder)
    (hdecided : DecidedBy ladder decision)
    (hrefused : ∀ backendOf,
      blocked' = blocked ++ ladder.flatMap (EngineEvent.refusals backendOf))
    (hm' : d.held state m')
    (hnext : ∀ m₁ blocked', d.held state.retried m₁ →
      retryGuardFired m₁.shared.registry state.retried = false →
        (next state.retried blocked').wp c (rest blocked' m₁) m₁) :
    (Routine.followDecision call state candidateSet.ids blocked' next decision).wp c
      (fun trace => IterationOutcome engine call d state blocked m rest (ladder ++ trace)) m' := by
  have hnil : ladder ++ [] = ladder := List.append_nil ladder
  rw [Routine.followDecision]
  split
  · rename_i haction
    rw [Coro.wp_bind]
    refine Coro.wp_mono (d.prepareRetry (d.loaded_of_held hm')) fun trace m₁ out hretry => ?_
    cases hretry with
    | exhausted hguard =>
        show IterationOutcome engine call d state blocked m rest (ladder ++ []) m' _
        rw [hnil]
        exact .stopped hconsulted hdecided haction hm' (Or.inl rfl) hguard
    | counted _ _ hheld =>
        cases hguard : retryGuardFired m₁.shared.registry state.retried with
        | true =>
            show IterationOutcome engine call d state blocked m rest (ladder ++ []) m₁ _
            rw [hnil]
            exact .stopped hconsulted hdecided haction hheld (Or.inr rfl) hguard
        | false =>
            refine Coro.wp_mono (hnext m₁ blocked' hheld hguard) fun trace m₂ out hout => ?_
            exact .retried hconsulted hdecided haction hrefused hheld hout hguard
    | lost hlost =>
        show IterationOutcome engine call d state blocked m rest (ladder ++ []) m₁ _
        rw [hnil]
        exact .lost hconsulted hlost
  · rename_i haction
    show IterationOutcome engine call d state blocked m rest (ladder ++ []) m' _
    rw [hnil]
    exact .replied hconsulted hdecided hm' (Or.inl haction) haction.symm
  · rename_i haction
    show IterationOutcome engine call d state blocked m rest (ladder ++ []) m' _
    rw [hnil]
    exact .replied hconsulted hdecided hm' (Or.inr haction) haction.symm
  · rename_i haction
    refine d.note_bind hm' (fun _ => ⟨rfl, rfl⟩) fun asked _ hasked => ?_
    refine memory_bind ?_
    refine Coro.wp_mono (d.executeWithFallback hasked) fun trace m₂ out hchain => ?_
    exact .executed hconsulted hdecided haction hrefused hasked hchain

theorem routeBody [Metric μ] {blocked : List Backend}
    {next : ConversationState → List Backend → Routine μ RoutingResponse}
    {rest : List Backend → Memory μ → List (EngineEvent μ) → Memory μ →
      Except Raised RoutingResponse → Prop}
    (hm : d.held state m)
    (hnext : ∀ m₁ blocked', d.held state.retried m₁ →
      retryGuardFired m₁.shared.registry state.retried = false →
        (next state.retried blocked').wp c (rest blocked' m₁) m₁) :
    (Routine.routeBody engine call next state blocked).wp c
      (IterationOutcome engine call d state blocked m rest) m := by
  rw [Routine.routeBody]
  refine guardFired_bind ?_
  cases hguard : retryGuardFired m.shared.registry state with
  | true => exact .guarded hguard
  | false =>
      refine d.note_bind hm (fun _ => ⟨rfl, rfl⟩) fun m₁ hquiet₁ hm₁ => ?_
      refine d.resolveCandidates_bind hm₁ (fun raised => .refused hm₁)
        fun candidateSet m₂ hresolution hquiet₂ hm₂ => ?_
      simp only
      split
      · exact fail fun raised => .refused hm₂
      · rename_i hids
        refine memory_bind ?_
        refine d.note_bind hm₂ (fun _ => ⟨rfl, rfl⟩) fun m₃ hquiet₃ hm₃ => ?_
        have hquiet : Quiet m m₃ := (hquiet₁.trans hquiet₂).trans hquiet₃
        have hregistry : m₂.shared.registry = m.shared.registry :=
          hquiet₂.registry.trans hquiet₁.registry
        rw [Coro.wp_bind]
        refine Coro.wp_mono (d.decisionFromLadder hm₃) ?_
        rintro ladder m₄ out ⟨hladder, hattempts, first, rest', hfirst, hquiet₄, hrouted⟩
        have hconsulted : Consultation engine call d state m candidateSet ladder :=
          { guard := hguard, resolution := hresolution.of_quiet hquiet₁.symm, ids_ne_nil := hids
            heldAsking := hladder.heldAsking, undispatched := hladder.undispatched
            routed := hregistry ▸ hladder.routed
            asked_sublist := hladder.asked_sublist, attempts := hattempts
            head := ⟨first, rest', hfirst, hquiet.trans hquiet₄, hregistry ▸ hrouted⟩ }
        cases out with
        | error raised => exact .undecided hconsulted hladder.held
        | ok decided =>
            obtain ⟨hdecided, hblocked⟩ := hladder.decided decided.1 decided.2 rfl
            have hrefused : ∀ backendOf, blocked ++ decided.2 =
                blocked ++ ladder.flatMap (EngineEvent.refusals backendOf) :=
              fun backendOf => congrArg _ (hblocked backendOf)
            exact d.followDecision hconsulted hdecided hrefused hladder.held hnext

/-- The rule of the loop: what every iteration makes hold if the rest of the loop does,
holds of the whole loop. -/
theorem routeLoop [Metric μ]
    {P : ConversationState → List Backend → Memory μ → List (EngineEvent μ) → Memory μ →
      Except Raised RoutingResponse → Prop}
    (hstep : ∀ state blocked m trace m' out, d.held state m →
      IterationOutcome engine call d state blocked m (P state.retried) trace m' out →
        P state blocked m trace m' out)
    (rounds : ℕ) (blocked : List Backend) (hm : d.held state m)
    (hrounds : state.maxAttempts - state.attemptCount ≤ rounds) :
    (Routine.routeLoop engine call rounds state blocked).wp c (P state blocked m) m := by
  induction rounds generalizing state m blocked with
  | zero =>
      refine Coro.wp_mono (d.routeBody hm fun m₁ blocked' hm₁ hguard => ?_)
        (hstep state blocked m · · · hm ·)
      have hopen := (Bool.or_eq_false_iff.mp hguard).1
      rw [decide_eq_false_iff_not, ConversationState.attemptCount_retried,
        (ConversationState.retried_retried state).maxAttempts_eq] at hopen
      omega
  | succ rounds ih =>
      refine Coro.wp_mono (d.routeBody hm fun m₁ blocked' hm₁ _ => ?_)
        (hstep state blocked m · · · hm ·)
      apply ih blocked' hm₁
      rw [ConversationState.attemptCount_retried,
        (ConversationState.retried_retried state).maxAttempts_eq]
      omega

theorem route [Metric μ]
    {P : ConversationState → List Backend → Memory μ → List (EngineEvent μ) → Memory μ →
      Except Raised RoutingResponse → Prop}
    (hstep : ∀ state blocked m trace m' out, d.held state m →
      IterationOutcome engine call d state blocked m (P state.retried) trace m' out →
        P state blocked m trace m' out)
    (blocked : List Backend) (hm : d.held state m) :
    (Routine.route engine call state blocked).wp c (P state blocked m) m :=
  d.routeLoop hstep _ blocked hm le_rfl

end Discipline

end LLMRouting
