/-
# The attempt budget over a conversation

Attempts are spent in two places: an explicit retry costs one before routing, and every
RETRY of the routers costs one in the loop. This module bounds what calls that follow one
another can spend. The facts about one call are stated relative to the record it found, so
that they chain: what one call leaves counted is a floor for the ladders of the next retry,
and once the guard has fired it stays fired until a new message starts a turn.
-/

import LLMRouting.Interaction.Transition
import LLMRouting.Routing.Commit

namespace LLMRouting

open LLMRouting.Interaction

variable {μ : Type} {engine : RoutingEngine} {call : HandleCall} {registry : Registry μ}

/-- The outcome is STOP although no router decided so: the retry guard has stopped the call. -/
def StoppedUnasked (trace : List (EngineEvent μ)) (out : Except Raised RoutingResponse) : Prop :=
  (∃ response, out = .ok response ∧ response.action = .stop) ∧
    ∀ event ∈ trace, ∀ decision, event.Decides decision → decision.action ≠ .stop

/-- The record's count is within its budget. -/
def WithinBudget (state : ConversationState) : Prop := state.attemptCount ≤ state.maxAttempts

theorem guard_open {state : ConversationState}
    (h : retryGuardFired registry state = false) : state.attemptCount < state.maxAttempts :=
  not_le.mp (decide_eq_false_iff_not.mp (Bool.or_eq_false_iff.mp h).1)

theorem withinBudget_retried {state : ConversationState}
    (h : retryGuardFired registry state = false) : WithinBudget state.retried := by
  have hopen := guard_open h
  rw [WithinBudget, ConversationState.attemptCount_retried,
    (ConversationState.retried_retried state).maxAttempts_eq]
  exact hopen

/-- What the loop spends from `state` on, if it leaves the record `kept`. -/
structure Spent (registry : Registry μ) (call : HandleCall) (state kept : ConversationState)
    (trace : List (EngineEvent μ)) (out : Except Raised RoutingResponse) : Prop where
  continues : state.Extends kept
  within : WithinBudget kept
  increasing : (ladderAttempts trace).Pairwise (· < ·)
  bounds : ∀ attempt ∈ ladderAttempts trace,
    state.attemptCount ≤ attempt ∧ attempt ≤ kept.attemptCount ∧ attempt < state.maxAttempts
  single : call.request.retry = false → (ladderAttempts trace).length ≤ 1
  asking : ∀ event ∈ trace, ∃ asked, call.record event.memory = some asked ∧
    state.Extends asked ∧ WithinBudget asked
  guarded : StoppedUnasked trace out → retryGuardFired registry kept = true

/-- An iteration that asks nobody and leaves the record alone. -/
theorem Spent.of_nil {state : ConversationState} {out : Except Raised RoutingResponse}
    (hwithin : WithinBudget state)
    (hguarded : StoppedUnasked ([] : List (EngineEvent μ)) out →
      retryGuardFired registry state = true) :
    Spent registry call state state [] out where
  continues := .refl state
  within := hwithin
  increasing := List.Pairwise.nil
  bounds _ h := absurd h List.not_mem_nil
  single _ := Nat.zero_le 1
  asking _ h := absurd h List.not_mem_nil
  guarded := hguarded

/-- A STOP the routers decided on is not the guard's. -/
theorem not_stoppedUnasked_of_decidedBy {ladder trace : List (EngineEvent μ)}
    {out : Except Raised RoutingResponse} {decision : RouterDecision}
    (hdecided : Discipline.DecidedBy ladder decision) (haction : decision.action = .stop) :
    ¬ StoppedUnasked (ladder ++ trace) out := by
  obtain ⟨before, last, rfl, hlast⟩ := hdecided
  rintro ⟨-, hunasked⟩
  exact hunasked last (by simp) decision hlast haction

theorem not_stoppedUnasked_error {trace : List (EngineEvent μ)} {raised : Raised} :
    ¬ StoppedUnasked trace (.error raised) := by
  rintro ⟨⟨response, hresponse, -⟩, -⟩
  cases hresponse

theorem not_stoppedUnasked_of_action {trace : List (EngineEvent μ)} {response : RoutingResponse}
    (haction : response.action ≠ .stop) : ¬ StoppedUnasked trace (.ok response) := by
  rintro ⟨⟨_, hresponse, hstop⟩, -⟩
  cases hresponse
  exact haction hstop

theorem asking_of_held {state : ConversationState} {trace : List (EngineEvent μ)}
    (hwithin : WithinBudget state)
    (hheld : ∀ event ∈ trace,
      (Surroundings.discipline True {registry} call).held state event.memory) :
    ∀ event ∈ trace, ∃ asked, call.record event.memory = some asked ∧ state.Extends asked ∧
      WithinBudget asked := by
  intro event hevent
  exact ⟨state, (Surroundings.held_iff.mp (hheld event hevent)).stored trivial,
    .refl state, hwithin⟩

section Iteration

variable [Metric μ] {state kept : ConversationState} {m : Memory μ}
  {candidateSet : CandidateSet μ} {ladder : List (EngineEvent μ)}

/-- An iteration that consults the routers once and does not go on. -/
theorem Spent.of_consulted {chain : List (EngineEvent μ)} {out : Except Raised RoutingResponse}
    (hwithin : WithinBudget state)
    (hconsulted : Discipline.Consultation engine call
      (Surroundings.discipline True {registry} call) state m candidateSet ladder)
    (hunrouted : ∀ event ∈ chain, event.routed? = none)
    (hheld : ∀ event ∈ chain,
      (Surroundings.discipline True {registry} call).held state event.memory)
    (hcontinues : state.Extends kept) (hkept : WithinBudget kept)
    (hguarded : StoppedUnasked (ladder ++ chain) out → retryGuardFired registry kept = true) :
    Spent registry call state kept (ladder ++ chain) out := by
  have hattempts : ladderAttempts (ladder ++ chain) = [state.attemptCount] := by
    rw [ladderAttempts_append, hconsulted.attempts, ladderAttempts_eq_nil hunrouted,
      List.append_nil]
  have hopen := guard_open hconsulted.guard
  refine ⟨hcontinues, hkept, ?_, ?_, ?_, ?_, hguarded⟩
  · rw [hattempts]
    exact List.pairwise_singleton _ _
  · rw [hattempts]
    intro attempt hattempt
    rw [List.mem_singleton.mp hattempt]
    exact ⟨le_rfl, hcontinues.attemptCount_le, hopen⟩
  · intro _
    rw [hattempts]
    exact le_rfl
  · intro event hevent
    rcases List.mem_append.mp hevent with hladder | hchain
    · exact asking_of_held hwithin hconsulted.heldAsking event hladder
    · exact asking_of_held hwithin hheld event hchain

/-- An iteration that consults the routers and asks nobody else. -/
theorem Spent.of_ladder {out : Except Raised RoutingResponse} (hwithin : WithinBudget state)
    (hconsulted : Discipline.Consultation engine call
      (Surroundings.discipline True {registry} call) state m candidateSet ladder)
    (hcontinues : state.Extends kept) (hkept : WithinBudget kept)
    (hguarded : StoppedUnasked (ladder ++ []) out → retryGuardFired registry kept = true) :
    Spent registry call state kept ladder out := by
  rw [← List.append_nil ladder]
  exact .of_consulted hwithin hconsulted (List.forall_mem_nil _) (List.forall_mem_nil _) hcontinues
    hkept hguarded

/-- An iteration that ends in a RETRY, and the rest of the loop. -/
theorem Spent.of_retried {trace : List (EngineEvent μ)} {out : Except Raised RoutingResponse}
    (hwithin : WithinBudget state)
    (hconsulted : Discipline.Consultation engine call
      (Surroundings.discipline True {registry} call) state m candidateSet ladder)
    (hretry : call.request.retry = true)
    (hlater : Spent registry call state.retried kept trace out) :
    Spent registry call state kept (ladder ++ trace) out := by
  have hretried := (ConversationState.retried_retried state).toExtends
  have hcount := ConversationState.attemptCount_retried state
  have hopen := guard_open hconsulted.guard
  have hattempts :
      ladderAttempts (ladder ++ trace) = state.attemptCount :: ladderAttempts trace := by
    rw [ladderAttempts_append, hconsulted.attempts]
    rfl
  have hlarger : ∀ attempt ∈ ladderAttempts trace, state.attemptCount < attempt := by
    intro attempt hattempt
    have hfloor := (hlater.bounds attempt hattempt).1
    omega
  refine ⟨hretried.trans hlater.continues, hlater.within, ?_, ?_, ?_, ?_, ?_⟩
  · rw [hattempts]
    exact List.pairwise_cons.mpr ⟨hlarger, hlater.increasing⟩
  · rw [hattempts]
    have hkept := hlater.continues.attemptCount_le
    rw [List.forall_mem_cons]
    refine ⟨⟨le_rfl, by omega, hopen⟩, ?_⟩
    intro attempt hattempt
    obtain ⟨-, hceil, hmax⟩ := hlater.bounds attempt hattempt
    rw [hretried.maxAttempts_eq] at hmax
    exact ⟨(hlarger attempt hattempt).le, hceil, hmax⟩
  · intro hmessage
    rw [hretry] at hmessage
    cases hmessage
  · intro event hevent
    rcases List.mem_append.mp hevent with hladder | htrace
    · exact asking_of_held hwithin hconsulted.heldAsking event hladder
    · obtain ⟨asked, hasked, hextends, hasked'⟩ := hlater.asking event htrace
      exact ⟨asked, hasked, hretried.trans hextends, hasked'⟩
  · rintro ⟨hstop, hunasked⟩
    apply hlater.guarded
    exact ⟨hstop, fun event hevent => hunasked event (List.mem_append_right ladder hevent)⟩

/-- What the loop does to the budget, iteration by iteration. -/
theorem spent_of_iteration {blocked : List Backend} {m' : Memory μ}
    {trace : List (EngineEvent μ)} {out : Except Raised RoutingResponse}
    (hm : Held True {registry} call state m)
    (hwithin : WithinBudget state)
    (h : Discipline.IterationOutcome engine call (Surroundings.discipline True {registry} call)
      state blocked m (fun _ _ trace m' out => WithinBudget state.retried → ∃ kept,
        call.record m' = some kept ∧ Spent registry call state.retried kept trace out)
      trace m' out) :
    ∃ kept, call.record m' = some kept ∧ Spent registry call state kept trace out := by
  have hregistry : m.shared.registry = registry := hm.registry_mem
  have hkept : ∀ {kept : ConversationState} {m₁ : Memory μ},
      (Surroundings.discipline True {registry} call).held kept m₁ → call.record m₁ = some kept :=
    fun held => (Surroundings.held_iff.mp held).stored trivial
  cases h with
  | guarded guard =>
      rw [hregistry] at guard
      exact ⟨state, hm.stored trivial, .of_nil hwithin fun _ => guard⟩
  | refused held =>
      exact ⟨state, hkept held, .of_nil hwithin fun h => absurd h not_stoppedUnasked_error⟩
  | undecided consulted held =>
      exact ⟨state, hkept held, .of_ladder hwithin consulted (.refl state) hwithin
        fun h => absurd h not_stoppedUnasked_error⟩
  | replied consulted decided held action response_action =>
      refine ⟨state, hkept held, .of_ladder hwithin consulted (.refl state) hwithin ?_⟩
      intro hstopped
      rcases action with haction | haction
      · apply absurd hstopped (not_stoppedUnasked_of_action _)
        simp [response_action, haction]
      · exact absurd hstopped (not_stoppedUnasked_of_decidedBy decided haction)
  | @stopped _ _ _ _ kept consulted decided action held record guard =>
      refine ⟨kept, hkept held, ?_⟩
      have hguard : retryGuardFired registry kept = true := by
        rwa [← show m'.shared.registry = registry from
          (Surroundings.held_iff.mp held).registry_mem]
      rcases record with rfl | rfl
      · exact .of_ladder hwithin consulted (.refl _) hwithin fun _ => hguard
      · exact .of_ladder hwithin consulted (ConversationState.retried_retried state).toExtends
          (withinBudget_retried consulted.guard) fun _ => hguard
  | lost _ lost => exact absurd trivial (Surroundings.lost_iff.mp lost)
  | retried consulted decided action _ held later =>
      obtain ⟨kept, hstored, hspent⟩ := later (withinBudget_retried consulted.guard)
      have hretry := consulted.retry_of_decidedBy decided action
      exact ⟨kept, hstored, hspent.of_retried hwithin consulted hretry⟩
  | executed consulted decided action _ held chain =>
      have hunrouted := chain.trace.unrouted
      have hheld := chain.trace.heldAsking
      cases chain with
      | @answered providerId response _ _ _ _ held' =>
          refine ⟨_, hkept held', .of_consulted hwithin consulted hunrouted hheld
            (state.extends_answered providerId response) hwithin fun h => ?_⟩
          exact absurd h (not_stoppedUnasked_of_action (by simp))
      | failed _ held' =>
          exact ⟨state, hkept held', .of_consulted hwithin consulted hunrouted hheld (.refl state)
            hwithin fun h => absurd h not_stoppedUnasked_error⟩
      | lost _ lost => exact absurd trivial (Surroundings.lost_iff.mp lost)

end Iteration

/-- The attempts a stored record has counted. -/
def counted (record : Option ConversationState) : ℕ :=
  (record.map ConversationState.attemptCount).getD 0

/-- The stored record is within the engine's budget. -/
def RecordWithin (maxAttempts : ℕ) (record : Option ConversationState) : Prop :=
  ∀ state ∈ record, state.maxAttempts = maxAttempts ∧ WithinBudget state

/-- The retry guard fires on the stored record. -/
def Exhausted (registry : Registry μ) (record : Option ConversationState) : Prop :=
  ∃ state ∈ record, retryGuardFired registry state = true

/-- What a call spends, relative to the record before and after it. -/
structure CallSpent (engine : RoutingEngine) (registry : Registry μ) (call : HandleCall)
    (before : Option ConversationState) (trace : List (EngineEvent μ))
    (after : Option ConversationState) (out : Except Raised RoutingResponse) : Prop where
  within : RecordWithin engine.maxAttempts after
  asking : ∀ event ∈ trace, RecordWithin engine.maxAttempts (call.record event.memory)
  increasing : (ladderAttempts trace).Pairwise (· < ·)
  ceiling : ∀ attempt ∈ ladderAttempts trace, attempt ≤ counted after
  below : ∀ attempt ∈ ladderAttempts trace, attempt < engine.maxAttempts
  floor : call.request.retry = true → ∀ attempt ∈ ladderAttempts trace, counted before < attempt
  counted_le : call.request.retry = true → counted before ≤ counted after
  single : call.request.retry = false → (ladderAttempts trace).length ≤ 1
  stopped : StoppedUnasked trace out → Exhausted registry after
  exhausted : call.request.retry = true → Exhausted registry before →
    after = before ∧ ∀ event ∈ trace, event.IsLocal

section Spending

variable {before after : Option ConversationState} {out : Except Raised RoutingResponse}
  {trace : List (EngineEvent μ)}

/-- A call that asks nobody. -/
theorem CallSpent.of_nil (hwithin : RecordWithin engine.maxAttempts after)
    (hcounted : counted before ≤ counted after)
    (hstopped : StoppedUnasked ([] : List (EngineEvent μ)) out → Exhausted registry after)
    (hexhausted : Exhausted registry before → after = before) :
    CallSpent engine registry call before [] after out where
  within := hwithin
  asking := List.forall_mem_nil _
  increasing := List.Pairwise.nil
  ceiling := List.forall_mem_nil _
  below := List.forall_mem_nil _
  floor _ := List.forall_mem_nil _
  counted_le _ := hcounted
  single _ := Nat.zero_le 1
  stopped := hstopped
  exhausted _ h := ⟨hexhausted h, List.forall_mem_nil _⟩

/-- A call that enters the loop with the record `start`. -/
theorem CallSpent.of_spent {start kept : ConversationState}
    (hspent : Spent registry call start kept trace out)
    (hmax : start.maxAttempts = engine.maxAttempts)
    (hfloor : call.request.retry = true → counted before < start.attemptCount)
    (hopen : call.request.retry = true → ¬ Exhausted registry before) :
    CallSpent engine registry call before trace (some kept) out where
  within := by
    rintro _ ⟨⟩
    exact ⟨hspent.continues.maxAttempts_eq.trans hmax, hspent.within⟩
  asking event hevent := by
    obtain ⟨asked, hasked, hextends, hwithin⟩ := hspent.asking event hevent
    rw [hasked]
    rintro _ ⟨⟩
    exact ⟨hextends.maxAttempts_eq.trans hmax, hwithin⟩
  increasing := hspent.increasing
  ceiling attempt hattempt := (hspent.bounds attempt hattempt).2.1
  below attempt hattempt := hmax ▸ (hspent.bounds attempt hattempt).2.2
  floor hretry attempt hattempt :=
    (hfloor hretry).trans_le (hspent.bounds attempt hattempt).1
  counted_le hretry := (hfloor hretry).le.trans hspent.continues.attemptCount_le
  single := hspent.single
  stopped h := ⟨kept, rfl, hspent.guarded h⟩
  exhausted hretry h := absurd h (hopen hretry)

/-- Attaching diagnostics to an outcome does not hide that the guard stopped the call. -/
theorem StoppedUnasked.of_attached {m : Memory μ} {result : Except Raised RoutingResponse}
    (h : StoppedUnasked trace out) (hattached : Terms.Attached m result out) :
    StoppedUnasked trace result := by
  cases hattached with
  | raised => exact h
  | attached response =>
      obtain ⟨⟨_, ⟨⟩, hstop⟩, hunasked⟩ := h
      exact ⟨⟨response, rfl, hstop⟩, hunasked⟩
  | unbuilt => exact absurd h not_stoppedUnasked_error

theorem Spent.attached {start kept : ConversationState} {m : Memory μ}
    {result : Except Raised RoutingResponse} (h : Spent registry call start kept trace result)
    (hattached : Terms.Attached m result out) : Spent registry call start kept trace out :=
  { h with guarded := fun hstopped => h.guarded (hstopped.of_attached hattached) }

/-- What the body of a call spends. -/
theorem callSpent_of_body [Metric μ] {m m' : Memory μ} (hregistry : m.shared.registry = registry)
    (hwithin : RecordWithin engine.maxAttempts (call.record m))
    (h : Terms.BodyOutcome True {registry} engine call
      (fun state _ _ trace m' out => WithinBudget state → ∃ kept,
        call.record m' = some kept ∧ Spent registry call state kept trace out) m trace m' out) :
    CallSpent engine registry call (call.record m) trace (call.record m') out := by
  cases h with
  | unknown =>
      exact .of_nil hwithin le_rfl (fun h => absurd h not_stoppedUnasked_error) fun _ => rfl
  | imageRequired _ _ _ _ shared =>
      have hrecord : call.record m' = call.record m := by rw [HandleCall.record, shared]
      rw [hrecord]
      exact .of_nil hwithin le_rfl (fun h => absurd h not_stoppedUnasked_error) fun _ => rfl
  | @exhausted stored _ _ _ found guard shared =>
      have hrecord : call.record m' = call.record m := by rw [HandleCall.record, shared]
      rw [hregistry] at guard
      rw [hrecord]
      exact .of_nil hwithin le_rfl (fun _ => ⟨stored, found, guard⟩) fun _ => rfl
  | @stopped stored _ _ _ found guard held guard' =>
      obtain ⟨hmax, -⟩ := hwithin stored found
      have hretried := ConversationState.retried_retried (Routine.markImage call stored)
      have hcount := ConversationState.attemptCount_retried (Routine.markImage call stored)
      have hregistry' : m'.shared.registry = registry := held.registry_mem
      have hrecord : call.record m' = some (Routine.markImage call stored).retried :=
        held.stored trivial
      rw [hregistry] at guard
      rw [hregistry'] at guard'
      rw [hrecord, HandleCall.record, found]
      apply CallSpent.of_nil
      · rintro _ ⟨⟩
        exact ⟨hretried.maxAttempts_eq.trans hmax, withinBudget_retried guard⟩
      · show stored.attemptCount ≤ (Routine.markImage call stored).retried.attemptCount
        rw [hcount]
        exact Nat.le_succ _
      · exact fun _ => ⟨_, rfl, guard'⟩
      · rintro ⟨_, ⟨⟩, hfired⟩
        exact absurd (hfired.symm.trans guard) (by decide)
  | @retried stored _ _ _ _ _ _ found guard _ _ _ later attached =>
      obtain ⟨hmax, -⟩ := hwithin stored found
      have hretried := ConversationState.retried_retried (Routine.markImage call stored)
      have hcount := ConversationState.attemptCount_retried (Routine.markImage call stored)
      rw [hregistry] at guard
      obtain ⟨kept, hkept, hspent⟩ := later (withinBudget_retried guard)
      rw [hkept, HandleCall.record, found]
      apply CallSpent.of_spent (hspent.attached attached) (hretried.maxAttempts_eq.trans hmax)
      · intro _
        show stored.attemptCount < (Routine.markImage call stored).retried.attemptCount
        rw [hcount]
        exact Nat.lt_succ_self _
      · rintro _ ⟨_, ⟨⟩, hfired⟩
        exact absurd (hfired.symm.trans guard) (by decide)
  | @begun stored _ _ _ _ _ message found _ _ later attached =>
      obtain ⟨kept, hkept, hspent⟩ := later (Nat.zero_le _)
      have hmax : stored.maxAttempts = engine.maxAttempts := by
        rw [← found]
        cases hrecord : m.shared.conversations.load call.request.conversationId call.tenantId with
        | none => rfl
        | some before => exact (hwithin before hrecord).1
      rw [hkept]
      apply CallSpent.of_spent (hspent.attached attached) hmax
      · intro hretry
        rw [message] at hretry
        cases hretry
      · intro hretry
        rw [message] at hretry
        cases hretry
  | lost lost => exact absurd trivial lost

/-- The look at the clock that comes first spends nothing. -/
theorem CallSpent.cons_clock {m : Memory μ} {now : ℚ} {result : Except Raised RoutingResponse}
    (hwithin : RecordWithin engine.maxAttempts (call.record m))
    (h : CallSpent engine registry call before trace after result)
    (hout : ∀ response, out = .ok response ↔ result = .ok response) :
    CallSpent engine registry call before (⟨.loopTime, m, now⟩ :: trace) after out :=
  { h with
    asking := List.forall_mem_cons.mpr ⟨hwithin, h.asking⟩
    stopped := by
      rintro ⟨⟨response, hresponse, hstop⟩, hunasked⟩
      apply h.stopped
      exact ⟨⟨response, (hout response).mp hresponse, hstop⟩, (List.forall_mem_cons.mp hunasked).2⟩
    exhausted := fun hretry hfired => by
      obtain ⟨hrecord, hlocal⟩ := h.exhausted hretry hfired
      exact ⟨hrecord, List.forall_mem_cons.mpr ⟨⟨rfl, rfl⟩, hlocal⟩⟩ }

theorem callSpent_of_run [Metric μ] {m m' : Memory μ} (hregistry : m.shared.registry = registry)
    (hwithin : RecordWithin engine.maxAttempts (call.record m))
    (hrun : Coro.Run (Surroundings True {registry} call) (Routine.handle engine call) m trace m'
      out) :
    CallSpent engine registry call (call.record m) trace (call.record m') out := by
  obtain ⟨now, body, result, rfl, hbody, hout⟩ := Surroundings.outcome
    (P := fun state _ _ trace m' out => WithinBudget state → ∃ kept,
      call.record m' = some kept ∧ Spent registry call state kept trace out) hrun hregistry
    fun _ _ _ _ _ _ hm hiteration hstate => spent_of_iteration hm hstate hiteration
  have hspent := callSpent_of_body
    (m := { m with own := Routine.newCapture engine call now }) hregistry hwithin hbody
  exact hspent.cons_clock hwithin hout

end Spending

/-- A finished call, with its conversation's record before and after it. -/
structure Finished (μ : Type) where
  call : HandleCall
  before : Option ConversationState
  trace : List (EngineEvent μ)
  after : Option ConversationState
  out : Except Raised RoutingResponse

/-- A call on a conversation from its start to its end, alone on the conversation and with
the given registry. Nothing but the record is carried over from one call to the next. -/
structure CallStep [Metric μ] (engine : RoutingEngine) (registry : Registry μ)
    (tenantId conversationId : String) (before : Option ConversationState) (finished : Finished μ)
    (after : Option ConversationState) : Prop where
  tenantId_eq : finished.call.tenantId = tenantId
  conversationId_eq : finished.call.request.conversationId = conversationId
  before_eq : finished.before = before
  after_eq : finished.after = after
  ran : ∃ m m', m.shared.registry = registry ∧ finished.call.record m = before ∧
    finished.call.record m' = after ∧
    Coro.Run (Surroundings True {registry} finished.call) (Routine.handle engine finished.call) m
      finished.trace m' finished.out

theorem CallStep.spent [Metric μ] {tenantId conversationId : String}
    {before after : Option ConversationState} {finished : Finished μ}
    (h : CallStep engine registry tenantId conversationId before finished after)
    (hwithin : RecordWithin engine.maxAttempts before) :
    CallSpent engine registry finished.call finished.before finished.trace finished.after
      finished.out := by
  obtain ⟨m, m', hregistry, hbefore, hafter, hrun⟩ := h.ran
  rw [h.before_eq, h.after_eq, ← hbefore, ← hafter]
  rw [← hbefore] at hwithin
  exact callSpent_of_run hregistry hwithin hrun

/-- The attempts of the ladders of several calls, in order. -/
def attemptsOf (calls : List (Finished μ)) : List ℕ :=
  calls.flatMap fun finished => ladderAttempts finished.trace

section Sessions

variable [Metric μ] {tenantId conversationId : String}
  {first last : Option ConversationState} {calls : List (Finished μ)}

/-- The stored record stays within the budget, and so it is in every call. -/
theorem within_of_session
    (h : Steps (CallStep engine registry tenantId conversationId) first calls last)
    (hfirst : RecordWithin engine.maxAttempts first) :
    RecordWithin engine.maxAttempts last ∧ ∀ finished ∈ calls,
      CallSpent engine registry finished.call finished.before finished.trace finished.after
        finished.out := by
  induction h with
  | nil => exact ⟨hfirst, List.forall_mem_nil _⟩
  | cons head _ ih =>
      have hspent := head.spent hfirst
      obtain ⟨hlast, hrest⟩ := ih (head.after_eq ▸ hspent.within)
      exact ⟨hlast, List.forall_mem_cons.mpr ⟨hspent, hrest⟩⟩

/-- Retries of one turn: their ladders count up from the record they found. -/
theorem attempts_of_retries
    (h : Steps (CallStep engine registry tenantId conversationId) first calls last)
    (hspent : ∀ finished ∈ calls, CallSpent engine registry finished.call finished.before
      finished.trace finished.after finished.out)
    (hretries : ∀ finished ∈ calls, finished.call.request.retry = true) :
    (attemptsOf calls).Pairwise (· < ·) ∧
      ∀ attempt ∈ attemptsOf calls, counted first < attempt ∧ attempt < engine.maxAttempts := by
  induction h with
  | nil => exact ⟨List.Pairwise.nil, List.forall_mem_nil _⟩
  | @cons before after last finished rest head _ ih =>
      obtain ⟨hhead, hspent⟩ := List.forall_mem_cons.mp hspent
      obtain ⟨hretry, hretries⟩ := List.forall_mem_cons.mp hretries
      obtain ⟨hincreasing, hbounds⟩ := ih hspent hretries
      have hfloor := hhead.floor hretry
      have hceiling := hhead.ceiling
      have hcounted := hhead.counted_le hretry
      rw [head.before_eq] at hfloor hcounted
      rw [head.after_eq] at hceiling hcounted
      refine ⟨List.pairwise_append.mpr ⟨hhead.increasing, hincreasing, ?_⟩, ?_⟩
      · intro earlier hearlier later hlater
        exact (hceiling earlier hearlier).trans_lt (hbounds later hlater).1
      · intro attempt hattempt
        rcases List.mem_append.mp hattempt with hhere | hlater
        · exact ⟨hfloor attempt hhere, hhead.below attempt hhere⟩
        · exact ⟨hcounted.trans_lt (hbounds attempt hlater).1, (hbounds attempt hlater).2⟩

/-- A turn: whatever its first call is, the ladders of all its calls count up. -/
theorem attempts_of_turn {opening : Finished μ}
    (h : Steps (CallStep engine registry tenantId conversationId) first (opening :: calls) last)
    (hspent : ∀ finished ∈ opening :: calls, CallSpent engine registry finished.call
      finished.before finished.trace finished.after finished.out)
    (hretries : ∀ finished ∈ calls, finished.call.request.retry = true) :
    (attemptsOf (opening :: calls)).Pairwise (· < ·) ∧
      ∀ attempt ∈ attemptsOf (opening :: calls), attempt < engine.maxAttempts := by
  obtain ⟨hopening, hspent⟩ := List.forall_mem_cons.mp hspent
  cases h with
  | cons head tail =>
      obtain ⟨hincreasing, hbounds⟩ := attempts_of_retries tail hspent hretries
      have hceiling := hopening.ceiling
      rw [head.after_eq] at hceiling
      refine ⟨List.pairwise_append.mpr ⟨hopening.increasing, hincreasing, ?_⟩, ?_⟩
      · intro earlier hearlier later hlater
        exact (hceiling earlier hearlier).trans_lt (hbounds later hlater).1
      · intro attempt hattempt
        rcases List.mem_append.mp hattempt with hhere | hlater
        · exact hopening.below attempt hhere
        · exact (hbounds attempt hlater).2

/-- Retries that find the guard fired ask nobody and leave the record alone. -/
theorem silent_of_exhausted
    (h : Steps (CallStep engine registry tenantId conversationId) first calls last)
    (hspent : ∀ finished ∈ calls, CallSpent engine registry finished.call finished.before
      finished.trace finished.after finished.out)
    (hretries : ∀ finished ∈ calls, finished.call.request.retry = true)
    (hfired : Exhausted registry first) :
    ∀ finished ∈ calls, finished.before = first ∧ finished.after = first ∧
      ∀ event ∈ finished.trace, event.IsLocal := by
  induction h with
  | nil => exact List.forall_mem_nil _
  | @cons before after last finished rest head _ ih =>
      obtain ⟨hhead, hspent⟩ := List.forall_mem_cons.mp hspent
      obtain ⟨hretry, hretries⟩ := List.forall_mem_cons.mp hretries
      obtain ⟨hrecord, hlocal⟩ := hhead.exhausted hretry (head.before_eq ▸ hfired)
      rw [head.before_eq, head.after_eq] at hrecord
      have hrest := ih hspent hretries (hrecord ▸ hfired)
      rw [hrecord] at hrest
      have hsame : finished.before = before ∧ finished.after = before :=
        ⟨head.before_eq, head.after_eq.trans hrecord⟩
      exact List.forall_mem_cons.mpr ⟨⟨hsame.1, hsame.2, hlocal⟩, hrest⟩

theorem length_le_of_increasing {attempts : List ℕ} {bound : ℕ}
    (hincreasing : attempts.Pairwise (· < ·)) (hbelow : ∀ attempt ∈ attempts, attempt < bound) :
    attempts.length ≤ bound := by
  have hnodup : attempts.Nodup := hincreasing.imp ne_of_lt
  have hsubset : attempts ⊆ List.range bound :=
    fun attempt hattempt => List.mem_range.mpr (hbelow attempt hattempt)
  simpa using (hnodup.subperm hsubset).length_le

/-- The attempt budget is kept by calls that follow one another. A turn is any stretch of
calls whose only new message, if any, is the first one. -/
structure BudgetKept (engine : RoutingEngine) (calls : List (Finished μ)) : Prop where
  stored : ∀ finished ∈ calls, ∀ state ∈ finished.after, state.attemptCount ≤ state.maxAttempts
  asking : ∀ finished ∈ calls, ∀ event ∈ finished.trace,
    ∀ state ∈ finished.call.record event.memory, state.attemptCount ≤ state.maxAttempts
  turn : ∀ earlier turn later, calls = earlier ++ turn ++ later →
    (∀ finished ∈ turn.tail, finished.call.request.retry = true) →
      (attemptsOf turn).Pairwise (· < ·) ∧
        (∀ attempt ∈ attemptsOf turn, attempt < engine.maxAttempts) ∧
        (attemptsOf turn).length ≤ engine.maxAttempts
  message : ∀ finished ∈ calls, finished.call.request.retry = false →
    (ladderAttempts finished.trace).length ≤ 1
  stopped : ∀ earlier stopped retries later, calls = earlier ++ stopped :: retries ++ later →
    stopped.call.request.retry = true → StoppedUnasked stopped.trace stopped.out →
    (∀ finished ∈ retries, finished.call.request.retry = true) →
      ∀ finished ∈ retries, finished.before = stopped.after ∧ finished.after = stopped.after ∧
        ∀ event ∈ finished.trace, event.IsLocal

/-- Whatever messages and retries a conversation consists of and however they end, its
attempt budget is kept, and the loop of every call ends by itself: further rounds than the
budget has attempts left make no difference. -/
theorem conversation_budget
    (h : Steps (CallStep engine registry tenantId conversationId) none calls last) :
    BudgetKept engine calls ∧
      ∀ (call : HandleCall) (rounds : ℕ) (state : ConversationState) (blocked : List Backend),
        state.maxAttempts - state.attemptCount ≤ rounds →
          (Routine.routeLoop engine call rounds state blocked : Routine μ RoutingResponse) =
            Routine.route engine call state blocked := by
  have hnew : RecordWithin engine.maxAttempts none := by
    intro state hstate
    cases hstate
  obtain ⟨-, hspent⟩ := within_of_session h hnew
  refine ⟨?_, fun call rounds state blocked => Routine.routeLoop_eq_route engine call blocked⟩
  constructor
  · exact fun finished hfinished state hstate => ((hspent finished hfinished).within state hstate).2
  · intro finished hfinished event hevent state hstate
    exact ((hspent finished hfinished).asking event hevent state hstate).2
  · rintro earlier turn later rfl hretries
    obtain ⟨_, hsession, -⟩ := Steps.append_iff.mp h
    obtain ⟨_, -, hturn⟩ := Steps.append_iff.mp hsession
    cases turn with
    | nil => exact ⟨List.Pairwise.nil, List.forall_mem_nil _, Nat.zero_le _⟩
    | cons opening retries =>
        have hspent' : ∀ finished ∈ opening :: retries, CallSpent engine registry finished.call
            finished.before finished.trace finished.after finished.out :=
          fun finished hfinished =>
            hspent finished (List.mem_append_left later (List.mem_append_right earlier hfinished))
        obtain ⟨hincreasing, hbelow⟩ := attempts_of_turn hturn hspent' hretries
        exact ⟨hincreasing, hbelow, length_le_of_increasing hincreasing hbelow⟩
  · exact fun finished hfinished => (hspent finished hfinished).single
  · rintro earlier stopped retries later rfl - hstopped hretries
    obtain ⟨_, hsession, -⟩ := Steps.append_iff.mp h
    obtain ⟨_, -, htail⟩ := Steps.append_iff.mp hsession
    cases htail with
    | cons head tail =>
        have hfired := (hspent stopped (by simp)).stopped hstopped
        rw [head.after_eq] at hfired ⊢
        exact silent_of_exhausted tail
          (fun finished hfinished => hspent finished (by simp [hfinished])) hretries hfired

end Sessions

/-- Two providers of the general group. -/
def pair : List (ProviderConfig ℤ) :=
  [generalProvider "first" 1 .google, generalProvider "second" 2 .nvidia]

/-- A call evaluated from a stored record, where the routers ask for a retry whenever they
may. -/
def insistent (call : HandleCall) (record : Option ConversationState) : Finished ℤ :=
  let run := (Routine.handle { maxAttempts := 3 } call).eval
    (scripted
      (fun request => .ok (.decision (if request.retry then retryDecision else generalDecision)))
      fun _ => .ok "text")
    (deployment pair record) 0
  { call := call, before := record, trace := run.1, after := call.record run.2.1, out := run.2.2 }

theorem callStep_insistent (call : HandleCall) {before after : Option ConversationState}
    (hbefore : call.record (deployment pair before) = before)
    (hafter : (insistent call before).after = after) :
    CallStep { maxAttempts := 3 } (.ofList pair) call.tenantId call.request.conversationId before
      (insistent call before) after where
  tenantId_eq := rfl
  conversationId_eq := rfl
  before_eq := rfl
  after_eq := hafter
  ran := ⟨_, _, rfl, hbefore, hafter, Coro.run_eval Surroundings.refl _ _ _ _⟩

def askCall : HandleCall := { request := { conversationId := "c", message := "question" } }

def againCall : HandleCall :=
  { request := { conversationId := "c", message := "again", retry := true } }

def answeredOnce : ConversationState :=
  { conversationId := "c", originalQuery := "question", previousResponse := some "text"
    maxAttempts := 3, lastProvider := some "first" }

def spentUp : ConversationState :=
  { answeredOnce with attemptCount := 3, excludedProviders := ["first"] }

/-- A message, a retry that the routers repeat until the budget is spent, and another retry. -/
def exhaustingCalls : List (Finished ℤ) :=
  [insistent askCall none, insistent againCall (some answeredOnce),
    insistent againCall (some spentUp)]

theorem conversation_budget_exhausting :
    attemptsOf exhaustingCalls = [0, 1, 2] ∧ BudgetKept { maxAttempts := 3 } exhaustingCalls := by
  have hask : CallStep { maxAttempts := 3 } (.ofList pair) "legacy" "c" none
      (insistent askCall none) (some answeredOnce) :=
    callStep_insistent askCall (by decide +kernel) (by decide +kernel)
  have hagain : CallStep { maxAttempts := 3 } (.ofList pair) "legacy" "c" (some answeredOnce)
      (insistent againCall (some answeredOnce)) (some spentUp) :=
    callStep_insistent againCall (by decide +kernel) (by decide +kernel)
  have hstopped : CallStep { maxAttempts := 3 } (.ofList pair) "legacy" "c" (some spentUp)
      (insistent againCall (some spentUp)) (some spentUp) :=
    callStep_insistent againCall (by decide +kernel) (by decide +kernel)
  have hbudget := conversation_budget (.cons hask (.cons hagain (.cons hstopped (.nil _))))
  exact ⟨by decide +kernel, hbudget.1⟩

end LLMRouting
