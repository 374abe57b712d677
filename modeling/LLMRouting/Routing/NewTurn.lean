/-
# A new message starts a turn

The reset of the record and the retry guard are in different functions. Between them nothing
is awaited, so what a new message does first can be read off its code: if the guard is open
after the reset, the router ladder is asked about the message. Whether it is open depends on
the conversation's budget alone.
-/

import LLMRouting.Routing.Exposure
import LLMRouting.Routing.Turns

namespace LLMRouting

open LLMRouting.Interaction

variable {μ : Type} {engine : RoutingEngine} {call : HandleCall}

/-- The trace begins with asking the first tier about the request. -/
def BeginsWithLadder (request : RouterRequest) (trace : List (EngineEvent μ)) : Prop :=
  ∃ (asked : Memory μ) (reply : Except Interruption RawDecision) (rest : List (EngineEvent μ)),
    trace = ⟨.decide .primaryRouter request, asked, reply⟩ :: rest

theorem BeginsWithLadder.append {request : RouterRequest} (trace rest : List (EngineEvent μ))
    (h : BeginsWithLadder request trace) : BeginsWithLadder request (trace ++ rest) := by
  obtain ⟨asked, reply, later, rfl⟩ := h
  exact ⟨asked, reply, later ++ rest, rfl⟩

/-- The budget of the call's conversation. -/
def HandleCall.budget (call : HandleCall) (engine : RoutingEngine) (m : Memory μ) : ℕ :=
  (call.record m).elim engine.maxAttempts ConversationState.maxAttempts

/-- The answer that is stored for the call's conversation. -/
def HandleCall.storedAnswer (call : HandleCall) (m : Memory μ) : Option String :=
  (call.record m).bind ConversationState.previousResponse

/-- The record a new message's turn starts with. -/
def HandleCall.opening (call : HandleCall) (engine : RoutingEngine) (m : Memory μ) :
    ConversationState :=
  Routine.freshTurn call ((call.record m).getD (Terms.createdState engine call))

theorem maxAttempts_opening (m : Memory μ) :
    (call.opening engine m).maxAttempts = call.budget engine m := by
  rw [HandleCall.opening, HandleCall.budget]
  cases call.record m with
  | none => rfl
  | some state => rfl

theorem previousResponse_opening (m : Memory μ) :
    (call.opening engine m).previousResponse = call.storedAnswer m := by
  rw [HandleCall.opening, HandleCall.storedAnswer]
  cases call.record m with
  | none => rfl
  | some state => rfl

/-- Some registered provider is enabled. -/
def Registry.HasEnabled (registry : Registry μ) : Prop :=
  ∃ provider ∈ registry.listProviders, provider.enabled = true

theorem Registry.availableForRouter_ne_nil {registry : Registry μ} (h : registry.HasEnabled) :
    registry.availableForRouter [] ≠ [] := by
  obtain ⟨provider, hprovider, henabled⟩ := h
  have havailable : (⟨provider.id, provider.capabilities⟩ : AvailableProvider) ∈
      registry.availableForRouter [] := by
    apply Registry.mem_availableForRouter_iff.mpr
    exact ⟨provider, Registry.mem_listProviders_iff.mp hprovider, henabled, List.not_mem_nil, rfl⟩
  exact List.ne_nil_of_mem havailable

/-- After the reset the guard looks at the budget alone. -/
theorem retryGuardFired_opening {m : Memory μ} {registry : Registry μ} (h : registry.HasEnabled) :
    retryGuardFired registry (call.opening engine m) = decide (call.budget engine m = 0) := by
  have havailable : (registry.availableForRouter []).isEmpty = false :=
    List.isEmpty_eq_false_iff.mpr (Registry.availableForRouter_ne_nil h)
  rw [retryGuardFired]
  rw [maxAttempts_opening]
  show (decide (call.budget engine m ≤ 0) || (registry.availableForRouter []).isEmpty) = _
  rw [havailable, Bool.or_false, decide_eq_decide]
  exact Nat.le_zero

section Ladder

open Routine

variable {rely : Memory μ → Memory μ → Prop} {m : Memory μ} {state : ConversationState}

/-- A note costs a call that promises nothing nothing. -/
theorem note_bind_relying {update : Capture μ → Capture μ} {α : Type} {next : Unit → Routine μ α}
    {post : List (EngineEvent μ) → Memory μ → Except Raised α → Prop}
    (h : (next ()).wp (Contract.relying rely) post { m with own := update m.own }) :
    (note update >>= next).wp (Contract.relying rely) post m :=
  Coro.wp_modify_bind_relying.mpr h

theorem beginsWithLadder_decisionFromLadder (request : RouterRequest) :
    (decisionFromLadder request).wp (Contract.relying rely)
      (fun trace _ _ => BeginsWithLadder request trace) m := by
  rw [decisionFromLadder, climb]
  apply note_bind_relying
  apply Coro.wp_bind_of_beginning BeginsWithLadder.append
  rw [askRouter, Coro.wp_ask]
  exact ⟨fun _ => trivial, fun reply _ _ => ⟨_, reply, [], rfl⟩⟩

variable [Metric μ]

/-- Without a tenant, every available provider is a candidate, and nothing is noted. -/
theorem resolveCandidates_bind_of_legacy {c : Contract (Memory μ)} {context : RoutingContext}
    {excluded : List String} {next : CandidateSet μ → Routine μ RoutingResponse}
    {post : List (EngineEvent μ) → Memory μ → Except Raised RoutingResponse → Prop}
    (htenant : m.own.tenant = none)
    (h : (next (legacyCandidateSet m.shared.registry excluded)).wp c post m) :
    (resolveCandidates engine context excluded >>= next).wp c post m := by
  rw [resolveCandidates]
  rw [bind_assoc]
  apply Discipline.memory_bind
  split
  · rename_i tenant _ hsome
    rw [htenant] at hsome
    cases hsome
  · exact h

omit [Metric μ] in
/-- The guard is open only if somebody is available. -/
theorem ids_legacyCandidateSet_ne_nil {registry : Registry μ}
    (hguard : retryGuardFired registry state = false) :
    (legacyCandidateSet registry state.excludedProviders).ids ≠ [] := by
  have havailable : registry.availableForRouter state.excludedProviders ≠ [] :=
    List.isEmpty_eq_false_iff.mp (Bool.or_eq_false_iff.mp hguard).2
  intro hnil
  exact havailable (List.map_eq_nil_iff.mp hnil)

/-- Without a tenant, an iteration with an open guard goes straight to the ladder. -/
theorem beginsWithLadder_routeBody {blocked : List Backend}
    {next : ConversationState → List Backend → Routine μ RoutingResponse}
    (htenant : m.own.tenant = none) (hguard : retryGuardFired m.shared.registry state = false) :
    (routeBody engine call next state blocked).wp (Contract.relying rely)
      (fun trace _ _ => BeginsWithLadder (exposedRequest m.shared.registry call state
        (legacyCandidateSet m.shared.registry state.excludedProviders).ids) trace) m := by
  have hids := ids_legacyCandidateSet_ne_nil hguard
  rw [routeBody]
  apply Discipline.guardFired_bind
  rw [hguard]
  apply note_bind_relying
  apply resolveCandidates_bind_of_legacy
  · exact htenant
  · simp only
    rw [if_neg hids]
    apply Discipline.memory_bind
    apply note_bind_relying
    apply Coro.wp_bind_of_beginning BeginsWithLadder.append
    exact beginsWithLadder_decisionFromLadder _

/-- The routing of a ready record, from its first question on. -/
theorem beginsWithLadder_routeAndAttach (htenant : m.own.tenant = none)
    (hguard : retryGuardFired m.shared.registry state = false) :
    (routeAndAttach engine call state).wp (Contract.relying rely)
      (fun trace _ _ => BeginsWithLadder (exposedRequest m.shared.registry call state
        (legacyCandidateSet m.shared.registry state.excludedProviders).ids) trace) m := by
  rw [routeAndAttach]
  apply note_bind_relying
  apply Coro.wp_bind_of_beginning BeginsWithLadder.append
  rw [route_eq]
  apply beginsWithLadder_routeBody
  · exact htenant
  · exact hguard

/-- Writing a record back and routing it, if its conversation is stored. -/
theorem beginsWithLadder_writeBack {stored : ConversationState} (htenant : m.own.tenant = none)
    (hload : m.shared.conversations.load state.conversationId call.tenantId = some stored)
    (hguard : retryGuardFired m.shared.registry state = false) :
    (do
      writeBack state call.tenantId
      routeAndAttach engine call state).wp (Contract.relying rely)
      (fun trace _ _ => BeginsWithLadder (exposedRequest m.shared.registry call state
        (legacyCandidateSet m.shared.registry state.excludedProviders).ids) trace) m := by
  rw [writeBack, bind_assoc]
  apply Discipline.memory_bind
  simp only [ConversationStateManager.update_of_load hload]
  apply Coro.wp_modify_bind_relying.mpr
  apply beginsWithLadder_routeAndAttach
  · exact htenant
  · exact hguard

/-- A new message without a tenant, from its first question on. -/
theorem beginsWithLadder_handleMessage (htenant : m.own.tenant = none)
    (hguard : retryGuardFired m.shared.registry (call.opening engine m) = false) :
    (handleMessage engine call).wp (Contract.relying rely)
      (fun trace _ _ => BeginsWithLadder (exposedRequest m.shared.registry call
        (call.opening engine m) (legacyCandidateSet m.shared.registry []).ids) trace) m := by
  rw [handleMessage, loadOrCreate, bind_assoc]
  apply Discipline.memory_bind
  rw [HandleCall.opening] at hguard ⊢
  cases hload : m.shared.conversations.load call.request.conversationId call.tenantId with
  | some stored =>
      have hid : stored.conversationId = call.request.conversationId :=
        ConversationStateManager.conversationId_of_load hload
      have hstored : m.shared.conversations.load stored.conversationId call.tenantId =
          some stored := by rw [hid, hload]
      rw [show call.record m = some stored from hload] at hguard ⊢
      exact beginsWithLadder_writeBack htenant hstored hguard
  | none =>
      have hcreated : (m.shared.conversations.put (Terms.createdState engine call)
          call.tenantId).load call.request.conversationId call.tenantId =
            some (Terms.createdState engine call) := ConversationStateManager.load_put_self
      rw [show call.record m = none from hload] at hguard ⊢
      simp only [bind_assoc, pure_bind]
      apply Coro.wp_modify_bind_relying.mpr
      exact beginsWithLadder_writeBack htenant hcreated hguard

/-- A new message without a tenant looks at the clock and then asks the ladder. -/
theorem beginsWithLadder_handle (hlegacy : call.tenant = none)
    (hmessage : call.request.retry = false)
    (hguard : retryGuardFired m.shared.registry (call.opening engine m) = false) :
    (handle engine call).wp (Contract.relying rely) (fun trace _ _ =>
      ∃ (now : ℚ) (body : List (EngineEvent μ)), trace = ⟨.loopTime, m, now⟩ :: body ∧
        BeginsWithLadder (exposedRequest m.shared.registry call (call.opening engine m)
          (legacyCandidateSet m.shared.registry []).ids) body) m := by
  rw [handle, loopTime, Coro.wp_bind, Coro.wp_ask]
  refine ⟨fun _ => trivial, fun now resumed hresumed => ?_⟩
  obtain rfl : resumed = m := by simpa [Coro.Resumes] using hresumed
  refine Coro.wp_mono ?_ fun body _ _ (hladder : BeginsWithLadder (exposedRequest
    resumed.shared.registry call (call.opening engine resumed)
      (legacyCandidateSet resumed.shared.registry []).ids) body) => ⟨now, body, rfl, hladder⟩
  apply note_bind_relying
  apply Coro.wp_bind_of_beginning BeginsWithLadder.append
  rw [Coro.wp_attempt, handleBody, hmessage]
  exact beginsWithLadder_handleMessage hlegacy hguard

end Ladder

section Stop

variable [Metric μ] {state : ConversationState} {m m' : Memory μ} {trace : List (EngineEvent μ)}
  {out : Except Raised RoutingResponse}

/-- What the loop makes of a new message: with the guard fired it asks nobody, and otherwise
only a router can stop it. -/
structure Undisturbed (state : ConversationState) (m : Memory μ) (trace : List (EngineEvent μ))
    (out : Except Raised RoutingResponse) : Prop where
  silent : retryGuardFired m.shared.registry state = true → trace = []
  not_stopped : retryGuardFired m.shared.registry state = false → ¬ StoppedUnasked trace out

/-- A new message is routed once, since no router may ask for a retry. -/
theorem undisturbed_of_iteration {exclusive : Prop} {allowed : Set (Registry μ)}
    {blocked : List Backend} (hmessage : call.request.retry = false)
    {rest : List Backend → Memory μ → List (EngineEvent μ) → Memory μ →
      Except Raised RoutingResponse → Prop}
    (h : Discipline.IterationOutcome engine call (Surroundings.discipline exclusive allowed call)
      state blocked m rest trace m' out) :
    Undisturbed state m trace out := by
  have hconsulted : ∀ {candidateSet : CandidateSet μ} {ladder : List (EngineEvent μ)},
      Discipline.Consultation engine call (Surroundings.discipline exclusive allowed call) state m
        candidateSet ladder →
      ∀ {trace : List (EngineEvent μ)} {out : Except Raised RoutingResponse},
        ¬ StoppedUnasked trace out → Undisturbed state m trace out := by
    intro candidateSet ladder consulted trace out hstopped
    constructor
    · intro hfired
      rw [consulted.guard] at hfired
      cases hfired
    · intro _
      exact hstopped
  cases h with
  | guarded guard =>
      constructor
      · intro _
        rfl
      · intro hopen
        rw [guard] at hopen
        cases hopen
  | refused held => exact ⟨fun _ => rfl, fun _ => not_stoppedUnasked_error⟩
  | undecided consulted held => exact hconsulted consulted not_stoppedUnasked_error
  | lost consulted lost => exact hconsulted consulted not_stoppedUnasked_error
  | replied consulted decided held action response_action =>
      apply hconsulted consulted
      rcases action with hclarify | hstop
      · apply not_stoppedUnasked_of_action
        rw [response_action, hclarify]
        exact fun h => by cases h
      · rw [← List.append_nil trace]
        exact not_stoppedUnasked_of_decidedBy decided hstop
  | stopped consulted decided action held record guard =>
      have hretry := consulted.retry_of_decidedBy decided action
      rw [hmessage] at hretry
      cases hretry
  | retried consulted decided action refused held later =>
      have hretry := consulted.retry_of_decidedBy decided action
      rw [hmessage] at hretry
      cases hretry
  | executed consulted decided action refused held chain =>
      apply hconsulted consulted
      cases chain with
      | answered => exact not_stoppedUnasked_of_action fun h => by cases h
      | failed => exact not_stoppedUnasked_error
      | lost => exact not_stoppedUnasked_error

omit [Metric μ] in
/-- The body of a call for a new message is undisturbed. -/
theorem undisturbed_of_body {exclusive : Prop} {allowed : Set (Registry μ)}
    (hmessage : call.request.retry = false)
    (h : Terms.BodyOutcome exclusive allowed engine call
      (fun state _ m trace _ out => Undisturbed state m trace out) m trace m' out) :
    Undisturbed (call.opening engine m) m trace out := by
  have hno : call.request.retry = true → False := by
    intro hretry
    rw [hmessage] at hretry
    cases hretry
  cases h with
  | unknown retry => exact (hno retry).elim
  | imageRequired retry => exact (hno retry).elim
  | exhausted retry => exact (hno retry).elim
  | stopped retry => exact (hno retry).elim
  | retried retry => exact (hno retry).elim
  | lost lost => exact ⟨fun _ => rfl, fun _ => not_stoppedUnasked_error⟩
  | begun message found registry held later attached =>
      have hopening : call.opening engine m = Routine.freshTurn call _ :=
        congrArg (Routine.freshTurn call) found
      rw [hopening]
      constructor
      · intro hfired
        apply later.silent
        rwa [registry]
      · intro hopen hstopped
        rw [← registry] at hopen
        exact later.not_stopped hopen (hstopped.of_attached attached)

/-- The call opens a turn: it asks the router ladder about the new message, with the stored
answer as the previous one, and the retry guard does not stop it. -/
structure OpensTurn (call : HandleCall) (m : Memory μ) (trace : List (EngineEvent μ))
    (out : Except Raised RoutingResponse) : Prop where
  ladder : ∃ (now : ℚ) (request : RouterRequest) (body : List (EngineEvent μ)),
    trace = ⟨.loopTime, m, now⟩ :: body ∧ BeginsWithLadder request body ∧ request.attempt = 0 ∧
      request.originalQuery = call.request.message ∧
      request.previousResponse = call.storedAnswer m
  not_stopped : ¬ StoppedUnasked trace out

/-- A new message opens a turn exactly when its conversation has a budget at all, whatever
earlier turns have left behind. -/
theorem opensTurn_iff (hlegacy : call.tenant = none) (hmessage : call.request.retry = false)
    (henabled : m.shared.registry.HasEnabled)
    (hrun : Coro.Run (Surroundings False Set.univ call) (Routine.handle engine call) m trace m'
      out) :
    OpensTurn call m trace out ↔ 1 ≤ call.budget engine m := by
  have hguard : retryGuardFired m.shared.registry (call.opening engine m) =
      decide (call.budget engine m = 0) := retryGuardFired_opening henabled
  obtain ⟨now, body, result, rfl, hbody, hout⟩ := Surroundings.outcome
    (P := fun state _ m trace _ out => Undisturbed state m trace out) hrun (Set.mem_univ _)
    fun _ _ _ _ _ _ _ => undisturbed_of_iteration hmessage
  have hundisturbed := undisturbed_of_body hmessage hbody
  constructor
  · intro hopens
    rw [Nat.one_le_iff_ne_zero]
    intro hbudget
    obtain ⟨_, request, body', htrace, ⟨asked, reply, rest, rfl⟩, -⟩ := hopens.ladder
    rw [hbudget] at hguard
    rw [hundisturbed.silent hguard] at htrace
    cases htrace
  · intro hbudget
    have hopen : retryGuardFired m.shared.registry (call.opening engine m) = false := by
      rw [hguard, decide_eq_false_iff_not]
      exact Nat.one_le_iff_ne_zero.mp hbudget
    constructor
    · obtain ⟨now', body', htrace, hladder⟩ :=
        Coro.wp_sound (beginsWithLadder_handle hlegacy hmessage hopen) hrun
      exact ⟨now', _, body', htrace, hladder, rfl, rfl, previousResponse_opening m⟩
    · rintro ⟨⟨response, hresponse, hstop⟩, hunasked⟩
      apply hundisturbed.not_stopped hopen
      constructor
      · exact ⟨response, (hout response).mp hresponse, hstop⟩
      · intro event hevent
        exact hunasked event (List.mem_cons_of_mem _ hevent)

end Stop

/-- With a budget of zero, which settings admit, a first message is answered by STOP. -/
theorem first_message_stopped :
    ¬ ∀ (engine : RoutingEngine) (call : HandleCall) (m m' : Memory ℤ)
      (trace : List (EngineEvent ℤ)) (out : Except Raised RoutingResponse),
      call.tenant = none → call.request.retry = false → m.shared.registry.HasEnabled →
      Coro.Run (Surroundings False Set.univ call) (Routine.handle engine call) m trace m' out →
      OpensTurn call m trace out := by
  intro hclaim
  have hopens := hclaim { maxAttempts := 0 } askCall (deployment pair none) _ _ _ rfl rfl
    ⟨generalProvider "first" 1 .google, by decide, rfl⟩ (Coro.run_eval Surroundings.refl
      (scripted (fun _ => .ok (.decision generalDecision)) fun _ => .ok "text") _ _ 0)
  obtain ⟨now, request, body, htrace, ⟨asked, reply, rest, rfl⟩, -⟩ := hopens.ladder
  have hlength := congrArg List.length htrace
  rw [List.length_cons, List.length_cons] at hlength
  have hsilent : ((Routine.handle { maxAttempts := 0 } askCall).eval
      (scripted (fun _ => .ok (.decision generalDecision)) fun _ => .ok "text")
      (deployment pair none) 0).1.length = 1 := by decide +kernel
  omega

/-- A message after the budget of its conversation has been spent opens a turn. -/
theorem opensTurn_spentUp :
    OpensTurn askCall (deployment pair (some spentUp))
      ((Routine.handle { maxAttempts := 3 } askCall).eval
        (scripted (fun _ => .ok (.decision generalDecision)) fun _ => .ok "text")
        (deployment pair (some spentUp)) 0).1
      ((Routine.handle { maxAttempts := 3 } askCall).eval
        (scripted (fun _ => .ok (.decision generalDecision)) fun _ => .ok "text")
        (deployment pair (some spentUp)) 0).2.2 :=
  (opensTurn_iff rfl rfl ⟨generalProvider "first" 1 .google, by decide, rfl⟩
    (Coro.run_eval Surroundings.refl _ _ _ 0)).mpr (by decide +kernel)

end LLMRouting
