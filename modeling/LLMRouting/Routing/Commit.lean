/-
# What a call leaves in the store

A call has many exits and one commit. This module follows the stored record through a whole
call that has its conversation to itself: only an answer that is returned changes the
previous response and the last provider, and only the provider of the answer before it is
ever added to the exclusions. The providers themselves may be enabled, disabled or
reconfigured meanwhile.
-/

import LLMRouting.Routing.Dispatch

namespace LLMRouting

open LLMRouting.Interaction

variable {μ : Type}

/-- The registries that hold the same providers, whatever their configurations. -/
def Registry.sameProviders (registry : Registry μ) : Set (Registry μ) :=
  {other | ∀ id, (other.getProvider? id).isSome = (registry.getProvider? id).isSome}

/-- The stored record of a call's conversation. -/
abbrev HandleCall.record (call : HandleCall) (m : Memory μ) : Option ConversationState :=
  m.shared.conversations.load call.request.conversationId call.tenantId

variable {engine : RoutingEngine} {call : HandleCall} {registry : Registry μ}

/-- An outcome other than an ANSWER. -/
def NoAnswer (out : Except Raised RoutingResponse) : Prop :=
  ∀ response, out = .ok response → response.action ≠ .answer

theorem noAnswer_error {raised : Raised} : NoAnswer (.error raised) := by
  intro response h
  cases h

theorem noAnswer_ok_iff {response : RoutingResponse} :
    NoAnswer (.ok response) ↔ response.action ≠ .answer := by
  constructor
  · intro h
    exact h response rfl
  · rintro h _ ⟨⟩
    exact h

theorem noAnswer_stop {conversationId : String} : NoAnswer (.ok (stopResponse conversationId)) :=
  noAnswer_ok_iff.mpr (by simp [stopResponse])

/-- How the routing loop leaves the record it began with as `state`: with the attempts it
counted and, if it answers, with the answer. -/
inductive LoopEnd (call : HandleCall) (state : ConversationState) (trace : List (EngineEvent μ))
    (m' : Memory μ) : Except Raised RoutingResponse → Prop
  | answered {kept : ConversationState} {providerId response : String}
      (counted : state.Retried kept)
      (stored : call.record m' = some (kept.answered providerId response))
      (produced : Produced trace providerId response)
      (selected : m'.own.selectedProvider = some providerId)
      (registered : (m'.shared.registry.getProvider? providerId).isSome) :
      LoopEnd call state trace m'
        (.ok { conversationId := kept.conversationId, action := .answer, response := response })
  | unanswered {kept : ConversationState} {out : Except Raised RoutingResponse}
      (counted : state.Retried kept) (stored : call.record m' = some kept)
      (noAnswer : NoAnswer out) :
      LoopEnd call state trace m' out

/-- The loop begins with the record after one more retry. -/
theorem LoopEnd.of_retried {state : ConversationState} {trace : List (EngineEvent μ)}
    {m' : Memory μ} {out : Except Raised RoutingResponse} (before : List (EngineEvent μ))
    (h : LoopEnd call state.retried trace m' out) :
    LoopEnd call state (before ++ trace) m' out := by
  have hretried := ConversationState.retried_retried state
  cases h with
  | answered counted stored produced selected registered =>
      apply LoopEnd.answered (hretried.trans counted) stored _ selected registered
      exact produced.mono fun event hevent => List.mem_append_right before hevent
  | unanswered counted stored noAnswer => exact .unanswered (hretried.trans counted) stored noAnswer

/-- A provider of a chain stays registered. -/
theorem registered_of_mem_chain [Metric μ] {group : TaskGroup} {excluded : List String}
    {allowedIds : Option (List String)} {preserve : Bool} {asked m' : Memory μ}
    {providerId : String}
    (hasked : asked.shared.registry ∈ registry.sameProviders)
    (hm' : m'.shared.registry ∈ registry.sameProviders)
    (hmem : providerId ∈
      (asked.shared.registry.candidatesFor group call.hasImage excluded allowedIds
      preserve).map ProviderConfig.id) :
    (m'.shared.registry.getProvider? providerId).isSome := by
  obtain ⟨config, hconfig, rfl⟩ := List.mem_map.mp hmem
  rw [hm' config.id, ← hasked config.id, Registry.getProvider?_of_mem_candidatesFor hconfig]
  rfl

/-- Every iteration leaves the record as `LoopEnd` says if the rest of the loop does. -/
theorem loopEnd_of_iteration [Metric μ] {state : ConversationState} {blocked : List Backend}
    {m m' : Memory μ} {trace : List (EngineEvent μ)} {out : Except Raised RoutingResponse}
    (hm : Held True registry.sameProviders call state m)
    (h : Discipline.IterationOutcome engine call
      (Surroundings.discipline True registry.sameProviders call) state blocked m
      (fun _ _ => LoopEnd call state.retried) trace m' out) :
    LoopEnd call state trace m' out := by
  have hkept : ∀ {kept : ConversationState} {m₁ : Memory μ},
      (Surroundings.discipline True registry.sameProviders call).held kept m₁ →
        call.record m₁ = some kept :=
    fun held => (Surroundings.held_iff.mp held).stored trivial
  cases h with
  | guarded => exact .unanswered (.refl state) (hm.stored trivial) noAnswer_stop
  | refused held => exact .unanswered (.refl state) (hkept held) noAnswer_error
  | undecided _ held => exact .unanswered (.refl state) (hkept held) noAnswer_error
  | replied _ _ held action response_action =>
      apply LoopEnd.unanswered (.refl state) (hkept held)
      rw [noAnswer_ok_iff, response_action]
      rcases action with haction | haction
      · simp [haction]
      · simp [haction]
  | stopped _ _ _ held record =>
      rcases record with rfl | rfl
      · exact .unanswered (.refl _) (hkept held) noAnswer_stop
      · exact .unanswered (ConversationState.retried_retried state) (hkept held) noAnswer_stop
  | lost _ lost => exact absurd trivial (Surroundings.lost_iff.mp lost)
  | retried _ _ _ _ _ later => exact later.of_retried _
  | executed _ _ _ _ held chain =>
      have hasked := (Surroundings.held_iff.mp held).registry_mem
      cases chain with
      | answered chain produced candidate selected held' =>
          have hm' := (Surroundings.held_iff.mp held').registry_mem
          apply LoopEnd.answered (.refl state) (hkept held') _ selected
            (registered_of_mem_chain hasked hm' candidate)
          exact produced.mono fun event hevent => List.mem_append_right _ hevent
      | failed _ held' => exact .unanswered (.refl state) (hkept held') noAnswer_error
      | lost _ lost => exact absurd trivial (Surroundings.lost_iff.mp lost)

/-- The exclusions of a conversation that may not exist yet. -/
def excludedOf (record : Option ConversationState) : List String :=
  (record.map ConversationState.excludedProviders).getD []

/-- What a call may do to its conversation's record, read before and after it. -/
structure Committed (call : HandleCall) (trace : List (EngineEvent μ))
    (before after : Option ConversationState) (out : Except Raised RoutingResponse) : Prop where
  answered : ∀ response, out = .ok response → response.action = .answer →
    ∃ providerId, after.bind ConversationState.lastProvider = some providerId ∧
      after.bind ConversationState.previousResponse = some response.response ∧
      Produced trace providerId response.response
  unanswered : NoAnswer out →
    after.bind ConversationState.previousResponse =
        before.bind ConversationState.previousResponse ∧
      after.bind ConversationState.lastProvider =
        if call.request.retry then before.bind ConversationState.lastProvider else none
  excluded : ∀ id ∈ excludedOf after,
    id ∈ excludedOf before ∨ before.bind ConversationState.lastProvider = some id

theorem Committed.mono {trace trace' : List (EngineEvent μ)}
    {before after : Option ConversationState} {out out' : Except Raised RoutingResponse}
    (h : Committed call trace before after out) (htrace : ∀ event ∈ trace, event ∈ trace')
    (hout : ∀ response, out' = .ok response ↔ out = .ok response) :
    Committed call trace' before after out' where
  answered response hresponse haction := by
    obtain ⟨providerId, hlast, hprevious, hproduced⟩ :=
      h.answered response ((hout response).mp hresponse) haction
    exact ⟨providerId, hlast, hprevious, hproduced.mono htrace⟩
  unanswered hno := h.unanswered fun response hresponse =>
    hno response ((hout response).mpr hresponse)
  excluded := h.excluded

/-- A retry that leaves the record alone and does not answer. -/
theorem committed_of_unchanged {trace : List (EngineEvent μ)}
    {before after : Option ConversationState} {out : Except Raised RoutingResponse}
    (hretry : call.request.retry = true) (hrecord : after = before) (hno : NoAnswer out) :
    Committed call trace before after out where
  answered response hresponse haction := absurd haction (hno response hresponse)
  unanswered _ := by
    rw [hrecord, hretry]
    exact ⟨rfl, rfl⟩
  excluded id hid := Or.inl (hrecord ▸ hid)

/-- The record a call starts to work on, as the stored one determines it. -/
structure Begins (call : HandleCall) (before : Option ConversationState)
    (start : ConversationState) : Prop where
  previousResponse_eq : start.previousResponse = before.bind ConversationState.previousResponse
  lastProvider_eq : start.lastProvider =
    if call.request.retry then before.bind ConversationState.lastProvider else none
  excluded_subset : ∀ id ∈ start.excludedProviders, id ∈ excludedOf before

theorem begins_markImage {stored : ConversationState} (hretry : call.request.retry = true) :
    Begins call (some stored) (Routine.markImage call stored) where
  previousResponse_eq := rfl
  lastProvider_eq := by
    rw [hretry]
    rfl
  excluded_subset _ hid := hid

theorem begins_freshTurn {before : Option ConversationState}
    (hmessage : call.request.retry = false) :
    Begins call before
      (Routine.freshTurn call (before.getD (Terms.createdState engine call))) where
  previousResponse_eq := by cases before <;> rfl
  lastProvider_eq := by
    rw [hmessage]
    rfl
  excluded_subset _ hid := absurd hid List.not_mem_nil

/-- Retries add the provider of the answer before, and no other. -/
theorem Begins.excluded {before : Option ConversationState} {start kept : ConversationState}
    (h : Begins call before start) (hcounted : start.Retried kept) :
    ∀ id ∈ kept.excludedProviders,
      id ∈ excludedOf before ∨ before.bind ConversationState.lastProvider = some id := by
  intro id hid
  rcases hcounted.mem_excluded id hid with hexcluded | hlast
  · exact Or.inl (h.excluded_subset id hexcluded)
  · rw [h.lastProvider_eq] at hlast
    split at hlast
    · exact Or.inr hlast
    · cases hlast

theorem NoAnswer.attached {m : Memory μ} {result out : Except Raised RoutingResponse}
    (hno : NoAnswer result) (h : Terms.Attached m result out) : NoAnswer out := by
  cases h with
  | raised => exact noAnswer_error
  | attached response =>
      rw [noAnswer_ok_iff] at hno ⊢
      exact hno
  | unbuilt => exact noAnswer_error

/-- What the loop leaves, with diagnostics attached to its outcome. -/
theorem committed_of_loopEnd {before : Option ConversationState} {start : ConversationState}
    {trace : List (EngineEvent μ)} {m' : Memory μ} {result out : Except Raised RoutingResponse}
    (hbegins : Begins call before start) (hend : LoopEnd call start trace m' result)
    (hattached : Terms.Attached m' result out) :
    Committed call trace before (call.record m') out := by
  cases hend with
  | @answered kept providerId response counted stored produced selected registered =>
      have hexcluded : ∀ id ∈ excludedOf (call.record m'), id ∈ excludedOf before ∨
          before.bind ConversationState.lastProvider = some id := by
        rw [stored]
        exact fun id hid => hbegins.excluded counted id hid
      cases hattached with
      | attached _ diagnostics =>
          refine ⟨?_, fun hno => absurd rfl (hno _ rfl), hexcluded⟩
          rintro _ ⟨⟩ -
          rw [stored]
          exact ⟨providerId, rfl, rfl, produced⟩
      | unbuilt selected' unregistered =>
          obtain rfl := Option.some.inj (selected.symm.trans selected')
          rw [unregistered] at registered
          cases registered
  | @unanswered kept _ counted stored noAnswer =>
      have hno := noAnswer.attached hattached
      refine ⟨fun response hresponse haction => absurd haction (hno response hresponse), ?_, ?_⟩
      · intro _
        rw [stored, ← hbegins.previousResponse_eq, ← hbegins.lastProvider_eq]
        exact ⟨counted.previousResponse_eq, counted.lastProvider_eq⟩
      · rw [stored]
        exact hbegins.excluded counted

/-- Whatever the routers, the providers, the gateway and the clock do, a call that has its
conversation to itself records an answer exactly if it returns it. -/
theorem handle_committed [Metric μ] {m m' : Memory μ} {trace : List (EngineEvent μ)}
    {out : Except Raised RoutingResponse}
    (hrun : Coro.Run (Surroundings True m.shared.registry.sameProviders call)
      (Routine.handle engine call) m trace m' out) :
    Committed call trace (call.record m) (call.record m') out := by
  obtain ⟨now, body, result, rfl, hbody, hout⟩ := Surroundings.outcome
    (P := fun state _ _ => LoopEnd call state) hrun (fun _ => rfl)
    fun _ _ _ _ _ _ => loopEnd_of_iteration
  have hclock : ∀ event ∈ body, event ∈ (⟨.loopTime, m, now⟩ : EngineEvent μ) :: body :=
    fun event => List.mem_cons_of_mem _
  suffices hcommitted : Committed call body (call.record m) (call.record m') result from
    hcommitted.mono hclock hout
  cases hbody with
  | unknown retry missing => exact committed_of_unchanged retry rfl noAnswer_error
  | imageRequired retry _ _ _ shared =>
      apply committed_of_unchanged retry _ noAnswer_error
      rw [HandleCall.record, shared]
  | exhausted retry _ _ shared attached =>
      apply committed_of_unchanged retry _ (noAnswer_stop.attached attached)
      rw [HandleCall.record, shared]
  | stopped retry found _ held _ attached =>
      rw [HandleCall.record, found]
      apply committed_of_loopEnd (begins_markImage retry) _ attached
      exact .unanswered (ConversationState.retried_retried _) (held.stored trivial) noAnswer_stop
  | retried retry found _ _ _ _ later attached =>
      rw [HandleCall.record, found]
      exact committed_of_loopEnd (begins_markImage retry) (later.of_retried []) attached
  | begun message found _ _ later attached =>
      rw [← found] at later
      exact committed_of_loopEnd (begins_freshTurn message) later attached
  | lost lost => exact absurd trivial lost

theorem handle_committed_secondOpinion :
    (secondOpinionCall.record secondOpinion.2.1).bind ConversationState.lastProvider =
      some "third" ∧
      Committed secondOpinionCall secondOpinion.1 (secondOpinionCall.record secondOpinionMemory)
        (secondOpinionCall.record secondOpinion.2.1) secondOpinion.2.2 :=
  ⟨by decide +kernel, handle_committed (run_secondOpinion Surroundings.refl)⟩

end LLMRouting
