/-
# Images within a turn

A retry marks the record with whether it carries an image itself, and the mark reaches the
store with the bookkeeping that lets the retry go on to the routers. So once a request with an
image has been routed the stored record says so, and a retry without one is turned away before
anybody is asked. No step of a turn takes the mark back, as the only retry that could is the
one that is turned away.
-/

import LLMRouting.Routing.Answers
import LLMRouting.Routing.Rejections

namespace LLMRouting

open LLMRouting.Interaction

variable {μ : Type} {engine : RoutingEngine} {call : HandleCall}

/-- The conversation is about an image. -/
def Marked (record : Option ConversationState) : Prop := ∃ state ∈ record, state.hasImage = true

/-- Retries keep the mark. -/
theorem hasImage_retried {state : ConversationState} (h : state.hasImage = true) :
    state.retried.hasImage = true :=
  (ConversationState.retried_retried state).hasImage_eq.trans h

section Call

variable [Metric μ] {m m' : Memory μ} {trace : List (EngineEvent μ)}
  {out : Except Raised RoutingResponse}

/-- Whatever the loop does with a marked record, it leaves the mark. -/
theorem marked_of_iteration {state : ConversationState} {blocked : List Backend}
    (hm : Held True Set.univ call state m) (hstate : state.hasImage = true)
    (h : Discipline.IterationOutcome engine call (Surroundings.discipline True Set.univ call)
      state blocked m (fun _ _ _ m' _ => state.retried.hasImage = true →
        Marked (call.record m')) trace m' out) :
    Marked (call.record m') := by
  have hkept : ∀ {kept : ConversationState} {m₁ : Memory μ},
      (Surroundings.discipline True Set.univ call).held kept m₁ → kept.hasImage = true →
        Marked (call.record m₁) :=
    fun held himage => ⟨_, (Surroundings.held_iff.mp held).stored trivial, himage⟩
  cases h with
  | guarded => exact ⟨state, hm.stored trivial, hstate⟩
  | refused held => exact hkept held hstate
  | undecided _ held => exact hkept held hstate
  | replied _ _ held => exact hkept held hstate
  | stopped _ _ _ held record =>
      rcases record with rfl | rfl
      · exact hkept held hstate
      · exact hkept held (hasImage_retried hstate)
  | lost _ lost => exact absurd trivial (Surroundings.lost_iff.mp lost)
  | retried _ _ _ _ _ later => exact later (hasImage_retried hstate)
  | executed _ _ _ _ _ chain =>
      cases chain with
      | answered _ _ _ _ held => exact hkept held hstate
      | failed _ held => exact hkept held hstate
      | lost _ lost => exact absurd trivial (Surroundings.lost_iff.mp lost)

omit [Metric μ] in
/-- A call with an image leaves a marked record, unless it asks nobody and leaves the record as
it was. -/
theorem marked_of_body (himage : call.hasImage = true)
    (h : Terms.BodyOutcome True Set.univ engine call (fun state _ _ _ m' _ =>
      state.hasImage = true → Marked (call.record m')) m trace m' out) :
    Marked (call.record m') ∨ trace = [] ∧ call.record m' = call.record m := by
  have hmarked : ∀ stored : ConversationState,
      (Routine.markImage call stored).retried.hasImage = true :=
    fun stored => hasImage_retried himage
  cases h with
  | unknown => exact .inr ⟨rfl, rfl⟩
  | imageRequired _ _ _ no_image =>
      rw [himage] at no_image
      cases no_image
  | exhausted _ _ _ shared => exact .inr ⟨rfl, by rw [HandleCall.record, shared]⟩
  | @stopped stored _ _ _ _ _ held => exact .inl ⟨_, held.stored trivial, hmarked stored⟩
  | @retried stored _ _ _ _ _ _ _ _ _ _ _ later => exact .inl (later (hmarked stored))
  | begun _ _ _ _ later => exact .inl (later himage)
  | lost lost => exact absurd trivial lost

theorem marked_of_run (himage : call.hasImage = true)
    (hrun : Coro.Run (Surroundings True Set.univ call) (Routine.handle engine call) m trace m'
      out) :
    Marked (call.record m') ∨
      (∀ event ∈ trace, event.IsLocal) ∧ call.record m' = call.record m := by
  obtain ⟨now, body, result, rfl, hbody, -⟩ := Surroundings.outcome
    (P := fun state _ _ _ m' _ => state.hasImage = true → Marked (call.record m')) hrun
    (Set.mem_univ _) fun _ _ _ _ _ _ hm hiteration hstate =>
      marked_of_iteration hm hstate hiteration
  rcases marked_of_body himage hbody with hmarked | ⟨rfl, hsame⟩
  · exact .inl hmarked
  · exact .inr ⟨List.forall_mem_singleton.mpr ⟨rfl, rfl⟩, hsame⟩

/-- A retry that lacks the image of its conversation asks nobody and changes nothing. -/
theorem handle_of_imageMissing {rely : Memory μ → Memory μ → Prop} {stored : ConversationState}
    (hretry : call.request.retry = true) (hstored : call.record m = some stored)
    (hmissing : ImageMissing call stored) :
    (Routine.handle engine call).wp (Contract.relying rely)
      (fun trace m' _ =>
        (∀ event ∈ trace, EngineEvent.IsLocal event) ∧ m'.shared = m.shared) m := by
  apply handle_retry_relying hretry
  intro now
  apply handleRetry_relying
  · rfl
  · exact hstored
  · intro _ m' raised hshared _ out _
    exact ⟨List.forall_mem_singleton.mpr ⟨rfl, rfl⟩, hshared⟩
  · intro hpresent
    exact absurd hmissing hpresent
  · intro hpresent
    exact absurd hmissing hpresent
  · intro hpresent
    exact absurd hmissing hpresent

end Call

/-- The call has asked a router. -/
def Finished.ReachedRouter (finished : Finished μ) : Prop :=
  ∃ event ∈ finished.trace, event.routed? ≠ none

/-- The call has asked no router and no provider. -/
def Finished.ReachedNobody (finished : Finished μ) : Prop :=
  ∀ event ∈ finished.trace, event.IsLocal

section Turn

variable [Metric μ] {tenantId conversationId : String}
  {before after first last : Option ConversationState}
  {finished : Finished μ} {calls : List (Finished μ)}

/-- A routed call with an image marks the record. -/
theorem SoleCall.marked_of_reached
    (h : SoleCall engine tenantId conversationId before finished after)
    (himage : finished.call.hasImage = true) (hreached : finished.ReachedRouter) :
    Marked after := by
  obtain ⟨m, m', -, hafter, hrun⟩ := h.ran
  rw [← hafter]
  rcases marked_of_run himage hrun with hmarked | ⟨hlocal, -⟩
  · exact hmarked
  · obtain ⟨event, hevent, hrouted⟩ := hreached
    exact absurd (hlocal event hevent).2 hrouted

/-- A retry leaves a marked record marked, and if it lacks the image it reaches nobody. -/
theorem SoleCall.retry_of_marked
    (h : SoleCall engine tenantId conversationId before finished after)
    (hretry : finished.call.request.retry = true) (hmarked : Marked before) :
    Marked after ∧ (finished.call.hasImage = false → finished.ReachedNobody) := by
  obtain ⟨m, m', hbefore, hafter, hrun⟩ := h.ran
  rw [← hafter]
  rw [← hbefore] at hmarked
  obtain ⟨stored, hstored, himage⟩ := hmarked
  cases hcall : finished.call.hasImage with
  | true =>
      refine ⟨?_, fun hfalse => by cases hfalse⟩
      rcases marked_of_run hcall hrun with hafterwards | ⟨-, hsame⟩
      · exact hafterwards
      · rw [hsame]
        exact ⟨stored, hstored, himage⟩
  | false =>
      obtain ⟨hlocal, hshared⟩ :=
        Coro.wp_sound (handle_of_imageMissing hretry hstored ⟨himage, hcall⟩) hrun
      refine ⟨?_, fun _ => hlocal⟩
      rw [HandleCall.record, hshared]
      exact ⟨stored, hstored, himage⟩

/-- Retries that follow a marked record: none without an image reaches anybody. -/
theorem reachedNobody_of_retries
    (h : Steps (SoleCall engine tenantId conversationId) first calls last)
    (hretries : ∀ finished ∈ calls, finished.call.request.retry = true) (hmarked : Marked first) :
    ∀ finished ∈ calls, finished.call.hasImage = false → finished.ReachedNobody := by
  induction h with
  | nil => exact List.forall_mem_nil _
  | cons head _ ih =>
      obtain ⟨hretry, hretries⟩ := List.forall_mem_cons.mp hretries
      obtain ⟨hafter, hreached⟩ := head.retry_of_marked hretry hmarked
      exact List.forall_mem_cons.mpr ⟨hreached, ih hretries hafter⟩

/-- Once a call with an image has reached a router, no later retry of its turn that lacks an
image reaches a router or a provider, whatever the calls in between do. -/
theorem image_kept_in_turn
    (h : Steps (SoleCall engine tenantId conversationId) first calls last) :
    ∀ (earlier : List (Finished μ)) (routed : Finished μ) (retries later : List (Finished μ)),
      calls = earlier ++ routed :: (retries ++ later) →
      routed.call.hasImage = true → routed.ReachedRouter →
      (∀ finished ∈ retries, finished.call.request.retry = true) →
      ∀ finished ∈ retries, finished.call.hasImage = false → finished.ReachedNobody := by
  rintro earlier routed retries later rfl himage hreached hretries
  obtain ⟨_, -, hturn⟩ := Steps.append_iff.mp h
  cases hturn with
  | cons head tail =>
      obtain ⟨_, hretried, -⟩ := Steps.append_iff.mp tail
      exact reachedNobody_of_retries hretried hretries (head.marked_of_reached himage hreached)

end Turn

/-- A retry that adds an image. -/
def imagedCall : HandleCall :=
  { request :=
      { conversationId := "c", message := "again", retry := true
        image := some
          { mediaType := "image/png"
            dataBase64 := "iVBORw0KGgoAAAANSUhEUgAAAAEAAAABCAYAAAAfFcSJ" } } }

/-- The record after that retry, which no provider answers. -/
def imagedOnce : ConversationState :=
  { answeredOnce with attemptCount := 1, excludedProviders := ["first"], hasImage := true }

theorem image_kept_in_turn_added :
    (obliging imagedCall (some answeredOnce)).ReachedRouter ∧
      (obliging againCall (some imagedOnce)).ReachedNobody := by
  have hask : SoleCall { maxAttempts := 3 } "legacy" "c" none (obliging askCall none)
      (some answeredOnce) := soleCall_obliging askCall (by decide +kernel) (by decide +kernel)
  have himaged : SoleCall { maxAttempts := 3 } "legacy" "c" (some answeredOnce)
      (obliging imagedCall (some answeredOnce)) (some imagedOnce) :=
    soleCall_obliging imagedCall (by decide +kernel) (by decide +kernel)
  have hplain : SoleCall { maxAttempts := 3 } "legacy" "c" (some imagedOnce)
      (obliging againCall (some imagedOnce)) (some imagedOnce) :=
    soleCall_obliging againCall (by decide +kernel) (by decide +kernel)
  have hreached : (obliging imagedCall (some answeredOnce)).ReachedRouter := by
    show ∃ event ∈ _, _
    decide +kernel
  refine ⟨hreached, ?_⟩
  exact image_kept_in_turn (.cons hask (.cons himaged (.cons hplain (.nil _)))) [_] _ [_] [] rfl rfl
    hreached (List.forall_mem_singleton.mpr rfl) _ (List.mem_singleton_self _) rfl

end LLMRouting
