/-
# What a request asked

The questions of one `handle` call, as they appear in its trace: which providers were
dispatched, which ladders were climbed, and how a provider's text became the answer.
-/

import LLMRouting.Routing.Engine

namespace LLMRouting

open LLMRouting.Interaction

variable {μ : Type}

abbrev EngineEvent (μ : Type) : Type := Event engineInterface (Memory μ)

namespace EngineEvent

/-- The provider a question dispatches. -/
def dispatched? : EngineEvent μ → Option String
  | ⟨.dispatch providerId _, _, _⟩ => some providerId
  | _ => none

/-- The provider has answered. -/
def IsAnswer : EngineEvent μ → Prop
  | ⟨.dispatch _ _, _, .ok _⟩ => True
  | _ => False

/-- The request a router tier was asked about. -/
def routed? : EngineEvent μ → Option RouterRequest
  | ⟨.decide _ request, _, _⟩ => some request
  | _ => none

/-- The tier a question asks. -/
def tier? : EngineEvent μ → Option RouterTier
  | ⟨.decide tier _, _, _⟩ => some tier
  | _ => none

/-- The request a ladder begins with. -/
def ladder? : EngineEvent μ → Option RouterRequest
  | ⟨.decide .primaryRouter request, _, _⟩ => some request
  | _ => none

/-- A tier's reply that is a valid decision for the request it was asked about. -/
def Decides (decision : RouterDecision) : EngineEvent μ → Prop
  | ⟨.decide _ request, _, reply⟩ => Routine.judged request reply = .ok decision
  | _ => False

/-- A tier decides to retry while the budget has an attempt left. -/
def Retries (event : EngineEvent μ) : Prop :=
  ∃ request decision, event.routed? = some request ∧ request.attempt + 1 < request.maxAttempts ∧
    event.Decides decision ∧ decision.action = .retry

/-- The backends a reply reports to have refused the request. A dispatch does not name its
backend, so the reader of the trace has to know it. -/
def refusals (backendOf : String → Backend) : EngineEvent μ → List Backend
  | ⟨.decide _ _, _, .error (.raised error)⟩ => Routine.refusedBackend error
  | ⟨.dispatch providerId _, _, .error (.raised error)⟩ =>
      if error.blocksBackend then [backendOf providerId] else []
  | _ => []

/-- A question that goes to no router and to no provider. -/
def IsLocal (event : EngineEvent μ) : Prop := event.dispatched? = none ∧ event.routed? = none

end EngineEvent

/-- A tier's reply is accepted exactly when the validator accepts what it contains. -/
theorem judged_eq_ok_iff {request : RouterRequest} {reply : Except Interruption RawDecision}
    {decision : RouterDecision} :
    Routine.judged request reply = .ok decision ↔ ∃ raw, reply = .ok raw ∧
      DecisionValidator.validate raw request.availableTaskGroups request.hasImage request.retry =
        .ok decision := by
  cases reply with
  | error interruption => simp [Routine.judged, Except.bind]
  | ok raw =>
      cases hvalid : DecisionValidator.validate raw request.availableTaskGroups request.hasImage
          request.retry <;>
        simp [Routine.judged, Except.bind, Except.mapError, hvalid]

/-- A tier's accepted decision suits the request it was asked about. -/
theorem EngineEvent.Decides.suits {decision : RouterDecision} {event : EngineEvent μ}
    (h : event.Decides decision) {request : RouterRequest}
    (hasked : ∀ asked ∈ event.routed?, asked = request) :
    DecisionValidator.Suits decision request.availableTaskGroups request.hasImage
      request.retry := by
  rcases event with ⟨query, memory, reply⟩
  cases query with
  | loopTime => exact absurd h id
  | dispatch => exact absurd h id
  | process => exact absurd h id
  | decide tier asked =>
      obtain rfl : asked = request := hasked asked rfl
      obtain ⟨raw, -, hvalid⟩ := judged_eq_ok_iff.mp h
      exact (DecisionValidator.validate_eq_ok_iff.mp hvalid).2

theorem EngineEvent.tier?_eq_none {event : EngineEvent μ} (h : event.routed? = none) :
    event.tier? = none := by
  rcases event with ⟨query, memory, reply⟩
  cases query with
  | decide tier request => cases h
  | loopTime | dispatch | process => rfl

/-- A tier that failed has refused what its error says, also where the validator raised it. -/
theorem EngineEvent.refusals_of_judged {tier : RouterTier} {request : RouterRequest}
    {memory : Memory μ} {reply : Except Interruption RawDecision} {error : PyException}
    (h : Routine.judged request reply = .error (.raised error)) (backendOf : String → Backend) :
    EngineEvent.refusals backendOf ⟨.decide tier request, memory, reply⟩ =
      Routine.refusedBackend error := by
  cases reply with
  | error interruption =>
      cases h
      rfl
  | ok raw =>
      cases hvalid : DecisionValidator.validate raw request.availableTaskGroups request.hasImage
          request.retry with
      | error invalid =>
          simp only [Routine.judged, Except.bind, Except.mapError, hvalid] at h
          cases h
          rfl
      | ok decision => simp [Routine.judged, Except.bind, Except.mapError, hvalid] at h

theorem EngineEvent.refusals_of_isLocal {event : EngineEvent μ} (h : event.IsLocal)
    (backendOf : String → Backend) : event.refusals backendOf = [] := by
  rcases event with ⟨query, memory, reply⟩
  cases query with
  | decide tier request => exact absurd h.2 (by simp [EngineEvent.routed?])
  | dispatch providerId request => exact absurd h.1 (by simp [EngineEvent.dispatched?])
  | loopTime | process => rfl

theorem EngineEvent.refusals_dispatch_subset {providerId : String} {request : ProviderRequest}
    {memory : Memory μ} {reply : Except Interruption String} (backendOf : String → Backend) :
    EngineEvent.refusals backendOf ⟨.dispatch providerId request, memory, reply⟩ ⊆
      [backendOf providerId] := by
  unfold EngineEvent.refusals
  rcases reply with (byDeadline | error) | text
  · exact List.nil_subset _
  · simp only
    split_ifs
    · exact List.Subset.refl _
    · exact List.nil_subset _
  · exact List.nil_subset _

/-- The providers a trace dispatches, in order. -/
def dispatched (trace : List (EngineEvent μ)) : List String :=
  trace.filterMap EngineEvent.dispatched?

/-- The attempt counts of the ladders of a trace, in order. -/
def ladderAttempts (trace : List (EngineEvent μ)) : List ℕ :=
  (trace.filterMap EngineEvent.ladder?).map RouterRequest.attempt

/-- No provider is dispatched after one has answered. -/
def NoneAfterAnswer (trace : List (EngineEvent μ)) : Prop :=
  trace.Pairwise fun event later => event.IsAnswer → later.dispatched? = none

/-- No dispatch of a trace goes to one of the backends `blocked`, or to one that has refused
in the trace before it. -/
def Avoids (backendOf : String → Backend) : List Backend → List (EngineEvent μ) → Prop
  | _, [] => True
  | blocked, event :: rest => (∀ id ∈ event.dispatched?, backendOf id ∉ blocked) ∧
      Avoids backendOf (blocked ++ event.refusals backendOf) rest

/-- The provider's text went through the gateway and came out as `response`. -/
def Produced (trace : List (EngineEvent μ)) (providerId response : String) : Prop :=
  ∃ request text asked cleaned,
    (⟨.dispatch providerId request, asked, .ok text⟩ : EngineEvent μ) ∈ trace ∧
      (⟨.process text, cleaned, .ok response⟩ : EngineEvent μ) ∈ trace

section Append

variable {first second : List (EngineEvent μ)}

@[simp]
theorem dispatched_append : dispatched (first ++ second) = dispatched first ++ dispatched second :=
  List.filterMap_append

@[simp]
theorem ladderAttempts_append :
    ladderAttempts (first ++ second) = ladderAttempts first ++ ladderAttempts second := by
  rw [ladderAttempts, List.filterMap_append, List.map_append]
  rfl

theorem dispatched_eq_nil_iff {trace : List (EngineEvent μ)} :
    dispatched trace = [] ↔ ∀ event ∈ trace, event.dispatched? = none := by
  rw [dispatched, List.filterMap_eq_nil_iff]

theorem ladderAttempts_eq_nil (h : ∀ event ∈ first, event.routed? = none) :
    ladderAttempts first = [] := by
  rw [ladderAttempts, List.map_eq_nil_iff, List.filterMap_eq_nil_iff]
  intro event hevent
  have hnone := h event hevent
  rcases event with ⟨query, memory, reply⟩
  cases query with
  | decide tier request => exact absurd hnone (by simp [EngineEvent.routed?])
  | loopTime | dispatch | process => rfl

/-- Questions that dispatch nothing may come first. -/
theorem NoneAfterAnswer.prepend (hfirst : dispatched first = []) (h : NoneAfterAnswer second) :
    NoneAfterAnswer (first ++ second) := by
  have hnone := dispatched_eq_nil_iff.mp hfirst
  have hanswer : ∀ event ∈ first, ¬ event.IsAnswer := by
    intro event hevent
    have hdispatched := hnone event hevent
    rcases event with ⟨query, memory, reply⟩
    cases query with
    | dispatch providerId request => exact absurd hdispatched (by simp [EngineEvent.dispatched?])
    | loopTime | decide | process => exact id
  refine List.pairwise_append.mpr
    ⟨?_, h, fun event hevent _ _ ha => absurd ha (hanswer event hevent)⟩
  exact List.pairwise_of_forall_mem_list fun event hevent _ _ ha => absurd ha (hanswer event hevent)

theorem Produced.mono {providerId response : String} (h : Produced first providerId response)
    (hsub : ∀ event ∈ first, event ∈ second) : Produced second providerId response := by
  obtain ⟨request, text, asked, cleaned, hdispatch, hprocess⟩ := h
  exact ⟨request, text, asked, cleaned, hsub _ hdispatch, hsub _ hprocess⟩

end Append

section Avoids

variable {backendOf : String → Backend} {blocked blocked' : List Backend}
  {first second trace : List (EngineEvent μ)}

theorem Avoids.mono (h : Avoids backendOf blocked trace) (hsub : blocked' ⊆ blocked) :
    Avoids backendOf blocked' trace := by
  induction trace generalizing blocked blocked' with
  | nil => trivial
  | cons event rest ih =>
      refine ⟨fun id hid hmem => h.1 id hid (hsub hmem), ih h.2 ?_⟩
      exact List.append_subset.mpr
        ⟨List.subset_append_of_subset_left _ hsub, List.subset_append_right _ _⟩

/-- Questions that dispatch nothing may come first; what they are refused counts. -/
theorem Avoids.prepend (hfirst : ∀ event ∈ first, event.dispatched? = none)
    (h : Avoids backendOf (blocked ++ first.flatMap (EngineEvent.refusals backendOf)) second) :
    Avoids backendOf blocked (first ++ second) := by
  induction first generalizing blocked with
  | nil => simpa using h
  | cons event rest ih =>
      obtain ⟨hevent, hrest⟩ := List.forall_mem_cons.mp hfirst
      constructor
      · simp [hevent]
      · apply ih hrest
        rwa [List.append_assoc, ← List.flatMap_cons]

theorem Avoids.not_mem_of_mem (h : Avoids backendOf blocked trace) {event : EngineEvent μ}
    (hevent : event ∈ trace) : ∀ id ∈ event.dispatched?, backendOf id ∉ blocked := by
  induction trace generalizing blocked with
  | nil => cases hevent
  | cons head rest ih =>
      rcases List.mem_cons.mp hevent with rfl | hrest
      · exact h.1
      · intro id hid hmem
        exact ih h.2 hrest id hid (List.mem_append_left _ hmem)

/-- A backend that has refused is not dispatched to by any later question. -/
theorem Avoids.pairwise (h : Avoids backendOf blocked trace) :
    trace.Pairwise fun event later =>
      ∀ id ∈ later.dispatched?, backendOf id ∉ event.refusals backendOf := by
  induction trace generalizing blocked with
  | nil => exact .nil
  | cons head rest ih =>
      refine .cons ?_ (ih h.2)
      intro later hlater id hid hmem
      exact h.2.not_mem_of_mem hlater id hid (List.mem_append_right _ hmem)

end Avoids

end LLMRouting
