/-
# A conversation record within a turn

A turn begins with a new message and ends with the next one. Within it the record only
grows: attempts are counted, providers are excluded, an answer is noted. The question the
turn is about and its budget stay.
-/

import LLMRouting.State.Manager

namespace LLMRouting

namespace ConversationState

/-- The record goes on within its turn: nothing that was counted or excluded is lost. -/
structure Extends (before after : ConversationState) : Prop where
  conversationId_eq : after.conversationId = before.conversationId
  originalQuery_eq : after.originalQuery = before.originalQuery
  maxAttempts_eq : after.maxAttempts = before.maxAttempts
  attemptCount_le : before.attemptCount ≤ after.attemptCount
  excluded_subset : before.excludedProviders ⊆ after.excludedProviders

theorem Extends.refl (state : ConversationState) : state.Extends state :=
  ⟨rfl, rfl, rfl, le_rfl, List.Subset.refl _⟩

theorem Extends.trans {first second third : ConversationState} (h : first.Extends second)
    (h' : second.Extends third) : first.Extends third where
  conversationId_eq := h'.conversationId_eq.trans h.conversationId_eq
  originalQuery_eq := h'.originalQuery_eq.trans h.originalQuery_eq
  maxAttempts_eq := h'.maxAttempts_eq.trans h.maxAttempts_eq
  attemptCount_le := h.attemptCount_le.trans h'.attemptCount_le
  excluded_subset := List.Subset.trans h.excluded_subset h'.excluded_subset

theorem extends_excludeProvider (state : ConversationState) (providerId : String) :
    state.Extends (state.excludeProvider providerId) := by
  rw [excludeProvider_eq]
  exact ⟨rfl, rfl, rfl, le_rfl, fun id hid => mem_excludeProvider_iff.mpr (Or.inl hid)⟩

theorem extends_incrementAttempt (state : ConversationState) :
    state.Extends state.incrementAttempt :=
  ⟨rfl, rfl, rfl, Nat.le_succ _, List.Subset.refl _⟩

/-- The record with the provider of the last answer excluded. -/
def excludeLast (state : ConversationState) : ConversationState :=
  match state.lastProvider with
  | none => state
  | some providerId => state.excludeProvider providerId

theorem extends_excludeLast (state : ConversationState) : state.Extends state.excludeLast := by
  rw [excludeLast]
  cases state.lastProvider with
  | none => exact Extends.refl state
  | some providerId => exact extends_excludeProvider state providerId

/-- The record after one retry. -/
def retried (state : ConversationState) : ConversationState := state.excludeLast.incrementAttempt

/-- The record after an answer. -/
def answered (state : ConversationState) (providerId response : String) : ConversationState :=
  { state with previousResponse := some response, lastProvider := some providerId }

theorem extends_answered (state : ConversationState) (providerId response : String) :
    state.Extends (state.answered providerId response) :=
  ⟨rfl, rfl, rfl, le_rfl, List.Subset.refl _⟩

/-- The record after any number of retries: attempts are counted and at most the provider
of the last answer is excluded. -/
structure Retried (before after : ConversationState) : Prop extends Extends before after where
  previousResponse_eq : after.previousResponse = before.previousResponse
  lastProvider_eq : after.lastProvider = before.lastProvider
  hasImage_eq : after.hasImage = before.hasImage
  mem_excluded : ∀ id ∈ after.excludedProviders,
    id ∈ before.excludedProviders ∨ before.lastProvider = some id

theorem Retried.refl (state : ConversationState) : state.Retried state where
  toExtends := Extends.refl state
  previousResponse_eq := rfl
  lastProvider_eq := rfl
  hasImage_eq := rfl
  mem_excluded _ := Or.inl

theorem Retried.trans {first second third : ConversationState} (h : first.Retried second)
    (h' : second.Retried third) : first.Retried third where
  toExtends := h.toExtends.trans h'.toExtends
  previousResponse_eq := h'.previousResponse_eq.trans h.previousResponse_eq
  lastProvider_eq := h'.lastProvider_eq.trans h.lastProvider_eq
  hasImage_eq := h'.hasImage_eq.trans h.hasImage_eq
  mem_excluded id hid := by
    rcases h'.mem_excluded id hid with hexcluded | hlast
    · exact h.mem_excluded id hexcluded
    · exact Or.inr (h.lastProvider_eq ▸ hlast)

theorem retried_retried (state : ConversationState) : state.Retried state.retried := by
  have hextends := (extends_excludeLast state).trans (extends_incrementAttempt _)
  cases hlast : state.lastProvider with
  | none =>
      have heq : state.retried = state.incrementAttempt := by rw [retried, excludeLast, hlast]
      exact ⟨hextends, by rw [heq]; rfl, by rw [heq]; rfl, by rw [heq]; rfl,
        fun id hid => Or.inl (by rwa [heq] at hid)⟩
  | some providerId =>
      have heq : state.retried = (state.excludeProvider providerId).incrementAttempt := by
        rw [retried, excludeLast, hlast]
      have hexclude := excludeProvider_eq state providerId
      refine ⟨hextends, by rw [heq, hexclude]; rfl, by rw [heq, hexclude]; rfl,
        by rw [heq, hexclude]; rfl, fun id hid => ?_⟩
      rw [heq] at hid
      rcases mem_excludeProvider_iff.mp hid with hid | rfl
      · exact Or.inl hid
      · exact Or.inr hlast

/-- A retry excludes the provider of the last answer, and nobody else. -/
theorem mem_excluded_retried_iff {state : ConversationState} {id : String} :
    id ∈ state.retried.excludedProviders ↔
      id ∈ state.excludedProviders ∨ state.lastProvider = some id := by
  show id ∈ state.excludeLast.excludedProviders ↔ _
  rw [excludeLast]
  cases state.lastProvider with
  | none => simp
  | some providerId => rw [mem_excludeProvider_iff, Option.some_inj, eq_comm]

/-- Excluding a provider once more changes nothing. -/
theorem nodup_excludeProvider {state : ConversationState} (h : state.excludedProviders.Nodup)
    (providerId : String) : (state.excludeProvider providerId).excludedProviders.Nodup := by
  rw [excludeProvider]
  by_cases hmem : providerId ∈ state.excludedProviders
  · rwa [if_pos hmem]
  · rw [if_neg hmem]
    show (state.excludedProviders ++ [providerId]).Nodup
    rw [← List.concat_eq_append]
    exact h.concat hmem

theorem nodup_excluded_retried {state : ConversationState} (h : state.excludedProviders.Nodup) :
    state.retried.excludedProviders.Nodup := by
  show state.excludeLast.excludedProviders.Nodup
  rw [excludeLast]
  cases state.lastProvider with
  | none => exact h
  | some providerId => exact nodup_excludeProvider h providerId

/-- Every retry costs one attempt. -/
@[simp]
theorem attemptCount_retried (state : ConversationState) :
    state.retried.attemptCount = state.attemptCount + 1 := by
  have hexclude : state.excludeLast.attemptCount = state.attemptCount := by
    rw [excludeLast]
    cases state.lastProvider with
    | none => rfl
    | some providerId =>
        show (state.excludeProvider providerId).attemptCount = state.attemptCount
        rw [excludeProvider_eq]
  rw [retried, incrementAttempt, hexclude]

end ConversationState

end LLMRouting
