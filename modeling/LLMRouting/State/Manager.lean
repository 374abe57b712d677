/-
# Conversation bookkeeping

The in-memory store of conversations, keyed by tenant and conversation id. Loading
and storing copy, so a caller works on a record of its own and the store changes only
when a whole record is written back.
-/

import LLMRouting.Data.Dict
import LLMRouting.Schemas.Models

namespace LLMRouting

open LLMRouting.Data

namespace ConversationState

/-- The mutation `increment_attempt` makes before it stores the record. -/
def incrementAttempt (state : ConversationState) : ConversationState :=
  { state with attemptCount := state.attemptCount + 1 }

/-- The mutation `exclude_provider` makes before it stores the record. -/
def excludeProvider (state : ConversationState) (providerId : String) : ConversationState :=
  if providerId ∈ state.excludedProviders then state
  else { state with excludedProviders := state.excludedProviders ++ [providerId] }

/-- Excluding a provider touches nothing but the exclusions. -/
theorem excludeProvider_eq (state : ConversationState) (providerId : String) :
    state.excludeProvider providerId =
      { state with excludedProviders := (state.excludeProvider providerId).excludedProviders } := by
  rw [excludeProvider]
  split <;> rfl

theorem mem_excludeProvider_iff {state : ConversationState} {providerId id : String} :
    id ∈ (state.excludeProvider providerId).excludedProviders ↔
      id ∈ state.excludedProviders ∨ id = providerId := by
  rw [excludeProvider]
  split
  · rename_i hmem
    constructor
    · exact Or.inl
    · rintro (h | rfl)
      · exact h
      · exact hmem
  · simp

end ConversationState

/-- The store, by tenant and conversation id. Every record is kept under its own id. -/
structure ConversationStateManager where
  conversations : Dict (String × String) ConversationState
  keyed : ∀ key state, conversations.get? key = some state → state.conversationId = key.2

namespace ConversationStateManager

def empty : ConversationStateManager := ⟨.empty, fun _ _ h => by simp at h⟩

/-- Keep a record under a tenant and its own conversation id. -/
def put (manager : ConversationStateManager) (state : ConversationState) (tenantId : String) :
    ConversationStateManager where
  conversations := manager.conversations.set (tenantId, state.conversationId) state
  keyed key stored h := by
    rw [Dict.get?_set] at h
    split at h
    · rename_i hkey
      rw [hkey, ← Option.some.inj h]
    · exact manager.keyed key stored h

/-- `none` where the source raises `ConversationNotFoundError`. -/
def load (manager : ConversationStateManager) (conversationId tenantId : String) :
    Option ConversationState :=
  manager.conversations.get? (tenantId, conversationId)

def create (manager : ConversationStateManager) (conversationId originalQuery : String)
    (maxAttempts : ℕ) (tenantId : String) : ConversationStateManager × ConversationState :=
  let state : ConversationState :=
    { conversationId := conversationId, originalQuery := originalQuery, maxAttempts := maxAttempts }
  (manager.put state tenantId, state)

/-- `none` where the source raises `ConversationNotFoundError`. -/
def update (manager : ConversationStateManager) (state : ConversationState) (tenantId : String) :
    Option ConversationStateManager :=
  (manager.load state.conversationId tenantId).map fun _ => manager.put state tenantId

def reset (manager : ConversationStateManager) (conversationId tenantId : String) :
    Option ConversationStateManager :=
  (manager.load conversationId tenantId).bind fun state =>
    manager.update
      { state with
        previousResponse := none, attemptCount := 0, excludedProviders := [], lastProvider := none }
      tenantId

variable {manager : ConversationStateManager} {conversationId tenantId : String}
  {state stored : ConversationState}

theorem conversationId_of_load (h : manager.load conversationId tenantId = some stored) :
    stored.conversationId = conversationId :=
  manager.keyed _ _ h

/-- What is read after a write: the record under its key, the rest as before. -/
theorem load_put (otherId otherTenant : String) :
    (manager.put state tenantId).load otherId otherTenant =
      if otherTenant = tenantId ∧ otherId = state.conversationId then some state
      else manager.load otherId otherTenant := by
  simp only [load, put, Dict.get?_set, Prod.mk.injEq]

@[simp]
theorem load_put_self :
    (manager.put state tenantId).load state.conversationId tenantId = some state := by
  rw [load_put, if_pos ⟨rfl, rfl⟩]

/-- A stored conversation can be overwritten. -/
theorem update_of_load (h : manager.load state.conversationId tenantId = some stored) :
    manager.update state tenantId = some (manager.put state tenantId) := by
  rw [update, h]
  rfl

end ConversationStateManager

end LLMRouting
