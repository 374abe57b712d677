/-
# Owners that do not see each other

A system whose actions have owners is confined when every owner has a part of the state to
itself: its actions read and change that part and no other, and nobody else's do. What an
owner sees of a run is then what it would see if it were alone, so deleting the actions of
all others changes none of it.
-/

import Mathlib

namespace LLMRouting.Interaction

variable {σ α δ ω : Type}

/-- The state after performing the actions in order. -/
def performAll (perform : σ → α → ω × σ) : σ → List α → σ
  | state, [] => state
  | state, action :: rest => performAll perform (perform state action).2 rest

/-- The results an owner's actions have in a run, in order. -/
def resultsOf [DecidableEq δ] (perform : σ → α → ω × σ) (owner : α → δ) (who : δ) :
    σ → List α → List ω
  | _, [] => []
  | state, action :: rest =>
      if owner action = who then
        (perform state action).1 :: resultsOf perform owner who (perform state action).2 rest
      else resultsOf perform owner who (perform state action).2 rest

/-- The actions of one owner. -/
def ownActions [DecidableEq δ] (owner : α → δ) (who : δ) (actions : List α) : List α :=
  actions.filter fun action => decide (owner action = who)

/-- An action has the same result, and the same effect on its owner's part, as if there were
nothing but that part; of every other part it changes nothing. -/
structure Confined (perform : σ → α → ω × σ) (owner : α → δ) (part : δ → σ → σ) : Prop where
  result_eq : ∀ state action,
    (perform state action).1 = (perform (part (owner action) state) action).1
  part_own : ∀ state action, part (owner action) (perform state action).2 =
    (perform (part (owner action) state) action).2
  part_foreign : ∀ state action who, owner action ≠ who →
    part who (perform state action).2 = part who state

namespace Confined

variable [DecidableEq δ] {perform : σ → α → ω × σ} {owner : α → δ} {part : δ → σ → σ}

/-- An owner's part of a run is the run of its own actions on its own part. -/
theorem part_performAll (h : Confined perform owner part) (who : δ) (state : σ) (actions : List α) :
    part who (performAll perform state actions) =
      performAll perform (part who state) (ownActions owner who actions) := by
  induction actions generalizing state with
  | nil => rfl
  | cons action rest ih =>
      by_cases howner : owner action = who
      · subst howner
        have hown := h.part_own state action
        simp only [performAll, ownActions, List.filter_cons, decide_true, if_true]
        rw [ih, hown]
        rfl
      · have hforeign := h.part_foreign state action who howner
        simp only [performAll, ownActions, List.filter_cons, decide_eq_true_eq, if_neg howner]
        rw [ih, hforeign]
        rfl

theorem resultsOf_part (h : Confined perform owner part) (who : δ) (state : σ)
    (actions : List α) :
    resultsOf perform owner who state actions =
      resultsOf perform owner who (part who state) (ownActions owner who actions) := by
  induction actions generalizing state with
  | nil => rfl
  | cons action rest ih =>
      by_cases howner : owner action = who
      · subst howner
        have hown := h.part_own state action
        have hresult := h.result_eq state action
        simp only [resultsOf, ownActions, List.filter_cons, decide_true, if_true]
        rw [ih, hown, hresult]
        rfl
      · have hforeign := h.part_foreign state action who howner
        simp only [resultsOf, ownActions, List.filter_cons, decide_eq_true_eq, if_neg howner]
        rw [ih, hforeign]
        rfl

/-- Deleting everybody else's actions leaves an owner's part of the state as it is. -/
theorem part_ownActions (h : Confined perform owner part) (who : δ) (state : σ)
    (actions : List α) :
    part who (performAll perform state (ownActions owner who actions)) =
      part who (performAll perform state actions) := by
  rw [h.part_performAll, h.part_performAll, ownActions, ownActions, List.filter_filter]
  simp only [Bool.and_self]

/-- Deleting everybody else's actions leaves the results of an owner's actions as they are. -/
theorem resultsOf_ownActions (h : Confined perform owner part) (who : δ) (state : σ)
    (actions : List α) :
    resultsOf perform owner who state (ownActions owner who actions) =
      resultsOf perform owner who state actions := by
  rw [h.resultsOf_part, h.resultsOf_part who state actions, ownActions, ownActions,
    List.filter_filter]
  simp only [Bool.and_self]

end Confined

end LLMRouting.Interaction
