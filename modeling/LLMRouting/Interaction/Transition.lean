/-
# Runs of a guarded transition system

A system is a step function that is undefined where an action is not enabled, so
one definition serves both to replay a concrete schedule and to reason about all
of them. A condition on single steps is imposed by restricting the step relation,
which turns "in every run whose steps all meet the condition" into a statement
about runs of the restricted system.
-/

import Mathlib

namespace LLMRouting.Interaction

variable {σ α : Type}

/-- `Steps step s actions s'`: performing the actions in order leads from `s` to `s'`. -/
inductive Steps (step : σ → α → σ → Prop) : σ → List α → σ → Prop
  | nil (state : σ) : Steps step state [] state
  | cons {first second last : σ} {action : α} {rest : List α}
      (head : step first action second) (tail : Steps step second rest last) :
      Steps step first (action :: rest) last

/-- The steps of a guarded step function that meet a condition. -/
def Guarded (step : σ → α → Option σ) (condition : σ → α → Prop) (first : σ) (action : α)
    (second : σ) : Prop :=
  step first action = some second ∧ condition first action

/-- All the steps of a guarded step function. -/
def Enabled (step : σ → α → Option σ) (first : σ) (action : α) (second : σ) : Prop :=
  step first action = some second

/-- The step function that is undefined where the condition fails. -/
def restrict (step : σ → α → Option σ) (condition : σ → α → Prop)
    [∀ state action, Decidable (condition state action)] (state : σ) (action : α) : Option σ :=
  if condition state action then step state action else none

/-- Replay a schedule; `none` if some action of it is not enabled. -/
def replay (step : σ → α → Option σ) : σ → List α → Option σ
  | state, [] => some state
  | state, action :: rest => (step state action).bind fun next => replay step next rest

namespace Steps

variable {step step' : σ → α → σ → Prop} {s s' s'' : σ} {actions actions' : List α}

theorem append (h : Steps step s actions s') (h' : Steps step s' actions' s'') :
    Steps step s (actions ++ actions') s'' := by
  induction h with
  | nil => exact h'
  | cons head _ ih => exact .cons head (ih h')

theorem append_iff : Steps step s (actions ++ actions') s'' ↔
    ∃ s', Steps step s actions s' ∧ Steps step s' actions' s'' := by
  constructor
  · intro h
    induction actions generalizing s with
    | nil => exact ⟨s, .nil s, h⟩
    | cons action rest ih =>
        cases h with
        | cons head tail =>
            obtain ⟨middle, hfirst, hsecond⟩ := ih tail
            exact ⟨middle, .cons head hfirst, hsecond⟩
  · rintro ⟨middle, hfirst, hsecond⟩
    exact hfirst.append hsecond

/-- Fewer restrictions allow more runs. -/
theorem mono (hstep : ∀ s a s', step s a s' → step' s a s') (h : Steps step s actions s') :
    Steps step' s actions s' := by
  induction h with
  | nil state => exact .nil state
  | cons head _ ih => exact .cons (hstep _ _ _ head) ih

/-- What a step demands of its action holds of every action of a run. -/
theorem forall_mem {P : α → Prop} (hstep : ∀ s a s', step s a s' → P a)
    (h : Steps step s actions s') : ∀ action ∈ actions, P action := by
  induction h with
  | nil => exact fun action haction => by cases haction
  | cons head _ ih => exact List.forall_mem_cons.mpr ⟨hstep _ _ _ head, ih⟩

/-- What holds at first and is kept by every step holds at last. -/
theorem invariant {P : σ → Prop} (h : Steps step s actions s') (hs : P s)
    (hstep : ∀ s a s', P s → step s a s' → P s') : P s' := by
  induction h with
  | nil => exact hs
  | cons head _ ih => exact ih (hstep _ _ _ hs head)

end Steps

/-- A replayed schedule is a run. -/
theorem steps_of_replay {step : σ → α → Option σ} {s s' : σ} {actions : List α}
    (h : replay step s actions = some s') : Steps (Enabled step) s actions s' := by
  induction actions generalizing s with
  | nil =>
      cases h
      exact .nil _
  | cons action rest ih =>
      obtain ⟨next, hnext, hrest⟩ := Option.bind_eq_some_iff.mp h
      exact .cons hnext (ih hrest)

/-- A run is what replaying its schedule leads to. -/
theorem replay_of_steps {step : σ → α → Option σ} {s s' : σ} {actions : List α}
    (h : Steps (Enabled step) s actions s') : replay step s actions = some s' := by
  induction h with
  | nil => rfl
  | cons head _ ih => exact Option.bind_eq_some_iff.mpr ⟨_, head, ih⟩

/-- A replay of the restricted system is a run whose steps all meet the condition. -/
theorem guarded_of_replay {step : σ → α → Option σ} {condition : σ → α → Prop}
    [∀ state action, Decidable (condition state action)] {s s' : σ} {actions : List α}
    (h : replay (restrict step condition) s actions = some s') :
    Steps (Guarded step condition) s actions s' := by
  refine (steps_of_replay h).mono fun first action second hstep => ?_
  obtain ⟨hcondition, hstep⟩ := Option.ite_none_right_eq_some.mp hstep
  exact ⟨hstep, hcondition⟩

end LLMRouting.Interaction
