/-
# Protocols of cooperative tasks

A protocol says what a task may ask in each phase and where the reply leads. A task conducts
itself by it if every run of it is a run of the protocol; its postcondition then speaks of the
phase it ends in. Protocols are composed like tasks: the rest of a task goes on in the phase the
first part has led to. What holds of every run of a protocol, such as a bound on what it costs,
holds of every task that follows it. The other way around, what a task achieves may depend on how
its questions are answered.
-/

import LLMRouting.Interaction.RelyGuarantee
import LLMRouting.Interaction.Transition

namespace LLMRouting.Interaction

namespace Steps

variable {σ α : Type} {step : σ → α → σ → Prop} {s s' : σ} {actions before after : List α}
  {action : α}

theorem cons_iff : Steps step s (action :: actions) s' ↔
    ∃ next, step s action next ∧ Steps step next actions s' := by
  constructor
  · intro h
    cases h with
    | cons head tail => exact ⟨_, head, tail⟩
  · rintro ⟨next, head, tail⟩
    exact .cons head tail

/-- The run up to one of its actions, the step, and the run from there. -/
theorem split (h : Steps step s (before ++ action :: after) s') :
    ∃ first second, Steps step s before first ∧ step first action second ∧
      Steps step second after s' := by
  obtain ⟨first, hbefore, hrest⟩ := append_iff.mp h
  obtain ⟨second, hstep, hafter⟩ := cons_iff.mp hrest
  exact ⟨first, second, hbefore, hstep, hafter⟩

/-- A run ends where it began, or with a step. -/
theorem eq_nil_or_concat (h : Steps step s actions s') :
    actions = [] ∧ s = s' ∨ ∃ before last middle, actions = before ++ [last] ∧
      Steps step s before middle ∧ step middle last s' := by
  rcases actions.eq_nil_or_concat' with rfl | ⟨before, last, rfl⟩
  · cases h with
    | nil => exact .inl ⟨rfl, rfl⟩
  · obtain ⟨middle, second, hbefore, hstep, hafter⟩ := split h
    cases hafter with
    | nil => exact .inr ⟨before, last, middle, rfl, hbefore, hstep⟩

/-- If every step is paid for from a budget, so is the run. -/
theorem sum_map_le (cost : α → ℕ) (budget : σ → ℕ)
    (hstep : ∀ s a s', step s a s' → cost a + budget s' ≤ budget s) (h : Steps step s actions s') :
    (actions.map cost).sum + budget s' ≤ budget s := by
  induction h with
  | nil state => exact (Nat.zero_add _).le
  | @cons first second last action rest head _ ih =>
      have hhead := hstep _ _ _ head
      rw [List.map_cons, List.sum_cons]
      omega

end Steps

namespace Coro

variable {I : Interface} {σ π ε α β : Type} {c : Contract σ}
  {step : π → Event I σ → Option π}

/-- From a phase on the questions follow the protocol, and `post` holds of the phase they lead to
and of how the task ends. -/
inductive Follows (step : π → Event I σ → Option π) (phase : π)
    (post : π → σ → Except ε α → Prop) (trace : List (Event I σ)) (m : σ) (out : Except ε α) : Prop
  | led (last : π) (steps : Steps (Enabled step) phase trace last) (ended : post last m out)

section Rules

variable {phase next : π} {post post' : π → σ → Except ε α → Prop} {trace : List (Event I σ)}
  {m : σ} {out : Except ε α}

theorem Follows.done (h : post phase m out) : Follows step phase post [] m out :=
  .led phase (.nil phase) h

theorem Follows.cons {event : Event I σ} (hstep : step phase event = some next)
    (h : Follows step next post trace m out) : Follows step phase post (event :: trace) m out := by
  obtain ⟨last, hrest, hpost⟩ := h
  exact .led last (.cons hstep hrest) hpost

theorem Follows.mono (h : Follows step phase post trace m out)
    (himp : ∀ phase, post phase m out → post' phase m out) :
    Follows step phase post' trace m out := by
  obtain ⟨last, hsteps, hpost⟩ := h
  exact .led last hsteps (himp last hpost)

/-- First the task follows the protocol, and then the rest goes on in the phase it has led to. -/
theorem follows_bind {task : Coro I σ ε α} {rest : α → Coro I σ ε β}
    {post : π → σ → Except ε β → Prop}
    (h : task.wp c (Follows step phase fun last m' out =>
      match out with
      | .ok value => (rest value).wp c (Follows step last post) m'
      | .error error => post last m' (.error error)) m) :
    (task >>= rest).wp c (Follows step phase post) m := by
  rw [wp_bind]
  apply wp_mono h
  rintro trace m' out ⟨middle, hsteps, hout⟩
  cases out with
  | error error => exact .led middle hsteps hout
  | ok value =>
      apply wp_mono hout
      rintro trace' m'' out ⟨last, hrest, hpost⟩
      exact .led last (hsteps.append hrest) hpost

end Rules

/-- If all the questions are answered as `P` says, the task meets the goal. -/
structure Provided (P : Event I σ → Prop) (goal : List (Event I σ) → σ → Except ε α → Prop)
    (trace : List (Event I σ)) (m : σ) (out : Except ε α) : Prop where
  meets : (∀ event ∈ trace, P event) → goal trace m out

section Provisos

variable {P : Event I σ → Prop} {goal : List (Event I σ) → σ → Except ε α → Prop}
  {trace : List (Event I σ)} {event : Event I σ} {m : σ} {out : Except ε α}

theorem Provided.of (h : goal trace m out) : Provided P goal trace m out := ⟨fun _ => h⟩

theorem Provided.cons (h : Provided P (fun rest => goal (event :: rest)) trace m out) :
    Provided P goal (event :: trace) m out :=
  ⟨fun hall => h.meets (List.forall_mem_cons.mp hall).2⟩

/-- The question may be assumed to be answered so. -/
theorem wp_provided_cons {rely : σ → σ → Prop} {task : Coro I σ ε α}
    (h : P event →
      task.wp (Contract.relying rely) (Provided P fun rest => goal (event :: rest)) m) :
    task.wp (Contract.relying rely) (fun rest => Provided P goal (event :: rest)) m := by
  by_cases hevent : P event
  · exact wp_mono (h hevent) fun _ _ _ => Provided.cons
  · apply wp_mono (wp_relying task)
    intro trace m' out _
    exact ⟨fun hall => absurd (hall event List.mem_cons_self) hevent⟩

/-- First the task meets a goal, and then the rest goes on from there. -/
theorem provided_bind {task : Coro I σ ε α} {rest : α → Coro I σ ε β}
    {goal' : List (Event I σ) → σ → Except ε β → Prop} {rely : σ → σ → Prop}
    (h : task.wp (Contract.relying rely) (Provided P goal) m)
    (hrest : ∀ trace m' value, goal trace m' (.ok value) →
      (rest value).wp (Contract.relying rely) (Provided P fun later => goal' (trace ++ later)) m')
    (hraised : ∀ trace m' error, goal trace m' (.error error) → goal' trace m' (.error error)) :
    (task >>= rest).wp (Contract.relying rely) (Provided P goal') m := by
  rw [wp_bind]
  apply wp_mono h
  intro trace m' out hout
  cases out with
  | error error => exact ⟨fun hall => hraised trace m' error (hout.meets hall)⟩
  | ok value =>
      by_cases hall : ∀ event ∈ trace, P event
      · apply wp_mono (hrest trace m' value (hout.meets hall))
        intro later m'' out hlater
        exact ⟨fun hboth => hlater.meets fun event hevent =>
          hboth event (List.mem_append_right _ hevent)⟩
      · apply wp_mono (wp_relying (rest value))
        intro later m'' out _
        exact ⟨fun hboth => absurd (fun event hevent =>
          hboth event (List.mem_append_left _ hevent)) hall⟩

end Provisos

end Coro

end LLMRouting.Interaction
