/-
# What a task can raise

An exception leaves a task only where its code raises it. Which ones these are is read off
the code, whatever the memory holds and whatever the replies are, and so the statement
composes without a contract.
-/

import LLMRouting.Interaction.RelyGuarantee

namespace LLMRouting.Interaction

namespace Coro

variable {I : Interface} {σ ε ε' α β : Type} {P : ε → Prop}

/-- Every exception the task can raise satisfies `P`. -/
def RaisesOnly (P : ε → Prop) : Coro I σ ε α → Prop
  | .pure _ => True
  | .raise error => P error
  | .read next => ∀ memory, (next memory).RaisesOnly P
  | .write _ next => next.RaisesOnly P
  | .call _ next => ∀ reply, (next reply).RaisesOnly P

theorem raisesOnly_pure (value : α) : (pure value : Coro I σ ε α).RaisesOnly P := trivial

theorem raisesOnly_raise {error : ε} (h : P error) :
    (Coro.raise error : Coro I σ ε α).RaisesOnly P :=
  h

theorem raisesOnly_get : (Coro.get : Coro I σ ε σ).RaisesOnly P := fun _ => trivial

theorem raisesOnly_modify (update : σ → σ) : (Coro.modify update : Coro I σ ε Unit).RaisesOnly P :=
  trivial

theorem raisesOnly_ask (query : I.Query) :
    (Coro.ask query : Coro I σ ε (I.Reply query)).RaisesOnly P := fun _ => trivial

/-- A task continued after its result and after its exceptions. -/
theorem raisesOnly_seq {Q : ε' → Prop} {task : Coro I σ ε α} {onValue : α → Coro I σ ε' β}
    {onError : ε → Coro I σ ε' β} (h : task.RaisesOnly P)
    (hvalue : ∀ value, (onValue value).RaisesOnly Q)
    (herror : ∀ error, P error → (onError error).RaisesOnly Q) :
    (task.seq onValue onError).RaisesOnly Q := by
  induction task with
  | pure value => exact hvalue value
  | raise error => exact herror error h
  | read next ih => exact fun memory => ih memory (h memory)
  | write update next ih => exact ih h
  | call query next ih => exact fun reply => ih reply (h reply)

theorem RaisesOnly.bind {task : Coro I σ ε α} {next : α → Coro I σ ε β} (h : task.RaisesOnly P)
    (hnext : ∀ value, (next value).RaisesOnly P) : (task >>= next).RaisesOnly P :=
  raisesOnly_seq h hnext fun _ herror => herror

/-- What the code cannot raise, no run raises. -/
theorem RaisesOnly.wp {task : Coro I σ ε α} (h : task.RaisesOnly P) {rely : σ → σ → Prop} {m : σ} :
    task.wp (Contract.relying rely) (fun _ _ out => ∀ error, out = .error error → P error) m := by
  induction task generalizing m with
  | pure value =>
      intro error herror
      cases herror
  | raise error =>
      intro raised hraised
      cases hraised
      exact h
  | read next ih => exact ih m (h m)
  | write update next ih => exact ⟨trivial, ih h⟩
  | call query next ih => exact ⟨fun _ => trivial, fun reply _ _ => ih reply (h reply)⟩

end Coro

end LLMRouting.Interaction
