/-
# Invariants that every write keeps

An invariant of the memory holds throughout a task's run if it holds at the start, the
surroundings keep it, and so does each write of the task. The writes are looked at one by one,
each in any memory with the invariant, so the condition is checked along the code and once
for all runs. It passes to a task whose questions are answered by programs that keep the
invariant too.
-/

import LLMRouting.Interaction.Inline

namespace LLMRouting.Interaction

namespace Coro

variable {I J : Interface} {σ ε ε' α β : Type} {P : σ → Prop}

/-- Every write of the task keeps `P`, whatever it has read in a memory with `P`. -/
def Maintains (P : σ → Prop) : Coro I σ ε α → Prop
  | .pure _ | .raise _ => True
  | .read next => ∀ m, P m → (next m).Maintains P
  | .write update next => (∀ m, P m → P (update m)) ∧ next.Maintains P
  | .call _ next => ∀ reply, (next reply).Maintains P

theorem maintains_pure {value : α} : (Pure.pure value : Coro I σ ε α).Maintains P := trivial

theorem maintains_raise {error : ε} : (raise error : Coro I σ ε α).Maintains P := trivial

theorem maintains_ask {query : I.Query} : (ask query : Coro I σ ε (I.Reply query)).Maintains P :=
  fun _ => trivial

theorem maintains_modify {update : σ → σ} (h : ∀ m, P m → P (update m)) :
    (modify update : Coro I σ ε Unit).Maintains P :=
  ⟨h, trivial⟩

theorem maintains_settle {result : Except ε α} : (settle result : Coro I σ ε α).Maintains P := by
  cases result with
  | ok value => exact trivial
  | error error => exact trivial

theorem Maintains.seq {task : Coro I σ ε α} {onValue : α → Coro I σ ε' β}
    {onError : ε → Coro I σ ε' β} (h : task.Maintains P)
    (hvalue : ∀ value, (onValue value).Maintains P)
    (herror : ∀ error, (onError error).Maintains P) :
    (task.seq onValue onError).Maintains P := by
  induction task with
  | pure value => exact hvalue value
  | raise error => exact herror error
  | read next ih => exact fun m hm => ih m (h m hm)
  | write update next ih => exact ⟨h.1, ih h.2⟩
  | call query next ih => exact fun reply => ih reply (h reply)

theorem Maintains.bind {task : Coro I σ ε α} {next : α → Coro I σ ε β} (h : task.Maintains P)
    (hnext : ∀ value, (next value).Maintains P) : (task >>= next).Maintains P :=
  h.seq hnext fun _ => trivial

/-- What is done with the memory that was read may depend on the invariant. -/
theorem maintains_get_bind {next : σ → Coro I σ ε β} (h : ∀ m, P m → (next m).Maintains P) :
    (Coro.get >>= next).Maintains P :=
  h

theorem Maintains.rescue {task : Coro I σ ε α} {handler : ε → Coro I σ ε' α}
    (h : task.Maintains P) (hhandler : ∀ error, (handler error).Maintains P) :
    (task.rescue handler).Maintains P :=
  h.seq (fun _ => trivial) hhandler

theorem Maintains.translate {task : Coro I σ ε α} {translation : ε → ε'} (h : task.Maintains P) :
    (task.translate translation).Maintains P :=
  h.rescue fun _ => trivial

theorem Maintains.attempt {task : Coro I σ ε α} (h : task.Maintains P) :
    (task.attempt : Coro I σ ε' (Except ε α)).Maintains P :=
  h.seq (fun _ => trivial) fun _ => trivial

section Runs

variable {rely : σ → σ → Prop} {m m' : σ}

theorem Resumes.keeps (hrely : ∀ m m', rely m m' → P m → P m') {query : I.Query}
    (h : Resumes rely query m m') (hm : P m) : P m' := by
  rw [Resumes] at h
  split at h
  · exact hrely m m' h hm
  · rwa [h]

/-- A run keeps the invariant. -/
theorem Maintains.run {task : Coro I σ ε α} {trace : List (Event I σ)} {out : Except ε α}
    (hrely : ∀ m m', rely m m' → P m → P m') (h : task.Maintains P)
    (hrun : Run rely task m trace m' out) (hm : P m) : P m' := by
  induction hrun with
  | pure value memory => exact hm
  | raise error memory => exact hm
  | @read next memory _ _ _ rest ih => exact ih (h memory hm) hm
  | write rest ih => exact ih h.2 (h.1 _ hm)
  | call reply surroundings rest ih => exact ih (h reply) (surroundings.keeps hrely hm)

/-- Every question of a run that is answered by programs is asked with the invariant. -/
theorem Maintains.served {program : (query : I.Query) → Coro J σ Empty (I.Reply query)}
    {task : Coro I σ ε α} {rounds : List (Answered rely program)} {out : Except ε α}
    (hrely : ∀ m m', rely m m' → P m → P m') (hprogram : ∀ query, (program query).Maintains P)
    (h : task.Maintains P) (hserved : Served rely program task m rounds m' out) (hm : P m) :
    ∀ round ∈ rounds, P round.event.memory := by
  induction hserved with
  | pure value memory => exact List.forall_mem_nil _
  | raise error memory => exact List.forall_mem_nil _
  | @read next memory _ _ _ rest ih => exact ih (h memory hm) hm
  | write rest ih => exact ih h.2 (h.1 _ hm)
  | @call query next memory after final trace rounds out reply answered rest ih =>
      have hafter := (hprogram query).run hrely answered hm
      exact List.forall_mem_cons.mpr ⟨hm, ih (h reply) hafter⟩

end Runs

end Coro

end LLMRouting.Interaction
