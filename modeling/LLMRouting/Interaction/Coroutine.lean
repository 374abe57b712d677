/-
# Cooperative tasks over a shared memory

A cooperative task runs without interruption until it awaits something. Between
two awaits it may read and overwrite memory, ask questions that are answered on
the spot (a clock, a library call), return, or raise. This module gives such a
task as a finite tree, so that a terminating program is a value and induction on
it is induction on its code.

Which questions give up the floor is part of the interface, not of the task: a
question that suspends lets other tasks change the memory before its reply
arrives, one that does not is answered in the memory it was asked in.
-/

import Mathlib

namespace LLMRouting.Interaction

/-- The questions a task may ask its surroundings, the type of each reply, and
which of them suspend the task until the reply arrives. -/
structure Interface where
  Query : Type
  Reply : Query → Type
  suspends : Query → Bool

/-- A task with memory `σ`, exceptions `ε` and result `α`. -/
inductive Coro (I : Interface) (σ ε α : Type) : Type
  | pure (value : α)
  | raise (error : ε)
  | read (next : σ → Coro I σ ε α)
  | write (update : σ → σ) (next : Coro I σ ε α)
  | call (query : I.Query) (next : I.Reply query → Coro I σ ε α)

/-- One question of a task, the memory it was asked in, and the reply. -/
structure Event (I : Interface) (σ : Type) where
  query : I.Query
  memory : σ
  reply : I.Reply query

/-- The memory of one of several tasks: the part they share, and its own. -/
structure Mem (σ ρ : Type) where
  shared : σ
  own : ρ

namespace Coro

variable {I : Interface} {σ ε ε' α β : Type}

/-- Continue a task after its result and after its exception. Sequencing,
catching and substituting one task for a question are all instances. -/
def seq : Coro I σ ε α → (α → Coro I σ ε' β) → (ε → Coro I σ ε' β) → Coro I σ ε' β
  | .pure value, onValue, _ => onValue value
  | .raise error, _, onError => onError error
  | .read next, onValue, onError => .read fun memory => (next memory).seq onValue onError
  | .write update next, onValue, onError => .write update (next.seq onValue onError)
  | .call query next, onValue, onError => .call query fun reply =>
      (next reply).seq onValue onError

instance : Monad (Coro I σ ε) where
  pure := .pure
  bind task next := task.seq next .raise

/-- Continuations compose. -/
theorem seq_seq {ε'' γ : Type} (task : Coro I σ ε α) (onValue : α → Coro I σ ε' β)
    (onError : ε → Coro I σ ε' β) (onValue' : β → Coro I σ ε'' γ)
    (onError' : ε' → Coro I σ ε'' γ) :
    (task.seq onValue onError).seq onValue' onError' =
      task.seq (fun value => (onValue value).seq onValue' onError')
        (fun error => (onError error).seq onValue' onError') := by
  induction task with
  | pure value => rfl
  | raise error => rfl
  | read next ih => exact congrArg Coro.read (funext ih)
  | write update next ih => exact congrArg (Coro.write update) ih
  | call query next ih => exact congrArg (Coro.call query) (funext ih)

theorem seq_pure_raise (task : Coro I σ ε α) : task.seq .pure .raise = task := by
  induction task with
  | pure value => rfl
  | raise error => rfl
  | read next ih => exact congrArg Coro.read (funext ih)
  | write update next ih => exact congrArg (Coro.write update) ih
  | call query next ih => exact congrArg (Coro.call query) (funext ih)

instance : LawfulMonad (Coro I σ ε) :=
  LawfulMonad.mk' _ (fun task => seq_pure_raise task) (fun _ _ => rfl)
    (fun task onValue onValue' => seq_seq task onValue .raise onValue' .raise)

/-- The current memory. -/
def get : Coro I σ ε σ := .read .pure

/-- Overwrite the memory. -/
def modify (update : σ → σ) : Coro I σ ε Unit := .write update (.pure ())

/-- Ask one question and return its reply. -/
def ask (query : I.Query) : Coro I σ ε (I.Reply query) := .call query .pure

/-- Run a task and return its exception as a value. -/
def attempt (task : Coro I σ ε α) : Coro I σ ε' (Except ε α) :=
  task.seq (fun value => .pure (.ok value)) (fun error => .pure (.error error))

/-- Handle the exceptions of a task. -/
def rescue (task : Coro I σ ε α) (handler : ε → Coro I σ ε' α) : Coro I σ ε' α :=
  task.seq .pure handler

/-- Raise another exception in place of each. -/
def translate (task : Coro I σ ε α) (translation : ε → ε') : Coro I σ ε' α :=
  task.rescue fun error => .raise (translation error)

/-- End with an outcome that is known already. -/
def settle : Except ε α → Coro I σ ε α
  | .ok value => .pure value
  | .error error => .raise error

/-- Between a question and its reply the surroundings change the memory by
`rely` if the question suspends the task, and not at all otherwise. -/
def Resumes (rely : σ → σ → Prop) (query : I.Query) (asked answered : σ) : Prop :=
  if I.suspends query then rely asked answered else answered = asked

theorem Resumes.mono {rely rely' : σ → σ → Prop} (hrely : ∀ m m', rely m m' → rely' m m')
    {query : I.Query} {m m' : σ} (h : Resumes rely query m m') : Resumes rely' query m m' := by
  unfold Resumes at h ⊢
  split at h
  · rw [if_pos ‹_›]
    exact hrely m m' h
  · rw [if_neg ‹_›]
    exact h

theorem Resumes.refl {rely : σ → σ → Prop} (hrefl : ∀ m, rely m m) (query : I.Query) (m : σ) :
    Resumes rely query m m := by
  rw [Resumes]
  split
  · exact hrefl m
  · rfl

/-- `Run rely task m trace m' out`: started in memory `m`, the task asks the
questions of `trace`, is answered as recorded there, and ends with `out` in
memory `m'`. While it is suspended its surroundings change the memory by `rely`;
at any other moment nothing but the task itself changes it. -/
inductive Run (rely : σ → σ → Prop) :
    Coro I σ ε α → σ → List (Event I σ) → σ → Except ε α → Prop
  | pure (value : α) (memory : σ) : Run rely (.pure value) memory [] memory (.ok value)
  | raise (error : ε) (memory : σ) : Run rely (.raise error) memory [] memory (.error error)
  | read {next : σ → Coro I σ ε α} {memory final : σ} {trace : List (Event I σ)}
      {out : Except ε α} (rest : Run rely (next memory) memory trace final out) :
      Run rely (.read next) memory trace final out
  | write {update : σ → σ} {next : Coro I σ ε α} {memory final : σ}
      {trace : List (Event I σ)} {out : Except ε α}
      (rest : Run rely next (update memory) trace final out) :
      Run rely (.write update next) memory trace final out
  | call {query : I.Query} {next : I.Reply query → Coro I σ ε α} {memory resumed final : σ}
      {trace : List (Event I σ)} {out : Except ε α} (reply : I.Reply query)
      (surroundings : Resumes rely query memory resumed)
      (rest : Run rely (next reply) resumed trace final out) :
      Run rely (.call query next) memory (⟨query, memory, reply⟩ :: trace) final out

/-- A larger rely relation allows more runs. -/
theorem Run.mono {rely rely' : σ → σ → Prop} (hrely : ∀ m m', rely m m' → rely' m m')
    {task : Coro I σ ε α} {m m' : σ} {trace : List (Event I σ)} {out : Except ε α}
    (h : Run rely task m trace m' out) : Run rely' task m trace m' out := by
  induction h with
  | pure value memory => exact .pure value memory
  | raise error memory => exact .raise error memory
  | read _ ih => exact .read ih
  | write _ ih => exact .write ih
  | call reply surroundings _ ih => exact .call reply (surroundings.mono hrely) ih

/-- An answer to every question, by its number in the run. -/
abbrev Oracle (I : Interface) : Type := ℕ → (query : I.Query) → I.Reply query

/-- Run a task to its end, undisturbed, with the oracle's answers. -/
def eval (oracle : Oracle I) : Coro I σ ε α → σ → ℕ → List (Event I σ) × σ × Except ε α
  | .pure value, memory, _ => ([], memory, .ok value)
  | .raise error, memory, _ => ([], memory, .error error)
  | .read next, memory, index => (next memory).eval oracle memory index
  | .write update next, memory, index => next.eval oracle (update memory) index
  | .call query next, memory, index =>
      let (trace, final, out) := (next (oracle index query)).eval oracle memory (index + 1)
      (⟨query, memory, oracle index query⟩ :: trace, final, out)

/-- Evaluation is a run, whatever the surroundings are allowed to do, as long as
they may also do nothing. -/
theorem run_eval {rely : σ → σ → Prop} (hrefl : ∀ m, rely m m) (oracle : Oracle I) :
    ∀ (task : Coro I σ ε α) (m : σ) (index : ℕ),
      Run rely task m (task.eval oracle m index).1 (task.eval oracle m index).2.1
        (task.eval oracle m index).2.2 := by
  intro task
  induction task with
  | pure value => exact fun m _ => .pure value m
  | raise error => exact fun m _ => .raise error m
  | read next ih => exact fun m index => .read (ih m m index)
  | write update next ih => exact fun m index => .write (ih (update m) index)
  | call query next ih =>
      exact fun m index => .call (oracle index query) (.refl hrefl query m) (ih _ m (index + 1))

end Coro

end LLMRouting.Interaction
