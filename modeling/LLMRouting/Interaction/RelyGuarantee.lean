/-
# Rely-guarantee rules for cooperative tasks

A contract says what a task may rely on while it is suspended, what each of its
own writes guarantees, and what holds of the memory whenever it gives up the
floor. The weakest precondition of a task is computed by recursion on it, so a
proof about straight-line code is a simplification and a proof about a callee is
one use of `wp_mono`. The postcondition sees the questions the task asked as well
as its final memory, which is what makes trace properties compose.
-/

import LLMRouting.Interaction.Coroutine

namespace LLMRouting.Interaction

/-- What a task relies on while suspended, what its writes guarantee, and what
it establishes before it suspends. -/
structure Contract (σ : Type) where
  rely : σ → σ → Prop
  guar : σ → σ → Prop
  pause : σ → Prop

/-- The contract of a task that promises nothing to the others. -/
def Contract.relying {σ : Type} (rely : σ → σ → Prop) : Contract σ where
  rely := rely
  guar _ _ := True
  pause _ := True

namespace Coro

variable {I : Interface} {σ ε ε' α β : Type} {c : Contract σ}

/-- The weakest precondition for a task to keep its contract and to end, after
asking `trace`, in a memory and with an outcome that satisfy `post trace`. -/
def wp (c : Contract σ) :
    Coro I σ ε α → (List (Event I σ) → σ → Except ε α → Prop) → σ → Prop
  | .pure value, post, m => post [] m (.ok value)
  | .raise error, post, m => post [] m (.error error)
  | .read next, post, m => (next m).wp c post m
  | .write update next, post, m => c.guar m (update m) ∧ next.wp c post (update m)
  | .call query next, post, m => (I.suspends query → c.pause m) ∧
      ∀ reply m', Resumes c.rely query m m' →
        (next reply).wp c (fun trace => post (⟨query, m, reply⟩ :: trace)) m'

section Rules

variable {post post' : List (Event I σ) → σ → Except ε α → Prop} {m : σ}

/-- The rule of consequence. -/
theorem wp_mono {task : Coro I σ ε α} (h : task.wp c post m)
    (himp : ∀ trace m' out, post trace m' out → post' trace m' out) :
    task.wp c post' m := by
  induction task generalizing m post post' with
  | pure value => exact himp _ _ _ h
  | raise error => exact himp _ _ _ h
  | read next ih => exact ih m h himp
  | write update next ih => exact ⟨h.1, ih h.2 himp⟩
  | call query next ih =>
      refine ⟨h.1, fun reply m' hm' => ih reply (h.2 reply m' hm') ?_⟩
      exact fun trace _ _ hpost => himp _ _ _ hpost

/-- Two postconditions of one task hold together. -/
theorem wp_and {task : Coro I σ ε α} (h : task.wp c post m) (h' : task.wp c post' m) :
    task.wp c (fun trace m' out => post trace m' out ∧ post' trace m' out) m := by
  induction task generalizing m post post' with
  | pure value => exact ⟨h, h'⟩
  | raise error => exact ⟨h, h'⟩
  | read next ih => exact ih m h h'
  | write update next ih => exact ⟨h.1, ih h.2 h'.2⟩
  | call query next ih =>
      exact ⟨h.1, fun reply m' hm' => ih reply (h.2 reply m' hm') (h'.2 reply m' hm')⟩

/-- A task continued by `seq` first runs, and then its continuation adds to the
questions already asked. -/
theorem wp_seq {task : Coro I σ ε α} {onValue : α → Coro I σ ε' β}
    {onError : ε → Coro I σ ε' β} {post : List (Event I σ) → σ → Except ε' β → Prop} :
    (task.seq onValue onError).wp c post m ↔
      task.wp c (fun trace m' out =>
        match out with
        | .ok value => (onValue value).wp c (fun rest => post (trace ++ rest)) m'
        | .error error => (onError error).wp c (fun rest => post (trace ++ rest)) m') m := by
  induction task generalizing m post with
  | pure value => rfl
  | raise error => rfl
  | read next ih => exact ih m
  | write update next ih => exact and_congr_right fun _ => ih
  | call query next ih =>
      refine and_congr_right fun _ => forall_congr' fun reply => forall_congr' fun m' =>
        imp_congr_right fun _ => ?_
      exact ih reply

@[simp]
theorem wp_bind {task : Coro I σ ε α} {next : α → Coro I σ ε β}
    {post : List (Event I σ) → σ → Except ε β → Prop} :
    (task >>= next).wp c post m ↔
      task.wp c (fun trace m' out =>
        match out with
        | .ok value => (next value).wp c (fun rest => post (trace ++ rest)) m'
        | .error error => post trace m' (.error error)) m := by
  change (task.seq next .raise).wp c post m ↔ _
  rw [wp_seq]
  constructor <;> intro h <;> refine wp_mono h fun trace m' out hout => ?_
  all_goals
    cases out with
    | ok value => exact hout
    | error error => simpa only [wp, List.append_nil] using hout

@[simp]
theorem wp_attempt {task : Coro I σ ε α}
    {post : List (Event I σ) → σ → Except ε' (Except ε α) → Prop} :
    task.attempt.wp c post m ↔ task.wp c (fun trace m' out => post trace m' (.ok out)) m := by
  rw [attempt]
  rw [wp_seq]
  constructor <;> intro h <;> refine wp_mono h fun trace m' out hout => ?_
  all_goals
    cases out <;> simpa only [wp, List.append_nil] using hout

@[simp]
theorem wp_rescue {task : Coro I σ ε α} {handler : ε → Coro I σ ε' α}
    {post : List (Event I σ) → σ → Except ε' α → Prop} :
    (task.rescue handler).wp c post m ↔
      task.wp c (fun trace m' out =>
        match out with
        | .ok value => post trace m' (.ok value)
        | .error error => (handler error).wp c (fun rest => post (trace ++ rest)) m') m := by
  rw [rescue]
  rw [wp_seq]
  constructor <;> intro h <;> refine wp_mono h fun trace m' out hout => ?_
  all_goals
    cases out with
    | ok value => simpa only [wp, List.append_nil] using hout
    | error error => exact hout

@[simp]
theorem wp_translate {task : Coro I σ ε α} {translation : ε → ε'}
    {post : List (Event I σ) → σ → Except ε' α → Prop} :
    (task.translate translation).wp c post m ↔
      task.wp c (fun trace m' out => post trace m' (out.mapError translation)) m := by
  rw [translate]
  rw [wp_rescue]
  constructor <;> intro h <;> refine wp_mono h fun trace m' out hout => ?_
  all_goals
    cases out with
    | ok value => exact hout
    | error error => simpa only [wp, Except.mapError, List.append_nil] using hout

@[simp]
theorem wp_settle {result : Except ε α} :
    (settle result : Coro I σ ε α).wp c post m ↔ post [] m result := by
  cases result <;> rfl

@[simp]
theorem wp_pure {value : α} : (pure value : Coro I σ ε α).wp c post m ↔ post [] m (.ok value) :=
  Iff.rfl

@[simp]
theorem wp_get {post : List (Event I σ) → σ → Except ε σ → Prop} :
    (Coro.get : Coro I σ ε σ).wp c post m ↔ post [] m (.ok m) :=
  Iff.rfl

/-- A write, and then the rest. -/
theorem wp_modify_bind {update : σ → σ} {next : Unit → Coro I σ ε β}
    {post : List (Event I σ) → σ → Except ε β → Prop} :
    (Coro.modify update >>= next).wp c post m ↔
      c.guar m (update m) ∧ (next ()).wp c post (update m) :=
  Iff.rfl

@[simp]
theorem wp_ask {query : I.Query} {post : List (Event I σ) → σ → Except ε (I.Reply query) → Prop} :
    (Coro.ask query : Coro I σ ε (I.Reply query)).wp c post m ↔
      (I.suspends query → c.pause m) ∧ ∀ reply m', Resumes c.rely query m m' →
        post [⟨query, m, reply⟩] m' (.ok reply) :=
  Iff.rfl

end Rules

@[simp]
theorem guar_relying {rely : σ → σ → Prop} {m m' : σ} :
    (Contract.relying rely).guar m m' ↔ True :=
  Iff.rfl

section Beginning

variable {rely : σ → σ → Prop} {m : σ}

/-- A task that promises nothing meets its contract. -/
theorem wp_relying (task : Coro I σ ε α) :
    task.wp (Contract.relying rely) (fun _ _ _ => True) m := by
  induction task generalizing m with
  | pure value => trivial
  | raise error => trivial
  | read next ih => exact ih m
  | write update next ih => exact ⟨trivial, ih⟩
  | call query next ih => exact ⟨fun _ => trivial, fun reply m' _ => ih reply⟩

/-- What holds of every run is a postcondition. -/
theorem wp_of_run {task : Coro I σ ε α} {post : List (Event I σ) → σ → Except ε α → Prop}
    (h : ∀ trace m' out, Run rely task m trace m' out → post trace m' out) :
    task.wp (Contract.relying rely) post m := by
  induction task generalizing m post with
  | pure value => exact h _ _ _ (.pure value m)
  | raise error => exact h _ _ _ (.raise error m)
  | read next ih => exact ih m fun trace m' out hrun => h trace m' out (.read hrun)
  | write update next ih =>
      exact ⟨trivial, ih fun trace m' out hrun => h trace m' out (.write hrun)⟩
  | call query next ih =>
      refine ⟨fun _ => trivial, fun reply resumed hresumed => ih reply ?_⟩
      exact fun trace m' out hrun => h _ m' out (.call reply hresumed hrun)

/-- A write of such a task, and then the rest. -/
theorem wp_modify_bind_relying {update : σ → σ} {next : Unit → Coro I σ ε β}
    {post : List (Event I σ) → σ → Except ε β → Prop} :
    (Coro.modify update >>= next).wp (Contract.relying rely) post m ↔
      (next ()).wp (Contract.relying rely) post (update m) := by
  rw [wp_modify_bind, guar_relying, true_and]

/-- A fact about how the trace begins stays true of the task continued. -/
theorem wp_bind_of_beginning {P : List (Event I σ) → Prop} {task : Coro I σ ε α}
    {next : α → Coro I σ ε β} (happend : ∀ trace rest, P trace → P (trace ++ rest))
    (h : task.wp (Contract.relying rely) (fun trace _ _ => P trace) m) :
    (task >>= next).wp (Contract.relying rely) (fun trace _ _ => P trace) m := by
  rw [wp_bind]
  apply wp_mono h
  intro trace m' out hP
  cases out with
  | error error => exact hP
  | ok value =>
      apply wp_mono (wp_relying (next value))
      intro rest _ _ _
      exact happend trace rest hP

end Beginning

/-- Soundness: what the weakest precondition promises holds after every run. -/
theorem wp_sound {task : Coro I σ ε α} {post : List (Event I σ) → σ → Except ε α → Prop}
    {m m' : σ} {trace : List (Event I σ)} {out : Except ε α}
    (h : task.wp c post m) (hrun : Run c.rely task m trace m' out) : post trace m' out := by
  induction hrun generalizing post with
  | pure value memory => exact h
  | raise error memory => exact h
  | read _ ih => exact ih h
  | write _ ih => exact ih h.2
  | call reply surroundings _ ih => exact ih (h.2 reply _ surroundings)

end Coro

end LLMRouting.Interaction
