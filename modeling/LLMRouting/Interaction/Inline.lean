/-
# Questions answered by programs

A task may ask for something that another program computes. Putting that program in the
place of the question gives a task over the other program's interface. Every run of it is a
run of the original task, with each question answered by a run of its program, and the
questions of the whole are those of these runs, one after another. A property of the whole
trace thus splits into one of each program and one of the original task.
-/

import LLMRouting.Interaction.Coroutine

namespace LLMRouting.Interaction

namespace Coro

variable {I J : Interface} {σ ε ε' α β : Type} {rely rely' : σ → σ → Prop}

/-- A run of a continued task is a run of the task, and then one of what it is continued by. -/
theorem Run.of_seq {task : Coro I σ ε α} {onValue : α → Coro I σ ε' β}
    {onError : ε → Coro I σ ε' β} {m m' : σ} {trace : List (Event I σ)} {out : Except ε' β}
    (h : Run rely (task.seq onValue onError) m trace m' out) :
    ∃ first middle result rest, trace = first ++ rest ∧ Run rely task m first middle result ∧
      Run rely (match result with | .ok value => onValue value | .error error => onError error)
        middle rest m' out := by
  induction task generalizing m trace with
  | pure value => exact ⟨[], m, .ok value, trace, rfl, .pure value m, h⟩
  | raise error => exact ⟨[], m, .error error, trace, rfl, .raise error m, h⟩
  | read next ih =>
      cases h with
      | read rest =>
          obtain ⟨first, middle, result, later, htrace, hfirst, hrest⟩ := ih m rest
          exact ⟨first, middle, result, later, htrace, .read hfirst, hrest⟩
  | write update next ih =>
      cases h with
      | write rest =>
          obtain ⟨first, middle, result, later, htrace, hfirst, hrest⟩ := ih rest
          exact ⟨first, middle, result, later, htrace, .write hfirst, hrest⟩
  | call query next ih =>
      cases h with
      | call reply surroundings rest =>
          obtain ⟨first, middle, result, later, rfl, hfirst, hrest⟩ := ih reply rest
          exact ⟨_ :: first, middle, result, later, rfl, .call reply surroundings hfirst, hrest⟩

/-- A run of the task and one of its continuation make a run of both. -/
theorem Run.seq {task : Coro I σ ε α} {onValue : α → Coro I σ ε' β} {onError : ε → Coro I σ ε' β}
    {m middle m' : σ} {first rest : List (Event I σ)} {value : α} {out : Except ε' β}
    (h : Run rely task m first middle (.ok value))
    (h' : Run rely (onValue value) middle rest m' out) :
    Run rely (task.seq onValue onError) m (first ++ rest) m' out := by
  generalize hresult : Except.ok value = result at h
  induction h with
  | pure returned memory =>
      cases hresult
      exact h'
  | raise error memory => cases hresult
  | read _ ih => exact .read (ih h' hresult)
  | write _ ih => exact .write (ih h' hresult)
  | call reply surroundings _ ih => exact .call reply surroundings (ih h' hresult)

/-- Put a program in the place of every question. -/
def inline (program : (query : I.Query) → Coro J σ Empty (I.Reply query)) :
    Coro I σ ε α → Coro J σ ε α
  | .pure value => .pure value
  | .raise error => .raise error
  | .read next => .read fun memory => (next memory).inline program
  | .write update next => .write update (next.inline program)
  | .call query next => (program query).seq (fun reply => (next reply).inline program) Empty.elim

section Inline

variable {program : (query : I.Query) → Coro J σ Empty (I.Reply query)}

@[simp]
theorem inline_raise {error : ε} :
    (Coro.raise error : Coro I σ ε α).inline program = Coro.raise error :=
  rfl

@[simp]
theorem inline_get : (Coro.get : Coro I σ ε σ).inline program = Coro.get :=
  rfl

@[simp]
theorem inline_modify {update : σ → σ} :
    (Coro.modify update : Coro I σ ε Unit).inline program = Coro.modify update :=
  rfl

@[simp]
theorem inline_ask {query : I.Query} :
    (Coro.ask query : Coro I σ ε (I.Reply query)).inline program =
      (program query).rescue Empty.elim :=
  rfl

/-- The programs of a continued task come in the order of its questions. -/
@[simp]
theorem inline_bind {task : Coro I σ ε α} {next : α → Coro I σ ε β} :
    (task >>= next).inline program =
      task.inline program >>= fun value => (next value).inline program := by
  show (task.seq next .raise).inline program =
    (task.inline program).seq (fun value => (next value).inline program) .raise
  induction task with
  | pure value => rfl
  | raise error => rfl
  | read read ih => exact congrArg Coro.read (funext ih)
  | write update rest ih => exact congrArg (Coro.write update) ih
  | call query rest ih =>
      simp only [seq, inline, seq_seq]
      congr
      · funext reply
        exact ih reply
      · funext impossible
        exact impossible.elim

end Inline

end Coro

/-- A question, and a run of the program that answered it. -/
structure Answered {I J : Interface} {σ : Type} (rely : σ → σ → Prop)
    (program : (query : I.Query) → Coro J σ Empty (I.Reply query)) where
  event : Event I σ
  trace : List (Event J σ)
  after : σ
  run : Coro.Run rely (program event.query) event.memory trace after (.ok event.reply)

namespace Coro

variable {I J : Interface} {σ ε α : Type} {rely rely' : σ → σ → Prop}
  {program : (query : I.Query) → Coro J σ Empty (I.Reply query)}

/-- `Served rely program task m rounds m' out`: started in memory `m`, the task asks the questions
of `rounds`, each answered by the run of its program that the round records. The surroundings
change the memory only inside these runs. -/
inductive Served (rely : σ → σ → Prop)
    (program : (query : I.Query) → Coro J σ Empty (I.Reply query)) :
    Coro I σ ε α → σ → List (Answered rely program) → σ → Except ε α → Prop
  | pure (value : α) (memory : σ) : Served rely program (.pure value) memory [] memory (.ok value)
  | raise (error : ε) (memory : σ) :
      Served rely program (.raise error) memory [] memory (.error error)
  | read {next : σ → Coro I σ ε α} {memory final : σ} {rounds : List (Answered rely program)}
      {out : Except ε α} (rest : Served rely program (next memory) memory rounds final out) :
      Served rely program (.read next) memory rounds final out
  | write {update : σ → σ} {next : Coro I σ ε α} {memory final : σ}
      {rounds : List (Answered rely program)} {out : Except ε α}
      (rest : Served rely program next (update memory) rounds final out) :
      Served rely program (.write update next) memory rounds final out
  | call {query : I.Query} {next : I.Reply query → Coro I σ ε α} {memory after final : σ}
      {trace : List (Event J σ)} {rounds : List (Answered rely program)} {out : Except ε α}
      (reply : I.Reply query) (answered : Run rely (program query) memory trace after (.ok reply))
      (rest : Served rely program (next reply) after rounds final out) :
      Served rely program (.call query next) memory
        (⟨⟨query, memory, reply⟩, trace, after, answered⟩ :: rounds) final out

/-- The runs of a task with programs in the place of its questions are its runs with the
questions answered by runs of these programs. -/
theorem run_inline_iff {task : Coro I σ ε α} {m m' : σ} {trace : List (Event J σ)}
    {out : Except ε α} :
    Run rely (task.inline program) m trace m' out ↔
      ∃ rounds, trace = rounds.flatMap Answered.trace ∧
        Served rely program task m rounds m' out := by
  refine ⟨fun h => ?_, fun h => ?_⟩
  · induction task generalizing m trace with
    | pure value =>
        cases h
        exact ⟨[], rfl, .pure value _⟩
    | raise error =>
        cases h
        exact ⟨[], rfl, .raise error _⟩
    | read next ih =>
        cases h with
        | read rest =>
            obtain ⟨rounds, htrace, hserved⟩ := ih m rest
            exact ⟨rounds, htrace, .read hserved⟩
    | write update next ih =>
        cases h with
        | write rest =>
            obtain ⟨rounds, htrace, hserved⟩ := ih rest
            exact ⟨rounds, htrace, .write hserved⟩
    | call query next ih =>
        obtain ⟨first, middle, result, rest, rfl, hanswer, hrest⟩ := Run.of_seq h
        cases result with
        | error error => exact error.elim
        | ok reply =>
            obtain ⟨rounds, rfl, hserved⟩ := ih reply hrest
            exact ⟨_ :: rounds, rfl, .call reply hanswer hserved⟩
  · obtain ⟨rounds, rfl, hserved⟩ := h
    induction hserved with
    | pure value memory => exact .pure value memory
    | raise error memory => exact .raise error memory
    | read rest ih => exact .read ih
    | write rest ih => exact .write ih
    | call reply answered rest ih => exact answered.seq ih

/-- If to the task the programs look like its surroundings, a run with its questions answered by
programs is a run of the task. -/
theorem Served.run (hprogram : ∀ answered : Answered rely program,
      Resumes rely' answered.event.query answered.event.memory answered.after)
    {task : Coro I σ ε α} {m m' : σ} {rounds : List (Answered rely program)} {out : Except ε α}
    (h : Served rely program task m rounds m' out) :
    Run rely' task m (rounds.map Answered.event) m' out := by
  induction h with
  | pure value memory => exact .pure value memory
  | raise error memory => exact .raise error memory
  | read rest ih => exact .read ih
  | write rest ih => exact .write ih
  | @call query next memory after final trace rounds out reply answered rest ih =>
      exact .call reply (hprogram ⟨⟨query, memory, reply⟩, trace, after, answered⟩) ih

/-- A run of a task with programs in the place of its questions is a run of the task, if to the
task the programs look like its surroundings. -/
theorem Run.of_inline (hprogram : ∀ answered : Answered rely program,
      Resumes rely' answered.event.query answered.event.memory answered.after)
    {task : Coro I σ ε α} {m m' : σ} {trace : List (Event J σ)} {out : Except ε α}
    (h : Run rely (task.inline program) m trace m' out) :
    ∃ rounds : List (Answered rely program), trace = rounds.flatMap Answered.trace ∧
      Run rely' task m (rounds.map Answered.event) m' out := by
  obtain ⟨rounds, htrace, hserved⟩ := run_inline_iff.mp h
  exact ⟨rounds, htrace, hserved.run hprogram⟩

/-- Run a task to its end among surroundings that do as `others` says. -/
def evalAmid (oracle : Oracle J) (others : ℕ → σ → σ) :
    Coro J σ ε α → σ → ℕ → List (Event J σ) × σ × Except ε α
  | .pure value, memory, _ => ([], memory, .ok value)
  | .raise error, memory, _ => ([], memory, .error error)
  | .read next, memory, index => (next memory).evalAmid oracle others memory index
  | .write update next, memory, index => next.evalAmid oracle others (update memory) index
  | .call query next, memory, index =>
      let resumed := if J.suspends query then others index memory else memory
      let (trace, final, out) :=
        (next (oracle index query)).evalAmid oracle others resumed (index + 1)
      (⟨query, memory, oracle index query⟩ :: trace, final, out)

theorem run_evalAmid (oracle : Oracle J) {others : ℕ → σ → σ}
    (hothers : ∀ index m, rely m (others index m)) (task : Coro J σ ε α) (m : σ) (index : ℕ) :
    Run rely task m (task.evalAmid oracle others m index).1
      (task.evalAmid oracle others m index).2.1 (task.evalAmid oracle others m index).2.2 := by
  induction task generalizing m index with
  | pure value => exact .pure value m
  | raise error => exact .raise error m
  | read next ih => exact .read (ih m m index)
  | write update next ih => exact .write (ih (update m) index)
  | call query next ih =>
      refine .call (oracle index query) ?_ (ih _ _ _)
      rw [Resumes]
      split
      · exact hothers index m
      · rfl

variable (program) in
/-- Run a task to its end with programs in the place of its questions, and keep the rounds. -/
def serve (oracle : Oracle J) (others : ℕ → σ → σ) (hothers : ∀ index m, rely m (others index m)) :
    Coro I σ ε α → σ → ℕ → List (Answered rely program) × σ × Except ε α
  | .pure value, memory, _ => ([], memory, .ok value)
  | .raise error, memory, _ => ([], memory, .error error)
  | .read next, memory, index => (next memory).serve oracle others hothers memory index
  | .write update next, memory, index => next.serve oracle others hothers (update memory) index
  | .call query next, memory, index =>
      match hanswer : (program query).evalAmid oracle others memory index with
      | (_, _, .error error) => error.elim
      | (trace, after, .ok reply) =>
          let (rounds, final, out) :=
            (next reply).serve oracle others hothers after (index + trace.length)
          (⟨⟨query, memory, reply⟩, trace, after, by
            have hrun := run_evalAmid oracle hothers (program query) memory index
            rwa [hanswer] at hrun⟩ :: rounds, final, out)

theorem served_serve {oracle : Oracle J} {others : ℕ → σ → σ}
    (hothers : ∀ index m, rely m (others index m)) (task : Coro I σ ε α) (m : σ) (index : ℕ) :
    Served rely program task m (task.serve program oracle others hothers m index).1
      (task.serve program oracle others hothers m index).2.1
      (task.serve program oracle others hothers m index).2.2 := by
  induction task generalizing m index with
  | pure value => exact .pure value m
  | raise error => exact .raise error m
  | read next ih => exact .read (ih m m index)
  | write update next ih => exact .write (ih (update m) index)
  | call query next ih =>
      rw [serve]
      split
      · rename_i error hanswer
        exact error.elim
      · rename_i trace after reply hanswer
        exact .call reply _ (ih reply after _)

end Coro

end LLMRouting.Interaction
