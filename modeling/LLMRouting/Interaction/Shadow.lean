/-
# Shadows of cooperative tasks

A task is followed by a shadow: a note of what it holds, which stays with it while others
have the floor, and a clock that some replies are readings of. Each write of the task is an
act of its shadow. The writes of a run of many tasks then are a sequence of acts, each with the
note of the task that acted and at a time of the clock, which is all that a more abstract
system of the same acts needs to follow the run write by write.
-/

import LLMRouting.Interaction.Inline
import LLMRouting.Interaction.Interleaving

namespace LLMRouting.Interaction

variable {I J : Interface} {σ ρ γ τ π ε ε' α β κ : Type}

/-- How tasks are followed: which replies are readings of the clock, what a write may do to
the note and the memory at a time of the clock, and with which note a task may await the
reply to a question. -/
structure Shadow (I : Interface) (σ γ τ : Type) where
  reading? : (query : I.Query) → I.Reply query → Option τ
  acts : τ → γ × σ → γ × σ → Prop
  parks : I.Query → γ → Prop

namespace Coro

/-- No write of the task changes what is seen of the memory. -/
def Leaves (view : σ → π) : Coro I σ ε α → Prop
  | .pure _ | .raise _ => True
  | .read next => ∀ m, (next m).Leaves view
  | .write update next => (∀ m, view (update m) = view m) ∧ next.Leaves view
  | .call _ next => ∀ reply, (next reply).Leaves view

theorem Leaves.seq {view : σ → π} {task : Coro I σ ε α} {onValue : α → Coro I σ ε' β}
    {onError : ε → Coro I σ ε' β} (h : task.Leaves view)
    (hvalue : ∀ value, (onValue value).Leaves view)
    (herror : ∀ error, (onError error).Leaves view) :
    (task.seq onValue onError).Leaves view := by
  induction task with
  | pure value => exact hvalue value
  | raise error => exact herror error
  | read next ih => exact fun m => ih m (h m)
  | write update next ih => exact ⟨h.1, ih h.2⟩
  | call query next ih => exact fun reply => ih reply (h reply)

/-- A look at the state, and then the rest. -/
theorem leaves_get_bind {view : σ → π} {next : σ → Coro I σ ε α} (h : ∀ m, (next m).Leaves view) :
    (get >>= next).Leaves view :=
  h

/-- Started at a time of the clock, with a note and in a memory, the task is followed by its
shadow, and it ends as `post` says. -/
def shadowed (s : Shadow I σ γ τ) :
    Coro I σ ε α → (τ → γ → σ → Except ε α → Prop) → τ → γ → σ → Prop
  | .pure value, post, now, note, m => post now note m (.ok value)
  | .raise error, post, now, note, m => post now note m (.error error)
  | .read next, post, now, note, m => (next m).shadowed s post now note m
  | .write update next, post, now, note, m => ∃ note', s.acts now (note, m) (note', update m) ∧
      next.shadowed s post now note' (update m)
  | .call query next, post, now, note, m =>
      if I.suspends query then
        s.parks query note ∧ ∀ reply later m', (next reply).shadowed s post later note m'
      else ∀ reply, (next reply).shadowed s post ((s.reading? query reply).getD now) note m

section Rules

variable {s : Shadow I σ γ τ} {post post' : τ → γ → σ → Except ε α → Prop} {now : τ} {note : γ}
  {m : σ}

theorem shadowed_mono {task : Coro I σ ε α} (h : task.shadowed s post now note m)
    (himp : ∀ now note m out, post now note m out → post' now note m out) :
    task.shadowed s post' now note m := by
  induction task generalizing now note m with
  | pure value => exact himp _ _ _ _ h
  | raise error => exact himp _ _ _ _ h
  | read next ih => exact ih m h
  | write update next ih =>
      obtain ⟨note', hact, hnext⟩ := h
      exact ⟨note', hact, ih hnext⟩
  | call query next ih =>
      rw [shadowed] at h ⊢
      by_cases hsuspends : I.suspends query
      · rw [if_pos hsuspends] at h ⊢
        exact ⟨h.1, fun reply later m' => ih reply (h.2 reply later m')⟩
      · rw [if_neg hsuspends] at h ⊢
        exact fun reply => ih reply (h reply)

/-- First the task is followed, and then what it is continued by. -/
theorem shadowed_seq {task : Coro I σ ε α} {onValue : α → Coro I σ ε' β}
    {onError : ε → Coro I σ ε' β} {post : τ → γ → σ → Except ε' β → Prop}
    (h : task.shadowed s (fun now note m out =>
      match out with
      | .ok value => (onValue value).shadowed s post now note m
      | .error error => (onError error).shadowed s post now note m) now note m) :
    (task.seq onValue onError).shadowed s post now note m := by
  induction task generalizing now note m with
  | pure value => exact h
  | raise error => exact h
  | read next ih => exact ih m h
  | write update next ih =>
      obtain ⟨note', hact, hnext⟩ := h
      exact ⟨note', hact, ih hnext⟩
  | call query next ih =>
      rw [shadowed] at h
      rw [seq, shadowed]
      by_cases hsuspends : I.suspends query
      · rw [if_pos hsuspends] at h ⊢
        exact ⟨h.1, fun reply later m' => ih reply (h.2 reply later m')⟩
      · rw [if_neg hsuspends] at h ⊢
        exact fun reply => ih reply (h reply)

theorem shadowed_bind {task : Coro I σ ε α} {next : α → Coro I σ ε β}
    {post : τ → γ → σ → Except ε β → Prop}
    (h : task.shadowed s (fun now note m out =>
      match out with
      | .ok value => (next value).shadowed s post now note m
      | .error error => post now note m (.error error)) now note m) :
    (task >>= next).shadowed s post now note m := by
  show (task.seq next .raise).shadowed s post now note m
  apply shadowed_seq
  apply shadowed_mono h
  intro now note m out hout
  cases out with
  | ok value => exact hout
  | error error => exact hout

/-- A look at the state, and then the rest. -/
theorem shadowed_get_bind {next : σ → Coro I σ ε α} {post : τ → γ → σ → Except ε α → Prop}
    (h : (next m).shadowed s post now note m) : (get >>= next).shadowed s post now note m :=
  h

theorem shadowed_rescue {task : Coro I σ ε α} {handler : ε → Coro I σ ε' α}
    {post : τ → γ → σ → Except ε' α → Prop}
    (h : task.shadowed s (fun now note m out =>
      match out with
      | .ok value => post now note m (.ok value)
      | .error error => (handler error).shadowed s post now note m) now note m) :
    (task.rescue handler).shadowed s post now note m := by
  apply shadowed_seq
  apply shadowed_mono h
  intro now note m out hout
  cases out with
  | ok value => exact hout
  | error error => exact hout

theorem shadowed_attempt {task : Coro I σ ε α} {post : τ → γ → σ → Except ε' (Except ε α) → Prop}
    (h : task.shadowed s (fun now note m out => post now note m (.ok out)) now note m) :
    task.attempt.shadowed s post now note m := by
  apply shadowed_seq
  apply shadowed_mono h
  intro now note m out hout
  cases out with
  | ok value => exact hout
  | error error => exact hout

theorem shadowed_settle {result : Except ε α} (h : post now note m result) :
    (settle result : Coro I σ ε α).shadowed s post now note m := by
  cases result with
  | ok value => exact h
  | error error => exact h

/-- A question that gives up the floor. -/
theorem shadowed_ask {query : I.Query} {post : τ → γ → σ → Except ε (I.Reply query) → Prop}
    (hsuspends : I.suspends query = true) (hparks : s.parks query note)
    (h : ∀ reply later m', post later note m' (.ok reply)) :
    (ask query).shadowed s post now note m := by
  show (Coro.call query .pure).shadowed s post now note m
  rw [shadowed, if_pos hsuspends]
  exact ⟨hparks, h⟩

/-- A question that is answered on the spot. -/
theorem shadowed_ask_local {query : I.Query} {post : τ → γ → σ → Except ε (I.Reply query) → Prop}
    (hlocal : I.suspends query = false)
    (h : ∀ reply, post ((s.reading? query reply).getD now) note m (.ok reply)) :
    (ask query).shadowed s post now note m := by
  show (Coro.call query .pure).shadowed s post now note m
  rw [shadowed, if_neg (by rw [hlocal]; exact Bool.false_ne_true)]
  exact h

end Rules

/-- A task that leaves alone what its shadow acts on, with programs in the place of its
questions: the shadow is that of the programs. -/
theorem shadowed_inline {s : Shadow J σ γ τ} {view : σ → π} {rest : γ}
    {program : (query : I.Query) → Coro J σ Empty (I.Reply query)}
    (hidle : ∀ now m m', view m' = view m → s.acts now (rest, m) (rest, m'))
    (hprogram : ∀ query now m,
      (program query).shadowed s (fun _ note _ _ => note = rest) now rest m)
    {task : Coro I σ ε α} (htask : task.Leaves view) (now : τ) (m : σ) :
    (task.inline program).shadowed s (fun _ note _ _ => note = rest) now rest m := by
  induction task generalizing now m with
  | pure value => exact rfl
  | raise error => exact rfl
  | read next ih => exact ih m (htask m) now m
  | write update next ih => exact ⟨rest, hidle now m _ (htask.1 m), ih htask.2 now _⟩
  | call query next ih =>
      apply shadowed_seq
      apply shadowed_mono (hprogram query now m)
      rintro now note m out rfl
      cases out with
      | ok reply => exact ih reply (htask reply) now m
      | error error => exact error.elim

end Coro

/-- A write of a task: the last reading of the clock before it, if there is one in its stretch,
and the memory before and after. -/
structure Write (σ τ : Type) where
  reading : Option τ
  before : σ
  after : σ

/-- The writes of a stretch, in order. -/
def Coro.writes (reading? : (query : I.Query) → I.Reply query → Option τ) (oracle : Oracle I) :
    Coro I σ ε α → Option τ → σ → ℕ → List (Write σ τ)
  | .pure _, _, _, _ | .raise _, _, _, _ => []
  | .read next, reading, m, index => (next m).writes reading? oracle reading m index
  | .write update next, reading, m, index =>
      ⟨reading, m, update m⟩ :: next.writes reading? oracle reading (update m) index
  | .call query next, reading, m, index =>
      if I.suspends query then []
      else (next (oracle index query)).writes reading? oracle
        ((reading? query (oracle index query)).or reading) m (index + 1)

/-- What a task without the floor owes its shadow: its note, and to be followed again. -/
def Standing.shadowed (s : Shadow I σ γ τ) (rest note : γ) : Standing I σ ε α → Prop
  | .parked query next => s.parks query note ∧ ∀ reply now m,
      (next reply).shadowed s (fun _ note _ _ => note = rest) now note m
  | .ended _ => note = rest

variable [Preorder τ]

/-- The acts of one stretch, one for each of its writes, while the clock moves on. -/
inductive Shadow.Course (s : Shadow I σ γ τ) :
    τ → γ × σ → List (Write σ τ) → τ → γ × σ → Prop
  | done (now : τ) (here : γ × σ) : Course s now here [] now here
  | later {now later last : τ} {here there : γ × σ} {writes : List (Write σ τ)} (le : now ≤ later)
      (rest : Course s later here writes last there) : Course s now here writes last there
  | act {now last : τ} {reading : Option τ} {here next there : γ × σ} {writes : List (Write σ τ)}
      (acts : s.acts now here next) (dated : ∀ time ∈ reading, time = now)
      (rest : Course s now next writes last there) :
      Course s now here (⟨reading, here.2, next.2⟩ :: writes) last there

/-- The clock as an oracle shows it does not go back, and stays between two times. -/
structure Coro.Oracle.Timely (reading? : (query : I.Query) → I.Reply query → Option τ)
    (oracle : Oracle I) (start finish : τ) : Prop where
  start_le : ∀ {index query reading}, reading? query (oracle index query) = some reading →
    start ≤ reading
  le_finish : ∀ {index query reading}, reading? query (oracle index query) = some reading →
    reading ≤ finish
  ordered : ∀ {first second query query' reading reading'}, first < second →
    reading? query (oracle first query) = some reading →
      reading? query' (oracle second query') = some reading' → reading ≤ reading'

/-- One stretch of a task is a course of its shadow. -/
theorem Coro.shadowed_advance {s : Shadow I σ γ τ} {rest note : γ} {task : Coro I σ ε α} {m : σ}
    {oracle : Coro.Oracle I} {start finish now : τ} {reading : Option τ} (index : ℕ)
    (h : task.shadowed s (fun _ note _ _ => note = rest) now note m)
    (hdated : ∀ time ∈ reading, time = now) (htimely : oracle.Timely s.reading? start finish)
    (hfinish : now ≤ finish)
    (hnow : ∀ later query reading, index ≤ later →
      s.reading? query (oracle later query) = some reading → now ≤ reading) :
    ∃ note' last, last ≤ finish ∧
      s.Course now (note, m) (task.writes s.reading? oracle reading m index) last
        (note', (task.advance oracle m index).2) ∧
        (task.advance oracle m index).1.shadowed s rest note' := by
  induction task generalizing now note m index reading with
  | pure value => exact ⟨note, now, hfinish, .done _ _, h⟩
  | raise error => exact ⟨note, now, hfinish, .done _ _, h⟩
  | read next ih => exact ih m index h hdated hfinish hnow
  | write update next ih =>
      obtain ⟨note', hact, hnext⟩ := h
      obtain ⟨note'', last, hlast, hcourse, hstands⟩ := ih index hnext hdated hfinish hnow
      exact ⟨note'', last, hlast, .act hact hdated hcourse, hstands⟩
  | call query next ih =>
      rw [shadowed] at h
      rw [advance, writes]
      by_cases hsuspends : I.suspends query
      · rw [if_pos hsuspends] at h
        rw [if_pos hsuspends, if_pos hsuspends]
        exact ⟨note, now, hfinish, .done _ _, h⟩
      · rw [if_neg hsuspends] at h
        rw [if_neg hsuspends, if_neg hsuspends]
        have hnext := h (oracle index query)
        cases hreading : s.reading? query (oracle index query) with
        | none =>
            rw [hreading] at hnext
            rw [Option.none_or]
            exact ih _ (index + 1) hnext hdated hfinish fun later query' reading hlater =>
              hnow later query' reading (Nat.le_of_succ_le hlater)
        | some reading =>
            rw [hreading] at hnext
            rw [Option.some_or]
            have hdated' : ∀ time ∈ some reading, time = reading :=
              fun time htime => (Option.mem_some_iff.mp htime).symm
            obtain ⟨note', last, hlast, hcourse, hstands⟩ := ih _ (index + 1) hnext hdated'
              (htimely.le_finish hreading)
              fun later query' reading' hlater hreading' =>
                htimely.ordered hlater hreading hreading'
            exact ⟨note', last, hlast,
              .later (hnow index query reading le_rfl hreading) hcourse, hstands⟩

/-- The answers a move gives the task that has the floor. -/
def Move.oracle? : Move I σ κ → Option (Coro.Oracle I)
  | .start _ oracle | .resume _ oracle => some oracle
  | .disturb _ => none

namespace Pool

/-- The writes of the task that has the floor in a move. -/
def writes (reading? : (query : I.Query) → I.Reply query → Option τ) (crew : Crew I σ ρ ε α κ)
    (pool : Pool I σ ρ ε α κ) : Move I σ κ → List (Write (Mem σ ρ) τ)
  | .start label oracle =>
      (crew.program label).writes reading? oracle none ⟨pool.shared, crew.initial label⟩ 0
  | .resume index oracle =>
      match pool.seats[index]? with
      | some seat =>
          match seat.standing with
          | .parked query next =>
              (next (oracle 0 query)).writes reading? oracle none ⟨pool.shared, seat.own⟩ 1
          | .ended _ => []
      | none => []
  | .disturb _ => []

/-- The writes of a run, in order. -/
def runWrites (reading? : (query : I.Query) → I.Reply query → Option τ)
    (crew : Crew I σ ρ ε α κ) :
    Pool I σ ρ ε α κ → List (Move I σ κ) → List (Write (Mem σ ρ) τ)
  | _, [] => []
  | pool, move :: rest =>
      pool.writes reading? crew move ++
        match pool.step crew move with
        | some next => runWrites reading? crew next rest
        | none => []

/-- The tasks in the seats are followed by their notes, and the seats still free by the note
of a task that holds nothing. -/
structure Shadowed (s : Shadow I (Mem σ ρ) γ τ) (rest : γ) (notes : ℕ → γ)
    (pool : Pool I σ ρ ε α κ) : Prop where
  seated : ∀ (index : ℕ) (seat : Seat I σ ρ ε α κ), pool.seats[index]? = some seat →
    seat.standing.shadowed s rest (notes index)
  free : ∀ index : ℕ, pool.seats[index]? = none → notes index = rest

/-- One move, and the times of the clock before and after it. -/
structure Timed (reading? : (query : I.Query) → I.Reply query → Option τ)
    (crew : Crew I σ ρ ε α κ) (first : Pool I σ ρ ε α κ × τ) (move : Move I σ κ)
    (second : Pool I σ ρ ε α κ × τ) : Prop where
  step : first.1.step crew move = some second.1
  le : first.2 ≤ second.2
  timely : ∀ oracle ∈ move.oracle?, oracle.Timely reading? first.2 second.2

variable {s : Shadow I (Mem σ ρ) γ τ} {rest : γ} {crew : Crew I σ ρ ε α κ} {notes : ℕ → γ}
  {pool pool' : Pool I σ ρ ε α κ} {move : Move I σ κ} {start finish : τ}

omit [Preorder τ] in
theorem shadowed_empty (shared : σ) :
    (⟨shared, []⟩ : Pool I σ ρ ε α κ).Shadowed s rest fun _ => rest where
  seated _ _ h := by simp at h
  free _ _ := rfl

/-- What one move with these writes is to the shadows: a change from outside, or a course of the
shadow of one task, whose note changes and nobody else's. -/
inductive Passing (s : Shadow I (Mem σ ρ) γ τ) (start finish : τ) (notes : ℕ → γ) (shared : σ) :
    Move I σ κ → List (Write (Mem σ ρ) τ) → σ → (ℕ → γ) → Prop
  | disturbed (update : σ → σ) :
      Passing s start finish notes shared (.disturb update) [] (update shared) notes
  | course {move : Move I σ κ} {writes : List (Write (Mem σ ρ) τ)} {index : ℕ} {note : γ}
      {own own' : ρ} {shared' : σ} {last : τ} (le : last ≤ finish)
      (course : s.Course start (notes index, ⟨shared, own⟩) writes last
        (note, ⟨shared', own'⟩)) :
      Passing s start finish notes shared move writes shared' (Function.update notes index note)

omit [Preorder τ] in
/-- A task that takes a seat is followed by its note, and the others as before. -/
theorem Shadowed.joined (h : pool.Shadowed s rest notes) {seat : Seat I σ ρ ε α κ} {note : γ}
    (hstands : seat.standing.shadowed s rest note) (shared : σ) :
    ({ shared := shared, seats := pool.seats ++ [seat] } : Pool I σ ρ ε α κ).Shadowed s rest
      (Function.update notes pool.seats.length note) where
  seated := by
    intro index other hother
    by_cases hold : index < pool.seats.length
    · rw [List.getElem?_append_left hold] at hother
      rw [Function.update_of_ne hold.ne]
      exact h.seated index other hother
    · rw [List.getElem?_append_right (Nat.le_of_not_lt hold), List.getElem?_singleton] at hother
      obtain ⟨hindex, hother⟩ := Option.ite_none_right_eq_some.mp hother
      cases hother
      rw [show index = pool.seats.length by omega, Function.update_self]
      exact hstands
  free := by
    intro index hnone
    have hlength := List.getElem?_eq_none_iff.mp hnone
    simp only [List.length_append, List.length_singleton] at hlength
    rw [Function.update_of_ne (by omega)]
    exact h.free index (List.getElem?_eq_none (by omega))

omit [Preorder τ] in
/-- A task that stands elsewhere now is followed by its new note, and the others as before. -/
theorem Shadowed.moved (h : pool.Shadowed s rest notes) {index : ℕ}
    (hindex : index < pool.seats.length) {seat : Seat I σ ρ ε α κ} {note : γ}
    (hstands : seat.standing.shadowed s rest note) (shared : σ) :
    ({ shared := shared, seats := pool.seats.set index seat } : Pool I σ ρ ε α κ).Shadowed s rest
      (Function.update notes index note) where
  seated := by
    intro other seat' hseat'
    rw [List.getElem?_set] at hseat'
    by_cases hsame : index = other
    · rw [if_pos hsame] at hseat'
      obtain ⟨-, hseat'⟩ := Option.ite_none_right_eq_some.mp hseat'
      cases hseat'
      rw [← hsame, Function.update_self]
      exact hstands
    · rw [if_neg hsame] at hseat'
      rw [Function.update_of_ne (Ne.symm hsame)]
      exact h.seated other seat' hseat'
  free := by
    intro other hnone
    have hlength := List.getElem?_eq_none_iff.mp hnone
    rw [List.length_set] at hlength
    rw [Function.update_of_ne (by omega)]
    exact h.free other (List.getElem?_eq_none hlength)

/-- The rule of one move. -/
theorem Shadowed.step (hshadowed : pool.Shadowed s rest notes)
    (hprogram : ∀ label now m,
      (crew.program label).shadowed s (fun _ note _ _ => note = rest) now rest m)
    (h : Timed s.reading? crew (pool, start) move (pool', finish)) :
    ∃ notes', Passing s start finish notes pool.shared move
        (pool.writes s.reading? crew move) pool'.shared notes' ∧
      pool'.Shadowed s rest notes' := by
  obtain ⟨hstep, hle, htimely⟩ := h
  have hundated : ∀ time ∈ (none : Option τ), time = start := fun _ hnone => by cases hnone
  cases move with
  | start label oracle =>
      cases hstep
      have hfree : notes pool.seats.length = rest :=
        hshadowed.free _ (List.getElem?_eq_none le_rfl)
      obtain ⟨note, last, hlast, hcourse, hstands⟩ := Coro.shadowed_advance 0
        (hprogram label start ⟨pool.shared, crew.initial label⟩)
        hundated (htimely oracle rfl) hle
        fun _ _ _ _ hreading => (htimely oracle rfl).start_le hreading
      rw [← hfree] at hcourse
      exact ⟨_, .course hlast hcourse, hshadowed.joined hstands _⟩
  | resume index oracle =>
      obtain ⟨seat, hseated, hstep⟩ := Option.bind_eq_some_iff.mp hstep
      obtain ⟨⟨standing, m⟩, hresume, hstep⟩ := Option.map_eq_some_iff.mp hstep
      cases hstep
      rw [Seat.resume] at hresume
      have hstands := hshadowed.seated index seat hseated
      cases hstanding : seat.standing with
      | ended out =>
          rw [hstanding] at hresume
          cases hresume
      | parked query next =>
          rw [hstanding] at hresume hstands
          obtain ⟨note, last, hlast, hcourse, hnext⟩ := Coro.shadowed_advance 1
            (hstands.2 (oracle 0 query) start ⟨pool.shared, seat.own⟩)
            hundated (htimely oracle rfl) hle
            fun _ _ _ _ hreading => (htimely oracle rfl).start_le hreading
          rw [Option.some.inj hresume] at hcourse hnext
          have hwrites : pool.writes s.reading? crew (.resume index oracle) =
              (next (oracle 0 query)).writes s.reading? oracle none ⟨pool.shared, seat.own⟩ 1 := by
            simp only [writes, hseated, hstanding]
          rw [hwrites]
          have hindex := (List.getElem?_eq_some_iff.mp hseated).1
          exact ⟨_, .course hlast hcourse, hshadowed.moved hindex hnext _⟩
  | disturb update =>
      cases hstep
      exact ⟨notes, .disturbed update, hshadowed.seated, hshadowed.free⟩

end Pool

end LLMRouting.Interaction
