/-
# Pledges of cooperative tasks

A pledge says what a task shows whenever it gives up the floor, which may depend on the
question it asks, and what it counts on when the floor is given back, which may depend on
the reply as well. What the others do in between is a drift: it takes nothing from what was
shown, and it may come before any resumption. Tasks whose writes are a drift to each other
keep their pledges in every interleaving.
-/

import LLMRouting.Interaction.Interleaving

namespace LLMRouting.Interaction

/-- What a task shows when it is parked and when it is at rest, what its writes guarantee,
and what it counts on when a question is answered. -/
structure Pledge (I : Interface) (σ : Type) where
  drift : σ → σ → Prop
  guar : σ → σ → Prop
  parks : I.Query → σ → Prop
  resumes : (query : I.Query) → I.Reply query → σ → σ → Prop
  rests : σ → Prop
  parks_drift : ∀ {query m m'}, parks query m → drift m m' → parks query m'
  resumes_drift : ∀ {query} {reply : I.Reply query} {m m' m''}, drift m m' →
    resumes query reply m' m'' → resumes query reply m m''
  rests_drift : ∀ {m m'}, rests m → drift m m' → rests m'

namespace Coro

variable {I : Interface} {σ ε ε' α β : Type} {p : Pledge I σ}

/-- Started in `m`, the task keeps its pledge, and it ends in a memory and with an outcome
that satisfy `post`. -/
def keeps (p : Pledge I σ) : Coro I σ ε α → (σ → Except ε α → Prop) → σ → Prop
  | .pure value, post, m => post m (.ok value)
  | .raise error, post, m => post m (.error error)
  | .read next, post, m => (next m).keeps p post m
  | .write update next, post, m => p.guar m (update m) ∧ next.keeps p post (update m)
  | .call query next, post, m =>
      if I.suspends query then
        p.parks query m ∧ ∀ reply m', p.resumes query reply m m' → (next reply).keeps p post m'
      else ∀ reply, (next reply).keeps p post m

section Rules

variable {post post' : σ → Except ε α → Prop} {m : σ}

theorem keeps_mono {task : Coro I σ ε α} (h : task.keeps p post m)
    (himp : ∀ m' out, post m' out → post' m' out) : task.keeps p post' m := by
  induction task generalizing m with
  | pure value => exact himp m (.ok value) h
  | raise error => exact himp m (.error error) h
  | read next ih => exact ih m h
  | write update next ih => exact ⟨h.1, ih h.2⟩
  | call query next ih =>
      rw [keeps] at h ⊢
      by_cases hsuspends : I.suspends query
      · rw [if_pos hsuspends] at h ⊢
        exact ⟨h.1, fun reply m' hm' => ih reply (h.2 reply m' hm')⟩
      · rw [if_neg hsuspends] at h ⊢
        exact fun reply => ih reply (h reply)

/-- First the task keeps the pledge, and then its continuation. -/
theorem keeps_seq {task : Coro I σ ε α} {onValue : α → Coro I σ ε' β} {onError : ε → Coro I σ ε' β}
    {post : σ → Except ε' β → Prop}
    (h : task.keeps p (fun m' out =>
      match out with
      | .ok value => (onValue value).keeps p post m'
      | .error error => (onError error).keeps p post m') m) :
    (task.seq onValue onError).keeps p post m := by
  induction task generalizing m with
  | pure value => exact h
  | raise error => exact h
  | read next ih => exact ih m h
  | write update next ih => exact ⟨h.1, ih h.2⟩
  | call query next ih =>
      rw [keeps] at h
      rw [seq, keeps]
      by_cases hsuspends : I.suspends query
      · rw [if_pos hsuspends] at h ⊢
        exact ⟨h.1, fun reply m' hm' => ih reply (h.2 reply m' hm')⟩
      · rw [if_neg hsuspends] at h ⊢
        exact fun reply => ih reply (h reply)

/-- A task and then the rest, which begins in what the task establishes. -/
theorem keeps_bind {task : Coro I σ ε α} {next : α → Coro I σ ε β}
    {post : σ → Except ε α → Prop} {post' : σ → Except ε β → Prop} (h : task.keeps p post m)
    (hnext : ∀ value m', post m' (.ok value) → (next value).keeps p post' m')
    (hraised : ∀ error m', post m' (.error error) → post' m' (.error error)) :
    (task >>= next).keeps p post' m := by
  show (task.seq next .raise).keeps p post' m
  apply keeps_seq
  apply keeps_mono h
  intro m' out hout
  cases out with
  | ok value => exact hnext value m' hout
  | error error => exact hraised error m' hout

theorem keeps_attempt {task : Coro I σ ε α} {post : σ → Except ε' (Except ε α) → Prop}
    (h : task.keeps p (fun m' out => post m' (.ok out)) m) : task.attempt.keeps p post m := by
  apply keeps_seq
  apply keeps_mono h
  intro m' out hout
  cases out with
  | ok value => exact hout
  | error error => exact hout

/-- A write, and then the rest. -/
theorem keeps_modify_bind {update : σ → σ} {next : Unit → Coro I σ ε α}
    (hguar : p.guar m (update m)) (h : (next ()).keeps p post (update m)) :
    (Coro.modify update >>= next).keeps p post m :=
  ⟨hguar, h⟩

/-- A look at the memory, and then the rest. -/
theorem keeps_get_bind {next : σ → Coro I σ ε α} (h : (next m).keeps p post m) :
    (Coro.get >>= next).keeps p post m :=
  h

/-- A question that gives up the floor, and then the rest. -/
theorem keeps_ask_bind {query : I.Query} {next : I.Reply query → Coro I σ ε α}
    (hsuspends : I.suspends query = true) (hparks : p.parks query m)
    (h : ∀ reply m', p.resumes query reply m m' → (next reply).keeps p post m') :
    (Coro.ask query >>= next).keeps p post m := by
  show (Coro.call query next).keeps p post m
  rw [keeps, if_pos hsuspends]
  exact ⟨hparks, h⟩

/-- A question that is answered on the spot, and then the rest. -/
theorem keeps_ask_bind_local {query : I.Query} {next : I.Reply query → Coro I σ ε α}
    (hlocal : I.suspends query = false) (h : ∀ reply, (next reply).keeps p post m) :
    (Coro.ask query >>= next).keeps p post m := by
  show (Coro.call query next).keeps p post m
  rw [keeps, if_neg (by rw [hlocal]; exact Bool.false_ne_true)]
  exact h

end Rules

end Coro

variable {I : Interface} {σ ρ ε α κ : Type}

/-- What a task without the floor owes its pledge. -/
def Standing.keeps (p : Pledge I σ) (m : σ) : Standing I σ ε α → Prop
  | .parked query next => p.parks query m ∧ ∀ reply m', p.resumes query reply m m' →
      (next reply).keeps p (fun m _ => p.rests m) m'
  | .ended _ => p.rests m

/-- After one stretch a task stands by its pledge, and the stretch made only guaranteed
changes. -/
theorem Coro.keeps_advance {p : Pledge I σ} {task : Coro I σ ε α} {m : σ}
    (h : task.keeps p (fun m _ => p.rests m) m) (oracle : Coro.Oracle I) (index : ℕ) :
    (task.advance oracle m index).1.keeps p (task.advance oracle m index).2 ∧
      Relation.ReflTransGen p.guar m (task.advance oracle m index).2 := by
  induction task generalizing m index with
  | pure value => exact ⟨h, .refl⟩
  | raise error => exact ⟨h, .refl⟩
  | read next ih => exact ih m h index
  | write update next ih =>
      obtain ⟨hkeeps, hguar⟩ := ih h.2 index
      exact ⟨hkeeps, .head h.1 hguar⟩
  | call query next ih =>
      rw [keeps] at h
      rw [advance]
      by_cases hsuspends : I.suspends query
      · rw [if_pos hsuspends] at h ⊢
        exact ⟨h, .refl⟩
      · rw [if_neg hsuspends] at h ⊢
        exact ih _ (h (oracle index query)) (index + 1)

/-- What a task without the floor owes its pledge survives what the others do. -/
theorem Standing.keeps_drift {p : Pledge I σ} {m m' : σ} {standing : Standing I σ ε α}
    (h : standing.keeps p m) (hdrift : p.drift m m') : standing.keeps p m' := by
  cases standing with
  | ended out => exact p.rests_drift h hdrift
  | parked query next =>
      refine ⟨p.parks_drift h.1 hdrift, ?_⟩
      intro reply m'' hresumes
      exact h.2 reply m'' (p.resumes_drift hdrift hresumes)

/-- The task a move starts. -/
def Move.started : Move I σ κ → List κ
  | .start label _ => [label]
  | .resume _ _ | .disturb _ => []

namespace Pool

variable {crew : Crew I σ ρ ε α κ} {pledge : κ → Pledge I (Mem σ ρ)}
  {pool pool' : Pool I σ ρ ε α κ} {move : Move I σ κ}

/-- Seats are taken in the order of the starts, and never given up. -/
theorem labels_of_step (h : pool.step crew move = some pool') :
    pool'.seats.map Seat.label = pool.seats.map Seat.label ++ move.started := by
  cases move with
  | start label oracle =>
      cases h
      simp [Move.started]
  | resume index oracle =>
      obtain ⟨seat, hseated, h⟩ := Option.bind_eq_some_iff.mp h
      obtain ⟨⟨standing, m⟩, -, h⟩ := Option.map_eq_some_iff.mp h
      cases h
      have hlabel : (pool.seats.map Seat.label)[index]? = some seat.label := by
        rw [List.getElem?_map, hseated, Option.map_some]
      obtain ⟨_, hget⟩ := List.getElem?_eq_some_iff.mp hlabel
      show (pool.seats.set index ⟨seat.label, m.own, standing⟩).map Seat.label = _ ++ []
      rw [List.map_set, List.append_nil, ← hget, List.set_getElem_self]
  | disturb update =>
      cases h
      exact (List.append_nil _).symm

/-- Every task in a seat stands by its pledge. -/
def Kept (pledge : κ → Pledge I (Mem σ ρ)) (pool : Pool I σ ρ ε α κ) : Prop :=
  ∀ (index : ℕ) (seat : Seat I σ ρ ε α κ), pool.seats[index]? = some seat →
    seat.standing.keeps (pledge seat.label) ⟨pool.shared, seat.own⟩

/-- The move gives the floor to a task that keeps its pledge from here. -/
def Admits (crew : Crew I σ ρ ε α κ) (pledge : κ → Pledge I (Mem σ ρ))
    (pool : Pool I σ ρ ε α κ) : Move I σ κ → Prop
  | .start label _ => (crew.program label).keeps (pledge label) (fun m _ => (pledge label).rests m)
      ⟨pool.shared, crew.initial label⟩
  | .resume index oracle => ∀ seat query next, pool.seats[index]? = some seat →
      seat.standing = .parked query next →
        (pledge seat.label).resumes query (oracle 0 query) ⟨pool.shared, seat.own⟩
          ⟨pool.shared, seat.own⟩
  | .disturb _ => True

/-- What a move does to the shared memory under the pledge of the task that has the floor. -/
inductive Shift (crew : Crew I σ ρ ε α κ) (pledge : κ → Pledge I (Mem σ ρ))
    (pool : Pool I σ ρ ε α κ) : Move I σ κ → σ → Prop
  | started {label : κ} {oracle : Coro.Oracle I} {m : Mem σ ρ}
      (guaranteed : Relation.ReflTransGen (pledge label).guar
        ⟨pool.shared, crew.initial label⟩ m) :
      Shift crew pledge pool (.start label oracle) m.shared
  | resumed {index : ℕ} {oracle : Coro.Oracle I} {seat : Seat I σ ρ ε α κ} {m : Mem σ ρ}
      (seated : pool.seats[index]? = some seat)
      (guaranteed : Relation.ReflTransGen (pledge seat.label).guar ⟨pool.shared, seat.own⟩ m) :
      Shift crew pledge pool (.resume index oracle) m.shared
  | disturbed {update : σ → σ} : Shift crew pledge pool (.disturb update) (update pool.shared)

/-- The move gives the floor to the task in this seat. -/
def Addresses (move : Move I σ κ) (index : ℕ) : Prop :=
  ∃ oracle, move = .resume index oracle

/-- The rule of one move: pledges are kept if what the move does to the shared memory is a
drift to every task but the one that has the floor. -/
theorem Kept.step (hkept : pool.Kept pledge) (hadmits : Admits crew pledge pool move)
    (hdrift : ∀ index seat shared, pool.seats[index]? = some seat → ¬ Addresses move index →
      Shift crew pledge pool move shared →
        (pledge seat.label).drift ⟨pool.shared, seat.own⟩ ⟨shared, seat.own⟩)
    (h : pool.step crew move = some pool') : pool'.Kept pledge := by
  cases move with
  | start label oracle =>
      cases h
      obtain ⟨hstands, hguar⟩ := Coro.keeps_advance hadmits oracle 0
      intro index seat hseat
      by_cases hold : index < pool.seats.length
      · rw [List.getElem?_append_left hold] at hseat
        apply Standing.keeps_drift (hkept index seat hseat)
        exact hdrift index seat _ hseat (fun ⟨_, hmove⟩ => by cases hmove) (.started hguar)
      · rw [List.getElem?_append_right (Nat.le_of_not_lt hold), List.getElem?_singleton] at hseat
        obtain ⟨-, hseat⟩ := Option.ite_none_right_eq_some.mp hseat
        cases hseat
        exact hstands
  | resume index oracle =>
      obtain ⟨seat, hseated, h⟩ := Option.bind_eq_some_iff.mp h
      obtain ⟨⟨standing, m⟩, hresume, h⟩ := Option.map_eq_some_iff.mp h
      cases h
      rw [Seat.resume] at hresume
      have hstands := hkept index seat hseated
      cases hstanding : seat.standing with
      | ended out =>
          rw [hstanding] at hresume
          cases hresume
      | parked query next =>
          rw [hstanding] at hresume hstands
          have hresumes := hadmits seat query next hseated hstanding
          have hadvance := Coro.keeps_advance (hstands.2 (oracle 0 query) _ hresumes) oracle 1
          rw [Option.some.inj hresume] at hadvance
          intro other seat' hseat'
          rw [List.getElem?_set] at hseat'
          by_cases hsame : index = other
          · rw [if_pos hsame] at hseat'
            obtain ⟨-, hseat'⟩ := Option.ite_none_right_eq_some.mp hseat'
            cases hseat'
            exact hadvance.1
          · rw [if_neg hsame] at hseat'
            apply Standing.keeps_drift (hkept other seat' hseat')
            apply hdrift other seat' _ hseat' _ (.resumed hseated hadvance.2)
            intro haddresses
            obtain ⟨_, hmove⟩ := haddresses
            cases hmove
            exact hsame rfl
  | disturb update =>
      cases h
      intro index seat hseat
      apply Standing.keeps_drift (hkept index seat hseat)
      exact hdrift index seat _ hseat (fun ⟨_, hmove⟩ => by cases hmove) .disturbed

end Pool

end LLMRouting.Interaction
