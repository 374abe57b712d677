/-
# Interleavings of cooperative tasks

Several tasks share one memory. Each runs without interruption from one suspension to the
next; in between any other may run, and the surroundings may change the shared part. A task
that keeps a contract relying on nothing but its own memory keeps it in every interleaving,
and each of its stretches changes the memory only as the contract guarantees.
-/

import LLMRouting.Interaction.RelyGuarantee
import LLMRouting.Interaction.Transition

namespace LLMRouting.Interaction

/-- Where a task stands when it does not have the floor. -/
inductive Standing (I : Interface) (σ ε α : Type)
  | parked (query : I.Query) (next : I.Reply query → Coro I σ ε α)
  | ended (out : Except ε α)

namespace Coro

variable {I : Interface} {σ ε α : Type}

/-- Run a task to its next suspension or to its end, with the oracle's answers to the
questions that do not suspend it. -/
def advance (oracle : Oracle I) : Coro I σ ε α → σ → ℕ → Standing I σ ε α × σ
  | .pure value, memory, _ => (.ended (.ok value), memory)
  | .raise error, memory, _ => (.ended (.error error), memory)
  | .read next, memory, index => (next memory).advance oracle memory index
  | .write update next, memory, index => next.advance oracle (update memory) index
  | .call query next, memory, index =>
      if I.suspends query then (.parked query next, memory)
      else (next (oracle index query)).advance oracle memory (index + 1)

variable {c : Contract σ} {post : List (Event I σ) → σ → Except ε α → Prop}

/-- One stretch of a task makes only guaranteed changes. -/
theorem guar_advance {task : Coro I σ ε α} {m : σ} (h : task.wp c post m) (oracle : Oracle I)
    (index : ℕ) : Relation.ReflTransGen c.guar m (task.advance oracle m index).2 := by
  induction task generalizing m post index with
  | pure value => exact .refl
  | raise error => exact .refl
  | read next ih => exact ih m h index
  | write update next ih => exact .head h.1 (ih h.2 index)
  | call query next ih =>
      rw [advance]
      by_cases hsuspends : I.suspends query
      · rw [if_pos hsuspends]
      · rw [if_neg hsuspends]
        have hreply : Resumes c.rely query m m := by
          rw [Resumes, if_neg hsuspends]
        exact ih _ (h.2 _ m hreply) (index + 1)

/-- After one stretch a task is ended, or it is ready to be resumed under its contract. -/
theorem wp_advance {task : Coro I σ ε α} {m : σ} (h : task.wp c post m) (oracle : Oracle I)
    (index : ℕ) {query : I.Query} {next : I.Reply query → Coro I σ ε α}
    (hparked : (task.advance oracle m index).1 = .parked query next) :
    c.pause (task.advance oracle m index).2 ∧ ∀ reply m',
      c.rely (task.advance oracle m index).2 m' →
        (next reply).wp c (fun _ _ _ => True) m' := by
  induction task generalizing m post index with
  | pure value => cases hparked
  | raise error => cases hparked
  | read next ih => exact ih m h index hparked
  | write update next ih => exact ih h.2 index hparked
  | call asked next ih =>
      unfold advance at hparked ⊢
      by_cases hsuspends : I.suspends asked
      · rw [if_pos hsuspends] at hparked ⊢
        cases hparked
        refine ⟨h.1 hsuspends, ?_⟩
        intro reply m' hrely
        have hresumes : Resumes c.rely query m m' := by
          rwa [Resumes, if_pos hsuspends]
        exact wp_mono (h.2 reply m' hresumes) fun _ _ _ _ => trivial
      · rw [if_neg hsuspends] at hparked ⊢
        have hreply : Resumes c.rely asked m m := by
          rw [Resumes, if_neg hsuspends]
        exact ih _ (h.2 _ m hreply) (index + 1) hparked

/-- The first stretch of a task that ends in a suspension, seen in an undisturbed run: the
question it is parked on is the first one that suspends. -/
theorem eval_of_parked (oracle : Oracle I) {task : Coro I σ ε α} {m : σ} {index : ℕ}
    {query : I.Query} {next : I.Reply query → Coro I σ ε α}
    (hparked : (task.advance oracle m index).1 = .parked query next) :
    ∃ before reply rest, (∀ event ∈ before, I.suspends event.query = false) ∧
      I.suspends query = true ∧ (task.eval oracle m index).1 =
        before ++ ⟨query, (task.advance oracle m index).2, reply⟩ :: rest := by
  induction task generalizing m index with
  | pure value => cases hparked
  | raise error => cases hparked
  | read next ih => exact ih m hparked
  | write update next ih => exact ih hparked
  | call asked next ih =>
      unfold advance at hparked ⊢
      by_cases hsuspends : I.suspends asked
      · rw [if_pos hsuspends] at hparked ⊢
        cases hparked
        exact ⟨[], oracle index query, _, List.forall_mem_nil _, hsuspends, rfl⟩
      · rw [if_neg hsuspends] at hparked ⊢
        obtain ⟨before, reply, rest, hbefore, hquery, htrace⟩ := ih _ hparked
        refine ⟨⟨asked, m, oracle index asked⟩ :: before, reply, rest, ?_, hquery, ?_⟩
        · exact List.forall_mem_cons.mpr ⟨by simpa using hsuspends, hbefore⟩
        · exact congrArg _ htrace

/-- A task that ends without suspending is not disturbed at all. -/
theorem eval_of_ended (oracle : Oracle I) {task : Coro I σ ε α} {m : σ} {index : ℕ}
    {out : Except ε α} (hended : (task.advance oracle m index).1 = .ended out) :
    (∀ event ∈ (task.eval oracle m index).1, I.suspends event.query = false) ∧
      (task.eval oracle m index).2 = ((task.advance oracle m index).2, out) := by
  induction task generalizing m index with
  | pure value =>
      cases hended
      exact ⟨List.forall_mem_nil _, rfl⟩
  | raise error =>
      cases hended
      exact ⟨List.forall_mem_nil _, rfl⟩
  | read next ih => exact ih m hended
  | write update next ih => exact ih hended
  | call asked next ih =>
      unfold advance at hended ⊢
      by_cases hsuspends : I.suspends asked
      · rw [if_pos hsuspends] at hended
        cases hended
      · rw [if_neg hsuspends] at hended ⊢
        obtain ⟨hlocal, hfinal⟩ := ih _ hended
        exact ⟨List.forall_mem_cons.mpr ⟨by simpa using hsuspends, hlocal⟩, hfinal⟩

end Coro

section Pool

variable {I : Interface} {σ ρ ε α κ : Type}

/-- The programs of tasks of one kind, and the memory each starts with of its own. -/
structure Crew (I : Interface) (σ ρ ε α κ : Type) where
  program : κ → Coro I (Mem σ ρ) ε α
  initial : κ → ρ

/-- A task that has been started. -/
structure Seat (I : Interface) (σ ρ ε α κ : Type) where
  label : κ
  own : ρ
  standing : Standing I (Mem σ ρ) ε α

structure Pool (I : Interface) (σ ρ ε α κ : Type) where
  shared : σ
  seats : List (Seat I σ ρ ε α κ)

/-- Who has the floor next. The oracle's first answer is the one a parked task waits for. -/
inductive Move (I : Interface) (σ κ : Type)
  | start (label : κ) (oracle : Coro.Oracle I)
  | resume (index : ℕ) (oracle : Coro.Oracle I)
  | disturb (update : σ → σ)

/-- The next stretch of a started task; `none` if it has ended. -/
def Seat.resume (seat : Seat I σ ρ ε α κ) (shared : σ) (oracle : Coro.Oracle I) :
    Option (Standing I (Mem σ ρ) ε α × Mem σ ρ) :=
  match seat.standing with
  | .parked query next => some ((next (oracle 0 query)).advance oracle ⟨shared, seat.own⟩ 1)
  | .ended _ => none

namespace Pool

/-- One stretch of one task, or a change from outside. -/
def step (crew : Crew I σ ρ ε α κ) (pool : Pool I σ ρ ε α κ) :
    Move I σ κ → Option (Pool I σ ρ ε α κ)
  | .start label oracle =>
      let (standing, m) := (crew.program label).advance oracle ⟨pool.shared, crew.initial label⟩ 0
      some { shared := m.shared, seats := pool.seats ++ [⟨label, m.own, standing⟩] }
  | .resume index oracle =>
      pool.seats[index]?.bind fun seat =>
        (seat.resume pool.shared oracle).map fun (standing, m) =>
          { shared := m.shared, seats := pool.seats.set index ⟨seat.label, m.own, standing⟩ }
  | .disturb update => some { pool with shared := update pool.shared }

/-- Whoever waits in a seat keeps its contract, whatever has become of the shared memory. -/
def Keeps (contract : κ → Contract (Mem σ ρ)) (pool : Pool I σ ρ ε α κ) : Prop :=
  ∀ seat ∈ pool.seats, ∀ query next, seat.standing = .parked query next →
    (∃ shared, (contract seat.label).pause ⟨shared, seat.own⟩) ∧
      ∀ reply shared, (next reply).wp (contract seat.label) (fun _ _ _ => True) ⟨shared, seat.own⟩

/-- What one move can do to the shared memory under the tasks' contracts. -/
inductive Effect (crew : Crew I σ ρ ε α κ) (contract : κ → Contract (Mem σ ρ))
    (pool : Pool I σ ρ ε α κ) : Move I σ κ → σ → Prop
  | started {label : κ} {oracle : Coro.Oracle I} {m : Mem σ ρ}
      (guaranteed : Relation.ReflTransGen (contract label).guar
        ⟨pool.shared, crew.initial label⟩ m) :
      Effect crew contract pool (.start label oracle) m.shared
  | resumed {index : ℕ} {oracle : Coro.Oracle I} {seat : Seat I σ ρ ε α κ} {shared : σ}
      {m : Mem σ ρ} (seated : pool.seats[index]? = some seat)
      (paused : (contract seat.label).pause ⟨shared, seat.own⟩)
      (guaranteed : Relation.ReflTransGen (contract seat.label).guar ⟨pool.shared, seat.own⟩ m) :
      Effect crew contract pool (.resume index oracle) m.shared
  | disturbed {update : σ → σ} : Effect crew contract pool (.disturb update) (update pool.shared)

variable {crew : Crew I σ ρ ε α κ} {contract : κ → Contract (Mem σ ρ)}
  {pool pool' : Pool I σ ρ ε α κ} {move : Move I σ κ}

/-- The rule of one move: contracts are kept, and the shared memory changes accordingly. -/
theorem Keeps.step (hkeeps : pool.Keeps contract)
    (hprogram : ∀ label shared,
      (crew.program label).wp (contract label) (fun _ _ _ => True) ⟨shared, crew.initial label⟩)
    (hrely : ∀ label m m', m'.own = m.own → (contract label).rely m m')
    (h : pool.step crew move = some pool') :
    pool'.Keeps contract ∧ Effect crew contract pool move pool'.shared := by
  have hseat : ∀ {label : κ} {m : Mem σ ρ} {task : Coro I (Mem σ ρ) ε α} (oracle index),
      task.wp (contract label) (fun _ _ _ => True) m → ∀ query next,
        (task.advance oracle m index).1 = .parked query next →
          (∃ shared, (contract label).pause ⟨shared, (task.advance oracle m index).2.own⟩) ∧
            ∀ reply shared, (next reply).wp (contract label) (fun _ _ _ => True)
              ⟨shared, (task.advance oracle m index).2.own⟩ := by
    intro label m task oracle index hwp query next hparked
    obtain ⟨hpause, hresume⟩ := Coro.wp_advance hwp oracle index hparked
    exact ⟨⟨_, hpause⟩, fun reply shared => hresume reply _ (hrely label _ _ rfl)⟩
  cases move with
  | start label oracle =>
      cases h
      refine ⟨?_, .started (Coro.guar_advance (hprogram label pool.shared) oracle 0)⟩
      intro seat hmem
      rcases List.mem_append.mp hmem with hold | hnew
      · exact hkeeps seat hold
      · rw [List.mem_singleton.mp hnew]
        exact hseat oracle 0 (hprogram label pool.shared)
  | resume index oracle =>
      obtain ⟨seat, hseated, h⟩ := Option.bind_eq_some_iff.mp h
      obtain ⟨⟨standing, m⟩, hresume, h⟩ := Option.map_eq_some_iff.mp h
      cases h
      unfold Seat.resume at hresume
      cases hstanding : seat.standing with
      | ended out =>
          rw [hstanding] at hresume
          cases hresume
      | parked query next =>
          rw [hstanding] at hresume
          obtain ⟨⟨shared, hpause⟩, hnext⟩ :=
            hkeeps seat (List.mem_of_getElem? hseated) query next hstanding
          have hwp := hnext (oracle 0 query) pool.shared
          have hadvance := Option.some.inj hresume
          have hguar := Coro.guar_advance hwp oracle 1
          rw [hadvance] at hguar
          refine ⟨?_, .resumed hseated hpause hguar⟩
          intro other hmem
          rcases List.mem_or_eq_of_mem_set hmem with hold | rfl
          · exact hkeeps other hold
          · have hparked := hseat oracle 1 hwp
            rw [hadvance] at hparked
            exact hparked
  | disturb update =>
      cases h
      exact ⟨hkeeps, .disturbed⟩

end Pool

end Pool

end LLMRouting.Interaction
