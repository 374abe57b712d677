/-
# Histories of tasks

In an interleaving a task runs in stretches, and between two of them the others change what it
shares with them. Its history is what it was started in, what it has asked and been told, and the
memory it gave up the floor in. If whatever happens while a task waits changes the shared part
within a preorder, the history of the task is a run of its program, with surroundings that stay
within that preorder. What holds of every such run then holds of the task in the interleaving.
-/

import LLMRouting.Interaction.Interleaving

namespace LLMRouting.Interaction

variable {I : Interface} {σ ρ ε α κ : Type}

namespace Coro

/-- A run as far as it has come: the questions that have been answered, where the task stands, and
the memory it has left behind. -/
inductive Reaches (rely : σ → σ → Prop) :
    Coro I σ ε α → σ → List (Event I σ) → Standing I σ ε α → σ → Prop
  | pure (value : α) (memory : σ) : Reaches rely (.pure value) memory [] (.ended (.ok value)) memory
  | raise (error : ε) (memory : σ) :
      Reaches rely (.raise error) memory [] (.ended (.error error)) memory
  | read {next : σ → Coro I σ ε α} {memory final : σ} {trace : List (Event I σ)}
      {standing : Standing I σ ε α}
      (rest : Reaches rely (next memory) memory trace standing final) :
      Reaches rely (.read next) memory trace standing final
  | write {update : σ → σ} {next : Coro I σ ε α} {memory final : σ} {trace : List (Event I σ)}
      {standing : Standing I σ ε α}
      (rest : Reaches rely next (update memory) trace standing final) :
      Reaches rely (.write update next) memory trace standing final
  | parked {query : I.Query} (suspends : I.suspends query = true)
      (next : I.Reply query → Coro I σ ε α) (memory : σ) :
      Reaches rely (.call query next) memory [] (.parked query next) memory
  | call {query : I.Query} {next : I.Reply query → Coro I σ ε α} {memory resumed final : σ}
      {trace : List (Event I σ)} {standing : Standing I σ ε α} (reply : I.Reply query)
      (surroundings : Resumes rely query memory resumed)
      (rest : Reaches rely (next reply) resumed trace standing final) :
      Reaches rely (.call query next) memory (⟨query, memory, reply⟩ :: trace) standing final

variable {rely : σ → σ → Prop} {task : Coro I σ ε α} {m m₁ m₂ m' : σ} {trace : List (Event I σ)}

/-- A run that has come to an end. -/
theorem Reaches.run {out : Except ε α} (h : Reaches rely task m trace (.ended out) m') :
    Run rely task m trace m' out := by
  generalize hstanding : Standing.ended out = standing at h
  induction h with
  | pure value memory =>
      cases hstanding
      exact .pure value memory
  | raise error memory =>
      cases hstanding
      exact .raise error memory
  | read _ ih => exact .read (ih hstanding)
  | write _ ih => exact .write (ih hstanding)
  | parked suspends next memory => cases hstanding
  | call reply surroundings _ ih => exact .call reply surroundings (ih hstanding)

/-- A task that is parked goes on from there. -/
theorem Reaches.resume {query : I.Query} {next : I.Reply query → Coro I σ ε α}
    {later : List (Event I σ)} {standing : Standing I σ ε α}
    (h : Reaches rely task m trace (.parked query next) m₁) (reply : I.Reply query)
    (hrely : rely m₁ m₂) (hlater : Reaches rely (next reply) m₂ later standing m') :
    Reaches rely task m (trace ++ ⟨query, m₁, reply⟩ :: later) standing m' := by
  generalize hstanding : Standing.parked query next = parked at h
  induction h with
  | pure value memory | raise error memory => cases hstanding
  | read _ ih => exact .read (ih hrely hstanding)
  | write _ ih => exact .write (ih hrely hstanding)
  | parked suspends next memory =>
      cases hstanding
      have hresumes : Resumes rely query memory m₂ := by
        rwa [Resumes, if_pos suspends]
      exact .call reply hresumes hlater
  | call reply surroundings _ ih => exact .call reply surroundings (ih hrely hstanding)

/-- The questions of one stretch, which are answered on the spot. -/
def answered (oracle : Oracle I) : Coro I σ ε α → σ → ℕ → List (Event I σ)
  | .pure _, _, _ | .raise _, _, _ => []
  | .read next, memory, index => (next memory).answered oracle memory index
  | .write update next, memory, index => next.answered oracle (update memory) index
  | .call query next, memory, index =>
      if I.suspends query then []
      else ⟨query, memory, oracle index query⟩ ::
        (next (oracle index query)).answered oracle memory (index + 1)

/-- One stretch is an undisturbed part of a run. -/
theorem reaches_advance (oracle : Oracle I) (task : Coro I σ ε α) (m : σ) (index : ℕ) :
    Reaches rely task m (task.answered oracle m index) (task.advance oracle m index).1
      (task.advance oracle m index).2 := by
  induction task generalizing m index with
  | pure value => exact .pure value m
  | raise error => exact .raise error m
  | read next ih => exact .read (ih m m index)
  | write update next ih => exact .write (ih (update m) index)
  | call query next ih =>
      rw [answered, advance]
      by_cases hsuspends : I.suspends query
      · rw [if_pos hsuspends, if_pos hsuspends]
        exact .parked hsuspends next m
      · rw [if_neg hsuspends, if_neg hsuspends]
        have hresumes : Resumes rely query m m := by
          rw [Resumes, if_neg hsuspends]
        exact .call _ hresumes (ih _ m (index + 1))

end Coro

/-- What the others do to a task's memory, if they change the shared part within a relation. -/
structure Drifts (R : σ → σ → Prop) (m m' : Mem σ ρ) : Prop where
  own : m'.own = m.own
  shared : R m.shared m'.shared

/-- What has become of a task: the memory it was started in, the questions it has been answered,
and the memory it has given up the floor in. -/
structure Past (I : Interface) (σ : Type) where
  started : σ
  trace : List (Event I σ)
  parked : σ

/-- Tasks with their pasts. -/
structure Annals (I : Interface) (σ ρ ε α κ : Type) where
  pool : Pool I σ ρ ε α κ
  pasts : List (Past I (Mem σ ρ))

namespace Annals

variable {crew : Crew I σ ρ ε α κ} {annals annals' : Annals I σ ρ ε α κ} {move : Move I σ κ}

/-- The past of a task after its first stretch. -/
def begun (crew : Crew I σ ρ ε α κ) (shared : σ) (label : κ) (oracle : Coro.Oracle I) :
    Past I (Mem σ ρ) where
  started := ⟨shared, crew.initial label⟩
  trace := (crew.program label).answered oracle ⟨shared, crew.initial label⟩ 0
  parked := ((crew.program label).advance oracle ⟨shared, crew.initial label⟩ 0).2

/-- The past of a task after a further stretch. -/
def continued (seat : Seat I σ ρ ε α κ) (shared : σ) (oracle : Coro.Oracle I)
    (past : Past I (Mem σ ρ)) : Past I (Mem σ ρ) :=
  match seat.standing with
  | .ended _ => past
  | .parked query next =>
      { past with
        trace := past.trace ++ ⟨query, past.parked, oracle 0 query⟩ ::
          (next (oracle 0 query)).answered oracle ⟨shared, seat.own⟩ 1
        parked := ((next (oracle 0 query)).advance oracle ⟨shared, seat.own⟩ 1).2 }

/-- What a move adds to the pasts. -/
def told (crew : Crew I σ ρ ε α κ) (annals : Annals I σ ρ ε α κ) :
    Move I σ κ → List (Past I (Mem σ ρ))
  | .start label oracle => annals.pasts ++ [begun crew annals.pool.shared label oracle]
  | .resume index oracle =>
      match annals.pool.seats[index]? with
      | some seat => annals.pasts.modify index (continued seat annals.pool.shared oracle)
      | none => annals.pasts
  | .disturb _ => annals.pasts

/-- A move of the pool, with what it adds to the pasts. -/
def step (crew : Crew I σ ρ ε α κ) (annals : Annals I σ ρ ε α κ) (move : Move I σ κ) :
    Option (Annals I σ ρ ε α κ) :=
  (annals.pool.step crew move).map fun pool => ⟨pool, annals.told crew move⟩

/-- The past of a task is a part of a run of it, and the shared memory has drifted since. -/
structure Tells (crew : Crew I σ ρ ε α κ) (R : κ → σ → σ → Prop) (shared : σ)
    (seat : Seat I σ ρ ε α κ) (past : Past I (Mem σ ρ)) : Prop where
  started : past.started.own = crew.initial seat.label
  reaches : Coro.Reaches (Drifts (R seat.label)) (crew.program seat.label) past.started past.trace
    seat.standing past.parked
  parked : past.parked.own = seat.own
  drifted : ∀ query next, seat.standing = .parked query next →
    R seat.label past.parked.shared shared

/-- Every task has a past that tells what it did. -/
structure Faithful (crew : Crew I σ ρ ε α κ) (R : κ → σ → σ → Prop)
    (annals : Annals I σ ρ ε α κ) : Prop where
  length_eq : annals.pasts.length = annals.pool.seats.length
  tells : ∀ (index : ℕ) (seat : Seat I σ ρ ε α κ) (past : Past I (Mem σ ρ)),
    annals.pool.seats[index]? = some seat → annals.pasts[index]? = some past →
      Tells crew R annals.pool.shared seat past

section Rules

variable {R : κ → σ → σ → Prop} {shared shared' : σ} {seat : Seat I σ ρ ε α κ}
  {past : Past I (Mem σ ρ)}

theorem Tells.drift (h : Tells crew R shared seat past)
    (htrans : ∀ first second third, R seat.label first second → R seat.label second third →
      R seat.label first third)
    (hdrift : ∀ query next, seat.standing = .parked query next → R seat.label shared shared') :
    Tells crew R shared' seat past where
  started := h.started
  reaches := h.reaches
  parked := h.parked
  drifted query next hparked :=
    htrans _ _ _ (h.drifted query next hparked) (hdrift query next hparked)

theorem tells_begun (hrefl : ∀ label shared, R label shared shared) (label : κ)
    (oracle : Coro.Oracle I) :
    Tells crew R ((crew.program label).advance oracle ⟨shared, crew.initial label⟩ 0).2.shared
      ⟨label, ((crew.program label).advance oracle ⟨shared, crew.initial label⟩ 0).2.own,
        ((crew.program label).advance oracle ⟨shared, crew.initial label⟩ 0).1⟩
      (begun crew shared label oracle) where
  started := rfl
  reaches := Coro.reaches_advance oracle _ _ 0
  parked := rfl
  drifted _ _ _ := hrefl label _

theorem Tells.continued {query : I.Query} {next : I.Reply query → Coro I (Mem σ ρ) ε α}
    (h : Tells crew R shared seat past) (hrefl : ∀ label shared, R label shared shared)
    (hparked : seat.standing = .parked query next) (oracle : Coro.Oracle I) :
    Tells crew R ((next (oracle 0 query)).advance oracle ⟨shared, seat.own⟩ 1).2.shared
      ⟨seat.label, ((next (oracle 0 query)).advance oracle ⟨shared, seat.own⟩ 1).2.own,
        ((next (oracle 0 query)).advance oracle ⟨shared, seat.own⟩ 1).1⟩
      (Annals.continued seat shared oracle past) := by
  have hreaches := h.reaches
  have hdrifted := h.drifted query next hparked
  rw [hparked] at hreaches
  simp only [Annals.continued, hparked]
  exact
    { started := h.started
      reaches := hreaches.resume (oracle 0 query) ⟨h.parked.symm, hdrifted⟩
        (Coro.reaches_advance oracle _ _ 1)
      parked := rfl
      drifted := fun _ _ _ => hrefl seat.label _ }

/-- The rule of one move that keeps within the relations of the tasks that wait meanwhile. -/
theorem Faithful.step (hfaithful : annals.Faithful crew R)
    (hrefl : ∀ label shared, R label shared shared)
    (htrans : ∀ label first second third, R label first second → R label second third →
      R label first third)
    (h : annals.step crew move = some annals')
    (hshift : ∀ index seat query next, annals.pool.seats[index]? = some seat →
      seat.standing = .parked query next → (∀ oracle, move ≠ .resume index oracle) →
        R seat.label annals.pool.shared annals'.pool.shared) : annals'.Faithful crew R := by
  obtain ⟨pool, hpool, rfl⟩ := Option.map_eq_some_iff.mp h
  have hlength := hfaithful.length_eq
  cases move with
  | start label oracle =>
      cases hpool
      refine ⟨by simp [told, hlength], ?_⟩
      intro index seat past hseat hpast
      by_cases hold : index < annals.pool.seats.length
      · rw [List.getElem?_append_left hold] at hseat
        rw [told, List.getElem?_append_left (hlength ▸ hold)] at hpast
        apply (hfaithful.tells index seat past hseat hpast).drift (htrans seat.label)
        exact fun query next hparked =>
          hshift index seat query next hseat hparked fun _ hmove => by cases hmove
      · rw [List.getElem?_append_right (Nat.le_of_not_lt hold), List.getElem?_singleton] at hseat
        rw [told, List.getElem?_append_right (hlength ▸ Nat.le_of_not_lt hold),
          List.getElem?_singleton] at hpast
        obtain ⟨-, hseat⟩ := Option.ite_none_right_eq_some.mp hseat
        obtain ⟨-, hpast⟩ := Option.ite_none_right_eq_some.mp hpast
        cases hseat
        cases hpast
        exact tells_begun hrefl label oracle
  | resume index oracle =>
      obtain ⟨seat, hseated, hpool⟩ := Option.bind_eq_some_iff.mp hpool
      obtain ⟨⟨standing, m⟩, hresume, hpool⟩ := Option.map_eq_some_iff.mp hpool
      cases hpool
      simp only [told, hseated]
      refine ⟨by simp [hlength], ?_⟩
      intro other seat' past hseat' hpast
      rw [List.getElem?_set] at hseat'
      rw [List.getElem?_modify] at hpast
      by_cases hsame : index = other
      · subst hsame
        simp only [if_true] at hseat' hpast
        obtain ⟨-, hseat'⟩ := Option.ite_none_right_eq_some.mp hseat'
        obtain ⟨before, hbefore, rfl⟩ := Option.map_eq_some_iff.mp hpast
        cases hseat'
        have htells := hfaithful.tells index seat before hseated hbefore
        rw [Seat.resume] at hresume
        cases hstanding : seat.standing with
        | ended out =>
            rw [hstanding] at hresume
            cases hresume
        | parked query next =>
            rw [hstanding] at hresume
            have hcontinued := htells.continued hrefl hstanding oracle
            rw [Option.some.inj hresume] at hcontinued
            exact hcontinued
      · simp only [if_neg hsame, id_map'] at hseat' hpast
        apply (hfaithful.tells other seat' past hseat' hpast).drift (htrans seat'.label)
        refine fun query next hparked => hshift other seat' query next hseat' hparked ?_
        rintro _ ⟨⟩
        exact hsame rfl
  | disturb update =>
      cases hpool
      refine ⟨hlength, ?_⟩
      intro index seat past hseat hpast
      apply (hfaithful.tells index seat past hseat hpast).drift (htrans seat.label)
      exact fun query next hparked =>
        hshift index seat query next hseat hparked fun _ hmove => by cases hmove

theorem faithful_empty : Faithful crew R ⟨⟨shared, []⟩, []⟩ where
  length_eq := rfl
  tells := by
    intro index seat past hseat
    cases hseat

/-- The past of a task that has ended is a run of its program. -/
theorem Tells.run {out : Except ε α} (h : Tells crew R shared seat past)
    (hended : seat.standing = .ended out) :
    Coro.Run (Drifts (R seat.label)) (crew.program seat.label) past.started past.trace past.parked
      out := by
  have hreaches := h.reaches
  rw [hended] at hreaches
  exact hreaches.run

end Rules

section Uniform

variable {R : σ → σ → Prop} {shared : σ}

/-- The contract of a task whose writes stay within a relation, whatever the others do. -/
def drifting (R : σ → σ → Prop) : Contract (Mem σ ρ) where
  rely m m' := m'.own = m.own
  guar m m' := R m.shared m'.shared
  pause _ := True

theorem drift_of_guar (hrefl : ∀ shared, R shared shared)
    (htrans : ∀ first second third, R first second → R second third → R first third)
    {m m' : Mem σ ρ} (h : Relation.ReflTransGen (drifting R).guar m m') :
    R m.shared m'.shared := by
  induction h with
  | refl => exact hrefl _
  | tail _ hlast ih => exact htrans _ _ _ ih hlast

/-- One move, with changes from outside that stay within the relation. -/
def Gentle (crew : Crew I σ ρ ε α κ) (R : σ → σ → Prop) (first : Annals I σ ρ ε α κ)
    (move : Move I σ κ) (second : Annals I σ ρ ε α κ) : Prop :=
  first.step crew move = some second ∧
    ∀ update, move = .disturb update → ∀ shared, R shared (update shared)

/-- A replayed schedule of the tasks alone is such a run. -/
theorem gentle_of_replay {moves : List (Move I σ κ)}
    (hquiet : ∀ move ∈ moves, ∀ update, move ≠ .disturb update)
    (h : replay (step crew) annals moves = some annals') :
    Steps (Gentle crew R) annals moves annals' := by
  induction moves generalizing annals with
  | nil =>
      cases h
      exact .nil _
  | cons move rest ih =>
      obtain ⟨hmove, hrest⟩ := List.forall_mem_cons.mp hquiet
      obtain ⟨second, hstep, hlater⟩ := Option.bind_eq_some_iff.mp h
      have hgentle : Gentle crew R annals move second :=
        ⟨hstep, fun update hdisturb => absurd hdisturb (hmove update)⟩
      exact .cons hgentle (ih hrest hlater)

/-- In every interleaving of tasks whose writes stay within a preorder, the past of each is a part
of a run of its program in surroundings that do the same. -/
theorem faithful_of_run {moves : List (Move I σ κ)}
    (hrefl : ∀ shared, R shared shared)
    (htrans : ∀ first second third, R first second → R second third → R first third)
    (hprogram : ∀ label shared, (crew.program label).wp (drifting R) (fun _ _ _ => True)
      ⟨shared, crew.initial label⟩)
    (hrun : Steps (Gentle crew R) ⟨⟨shared, []⟩, []⟩ moves annals) :
    annals.Faithful crew fun _ => R := by
  have hboth : annals.pool.Keeps (fun _ => drifting R) ∧ annals.Faithful crew fun _ => R := by
    refine hrun.invariant (P := fun annals => annals.pool.Keeps (fun _ => drifting R) ∧
      annals.Faithful crew fun _ => R) ⟨?_, faithful_empty⟩ ?_
    · intro seat hseat
      cases hseat
    · intro first move second hfirst hstep
      obtain ⟨pool, hpool, rfl⟩ := Option.map_eq_some_iff.mp hstep.1
      obtain ⟨hkeeps, heffect⟩ := hfirst.1.step hprogram (fun _ _ _ h => h) hpool
      have hshift : R first.pool.shared pool.shared := by
        generalize pool.shared = shared at heffect
        cases heffect with
        | started guaranteed => exact drift_of_guar hrefl htrans guaranteed
        | resumed seated paused guaranteed => exact drift_of_guar hrefl htrans guaranteed
        | disturbed => exact hstep.2 _ rfl _
      exact ⟨hkeeps, hfirst.2.step (fun _ => hrefl) (fun _ => htrans) hstep.1
        fun _ _ _ _ _ _ _ => hshift⟩
  exact hboth.2

end Uniform

end Annals

end LLMRouting.Interaction
