/-
# Invariants between stretches

Nobody else has the floor during a stretch of a task, so what others can see of the memory is
what holds when the stretch is over. An invariant that may be broken for a moment is kept up by
a task if it holds again whenever the task gives up the floor, as long as the others do the
same. It then holds in every interleaving, of the shared memory and of what each task keeps.
-/

import LLMRouting.Interaction.Interleaving

namespace LLMRouting.Interaction

variable {I : Interface} {σ ρ ε ε' α β κ : Type} {P : σ → Prop}

/-- The contract of a task that relies on an invariant and restores it before it suspends. -/
def Contract.keeping (P : σ → Prop) : Contract σ where
  rely _ m' := P m'
  guar _ _ := True
  pause := P

namespace Coro

/-- Started with the invariant, the task has restored it whenever it suspends and when it ends;
what it returns satisfies `post`. -/
def KeepsUp (P : σ → Prop) (task : Coro I σ ε α) (post : α → Prop) : Prop :=
  ∀ m, P m → task.wp (Contract.keeping P)
    (fun _ m' out => P m' ∧ ∀ value, out = .ok value → post value) m

section Rules

variable {post post' : α → Prop}

theorem keepsUp_pure {value : α} (h : post value) :
    (Pure.pure value : Coro I σ ε α).KeepsUp P post := by
  intro m hm
  refine ⟨hm, ?_⟩
  rintro _ ⟨⟩
  exact h

theorem keepsUp_raise {error : ε} : (raise error : Coro I σ ε α).KeepsUp P post :=
  fun _ hm => ⟨hm, nofun⟩

theorem KeepsUp.mono {task : Coro I σ ε α} (h : task.KeepsUp P post)
    (himp : ∀ value, post value → post' value) : task.KeepsUp P post' := by
  intro m hm
  apply wp_mono (h m hm)
  exact fun _ _ _ hout => ⟨hout.1, fun value hvalue => himp value (hout.2 value hvalue)⟩

theorem KeepsUp.bind {task : Coro I σ ε α} {next : α → Coro I σ ε β} {post' : β → Prop}
    (h : task.KeepsUp P post) (hnext : ∀ value, post value → (next value).KeepsUp P post') :
    (task >>= next).KeepsUp P post' := by
  intro m hm
  rw [wp_bind]
  apply wp_mono (h m hm)
  rintro trace m' out ⟨hm', hout⟩
  cases out with
  | ok value => exact hnext value (hout value rfl) m' hm'
  | error error => exact ⟨hm', nofun⟩

theorem KeepsUp.attempt {task : Coro I σ ε α} (h : task.KeepsUp P post) :
    (task.attempt : Coro I σ ε' (Except ε α)).KeepsUp P fun _ => True := by
  intro m hm
  rw [wp_attempt]
  apply wp_mono (h m hm)
  exact fun _ _ _ hout => ⟨hout.1, fun _ _ => trivial⟩

theorem keepsUp_ask {query : I.Query} :
    (ask query : Coro I σ ε (I.Reply query)).KeepsUp P fun _ => True := by
  intro m hm
  refine ⟨fun _ => hm, fun reply m' hresumes => ⟨?_, fun _ _ => trivial⟩⟩
  rw [Resumes] at hresumes
  split at hresumes
  · exact hresumes
  · rwa [hresumes]

theorem keepsUp_modify {update : σ → σ} (h : ∀ m, P m → P (update m)) :
    (modify update : Coro I σ ε Unit).KeepsUp P fun _ => True :=
  fun m hm => ⟨trivial, h m hm, fun _ _ => trivial⟩

/-- What is done with the memory that was read may depend on the invariant. -/
theorem keepsUp_get_bind {next : σ → Coro I σ ε α} (h : ∀ m, P m → (next m).KeepsUp P post) :
    (Coro.get >>= next).KeepsUp P post :=
  fun m hm => h m hm m hm

end Rules

/-- One stretch of a task that keeps the invariant up. -/
theorem keepsUp_advance {post : List (Event I σ) → σ → Except ε α → Prop}
    {task : Coro I σ ε α} {m : σ} (h : task.wp (Contract.keeping P) post m)
    (hpost : ∀ trace m' out, post trace m' out → P m') (oracle : Oracle I) (index : ℕ) :
    P (task.advance oracle m index).2 ∧ ∀ query next,
      (task.advance oracle m index).1 = .parked query next → ∀ reply m', P m' →
        (next reply).wp (Contract.keeping P) (fun _ m' _ => P m') m' := by
  induction task generalizing m post index with
  | pure value => exact ⟨hpost _ _ _ h, nofun⟩
  | raise error => exact ⟨hpost _ _ _ h, nofun⟩
  | read next ih => exact ih m h hpost index
  | write update next ih => exact ih h.2 hpost index
  | call asked next ih =>
      rw [advance]
      by_cases hsuspends : I.suspends asked
      · rw [if_pos hsuspends]
        refine ⟨h.1 hsuspends, ?_⟩
        rintro query next' ⟨⟩ reply m' hm'
        have hresumes : Resumes (Contract.keeping P).rely asked m m' := by
          rw [Resumes, if_pos hsuspends]
          exact hm'
        exact wp_mono (h.2 reply m' hresumes) fun trace m'' out hout => hpost _ _ _ hout
      · rw [if_neg hsuspends]
        have hresumes : Resumes (Contract.keeping P).rely asked m m := by
          rw [Resumes, if_neg hsuspends]
        exact ih _ (h.2 _ m hresumes) (fun _ _ _ => hpost _ _ _) (index + 1)

end Coro

namespace Pool

/-- An invariant of the shared memory and one of what each task has to itself. -/
def Invariant (Q : σ → Prop) (R : ρ → Prop) (m : Mem σ ρ) : Prop := Q m.shared ∧ R m.own

/-- Both invariants hold, and whoever waits goes on to keep them up. -/
structure KeptUp (Q : σ → Prop) (R : ρ → Prop) (pool : Pool I σ ρ ε α κ) : Prop where
  shared : Q pool.shared
  own : ∀ seat ∈ pool.seats, R seat.own
  parked : ∀ seat ∈ pool.seats, ∀ query next, seat.standing = .parked query next →
    ∀ reply m, Invariant Q R m →
      (next reply).wp (Contract.keeping (Invariant Q R)) (fun _ m' _ => Invariant Q R m') m

variable {crew : Crew I σ ρ ε α κ} {pool pool' : Pool I σ ρ ε α κ} {move : Move I σ κ}
  {Q : σ → Prop} {R : ρ → Prop}

theorem keptUp_empty {shared : σ} (h : Q shared) :
    (⟨shared, []⟩ : Pool I σ ρ ε α κ).KeptUp Q R :=
  ⟨h, List.forall_mem_nil _, List.forall_mem_nil _⟩

/-- The rule of one move. -/
theorem KeptUp.step (hkept : pool.KeptUp Q R)
    (hprogram : ∀ label, (crew.program label).KeepsUp (Invariant Q R) fun _ => True)
    (hinitial : ∀ label, R (crew.initial label))
    (hdisturb : ∀ update, move = .disturb update → Q pool.shared → Q (update pool.shared))
    (h : pool.step crew move = some pool') : pool'.KeptUp Q R := by
  cases move with
  | start label oracle =>
      cases h
      obtain ⟨hinvariant, hparked⟩ := Coro.keepsUp_advance
        (hprogram label ⟨pool.shared, crew.initial label⟩ ⟨hkept.shared, hinitial label⟩)
        (fun _ _ _ hout => hout.1) oracle 0
      refine ⟨hinvariant.1, ?_, ?_⟩
      · intro seat hseat
        rcases List.mem_append.mp hseat with hold | hnew
        · exact hkept.own seat hold
        · rw [List.mem_singleton.mp hnew]
          exact hinvariant.2
      · intro seat hseat
        rcases List.mem_append.mp hseat with hold | hnew
        · exact hkept.parked seat hold
        · rw [List.mem_singleton.mp hnew]
          exact hparked
  | resume index oracle =>
      obtain ⟨seat, hseated, h⟩ := Option.bind_eq_some_iff.mp h
      obtain ⟨⟨standing, m⟩, hresume, h⟩ := Option.map_eq_some_iff.mp h
      cases h
      have hseat := List.mem_of_getElem? hseated
      rw [Seat.resume] at hresume
      cases hstanding : seat.standing with
      | ended out =>
          rw [hstanding] at hresume
          cases hresume
      | parked query next =>
          rw [hstanding] at hresume
          have hwp := hkept.parked seat hseat query next hstanding (oracle 0 query)
            ⟨pool.shared, seat.own⟩ ⟨hkept.shared, hkept.own seat hseat⟩
          obtain ⟨hinvariant, hparked⟩ :=
            Coro.keepsUp_advance hwp (fun _ _ _ hout => hout) oracle 1
          rw [Option.some.inj hresume] at hinvariant hparked
          refine ⟨hinvariant.1, ?_, ?_⟩
          · intro other hother
            rcases List.mem_or_eq_of_mem_set hother with hold | rfl
            · exact hkept.own other hold
            · exact hinvariant.2
          · intro other hother
            rcases List.mem_or_eq_of_mem_set hother with hold | rfl
            · exact hkept.parked other hold
            · exact hparked
  | disturb update =>
      cases h
      exact ⟨hdisturb update rfl hkept.shared, hkept.own, hkept.parked⟩

/-- One move, with changes from outside that keep the shared invariant. -/
def Considerate (crew : Crew I σ ρ ε α κ) (Q : σ → Prop) (first : Pool I σ ρ ε α κ)
    (move : Move I σ κ) (second : Pool I σ ρ ε α κ) : Prop :=
  first.step crew move = some second ∧
    ∀ update, move = .disturb update → ∀ shared, Q shared → Q (update shared)

/-- A replayed schedule without changes from outside is such a run. -/
theorem considerate_of_replay {moves : List (Move I σ κ)}
    (h : replay (step crew) pool moves = some pool') :
    (∀ move ∈ moves, ∀ update, move ≠ .disturb update) →
      Steps (Considerate crew Q) pool moves pool' := by
  induction moves generalizing pool with
  | nil =>
      intro _
      cases h
      exact .nil _
  | cons move rest ih =>
      intro hmoves
      obtain ⟨hmove, hrest⟩ := List.forall_mem_cons.mp hmoves
      obtain ⟨next, hstep, hreplay⟩ := Option.bind_eq_some_iff.mp h
      exact .cons ⟨hstep, fun update hdisturb => absurd hdisturb (hmove update)⟩
        (ih hreplay hrest)

/-- The rule of a run. -/
theorem keptUp_of_run {shared : σ} {moves : List (Move I σ κ)}
    (hprogram : ∀ label, (crew.program label).KeepsUp (Invariant Q R) fun _ => True)
    (hinitial : ∀ label, R (crew.initial label)) (hshared : Q shared)
    (hrun : Steps (Considerate crew Q) ⟨shared, []⟩ moves pool) : pool.KeptUp Q R := by
  refine hrun.invariant (keptUp_empty hshared) fun first move second hkept hstep => ?_
  exact hkept.step hprogram hinitial (fun update hmove => hstep.2 update hmove _) hstep.1

end Pool

end LLMRouting.Interaction
