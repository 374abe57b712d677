/-
# Tasks that are not seen by others

Some of the tasks in a pool look at one part of the shared memory only, and all the others
leave that part as it is. Then the first do in every interleaving what they would do without
the others: deleting the moves of the others changes nothing of what these tasks ask, keep
and return, and nothing of their part of the memory. The comparison is between two runs of
one program, so it is about programs that do the same in memories that look the same.
-/

import LLMRouting.Interaction.Pledge

namespace LLMRouting.Interaction

variable {I : Interface} {σ ρ π ε ε' α β κ : Type}

namespace Coro

/-- Two tasks that do and ask the same in related memories, and leave them related. -/
inductive Alike (R : σ → σ → Prop) : Coro I σ ε α → Coro I σ ε α → Prop
  | pure (value : α) : Alike R (.pure value) (.pure value)
  | raise (error : ε) : Alike R (.raise error) (.raise error)
  | read {next next' : σ → Coro I σ ε α}
      (rest : ∀ m m', R m m' → Alike R (next m) (next' m')) : Alike R (.read next) (.read next')
  | write {update update' : σ → σ} {next next' : Coro I σ ε α}
      (related : ∀ m m', R m m' → R (update m) (update' m')) (rest : Alike R next next') :
      Alike R (.write update next) (.write update' next')
  | call {query : I.Query} {next next' : I.Reply query → Coro I σ ε α}
      (rest : ∀ reply, Alike R (next reply) (next' reply)) :
      Alike R (.call query next) (.call query next')

variable {R : σ → σ → Prop}

theorem Alike.seq {task task' : Coro I σ ε α} {onValue onValue' : α → Coro I σ ε' β}
    {onError onError' : ε → Coro I σ ε' β} (h : task.Alike R task')
    (hvalue : ∀ value, (onValue value).Alike R (onValue' value))
    (herror : ∀ error, (onError error).Alike R (onError' error)) :
    (task.seq onValue onError).Alike R (task'.seq onValue' onError') := by
  induction h with
  | pure value => exact hvalue value
  | raise error => exact herror error
  | read _ ih => exact .read ih
  | write related _ ih => exact .write related ih
  | call _ ih => exact .call ih

theorem Alike.bind {task task' : Coro I σ ε α} {next next' : α → Coro I σ ε β}
    (h : task.Alike R task') (hnext : ∀ value, (next value).Alike R (next' value)) :
    (task >>= next).Alike R (task' >>= next') :=
  h.seq hnext .raise

theorem Alike.attempt {task task' : Coro I σ ε α} (h : task.Alike R task') :
    Alike R (task.attempt : Coro I σ ε' (Except ε α)) task'.attempt :=
  h.seq (fun value => .pure (Except.ok value)) fun error => .pure (Except.error error)

theorem alike_ask (query : I.Query) :
    Alike R (ask query : Coro I σ ε (I.Reply query)) (ask query) :=
  .call fun reply => .pure reply

theorem alike_modify {update update' : σ → σ}
    (h : ∀ m m', R m m' → R (update m) (update' m')) :
    Alike R (modify update : Coro I σ ε Unit) (modify update') :=
  .write h (.pure ())

/-- A look at the memory, and then the rest. -/
theorem alike_get_bind {next next' : σ → Coro I σ ε α}
    (h : ∀ m m', R m m' → (next m).Alike R (next' m')) :
    Alike R (get >>= next) (get >>= next') :=
  .read h

end Coro

/-- Two tasks without the floor that will do the same. -/
inductive Standing.Alike (R : σ → σ → Prop) : Standing I σ ε α → Standing I σ ε α → Prop
  | parked {query : I.Query} {next next' : I.Reply query → Coro I σ ε α}
      (rest : ∀ reply, (next reply).Alike R (next' reply)) :
      Alike R (.parked query next) (.parked query next')
  | ended (out : Except ε α) : Alike R (.ended out) (.ended out)

/-- One stretch of two tasks that do the same. -/
theorem Coro.Alike.advance {R : σ → σ → Prop} {task task' : Coro I σ ε α} {m m' : σ}
    (h : task.Alike R task') (hm : R m m') (oracle : Coro.Oracle I) (index : ℕ) :
    (task.advance oracle m index).1.Alike R (task'.advance oracle m' index).1 ∧
      R (task.advance oracle m index).2 (task'.advance oracle m' index).2 := by
  induction h generalizing m m' index with
  | pure value => exact ⟨.ended _, hm⟩
  | raise error => exact ⟨.ended _, hm⟩
  | read _ ih => exact ih m m' hm hm index
  | write related _ ih => exact ih (related m m' hm) index
  | @call query next next' rest ih =>
      rw [Coro.advance, Coro.advance]
      by_cases hsuspends : I.suspends query
      · rw [if_pos hsuspends, if_pos hsuspends]
        exact ⟨.parked rest, hm⟩
      · rw [if_neg hsuspends, if_neg hsuspends]
        exact ih _ hm (index + 1)

section Positions

variable {p : α → Bool} {xs : List α} {index : ℕ} {x y : α}

/-- Where an element of a list is among the elements that satisfy a predicate. -/
theorem getElem?_filter_countP (h : xs[index]? = some x) (hx : p x = true) :
    (xs.filter p)[(xs.take index).countP p]? = some x := by
  induction xs generalizing index with
  | nil => cases h
  | cons first rest ih =>
      cases index with
      | zero =>
          cases h
          simp [hx]
      | succ index =>
          have hrest := @ih index h
          by_cases hfirst : p first = true
          · simpa [hfirst] using hrest
          · simpa [hfirst] using hrest

theorem filter_set_of_pos (h : xs[index]? = some x) (hx : p x = true) (hy : p y = true) :
    (xs.set index y).filter p = (xs.filter p).set ((xs.take index).countP p) y := by
  induction xs generalizing index with
  | nil => cases h
  | cons first rest ih =>
      cases index with
      | zero =>
          cases h
          simp [hx, hy]
      | succ index =>
          have hrest := @ih index h
          by_cases hfirst : p first = true
          · simpa [hfirst] using hrest
          · simpa [hfirst] using hrest

theorem filter_set_of_neg (h : xs[index]? = some x) (hx : p x = false) (hy : p y = false) :
    (xs.set index y).filter p = xs.filter p := by
  induction xs generalizing index with
  | nil => cases h
  | cons first rest ih =>
      cases index with
      | zero =>
          cases h
          simp [hx, hy]
      | succ index =>
          have hrest := @ih index h
          by_cases hfirst : p first = true
          · simpa [hfirst] using hrest
          · simpa [hfirst] using hrest

end Positions

section Forall

variable {R : α → β → Prop} {xs : List α} {ys : List β} {x : α} {y : β} {index : ℕ}

theorem exists_getElem?_of_forall₂ (h : List.Forall₂ R xs ys) (hx : xs[index]? = some x) :
    ∃ y, ys[index]? = some y ∧ R x y := by
  induction h generalizing index with
  | nil => cases hx
  | @cons first other xs ys hfirst _ ih =>
      cases index with
      | zero =>
          cases hx
          exact ⟨other, rfl, hfirst⟩
      | succ index => exact ih hx

theorem forall₂_set (h : List.Forall₂ R xs ys) (hxy : R x y) (index : ℕ) :
    List.Forall₂ R (xs.set index x) (ys.set index y) := by
  induction h generalizing index with
  | nil => exact .nil
  | cons hfirst hrest ih =>
      cases index with
      | zero => exact .cons hxy hrest
      | succ index => exact .cons hfirst (ih index)

end Forall

/-- Memories that look the same to a task that sees one part of what is shared. -/
def SameView (part : σ → π) (m m' : Mem σ ρ) : Prop :=
  m'.own = m.own ∧ part m'.shared = part m.shared

/-- The contract of a task that leaves the part as it is. -/
def unseenContract (part : σ → π) : Contract (Mem σ ρ) where
  rely m m' := m'.own = m.own
  guar m m' := part m'.shared = part m.shared
  pause _ := True

/-- The tasks on one side see a part of the shared memory only, and all others leave it as it
is. -/
structure Separated (crew : Crew I σ ρ ε α κ) (part : σ → π) (side : κ → Prop) : Prop where
  alike : ∀ label, side label → (crew.program label).Alike (SameView part) (crew.program label)
  unseen : ∀ label, ¬ side label → ∀ shared,
    (crew.program label).wp (unseenContract part) (fun _ _ _ => True) ⟨shared, crew.initial label⟩

section Sides

variable (side : κ → Prop) [DecidablePred side]

/-- The move in a pool of the tasks on one side only; `none` if a task on the other side makes
it. The tasks started so far are known by their labels. -/
def Move.own? (labels : List κ) : Move I σ κ → Option (Move I σ κ)
  | .start label oracle => if side label then some (.start label oracle) else none
  | .resume index oracle => labels[index]?.bind fun label =>
      if side label then
        some (.resume ((labels.take index).countP fun label => decide (side label)) oracle)
      else none
  | .disturb update => some (.disturb update)

/-- The moves of a run that are not made on the other side. -/
def ownMoves : List κ → List (Move I σ κ) → List (Move I σ κ)
  | _, [] => []
  | labels, move :: rest =>
      (move.own? side labels).toList ++ ownMoves (labels ++ move.started) rest

/-- What a change from outside makes of the part depends on the part only. -/
def Move.Independent (part : σ → π) : Move I σ κ → Prop
  | .disturb update => ∀ s s', part s' = part s → part (update s') = part (update s)
  | .start _ _ | .resume _ _ => True

/-- Two seats whose tasks do the same. -/
structure Seat.Alike (part : σ → π) (seat seat' : Seat I σ ρ ε α κ) : Prop where
  label_eq : seat'.label = seat.label
  own_eq : seat'.own = seat.own
  standing : seat.standing.Alike (SameView part) seat'.standing

/-- The second pool is the first without the tasks on the other side. -/
structure Pool.Mirrors (part : σ → π) (pool mirror : Pool I σ ρ ε α κ) : Prop where
  shared : part mirror.shared = part pool.shared
  seats : List.Forall₂ (Seat.Alike part) (pool.seats.filter fun seat => decide (side seat.label))
    mirror.seats

/-- The contracts of all tasks: those on the side promise nothing. -/
def sideContract (part : σ → π) (label : κ) : Contract (Mem σ ρ) :=
  if side label then .relying fun m m' => m'.own = m.own else unseenContract part

variable {side} {crew : Crew I σ ρ ε α κ} {part : σ → π} {pool pool' mirror : Pool I σ ρ ε α κ}
  {move : Move I σ κ}

theorem Separated.keeps_step (hseparated : Separated crew part side)
    (hkeeps : pool.Keeps (sideContract side part)) (h : pool.step crew move = some pool') :
    pool'.Keeps (sideContract side part) ∧
      Pool.Effect crew (sideContract side part) pool move pool'.shared := by
  apply Pool.Keeps.step hkeeps _ _ h
  · intro label shared
    by_cases hside : side label
    · rw [sideContract, if_pos hside]
      exact Coro.wp_relying _
    · rw [sideContract, if_neg hside]
      exact hseparated.unseen label hside shared
  · intro label m m' hown
    by_cases hside : side label
    · rw [sideContract, if_pos hside]
      exact hown
    · rw [sideContract, if_neg hside]
      exact hown

theorem part_of_unseen {label : κ} (hside : ¬ side label) {m m' : Mem σ ρ}
    (h : Relation.ReflTransGen (sideContract side part label).guar m m') :
    part m'.shared = part m.shared := by
  rw [sideContract, if_neg hside] at h
  induction h with
  | refl => rfl
  | tail _ hguar ih => exact Eq.trans hguar ih

/-- A move on the other side leaves the part as it is. -/
theorem part_of_step (heffect : Pool.Effect crew (sideContract side part) pool move pool'.shared)
    (hother : move.own? side (pool.seats.map Seat.label) = none) :
    part pool'.shared = part pool.shared := by
  generalize hshared : pool'.shared = shared at heffect
  cases heffect with
  | @started label oracle m guaranteed =>
      have hside : ¬ side label := by
        intro hside
        rw [Move.own?, if_pos hside] at hother
        cases hother
      exact part_of_unseen hside guaranteed
  | @resumed index oracle seat _ m seated paused guaranteed =>
      have hside : ¬ side seat.label := by
        intro hside
        rw [Move.own?, List.getElem?_map, seated, Option.map_some, Option.bind_some,
          if_pos hside] at hother
        cases hother
      exact part_of_unseen hside guaranteed
  | disturbed => cases hother

theorem countP_labels (seats : List (Seat I σ ρ ε α κ)) (index : ℕ) :
    ((seats.map Seat.label).take index).countP (fun label => decide (side label)) =
      (seats.take index).countP fun seat => decide (side seat.label) := by
  rw [← List.map_take, List.countP_map]
  rfl

theorem filter_seat_of_pos {seat : Seat I σ ρ ε α κ} (hside : side seat.label) :
    [seat].filter (fun seat => decide (side seat.label)) = [seat] := by
  simp [hside]

theorem filter_seat_of_neg {seat : Seat I σ ρ ε α κ} (hside : ¬ side seat.label) :
    [seat].filter (fun seat => decide (side seat.label)) = [] := by
  simp [hside]

/-- The next stretch of two tasks that do the same. -/
theorem Seat.Alike.resume {seat seat' : Seat I σ ρ ε α κ} (halike : seat.Alike part seat')
    {shared shared' : σ} (hshared : part shared' = part shared) {oracle : Coro.Oracle I}
    {standing : Standing I (Mem σ ρ) ε α} {m : Mem σ ρ}
    (h : seat.resume shared oracle = some (standing, m)) :
    ∃ standing' m', seat'.resume shared' oracle = some (standing', m') ∧
      standing.Alike (SameView part) standing' ∧ SameView part m m' := by
  obtain ⟨label, own, stands⟩ := seat
  obtain ⟨label', own', stands'⟩ := seat'
  obtain ⟨-, hown, hstanding⟩ := halike
  cases hstanding with
  | ended out => cases h
  | @parked query next next' rest =>
      have hview : SameView part ⟨shared, own⟩ ⟨shared', own'⟩ := ⟨hown, hshared⟩
      have hadvance := (rest (oracle 0 query)).advance hview oracle 1
      have hstretch : (next (oracle 0 query)).advance oracle ⟨shared, own⟩ 1 = (standing, m) :=
        Option.some.inj h
      rw [hstretch] at hadvance
      exact ⟨_, _, rfl, hadvance.1, hadvance.2⟩

/-- One move, and what is left of it without the tasks on the other side. -/
theorem Pool.Mirrors.step (hseparated : Separated crew part side)
    (hkeeps : pool.Keeps (sideContract side part)) (hmirrors : pool.Mirrors side part mirror)
    (hindependent : move.Independent part) (h : pool.step crew move = some pool') :
    ∃ mirror', Steps (Enabled (Pool.step crew)) mirror
      (move.own? side (pool.seats.map Seat.label)).toList mirror' ∧
        pool'.Mirrors side part mirror' := by
  have hquiet := part_of_step (hseparated.keeps_step hkeeps h).2
  cases move with
  | start label oracle =>
      cases h
      by_cases hside : side label
      · rw [Move.own?, if_pos hside]
        have hview : SameView part ⟨pool.shared, crew.initial label⟩
            ⟨mirror.shared, crew.initial label⟩ := ⟨rfl, hmirrors.shared⟩
        have hadvance := (hseparated.alike label hside).advance hview oracle 0
        refine ⟨_, .cons rfl (.nil _), hadvance.2.2, ?_⟩
        rw [List.filter_append, filter_seat_of_pos hside]
        exact List.rel_append hmirrors.seats (.cons ⟨rfl, hadvance.2.1, hadvance.1⟩ .nil)
      · rw [Move.own?, if_neg hside] at hquiet ⊢
        refine ⟨mirror, .nil _, hmirrors.shared.trans (hquiet rfl).symm, ?_⟩
        rw [List.filter_append, filter_seat_of_neg hside, List.append_nil]
        exact hmirrors.seats
  | resume index oracle =>
      obtain ⟨seat, hseated, h⟩ := Option.bind_eq_some_iff.mp h
      obtain ⟨⟨standing, m⟩, hresume, h⟩ := Option.map_eq_some_iff.mp h
      cases h
      have hlabel : (pool.seats.map Seat.label)[index]? = some seat.label := by
        rw [List.getElem?_map, hseated, Option.map_some]
      rw [Move.own?, hlabel, Option.bind_some] at hquiet ⊢
      by_cases hside : side seat.label
      · rw [if_pos hside, countP_labels]
        have hplace := getElem?_filter_countP (p := fun seat => decide (side seat.label)) hseated
          (decide_eq_true hside)
        obtain ⟨seat', hseated', halike⟩ := exists_getElem?_of_forall₂ hmirrors.seats hplace
        obtain ⟨standing', m', hresume', hstanding, hview⟩ := halike.resume hmirrors.shared hresume
        have hfilter := filter_set_of_pos (p := fun seat => decide (side seat.label))
          (y := ⟨seat.label, m.own, standing⟩) hseated (decide_eq_true hside) (decide_eq_true hside)
        generalize
            (pool.seats.take index).countP (fun seat => decide (side seat.label)) = place at *
        have hstep : mirror.step crew (.resume place oracle) =
            some ⟨m'.shared, mirror.seats.set place ⟨seat'.label, m'.own, standing'⟩⟩ := by
          rw [Pool.step, hseated', Option.bind_some, hresume', Option.map_some]
        have hseat : Seat.Alike part ⟨seat.label, m.own, standing⟩
            ⟨seat'.label, m'.own, standing'⟩ := ⟨halike.label_eq, hview.1, hstanding⟩
        refine ⟨_, .cons hstep (.nil _), hview.2, ?_⟩
        show List.Forall₂ _ ((pool.seats.set index ⟨seat.label, m.own, standing⟩).filter _) _
        rw [hfilter]
        exact forall₂_set hmirrors.seats hseat _
      · rw [if_neg hside] at hquiet ⊢
        refine ⟨mirror, .nil _, hmirrors.shared.trans (hquiet rfl).symm, ?_⟩
        rw [filter_set_of_neg hseated (decide_eq_false hside) (decide_eq_false hside)]
        exact hmirrors.seats
  | disturb update =>
      cases h
      refine ⟨{ mirror with shared := update mirror.shared }, .cons rfl (.nil _), ?_,
        hmirrors.seats⟩
      exact hindependent pool.shared mirror.shared hmirrors.shared

/-- Deleting the moves of the other side from a run changes nothing for the tasks on this
side. -/
theorem Pool.Mirrors.run (hseparated : Separated crew part side)
    {step : Pool I σ ρ ε α κ → Move I σ κ → Pool I σ ρ ε α κ → Prop}
    (hstep : ∀ s move s', step s move s' → Pool.step crew s move = some s' ∧ move.Independent part)
    {moves : List (Move I σ κ)} (hkeeps : pool.Keeps (sideContract side part))
    (hmirrors : pool.Mirrors side part mirror) (h : Steps step pool moves pool') :
    ∃ mirror', Steps (Enabled (Pool.step crew)) mirror
      (ownMoves side (pool.seats.map Seat.label) moves) mirror' ∧
        pool'.Mirrors side part mirror' := by
  induction h generalizing mirror with
  | nil => exact ⟨mirror, .nil _, hmirrors⟩
  | @cons first second last move rest head tail ih =>
      obtain ⟨hmove, hindependent⟩ := hstep _ _ _ head
      obtain ⟨next, hfirst, hnext⟩ := hmirrors.step hseparated hkeeps hindependent hmove
      obtain ⟨mirror', hrest, hlast⟩ := ih (hseparated.keeps_step hkeeps hmove).1 hnext
      refine ⟨mirror', ?_, hlast⟩
      rw [Pool.labels_of_step hmove] at hrest
      exact hfirst.append hrest

end Sides

/-- The question a task without the floor awaits the answer to, or its result. -/
def Standing.visible : Standing I σ ε α → I.Query ⊕ Except ε α
  | .parked query _ => .inl query
  | .ended out => .inr out

/-- Whose task is in a seat, what it keeps for itself, and where it stands. -/
def Seat.visible (seat : Seat I σ ρ ε α κ) : κ × ρ × (I.Query ⊕ Except ε α) :=
  (seat.label, seat.own, seat.standing.visible)

theorem Standing.Alike.visible_eq {R : σ → σ → Prop} {standing standing' : Standing I σ ε α}
    (h : standing.Alike R standing') : standing'.visible = standing.visible := by
  cases h with
  | parked rest => rfl
  | ended out => rfl

theorem Seat.Alike.visible_eq {part : σ → π} {seat seat' : Seat I σ ρ ε α κ}
    (h : seat.Alike part seat') : seat'.visible = seat.visible := by
  rw [Seat.visible, Seat.visible, h.label_eq, h.own_eq, h.standing.visible_eq]

theorem map_visible_of_forall₂ {part : σ → π} {seats seats' : List (Seat I σ ρ ε α κ)}
    (h : List.Forall₂ (Seat.Alike part) seats seats') :
    seats'.map Seat.visible = seats.map Seat.visible := by
  induction h with
  | nil => rfl
  | cons hseat _ ih => rw [List.map_cons, List.map_cons, hseat.visible_eq, ih]

section Agree

variable {side side' : κ → Prop} [DecidablePred side] [DecidablePred side']
  {crew : Crew I σ ρ ε α κ} {pool pool' : Pool I σ ρ ε α κ} {labels : List κ}

/-- The tasks in the seats are those that were started. -/
theorem labels_of_run {moves : List (Move I σ κ)}
    (h : Steps (Enabled (Pool.step crew)) pool moves pool') :
    pool'.seats.map Seat.label = pool.seats.map Seat.label ++ moves.flatMap Move.started := by
  induction h with
  | nil => simp
  | cons head _ ih => rw [ih, Pool.labels_of_step head, List.flatMap_cons, List.append_assoc]

theorem own?_congr {move : Move I σ κ} (hlabels : ∀ label ∈ labels, side label ↔ side' label)
    (hstarted : ∀ label ∈ move.started, side label ↔ side' label) :
    move.own? side labels = move.own? side' labels := by
  cases move with
  | disturb update => rfl
  | start label oracle =>
      have hside := hstarted label (List.mem_singleton_self label)
      simp only [Move.own?, hside]
  | resume index oracle =>
      rw [Move.own?, Move.own?]
      cases hlabel : labels[index]? with
      | none => rfl
      | some label =>
          have hside := hlabels label (List.mem_of_getElem? hlabel)
          have hcount : (labels.take index).countP (fun label => decide (side label)) =
              (labels.take index).countP fun label => decide (side' label) := by
            apply List.countP_congr
            intro other hother
            rw [decide_eq_true_iff, decide_eq_true_iff]
            exact hlabels other (List.mem_of_mem_take hother)
          simp only [Option.bind_some, hside, hcount]

theorem ownMoves_congr {moves : List (Move I σ κ)}
    (hlabels : ∀ label ∈ labels, side label ↔ side' label)
    (hstarted : ∀ label ∈ moves.flatMap Move.started, side label ↔ side' label) :
    ownMoves side labels moves = ownMoves side' labels moves := by
  induction moves generalizing labels with
  | nil => rfl
  | cons move rest ih =>
      rw [List.flatMap_cons] at hstarted
      have hfirst : ∀ label ∈ move.started, side label ↔ side' label :=
        fun label hlabel => hstarted label (List.mem_append_left _ hlabel)
      rw [ownMoves, ownMoves, own?_congr hlabels hfirst, ih]
      · intro label hlabel
        rcases List.mem_append.mp hlabel with hold | hnew
        · exact hlabels label hold
        · exact hfirst label hnew
      · intro label hlabel
        exact hstarted label (List.mem_append_right _ hlabel)

end Agree

end LLMRouting.Interaction
