/-
# The calls behind the circuits

The system of calls through one circuit was made up from what `dispatch` and `decide` do to
it. Here the whole engine is shown to be that system. Any number of `handle` calls run
interleaved, each with its router calls and dispatches down to the requests they post, while
the surroundings change what they like but the circuits. At each backend the system follows
such a run write by write, and the outstanding calls are those of the tasks that wait for the
backend.
-/

import LLMRouting.Providers.ProbeGuarantees
import LLMRouting.Upstream.HeldCalls
import LLMRouting.Upstream.Refusals

namespace LLMRouting

open LLMRouting.Interaction

variable {μ : Type}

/-- The outstanding calls of a backend, each with the seat that holds it. -/
structure Attributed (backend : Backend) (held : ℕ → HeldCall)
    (calls : List (ℕ × OutstandingCall)) : Prop where
  nodup : (calls.map Prod.fst).Nodup
  mem_iff : ∀ seat caller, held seat = some (backend, caller) ↔
    ∃ call, (seat, call) ∈ calls ∧ call.caller = caller

namespace Attributed

variable {backend : Backend} {held : ℕ → HeldCall} {calls : List (ℕ × OutstandingCall)}
  {seat : ℕ} {note : HeldCall}

theorem none (backend : Backend) : Attributed backend (fun _ => Option.none) [] where
  nodup := List.nodup_nil
  mem_iff seat caller := by simp

/-- A seat with no call at the backend is in no entry. -/
theorem not_mem (h : Attributed backend held calls)
    (hseat : ∀ caller, held seat ≠ some (backend, caller)) : seat ∉ calls.map Prod.fst := by
  intro hmem
  obtain ⟨⟨_, call⟩, hcall, rfl⟩ := List.mem_map.mp hmem
  exact hseat call.caller ((h.mem_iff _ call.caller).mpr ⟨call, hcall, rfl⟩)

/-- What is held at other backends does not matter. -/
theorem elsewhere (h : Attributed backend held calls)
    (hseat : ∀ caller, held seat ≠ some (backend, caller))
    (hnote : ∀ caller, note ≠ some (backend, caller)) :
    Attributed backend (Function.update held seat note) calls where
  nodup := h.nodup
  mem_iff other caller := by
    by_cases hother : other = seat
    · subst hother
      rw [Function.update_self, ← h.mem_iff]
      exact iff_of_false (hnote caller) (hseat caller)
    · rw [Function.update_of_ne hother]
      exact h.mem_iff other caller

theorem enter (h : Attributed backend held calls)
    (hseat : ∀ caller, held seat ≠ some (backend, caller)) (call : OutstandingCall) :
    Attributed backend (Function.update held seat (some (backend, call.caller)))
      (calls ++ [(seat, call)]) where
  nodup := by
    rw [List.map_append, List.map_cons, List.map_nil, List.nodup_append]
    refine ⟨h.nodup, List.nodup_singleton seat, ?_⟩
    intro other hother _ hnew
    rw [List.mem_singleton.mp hnew]
    intro hsame
    rw [hsame] at hother
    exact h.not_mem hseat hother
  mem_iff other caller := by
    simp only [List.mem_append, List.mem_singleton, Prod.mk.injEq]
    by_cases hother : other = seat
    · subst hother
      rw [Function.update_self]
      constructor
      · intro hsame
        cases hsame
        exact ⟨call, .inr ⟨rfl, rfl⟩, rfl⟩
      · rintro ⟨found, hfound | ⟨-, rfl⟩, rfl⟩
        · exact absurd ((h.mem_iff _ _).mpr ⟨found, hfound, rfl⟩) (hseat _)
        · rfl
    · rw [Function.update_of_ne hother, h.mem_iff]
      simp only [hother, false_and, or_false]

theorem finish (h : Attributed backend held calls) {index : ℕ} {call : OutstandingCall}
    (hfound : calls[index]? = some (seat, call)) :
    Attributed backend (Function.update held seat Option.none) (calls.eraseIdx index) := by
  obtain ⟨hindex, hcall⟩ := List.getElem?_eq_some_iff.mp hfound
  have hperm : List.Perm ((seat, call) :: calls.eraseIdx index) calls := by
    rw [← hcall]
    exact List.getElem_cons_eraseIdx_perm hindex
  have hnodup : (seat :: (calls.eraseIdx index).map Prod.fst).Nodup :=
    (hperm.map Prod.fst).nodup_iff.mpr h.nodup
  refine ⟨hnodup.tail, fun other caller => ?_⟩
  by_cases hother : other = seat
  · subst hother
    rw [Function.update_self]
    refine iff_of_false nofun ?_
    rintro ⟨left, hleft, -⟩
    exact (List.nodup_cons.mp hnodup).1 (List.mem_map_of_mem hleft)
  · rw [Function.update_of_ne hother, h.mem_iff]
    have hmem : ∀ left, (other, left) ∈ calls ↔ (other, left) ∈ calls.eraseIdx index := by
      intro left
      rw [← hperm.mem_iff, List.mem_cons, Prod.mk.injEq]
      simp only [hother, false_and, false_or]
    simp only [hmem]

end Attributed

/-- The traffic follows the writes to the circuit of a backend: each that changes it is one of
its moves, at the last reading of the clock. In between time goes by. -/
inductive Traffic.Follows (backend : Backend) :
    Traffic → List (Write (Memory μ) ℚ) → Traffic → Prop
  | done (traffic : Traffic) : Follows backend traffic [] traffic
  | wait {traffic next last : Traffic} {later : ℚ} {writes : List (Write (Memory μ) ℚ)}
      (waits : traffic.step (.wait later) = some next) (rest : Follows backend next writes last) :
      Follows backend traffic writes last
  | apart {traffic last : Traffic} {write : Write (Memory μ) ℚ}
      {writes : List (Write (Memory μ) ℚ)}
      (unchanged : write.after.shared.circuits backend = write.before.shared.circuits backend)
      (rest : Follows backend traffic writes last) :
      Follows backend traffic (write :: writes) last
  | moves {traffic next last : Traffic} {action : TrafficAction} {write : Write (Memory μ) ℚ}
      {writes : List (Write (Memory μ) ℚ)}
      (before : traffic.circuit = write.before.shared.circuits backend)
      (moves : traffic.step action = some next)
      (after : next.circuit = write.after.shared.circuits backend)
      (dated : ∀ time ∈ write.reading, time = traffic.now)
      (rest : Follows backend next writes last) :
      Follows backend traffic (write :: writes) last

namespace Traffic.Follows

variable {backend : Backend} {traffic middle last : Traffic}
  {writes writes' : List (Write (Memory μ) ℚ)}

theorem append (h : Traffic.Follows backend traffic writes middle)
    (h' : Traffic.Follows backend middle writes' last) :
    Traffic.Follows backend traffic (writes ++ writes') last := by
  induction h with
  | done traffic => exact h'
  | wait waits rest ih => exact .wait waits (ih h')
  | apart unchanged rest ih => exact .apart unchanged (ih h')
  | moves before moves after dated rest ih => exact .moves before moves after dated (ih h')

/-- What follows a run is a run of the system. -/
theorem steps (h : Traffic.Follows backend traffic writes last) :
    ∃ actions, Steps (Enabled Traffic.step) traffic actions last := by
  induction h with
  | done traffic => exact ⟨[], .nil traffic⟩
  | wait waits rest ih =>
      obtain ⟨actions, hactions⟩ := ih
      exact ⟨_ :: actions, .cons waits hactions⟩
  | apart unchanged rest ih => exact ih
  | moves before moves after dated rest ih =>
      obtain ⟨actions, hactions⟩ := ih
      exact ⟨_ :: actions, .cons moves hactions⟩

end Traffic.Follows

/-- The traffic is that of the backend's circuit, at this time and with these calls held. -/
structure Traffic.Shows (traffic : Traffic) (backend : Backend)
    (circuits : Backend → BackendCircuit) (now : ℚ) (held : ℕ → HeldCall) : Prop where
  circuit_eq : traffic.circuit = circuits backend
  now_eq : traffic.now = now
  attributed : ∃ calls, traffic.outstanding = calls.map Prod.snd ∧ Attributed backend held calls

namespace Traffic.Shows

variable {traffic : Traffic} {backend : Backend} {circuits circuits' : Backend → BackendCircuit}
  {now later : ℚ} {held : ℕ → HeldCall} {seat : ℕ} {note : HeldCall}

/-- Time goes by. -/
theorem wait (h : traffic.Shows backend circuits now held) (hle : now ≤ later) :
    ∃ traffic', traffic.step (.wait later) = some traffic' ∧
      traffic'.Shows backend circuits later held :=
  ⟨{ traffic with now := later }, if_pos (h.now_eq ▸ hle), h.circuit_eq, rfl, h.attributed⟩

/-- An arrival that is refused. -/
theorem denied (h : traffic.Shows backend circuits now held) {circuit : BackendCircuit}
    (caller : Caller) (hdenied : (circuits backend).allowRequest now = some (false, circuit))
    (hcircuits : circuits' backend = circuit) :
    ∃ action traffic', traffic.step action = some traffic' ∧
      traffic'.Shows backend circuits' now held := by
  refine ⟨.arrive caller, traffic.arrived caller false circuit, ?_,
    hcircuits.symm, h.now_eq, h.attributed⟩
  rw [step, h.circuit_eq, h.now_eq, hdenied]
  rfl

/-- An arrival that is let in. -/
theorem admitted (h : traffic.Shows backend circuits now held) {circuit : BackendCircuit}
    {caller : Caller} (hseat : ∀ caller, held seat ≠ some (backend, caller))
    (hadmitted : (circuits backend).allowRequest now = some (true, circuit))
    (hcircuits : circuits' backend = circuit) :
    ∃ action traffic', traffic.step action = some traffic' ∧
      traffic'.Shows backend circuits' now
        (Function.update held seat (some (backend, caller))) := by
  obtain ⟨calls, houtstanding, hattributed⟩ := h.attributed
  obtain ⟨call, rfl, harrived⟩ : ∃ call : OutstandingCall, call.caller = caller ∧
      (traffic.arrived caller true circuit).outstanding = traffic.outstanding ++ [call] :=
    ⟨_, rfl, rfl⟩
  refine ⟨.arrive call.caller, traffic.arrived call.caller true circuit, ?_,
    hcircuits.symm, h.now_eq, _, ?_, hattributed.enter hseat call⟩
  · rw [step, h.circuit_eq, h.now_eq, hadmitted]
    rfl
  · rw [harrived, houtstanding, List.map_append]
    rfl

/-- The end of a call that was let in. -/
theorem finished (h : traffic.Shows backend circuits now held) {ending : CallEnding}
    (hheld : held seat = some (backend, ending.caller))
    (hcircuits : circuits' backend = (circuits backend).reportAll now ending.reports) :
    ∃ action traffic', traffic.step action = some traffic' ∧
      traffic'.Shows backend circuits' now (Function.update held seat none) := by
  obtain ⟨calls, houtstanding, hattributed⟩ := h.attributed
  obtain ⟨call, hcall, hcaller⟩ := (hattributed.mem_iff seat ending.caller).mp hheld
  obtain ⟨index, hindex⟩ := List.getElem?_of_mem hcall
  have hfound : traffic.outstanding[index]? = some call := by
    rw [houtstanding, List.getElem?_map, hindex]
    rfl
  let traffic' : Traffic :=
    { traffic with
      circuit := traffic.circuit.reportAll traffic.now ending.reports
      outstanding := traffic.outstanding.eraseIdx index }
  have hstep : traffic.step (.finish index ending) = some traffic' := by
    rw [step, hfound]
    exact if_pos hcaller
  refine ⟨.finish index ending, traffic', hstep, ?_, h.now_eq, _, ?_, hattributed.finish hindex⟩
  · show traffic.circuit.reportAll traffic.now ending.reports = circuits' backend
    rw [h.circuit_eq, h.now_eq, hcircuits]
  · show traffic.outstanding.eraseIdx index = (calls.eraseIdx index).map Prod.snd
    rw [houtstanding, List.eraseIdx_map]

/-- What goes on at another backend. -/
theorem elsewhere (h : traffic.Shows backend circuits now held)
    (hseat : ∀ caller, held seat ≠ some (backend, caller))
    (hnote : ∀ caller, note ≠ some (backend, caller))
    (hcircuits : circuits' backend = circuits backend) :
    traffic.Shows backend circuits' now (Function.update held seat note) := by
  obtain ⟨calls, houtstanding, hattributed⟩ := h.attributed
  exact ⟨h.circuit_eq.trans hcircuits.symm, h.now_eq, calls, houtstanding,
    hattributed.elsewhere hseat hnote⟩

/-- A passage of one task, seen at one backend: it leaves the circuit alone, or it is a move. -/
theorem passage (h : traffic.Shows backend circuits now held)
    (hpassage : Passage now (held seat, circuits) (note, circuits')) :
    circuits' backend = circuits backend ∧
        traffic.Shows backend circuits' now (Function.update held seat note) ∨
      ∃ action traffic', traffic.step action = some traffic' ∧
        traffic'.Shows backend circuits' now (Function.update held seat note) := by
  generalize hhere : (held seat, circuits) = here at hpassage
  generalize hthere : (note, circuits') = there at hpassage
  cases hpassage with
  | @denied other _ circuit caller hdenied =>
      obtain ⟨hheld, rfl⟩ := Prod.mk.inj hhere
      obtain ⟨rfl, rfl⟩ := Prod.mk.inj hthere
      by_cases hbackend : backend = other
      · subst hbackend
        rw [← hheld, Function.update_eq_self]
        exact .inr (h.denied caller hdenied (Function.update_self ..))
      · have hsame := Function.update_of_ne hbackend circuit circuits
        exact .inl ⟨hsame, h.elsewhere (by rw [hheld]; exact nofun) nofun hsame⟩
  | @admitted other _ circuit caller hadmitted =>
      obtain ⟨hheld, rfl⟩ := Prod.mk.inj hhere
      obtain ⟨rfl, rfl⟩ := Prod.mk.inj hthere
      have hseat : ∀ caller, held seat ≠ some (backend, caller) := by
        rw [hheld]
        exact nofun
      by_cases hbackend : backend = other
      · subst hbackend
        exact .inr (h.admitted hseat hadmitted (Function.update_self ..))
      · have hsame := Function.update_of_ne hbackend circuit circuits
        refine .inl ⟨hsame, h.elsewhere hseat ?_ hsame⟩
        intro other' hsame
        cases hsame
        exact hbackend rfl
  | @finished other _ ending =>
      obtain ⟨hheld, rfl⟩ := Prod.mk.inj hhere
      obtain ⟨rfl, rfl⟩ := Prod.mk.inj hthere
      by_cases hbackend : backend = other
      · subst hbackend
        exact .inr (h.finished hheld (Function.update_self ..))
      · have hsame := Function.update_of_ne hbackend
          ((circuits other).reportAll now ending.reports) circuits
        refine .inl ⟨hsame, h.elsewhere ?_ nofun hsame⟩
        rw [hheld]
        intro caller hsame
        cases hsame
        exact hbackend rfl

/-- One stretch of a task, seen at one backend. -/
theorem course (h : traffic.Shows backend circuits now held) {last : ℚ} {m m' : Memory μ}
    {writes : List (Write (Memory μ) ℚ)} (hcircuits : m.shared.circuits = circuits)
    (hcourse : (circuitShadow μ).Course now (held seat, m) writes last (note, m')) :
    ∃ traffic', Traffic.Follows backend traffic writes traffic' ∧
      traffic'.Shows backend m'.shared.circuits last (Function.update held seat note) := by
  subst hcircuits
  generalize hhere : (held seat, m) = here at hcourse
  generalize hthere : (note, m') = there at hcourse
  induction hcourse generalizing traffic held m with
  | done now here =>
      subst hhere
      obtain ⟨rfl, rfl⟩ := Prod.mk.inj hthere
      rw [Function.update_eq_self]
      exact ⟨traffic, .done traffic, h⟩
  | later le rest ih =>
      obtain ⟨middle, hwaits, hmiddle⟩ := h.wait le
      obtain ⟨traffic', hfollows, hshows⟩ := ih hmiddle hhere hthere
      exact ⟨traffic', .wait hwaits hfollows, hshows⟩
  | @act now last reading here next there writes acts dated rest ih =>
      subst hhere
      obtain ⟨note₁, m₁⟩ := next
      -- the write is passed by, or it is a move of the traffic
      have hpassed : m₁.shared.circuits backend = m.shared.circuits backend ∧
          traffic.Shows backend m₁.shared.circuits now (Function.update held seat note₁) ∨
          ∃ action traffic', traffic.step action = some traffic' ∧
            traffic'.Shows backend m₁.shared.circuits now (Function.update held seat note₁) := by
        rcases acts with ⟨hnote, hsame⟩ | hpassage
        · simp only at hnote hsame
          rw [hnote, hsame, Function.update_eq_self]
          exact .inl ⟨rfl, h⟩
        · exact h.passage hpassage
      rcases hpassed with ⟨hunchanged, hmiddle⟩ | ⟨action, middle, hmoves, hmiddle⟩
      · obtain ⟨traffic', hfollows, hshows⟩ := ih hmiddle (by rw [Function.update_self]) hthere
        rw [Function.update_idem] at hshows
        exact ⟨traffic', .apart hunchanged hfollows, hshows⟩
      · obtain ⟨traffic', hfollows, hshows⟩ := ih hmiddle (by rw [Function.update_self]) hthere
        rw [Function.update_idem] at hshows
        refine ⟨traffic', .moves h.circuit_eq hmoves hmiddle.circuit_eq ?_ hfollows, hshows⟩
        intro time htime
        rw [h.now_eq]
        exact dated time htime

end Traffic.Shows

/-- All `handle` calls of one process, with their router calls and dispatches. -/
def systemCrew (μ : Type) [Metric μ] (routers : Routers) (engine : RoutingEngine) :
    Crew systemInterface (World μ) (Capture μ) Raised RoutingResponse HandleCall where
  program := routers.handle engine
  initial _ := { requestId := "" }

abbrev SystemSeat (μ : Type) : Type :=
  Seat systemInterface (World μ) (Capture μ) Raised RoutingResponse HandleCall

abbrev SystemPool (μ : Type) : Type :=
  Pool systemInterface (World μ) (Capture μ) Raised RoutingResponse HandleCall

abbrev SystemMove (μ : Type) : Type := Move systemInterface (World μ) HandleCall

/-- The question a call of the process waits for. -/
def waitsFor? (seat : SystemSeat μ) : Option SystemQuery :=
  match seat.standing with
  | .parked query _ => some query
  | .ended _ => none

/-- One move of the process, between two times of the clock. Nothing but the calls changes the
circuits. -/
def SystemStep [Metric μ] (routers : Routers) (engine : RoutingEngine)
    (first : SystemPool μ × ℚ) (move : SystemMove μ) (second : SystemPool μ × ℚ) : Prop :=
  Pool.Timed SystemQuery.reading? (systemCrew μ routers engine) first move second ∧
    ∀ update, move = .disturb update → ∀ world, (update world).circuits = world.circuits

/-- The call each task of the process waits with. -/
def callsOf (pool : SystemPool μ) (index : ℕ) : HeldCall :=
  (pool.seats[index]?.bind waitsFor?).bind SystemQuery.call?

/-- The writes of a run of the process. -/
def systemWrites [Metric μ] (routers : Routers) (engine : RoutingEngine) (pool : SystemPool μ)
    (moves : List (SystemMove μ)) : List (Write (Memory μ) ℚ) :=
  Pool.runWrites SystemQuery.reading? (systemCrew μ routers engine) pool moves

/-- The calls are followed by what they hold, and each backend has its traffic, which has
followed the writes so far. -/
structure Followed (settings : CircuitSettings) (start : ℚ) (writes : List (Write (Memory μ) ℚ))
    (here : SystemPool μ × ℚ) (held : ℕ → HeldCall) : Prop where
  shadowed : here.1.Shadowed (circuitShadow μ) none held
  shown : ∀ backend, ∃ traffic,
    Traffic.Follows backend (Traffic.initial settings start) writes traffic ∧
      traffic.Shows backend here.1.shared.circuits here.2 held

section Runs

variable {settings : CircuitSettings} {start : ℚ} {held : ℕ → HeldCall}
  {writes : List (Write (Memory μ) ℚ)}

theorem followed_initial {world : World μ}
    (hfresh : ∀ backend, world.circuits backend = { settings := settings }) :
    Followed settings start [] (⟨world, []⟩, start) fun _ => none where
  shadowed := Pool.shadowed_empty world
  shown backend := ⟨_, .done _, (hfresh backend).symm, rfl, [], rfl, .none backend⟩

/-- A move as a whole, seen at one backend. -/
theorem Traffic.Shows.passing {traffic : Traffic} {backend : Backend} {first second : ℚ}
    {world world' : World μ} {held' : ℕ → HeldCall} {move : SystemMove μ}
    (h : traffic.Shows backend world.circuits first held) (hle : first ≤ second)
    (hpassing : Pool.Passing (circuitShadow μ) first second held world move writes world' held')
    (hleaves : ∀ update, move = .disturb update → ∀ world,
      (update world).circuits = world.circuits) :
    ∃ traffic', Traffic.Follows backend traffic writes traffic' ∧
      traffic'.Shows backend world'.circuits second held' := by
  cases hpassing with
  | disturbed update =>
      rw [hleaves update rfl world]
      obtain ⟨traffic', hwaits, hshows⟩ := h.wait hle
      exact ⟨traffic', .wait hwaits (.done _), hshows⟩
  | course le course =>
      obtain ⟨middle, hfollows, hmiddle⟩ := h.course rfl course
      obtain ⟨traffic', hwaits, hshows⟩ := hmiddle.wait le
      have happend := hfollows.append (.wait hwaits (.done _))
      rw [List.append_nil] at happend
      exact ⟨traffic', happend, hshows⟩

/-- What a call waits for is what it holds. -/
theorem Followed.held_eq {here : SystemPool μ × ℚ} (h : Followed settings start writes here held) :
    held = callsOf here.1 := by
  funext index
  rw [callsOf]
  cases hseat : here.1.seats[index]? with
  | none => exact h.shadowed.free index hseat
  | some seat =>
      have hseated := h.shadowed.seated index seat hseat
      rw [Option.bind_some, waitsFor?]
      cases hstanding : seat.standing with
      | parked query next =>
          rw [hstanding] at hseated
          exact hseated.1
      | ended out =>
          rw [hstanding] at hseated
          exact hseated

variable [Metric μ] {routers : Routers} {engine : RoutingEngine}

theorem Followed.step {here there : SystemPool μ × ℚ} {move : SystemMove μ}
    (h : Followed settings start writes here held)
    (hstep : SystemStep routers engine here move there) :
    ∃ held', Followed settings start
      (writes ++ here.1.writes SystemQuery.reading? (systemCrew μ routers engine) move) there
      held' := by
  obtain ⟨pool, first⟩ := here
  obtain ⟨pool', second⟩ := there
  obtain ⟨htimed, hleaves⟩ := hstep
  obtain ⟨held', hpassing, hshadowed⟩ := h.shadowed.step
    (fun call _ _ => routers.handle_shadowed engine call) htimed
  refine ⟨held', hshadowed, fun backend => ?_⟩
  obtain ⟨traffic, hfollows, hshows⟩ := h.shown backend
  obtain ⟨traffic', hrest, hshows'⟩ := hshows.passing htimed.le hpassing hleaves
  exact ⟨traffic', hfollows.append hrest, hshows'⟩

theorem Followed.run {here last : SystemPool μ × ℚ} {moves : List (SystemMove μ)}
    (h : Followed settings start writes here held)
    (hrun : Steps (SystemStep routers engine) here moves last) :
    ∃ held', Followed settings start (writes ++ systemWrites routers engine here.1 moves) last
      held' := by
  induction hrun generalizing writes held with
  | nil here =>
      rw [systemWrites, Pool.runWrites, List.append_nil]
      exact ⟨held, h⟩
  | @cons here next last move rest head tail ih =>
      obtain ⟨held', hnext⟩ := h.step head
      have hwrites : systemWrites routers engine here.1 (move :: rest) =
          here.1.writes SystemQuery.reading? (systemCrew μ routers engine) move ++
            systemWrites routers engine next.1 rest := by
        rw [systemWrites, Pool.runWrites, head.1.step]
        rfl
      rw [hwrites, ← List.append_assoc]
      exact ih hnext

theorem followed_of_run {world : World μ} {moves : List (SystemMove μ)} {last : SystemPool μ × ℚ}
    (hfresh : ∀ backend, world.circuits backend = { settings := settings })
    (hrun : Steps (SystemStep routers engine) (⟨world, []⟩, start) moves last) :
    Followed settings start (systemWrites routers engine ⟨world, []⟩ moves) last
      (callsOf last.1) := by
  obtain ⟨held, h⟩ := (followed_initial hfresh).run hrun
  rw [List.nil_append] at h
  rw [← h.held_eq]
  exact h

/-- Whatever runs interleaved, the traffic of each backend follows it: each write that changes the
backend's circuit is one of the traffic's moves, and the outstanding calls of the traffic are
those of the tasks that wait for the backend, each with its task. -/
theorem run_shows_traffic {world : World μ} {moves : List (SystemMove μ)} {pool : SystemPool μ}
    {now : ℚ} (hfresh : ∀ backend, world.circuits backend = { settings := settings })
    (hrun : Steps (SystemStep routers engine) (⟨world, []⟩, start) moves (pool, now))
    (backend : Backend) :
    ∃ traffic calls,
      Traffic.Follows backend (Traffic.initial settings start)
          (systemWrites routers engine ⟨world, []⟩ moves) traffic ∧
        traffic.circuit = pool.shared.circuits backend ∧ traffic.now = now ∧
          traffic.outstanding = calls.map Prod.snd ∧ Attributed backend (callsOf pool) calls := by
  obtain ⟨traffic, hfollows, hshows⟩ := (followed_of_run hfresh hrun).shown backend
  obtain ⟨calls, houtstanding, hattributed⟩ := hshows.attributed
  exact ⟨traffic, calls, hfollows, hshows.circuit_eq, hshows.now_eq, houtstanding, hattributed⟩

end Runs

/-- Nobody answers, and the circuits' clock stands still. -/
def unreachableAt (now : ℚ) : Coro.Oracle systemInterface
  | _, .loopTime => (0 : ℚ)
  | _, .monotonic => now
  | _, .post _ _ => (.error .network : Except TransportFailure HttpResponse)
  | _, .closeClient _ _ _ => (.ok () : Except TransportFailure Unit)
  | _, .process response => (.ok response : Except PyException String)

theorem timely_unreachableAt {start now : ℚ} (hle : start ≤ now) :
    (unreachableAt now).Timely SystemQuery.reading? start now := by
  have hreading : ∀ index query reading,
      SystemQuery.reading? query (unreachableAt now index query) = some reading →
        reading = now := by
    intro index query reading h
    cases query with
    | monotonic => exact (Option.some.inj h).symm
    | loopTime | post | closeClient | process => cases h
  constructor
  · intro index query reading h
    rw [hreading index query reading h]
    exact hle
  · intro index query reading h
    rw [hreading index query reading h]
  · intro first second query query' reading reading' _ h h'
    rw [hreading _ _ _ h, hreading _ _ _ h']

/-- A process whose circuits open at the first failure. -/
def touchyProcess : SystemPool ℤ :=
  ⟨{ (deployment [generalProvider "p" 1 .google] none).shared with
      circuits := fun _ => { settings := Traffic.oneProbe } }, []⟩

def touchyStep : SystemPool ℤ → SystemMove ℤ → Option (SystemPool ℤ) :=
  Pool.step (systemCrew ℤ googleThenNvidia { maxAttempts := 5 })

/-- A call finds the primary router's backend unreachable. 30 seconds later a second call comes
in, and its router call is the probe. -/
def untilProbe : List (SystemMove ℤ) :=
  [.start firstOpinionCall (unreachableAt 0), .resume 0 (unreachableAt 0),
    .start firstOpinionCall (unreachableAt 30)]

theorem steps_untilProbe {pool : SystemPool ℤ} (h : pool ∈ replay touchyStep touchyProcess
    untilProbe) :
    Steps (SystemStep googleThenNvidia { maxAttempts := 5 }) (touchyProcess, 0) untilProbe
      (pool, 30) := by
  obtain ⟨first, hfirst, h⟩ := Option.bind_eq_some_iff.mp h
  obtain ⟨second, hsecond, h⟩ := Option.bind_eq_some_iff.mp h
  obtain ⟨third, hthird, h⟩ := Option.bind_eq_some_iff.mp h
  cases h
  have htimed : ∀ {start now : ℚ}, start ≤ now → ∀ oracle ∈ some (unreachableAt now),
      oracle.Timely SystemQuery.reading? start now := by
    rintro start now hle _ ⟨⟩
    exact timely_unreachableAt hle
  have hfirst' : SystemStep googleThenNvidia { maxAttempts := 5 } (touchyProcess, 0)
      (.start firstOpinionCall (unreachableAt 0)) (first, 0) :=
    ⟨⟨hfirst, le_rfl, htimed le_rfl⟩, nofun⟩
  have hsecond' : SystemStep googleThenNvidia { maxAttempts := 5 } (first, 0)
      (.resume 0 (unreachableAt 0)) (second, 0) :=
    ⟨⟨hsecond, le_rfl, htimed le_rfl⟩, nofun⟩
  have hthird' : SystemStep googleThenNvidia { maxAttempts := 5 } (second, 0)
      (.start firstOpinionCall (unreachableAt 30)) (pool, 30) :=
    ⟨⟨hthird, by norm_num, htimed (by norm_num)⟩, nofun⟩
  exact .cons hfirst' (.cons hsecond' (.cons hthird' (.nil _)))

/-- Both calls wait, and the second is outstanding at the backend of the primary router. -/
theorem run_shows_traffic_untilProbe :
    ∃ pool ∈ replay touchyStep touchyProcess untilProbe, ∃ traffic,
      Traffic.Follows .google (Traffic.initial Traffic.oneProbe 0)
          (systemWrites googleThenNvidia { maxAttempts := 5 } touchyProcess untilProbe) traffic ∧
        traffic.circuit = pool.shared.circuits .google ∧
          ∃ call ∈ traffic.outstanding, call.caller = .router := by
  obtain ⟨pool, hpool, hheld⟩ : ∃ pool ∈ replay touchyStep touchyProcess untilProbe,
      callsOf pool 1 = some (.google, .router) := by
    decide +kernel
  obtain ⟨traffic, calls, hfollows, hcircuit, -, houtstanding, hattributed⟩ :=
    run_shows_traffic (fun _ => rfl) (steps_untilProbe hpool) .google
  obtain ⟨call, hcall, hcaller⟩ := (hattributed.mem_iff 1 .router).mp hheld
  refine ⟨pool, hpool, traffic, hfollows, hcircuit, call, ?_, hcaller⟩
  rw [houtstanding]
  exact List.mem_map_of_mem hcall

/-- The task waits for the backend: for the reply to a request, or for the client of a dispatch
to close. -/
def occupies (backend : Backend) (seat : SystemSeat μ) : Bool :=
  ((waitsFor? seat).bind SystemQuery.call?).any fun call => decide (call.1 = backend)

/-- Different indices of elements with a property are no more than the elements with it. -/
theorem length_le_countP {α : Type} {p : α → Bool} {indices : List ℕ} (hnodup : indices.Nodup) :
    ∀ {elements : List α}, (∀ index ∈ indices, ∃ element, elements[index]? = some element ∧
      p element = true) → indices.length ≤ elements.countP p := by
  intro elements h
  have hcount : ∀ elements : List α,
      ((List.range elements.length).filter fun index => elements[index]?.any p).length =
        elements.countP p := by
    intro elements
    rw [← List.countP_eq_length_filter]
    induction elements with
    | nil => rfl
    | cons first rest ih =>
        rw [List.length_cons, List.range_succ_eq_map, List.countP_cons, List.countP_cons,
          List.countP_map, ← ih]
        rfl
  rw [← hcount]
  apply List.Subperm.length_le
  apply hnodup.subperm
  intro index hindex
  obtain ⟨element, helement, hp⟩ := h index hindex
  have hlt := (List.getElem?_eq_some_iff.mp helement).1
  rw [List.mem_filter, List.mem_range, helement]
  exact ⟨hlt, hp⟩

/-- Who holds a call at a backend occupies it. -/
theorem occupies_of_callsOf {pool : SystemPool μ} {backend : Backend} {index : ℕ}
    {caller : Caller} (hheld : callsOf pool index = some (backend, caller)) :
    ∃ seat, pool.seats[index]? = some seat ∧ occupies backend seat = true := by
  obtain ⟨query, hquery, hcall⟩ := Option.bind_eq_some_iff.mp hheld
  obtain ⟨seat, hseat, hwaits⟩ := Option.bind_eq_some_iff.mp hquery
  refine ⟨seat, hseat, ?_⟩
  rw [occupies, hwaits, Option.bind_some, hcall]
  exact decide_eq_true rfl

/-- The circuit is not OPEN, or its cooldown is over by then. -/
def BackendCircuit.Cooled (circuit : BackendCircuit) (now : ℚ) : Prop :=
  circuit.state = .open → ∀ openedAt ∈ circuit.openedAt,
    openedAt + circuit.settings.openSeconds ≤ now

/-- With no slot taken and no cooldown on, a request is let in. -/
theorem BackendCircuit.WellFormed.admits {circuit : BackendCircuit} {now : ℚ}
    (h : circuit.WellFormed) (hfree : circuit.halfOpenInflight = 0)
    (hcooled : circuit.Cooled now) :
    ∃ circuit', circuit.allowRequest now = some (true, circuit') := by
  cases hstate : circuit.state with
  | closed => exact ⟨_, allowRequest_of_closed hstate⟩
  | halfOpen =>
      refine ⟨_, allowRequest_of_free hstate ?_⟩
      rw [hfree]
      exact circuit.settings.halfOpenProbes_pos
  | «open» =>
      have hsome := h.openedAt_isSome (by simp [hstate])
      obtain ⟨openedAt, hopened⟩ := Option.isSome_iff_exists.mp hsome
      exact ⟨_, allowRequest_of_cooled hstate hopened (hcooled hstate openedAt hopened)⟩

/-- No interleaving of calls leaks a probe slot: a circuit never has more slots taken than tasks
wait for its backend. Once none does, it admits the next request as soon as a cooldown that may
be on is over. -/
theorem slots_taken_by_waiting_calls [Metric μ] {settings : CircuitSettings} {start now : ℚ}
    {routers : Routers} {engine : RoutingEngine} {world : World μ}
    {moves : List (SystemMove μ)} {pool : SystemPool μ}
    (hfresh : ∀ backend, world.circuits backend = { settings := settings })
    (hrun : Steps (SystemStep routers engine) (⟨world, []⟩, start) moves (pool, now))
    (backend : Backend) :
    (pool.shared.circuits backend).halfOpenInflight ≤ pool.seats.countP (occupies backend) ∧
      ((∀ seat ∈ pool.seats, occupies backend seat = false) → ∀ later,
        (pool.shared.circuits backend).Cooled later →
          ∃ circuit, (pool.shared.circuits backend).allowRequest later = some (true, circuit)) := by
  obtain ⟨traffic, hfollows, hshows⟩ := (followed_of_run hfresh hrun).shown backend
  obtain ⟨actions, hactions⟩ := hfollows.steps
  obtain ⟨calls, houtstanding, hattributed⟩ := hshows.attributed
  have hoccupied : calls.length ≤ pool.seats.countP (occupies backend) := by
    rw [← List.length_map Prod.fst]
    apply length_le_countP hattributed.nodup
    intro index hindex
    obtain ⟨⟨_, call⟩, hcall, rfl⟩ := List.mem_map.mp hindex
    exact occupies_of_callsOf ((hattributed.mem_iff _ call.caller).mpr ⟨call, hcall, rfl⟩)
  have hinv := Traffic.Reachable.invariant ⟨start, actions, hactions⟩
  have htaken := calc (pool.shared.circuits backend).halfOpenInflight
      = traffic.circuit.halfOpenInflight := by rw [hshows.circuit_eq]
    _ ≤ traffic.heldProbes := hinv.inflight_le
    _ ≤ traffic.outstanding.length := List.countP_le_length
    _ = calls.length := by rw [houtstanding, List.length_map]
    _ ≤ pool.seats.countP (occupies backend) := hoccupied
  refine ⟨htaken, fun hnobody later hcooled => ?_⟩
  rw [List.countP_eq_zero.mpr (by simpa using hnobody)] at htaken
  have hwellFormed := hinv.wellFormed
  rw [hshows.circuit_eq] at hwellFormed
  exact hwellFormed.admits (Nat.le_zero.mp htaken) hcooled

/-- The probe's slot is the only one taken, and the second call waits for its backend. -/
theorem slots_taken_by_waiting_calls_untilProbe :
    ∃ pool ∈ replay touchyStep touchyProcess untilProbe,
      0 < pool.seats.countP (occupies .google) := by
  obtain ⟨pool, hpool, hprobe⟩ :
      ∃ pool ∈ replay touchyStep touchyProcess untilProbe,
        (pool.shared.circuits .google).halfOpenInflight = 1 := by
    decide +kernel
  have htaken := (slots_taken_by_waiting_calls (fun _ => rfl) (steps_untilProbe hpool) .google).1
  refine ⟨pool, hpool, ?_⟩
  rw [hprobe] at htaken
  exact htaken

end LLMRouting
