/-
# Calls that overlap on one conversation

A call works on a copy of its conversation's record, across its suspensions, and writes the
whole copy back. This module says what that guarantees when calls on one conversation
overlap, each running from one suspension to the next: every call builds on its own copy,
whatever has become of the stored record, and nothing is lost in a run in which no resumed
call overwrites a record that is not the one it works on.
-/

import LLMRouting.Interaction.Interleaving
import LLMRouting.Routing.Commit

namespace LLMRouting

open LLMRouting.Interaction

variable {μ : Type} {engine : RoutingEngine} {call : HandleCall}

/-- The record a call would work on: its own copy, or the stored record before it has one. -/
def HandleCall.view (call : HandleCall) (m : Memory μ) : Option ConversationState :=
  m.own.state.or (call.record m)

theorem view_of_own {m : Memory μ} {state : ConversationState} (h : m.own.state = some state) :
    call.view m = some state := by
  rw [HandleCall.view, h, Option.some_or]

theorem view_of_none {m : Memory μ} (h : m.own.state = none) : call.view m = call.record m := by
  rw [HandleCall.view, h, Option.none_or]

/-- A call goes on from its view of the record, in its copy and in what it stores. A new
message begins a turn of its own before it has a copy. -/
structure Builds (call : HandleCall) (m m' : Memory μ) : Prop where
  own_isSome : m.own.state.isSome → m'.own.state.isSome
  continues : call.request.retry = true ∨ m.own.state.isSome → ∀ state ∈ call.view m,
    (∃ state' ∈ call.view m', state.Extends state') ∧
      (call.record m' = call.record m ∨ ∃ stored ∈ call.record m', state.Extends stored)

theorem Builds.refl (m : Memory μ) : Builds call m m where
  own_isSome h := h
  continues _ state hstate := ⟨⟨state, hstate, .refl state⟩, Or.inl rfl⟩

theorem Builds.trans {first second third : Memory μ} (h : Builds call first second)
    (h' : Builds call second third) : Builds call first third where
  own_isSome hsome := h'.own_isSome (h.own_isSome hsome)
  continues hworks state hstate := by
    obtain ⟨⟨state', hstate', hextends⟩, hstored⟩ := h.continues hworks state hstate
    obtain ⟨⟨state'', hstate'', hextends'⟩, hstored'⟩ :=
      h'.continues (hworks.imp_right h.own_isSome) state' hstate'
    refine ⟨⟨state'', hstate'', hextends.trans hextends'⟩, ?_⟩
    rcases hstored' with hsame | ⟨stored, hmem, hlater⟩
    · rw [hsame]
      exact hstored
    · exact Or.inr ⟨stored, hmem, hextends.trans hlater⟩

theorem Builds.of_reflTransGen {m m' : Memory μ}
    (h : Relation.ReflTransGen (Builds call) m m') : Builds call m m' := by
  induction h with
  | refl => exact .refl m
  | tail _ hstep ih => exact ih.trans hstep

/-- The contract of a call among others on its conversation: it relies on its own memory
only, and it has a copy of the record whenever it is suspended. -/
def buildsContract (call : HandleCall) : Contract (Memory μ) where
  rely m m' := m'.own = m.own
  guar := Builds call
  pause m := m.own.state.isSome

theorem builds_terms (call : HandleCall) :
    Terms (buildsContract (μ := μ) call) False Set.univ call where
  pause h := h
  rely h hrely := by
    have hown : _ = _ := hrely
    refine ⟨?_, ?_, h.id_eq, trivial, False.elim⟩
    · rw [hown, h.state_eq]
    · rw [hown, h.tenant_eq]
  note hstate hstate' hextends hsame := by
    refine ⟨fun _ => by rw [hstate']; rfl, ?_⟩
    intro _ state hmem
    rw [view_of_own hstate] at hmem
    cases hmem
    exact ⟨⟨_, view_of_own hstate', hextends⟩, Or.inl (by rw [HandleCall.record, hsame])⟩
  enter hnone hstored hstate hsame := by
    refine ⟨fun _ => by rw [hstate]; rfl, ?_⟩
    intro _ state hmem
    rw [view_of_none hnone, HandleCall.record, hstored] at hmem
    cases hmem
    exact ⟨⟨_, view_of_own hstate, .refl _⟩, Or.inl (by rw [HandleCall.record, hsame])⟩
  put hstate hid _ := by
    refine ⟨fun h => h, ?_⟩
    intro _ state hmem
    rw [view_of_own hstate] at hmem
    cases hmem
    refine ⟨⟨_, view_of_own hstate, .refl _⟩, Or.inr ⟨_, ?_, .refl _⟩⟩
    rw [HandleCall.record, ← hid]
    exact ConversationStateManager.load_put_self
  begins hmessage hnone := by
    constructor
    · intro hsome
      rw [hnone] at hsome
      cases hsome
    · rintro (hretry | hsome)
      · rw [hmessage] at hretry
        cases hretry
      · rw [hnone] at hsome
        cases hsome

/-- Every call keeps its contract, wherever it starts. -/
theorem builds_handle [Metric μ] (engine : RoutingEngine) (call : HandleCall) (shared : World μ) :
    (Routine.handle engine call).wp (buildsContract call) (fun _ _ _ => True)
      ⟨shared, { requestId := "" }⟩ := by
  have hreset : ∀ now : ℚ, Builds call ⟨shared, { requestId := "" }⟩
      ⟨shared, Routine.newCapture engine call now⟩ := by
    intro now
    refine ⟨fun h => h, ?_⟩
    intro _ state hmem
    exact ⟨⟨state, hmem, .refl state⟩, Or.inl rfl⟩
  apply Coro.wp_mono ((builds_terms call).handle (P := fun _ _ _ _ _ _ => True) trivial hreset
    fun _ _ _ _ _ _ _ _ => trivial)
  exact fun _ _ _ _ => trivial

/-- Where the loop first gives up the floor, or where it ends without doing so, the stored
record is the one it began with. -/
def EntersWith (call : HandleCall) (state : ConversationState) (trace : List (EngineEvent μ))
    (m' : Memory μ) : Prop :=
  (trace = [] → call.record m' = some state) ∧ ∀ event ∈ trace.head?,
    engineInterface.suspends event.query = true ∧ call.record event.memory = some state

theorem entersWith_nil {state : ConversationState} {m' : Memory μ}
    (h : call.record m' = some state) : EntersWith call state [] m' := by
  refine ⟨fun _ => h, ?_⟩
  intro event hevent
  simp at hevent

theorem entersWith_of_consulted [Metric μ] {state : ConversationState} {m m' : Memory μ}
    {candidateSet : CandidateSet μ} {ladder : List (EngineEvent μ)} (rest : List (EngineEvent μ))
    (hconsulted : Discipline.Consultation engine call (Surroundings.discipline True Set.univ call)
      state m candidateSet ladder) : EntersWith call state (ladder ++ rest) m' := by
  obtain ⟨asked, later, rfl, -, hrequested⟩ := hconsulted.head
  refine ⟨fun h => absurd h (by simp), ?_⟩
  rintro event ⟨⟩
  have hheld := Surroundings.held_iff.mp (hconsulted.heldAsking asked List.mem_cons_self)
  refine ⟨?_, hheld.stored trivial⟩
  rcases asked with ⟨query, memory, reply⟩
  cases query with
  | decide tier request => rfl
  | loopTime | dispatch | process => cases hrequested

theorem entersWith_of_iteration [Metric μ] {state : ConversationState} {blocked : List Backend}
    {m m' : Memory μ} {trace : List (EngineEvent μ)} {out : Except Raised RoutingResponse}
    {rest : List Backend → Memory μ → List (EngineEvent μ) → Memory μ →
      Except Raised RoutingResponse → Prop}
    (hm : Held True Set.univ call state m)
    (h : Discipline.IterationOutcome engine call (Surroundings.discipline True Set.univ call) state
      blocked m rest trace m' out) : EntersWith call state trace m' := by
  have hladder : ∀ {candidateSet : CandidateSet μ} {ladder : List (EngineEvent μ)},
      Discipline.Consultation engine call (Surroundings.discipline True Set.univ call) state m
        candidateSet ladder → EntersWith call state ladder m' := by
    intro candidateSet ladder hconsulted
    rw [← List.append_nil ladder]
    exact entersWith_of_consulted [] hconsulted
  cases h with
  | guarded => exact entersWith_nil (hm.stored trivial)
  | refused held => exact entersWith_nil ((Surroundings.held_iff.mp held).stored trivial)
  | undecided consulted => exact hladder consulted
  | replied consulted => exact hladder consulted
  | stopped consulted => exact hladder consulted
  | lost consulted => exact hladder consulted
  | retried consulted => exact entersWith_of_consulted _ consulted
  | executed consulted => exact entersWith_of_consulted _ consulted

/-- A new message enters the loop with its fresh record. -/
theorem entersWith_of_run [Metric μ] {m m' : Memory μ} {trace : List (EngineEvent μ)}
    {out : Except Raised RoutingResponse} (hmessage : call.request.retry = false)
    (hrun : Coro.Run (Surroundings True Set.univ call) (Routine.handle engine call) m
      trace m' out) :
    ∃ now body, trace = ⟨.loopTime, m, now⟩ :: body ∧
      EntersWith call (Routine.freshTurn call
        ((call.record m).getD (Terms.createdState engine call))) body m' := by
  obtain ⟨now, body, result, rfl, hbody, -⟩ := Surroundings.outcome
    (P := fun state _ _ trace m' _ => EntersWith call state trace m') hrun trivial
    fun _ _ _ _ _ _ => entersWith_of_iteration
  refine ⟨now, body, rfl, ?_⟩
  cases hbody with
  | unknown retry | imageRequired retry | exhausted retry | stopped retry | retried retry =>
      rw [hmessage] at retry
      cases retry
  | begun _ found _ _ later =>
      rw [← found] at later
      exact later
  | lost lost => exact absurd trivial lost

/-- A new message has stored its fresh record when it first gives up the floor, or ends. -/
theorem record_of_message [Metric μ] {m : Memory μ} (hmessage : call.request.retry = false)
    (oracle : Coro.Oracle engineInterface) :
    call.record ((Routine.handle engine call).advance oracle m 0).2 =
      some (Routine.freshTurn call
        ((call.record m).getD (Terms.createdState engine call))) := by
  obtain ⟨now, body, htrace, hempty, hhead⟩ := entersWith_of_run hmessage
    (Coro.run_eval Surroundings.refl oracle (Routine.handle engine call) m 0)
  cases hstanding : ((Routine.handle engine call).advance oracle m 0).1 with
  | parked query next =>
      obtain ⟨before, reply, rest, hbefore, hquery, heval⟩ := Coro.eval_of_parked oracle hstanding
      rw [htrace] at heval
      rcases before with _ | ⟨clock, before⟩
      · have hclock : EngineQuery.loopTime = query := congrArg Event.query (List.cons.inj heval).1
        rw [← hclock] at hquery
        cases hquery
      · have hrest := (List.cons.inj heval).2
        rcases before with _ | ⟨event, before⟩
        · exact (hhead _ (by rw [hrest]; rfl)).2
        · have hsuspends := (hhead event (by rw [hrest]; rfl)).1
          rw [hbefore event (by simp)] at hsuspends
          cases hsuspends
  | ended out =>
      obtain ⟨hlocal, hfinal⟩ := Coro.eval_of_ended oracle hstanding
      rw [htrace] at hlocal
      rw [hfinal] at hempty
      rcases body with _ | ⟨event, body⟩
      · exact hempty rfl
      · have hsuspends := (hhead event rfl).1
        rw [hlocal event (by simp)] at hsuspends
        cases hsuspends

/-- A call on a given conversation. -/
structure ConversationCall (tenantId conversationId : String) where
  call : HandleCall
  tenantId_eq : call.tenantId = tenantId
  conversationId_eq : call.request.conversationId = conversationId

abbrev ConversationPool (μ : Type) (tenantId conversationId : String) : Type :=
  Pool engineInterface (World μ) (Capture μ) Raised RoutingResponse
    (ConversationCall tenantId conversationId)

abbrev ConversationMove (μ : Type) (tenantId conversationId : String) : Type :=
  Move engineInterface (World μ) (ConversationCall tenantId conversationId)

section Pool

variable {tenantId conversationId : String}

/-- The conversation's record. -/
def storedRecord (pool : ConversationPool μ tenantId conversationId) : Option ConversationState :=
  pool.shared.conversations.load conversationId tenantId

theorem record_eq (label : ConversationCall tenantId conversationId) (m : Memory μ) :
    label.call.record m = m.shared.conversations.load conversationId tenantId := by
  rw [HandleCall.record, label.tenantId_eq, label.conversationId_eq]

/-- What a stretch under the contract stores, from the record in view when it begins. -/
theorem stored_of_builds {label : ConversationCall tenantId conversationId} {m m' : Memory μ}
    (h : Relation.ReflTransGen (buildsContract label.call).guar m m')
    (hworks : label.call.request.retry = true ∨ m.own.state.isSome) {state : ConversationState}
    (hview : label.call.view m = some state) :
    m'.shared.conversations.load conversationId tenantId =
        m.shared.conversations.load conversationId tenantId ∨
      ∃ stored, m'.shared.conversations.load conversationId tenantId = some stored ∧
        state.Extends stored := by
  obtain ⟨-, hstored⟩ := (Builds.of_reflTransGen h).continues hworks state hview
  rw [record_eq, record_eq] at hstored
  exact hstored

/-- The turn of a record goes on: nothing counted or excluded is lost. -/
def Grows (before after : Option ConversationState) : Prop :=
  ∀ state ∈ before, ∃ state' ∈ after, state.Extends state'

theorem Grows.refl (record : Option ConversationState) : Grows record record :=
  fun state hstate => ⟨state, hstate, .refl state⟩

theorem Grows.trans {first second third : Option ConversationState} (h : Grows first second)
    (h' : Grows second third) : Grows first third := by
  intro state hstate
  obtain ⟨state', hstate', hextends⟩ := h state hstate
  obtain ⟨state'', hstate'', hextends'⟩ := h' state' hstate'
  exact ⟨state'', hstate'', hextends.trans hextends'⟩

/-- A new message starts a turn of its own. -/
def BeginsTurn : ConversationMove μ tenantId conversationId → Prop
  | .start label _ => label.call.request.retry = false
  | .resume _ _ | .disturb _ => False

/-- A stretch of a call, as opposed to a change from outside. -/
def IsCall : ConversationMove μ tenantId conversationId → Prop
  | .start _ _ | .resume _ _ => True
  | .disturb _ => False

variable [Metric μ]

/-- The engine's calls. Each starts with a capture that knows of no record. -/
def conversationCrew (μ : Type) [Metric μ] (engine : RoutingEngine)
    (tenantId conversationId : String) :
    Crew engineInterface (World μ) (Capture μ) Raised RoutingResponse
      (ConversationCall tenantId conversationId) where
  program label := Routine.handle engine label.call
  initial _ := { requestId := "" }

/-- What a stretch of a call does to the stored record: a retry that starts goes on from it, a
message that starts replaces it by a fresh one, and a call that is resumed leaves it alone or
replaces it by one that goes on from the copy the call took along. -/
inductive LastWriter (engine : RoutingEngine)
    (pool pool' : ConversationPool μ tenantId conversationId) :
    ConversationMove μ tenantId conversationId → Prop
  | retry {label : ConversationCall tenantId conversationId} {oracle : Coro.Oracle engineInterface}
      (retry : label.call.request.retry = true)
      (grows : Grows (storedRecord pool) (storedRecord pool')) :
      LastWriter engine pool pool' (.start label oracle)
  | message {label : ConversationCall tenantId conversationId}
      {oracle : Coro.Oracle engineInterface} (message : label.call.request.retry = false)
      (begun : storedRecord pool' = some (Routine.freshTurn label.call
        ((storedRecord pool).getD (Terms.createdState engine label.call)))) :
      LastWriter engine pool pool' (.start label oracle)
  | kept {index : ℕ} {oracle : Coro.Oracle engineInterface}
      (same : storedRecord pool' = storedRecord pool) :
      LastWriter engine pool pool' (.resume index oracle)
  | wrote {index : ℕ} {oracle : Coro.Oracle engineInterface}
      {seat : Seat engineInterface (World μ) (Capture μ) Raised RoutingResponse
        (ConversationCall tenantId conversationId)}
      {copy stored : ConversationState} (seated : pool.seats[index]? = some seat)
      (own : seat.own.state = some copy) (written : storedRecord pool' = some stored)
      (continues : copy.Extends stored) :
      LastWriter engine pool pool' (.resume index oracle)
  | disturbed {update : World μ → World μ} (outside : pool'.shared = update pool.shared) :
      LastWriter engine pool pool' (.disturb update)

/-- A move that overwrites no record but the one the resumed call works on. -/
def Fresh (engine : RoutingEngine) (pool : ConversationPool μ tenantId conversationId)
    (move : ConversationMove μ tenantId conversationId) : Prop :=
  match move with
  | .start _ _ => True
  | .resume index oracle =>
      (∀ pool', pool.step (conversationCrew μ engine tenantId conversationId)
        (.resume index oracle) = some pool' → storedRecord pool' = storedRecord pool) ∨
      ∀ seat, pool.seats[index]? = some seat → seat.own.state = storedRecord pool
  | .disturb update =>
      (update pool.shared).conversations.load conversationId tenantId = storedRecord pool

/-- No stretch of any call, other than the start of a new message, takes anything from the
stored record. -/
def NoUpdateLost (μ : Type) [Metric μ] (engine : RoutingEngine)
    (tenantId conversationId : String) : Prop :=
  ∀ (world : World μ) (moves : List (ConversationMove μ tenantId conversationId)) pool move pool',
    (∀ earlier ∈ moves, IsCall earlier) → IsCall move → ¬ BeginsTurn move →
    Steps (Enabled (Pool.step (conversationCrew μ engine tenantId conversationId)))
      ⟨world, []⟩ moves pool →
    pool.step (conversationCrew μ engine tenantId conversationId) move = some pool' →
      Grows (storedRecord pool) (storedRecord pool')

variable {pool pool' : ConversationPool μ tenantId conversationId}
  {move : ConversationMove μ tenantId conversationId}
  {moves : List (ConversationMove μ tenantId conversationId)}

/-- Every call in a seat keeps its contract. -/
def Seated (pool : ConversationPool μ tenantId conversationId) : Prop :=
  pool.Keeps fun label => buildsContract label.call

theorem Seated.step (hseated : Seated pool)
    (h : pool.step (conversationCrew μ engine tenantId conversationId) move = some pool') :
    Seated pool' ∧ Pool.Effect (conversationCrew μ engine tenantId conversationId)
      (fun label => buildsContract label.call) pool move pool'.shared :=
  Pool.Keeps.step hseated (fun label shared => builds_handle engine label.call shared)
    (fun _ _ _ hown => hown) h

theorem seated_of_run {world : World μ}
    (h : Steps (Enabled (Pool.step (conversationCrew μ engine tenantId conversationId)))
      ⟨world, []⟩ moves pool) : Seated pool := by
  apply Steps.invariant (P := Seated) h
  · intro seat hseat
    simp at hseat
  · intro s move s' hs hstep
    exact (hs.step hstep).1

/-- What one stretch stores, in any pool of calls. -/
theorem lastWriter_of_step (hseated : Seated pool)
    (h : pool.step (conversationCrew μ engine tenantId conversationId) move = some pool') :
    LastWriter engine pool pool' move := by
  have heffect := (hseated.step h).2
  generalize hshared : pool'.shared = shared at heffect
  cases heffect with
  | @started label oracle m guaranteed =>
      cases hretry : label.call.request.retry with
      | true =>
          refine .retry hretry ?_
          intro state hstate
          have hview : label.call.view ⟨pool.shared, { requestId := "" }⟩ = some state := by
            rw [view_of_none rfl, record_eq]
            exact hstate
          have hstored := stored_of_builds guaranteed (Or.inl hretry) hview
          rw [← hshared] at hstored
          rcases hstored with hsame | ⟨stored, hstored, hextends⟩
          · exact ⟨state, hsame.trans hstate, .refl state⟩
          · exact ⟨stored, hstored, hextends⟩
      | false =>
          let entering : Memory μ := ⟨pool.shared, { requestId := "" }⟩
          have hrecord : label.call.record
              ((Routine.handle engine label.call).advance oracle entering 0).2 =
                some (Routine.freshTurn label.call ((label.call.record entering).getD
                  (Terms.createdState engine label.call))) :=
            record_of_message hretry oracle
          rw [record_eq, record_eq] at hrecord
          cases h
          exact .message hretry hrecord
  | @resumed index oracle seat _ m seated paused guaranteed =>
      obtain ⟨copy, hcopy⟩ := Option.isSome_iff_exists.mp paused
      have hstored := stored_of_builds guaranteed (Or.inr paused) (view_of_own hcopy)
      rw [← hshared] at hstored
      rcases hstored with hsame | ⟨stored, hstored, hextends⟩
      · exact .kept hsame
      · exact .wrote seated hcopy hstored hextends
  | disturbed => exact .disturbed hshared

/-- A fresh move within a turn takes nothing from the stored record. -/
theorem grows_of_fresh (hseated : Seated pool)
    (h : pool.step (conversationCrew μ engine tenantId conversationId) move = some pool')
    (hfresh : Fresh engine pool move) (hturn : ¬ BeginsTurn move) :
    Grows (storedRecord pool) (storedRecord pool') := by
  cases lastWriter_of_step hseated h with
  | retry _ grows => exact grows
  | message message => exact absurd message hturn
  | kept same =>
      rw [same]
      exact .refl _
  | wrote seated own written continues =>
      rcases hfresh with hkept | hown
      · rw [hkept pool' h]
        exact .refl _
      · rw [← hown _ seated, own, written]
        rintro _ ⟨⟩
        exact ⟨_, rfl, continues⟩
  | disturbed outside =>
      have hsame : storedRecord pool' = storedRecord pool := by
        rw [storedRecord, outside]
        exact hfresh
      rw [hsame]
      exact .refl _

/-- The moves of a turn that overwrite no record but the one the resumed call works on. -/
def FreshTurnStep (engine : RoutingEngine) :
    ConversationPool μ tenantId conversationId → ConversationMove μ tenantId conversationId →
      ConversationPool μ tenantId conversationId → Prop :=
  Guarded (Pool.step (conversationCrew μ engine tenantId conversationId))
    fun pool move => Fresh engine pool move ∧ ¬ BeginsTurn move

/-- Nothing is lost in a turn whose moves are all fresh. -/
theorem grows_of_run (hseated : Seated pool) (h : Steps (FreshTurnStep engine) pool moves pool') :
    Grows (storedRecord pool) (storedRecord pool') := by
  induction h with
  | nil => exact .refl _
  | cons head _ ih =>
      obtain ⟨hstep, hfresh, hturn⟩ := head
      exact (grows_of_fresh hseated hstep hfresh hturn).trans (ih (hseated.step hstep).1)

/-- Calls that overlap on one conversation: whoever writes last wins, with a record that goes
on from its own copy; and as long as no resumed call overwrites a record other than its own
copy, a turn loses no attempt and no exclusion, and an earlier turn is not restored. -/
theorem overlapping_calls {world : World μ}
    (hrun : Steps (Enabled (Pool.step (conversationCrew μ engine tenantId conversationId)))
      ⟨world, []⟩ moves pool) :
    (∀ move pool', pool.step (conversationCrew μ engine tenantId conversationId) move = some pool' →
      LastWriter engine pool pool' move) ∧
    (∀ later pool', Steps (FreshTurnStep engine) pool later pool' →
      Grows (storedRecord pool) (storedRecord pool')) ∧
    ∀ label oracle begun later pool', label.call.request.retry = false →
      pool.step (conversationCrew μ engine tenantId conversationId) (.start label oracle) =
        some begun →
      Steps (FreshTurnStep engine) begun later pool' →
        ∃ stored, storedRecord pool' = some stored ∧ (Routine.freshTurn label.call
          ((storedRecord pool).getD (Terms.createdState engine label.call))).Extends stored := by
  have hseated := seated_of_run hrun
  refine ⟨fun move pool' h => lastWriter_of_step hseated h,
    fun later pool' h => grows_of_run hseated h, ?_⟩
  intro label oracle begun later pool' hmessage hstart hlater
  have hgrows := grows_of_run (hseated.step hstart).1 hlater
  cases lastWriter_of_step hseated hstart with
  | retry retry =>
      rw [hmessage] at retry
      cases retry
  | message _ fresh =>
      rw [fresh] at hgrows
      exact hgrows _ rfl

end Pool

/-- The routers always decide for the general group, and every provider answers. -/
def agreeable : Coro.Oracle engineInterface :=
  scripted (fun _ => .ok (.decision generalDecision)) fun _ => .ok "text"

def asking (message : String) : ConversationCall "legacy" "c" where
  call := { request := { conversationId := "c", message := message } }
  tenantId_eq := rfl
  conversationId_eq := rfl

def retrying : ConversationCall "legacy" "c" where
  call := { request := { conversationId := "c", message := "again", retry := true } }
  tenantId_eq := rfl
  conversationId_eq := rfl

/-- A question is answered; then a retry is started, and before it goes on another call is. -/
def overlapping (other : ConversationCall "legacy" "c") : List (ConversationMove ℤ "legacy" "c") :=
  [.start (asking "question") agreeable, .resume 0 agreeable, .resume 0 agreeable,
    .start retrying agreeable, .start other agreeable, .resume 1 agreeable]

def overlapPool (moves : List (ConversationMove ℤ "legacy" "c")) :
    Option (ConversationPool ℤ "legacy" "c") :=
  replay (Pool.step (conversationCrew ℤ { maxAttempts := 5 } "legacy" "c"))
    ⟨(deployment
      [generalProvider "first" 1 .google, generalProvider "second" 2 .nvidia] none).shared, []⟩
      moves

/-- The provider of the first retry answers last. -/
def answeredLast (moves : List (ConversationMove ℤ "legacy" "c")) : Option ConversationState :=
  (overlapPool moves).bind fun pool =>
    (pool.step (conversationCrew ℤ { maxAttempts := 5 } "legacy" "c") (.resume 1 agreeable)).bind
      storedRecord

/-- Of two retries that overlap, the one that commits last takes the other's attempt back;
and a retry that commits after a new message brings the old question back. -/
theorem updates_lost :
    ¬ NoUpdateLost ℤ { maxAttempts := 5 } "legacy" "c" ∧
      ((overlapPool (overlapping (asking "other"))).bind storedRecord).map
          ConversationState.originalQuery = some "other" ∧
      (answeredLast (overlapping (asking "other"))).map ConversationState.originalQuery =
        some "question" := by
  refine ⟨?_, by decide +kernel, by decide +kernel⟩
  intro hkept
  have hbefore : ((overlapPool (overlapping retrying)).bind storedRecord).map
      ConversationState.attemptCount = some 2 := by decide +kernel
  have hafter : (answeredLast (overlapping retrying)).map ConversationState.attemptCount =
      some 1 := by decide +kernel
  obtain ⟨before, hbefore, htwo⟩ := Option.map_eq_some_iff.mp hbefore
  obtain ⟨pool, hpool, hbefore⟩ := Option.bind_eq_some_iff.mp hbefore
  obtain ⟨after, hafter, hone⟩ := Option.map_eq_some_iff.mp hafter
  rw [answeredLast, hpool, Option.bind_some] at hafter
  obtain ⟨pool', hstep, hafter⟩ := Option.bind_eq_some_iff.mp hafter
  have hcalls : ∀ move ∈ overlapping retrying, IsCall move := by
    intro move hmove
    simp only [overlapping, List.mem_cons, List.not_mem_nil, or_false] at hmove
    rcases hmove with rfl | rfl | rfl | rfl | rfl | rfl
    all_goals exact trivial
  obtain ⟨stored, hstored, hextends⟩ := hkept _ _ pool (.resume 1 agreeable) pool' hcalls trivial id
    (steps_of_replay hpool) hstep before hbefore
  rw [hafter] at hstored
  cases hstored
  have hcount := hextends.attemptCount_le
  omega

/-- If nobody overwrites it, the second retry's attempt stays. -/
theorem overlapping_calls_fresh :
    ∃ pool, overlapPool (overlapping retrying) = some pool ∧
      ∀ later pool', Steps (FreshTurnStep { maxAttempts := 5 }) pool later pool' →
        ∃ stored ∈ storedRecord pool', 2 ≤ stored.attemptCount := by
  have hcount : ((overlapPool (overlapping retrying)).bind storedRecord).map
      ConversationState.attemptCount = some 2 := by decide +kernel
  obtain ⟨state, hstate, htwo⟩ := Option.map_eq_some_iff.mp hcount
  obtain ⟨pool, hpool, hstate⟩ := Option.bind_eq_some_iff.mp hstate
  refine ⟨pool, hpool, ?_⟩
  intro later pool' hlater
  obtain ⟨stored, hstored, hextends⟩ :=
    (overlapping_calls (steps_of_replay hpool)).2.1 later pool' hlater state hstate
  exact ⟨stored, hstored, htwo ▸ hextends.attemptCount_le⟩

end LLMRouting
