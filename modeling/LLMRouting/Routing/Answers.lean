/-
# Who answers within a turn

A turn is a new message and the retries after it. The provider of an answer is noted as the
last one, and only the next retry moves it to the exclusions, on one of several paths: in the
retry branch of a call or in its routing loop. Between the two it is still accounted for. This
module carries that through calls of every kind, so that the chain of a retry never offers a
provider that has answered in the turn before.
-/

import LLMRouting.Routing.Turns

namespace LLMRouting

open LLMRouting.Interaction

variable {μ : Type} {engine : RoutingEngine} {call : HandleCall}

/-- The call has ended in an ANSWER, and it is the provider's. -/
def AnsweredBy (trace : List (EngineEvent μ)) (out : Except Raised RoutingResponse)
    (providerId : String) : Prop :=
  (∃ response, out = .ok response ∧ response.action = .answer) ∧
    ∃ event ∈ trace, event.IsAnswer ∧ event.dispatched? = some providerId

theorem not_answeredBy_of_noAnswer {trace : List (EngineEvent μ)}
    {out : Except Raised RoutingResponse} {providerId : String} (h : NoAnswer out) :
    ¬ AnsweredBy trace out providerId := by
  rintro ⟨⟨response, hresponse, haction⟩, -⟩
  exact h response hresponse haction

/-- Questions that dispatched nobody do not matter. -/
theorem AnsweredBy.of_append {before trace : List (EngineEvent μ)}
    {out : Except Raised RoutingResponse} {providerId : String}
    (hbefore : ∀ event ∈ before, event.dispatched? = none)
    (h : AnsweredBy (before ++ trace) out providerId) : AnsweredBy trace out providerId := by
  obtain ⟨hout, event, hevent, hanswer, hdispatched⟩ := h
  refine ⟨hout, event, ?_, hanswer, hdispatched⟩
  rcases List.mem_append.mp hevent with hfirst | hsecond
  · rw [hbefore event hfirst] at hdispatched
    cases hdispatched
  · exact hsecond

/-- Diagnostics attached to an outcome do not change who answered. -/
theorem AnsweredBy.of_attached {m : Memory μ} {trace : List (EngineEvent μ)}
    {result out : Except Raised RoutingResponse} {providerId : String}
    (h : AnsweredBy trace out providerId) (hattached : Terms.Attached m result out) :
    AnsweredBy trace result providerId := by
  cases hattached with
  | raised => exact h
  | attached response =>
      obtain ⟨⟨_, ⟨⟩, haction⟩, hevent⟩ := h
      exact ⟨⟨response, rfl, haction⟩, hevent⟩
  | unbuilt => exact absurd h (not_answeredBy_of_noAnswer noAnswer_error)

/-- Two providers that answered in one chain are the same. -/
theorem NoneAfterAnswer.eq_of_mem {trace : List (EngineEvent μ)} (h : NoneAfterAnswer trace)
    {first second : EngineEvent μ} {id id' : String} (hfirst : first ∈ trace)
    (hsecond : second ∈ trace) (hanswer : first.IsAnswer) (hanswer' : second.IsAnswer)
    (hid : first.dispatched? = some id) (hid' : second.dispatched? = some id') : id = id' := by
  induction trace with
  | nil => cases hfirst
  | cons head rest ih =>
      obtain ⟨hhead, hrest⟩ := List.pairwise_cons.mp h
      rcases List.mem_cons.mp hfirst with rfl | hlater
      · rcases List.mem_cons.mp hsecond with rfl | hlater'
        · exact Option.some.inj (hid.symm.trans hid')
        · rw [hhead second hlater' hanswer] at hid'
          cases hid'
      · rcases List.mem_cons.mp hsecond with rfl | hlater'
        · rw [hhead first hlater hanswer'] at hid
          cases hid
        · exact ih hrest hlater hlater'

/-- The provider whose text became the answer is the one that answered. -/
theorem AnsweredBy.eq_of_produced {trace : List (EngineEvent μ)}
    {out : Except Raised RoutingResponse} {id providerId response : String}
    (h : AnsweredBy trace out id) (hnone : NoneAfterAnswer trace)
    (hproduced : Produced trace providerId response) : id = providerId := by
  obtain ⟨-, event, hevent, hanswer, hid⟩ := h
  obtain ⟨request, text, asked, cleaned, hdispatch, -⟩ := hproduced
  exact hnone.eq_of_mem hevent hdispatch hanswer trivial hid rfl

/-- Every provider in `answered` is excluded from the turn. -/
structure Settled (answered : Set String) (state : ConversationState) : Prop where
  nodup : state.excludedProviders.Nodup
  excluded : ∀ id ∈ answered, id ∈ state.excludedProviders

/-- Every provider in `answered` is the last one or excluded. -/
structure Accounted (answered : Set String) (record : Option ConversationState) : Prop where
  nodup : (excludedOf record).Nodup
  accounted : ∀ id ∈ answered,
    record.bind ConversationState.lastProvider = some id ∨ id ∈ excludedOf record

theorem Settled.accounted {answered : Set String} {state : ConversationState}
    (h : Settled answered state) : Accounted answered (some state) :=
  ⟨h.nodup, fun id hid => Or.inr (h.excluded id hid)⟩

/-- A retry excludes whoever answered last. -/
theorem Accounted.settled_retried {answered : Set String} {state : ConversationState}
    (h : Accounted answered (some state)) : Settled answered state.retried where
  nodup := ConversationState.nodup_excluded_retried h.nodup
  excluded id hid := by
    rw [ConversationState.mem_excluded_retried_iff]
    exact (h.accounted id hid).symm

theorem Settled.retried {answered : Set String} {state : ConversationState}
    (h : Settled answered state) : Settled answered state.retried :=
  h.accounted.settled_retried

theorem Accounted.mono {answered answered' : Set String} {record : Option ConversationState}
    (h : Accounted answered record) (hsub : answered' ⊆ answered) : Accounted answered' record :=
  ⟨h.nodup, fun id hid => h.accounted id (hsub hid)⟩

/-- A new message's turn begins with nobody excluded. -/
theorem settled_freshTurn (call : HandleCall) (state : ConversationState) :
    Settled ∅ (Routine.freshTurn call state) :=
  ⟨List.nodup_nil, fun _ hid => absurd hid (Set.notMem_empty _)⟩

/-- What the loop does in a turn in which the providers `answered` have answered before. -/
structure Distinct (answered : Set String) (call : HandleCall) (trace : List (EngineEvent μ))
    (m' : Memory μ) (out : Except Raised RoutingResponse) : Prop where
  asking : ∀ event ∈ trace, ∃ state, call.record event.memory = some state ∧
    Settled answered state
  stored : ∃ kept, call.record m' = some kept ∧ Settled answered kept ∧
    ∀ id, AnsweredBy trace out id → kept.lastProvider = some id
  fresh : ∀ id, AnsweredBy trace out id → id ∉ answered

section Iteration

variable {answered : Set String} {state kept : ConversationState} {trace : List (EngineEvent μ)}
  {m m' : Memory μ} {out : Except Raised RoutingResponse}

/-- A stretch of the loop that ends without an answer. -/
theorem Distinct.of_noAnswer
    (hasking : ∀ event ∈ trace, ∃ state, call.record event.memory = some state ∧
      Settled answered state)
    (hstored : call.record m' = some kept) (hkept : Settled answered kept) (hno : NoAnswer out) :
    Distinct answered call trace m' out where
  asking := hasking
  stored := ⟨kept, hstored, hkept, fun _ h => absurd h (not_answeredBy_of_noAnswer hno)⟩
  fresh _ h := absurd h (not_answeredBy_of_noAnswer hno)

/-- Questions that dispatched nobody come first. -/
theorem Distinct.prepend {before : List (EngineEvent μ)}
    (hbefore : ∀ event ∈ before, event.dispatched? = none)
    (hasking : ∀ event ∈ before, ∃ state, call.record event.memory = some state ∧
      Settled answered state)
    (h : Distinct answered call trace m' out) :
    Distinct answered call (before ++ trace) m' out where
  asking event hevent := by
    rcases List.mem_append.mp hevent with hfirst | hsecond
    · exact hasking event hfirst
    · exact h.asking event hsecond
  stored := by
    obtain ⟨kept, hstored, hkept, hlast⟩ := h.stored
    exact ⟨kept, hstored, hkept, fun id hid => hlast id (hid.of_append hbefore)⟩
  fresh id hid := h.fresh id (hid.of_append hbefore)

/-- A chain offers nobody who is excluded. -/
theorem not_mem_excluded_of_candidate {registry : Registry μ} {group : TaskGroup} {image : Bool}
    {excluded : List String} {allowed : Option (List String)} {preserve : Bool} {id : String}
    (h : id ∈ (registry.candidatesFor group image excluded allowed preserve).map
      ProviderConfig.id) :
    id ∉ excluded := by
  obtain ⟨config, hconfig, rfl⟩ := List.mem_map.mp h
  have heligible := (registry.candidatesFor_perm group image excluded allowed preserve).mem_iff.mp
    hconfig
  obtain ⟨-, -, -, hexcluded, -⟩ := Registry.mem_eligibleProviders_iff.mp heligible
  exact hexcluded

/-- What the loop does, iteration by iteration. -/
theorem distinct_of_iteration [Metric μ] {blocked : List Backend}
    (hm : Held True Set.univ call state m) (hstate : Settled answered state)
    (h : Discipline.IterationOutcome engine call (Surroundings.discipline True Set.univ call)
      state blocked m (fun _ _ trace m' out => Settled answered state.retried →
        Distinct answered call trace m' out) trace m' out) :
    Distinct answered call trace m' out := by
  have hrecord : ∀ {kept : ConversationState} {m₁ : Memory μ},
      (Surroundings.discipline True Set.univ call).held kept m₁ → call.record m₁ = some kept :=
    fun held => (Surroundings.held_iff.mp held).stored trivial
  have hasking : ∀ {events : List (EngineEvent μ)},
      (∀ event ∈ events, (Surroundings.discipline True Set.univ call).held state event.memory) →
        ∀ event ∈ events, ∃ state, call.record event.memory = some state ∧
          Settled answered state :=
    fun hheld event hevent => ⟨state, hrecord (hheld event hevent), hstate⟩
  cases h with
  | guarded => exact .of_noAnswer (List.forall_mem_nil _) (hm.stored trivial) hstate noAnswer_stop
  | refused held => exact .of_noAnswer (List.forall_mem_nil _) (hrecord held) hstate noAnswer_error
  | undecided consulted held =>
      exact .of_noAnswer (hasking consulted.heldAsking) (hrecord held) hstate noAnswer_error
  | replied consulted decided held action response_action =>
      apply Distinct.of_noAnswer (hasking consulted.heldAsking) (hrecord held) hstate
      rw [noAnswer_ok_iff, response_action]
      rcases action with haction | haction
      · simp [haction]
      · simp [haction]
  | stopped consulted decided action held record =>
      rcases record with rfl | rfl
      · exact .of_noAnswer (hasking consulted.heldAsking) (hrecord held) hstate noAnswer_stop
      · exact .of_noAnswer (hasking consulted.heldAsking) (hrecord held) hstate.retried
          noAnswer_stop
  | lost _ lost => exact absurd trivial (Surroundings.lost_iff.mp lost)
  | retried consulted decided action refused held later =>
      exact (later hstate.retried).prepend consulted.undispatched (hasking consulted.heldAsking)
  | executed consulted decided action refused held chain =>
      apply Distinct.prepend consulted.undispatched (hasking consulted.heldAsking)
      cases chain with
      | failed chain held' =>
          exact .of_noAnswer (hasking chain.heldAsking) (hrecord held') hstate noAnswer_error
      | lost _ lost => exact absurd trivial (Surroundings.lost_iff.mp lost)
      | @answered providerId response chain produced candidate selected held' =>
          refine ⟨hasking chain.heldAsking, ?_, ?_⟩
          · refine ⟨_, hrecord held', ⟨hstate.nodup, hstate.excluded⟩, fun id hid => ?_⟩
            rw [hid.eq_of_produced chain.noneAfterAnswer produced]
            rfl
          · intro id hid hanswered
            rw [hid.eq_of_produced chain.noneAfterAnswer produced] at hanswered
            exact not_mem_excluded_of_candidate candidate (hstate.excluded providerId hanswered)

end Iteration

/-- What a call does in a turn in which the providers `answered` have answered before it. -/
structure KeepsDistinct (answered : Set String) (call : HandleCall) (trace : List (EngineEvent μ))
    (after : Option ConversationState) (out : Except Raised RoutingResponse) : Prop where
  asking : ∀ event ∈ trace, Accounted answered (call.record event.memory)
  accounted : Accounted answered after
  last : ∀ id, AnsweredBy trace out id → after.bind ConversationState.lastProvider = some id
  fresh : ∀ id, AnsweredBy trace out id → id ∉ answered

section Call

variable {answered : Set String} {trace : List (EngineEvent μ)} {m m' : Memory μ}
  {out : Except Raised RoutingResponse}

/-- A call that leaves the record alone and does not answer. -/
theorem KeepsDistinct.of_silent {after : Option ConversationState}
    (hafter : Accounted answered after) (hno : NoAnswer out) :
    KeepsDistinct answered call ([] : List (EngineEvent μ)) after out where
  asking := List.forall_mem_nil _
  accounted := hafter
  last _ h := absurd h (not_answeredBy_of_noAnswer hno)
  fresh _ h := absurd h (not_answeredBy_of_noAnswer hno)

/-- What the loop does, with diagnostics attached to its outcome. -/
theorem Distinct.attached {result : Except Raised RoutingResponse}
    (h : Distinct answered call trace m' result) (hattached : Terms.Attached m' result out) :
    KeepsDistinct answered call trace (call.record m') out := by
  obtain ⟨kept, hstored, hkept, hlast⟩ := h.stored
  refine ⟨?_, ?_, ?_, ?_⟩
  · intro event hevent
    obtain ⟨state, hrecord, hstate⟩ := h.asking event hevent
    rw [hrecord]
    exact hstate.accounted
  · rw [hstored]
    exact hkept.accounted
  · intro id hid
    rw [hstored]
    exact hlast id (hid.of_attached hattached)
  · intro id hid
    exact h.fresh id (hid.of_attached hattached)

/-- A retry accounts for whoever answered before it; a new message starts with nobody. -/
theorem keepsDistinct_of_body [Metric μ]
    (hretry : call.request.retry = true → Accounted answered (call.record m))
    (hmessage : call.request.retry = false → answered = ∅)
    (h : Terms.BodyOutcome True Set.univ engine call (fun state _ _ trace m' out =>
      Settled answered state → Distinct answered call trace m' out) m trace m' out) :
    KeepsDistinct answered call trace (call.record m') out := by
  cases h with
  | unknown retry missing => exact .of_silent (hretry retry) noAnswer_error
  | imageRequired retry found image no_image shared =>
      have hsame : call.record m' = call.record m := by rw [HandleCall.record, shared]
      rw [hsame]
      exact .of_silent (hretry retry) noAnswer_error
  | exhausted retry found guard shared attached =>
      have hsame : call.record m' = call.record m := by rw [HandleCall.record, shared]
      rw [hsame]
      exact .of_silent (hretry retry) (noAnswer_stop.attached attached)
  | @stopped stored _ _ retry found guard held guard' attached =>
      have hbefore : Accounted answered (some stored) := found ▸ hretry retry
      have hsettled : Settled answered (Routine.markImage call stored).retried :=
        Accounted.settled_retried ⟨hbefore.nodup, hbefore.accounted⟩
      have hafter : call.record m' = some (Routine.markImage call stored).retried :=
        held.stored trivial
      rw [hafter]
      exact .of_silent hsettled.accounted (noAnswer_stop.attached attached)
  | @retried stored _ _ _ _ _ retry found guard registry held guard' later attached =>
      have hbefore : Accounted answered (some stored) := found ▸ hretry retry
      have hsettled : Settled answered (Routine.markImage call stored).retried :=
        Accounted.settled_retried ⟨hbefore.nodup, hbefore.accounted⟩
      exact (later hsettled).attached attached
  | begun message found registry held later attached =>
      rw [hmessage message] at later ⊢
      exact (later (settled_freshTurn call _)).attached attached
  | lost lost => exact absurd trivial lost

/-- The call's first question, to the clock, comes before it reads its record. -/
theorem keepsDistinct_of_run [Metric μ]
    (hretry : call.request.retry = true → Accounted answered (call.record m))
    (hmessage : call.request.retry = false → answered = ∅)
    (hrun : Coro.Run (Surroundings True Set.univ call) (Routine.handle engine call) m trace m'
      out) :
    ∃ (clock : EngineEvent μ) (body : List (EngineEvent μ))
      (result : Except Raised RoutingResponse),
      trace = clock :: body ∧ KeepsDistinct answered call body (call.record m') result ∧
        ∀ id, AnsweredBy trace out id → AnsweredBy body result id := by
  obtain ⟨now, body, result, rfl, hbody, hout⟩ := Surroundings.outcome
    (P := fun state _ _ trace m' out => Settled answered state →
      Distinct answered call trace m' out) hrun (Set.mem_univ _)
    fun _ _ _ _ _ _ hm hiteration hstate => distinct_of_iteration hm hstate hiteration
  have hkeeps : KeepsDistinct answered call body (call.record m') result :=
    keepsDistinct_of_body (m := { m with own := Routine.newCapture engine call now }) hretry
      hmessage hbody
  refine ⟨_, body, result, rfl, hkeeps, fun id hid => ?_⟩
  obtain ⟨⟨response, hresponse, haction⟩, hevent⟩ := hid
  have hbody : AnsweredBy ([⟨.loopTime, m, now⟩] ++ body) result id :=
    ⟨⟨response, (hout response).mp hresponse, haction⟩, hevent⟩
  exact hbody.of_append (by simp [EngineEvent.dispatched?])

end Call

/-- A finished call that had its conversation to itself. Nothing but the record is carried
over from one call to the next; the providers, policies and circuits may change meanwhile. -/
structure SoleCall [Metric μ] (engine : RoutingEngine) (tenantId conversationId : String)
    (before : Option ConversationState) (finished : Finished μ)
    (after : Option ConversationState) : Prop where
  tenantId_eq : finished.call.tenantId = tenantId
  conversationId_eq : finished.call.request.conversationId = conversationId
  before_eq : finished.before = before
  after_eq : finished.after = after
  ran : ∃ m m', finished.call.record m = before ∧ finished.call.record m' = after ∧
    Coro.Run (Surroundings True Set.univ finished.call) (Routine.handle engine finished.call) m
      finished.trace m' finished.out

namespace Finished

def AnsweredBy (finished : Finished μ) (providerId : String) : Prop :=
  LLMRouting.AnsweredBy finished.trace finished.out providerId

end Finished

/-- The providers whose answers the calls ended in. -/
def answerers (calls : List (Finished μ)) : Set String :=
  {id | ∃ finished ∈ calls, finished.AnsweredBy id}

/-- What a finished call does in a turn in which `answered` have answered before it. -/
structure Finished.KeepsDistinct (answered : Set String) (finished : Finished μ) : Prop where
  asking : ∀ event ∈ finished.trace.tail, Accounted answered (finished.call.record event.memory)
  accounted : Accounted (answered ∪ answerers [finished]) finished.after
  fresh : ∀ id, finished.AnsweredBy id → id ∉ answered

section Turn

variable {tenantId conversationId : String} {answered : Set String}
  {first last : Option ConversationState} {finished opening : Finished μ}
  {calls retries : List (Finished μ)}

theorem answerers_cons :
    answerers (finished :: calls) = answerers [finished] ∪ answerers calls := by
  ext id
  simp [answerers]

/-- What the calls of a turn do, one after another. -/
structure AnswersDistinct (answered : Set String) (calls : List (Finished μ)) : Prop where
  fresh : ∀ id ∈ answerers calls, id ∉ answered
  distinct : calls.Pairwise fun earlier later =>
    ∀ id, earlier.AnsweredBy id → ¬ later.AnsweredBy id
  stored : ∀ earlier finished later, calls = earlier ++ finished :: later →
    Accounted (answered ∪ answerers (earlier ++ [finished])) finished.after
  asking : ∀ earlier finished later, calls = earlier ++ finished :: later →
    ∀ event ∈ finished.trace.tail,
      Accounted (answered ∪ answerers earlier) (finished.call.record event.memory)

theorem AnswersDistinct.nil : AnswersDistinct answered ([] : List (Finished μ)) where
  fresh id hid := by simp [answerers] at hid
  distinct := List.Pairwise.nil
  stored earlier finished later h := by simp at h
  asking earlier finished later h := by simp at h

/-- One more call at the front of the others. -/
theorem AnswersDistinct.cons (hhead : finished.KeepsDistinct answered)
    (htail : AnswersDistinct (answered ∪ answerers [finished]) calls) :
    AnswersDistinct answered (finished :: calls) where
  fresh id hid := by
    rw [answerers_cons] at hid
    rcases hid with ⟨_, hhere, hid⟩ | hlater
    · rw [List.mem_singleton.mp hhere] at hid
      exact hhead.fresh id hid
    · exact fun hanswered => htail.fresh id hlater (Or.inl hanswered)
  distinct := by
    refine List.pairwise_cons.mpr ⟨fun later hlater id hid hid' => ?_, htail.distinct⟩
    exact htail.fresh id ⟨later, hlater, hid'⟩ (Or.inr ⟨finished, List.mem_singleton_self _, hid⟩)
  stored earlier other later h := by
    cases earlier with
    | nil =>
        obtain ⟨rfl, rfl⟩ := List.cons.inj h
        exact hhead.accounted
    | cons head rest =>
        obtain ⟨rfl, rfl⟩ := List.cons.inj h
        rw [List.cons_append, answerers_cons, ← Set.union_assoc]
        exact htail.stored rest other later rfl
  asking earlier other later h := by
    cases earlier with
    | nil =>
        obtain ⟨rfl, rfl⟩ := List.cons.inj h
        intro event hevent
        exact (hhead.asking event hevent).mono (by simp [answerers])
    | cons head rest =>
        obtain ⟨rfl, rfl⟩ := List.cons.inj h
        rw [answerers_cons, ← Set.union_assoc]
        exact htail.asking rest other later rfl

variable [Metric μ]

theorem SoleCall.keepsDistinct
    (h : SoleCall engine tenantId conversationId first finished last)
    (hretry : finished.call.request.retry = true → Accounted answered first)
    (hmessage : finished.call.request.retry = false → answered = ∅) :
    finished.KeepsDistinct answered := by
  obtain ⟨m, m', hbefore, hafter, hrun⟩ := h.ran
  rw [← hbefore] at hretry
  obtain ⟨clock, body, result, htrace, hkeeps, hanswered⟩ :=
    keepsDistinct_of_run hretry hmessage hrun
  refine ⟨?_, ?_, ?_⟩
  · rw [htrace]
    exact hkeeps.asking
  · rw [h.after_eq, ← hafter]
    refine ⟨hkeeps.accounted.nodup, fun id hid => ?_⟩
    rcases hid with hearlier | ⟨_, hhere, hid⟩
    · exact hkeeps.accounted.accounted id hearlier
    · rw [List.mem_singleton.mp hhere] at hid
      exact Or.inl (hkeeps.last id (hanswered id hid))
  · intro id hid
    exact hkeeps.fresh id (hanswered id hid)

/-- Retries, from a record that accounts for whoever answered before them. -/
theorem answersDistinct_of_retries
    (h : Steps (SoleCall engine tenantId conversationId) first calls last)
    (hretries : ∀ finished ∈ calls, finished.call.request.retry = true)
    (hfirst : Accounted answered first) : AnswersDistinct answered calls := by
  induction h generalizing answered with
  | nil => exact .nil
  | @cons before after last finished rest head _ ih =>
      obtain ⟨hretry, hretries⟩ := List.forall_mem_cons.mp hretries
      have hkeeps : finished.KeepsDistinct answered :=
        head.keepsDistinct (fun _ => hfirst) fun hmessage => by simp [hretry] at hmessage
      refine .cons hkeeps (ih hretries ?_)
      rw [← head.after_eq]
      exact hkeeps.accounted

/-- Within a turn no provider produces two answers: whoever has answered is the stored last
provider or excluded, at every moment of the turn, and the exclusions repeat nobody. -/
theorem turn_answersDistinct
    (h : Steps (SoleCall engine tenantId conversationId) first (opening :: retries) last)
    (hopening : opening.call.request.retry = false)
    (hretries : ∀ finished ∈ retries, finished.call.request.retry = true) :
    AnswersDistinct ∅ (opening :: retries) := by
  cases h with
  | cons head tail =>
      have hkeeps : opening.KeepsDistinct ∅ :=
        head.keepsDistinct (fun hretry => by simp [hopening] at hretry) fun _ => rfl
      refine .cons hkeeps (answersDistinct_of_retries tail hretries ?_)
      rw [← head.after_eq]
      exact hkeeps.accounted

end Turn

/-- A call evaluated from a stored record, where the routers always choose the general group. -/
def obliging (call : HandleCall) (record : Option ConversationState) : Finished ℤ :=
  let run := (Routine.handle { maxAttempts := 3 } call).eval
    (scripted (fun _ => .ok (.decision generalDecision)) fun _ => .ok "text")
    (deployment pair record) 0
  { call := call, before := record, trace := run.1, after := call.record run.2.1, out := run.2.2 }

theorem soleCall_obliging (call : HandleCall) {before after : Option ConversationState}
    (hbefore : call.record (deployment pair before) = before)
    (hafter : (obliging call before).after = after) :
    SoleCall { maxAttempts := 3 } call.tenantId call.request.conversationId before
      (obliging call before) after where
  tenantId_eq := rfl
  conversationId_eq := rfl
  before_eq := rfl
  after_eq := hafter
  ran := ⟨_, _, hbefore, hafter, Coro.run_eval Surroundings.refl _ _ _ _⟩

/-- The record after a retry that was answered by the other provider. -/
def answeredTwice : ConversationState :=
  { answeredOnce with
    attemptCount := 1, excludedProviders := ["first"], lastProvider := some "second" }

theorem turn_answersDistinct_pair :
    AnswersDistinct ∅ [obliging askCall none, obliging againCall (some answeredOnce)] := by
  have hask : SoleCall { maxAttempts := 3 } "legacy" "c" none (obliging askCall none)
      (some answeredOnce) := soleCall_obliging askCall (by decide +kernel) (by decide +kernel)
  have hagain : SoleCall { maxAttempts := 3 } "legacy" "c" (some answeredOnce)
      (obliging againCall (some answeredOnce)) (some answeredTwice) :=
    soleCall_obliging againCall (by decide +kernel) (by decide +kernel)
  exact turn_answersDistinct (.cons hask (.cons hagain (.nil _))) rfl
    (List.forall_mem_singleton.mpr rfl)

end LLMRouting
