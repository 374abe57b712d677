/-
# Backends that have refused a request

A backend that answers 401 or 403 is blocked for the rest of the request. The block is
collected by the ladder and by the provider chain and obeyed by the chain only: the ladder
asks its tiers whatever has been refused before. So a backend is asked again after its refusal
when the tiers share it, when a router decides to retry after the refusal, which has the ladder
climbed once more, or when closing a client has covered the refusal up. Where none of this
happens, nothing is posted to a backend after its refusal.
-/

import LLMRouting.Routing.Dispatch
import LLMRouting.Upstream.Postings

namespace LLMRouting

open LLMRouting.Interaction

variable {μ : Type} {engine : RoutingEngine} {call : HandleCall} {exclusive : Prop}
  {backendOf : String → Backend}

/-- The registries in which every provider has the backend it is known to have. -/
def Registry.serving (backendOf : String → Backend) : Set (Registry μ) :=
  {registry | ∀ id config, registry.getProvider? id = some config →
    config.backend = backendOf id}

/-- The backend of a registered provider. -/
def Registry.assigned (registry : Registry μ) (id : String) : Backend :=
  ((registry.getProvider? id).map ProviderConfig.backend).getD .google

theorem Registry.mem_serving_assigned (registry : Registry μ) :
    registry ∈ Registry.serving registry.assigned := by
  intro id config hconfig
  rw [Registry.assigned, hconfig]
  rfl

/-- The questions of a call, given the backends that have refused it before: no dispatch goes
to a backend that has refused, no router is asked after a dispatch, and from any question on
each tier is asked at most once unless a tier decides to retry. -/
structure Heeding (call : HandleCall) (backendOf : String → Backend) (blocked : List Backend)
    (trace : List (EngineEvent μ)) : Prop where
  avoids : Avoids backendOf blocked trace
  routersFirst : trace.Pairwise fun event later =>
    event.dispatched? ≠ none → later.tier? = none
  once : ∀ rest, rest <:+ trace →
    (call.request.retry = true → ∀ event ∈ rest, ¬ event.Retries) →
    (rest.filterMap EngineEvent.tier?).Sublist [.primaryRouter, .fallbackRouter]
  serving : ∀ event ∈ trace, event.memory.shared.registry ∈ Registry.serving backendOf

theorem Heeding.nil {blocked : List Backend} :
    Heeding call backendOf blocked ([] : List (EngineEvent μ)) :=
  ⟨trivial, .nil, fun rest hrest _ => by rw [List.suffix_nil.mp hrest]; exact List.nil_sublist _,
    List.forall_mem_nil _⟩

/-- A ladder comes first; what it was refused is blocked for the rest. -/
theorem Heeding.prepend {blocked : List Backend} {ladder trace : List (EngineEvent μ)}
    (hundispatched : ∀ event ∈ ladder, event.dispatched? = none)
    (hserving : ∀ event ∈ ladder, event.memory.shared.registry ∈ Registry.serving backendOf)
    (honce : ∀ rest, rest <:+ ladder → rest ≠ [] →
      (call.request.retry = true → ∀ event ∈ rest ++ trace, ¬ event.Retries) →
      ((rest ++ trace).filterMap EngineEvent.tier?).Sublist [.primaryRouter, .fallbackRouter])
    (h : Heeding call backendOf
      (blocked ++ ladder.flatMap (EngineEvent.refusals backendOf)) trace) :
    Heeding call backendOf blocked (ladder ++ trace) where
  avoids := .prepend hundispatched h.avoids
  routersFirst := by
    refine List.pairwise_append.mpr ⟨?_, h.routersFirst, ?_⟩
    · apply List.pairwise_of_forall_mem_list
      intro event hevent _ _ hdispatched
      exact absurd (hundispatched event hevent) hdispatched
    · intro event hevent _ _ hdispatched
      exact absurd (hundispatched event hevent) hdispatched
  once := by
    intro rest hrest
    rcases List.suffix_or_suffix_of_suffix hrest (List.suffix_append ladder trace) with
      htrace | ⟨last, rfl⟩
    · exact h.once rest htrace
    · obtain ⟨before, hbefore⟩ := hrest
      rw [← List.append_assoc] at hbefore
      have hlast : last <:+ ladder := ⟨before, List.append_cancel_right hbefore⟩
      by_cases hne : last = []
      · rw [hne]
        exact h.once trace (List.suffix_refl trace)
      · exact honce last hlast hne
  serving := by
    intro event hevent
    rcases List.mem_append.mp hevent with hladder | htrace
    · exact hserving event hladder
    · exact h.serving event htrace

section Iteration

variable [Metric μ] {state : ConversationState} {blocked : List Backend} {m m' : Memory μ}
  {candidateSet : CandidateSet μ} {ladder trace : List (EngineEvent μ)}

omit [Metric μ] in
theorem serving_of_held
    (h : ∀ event ∈ trace, (Surroundings.discipline exclusive (Registry.serving backendOf) call).held
      state event.memory) :
    ∀ event ∈ trace, event.memory.shared.registry ∈ Registry.serving backendOf :=
  fun event hevent => (Surroundings.held_iff.mp (h event hevent)).registry_mem

/-- An iteration that asks the routers and nobody else. -/
theorem Heeding.of_ladder
    (hconsulted : Discipline.Consultation engine call
      (Surroundings.discipline exclusive (Registry.serving backendOf) call) state m candidateSet
        ladder) :
    Heeding call backendOf blocked ladder := by
  rw [← List.append_nil ladder]
  apply Heeding.prepend hconsulted.undispatched (serving_of_held hconsulted.heldAsking) _ .nil
  intro rest hrest _ _
  rw [List.append_nil]
  exact (hrest.sublist.filterMap _).trans hconsulted.asked_sublist

/-- What is left of a ladder after which another one is climbed ends with a tier that decides to
retry. -/
theorem Discipline.Consultation.retries {c : Contract (Memory μ)}
    {d : Discipline c call.tenantId}
    (h : Discipline.Consultation engine call d state m candidateSet ladder)
    {rest : List (EngineEvent μ)} {next : Memory μ} {decision : RouterDecision}
    (hdecided : Discipline.DecidedBy ladder decision) (haction : decision.action = .retry)
    (hguard : retryGuardFired next.shared.registry state.retried = false)
    (hrest : rest <:+ ladder) (hne : rest ≠ []) :
    ∃ event ∈ rest, event.Retries := by
  obtain ⟨before, last, rfl, hlast⟩ := hdecided
  have hmem : last ∈ rest := by
    rcases List.suffix_concat_iff.mp hrest with rfl | ⟨front, rfl, -⟩
    · exact absurd rfl hne
    · exact List.mem_concat_self
  obtain ⟨request, hrequest⟩ : ∃ request, last.routed? = some request := by
    rcases last with ⟨query, memory, reply⟩
    cases query with
    | decide tier request => exact ⟨request, rfl⟩
    | loopTime | dispatch | process => exact hlast.elim
  obtain rfl := h.routed last (by simp) request hrequest
  have hopen := (Bool.or_eq_false_iff.mp hguard).1
  rw [decide_eq_false_iff_not, ConversationState.attemptCount_retried,
    (ConversationState.retried_retried state).maxAttempts_eq] at hopen
  refine ⟨last, hmem, _, decision, hrequest, ?_, hlast, haction⟩
  show state.attemptCount + 1 < state.maxAttempts
  omega

/-- One iteration heeds the refusals if the rest of the loop does. -/
theorem heeding_of_iteration {out : Except Raised RoutingResponse}
    (h : Discipline.IterationOutcome engine call
      (Surroundings.discipline exclusive (Registry.serving backendOf) call) state blocked m
      (fun blocked' _ trace _ _ => Heeding call backendOf blocked' trace) trace m' out) :
    Heeding call backendOf blocked trace := by
  cases h with
  | guarded => exact .nil
  | refused => exact .nil
  | undecided consulted => exact .of_ladder consulted
  | replied consulted => exact .of_ladder consulted
  | stopped consulted => exact .of_ladder consulted
  | lost consulted => exact .of_ladder consulted
  | retried consulted decided action refused _ later guard =>
      rw [refused backendOf] at later
      apply Heeding.prepend consulted.undispatched (serving_of_held consulted.heldAsking) _ later
      intro rest hrest hne hsettled
      have hretry := consulted.retry_of_decidedBy decided action
      obtain ⟨last, hlast, hretries⟩ := consulted.retries decided action guard hrest hne
      exact absurd hretries (hsettled hretry last (List.mem_append_left _ hlast))
  | @executed _ _ chain asked _ _ _ _ consulted _ _ refused held outcome =>
      have htrace := outcome.trace
      have hserving := (Surroundings.held_iff.mp held).registry_mem
      have hunasked : ∀ event ∈ chain, event.tier? = none :=
        fun event hevent => EngineEvent.tier?_eq_none (htrace.unrouted event hevent)
      have hbackend := htrace.avoids backendOf
        fun candidate hcandidate =>
          (hserving _ _ (Registry.getProvider?_of_mem_candidatesFor hcandidate)).symm
      rw [refused backendOf] at hbackend
      apply Heeding.prepend consulted.undispatched (serving_of_held consulted.heldAsking)
      · intro rest hrest _ _
        rw [List.filterMap_append, List.filterMap_eq_nil_iff.mpr hunasked, List.append_nil]
        exact (hrest.sublist.filterMap _).trans consulted.asked_sublist
      · refine ⟨hbackend, ?_, ?_, serving_of_held htrace.heldAsking⟩
        · apply List.pairwise_of_forall_mem_list
          exact fun _ _ later hlater _ => hunasked later hlater
        · intro rest hrest _
          rw [List.filterMap_eq_nil_iff.mpr fun event hevent => hunasked event (hrest.mem hevent)]
          exact List.nil_sublist _

end Iteration

theorem handle_heeding [Metric μ] {m m' : Memory μ} {trace : List (EngineEvent μ)}
    {out : Except Raised RoutingResponse}
    (hserving : m.shared.registry ∈ Registry.serving backendOf)
    (hrun : Coro.Run (Surroundings exclusive (Registry.serving backendOf) call)
      (Routine.handle engine call) m trace m' out) :
    Heeding call backendOf [] trace := by
  obtain ⟨now, body, result, rfl, hbody, -⟩ := Surroundings.outcome
    (P := fun _ blocked _ trace _ _ => Heeding call backendOf blocked trace) hrun hserving
    fun _ _ _ _ _ _ _ => heeding_of_iteration
  suffices hheeding : Heeding call backendOf [] body by
    show Heeding call backendOf [] ([⟨.loopTime, m, now⟩] ++ body)
    apply Heeding.prepend _ _ _ hheeding
    · exact List.forall_mem_singleton.mpr rfl
    · exact List.forall_mem_singleton.mpr hserving
    · intro rest hrest hne hsettled
      obtain rfl : rest = [⟨.loopTime, m, now⟩] := by
        rcases List.suffix_cons_iff.mp hrest with rfl | hnil
        · rfl
        · exact absurd (List.suffix_nil.mp hnil) hne
      apply hheeding.once body (List.suffix_refl body)
      exact fun hretry event hevent => hsettled hretry event (List.mem_append_right _ hevent)
  cases hbody with
  | unknown | imageRequired | exhausted | stopped | lost => exact .nil
  | retried _ _ _ _ _ _ later => exact later
  | begun _ _ _ _ later => exact later

theorem Surroundings.bearable (exclusive : Prop) (allowed : Set (Registry μ)) (call : HandleCall) :
    Bearable (Surroundings exclusive allowed call) where
  refl := Surroundings.refl
  trans h h' :=
    { own_eq := h'.own_eq.trans h.own_eq
      registry_mem := fun hmem => h'.registry_mem (h.registry_mem hmem)
      stored_eq := fun hexclusive => (h'.stored_eq hexclusive).trans (h.stored_eq hexclusive) }
  circuits _ _ := ⟨rfl, id, fun _ => rfl⟩

/-- A tier answers with a decision to retry, and the budget has an attempt left. -/
def Posting.retries (routers : Routers) (posting : Posting) : Bool :=
  match posting.caller with
  | .router tier request _ =>
      decide (request.attempt + 1 < request.maxAttempts) &&
        match (routers tier).received posting.reply with
        | .ok decision => decide (decision.action = .retry)
        | .error _ => false
  | .provider _ _ => false

/-- The requests posted for one question of the engine: they go to one backend, that of the
tier or of the provider that is asked, none follows a refusal, and the engine learns of a
refusal unless closing a client has failed on it. -/
structure Conducted (routers : Routers) (backendOf : String → Backend) (event : EngineEvent μ)
    (posted : List Posting) (closed : List Closing) : Prop where
  router : ∀ posting ∈ posted, ∀ tier ∈ posting.caller.tier?,
    event.tier? = some tier ∧ posting.backend = (routers tier).backend
  provider : ∀ posting ∈ posted, posting.caller.tier? = none →
    ∃ id, event.dispatched? = some id ∧ posting.backend = backendOf id
  retries : event.Retries → ∃ posting ∈ posted, posting.retries routers = true
  last : posted.Pairwise fun earlier _ => earlier.refused = false
  blocks : (∀ closing ∈ closed, closing.losesRefusal = false) →
    ∀ posting ∈ posted, posting.refused = true → posting.backend ∈ event.refusals backendOf

theorem Conducted.nil {routers : Routers} {event : EngineEvent μ} {closed : List Closing}
    (hundecided : ¬ event.Retries) : Conducted routers backendOf event [] closed :=
  ⟨List.forall_mem_nil _, List.forall_mem_nil _, fun h => absurd h hundecided, .nil,
    fun _ => List.forall_mem_nil _⟩

theorem not_retries_of_error {tier : RouterTier} {request : RouterRequest} {m : Memory μ}
    {interruption : Interruption} :
    ¬ EngineEvent.Retries (⟨.decide tier request, m, .error interruption⟩ : EngineEvent μ) := by
  rintro ⟨_, decision, -, -, hdecides, -⟩
  obtain ⟨raw, hreply, -⟩ := judged_eq_ok_iff.mp hdecides
  cases hreply

theorem not_retries_of_routed {event : EngineEvent μ} (h : event.routed? = none) :
    ¬ event.Retries := by
  rintro ⟨request, decision, hrequest, -⟩
  rw [h] at hrequest
  cases hrequest

section Programs

variable (routers : Routers) {rely : Memory μ → Memory μ → Prop} (hrely : Bearable rely)
  {m : Memory μ}

theorem Conducted.of_decided {tier : RouterTier} {request : RouterRequest}
    {posted : List Posting} {closed : List Closing}
    {out : Except UpstreamError RouterDecision}
    (h : (routers tier).Decided (routers tier).reported tier request posted out) :
    Conducted routers backendOf
      ⟨.decide tier request, m,
        (out.map RawDecision.decision).mapError UpstreamError.toInterruption⟩
      posted closed where
  router posting hposting asked hasked := by
    obtain ⟨htier, hbackend⟩ := h.caller _ hposting
    obtain rfl : tier = asked := Option.some.inj (htier.symm.trans hasked)
    exact ⟨rfl, hbackend⟩
  provider posting hposting hprovider := by
    rw [(h.caller _ hposting).1] at hprovider
    cases hprovider
  retries := by
    rintro ⟨_, decision, ⟨⟩, hbudget, hdecides, haction⟩
    obtain ⟨raw, hreply, hvalid⟩ := judged_eq_ok_iff.mp hdecides
    cases out with
    | error error => cases hreply
    | ok given =>
        cases hreply
        obtain rfl := Option.some.inj (DecisionValidator.validate_eq_ok_iff.mp hvalid).1
        obtain ⟨posting, hposting, ⟨repair, hcaller⟩, hreceived⟩ := h.answered _ rfl
        refine ⟨posting, hposting, ?_⟩
        simp [Posting.retries, hcaller, hreceived, hbudget, haction]
  last := h.refused_last
  blocks _ posting hposting hrefused := by
    obtain ⟨error, rfl, hblocked⟩ := h.blocks _ hposting hrefused
    show posting.backend ∈ Routine.refusedBackend error
    rw [hblocked, (h.caller _ hposting).2]
    exact List.mem_singleton_self _

theorem Conducted.of_dispatched {providerId : String} {request : ProviderRequest}
    {posted : List Posting} {closed : List Closing} {out : Except UpstreamError String}
    (hserving : m.shared.registry ∈ Registry.serving backendOf)
    (h : ProviderDispatcher.Dispatched m.shared.registry providerId request posted closed out) :
    Conducted routers backendOf
      ⟨.dispatch providerId request, m, out.mapError UpstreamError.toInterruption⟩
      posted closed where
  router posting hposting tier htier := by
    rw [(h.caller hposting).1] at htier
    cases htier
  provider posting hposting _ := by
    obtain ⟨-, config, hconfig, hbackend⟩ := h.caller hposting
    exact ⟨providerId, rfl, hbackend.trans (hserving providerId config hconfig)⟩
  retries h := absurd h (not_retries_of_routed rfl)
  last := h.refused_last
  blocks hclosed posting hposting hrefused := by
    obtain ⟨-, config, hconfig, hbackend⟩ := h.caller hposting
    obtain ⟨error, rfl, hblocks⟩ := h.blocks hclosed hposting hrefused
    show posting.backend ∈ if error.blocksBackend then [backendOf providerId] else []
    rw [if_pos hblocks, hbackend, hserving providerId config hconfig]
    exact List.mem_singleton_self _

include hrely

/-- Every question is answered by a program that leaves what the engine counts on alone and
posts as `Conducted` says. -/
theorem program_conducted (query : EngineQuery) :
    (routers.program query).wp (Contract.relying rely) (fun trace m' out =>
      ∀ reply, out = .ok reply → Coro.Resumes (I := engineInterface) rely query m m' ∧
        (m.shared.registry ∈ Registry.serving backendOf →
          Conducted routers backendOf ⟨query, m, reply⟩ (postings trace) (closings trace))) m := by
  cases query with
  | loopTime =>
      refine ⟨fun _ => trivial, ?_⟩
      rintro now m' hm' _ ⟨⟩
      obtain rfl : m' = m := by simpa [Coro.Resumes] using hm'
      exact ⟨rfl, fun _ => .nil (not_retries_of_routed rfl)⟩
  | process response =>
      refine ⟨fun _ => trivial, ?_⟩
      rintro answer m' hm' _ ⟨⟩
      obtain rfl : m' = m := by simpa [Coro.Resumes] using hm'
      exact ⟨rfl, fun _ => .nil (not_retries_of_routed rfl)⟩
  | decide tier request =>
      rw [Routers.program, Routers.awaited]
      simp only [Coro.wp_attempt, Coro.wp_translate, Coro.wp_bind]
      apply Coro.wp_mono ((routers tier).decide_posts hrely)
      intro trace m' out hposts
      have hconducted : rely m m' ∧ Conducted routers backendOf
          ⟨.decide tier request, m,
            (out.map RawDecision.decision).mapError UpstreamError.toInterruption⟩
          (postings trace) (closings trace) := by
        rcases hposts with ⟨hsilent, error, rfl, -⟩ | ⟨posted, hexchanged, hdecided⟩
        · rw [hsilent.postings_eq]
          exact ⟨hsilent.rely, .nil not_retries_of_error⟩
        · rw [hexchanged.postings_eq]
          exact ⟨hexchanged.rely, .of_decided routers hdecided⟩
      cases out with
      | error error =>
          rintro _ ⟨⟩
          exact ⟨hconducted.1, fun _ => hconducted.2⟩
      | ok decision =>
          apply Coro.wp_pure.mpr
          rintro _ ⟨⟩
          rw [List.append_nil]
          exact ⟨hconducted.1, fun _ => hconducted.2⟩
  | dispatch providerId request =>
      rw [Routers.program, Routers.awaited]
      simp only [Coro.wp_attempt, Coro.wp_translate]
      apply Coro.wp_mono (ProviderDispatcher.dispatch_posts hrely)
      rintro trace m' out ⟨posted, closed, hexchanged, hdispatched⟩ _ ⟨⟩
      rw [hexchanged.postings_eq, hexchanged.closings_eq]
      exact ⟨hexchanged.rely, fun hserving => .of_dispatched routers hserving hdispatched⟩

end Programs

/-- Once a backend has refused, nothing is posted to it any more. -/
def RefusalsHeeded (posted : List Posting) : Prop :=
  posted.Pairwise fun earlier later =>
    earlier.refused = true → later.backend ≠ earlier.backend

instance : DecidablePred RefusalsHeeded :=
  fun _ => inferInstanceAs (Decidable (List.Pairwise _ _))

/-- What keeps a call from going back to a backend that has refused: where the tiers share their
backend the primary router is not refused, no router decides to retry after one has been
refused, and closing a client does not cover a refusal up. -/
structure RefusalsKept (routers : Routers) (call : HandleCall)
    (trace : List (SystemEvent μ)) : Prop where
  apart : (routers .primaryRouter).backend = (routers .fallbackRouter).backend →
    ∀ posting ∈ postings trace, posting.caller.tier? = some .primaryRouter →
      posting.refused = false
  settled : call.request.retry = true → (postings trace).Pairwise fun earlier later =>
    earlier.refused = true → earlier.caller.tier? ≠ none → later.retries routers = false
  closed : ∀ closing ∈ closings trace, closing.losesRefusal = false

/-- A question of the engine, and a run of the program behind it. -/
abbrev Routers.Round (routers : Routers) (rely : Memory μ → Memory μ → Prop) : Type :=
  Answered (I := engineInterface) rely routers.program

section Rounds

variable {routers : Routers} {rely : Memory μ → Memory μ → Prop}
  {rounds : List (routers.Round rely)} {blocked : List Backend}

/-- What holds between any two requests of one round, and between those of two rounds, holds
between any two requests of all rounds. -/
theorem pairwise_postings {R : Posting → Posting → Prop}
    (hwithin : ∀ round ∈ rounds, (postings round.trace).Pairwise R)
    (hacross : rounds.Pairwise fun first second =>
      ∀ earlier ∈ postings first.trace, ∀ later ∈ postings second.trace, R earlier later) :
    (postings (rounds.flatMap Answered.trace)).Pairwise R := by
  rw [postings, List.filterMap_flatMap, List.pairwise_flatMap]
  exact ⟨hwithin, hacross⟩

/-- No provider is posted to after its backend has refused. -/
theorem providers_unrefused
    (hheeding : Heeding call backendOf blocked (rounds.map Answered.event))
    (hconducted : ∀ round ∈ rounds,
      Conducted routers backendOf round.event (postings round.trace) (closings round.trace))
    (hclosings : ∀ round ∈ rounds, ∀ closing ∈ closings round.trace,
      closing.losesRefusal = false) :
    (postings (rounds.flatMap Answered.trace)).Pairwise fun earlier later =>
      earlier.refused = true → later.caller.tier? = none → later.backend ≠ earlier.backend := by
  apply pairwise_postings
  · intro round hround
    apply (hconducted round hround).last.imp
    intro earlier _ hopen hrefused
    rw [hopen] at hrefused
    cases hrefused
  · have havoids := List.pairwise_map.mp hheeding.avoids.pairwise
    apply havoids.imp_of_mem
    intro first second hfirst hsecond havoid earlier hearlier later hlater hrefused hprovider
    have hblocked := (hconducted first hfirst).blocks (hclosings first hfirst) earlier hearlier
      hrefused
    obtain ⟨id, hid, hbackend⟩ := (hconducted second hsecond).provider later hlater hprovider
    intro hsame
    rw [← hsame, hbackend] at hblocked
    exact havoid id hid hblocked

/-- A tier that is refused decides nothing. -/
theorem Conducted.not_retries {event : EngineEvent μ} {posted : List Posting}
    {closed : List Closing} (h : Conducted routers backendOf event posted closed)
    (hclosed : ∀ closing ∈ closed, closing.losesRefusal = false) {posting : Posting}
    (hposting : posting ∈ posted) (hrefused : posting.refused = true) : ¬ event.Retries := by
  rintro ⟨request, decision, hrequest, -, hdecides, -⟩
  have hblocked := h.blocks hclosed posting hposting hrefused
  rcases event with ⟨query, memory, reply⟩
  cases query with
  | loopTime | dispatch | process => cases hrequest
  | decide tier asked =>
      obtain ⟨raw, rfl, -⟩ := judged_eq_ok_iff.mp hdecides
      cases hblocked

/-- What holds between the head of a suffix and the rest of it holds between any two elements. -/
theorem pairwise_of_suffix {α : Type*} {R : α → α → Prop} : ∀ {elements : List α},
    (∀ first rest, (first :: rest) <:+ elements → ∀ second ∈ rest, R first second) →
      elements.Pairwise R
  | [], _ => .nil
  | first :: rest, h =>
      .cons (h first rest (List.suffix_refl _))
        (pairwise_of_suffix fun earlier later hsuffix =>
          h earlier later (hsuffix.trans (List.suffix_cons first rest)))

/-- From the refusal of a tier on no tier decides to retry. -/
theorem unretried_of_refused
    (hconducted : ∀ round ∈ rounds,
      Conducted routers backendOf round.event (postings round.trace) (closings round.trace))
    (hclosings : ∀ round ∈ rounds, ∀ closing ∈ closings round.trace,
      closing.losesRefusal = false)
    (hkept : RefusalsKept routers call (rounds.flatMap Answered.trace))
    {first : routers.Round rely} {rest : List (routers.Round rely)}
    (hsuffix : first :: rest <:+ rounds) {earlier : Posting}
    (hearlier : earlier ∈ postings first.trace) (hrefused : earlier.refused = true)
    (htier : earlier.caller.tier? ≠ none) (hretry : call.request.retry = true) :
    ∀ event ∈ (first :: rest).map Answered.event, ¬ EngineEvent.Retries event := by
  intro event hevent hretries
  have hmem := hsuffix.subset
  obtain ⟨round, hround, rfl⟩ := List.mem_map.mp hevent
  rcases List.mem_cons.mp hround with rfl | hround
  · exact (hconducted _ (hmem List.mem_cons_self)).not_retries
      (hclosings _ (hmem List.mem_cons_self)) hearlier hrefused hretries
  · obtain ⟨answer, hanswer, hanswers⟩ :=
      (hconducted round (hmem (List.mem_cons_of_mem _ hround))).retries hretries
    have hsettled := hkept.settled hretry
    rw [postings, List.filterMap_flatMap, List.pairwise_flatMap] at hsettled
    have hnever := List.rel_of_pairwise_cons (hsettled.2.sublist hsuffix.sublist) hround
      earlier hearlier answer hanswer hrefused htier
    rw [hanswers] at hnever
    cases hnever

/-- No tier is posted to after its backend has refused: from a refusal on no tier decides to
retry, so what is still asked belongs to the ladder the refusal came up in. -/
theorem tiers_unrefused
    (hheeding : Heeding call backendOf blocked (rounds.map Answered.event))
    (hconducted : ∀ round ∈ rounds,
      Conducted routers backendOf round.event (postings round.trace) (closings round.trace))
    (hclosings : ∀ round ∈ rounds, ∀ closing ∈ closings round.trace,
      closing.losesRefusal = false)
    (hkept : RefusalsKept routers call (rounds.flatMap Answered.trace)) :
    (postings (rounds.flatMap Answered.trace)).Pairwise fun earlier later =>
      earlier.refused = true → ∀ tier ∈ later.caller.tier?, later.backend ≠ earlier.backend := by
  have hposted : ∀ round ∈ rounds, ∀ posting ∈ postings round.trace,
      posting ∈ postings (rounds.flatMap Answered.trace) := by
    intro round hround posting hposting
    rw [postings, List.filterMap_flatMap]
    exact List.mem_flatMap.mpr ⟨round, hround, hposting⟩
  apply pairwise_postings
  · intro round hround
    apply (hconducted round hround).last.imp
    intro earlier _ hopen hrefused
    rw [hopen] at hrefused
    cases hrefused
  · apply pairwise_of_suffix
    intro first rest hsuffix second hsecond earlier hearlier later hlater hrefused tier htier
    have hmem := hsuffix.subset
    have hconducted' := hconducted first (hmem List.mem_cons_self)
    obtain ⟨hsecondTier, hbackend⟩ :=
      (hconducted second (hmem (List.mem_cons_of_mem _ hsecond))).router later hlater tier htier
    cases hearlierTier : earlier.caller.tier? with
    | none =>
        obtain ⟨id, hid, -⟩ := hconducted'.provider earlier hearlier hearlierTier
        have hfirst := (List.pairwise_map.mp hheeding.routersFirst).sublist hsuffix.sublist
        have hdispatches : EngineEvent.dispatched? first.event ≠ none := by
          rw [hid]
          exact Option.some_ne_none id
        have hnone := List.rel_of_pairwise_cons hfirst hsecond hdispatches
        rw [hsecondTier] at hnone
        cases hnone
    | some refusedTier =>
        obtain ⟨hfirstTier, hbackend'⟩ :=
          hconducted'.router earlier hearlier refusedTier hearlierTier
        have hunretried := unretried_of_refused hconducted hclosings hkept hsuffix hearlier hrefused
          (by simp [hearlierTier])
        have honce := hheeding.once _ (hsuffix.map Answered.event) hunretried
        rw [List.map_cons, List.filterMap_cons_some hfirstTier] at honce
        have hasked : tier ∈ (rest.map Answered.event).filterMap EngineEvent.tier? :=
          List.mem_filterMap.mpr ⟨_, List.mem_map_of_mem hsecond, hsecondTier⟩
        have hpair : [refusedTier, tier] = [.primaryRouter, .fallbackRouter] :=
          (((List.singleton_sublist.mpr hasked).cons_cons refusedTier).trans honce).eq_of_length rfl
        cases hpair
        intro hsame
        rw [hbackend, hbackend'] at hsame
        rw [hkept.apart hsame.symm earlier
          (hposted first (hmem List.mem_cons_self) earlier hearlier) hearlierTier] at hrefused
        cases hrefused

end Rounds

/-- Once a backend has refused, a call posts nothing to it any more, unless its tiers share the
refused backend, a router decides to retry after one has been refused, or closing a client
covers a refusal up. Every id keeps its backend. -/
theorem refusalsHeeded_of_kept [Metric μ] {routers : Routers} {m m' : Memory μ}
    {trace : List (SystemEvent μ)} {out : Except Raised RoutingResponse}
    (hserving : m.shared.registry ∈ Registry.serving backendOf)
    (hrun : Coro.Run (Surroundings exclusive (Registry.serving backendOf) call)
      (routers.handle engine call) m trace m' out)
    (hkept : RefusalsKept routers call trace) :
    RefusalsHeeded (postings trace) := by
  have hbearable : Bearable (Surroundings exclusive (Registry.serving (μ := μ) backendOf) call) :=
    Surroundings.bearable _ _ _
  have hprogram :
      ∀ round : routers.Round (Surroundings exclusive (Registry.serving backendOf) call),
      Coro.Resumes (I := engineInterface) (Surroundings exclusive (Registry.serving backendOf) call)
          round.event.query round.event.memory round.after ∧
        (round.event.memory.shared.registry ∈ Registry.serving backendOf →
          Conducted routers backendOf round.event (postings round.trace) (closings round.trace)) :=
    fun round => Coro.wp_sound (program_conducted routers hbearable _) round.run _ rfl
  obtain ⟨rounds, rfl, hengine⟩ := Coro.Run.of_inline (fun round => (hprogram round).1) hrun
  have hheeding := handle_heeding hserving hengine
  have hconducted : ∀ round ∈ rounds,
      Conducted routers backendOf round.event (postings round.trace) (closings round.trace) := by
    intro round hround
    exact (hprogram round).2 (hheeding.serving _ (List.mem_map_of_mem hround))
  have hclosed : ∀ round ∈ rounds, ∀ closing ∈ closings round.trace,
      closing.losesRefusal = false := by
    intro round hround closing hclosing
    apply hkept.closed closing
    rw [closings, List.filterMap_flatMap]
    exact List.mem_flatMap.mpr ⟨round, hround, hclosing⟩
  have hproviders := providers_unrefused hheeding hconducted hclosed
  have htiers := tiers_unrefused hheeding hconducted hclosed hkept
  apply (htiers.and hproviders).imp
  rintro earlier later ⟨htier, hprovider⟩ hrefused
  cases hcaller : later.caller.tier? with
  | none => exact hprovider hrefused hcaller
  | some tier => exact htier hrefused tier hcaller

/-- A successful response with one choice. -/
def completion (content : String) : HttpResponse where
  status := 200
  json := .ok (.object
    [("choices", .array [.object [("message", .object [("content", .string content)])]])])

def retryText : String :=
  "\x7b\"action\": \"RETRY\", \"confidence\": 1, \"reason\": \"again\"\x7d"

def answerText : String :=
  "\x7b\"action\": \"ANSWER\", \"task_group\": \"general\", \"confidence\": 1, " ++
    "\"reason\": \"general\"\x7d"

/-- What the libraries make of the two texts. -/
def twoTexts : ReplyReader where
  loads text :=
    if text = retryText then
      .ok (.object [("action", .string "RETRY"), ("confidence", .number 1),
        ("reason", .string "again")])
    else if text = answerText then
      .ok (.object
        [("action", .string "ANSWER"), ("task_group", .string "general"), ("confidence", .number 1),
          ("reason", .string "general")])
    else .error .invalid
  modelValidate value :=
    match value.member? "action" with
    | some (.string "RETRY") => some retryDecision
    | some (.string "ANSWER") => some generalDecision
    | _ => none

def googleThenNvidia : Routers
  | .primaryRouter => { backend := .google, reader := twoTexts }
  | .fallbackRouter => { backend := .nvidia, reader := twoTexts }

/-- The primary router's credentials are refused; the fallback router asks for a retry first
and for an answer then. -/
def refusingPrimary : Coro.Oracle systemInterface
  | _, .loopTime => (0 : ℚ)
  | _, .monotonic => (0 : ℚ)
  | _, .post (.router .primaryRouter _ _) _ =>
      (.ok { status := 401 } : Except TransportFailure HttpResponse)
  | _, .post (.router .fallbackRouter request _) _ =>
      (.ok (completion (if request.attempt = 1 then retryText else answerText)) :
        Except TransportFailure HttpResponse)
  | _, .post (.provider _ _) _ => (.ok (completion "text") : Except TransportFailure HttpResponse)
  | _, .closeClient _ _ _ => (.ok () : Except TransportFailure Unit)
  | _, .process response => (.ok response : Except PyException String)

/-- A call among the routers and providers of the small deployment. -/
def wired (call : HandleCall) : List (SystemEvent ℤ) × Memory ℤ × Except Raised RoutingResponse :=
  (googleThenNvidia.handle { maxAttempts := 5 } call).eval refusingPrimary secondOpinionMemory 0

theorem run_wired {rely : Memory ℤ → Memory ℤ → Prop} (hrefl : ∀ m, rely m m) (call : HandleCall) :
    Coro.Run rely (googleThenNvidia.handle { maxAttempts := 5 } call) secondOpinionMemory
      (wired call).1 (wired call).2.1 (wired call).2.2 :=
  Coro.run_eval hrefl _ _ _ _

/-- The refused tier is asked again in the ladder after the RETRY. -/
theorem refused_tier_asked_again :
    Coro.Run (Surroundings True (Registry.serving secondOpinionMemory.shared.registry.assigned)
        secondOpinionCall)
      (googleThenNvidia.handle { maxAttempts := 5 } secondOpinionCall) secondOpinionMemory
      (wired secondOpinionCall).1 (wired secondOpinionCall).2.1 (wired secondOpinionCall).2.2 ∧
    ((postings (wired secondOpinionCall).1).map fun posting => (posting.backend, posting.refused)) =
      [(.google, true), (.nvidia, false), (.google, true), (.nvidia, false), (.nvidia, false)] ∧
    ¬ RefusalsHeeded (postings (wired secondOpinionCall).1) :=
  ⟨run_wired Surroundings.refl _, by decide +kernel, by decide +kernel⟩

def firstOpinionCall : HandleCall := { request := { conversationId := "c", message := "question" } }

/-- A new message passes over the provider of the backend that refused its router. -/
theorem refusalsHeeded_of_kept_firstOpinion :
    ((postings (wired firstOpinionCall).1).map fun posting => (posting.backend, posting.refused)) =
      [(.google, true), (.nvidia, false), (.nvidia, false)] ∧
    RefusalsHeeded (postings (wired firstOpinionCall).1) := by
  have hrun : Coro.Run (Surroundings True
      (Registry.serving secondOpinionMemory.shared.registry.assigned) firstOpinionCall)
      (googleThenNvidia.handle { maxAttempts := 5 } firstOpinionCall) secondOpinionMemory
      (wired firstOpinionCall).1 (wired firstOpinionCall).2.1 (wired firstOpinionCall).2.2 :=
    run_wired Surroundings.refl _
  have hkept : RefusalsKept googleThenNvidia firstOpinionCall (wired firstOpinionCall).1 :=
    ⟨fun hsame => absurd hsame (by decide), fun hretry => absurd hretry (by decide),
      by decide +kernel⟩
  exact ⟨by decide +kernel, refusalsHeeded_of_kept (Registry.mem_serving_assigned _) hrun hkept⟩

end LLMRouting
