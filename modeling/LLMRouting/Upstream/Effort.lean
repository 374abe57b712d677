/-
# What a request costs its backends

A call asks routers at most twice for each ladder, and each provider of a chain at most once. A
router that is asked posts one request, or two if its reply has to be repaired; a dispatch posts
at most one. So the requests a single call sends to all backends are bounded, by the attempts its
conversation has left and by the providers that are enabled, whatever the backends reply.
-/

import LLMRouting.Routing.Deadline
import LLMRouting.Upstream.Refusals

namespace LLMRouting

open LLMRouting.Interaction

variable {μ : Type}

namespace RequestPhase

variable {deadline : ℚ} {phase next : RequestPhase} {event : EngineEvent μ}

/-- How often a router may still be asked. -/
def questions : RequestPhase → ℕ
  | .routing rounds => 2 * rounds
  | .primaryFailed rounds => 2 * rounds + 1
  | _ => 0

theorem questions_judged (rounds : ℕ) (failed : RequestPhase)
    (reply : Except Interruption RouterDecision) :
    (judged rounds failed reply).questions ≤ max (2 * rounds) failed.questions := by
  rcases reply with (byDeadline | error) | decision
  · exact Nat.zero_le _
  · exact le_max_right _ _
  · apply le_max_of_le_left
    rw [judged, decided]
    cases decision.action with
    | retry => exact le_rfl
    | answer | clarify | stop => exact Nat.zero_le _

theorem questions_timed {now : ℚ} {early : RequestPhase} :
    (timed deadline now early).questions ≤ early.questions := by
  rw [timed]
  split
  · exact Nat.zero_le _
  · exact le_rfl

theorem questions_dispatched {reply : Except Interruption String} :
    (dispatched reply).questions = 0 := by
  rcases reply with (byDeadline | error) | text
  · rfl
  · rw [dispatched]
    split <;> rfl
  · rfl

/-- Each question to a router is one fewer that may be asked. -/
theorem Stepped.spends (h : Stepped deadline next phase event) :
    event.tier?.toList.length + next.questions ≤ phase.questions := by
  have hidle : ∀ {left right : ℕ}, left ≤ right → 0 + left ≤ right :=
    fun h => (Nat.zero_add _).le.trans h
  cases h with
  | @primary rounds request asked reply led =>
      subst led
      have hjudged : (judged rounds (.primaryFailed rounds)
          (Routine.judged request reply)).questions ≤ max (2 * rounds) (2 * rounds + 1) :=
        questions_judged _ _ _
      show 1 + _ ≤ 2 * (rounds + 1)
      omega
  | @fallback rounds request asked reply led =>
      subst led
      have hjudged : (judged rounds .settled (Routine.judged request reply)).questions ≤
          max (2 * rounds) 0 :=
        questions_judged _ _ _
      show 1 + _ ≤ 2 * rounds + 1
      omega
  | selected led | cleared led | cleaned led =>
      subst led
      exact hidle questions_timed
  | dispatched led =>
      subst led
      exact hidle questions_dispatched.le
  | @processed _ _ reply led =>
      subst led
      cases reply <;> exact hidle le_rfl
  | interrupted led =>
      subst led
      exact hidle le_rfl

end RequestPhase

/-- A call asks routers at most twice for each ladder it may climb. -/
theorem handle_asks [Metric μ] {rely : Memory μ → Memory μ → Prop} (hrely : LeavesOwn rely)
    {engine : RoutingEngine} {call : HandleCall} {m m' : Memory μ} {trace : List (EngineEvent μ)}
    {out : Except Raised RoutingResponse}
    (hrun : Coro.Run rely (Routine.handle engine call) m trace m' out) :
    (trace.filterMap EngineEvent.tier?).length ≤ 2 * call.ladders m := by
  obtain ⟨start, rest, rfl, last, hsteps, -⟩ :=
    Coro.wp_sound (c := .relying rely) (Routine.handle_follows hrely) hrun
  have hspent := hsteps.sum_map_le (fun event => (EngineEvent.tier? event).toList.length)
    RequestPhase.questions fun _ _ _ hstep => (RequestPhase.step_cases hstep).spends
  have hclock : (EngineEvent.tier? (⟨.loopTime, m, start⟩ : EngineEvent μ)).toList.length = 0 := rfl
  rw [List.filterMap_eq_flatMap_toList, List.length_flatMap, List.map_cons, List.sum_cons, hclock,
    Nat.zero_add]
  exact (Nat.le_add_right _ _).trans hspent

/-- The provider a request was posted for. -/
def Posting.provider? (posting : Posting) : Option String :=
  match posting.caller with
  | .provider providerId _ => some providerId
  | .router _ _ _ => none

/-- A request is posted for a router or for a provider. -/
theorem length_postings (posted : List Posting) :
    posted.length = (posted.filter fun posting => posting.caller.isRouter).length +
      (posted.filterMap Posting.provider?).length := by
  induction posted with
  | nil => rfl
  | cons posting rest ih =>
      obtain ⟨caller, backend, reply⟩ := posting
      cases caller with
      | router tier request repair =>
          rw [List.length_cons, ih, List.filter_cons_of_pos rfl, List.filterMap_cons_none rfl,
            List.length_cons]
          omega
      | provider providerId request =>
          have hprovider : Posting.provider? ⟨.provider providerId request, backend, reply⟩ =
              some providerId := rfl
          rw [List.length_cons, ih, List.filter_cons_of_neg Bool.false_ne_true,
            List.filterMap_cons_some hprovider, List.length_cons]
          omega

/-- What is posted for one question of the engine: at most two requests for a router that is
asked, and at most one for a provider that is dispatched. -/
structure Posted (event : EngineEvent μ) (posted : List Posting) : Prop where
  routers : (posted.filter fun posting => posting.caller.isRouter).length ≤
    2 * event.tier?.toList.length
  providers : (posted.filterMap Posting.provider?).Sublist event.dispatched?.toList

theorem Posted.nil {event : EngineEvent μ} : Posted event [] :=
  ⟨Nat.zero_le _, List.nil_sublist _⟩

section Programs

variable (routers : Routers) {rely : Memory μ → Memory μ → Prop} (hrely : Bearable rely)
  {m : Memory μ}

theorem Posted.of_decided {router : StructuredHTTPRouter} {report : UpstreamError → UpstreamError}
    {tier : RouterTier} {request : RouterRequest} {reply : Except Interruption RawDecision}
    {posted : List Posting} {out : Except UpstreamError RouterDecision}
    (h : router.Decided report tier request posted out) :
    Posted ⟨.decide tier request, m, reply⟩ posted := by
  cases h with
  | first received usable => exact ⟨Nat.le_succ _, List.nil_sublist _⟩
  | repaired unusable => exact ⟨le_rfl, List.nil_sublist _⟩

theorem Posted.of_dispatched {registry : Registry μ} {providerId : String}
    {request : ProviderRequest} {reply : Except Interruption String} {posted : List Posting}
    {closed : List Closing} {out : Except UpstreamError String}
    (h : ProviderDispatcher.Dispatched registry providerId request posted closed out) :
    Posted ⟨.dispatch providerId request, m, reply⟩ posted := by
  cases h with
  | unasked unblocking => exact .nil
  | @asked config _ _ registered completed closing =>
      cases completed with
      | keyless => exact .nil
      | posted keyed reply =>
          refine ⟨le_rfl, ?_⟩
          rw [← registry.consistent.id_eq providerId config registered]
          exact List.Sublist.refl _

include hrely

theorem program_posted (query : EngineQuery) :
    (routers.program query).wp (Contract.relying rely) (fun trace m' out =>
      ∀ reply, out = .ok reply → Coro.Resumes (I := engineInterface) rely query m m' ∧
        Posted ⟨query, m, reply⟩ (postings trace)) m := by
  cases query with
  | loopTime =>
      refine ⟨fun _ => trivial, ?_⟩
      rintro now m' hm' _ ⟨⟩
      obtain rfl : m' = m := by simpa [Coro.Resumes] using hm'
      exact ⟨rfl, .nil⟩
  | process response =>
      refine ⟨fun _ => trivial, ?_⟩
      rintro answer m' hm' _ ⟨⟩
      obtain rfl : m' = m := by simpa [Coro.Resumes] using hm'
      exact ⟨rfl, .nil⟩
  | decide tier request =>
      rw [Routers.program, Routers.awaited]
      simp only [Coro.wp_attempt, Coro.wp_translate, Coro.wp_bind]
      apply Coro.wp_mono ((routers tier).decide_posts hrely)
      intro trace m' out hposts
      have hposted : rely m m' ∧ ∀ reply : Except Interruption RawDecision,
          Posted ⟨.decide tier request, m, reply⟩ (postings trace) := by
        rcases hposts with ⟨hsilent, -⟩ | ⟨posted, hexchanged, hdecided⟩
        · rw [hsilent.postings_eq]
          exact ⟨hsilent.rely, fun _ => .nil⟩
        · rw [hexchanged.postings_eq]
          exact ⟨hexchanged.rely, fun _ => .of_decided hdecided⟩
      cases out with
      | error error =>
          rintro _ ⟨⟩
          exact ⟨hposted.1, hposted.2 _⟩
      | ok decision =>
          apply Coro.wp_pure.mpr
          rintro _ ⟨⟩
          rw [List.append_nil]
          exact ⟨hposted.1, hposted.2 _⟩
  | dispatch providerId request =>
      rw [Routers.program, Routers.awaited]
      simp only [Coro.wp_attempt, Coro.wp_translate]
      apply Coro.wp_mono (ProviderDispatcher.dispatch_posts hrely)
      rintro trace m' out ⟨posted, closed, hexchanged, hdispatched⟩ _ ⟨⟩
      rw [hexchanged.postings_eq]
      exact ⟨hexchanged.rely, .of_dispatched hdispatched⟩

end Programs

section Rounds

variable {routers : Routers} {rely : Memory μ → Memory μ → Prop}
  {rounds : List (routers.Round rely)}

theorem routers_of_rounds (hposted : ∀ round ∈ rounds, Posted round.event (postings round.trace)) :
    ((postings (rounds.flatMap Answered.trace)).filter fun posting =>
        posting.caller.isRouter).length ≤
      2 * ((rounds.map Answered.event).filterMap EngineEvent.tier?).length := by
  induction rounds with
  | nil => exact le_rfl
  | cons round rest ih =>
      obtain ⟨hround, hrest⟩ := List.forall_mem_cons.mp hposted
      have hlater := ih hrest
      have hhead := hround.routers
      rw [List.flatMap_cons, postings_append, List.filter_append, List.length_append, List.map_cons,
        List.filterMap_cons]
      cases htier : EngineEvent.tier? round.event with
      | none =>
          rw [htier] at hhead
          simp only [Option.toList_none, List.length_nil] at hhead ⊢
          omega
      | some tier =>
          rw [htier] at hhead
          simp only [Option.toList_some, List.length_cons, List.length_nil] at hhead ⊢
          omega

theorem providers_of_rounds
    (hposted : ∀ round ∈ rounds, Posted round.event (postings round.trace)) :
    ((postings (rounds.flatMap Answered.trace)).filterMap Posting.provider?).Sublist
      (dispatched (rounds.map Answered.event)) := by
  rw [dispatched, postings, List.filterMap_flatMap, List.filterMap_flatMap,
    List.filterMap_eq_flatMap_toList, List.flatMap_map]
  apply List.Sublist.flatMap_right
  intro round hround
  exact (hposted round hround).providers

end Rounds

/-- What one call posts: at most four requests for each ladder it may climb, and at most one for
each provider that is enabled. -/
structure Spares (ladders : ℕ) (registry : Registry μ) (posted : List Posting) : Prop where
  routers : (posted.filter fun posting => posting.caller.isRouter).length ≤ 4 * ladders
  once : (posted.filterMap Posting.provider?).Nodup
  enabled : ∀ id ∈ posted.filterMap Posting.provider?, ∃ config,
    registry.getProvider? id = some config ∧ config.enabled = true
  total : posted.length ≤ 4 * ladders + (registry.availableForRouter []).length

/-- Providers that are enabled, each counted once. -/
theorem length_le_available {registry : Registry μ} {ids : List String} (hnodup : ids.Nodup)
    (henabled : ∀ id ∈ ids, ∃ config, registry.getProvider? id = some config ∧
      config.enabled = true) :
    ids.length ≤ (registry.availableForRouter []).length := by
  have hsub : ids ⊆ (registry.availableForRouter []).map AvailableProvider.id := by
    intro id hid
    obtain ⟨config, hconfig, hon⟩ := henabled id hid
    refine List.mem_map.mpr ⟨⟨id, config.capabilities⟩, ?_, rfl⟩
    exact Registry.mem_availableForRouter_iff.mpr ⟨config, hconfig, hon, List.not_mem_nil, rfl⟩
  have hlength := (hnodup.subperm hsub).length_le
  rwa [List.length_map] at hlength

/-- Whatever the backends reply, and whatever other calls do to the shared conversations: a call
spares its backends, by the ladders its record leaves it. -/
theorem handle_spares [Metric μ] {routers : Routers} {engine : RoutingEngine} {call : HandleCall}
    {exclusive : Prop} {m m' : Memory μ} {trace : List (SystemEvent μ)}
    {out : Except Raised RoutingResponse}
    (hrun : Coro.Run (Surroundings exclusive {m.shared.registry} call)
      (routers.handle engine call) m trace m' out) :
    Spares (call.ladders m) m.shared.registry (postings trace) := by
  have hbearable : Bearable (Surroundings exclusive {m.shared.registry} call) :=
    Surroundings.bearable _ _ _
  have hprogram : ∀ round : routers.Round (Surroundings exclusive {m.shared.registry} call),
      Coro.Resumes (I := engineInterface) (Surroundings exclusive {m.shared.registry} call)
          round.event.query round.event.memory round.after ∧
        Posted round.event (postings round.trace) :=
    fun round => Coro.wp_sound (program_posted routers hbearable _) round.run _ rfl
  obtain ⟨rounds, rfl, hengine⟩ := Coro.Run.of_inline (fun round => (hprogram round).1) hrun
  have hposted : ∀ round ∈ rounds, Posted round.event (postings round.trace) :=
    fun round _ => (hprogram round).2
  have hrouters := routers_of_rounds hposted
  have hasked := handle_asks Surroundings.leavesOwn hengine
  have hsublist := providers_of_rounds hposted
  have hdirected := handle_directed hengine
  have honce : ((postings (rounds.flatMap Answered.trace)).filterMap Posting.provider?).Nodup := by
    apply hsublist.nodup
    rcases hdirected with hnone | ⟨⟨selection⟩⟩
    · rw [hnone]
      exact List.nodup_nil
    · exact selection.nodup
  have henabled : ∀ id ∈ (postings (rounds.flatMap Answered.trace)).filterMap Posting.provider?,
      ∃ config, m.shared.registry.getProvider? id = some config ∧ config.enabled = true := by
    intro id hid
    have hdispatched := hsublist.subset hid
    rcases hdirected with hnone | ⟨⟨selection⟩⟩
    · rw [hnone] at hdispatched
      cases hdispatched
    · obtain ⟨config, hconfig, hdispatchable⟩ := selection.dispatchable hdispatched
      exact ⟨config, hconfig, hdispatchable.enabled⟩
  have hproviders := length_le_available honce henabled
  refine ⟨by omega, honce, henabled, ?_⟩
  rw [length_postings]
  omega

/-- A retry of the small deployment posts five requests; its budget and its three providers would
allow nineteen. -/
theorem handle_spares_secondOpinion :
    (postings (wired secondOpinionCall).1).length = 5 ∧
      Spares 4 secondOpinionMemory.shared.registry (postings (wired secondOpinionCall).1) := by
  have hrun : Coro.Run (Surroundings False {secondOpinionMemory.shared.registry} secondOpinionCall)
      (googleThenNvidia.handle { maxAttempts := 5 } secondOpinionCall) secondOpinionMemory
      (wired secondOpinionCall).1 (wired secondOpinionCall).2.1 (wired secondOpinionCall).2.2 :=
    run_wired Surroundings.refl _
  exact ⟨by decide +kernel, handle_spares hrun⟩

end LLMRouting
