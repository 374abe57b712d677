/-
# Which providers a call dispatches

Five filters stand between the registry and a dispatch: the exclusions of the retries, the
governance policy, the exposed task groups, the validator, and the candidate chain. This
module follows them through a whole call, whose loop may consult the routers again before
one decision selects the chain that is tried.
-/

import LLMRouting.Routing.Call

namespace LLMRouting

open LLMRouting.Interaction

variable {μ : Type} {engine : RoutingEngine} {call : HandleCall} {exclusive : Prop}
  {registry : Registry μ}

/-- What a provider must satisfy to be dispatched for a task group by a call that works on
the record `state` and has resolved its candidates under `governance`. -/
structure Dispatchable (engine : RoutingEngine) (call : HandleCall) (state : ConversationState)
    (group : TaskGroup) (governance : GovernanceRepository) (config : ProviderConfig μ) : Prop where
  enabled : config.enabled = true
  taskGroup_eq : config.taskGroup = group
  not_excluded : config.id ∉ state.excludedProviders
  acceptsImage : call.hasImage = true → config.acceptsImage = true
  governed : engine.candidateResolver = true → ∀ tenant ∈ call.tenant,
    GovernanceEvaluator.reasonFor (governance.getActive tenant.tenantId) call.context config = none

/-- Every member of a chain is registered and dispatchable. -/
theorem dispatchable_of_mem_candidatesFor [Metric μ] {state : ConversationState}
    {group : TaskGroup} {m : Memory μ} {candidateSet : CandidateSet μ} {preserve : Bool}
    (hresolution :
      Discipline.Resolution engine call.context state.excludedProviders m candidateSet)
    (htenant : m.own.tenant = call.tenant) {config : ProviderConfig μ}
    (hmem : config ∈ m.shared.registry.candidatesFor group call.hasImage state.excludedProviders
      (some candidateSet.ids) preserve) :
    m.shared.registry.getProvider? config.id = some config ∧
      Dispatchable engine call state group m.shared.governance config := by
  have heligible := (m.shared.registry.candidatesFor_perm group call.hasImage
    state.excludedProviders (some candidateSet.ids) preserve).mem_iff.mp hmem
  obtain ⟨hget, henabled, hgroup, hexcluded, hallowed, hmodality⟩ :=
    Registry.mem_eligibleProviders_iff.mp heligible
  have hid : config.id ∈ candidateSet.ids := by simpa [Registry.allows] using hallowed
  refine ⟨hget, henabled, hgroup, hexcluded, ?_, ?_⟩
  · intro himage
    simpa [Registry.servesModality, himage] using hmodality
  · intro hresolver tenant hcall
    cases hresolution with
    | governed _ tenant_eq resolved =>
        obtain ⟨found, hfound, -, -, hreason⟩ := resolveCandidateSet_sound resolved hid
        obtain rfl : found = config := Option.some.inj (hfound.symm.trans hget)
        rw [htenant, Option.mem_def.mp hcall] at tenant_eq
        rw [Option.some.inj tenant_eq]
        exact hreason
    | legacy ungoverned =>
        rcases ungoverned with hnone | hnone
        · rw [hresolver] at hnone
          cases hnone
        · rw [htenant, Option.mem_def.mp hcall] at hnone
          cases hnone

/-- How the dispatches of a trace came about: after some questions that dispatched nothing,
a ladder beginning with the question `asked` was decided by an ANSWER, and its candidates
were tried. The call works on one record throughout, which is the stored one if the call has
its conversation to itself. -/
structure Selection [Metric μ] (engine : RoutingEngine) (call : HandleCall) (exclusive : Prop)
    (registry : Registry μ) (trace : List (EngineEvent μ)) where
  before : List (EngineEvent μ)
  asked : EngineEvent μ
  ladder : List (EngineEvent μ)
  chain : List (EngineEvent μ)
  state : ConversationState
  candidateSet : CandidateSet μ
  decision : RouterDecision
  answer : decision.action = .answer
  trace_eq : trace = before ++ (asked :: ladder ++ chain)
  before_undispatched : dispatched before = []
  ladder_undispatched : dispatched (asked :: ladder) = []
  held : ∀ event ∈ asked :: ladder ++ chain, Held exclusive {registry} call state event.memory
  resolution : Discipline.Resolution engine call.context state.excludedProviders asked.memory
    candidateSet
  requested : asked.routed? = some (Routine.routerRequest call state
    (registry.availableTaskGroups (some candidateSet.ids) call.hasImage))
  decided : Discipline.DecidedBy (asked :: ladder) decision
  order : (dispatched chain).Sublist
    ((registry.candidatesFor (decision.answeredGroup answer) call.hasImage state.excludedProviders
      (some candidateSet.ids) call.tenant.isSome).map ProviderConfig.id)
  noneAfterAnswer : NoneAfterAnswer chain

namespace Selection

variable [Metric μ] {trace : List (EngineEvent μ)}

/-- The task group of the decision. -/
def group (selection : Selection engine call exclusive registry trace) : TaskGroup :=
  selection.decision.answeredGroup selection.answer

/-- The chain `candidates_for` gives for the decision. -/
def candidates (selection : Selection engine call exclusive registry trace) :
    List (ProviderConfig μ) :=
  registry.candidatesFor selection.group call.hasImage selection.state.excludedProviders
    (some selection.candidateSet.ids) call.tenant.isSome

theorem dispatched_eq (selection : Selection engine call exclusive registry trace) :
    dispatched trace = dispatched selection.chain := by
  calc dispatched trace
      = dispatched (selection.before ++ (selection.asked :: selection.ladder ++ selection.chain)) :=
        congrArg dispatched selection.trace_eq
    _ = dispatched selection.chain := by
        rw [dispatched_append, dispatched_append, selection.before_undispatched,
          selection.ladder_undispatched, List.nil_append, List.nil_append]

/-- The dispatches follow the order of the chain. -/
theorem dispatched_sublist (selection : Selection engine call exclusive registry trace) :
    (dispatched trace).Sublist (selection.candidates.map ProviderConfig.id) := by
  rw [selection.dispatched_eq]
  exact selection.order

theorem nodup (selection : Selection engine call exclusive registry trace) :
    (dispatched trace).Nodup :=
  (registry.nodup_map_id_candidatesFor _ _ _ _ _).sublist selection.dispatched_sublist

theorem noneAfterAnswer_trace (selection : Selection engine call exclusive registry trace) :
    NoneAfterAnswer trace := by
  rw [selection.trace_eq]
  apply NoneAfterAnswer.prepend selection.before_undispatched
  exact selection.noneAfterAnswer.prepend selection.ladder_undispatched

theorem dispatchable (selection : Selection engine call exclusive registry trace) {id : String}
    (hid : id ∈ dispatched trace) :
    ∃ config, registry.getProvider? id = some config ∧ Dispatchable engine call selection.state
      selection.group selection.asked.memory.shared.governance config := by
  have hheld := selection.held selection.asked (by simp)
  have hregistry : selection.asked.memory.shared.registry = registry := hheld.registry_mem
  obtain ⟨config, hmem, rfl⟩ := List.mem_map.mp (selection.dispatched_sublist.subset hid)
  have hmem' : config ∈ selection.asked.memory.shared.registry.candidatesFor selection.group
      call.hasImage selection.state.excludedProviders (some selection.candidateSet.ids)
      call.tenant.isSome := by
    rw [hregistry]
    exact hmem
  obtain ⟨hget, hdispatchable⟩ :=
    dispatchable_of_mem_candidatesFor selection.resolution hheld.tenant_eq hmem'
  rw [hregistry] at hget
  exact ⟨config, hget, hdispatchable⟩

/-- A selection, seen with the questions that came before. -/
def prepend {before : List (EngineEvent μ)} (hbefore : dispatched before = [])
    (selection : Selection engine call exclusive registry trace) :
    Selection engine call exclusive registry (before ++ trace) :=
  { selection with
    before := before ++ selection.before
    trace_eq := by
      rw [List.append_assoc]
      exact congrArg _ selection.trace_eq
    before_undispatched := by
      rw [dispatched_append, hbefore, selection.before_undispatched, List.nil_append] }

end Selection

/-- At most one selection accounts for all the dispatches of a trace. -/
def Directed [Metric μ] (engine : RoutingEngine) (call : HandleCall) (exclusive : Prop)
    (registry : Registry μ) (trace : List (EngineEvent μ)) : Prop :=
  dispatched trace = [] ∨ Nonempty (Selection engine call exclusive registry trace)

theorem Directed.prepend [Metric μ] {before trace : List (EngineEvent μ)}
    (hbefore : dispatched before = []) (h : Directed engine call exclusive registry trace) :
    Directed engine call exclusive registry (before ++ trace) := by
  rcases h with hnone | ⟨⟨selection⟩⟩
  · left
    rw [dispatched_append, hbefore, hnone, List.append_nil]
  · exact Or.inr ⟨selection.prepend hbefore⟩

/-- The decision of an iteration selects the chain that is tried in it. -/
def Selection.ofIteration [Metric μ] {state : ConversationState} {m : Memory μ}
    {candidateSet : CandidateSet μ} {asked : EngineEvent μ} {ladder chain : List (EngineEvent μ)}
    {decision : RouterDecision}
    (consulted : Discipline.Consultation engine call
      (Surroundings.discipline exclusive {registry} call) state m candidateSet (asked :: ladder))
    (quiet : Quiet m asked.memory)
    (requested : asked.routed? = some (Routine.routerRequest call state
      (registry.availableTaskGroups (some candidateSet.ids) call.hasImage)))
    (decided : Discipline.DecidedBy (asked :: ladder) decision) (answer : decision.action = .answer)
    {blocked : List Backend}
    (tried : (Surroundings.discipline exclusive {registry} call).ChainTrace state
      (registry.candidatesFor (decision.answeredGroup answer) call.hasImage
        state.excludedProviders (some candidateSet.ids) call.tenant.isSome) blocked chain) :
    Selection engine call exclusive registry (asked :: ladder ++ chain) where
  before := []
  asked := asked
  ladder := ladder
  chain := chain
  state := state
  candidateSet := candidateSet
  decision := decision
  answer := answer
  trace_eq := rfl
  before_undispatched := rfl
  ladder_undispatched := dispatched_eq_nil_iff.mpr consulted.undispatched
  held event hevent := by
    rcases List.mem_append.mp hevent with hladder | hchain
    · exact consulted.heldAsking event hladder
    · exact tried.heldAsking event hchain
  resolution := consulted.resolution.of_quiet quiet
  requested := requested
  decided := decided
  order := tried.dispatched_sublist
  noneAfterAnswer := tried.noneAfterAnswer

/-- One iteration dispatches what its own decision selects, or what a later one does. -/
theorem directed_of_iteration [Metric μ] {state : ConversationState} {blocked : List Backend}
    {m m' : Memory μ}
    {trace : List (EngineEvent μ)} {out : Except Raised RoutingResponse}
    (hm : Held exclusive {registry} call state m)
    (h : Discipline.IterationOutcome engine call (Surroundings.discipline exclusive {registry} call)
      state blocked m (fun _ _ trace _ _ => Directed engine call exclusive registry trace)
      trace m' out) :
    Directed engine call exclusive registry trace := by
  have hladder : ∀ {candidateSet : CandidateSet μ} {ladder : List (EngineEvent μ)},
      Discipline.Consultation engine call (Surroundings.discipline exclusive {registry} call)
        state m candidateSet ladder → dispatched ladder = [] :=
    fun consulted => dispatched_eq_nil_iff.mpr consulted.undispatched
  cases h with
  | guarded => exact Or.inl rfl
  | refused => exact Or.inl rfl
  | undecided consulted => exact Or.inl (hladder consulted)
  | replied consulted => exact Or.inl (hladder consulted)
  | stopped consulted => exact Or.inl (hladder consulted)
  | lost consulted => exact Or.inl (hladder consulted)
  | retried consulted _ _ _ _ later => exact later.prepend (hladder consulted)
  | executed consulted decided action _ held chain =>
      obtain ⟨asked, ladder, rfl, hquiet, hrequested⟩ := consulted.head
      have hregistry : m.shared.registry = registry := hm.registry_mem
      rw [hregistry] at hrequested
      have hexecuting : Held exclusive {registry} call state _ := held
      have htried := chain.trace
      rw [hexecuting.tenant_eq, show _ = registry from hexecuting.registry_mem] at htried
      exact Or.inr ⟨.ofIteration consulted hquiet hrequested decided action htried⟩

/-- Every provider a call dispatches may be dispatched, none twice, in the order of the
chain, and none after an answer. -/
theorem handle_directed [Metric μ] {m m' : Memory μ} {trace : List (EngineEvent μ)}
    {out : Except Raised RoutingResponse}
    (hrun : Coro.Run (Surroundings exclusive {m.shared.registry} call) (Routine.handle engine call)
      m trace m' out) :
    Directed engine call exclusive m.shared.registry trace := by
  obtain ⟨now, body, result, rfl, hbody, -⟩ := Surroundings.outcome
    (P := fun _ _ _ trace _ _ => Directed engine call exclusive m.shared.registry trace) hrun rfl
    fun _ _ _ _ _ _ => directed_of_iteration
  have hclock : dispatched [(⟨.loopTime, m, now⟩ : EngineEvent μ)] = [] := rfl
  apply Directed.prepend hclock
  cases hbody with
  | unknown | imageRequired | exhausted | stopped | lost => exact Or.inl rfl
  | retried _ _ _ _ _ _ later => exact later
  | begun _ _ _ _ later => exact later

/-- Whatever the routers and providers do, the dispatches of a call are distinct, follow the
chain that one ANSWER decision selects, end with the first answer, and go only to providers
that satisfied every filter when the routing iteration resolved its candidates. -/
theorem handle_dispatches [Metric μ] {m m' : Memory μ} {trace : List (EngineEvent μ)}
    {out : Except Raised RoutingResponse}
    (hrun : Coro.Run (Surroundings exclusive {m.shared.registry} call) (Routine.handle engine call)
      m trace m' out) :
    (dispatched trace).Nodup ∧ NoneAfterAnswer trace ∧
      (dispatched trace = [] ∨
        ∃ selection : Selection engine call exclusive m.shared.registry trace,
          (dispatched trace).Sublist (selection.candidates.map ProviderConfig.id) ∧
          ∀ id ∈ dispatched trace, ∃ config, m.shared.registry.getProvider? id = some config ∧
            Dispatchable engine call selection.state selection.group
              selection.asked.memory.shared.governance config) := by
  rcases handle_directed hrun with hnone | ⟨⟨selection⟩⟩
  · refine ⟨?_, ?_, Or.inl hnone⟩
    · rw [hnone]
      exact List.nodup_nil
    · apply List.pairwise_of_forall_mem_list
      intro event _ later hlater _
      exact dispatched_eq_nil_iff.mp hnone later hlater
  · refine ⟨selection.nodup, selection.noneAfterAnswer_trace, Or.inr ⟨selection, ?_, ?_⟩⟩
    · exact selection.dispatched_sublist
    · exact fun id hid => selection.dispatchable hid

/-- A retry after `first` answered: the routers ask for another retry, then for an answer;
`second` is unavailable and `third` answers. -/
def secondOpinionCall : HandleCall :=
  { request := { conversationId := "c", message := "again", retry := true } }

def secondOpinionMemory : Memory ℤ :=
  deployment
    [generalProvider "first" 1 .google, generalProvider "second" 2 .nvidia,
      generalProvider "third" 3 .groq]
    (some
      { conversationId := "c", originalQuery := "question", previousResponse := some "answer"
        maxAttempts := 5, lastProvider := some "first" })

def secondOpinion : List (EngineEvent ℤ) × Memory ℤ × Except Raised RoutingResponse :=
  (Routine.handle { maxAttempts := 5 } secondOpinionCall).eval
    (scripted
      (fun request => .ok (.decision
        (if request.attempt = 1 then retryDecision else generalDecision)))
      fun id =>
        if id = "second" then .error (.raised { kind := .providerUnavailable }) else .ok "text")
    secondOpinionMemory 0

theorem run_secondOpinion {rely : Memory ℤ → Memory ℤ → Prop} (hrefl : ∀ m, rely m m) :
    Coro.Run rely (Routine.handle { maxAttempts := 5 } secondOpinionCall) secondOpinionMemory
      secondOpinion.1 secondOpinion.2.1 secondOpinion.2.2 :=
  Coro.run_eval hrefl _ _ _ _

theorem handle_dispatches_secondOpinion :
    dispatched secondOpinion.1 = ["second", "third"] ∧ NoneAfterAnswer secondOpinion.1 ∧
      ∃ selection : Selection { maxAttempts := 5 } secondOpinionCall True
          secondOpinionMemory.shared.registry secondOpinion.1,
        (dispatched secondOpinion.1).Sublist (selection.candidates.map ProviderConfig.id) := by
  have hdispatched : dispatched secondOpinion.1 = ["second", "third"] := by decide +kernel
  obtain ⟨-, hanswer, hnone | ⟨selection, horder, -⟩⟩ :=
    handle_dispatches (run_secondOpinion Surroundings.refl)
  · rw [hdispatched] at hnone
    cases hnone
  · exact ⟨hdispatched, hanswer, selection, horder⟩

end LLMRouting
