/-
# One working path is enough

The engine keeps a second router and further providers for when the first ones fail. A new message
is answered as the routers decide whenever the fallback router decides, each group has one provider
that answers, and time does not run out; what else fails, and what other calls do, makes no
difference.
-/

import LLMRouting.Interaction.Histories
import LLMRouting.Interaction.Protocol
import LLMRouting.Routing.Compositional
import LLMRouting.Routing.Crew
import LLMRouting.Routing.NewTurn
import LLMRouting.Routing.Ledger

namespace LLMRouting

open LLMRouting.Interaction

variable {μ : Type}

/-- The registry stays as it is, and no conversation is lost. -/
structure World.Lasts (world world' : World μ) : Prop where
  registry_eq : world'.registry = world.registry
  stored : ∀ conversationId tenantId,
    (world.conversations.load conversationId tenantId).isSome →
      (world'.conversations.load conversationId tenantId).isSome

namespace World.Lasts

variable {first second third : World μ}

theorem refl (world : World μ) : world.Lasts world := ⟨rfl, fun _ _ h => h⟩

theorem trans (h : first.Lasts second) (h' : second.Lasts third) : first.Lasts third where
  registry_eq := h'.registry_eq.trans h.registry_eq
  stored conversationId tenantId hstored :=
    h'.stored conversationId tenantId (h.stored conversationId tenantId hstored)

theorem put (world : World μ) (state : ConversationState) (tenantId : String) :
    world.Lasts { world with conversations := world.conversations.put state tenantId } where
  registry_eq := rfl
  stored conversationId otherTenant hstored := by
    rw [ConversationStateManager.load_put]
    split
    · rfl
    · exact hstored

end World.Lasts

/-- A step of a call leaves the registry and every conversation in place. -/
theorem compositional_lasts (tenantId : String) :
    Compositional (μ := μ) tenantId fun _ routine =>
      ∀ m, routine.wp (Annals.drifting World.Lasts) (fun _ _ _ => True) m where
  pure _ _ := trivial
  raise _ _ := trivial
  bind h hnext m := by
    rw [Coro.wp_bind]
    apply Coro.wp_mono (h m)
    intro trace m' out _
    cases out with
    | ok value => exact hnext value m'
    | error raised => trivial
  attempt h m := by
    rw [Coro.wp_attempt]
    exact h m
  ask _ _ := ⟨fun _ => trivial, fun _ _ _ => trivial⟩
  note _ m := ⟨World.Lasts.refl m.shared, trivial⟩
  look hnext _ m := hnext m m
  audit _ _ := ⟨⟨rfl, fun _ _ h => h⟩, trivial⟩
  create engine call _ m := by
    apply Discipline.memory_bind
    cases m.shared.conversations.load call.request.conversationId call.tenantId with
    | some stored => trivial
    | none => exact ⟨World.Lasts.put m.shared _ call.tenantId, trivial⟩
  writeBack state m := by
    apply Discipline.memory_bind
    rw [ConversationStateManager.update]
    cases m.shared.conversations.load state.conversationId tenantId with
    | none => trivial
    | some stored => exact ⟨World.Lasts.put m.shared state tenantId, trivial⟩

/-- The past of every call is a run of it, while the others leave the registry and the
conversations in place. -/
theorem faithful_of_calls [Metric μ] {engine : RoutingEngine} {world : World μ}
    {moves : List (EngineMove μ)}
    {annals : Annals engineInterface (World μ) (Capture μ) Raised RoutingResponse HandleCall}
    (hrun : Steps (Annals.Gentle (engineCrew μ engine) World.Lasts) ⟨⟨world, []⟩, []⟩ moves
      annals) : annals.Faithful (engineCrew μ engine) fun _ => World.Lasts :=
  Annals.faithful_of_run World.Lasts.refl (fun _ _ _ => World.Lasts.trans)
    (fun call _ => (compositional_lasts call.tenantId).handle _) hrun

/-- A tier's verdict is as good as it has to be: it decides, or it is the primary router and fails
without a refusal of a willing backend. -/
def RouterTier.Favourable (tier : RouterTier) (willing : Set Backend) :
    Except Interruption RouterDecision → Prop
  | .ok _ => True
  | .error (.raised error) =>
      tier = .primaryRouter ∧ ∀ backend ∈ Routine.refusedBackend error, backend ∉ willing
  | .error (.cancelled _) => False

/-- The reply is as good as it has to be: the clock is early, the routers' verdicts are favourable,
a provider answers or is an unreliable one that fails as providers may and is not refused by a
willing backend, and the gateway cleans. -/
def EngineEvent.Favourable (registry : Registry μ) (reliable : Set String)
    (willing : Set Backend) : EngineEvent μ → Prop
  | ⟨.loopTime, asked, now⟩ => now < asked.own.deadline
  | ⟨.decide tier request, _, reply⟩ => tier.Favourable willing (Routine.judged request reply)
  | ⟨.dispatch _ _, _, .ok _⟩ | ⟨.process _, _, .ok _⟩ => True
  | ⟨.dispatch id _, _, .error (.raised error)⟩ =>
      id ∉ reliable ∧ Routine.isControlled error = true ∧ (error.blocksBackend = true →
        ∀ provider ∈ registry.getProvider? id, provider.backend ∉ willing)
  | ⟨.dispatch _ _, _, .error (.cancelled _)⟩ | ⟨.process _, _, .error _⟩ => False

section Decidability

variable {registry : Registry μ} {reliable : Set String} {willing : Set Backend}
  [DecidablePred fun id => id ∈ reliable] [DecidablePred fun backend => backend ∈ willing]

instance {tier : RouterTier} : DecidablePred (tier.Favourable willing)
  | .ok _ => isTrue trivial
  | .error (.raised error) => inferInstanceAs (Decidable (tier = .primaryRouter ∧
      ∀ backend ∈ Routine.refusedBackend error, backend ∉ willing))
  | .error (.cancelled _) => isFalse id

instance : DecidablePred (EngineEvent.Favourable registry reliable willing)
  | ⟨.loopTime, asked, now⟩ => inferInstanceAs (Decidable (LT.lt (α := ℚ) now asked.own.deadline))
  | ⟨.decide tier request, _, reply⟩ =>
      inferInstanceAs (Decidable (tier.Favourable willing (Routine.judged request reply)))
  | ⟨.dispatch _ _, _, .ok _⟩ | ⟨.process _, _, .ok _⟩ => isTrue trivial
  | ⟨.dispatch id _, _, .error (.raised error)⟩ => inferInstanceAs (Decidable (id ∉ reliable ∧
      Routine.isControlled error = true ∧ (error.blocksBackend = true →
        ∀ provider ∈ registry.getProvider? id, provider.backend ∉ willing)))
  | ⟨.dispatch _ _, _, .error (.cancelled _)⟩ | ⟨.process _, _, .error _⟩ => isFalse id

end Decidability

/-- The provider can be counted on. -/
structure CountedOn (reliable : Set String) (willing : Set Backend) (provider : ProviderConfig μ) :
    Prop where
  reliable : provider.id ∈ reliable
  willing : provider.backend ∈ willing

instance {reliable : Set String} {willing : Set Backend} [DecidablePred fun id => id ∈ reliable]
    [DecidablePred fun backend => backend ∈ willing] :
    DecidablePred (CountedOn (μ := μ) reliable willing) := fun provider =>
  decidable_of_iff (provider.id ∈ reliable ∧ provider.backend ∈ willing)
    ⟨fun h => ⟨h.1, h.2⟩, fun h => ⟨h.reliable, h.willing⟩⟩

/-- Every group that is exposed has a candidate that can be counted on. -/
def Covered (registry : Registry μ) (ids : List String) (image : Bool) (reliable : Set String)
    (willing : Set Backend) : Prop :=
  ∀ group ∈ registry.availableTaskGroups (some ids) image,
    ∃ provider ∈ registry.eligibleProviders group image [] (some ids),
      CountedOn reliable willing provider

instance {registry : Registry μ} {ids : List String} {image : Bool} {reliable : Set String}
    {willing : Set Backend} [DecidablePred fun id => id ∈ reliable]
    [DecidablePred fun backend => backend ∈ willing] :
    Decidable (Covered registry ids image reliable willing) :=
  inferInstanceAs (Decidable (∀ group ∈ registry.availableTaskGroups (some ids) image,
    ∃ provider ∈ registry.eligibleProviders group image [] (some ids),
      CountedOn reliable willing provider))

/-- What a call carries along until a candidate has responded. -/
structure Carries (registry : Registry μ) (call : HandleCall) (m : Memory μ) : Prop where
  registry_eq : m.shared.registry = registry
  selected_eq : m.own.selectedProvider = none
  stored : (m.shared.conversations.load call.request.conversationId call.tenantId).isSome

/-- The registry is the same, and knows the provider that was selected. -/
structure Attachable (registry : Registry μ) (m : Memory μ) : Prop where
  registry_eq : m.shared.registry = registry
  selected : ∀ id ∈ m.own.selectedProvider, ∃ provider, registry.getProvider? id = some provider

/-- The call replies with this action. -/
structure RepliesWith (registry : Registry μ) (action : RouterAction) (m : Memory μ)
    (out : Except Raised RoutingResponse) : Prop where
  replies : ∃ response, out = .ok response ∧ response.action = action
  attachable : Attachable registry m

/-- A tier has decided, and no willing backend has refused. -/
inductive Agreed (registry : Registry μ) (call : HandleCall) (willing : Set Backend)
    (request : RouterRequest) (trace : List (EngineEvent μ)) (m : Memory μ) :
    Except Raised (RouterDecision × List Backend) → Prop
  | decided {decision : RouterDecision} {refused : List Backend} {event : EngineEvent μ}
      (mem : event ∈ trace) (decides : event.Decides decision)
      (suits : DecisionValidator.Suits decision request.availableTaskGroups request.hasImage
        request.retry)
      (spared : ∀ backend ∈ refused, backend ∉ willing) (carries : Carries registry call m) :
      Agreed registry call willing request trace m (.ok (decision, refused))

/-- A decision that a router has made is carried out. -/
structure Enacted (trace : List (EngineEvent μ)) (out : Except Raised RoutingResponse) : Prop where
  enacted : ∃ decision response event, event ∈ trace ∧ event.Decides decision ∧
    out = .ok response ∧ response.action = decision.action

theorem Enacted.prepend {trace : List (EngineEvent μ)} {out : Except Raised RoutingResponse}
    (before : List (EngineEvent μ)) (h : Enacted trace out) : Enacted (before ++ trace) out := by
  obtain ⟨decision, response, event, hmem, hrest⟩ := h.enacted
  exact ⟨decision, response, event, List.mem_append_right before hmem, hrest⟩

/-- What holds of the routing of a message. -/
structure Routed (registry : Registry μ) (trace : List (EngineEvent μ)) (m : Memory μ)
    (out : Except Raised RoutingResponse) : Prop where
  enacted : Enacted trace out
  attachable : Attachable registry m

section Call

open Routine Coro

variable {registry : Registry μ} {reliable : Set String} {willing : Set Backend}
  {call : HandleCall} {m m' : Memory μ}

theorem Carries.attachable (h : Carries registry call m) : Attachable registry m where
  registry_eq := h.registry_eq
  selected := by
    rw [h.selected_eq]
    intro id hid
    cases hid

theorem Carries.congr (h : Carries registry call m) (hshared : m'.shared = m.shared)
    (hselected : m'.own.selectedProvider = m.own.selectedProvider) : Carries registry call m' where
  registry_eq := by rw [hshared, h.registry_eq]
  selected_eq := hselected.trans h.selected_eq
  stored := by rw [hshared]; exact h.stored

theorem Carries.drift (h : Carries registry call m) (hdrift : Drifts World.Lasts m m') :
    Carries registry call m' where
  registry_eq := hdrift.shared.registry_eq.trans h.registry_eq
  selected_eq := by rw [hdrift.own, h.selected_eq]
  stored := hdrift.shared.stored _ _ h.stored

/-- A look at the clock finds that there is time left. -/
theorem deadlinePassed_provided {α : Type} {rely : Memory μ → Memory μ → Prop}
    {next : Bool → Routine μ α}
    {goal : List (EngineEvent μ) → Memory μ → Except Raised α → Prop}
    (h : ∀ now, (next false).wp (Contract.relying rely)
      (Provided (EngineEvent.Favourable registry reliable willing)
        fun rest => goal (⟨.loopTime, m, now⟩ :: rest)) m) :
    (deadlinePassed >>= next).wp (Contract.relying rely)
      (Provided (EngineEvent.Favourable registry reliable willing) goal) m := by
  apply Discipline.deadlinePassed_bind
  intro now
  apply wp_provided_cons
  intro (hearly : now < m.own.deadline)
  rw [decide_eq_false (not_le.mpr hearly)]
  exact h now

/-- The record of an answer can be written back. -/
theorem update_answered {conversations : ConversationStateManager} {state : ConversationState}
    {tenantId clean : String} {stored : ConversationState} {candidate : ProviderConfig μ}
    (h : conversations.load state.conversationId tenantId = some stored) :
    conversations.update
        { state with previousResponse := some clean, lastProvider := some candidate.id } tenantId =
      some (conversations.put
        { state with previousResponse := some clean, lastProvider := some candidate.id }
        tenantId) :=
  ConversationStateManager.update_of_load h

/-- A candidate that has responded is committed. -/
theorem commitAnswer_replies {rely : Memory μ → Memory μ → Prop} {state : ConversationState}
    {candidate : ProviderConfig μ} {text : String} (hm : Carries registry call m)
    (hid : state.conversationId = call.request.conversationId)
    (hcandidate : registry.getProvider? candidate.id = some candidate) :
    (commitAnswer state call.tenantId candidate text).wp (Contract.relying rely)
      (Provided (EngineEvent.Favourable registry reliable willing) fun _ =>
        RepliesWith registry .answer) m := by
  rw [commitAnswer]
  apply note_bind_relying
  apply Discipline.askGateway_bind
  intro reply
  apply wp_provided_cons
  intro hfavourable
  cases reply with
  | error error => cases hfavourable
  | ok clean =>
      apply deadlinePassed_provided
      intro now
      rw [if_neg Bool.false_ne_true, storeState, remember, bind_assoc]
      apply note_bind_relying
      rw [writeBack, bind_assoc]
      apply Discipline.memory_bind
      obtain ⟨stored, hstored⟩ := Option.isSome_iff_exists.mp hm.stored
      rw [← hid] at hstored
      simp only [update_answered hstored]
      apply Coro.wp_modify_bind_relying.mpr
      refine .of ⟨⟨_, rfl, rfl⟩, hm.registry_eq, ?_⟩
      rintro _ ⟨⟩
      exact ⟨candidate, hcandidate⟩

theorem tryCandidates_replies {request : ProviderRequest} {state : ConversationState}
    (hid : state.conversationId = call.request.conversationId)
    (candidates : List (ProviderConfig μ)) (blocked : List Backend)
    (lastError : Option PyException)
    (hcandidates : ∀ candidate ∈ candidates, registry.getProvider? candidate.id = some candidate)
    (hblocked : ∀ backend ∈ blocked, backend ∉ willing)
    (hcounted : ∃ candidate ∈ candidates, CountedOn reliable willing candidate)
    (hm : Carries registry call m) :
    (tryCandidates request state call.tenantId candidates blocked lastError).wp
      (Contract.relying (Drifts World.Lasts))
      (Provided (EngineEvent.Favourable registry reliable willing) fun _ =>
        RepliesWith registry .answer) m := by
  induction candidates generalizing m blocked lastError with
  | nil =>
      obtain ⟨candidate, hmem, -⟩ := hcounted
      cases hmem
  | cons candidate rest ih =>
      obtain ⟨hcandidate, hrest⟩ := List.forall_mem_cons.mp hcandidates
      rw [tryCandidates]
      apply deadlinePassed_provided
      intro now
      rw [if_neg Bool.false_ne_true]
      have hothers : ¬ CountedOn reliable willing candidate →
          ∃ candidate ∈ rest, CountedOn reliable willing candidate := by
        intro hcannot
        obtain ⟨other, hother, hcounts⟩ := hcounted
        rcases List.mem_cons.mp hother with rfl | hlater
        · exact absurd hcounts hcannot
        · exact ⟨other, hlater, hcounts⟩
      split
      · rename_i hrefused
        apply note_bind_relying
        refine ih _ _ hrest hblocked (hothers fun hcounts => ?_) ?_
        · exact hblocked _ hrefused hcounts.willing
        · exact hm.congr rfl rfl
      · apply note_bind_relying
        rw [askProvider, Coro.wp_bind]
        refine ⟨fun _ => trivial, fun reply m₁ hresumed => ?_⟩
        have hm₁ : Carries registry call m₁ := by
          refine Carries.drift ?_ hresumed
          exact hm.congr rfl rfl
        apply wp_provided_cons
        intro hfavourable
        rcases reply with (byDeadline | error) | text
        · cases hfavourable
        · obtain ⟨hunreliable, hcontrolled, hrefuses⟩ := hfavourable
          simp only [hcontrolled, if_true]
          apply note_bind_relying
          refine ih _ _ hrest ?_ (hothers fun hcounts => hunreliable hcounts.reliable) ?_
          · split
            · rename_i hblocks
              exact List.forall_mem_cons.mpr ⟨hrefuses hblocks candidate hcandidate, hblocked⟩
            · exact hblocked
          · exact hm₁.congr rfl rfl
        · exact commitAnswer_replies hm₁ hid hcandidate

/-- A chain with a candidate that can be counted on responds. -/
theorem executeWithFallback_replies {request : ProviderRequest} {state : ConversationState}
    {candidates : List (ProviderConfig μ)} {blocked : List Backend}
    (hid : state.conversationId = call.request.conversationId)
    (hcandidates : ∀ candidate ∈ candidates, registry.getProvider? candidate.id = some candidate)
    (hblocked : ∀ backend ∈ blocked, backend ∉ willing)
    (hcounted : ∃ candidate ∈ candidates, CountedOn reliable willing candidate)
    (hm : Carries registry call m) :
    (executeWithFallback candidates request state call.tenantId blocked).wp
      (Contract.relying (Drifts World.Lasts))
      (Provided (EngineEvent.Favourable registry reliable willing) fun _ =>
        RepliesWith registry .answer) m := by
  cases candidates with
  | nil =>
      obtain ⟨candidate, hmem, -⟩ := hcounted
      cases hmem
  | cons first rest =>
      rw [executeWithFallback]
      apply note_bind_relying
      exact tryCandidates_replies hid _ _ _ hcandidates hblocked hcounted (hm.congr rfl rfl)

/-- A ladder that still has the fallback router to ask decides. -/
theorem climb_agrees {request : RouterRequest} (tiers : List RouterTier) (blocked : List Backend)
    (hfallback : .fallbackRouter ∈ tiers) (hblocked : ∀ backend ∈ blocked, backend ∉ willing)
    (hm : Carries registry call m) :
    (climb request tiers blocked).wp (Contract.relying (Drifts World.Lasts))
      (Provided (EngineEvent.Favourable registry reliable willing)
        (Agreed registry call willing request)) m := by
  induction tiers generalizing m blocked with
  | nil => cases hfallback
  | cons tier rest ih =>
      rw [climb]
      apply note_bind_relying
      rw [askRouter, Coro.wp_bind]
      refine ⟨fun _ => trivial, fun reply m₁ hresumed => ?_⟩
      have hm₁ : Carries registry call m₁ := by
        refine Carries.drift ?_ hresumed
        exact hm.congr rfl rfl
      apply wp_provided_cons
      intro (hfavourable : tier.Favourable willing (judged request reply))
      cases hverdict : judged request reply with
      | ok decision =>
          simp only
          apply note_bind_relying
          obtain ⟨raw, -, hvalid⟩ := judged_eq_ok_iff.mp hverdict
          exact .of (.decided List.mem_cons_self hverdict
            (DecisionValidator.validate_eq_ok_iff.mp hvalid).2 hblocked (hm₁.congr rfl rfl))
      | error interruption =>
          rw [hverdict] at hfavourable
          cases interruption with
          | cancelled byDeadline => cases hfavourable
          | raised error =>
              obtain ⟨rfl, hrefused⟩ := hfavourable
              apply note_bind_relying
              have hrest : RouterTier.fallbackRouter ∈ rest := by
                rcases List.mem_cons.mp hfallback with h | h
                · cases h
                · exact h
              have hboth : ∀ backend ∈ blocked ++ refusedBackend error, backend ∉ willing := by
                intro backend hbackend
                rcases List.mem_append.mp hbackend with h | h
                · exact hblocked backend h
                · exact hrefused backend h
              refine Coro.wp_mono (ih _ hrest hboth (hm₁.congr rfl rfl)) ?_
              intro trace m' out hout
              constructor
              intro hall
              cases hout.meets hall with
              | decided mem decides suits spared carries =>
                  exact .decided (List.mem_cons_of_mem _ mem) decides suits spared carries

/-- What a router decides about a new message is carried out. -/
theorem followDecision_replies {state : ConversationState} {ids : List String}
    {blocked : List Backend} {decision : RouterDecision}
    {next : ConversationState → List Backend → Routine μ RoutingResponse}
    (hmessage : call.request.retry = false)
    (hid : state.conversationId = call.request.conversationId)
    (hexcluded : state.excludedProviders = [])
    (hsuits : DecisionValidator.Suits decision
      (registry.availableTaskGroups (some ids) call.hasImage) call.hasImage call.request.retry)
    (hcovered : Covered registry ids call.hasImage reliable willing)
    (hblocked : ∀ backend ∈ blocked, backend ∉ willing) (hm : Carries registry call m) :
    (followDecision call state ids blocked next decision).wp
      (Contract.relying (Drifts World.Lasts))
      (Provided (EngineEvent.Favourable registry reliable willing) fun _ =>
        RepliesWith registry decision.action) m := by
  rw [followDecision]
  split
  · rename_i hretry
    have hasked := hsuits.retry_of_action hretry
    rw [hmessage] at hasked
    cases hasked
  · rename_i hclarify
    exact .of ⟨⟨_, rfl, hclarify.symm⟩, hm.attachable⟩
  · rename_i hstop
    exact .of ⟨⟨_, rfl, hstop.symm⟩, hm.attachable⟩
  · rename_i hanswer
    apply note_bind_relying
    apply Discipline.memory_bind
    obtain ⟨provider, heligible, hcounted⟩ := hcovered _ (hsuits.mem_available hanswer)
    simp only [hm.registry_eq, hexcluded, hanswer]
    have hperm := registry.candidatesFor_perm (decision.answeredGroup hanswer) call.hasImage []
      (some ids) m.own.tenant.isSome
    refine executeWithFallback_replies hid ?_ hblocked
      ⟨provider, hperm.mem_iff.mpr heligible, hcounted⟩ (hm.congr rfl rfl)
    intro candidate hcandidate
    exact Registry.getProvider?_of_mem_candidatesFor hcandidate

variable [Metric μ] {engine : RoutingEngine} {state : ConversationState}
  {candidateSet : CandidateSet μ}

/-- The candidates are enabled providers. -/
theorem hasEnabled_of_resolution {context : RoutingContext} {excluded : List String}
    (h : Discipline.Resolution engine context excluded m candidateSet)
    (hsome : candidateSet.ids ≠ []) : m.shared.registry.HasEnabled := by
  obtain ⟨id, hid⟩ := List.exists_mem_of_ne_nil _ hsome
  have henabled : ∃ provider, m.shared.registry.getProvider? id = some provider ∧
      provider.enabled = true := by
    cases h with
    | governed resolver tenant_eq resolved =>
        obtain ⟨provider, hget, henabled, -⟩ := resolveCandidateSet_sound resolved hid
        exact ⟨provider, hget, henabled⟩
    | legacy ungoverned =>
        obtain ⟨available, havailable, rfl⟩ := List.mem_map.mp hid
        obtain ⟨provider, hget, henabled, -⟩ := Registry.mem_availableForRouter_iff.mp havailable
        exact ⟨provider, hget, henabled⟩
  obtain ⟨provider, hget, henabled⟩ := henabled
  refine ⟨provider, Registry.mem_listProviders_iff.mpr ?_, henabled⟩
  rwa [m.shared.registry.consistent.id_eq id provider hget]

/-- A resolution that succeeds leaves what the call carries along. -/
theorem resolveCandidates_bind_carries {context : RoutingContext} {excluded : List String}
    {next : CandidateSet μ → Routine μ RoutingResponse} {rely : Memory μ → Memory μ → Prop}
    {post : List (EngineEvent μ) → Memory μ → Except Raised RoutingResponse → Prop}
    (hresolution : Discipline.Resolution engine context excluded m candidateSet)
    (hm : Carries registry call m)
    (h : ∀ m', Carries registry call m' → (next candidateSet).wp (Contract.relying rely) post m') :
    (resolveCandidates engine context excluded >>= next).wp (Contract.relying rely) post m := by
  rw [resolveCandidates, bind_assoc]
  apply Discipline.memory_bind
  cases hresolution with
  | governed resolver tenant_eq resolved =>
      simp only [resolver, tenant_eq, resolved]
      rw [bind_assoc]
      apply note_bind_relying
      rw [recordPolicyAudit, bind_assoc, bind_assoc]
      apply Discipline.memory_bind
      split
      · rw [bind_assoc]
        apply Coro.wp_modify_bind_relying.mpr
        apply note_bind_relying
        exact h _ ⟨hm.registry_eq, hm.selected_eq, hm.stored⟩
      · exact h _ (hm.congr rfl rfl)
  | legacy ungoverned =>
      split
      · rename_i tenant hresolver hsome
        rcases ungoverned with hnone | hnone
        · rw [hresolver] at hnone
          cases hnone
        · rw [hsome] at hnone
          cases hnone
      · exact h _ hm

/-- An iteration that finds candidates carries out what a router decides. -/
theorem routeBody_routed {blocked : List Backend}
    {next : ConversationState → List Backend → Routine μ RoutingResponse}
    (hmessage : call.request.retry = false)
    (hid : state.conversationId = call.request.conversationId)
    (hexcluded : state.excludedProviders = [])
    (hguard : retryGuardFired m.shared.registry state = false)
    (hresolution : Discipline.Resolution engine call.context [] m candidateSet)
    (hsome : candidateSet.ids ≠ [])
    (hcovered : Covered registry candidateSet.ids call.hasImage reliable willing)
    (hblocked : ∀ backend ∈ blocked, backend ∉ willing) (hm : Carries registry call m) :
    (routeBody engine call next state blocked).wp (Contract.relying (Drifts World.Lasts))
      (Provided (EngineEvent.Favourable registry reliable willing) (Routed registry)) m := by
  rw [routeBody]
  apply Discipline.guardFired_bind
  rw [hguard, if_neg Bool.false_ne_true]
  apply note_bind_relying
  have hnoted : Discipline.Resolution engine call.context []
      { m with own := { m.own with stage := .governance } } candidateSet :=
    hresolution.of_quiet ⟨rfl, rfl, rfl, rfl, rfl, rfl⟩
  rw [hexcluded]
  refine resolveCandidates_bind_carries hnoted (hm.congr rfl rfl) fun m₁ hm₁ => ?_
  simp only
  rw [if_neg hsome]
  apply Discipline.memory_bind
  rw [hm₁.registry_eq]
  apply note_bind_relying
  rw [decisionFromLadder]
  refine provided_bind (climb_agrees [.primaryRouter, .fallbackRouter] []
    (List.mem_cons_of_mem _ List.mem_cons_self) (List.forall_mem_nil _) (hm₁.congr rfl rfl)) ?_ ?_
  · rintro trace m₂ ⟨decision, refused⟩ hagreed
    cases hagreed with
    | decided mem decides suits spared carries =>
        have hboth : ∀ backend ∈ blocked ++ refused, backend ∉ willing := by
          intro backend hbackend
          rcases List.mem_append.mp hbackend with h | h
          · exact hblocked backend h
          · exact spared backend h
        refine Coro.wp_mono (followDecision_replies hmessage hid hexcluded suits hcovered hboth
          carries) ?_
        intro later m₃ out hout
        constructor
        intro hall
        obtain ⟨⟨response, hresponse, haction⟩, hattachable⟩ := hout.meets hall
        exact ⟨⟨decision, response, _, List.mem_append_left later mem, decides, hresponse,
          haction⟩, hattachable⟩
  · intro trace m₂ error hagreed
    cases hagreed

omit [Metric μ] in
/-- Adding the diagnostics changes neither the action nor who decided. -/
theorem attachDiagnostics_enacted {response : RoutingResponse} {trace : List (EngineEvent μ)}
    {rely : Memory μ → Memory μ → Prop} (hm : Attachable registry m)
    (henacted : Enacted trace (.ok response)) :
    (attachDiagnostics call response).wp (Contract.relying rely) (fun later _ out =>
      Enacted (trace ++ later) out) m := by
  rw [attachDiagnostics]
  split
  · apply Coro.wp_pure.mpr
    rwa [List.append_nil]
  · apply Discipline.memory_bind
    rw [← hm.registry_eq] at hm
    obtain ⟨diagnostics, hdiagnostics⟩ := exists_buildDiagnostics hm.selected {}
    simp only [hdiagnostics]
    obtain ⟨decision, response', event, hmem, hdecides, hresponse, haction⟩ := henacted.enacted
    cases hresponse
    exact ⟨decision, _, event, List.mem_append_left _ hmem, hdecides, rfl, haction⟩

/-- The routing of a record that is ready. -/
theorem routeAndAttach_enacted (hmessage : call.request.retry = false)
    (hid : state.conversationId = call.request.conversationId)
    (hexcluded : state.excludedProviders = [])
    (hguard : retryGuardFired m.shared.registry state = false)
    (hresolution : Discipline.Resolution engine call.context [] m candidateSet)
    (hsome : candidateSet.ids ≠ [])
    (hcovered : Covered registry candidateSet.ids call.hasImage reliable willing)
    (hm : Carries registry call m) :
    (routeAndAttach engine call state).wp (Contract.relying (Drifts World.Lasts))
      (Provided (EngineEvent.Favourable registry reliable willing) fun trace _ => Enacted trace)
      m := by
  rw [routeAndAttach]
  apply note_bind_relying
  rw [route_eq]
  have hnoted : Discipline.Resolution engine call.context []
      { m with own := { m.own with state := some state } } candidateSet := by
    cases hresolution with
    | governed resolver tenant_eq resolved => exact .governed resolver tenant_eq resolved
    | legacy ungoverned => exact .legacy ungoverned
  refine provided_bind (routeBody_routed hmessage hid hexcluded hguard hnoted hsome hcovered
    (List.forall_mem_nil _) (hm.congr rfl rfl)) ?_ ?_
  · intro trace m₁ response hrouted
    refine Coro.wp_mono (attachDiagnostics_enacted hrouted.attachable hrouted.enacted) ?_
    exact fun later m₂ out henacted => ⟨fun _ => henacted⟩
  · intro trace m₁ error hrouted
    exact hrouted.enacted

/-- Writing a record back and routing it, if its conversation is stored. -/
theorem writeBack_enacted (hmessage : call.request.retry = false)
    (hid : state.conversationId = call.request.conversationId)
    (hexcluded : state.excludedProviders = [])
    (hguard : retryGuardFired m.shared.registry state = false)
    (hresolution : Discipline.Resolution engine call.context [] m candidateSet)
    (hsome : candidateSet.ids ≠ [])
    (hcovered : Covered registry candidateSet.ids call.hasImage reliable willing)
    (hm : Carries registry call m) :
    (do
      writeBack state call.tenantId
      routeAndAttach engine call state).wp (Contract.relying (Drifts World.Lasts))
      (Provided (EngineEvent.Favourable registry reliable willing) fun trace _ => Enacted trace)
      m := by
  rw [writeBack, bind_assoc]
  apply Discipline.memory_bind
  obtain ⟨stored, hstored⟩ := Option.isSome_iff_exists.mp hm.stored
  rw [← hid] at hstored
  simp only [ConversationStateManager.update_of_load hstored]
  apply Coro.wp_modify_bind_relying.mpr
  refine routeAndAttach_enacted hmessage hid hexcluded hguard ?_ hsome hcovered
    ⟨hm.registry_eq, hm.selected_eq, ?_⟩
  · cases hresolution with
    | governed resolver tenant_eq resolved => exact .governed resolver tenant_eq resolved
    | legacy ungoverned => exact .legacy ungoverned
  · exact (World.Lasts.put m.shared state call.tenantId).stored _ _ hm.stored

/-- A new message with a budget and candidates. -/
theorem handleMessage_enacted (hmessage : call.request.retry = false)
    (hbudget : 1 ≤ call.budget engine m)
    (hresolution : Discipline.Resolution engine call.context [] m candidateSet)
    (hsome : candidateSet.ids ≠ [])
    (hcovered : Covered m.shared.registry candidateSet.ids call.hasImage reliable willing)
    (hselected : m.own.selectedProvider = none) :
    (handleMessage engine call).wp (Contract.relying (Drifts World.Lasts))
      (Provided (EngineEvent.Favourable m.shared.registry reliable willing) fun trace _ =>
        Enacted trace) m := by
  have hguard : retryGuardFired m.shared.registry (call.opening engine m) = false := by
    rw [retryGuardFired_opening (hasEnabled_of_resolution hresolution hsome),
      decide_eq_false_iff_not]
    exact Nat.one_le_iff_ne_zero.mp hbudget
  rw [handleMessage, loadOrCreate, bind_assoc]
  apply Discipline.memory_bind
  rw [HandleCall.opening] at hguard
  cases hload : m.shared.conversations.load call.request.conversationId call.tenantId with
  | some stored =>
      rw [show call.record m = some stored from hload] at hguard
      refine writeBack_enacted hmessage ?_ rfl hguard hresolution hsome hcovered
        ⟨rfl, hselected, ?_⟩
      · show stored.conversationId = call.request.conversationId
        exact ConversationStateManager.conversationId_of_load hload
      · exact Option.isSome_iff_exists.mpr ⟨stored, hload⟩
  | none =>
      rw [show call.record m = none from hload] at hguard
      simp only [bind_assoc, pure_bind]
      apply Coro.wp_modify_bind_relying.mpr
      refine writeBack_enacted hmessage rfl rfl hguard ?_ hsome hcovered ⟨rfl, hselected, ?_⟩
      · cases hresolution with
        | governed resolver tenant_eq resolved => exact .governed resolver tenant_eq resolved
        | legacy ungoverned => exact .legacy ungoverned
      · apply Option.isSome_iff_exists.mpr
        exact ⟨Terms.createdState engine call, ConversationStateManager.load_put_self⟩

/-- A call whose message has a budget and candidates carries out what a router decides. -/
theorem handle_enacted (hmessage : call.request.retry = false)
    (hbudget : 1 ≤ call.budget engine m)
    (hresolution : Discipline.Resolution engine call.context []
      ⟨m.shared, newCapture engine call 0⟩ candidateSet)
    (hsome : candidateSet.ids ≠ [])
    (hcovered : Covered m.shared.registry candidateSet.ids call.hasImage reliable willing) :
    (handle engine call).wp (Contract.relying (Drifts World.Lasts))
      (fun (trace : List (EngineEvent μ)) _ out =>
        (∀ event ∈ trace.tail, event.Favourable m.shared.registry reliable willing) →
          Enacted trace out) m := by
  rw [handle, loopTime, Coro.wp_bind, Coro.wp_ask]
  refine ⟨fun _ => trivial, fun now resumed hresumed => ?_⟩
  obtain rfl : resumed = m := by simpa [Coro.Resumes] using hresumed
  have hnow : Discipline.Resolution engine call.context []
      ⟨resumed.shared, newCapture engine call now⟩ candidateSet := by
    cases hresolution with
    | governed resolver tenant_eq resolved => exact .governed resolver tenant_eq resolved
    | legacy ungoverned => exact .legacy ungoverned
  have hbody : (handleBody engine call).attempt.wp (Contract.relying (Drifts World.Lasts))
      (Provided (EngineEvent.Favourable resumed.shared.registry reliable willing)
        fun trace _ (out : Except Raised (Except Raised RoutingResponse)) =>
          ∃ result, out = .ok result ∧ Enacted trace result)
      ⟨resumed.shared, newCapture engine call now⟩ := by
    rw [Coro.wp_attempt, handleBody, hmessage, if_neg Bool.false_ne_true]
    refine Coro.wp_mono (handleMessage_enacted hmessage hbudget hnow hsome hcovered rfl) ?_
    intro trace m' out hout
    exact ⟨fun hall => ⟨out, rfl, hout.meets hall⟩⟩
  apply note_bind_relying
  refine Coro.wp_mono (provided_bind hbody ?_ ?_) fun trace m' out (hout : Provided
    (EngineEvent.Favourable resumed.shared.registry reliable willing)
      (fun trace _ => Enacted trace) trace m' out) hall => (hout.meets hall).prepend [_]
  · rintro trace m' result ⟨_, ⟨⟩, henacted⟩
    obtain ⟨decision, response, event, hmem, hdecides, rfl, haction⟩ := henacted.enacted
    exact .of ⟨decision, response, event, List.mem_append_left _ hmem, hdecides, rfl, haction⟩
  · rintro trace m' error ⟨_, ⟨⟩, -⟩

end Call

/-- In every interleaving, a new message is replied to as a router decides, if its conversation has
a budget, each exposed group has a candidate that can be counted on, and the replies are no worse
than that. -/
theorem message_enacted [Metric μ] {engine : RoutingEngine} {world : World μ}
    {moves : List (EngineMove μ)}
    {annals : Annals engineInterface (World μ) (Capture μ) Raised RoutingResponse HandleCall}
    {index : ℕ} {seat : EngineSeat μ} {past : Past engineInterface (Memory μ)}
    {out : Except Raised RoutingResponse} {candidateSet : CandidateSet μ}
    {reliable : Set String} {willing : Set Backend}
    (hrun : Steps (Annals.Gentle (engineCrew μ engine) World.Lasts) ⟨⟨world, []⟩, []⟩ moves annals)
    (hseat : annals.pool.seats[index]? = some seat) (hpast : annals.pasts[index]? = some past)
    (hended : seat.standing = .ended out) (hmessage : seat.label.request.retry = false)
    (hbudget : 1 ≤ seat.label.budget engine past.started)
    (hresolution : Discipline.Resolution engine seat.label.context []
      ⟨past.started.shared, Routine.newCapture engine seat.label 0⟩ candidateSet)
    (hsome : candidateSet.ids ≠ [])
    (hcovered : Covered past.started.shared.registry candidateSet.ids seat.label.hasImage reliable
      willing)
    (hfavourable : ∀ event ∈ past.trace.tail,
      EngineEvent.Favourable past.started.shared.registry reliable willing event) :
    Enacted past.trace out := by
  have htells := (faithful_of_calls hrun).tells index seat past hseat hpast
  have hhandle := handle_enacted hmessage hbudget hresolution hsome hcovered
  exact Coro.wp_sound hhandle (htells.run hended) hfavourable

/-- The primary router's backend refuses. -/
def refusedPrimary : Coro.Oracle engineInterface :=
  scripted (fun _ => .error (.raised
    { kind := .routerUnavailable, backend := some .google, blocksBackend := true }))
    fun _ => .ok "text"

/-- The fallback router decides, and a provider fails. -/
def faltering : Coro.Oracle engineInterface :=
  scripted (fun _ => .ok (.decision generalDecision))
    fun _ => .error (.raised { kind := .providerUnavailable })

/-- A question's primary router is refused, and with it the first provider's backend; the second
provider fails; and another question of the conversation comes in between. -/
def outage : List (EngineMove ℤ) :=
  [.start askCall refusedPrimary, .resume 0 refusedPrimary, .start askCall refusedPrimary,
    .resume 0 faltering, .resume 0 faltering, .resume 0 refusedPrimary]

def afterOutage : Option (Annals engineInterface (World ℤ) (Capture ℤ) Raised RoutingResponse
    HandleCall) :=
  replay (Annals.step (engineCrew ℤ { maxAttempts := 3 })) ⟨⟨(deployment [generalProvider "first" 1
    .google, generalProvider "second" 2 .nvidia, generalProvider "third" 3 .groq] none).shared, []⟩,
      []⟩ outage

/-- The first question is replied to as the fallback router decides. -/
theorem message_enacted_outage : ∃ annals ∈ afterOutage, ∃ past ∈ annals.pasts[0]?, ∃ out,
    Enacted past.trace out := by
  have hruns : afterOutage.isSome := by decide +kernel
  have hended : ∀ annals ∈ afterOutage, ∃ seat ∈ annals.pool.seats[0]?,
      ∃ past ∈ annals.pasts[0]?, seat.label = askCall ∧ awaited? seat = none ∧
        1 ≤ askCall.budget { maxAttempts := 3 } past.started ∧
        (Routine.legacyCandidateSet past.started.shared.registry []).ids ≠ [] ∧
        Covered past.started.shared.registry
          (Routine.legacyCandidateSet past.started.shared.registry []).ids false
          {id | id = "third"} {backend | backend = .groq} ∧
        ∀ event ∈ past.trace.tail, EngineEvent.Favourable past.started.shared.registry
          {id | id = "third"} {backend | backend = .groq} event := by decide +kernel
  obtain ⟨annals, hannals⟩ := Option.isSome_iff_exists.mp hruns
  obtain ⟨seat, hseat, past, hpast, hlabel, hstanding, hbudget, hsome, hcovered, hfavourable⟩ :=
    hended annals hannals
  have hquiet : ∀ move ∈ outage, ∀ update, move ≠ .disturb update := by
    simp [outage]
  cases hout : seat.standing with
  | parked query next =>
      rw [awaited?, hout] at hstanding
      cases hstanding
  | ended out =>
      refine ⟨annals, hannals, past, hpast, out, message_enacted
        (Annals.gentle_of_replay hquiet hannals) hseat hpast hout ?_ ?_ (.legacy (.inr ?_)) hsome
          ?_ hfavourable⟩
      all_goals rw [hlabel]
      · rfl
      · exact hbudget
      · rfl
      · exact hcovered

end LLMRouting
