/-
# What each part of the engine can do

One rule for each part of a `handle` call, under any discipline: the retry bookkeeping, the
resolution of candidates, the router ladder and the provider chain. Each says which
questions the part asks, which record the request holds when it is done, and what that has
to do with the outcome.
-/

import LLMRouting.Routing.Rules

namespace LLMRouting

open LLMRouting.Interaction

variable {μ β : Type}

namespace Discipline

open Routine

variable {c : Contract (Memory μ)} {tenantId : String} (d : Discipline c tenantId)
  {state : ConversationState} {m : Memory μ}

/-- What `_prepare_retry` can do: find the budget or the providers exhausted and change
nothing, or count the retry and then look again. -/
inductive RetryOutcome (state : ConversationState) (m : Memory μ) :
    List (EngineEvent μ) → Memory μ → Except Raised (Bool × ConversationState) → Prop
  | exhausted (guard : retryGuardFired m.shared.registry state = true) :
      RetryOutcome state m [] m (.ok (true, state))
  | counted {m' : Memory μ} (guard : retryGuardFired m.shared.registry state = false)
      (registry : m'.shared.registry = m.shared.registry) (held : d.held state.retried m') :
      RetryOutcome state m [] m'
        (.ok (retryGuardFired m'.shared.registry state.retried, state.retried))
  | lost {m' : Memory μ} {raised : Raised} (lost : d.lost m') :
      RetryOutcome state m [] m' (.error raised)

theorem excludeLast_bind {next : ConversationState → Routine μ β}
    {post : List (EngineEvent μ) → Memory μ → Except Raised β → Prop} (hm : d.loaded state m)
    (hlost : ∀ m' raised, d.lost m' → post [] m' (.error raised))
    (h : ∀ m', m'.shared.registry = m.shared.registry → d.loaded state.excludeLast m' →
      (next state.excludeLast).wp c post m') :
    (excludeLast state tenantId >>= next).wp c post m := by
  rw [Routine.excludeLast]
  cases hlast : state.lastProvider with
  | none =>
      have hsame : state.excludeLast = state := by rw [ConversationState.excludeLast, hlast]
      rw [hsame] at h
      exact h m rfl hm
  | some providerId =>
      have hexcluded : state.excludeLast = state.excludeProvider providerId := by
        rw [ConversationState.excludeLast, hlast]
      rw [hexcluded] at h
      simp only [bind_assoc, pure_bind]
      refine d.storeState_bind hm (ConversationState.extends_excludeProvider state providerId)
        hlost fun m' hregistry _ hheld => ?_
      exact h m' hregistry (d.loaded_of_held hheld)

theorem prepareRetry (hm : d.loaded state m) :
    (Routine.prepareRetry state tenantId).wp c (d.RetryOutcome state m) m := by
  rw [Routine.prepareRetry]
  refine guardFired_bind ?_
  cases hguard : retryGuardFired m.shared.registry state with
  | true => exact .exhausted hguard
  | false =>
      refine d.excludeLast_bind hm (fun _ _ => .lost) fun m₁ hregistry hloaded => ?_
      refine d.storeState_bind hloaded (ConversationState.extends_incrementAttempt _)
        (fun _ _ => .lost) fun m₂ hregistry' _ hheld => ?_
      refine guardFired_bind ?_
      exact .counted hguard (hregistry'.trans hregistry) hheld

/-- Where a candidate set comes from. -/
inductive Resolution [Metric μ] (engine : RoutingEngine) (context : RoutingContext)
    (excluded : List String) (m : Memory μ) : CandidateSet μ → Prop
  | governed {tenant : TenantContext} {candidateSet : CandidateSet μ}
      (resolver : engine.candidateResolver = true) (tenant_eq : m.own.tenant = some tenant)
      (resolved : resolveCandidateSet m.shared.registry m.shared.governance m.shared.policies
        tenant context excluded = .ok candidateSet) :
      Resolution engine context excluded m candidateSet
  | legacy (ungoverned : engine.candidateResolver = false ∨ m.own.tenant = none) :
      Resolution engine context excluded m (legacyCandidateSet m.shared.registry excluded)

/-- Notes do not change where a candidate set comes from. -/
theorem Resolution.of_quiet [Metric μ] {engine : RoutingEngine} {context : RoutingContext}
    {excluded : List String} {m m' : Memory μ} {candidateSet : CandidateSet μ}
    (h : Resolution engine context excluded m candidateSet) (hquiet : Quiet m m') :
    Resolution engine context excluded m' candidateSet := by
  cases h with
  | governed resolver tenant_eq resolved =>
      rw [← hquiet.tenant] at tenant_eq
      rw [← hquiet.registry, ← hquiet.governance, ← hquiet.policies] at resolved
      exact .governed resolver tenant_eq resolved
  | legacy ungoverned =>
      rw [← hquiet.tenant] at ungoverned
      rw [← hquiet.registry]
      exact .legacy ungoverned

theorem recordPolicyAudit_bind {engine : RoutingEngine} {tenant : TenantContext}
    {candidateSet : CandidateSet μ} {next : Unit → Routine μ β}
    {post : List (EngineEvent μ) → Memory μ → Except Raised β → Prop} (hm : d.held state m)
    (h : ∀ m', Quiet m m' → d.held state m' → (next ()).wp c post m') :
    (recordPolicyAudit engine tenant candidateSet >>= next).wp c post m := by
  rw [recordPolicyAudit]
  simp only [bind_assoc]
  refine memory_bind ?_
  split
  · simp only [bind_assoc]
    have hquiet : ∀ audit, Quiet m { m with shared := { m.shared with audit := audit } } :=
      fun _ => ⟨rfl, rfl, rfl, rfl, rfl, rfl⟩
    refine d.modify_bind hm (hquiet _) fun hheld => ?_
    refine d.note_bind hheld (fun _ => ⟨rfl, rfl⟩) fun m' hm' hheld' => ?_
    exact h m' ((hquiet _).trans hm') hheld'
  · exact h m (Quiet.refl m) hm

theorem resolveCandidates_bind [Metric μ] {engine : RoutingEngine} {context : RoutingContext}
    {excluded : List String} {next : CandidateSet μ → Routine μ β}
    {post : List (EngineEvent μ) → Memory μ → Except Raised β → Prop} (hm : d.held state m)
    (hraised : ∀ raised, post [] m (.error raised))
    (h : ∀ candidateSet m', Resolution engine context excluded m candidateSet → Quiet m m' →
      d.held state m' → (next candidateSet).wp c post m') :
    (resolveCandidates engine context excluded >>= next).wp c post m := by
  rw [resolveCandidates]
  simp only [bind_assoc]
  refine memory_bind ?_
  split
  · rename_i tenant hresolver htenant
    cases hresolved : resolveCandidateSet m.shared.registry m.shared.governance m.shared.policies
        tenant context excluded with
    | error error =>
        cases error with
        | policyNotFound policyId => exact hraised _
        | unexpected error => exact hraised _
    | ok candidateSet =>
        simp only [bind_assoc]
        refine d.note_bind hm (fun _ => ⟨rfl, rfl⟩) fun m₁ hm₁ hheld₁ => ?_
        refine d.recordPolicyAudit_bind hheld₁ fun m₂ hm₂ hheld₂ => ?_
        exact h candidateSet m₂ (.governed hresolver htenant hresolved) (hm₁.trans hm₂) hheld₂
  · rename_i hnone
    refine h _ m (.legacy ?_) (Quiet.refl m) hm
    cases hresolver : engine.candidateResolver with
    | false => exact Or.inl rfl
    | true =>
        cases htenant : m.own.tenant with
        | none => exact Or.inr rfl
        | some tenant => exact absurd htenant (hnone tenant hresolver)

/-- What asking one tier can do: get its decision, be cancelled in it, or go on to the other
tiers, whose outcome is `rest`. -/
inductive TierOutcome (state : ConversationState) (m : Memory μ) (request : RouterRequest)
    (tier : RouterTier) (blocked : List Backend)
    (rest : List Backend → List (EngineEvent μ) → Memory μ →
      Except Raised (RouterDecision × List Backend) → Prop) :
    List (EngineEvent μ) → Memory μ → Except Raised (RouterDecision × List Backend) → Prop
  | decided {asked m' : Memory μ} {reply : Except Interruption RawDecision}
      {decision : RouterDecision} (quiet : Quiet m asked) (held : d.held state asked)
      (valid : judged request reply = .ok decision) (held' : d.held state m') :
      TierOutcome state m request tier blocked rest [⟨.decide tier request, asked, reply⟩] m'
        (.ok (decision, blocked))
  | cancelled {asked resumed m' : Memory μ} {reply : Except Interruption RawDecision} {now : ℚ}
      {raised : Raised} (quiet : Quiet m asked) (held : d.held state asked)
      (heldResumed : d.held state resumed) (held' : d.held state m') :
      TierOutcome state m request tier blocked rest
        [⟨.decide tier request, asked, reply⟩, ⟨.loopTime, resumed, now⟩] m' (.error raised)
  | next {asked m' : Memory μ} {reply : Except Interruption RawDecision} {error : PyException}
      {trace : List (EngineEvent μ)} {out : Except Raised (RouterDecision × List Backend)}
      (quiet : Quiet m asked) (held : d.held state asked)
      (failed : judged request reply = .error (.raised error))
      (later : rest (blocked ++ refusedBackend error) trace m' out) :
      TierOutcome state m request tier blocked rest
        (⟨.decide tier request, asked, reply⟩ :: trace) m' out

theorem climb_cons {request : RouterRequest} {tier : RouterTier} {tiers : List RouterTier}
    {blocked : List Backend}
    {rest : List Backend → List (EngineEvent μ) → Memory μ →
      Except Raised (RouterDecision × List Backend) → Prop}
    (hm : d.held state m)
    (hrest : ∀ m' blocked', d.held state m' →
      (climb request tiers blocked').wp c (rest blocked') m') :
    (climb request (tier :: tiers) blocked).wp c
      (d.TierOutcome state m request tier blocked rest) m := by
  rw [climb]
  refine d.note_bind hm (fun _ => ⟨rfl, rfl⟩) fun asked hquiet hasked => ?_
  refine d.askRouter_bind hasked fun reply resumed hresumed => ?_
  cases hjudged : judged request reply with
  | error interruption =>
      cases interruption with
      | cancelled byDeadline =>
          refine deadlinePassed_bind fun now => ?_
          refine d.note_bind hresumed (fun _ => ⟨rfl, rfl⟩) fun m' _ hm' => ?_
          exact .cancelled hquiet hasked hresumed hm'
      | raised error =>
          refine d.note_bind hresumed (fun _ => ⟨rfl, rfl⟩) fun m' _ hm' => ?_
          exact Coro.wp_mono (hrest m' _ hm') fun _ _ _ => .next hquiet hasked hjudged
  | ok decision =>
      refine d.note_bind hresumed (fun _ => ⟨rfl, rfl⟩) fun m' _ hm' => ?_
      exact .decided hquiet hasked hjudged hm'

/-- What a ladder over `tiers` asks and returns. It leaves the record alone, asks every tier
at most once and about the same request, and a decision is the valid reply of the tier asked
last; with it comes every backend that has refused. -/
structure LadderOutcome (state : ConversationState) (request : RouterRequest)
    (tiers : List RouterTier) (blocked : List Backend) (trace : List (EngineEvent μ))
    (m' : Memory μ) (out : Except Raised (RouterDecision × List Backend)) : Prop where
  held : d.held state m'
  heldAsking : ∀ event ∈ trace, d.held state event.memory
  undispatched : ∀ event ∈ trace, event.dispatched? = none
  routed : ∀ event ∈ trace, ∀ asked ∈ event.routed?, asked = request
  asked_sublist : (trace.filterMap EngineEvent.tier?).Sublist tiers
  attempts : RouterTier.primaryRouter ∉ tiers → ladderAttempts trace = []
  decided : ∀ decision blocked', out = .ok (decision, blocked') →
    (∃ before last, trace = before ++ [last] ∧ last.Decides decision) ∧
      ∀ backendOf, blocked' = blocked ++ trace.flatMap (EngineEvent.refusals backendOf)

/-- The events of a ladder, one tier at a time. -/
theorem LadderOutcome.of_tier {request : RouterRequest} {tier : RouterTier}
    {tiers : List RouterTier} {blocked : List Backend} {trace : List (EngineEvent μ)}
    {m' : Memory μ} {out : Except Raised (RouterDecision × List Backend)}
    (h : d.TierOutcome state m request tier blocked (d.LadderOutcome state request tiers)
      trace m' out) :
    d.LadderOutcome state request (tier :: tiers) blocked trace m' out := by
  have hattempts : ∀ {asked : Memory μ} {reply : Except Interruption RawDecision}
      {rest : List (EngineEvent μ)}, RouterTier.primaryRouter ∉ tier :: tiers →
      ladderAttempts rest = [] →
        ladderAttempts ((⟨.decide tier request, asked, reply⟩ : EngineEvent μ) :: rest) = [] := by
    intro asked reply rest hprimary hrest
    cases tier with
    | primaryRouter => exact absurd List.mem_cons_self hprimary
    | fallbackRouter => exact hrest
  cases h with
  | @decided _ _ reply _ quiet held valid held' =>
      refine ⟨held', by simpa using held, by simp [EngineEvent.dispatched?],
        by simp [EngineEvent.routed?], (List.nil_sublist tiers).cons_cons tier,
        fun hprimary => hattempts hprimary rfl, ?_⟩
      intro decision blocked' hout
      cases hout
      refine ⟨⟨[], _, rfl, valid⟩, ?_⟩
      obtain ⟨raw, rfl, -⟩ := judged_eq_ok_iff.mp valid
      exact fun backendOf => (List.append_nil blocked).symm
  | cancelled quiet held heldResumed held' =>
      refine ⟨held', by simpa using ⟨held, heldResumed⟩, by simp [EngineEvent.dispatched?],
        by simp [EngineEvent.routed?], (List.nil_sublist tiers).cons_cons tier,
        fun hprimary => hattempts hprimary rfl, ?_⟩
      intro decision blocked' hout
      cases hout
  | next quiet held failed later =>
      refine ⟨later.held, List.forall_mem_cons.mpr ⟨held, later.heldAsking⟩,
        List.forall_mem_cons.mpr ⟨rfl, later.undispatched⟩,
        List.forall_mem_cons.mpr ⟨by simp [EngineEvent.routed?], later.routed⟩,
        later.asked_sublist.cons_cons tier,
        fun hprimary => hattempts hprimary (later.attempts (List.not_mem_of_not_mem_cons hprimary)),
        ?_⟩
      intro decision blocked' hout
      obtain ⟨⟨before, last, htrace, hlast⟩, hblocked⟩ := later.decided decision blocked' hout
      refine ⟨⟨_ :: before, last, congrArg _ htrace, hlast⟩, fun backendOf => ?_⟩
      rw [List.flatMap_cons, EngineEvent.refusals_of_judged failed, ← List.append_assoc]
      exact hblocked backendOf

theorem climb {request : RouterRequest} (tiers : List RouterTier) (blocked : List Backend)
    (hm : d.held state m) :
    (Routine.climb request tiers blocked).wp c (d.LadderOutcome state request tiers blocked) m := by
  induction tiers generalizing m blocked with
  | nil =>
      rw [Routine.climb]
      refine fail fun raised =>
        ⟨hm, by simp, by simp, by simp, List.Sublist.slnil, fun _ => rfl, ?_⟩
      intro decision blocked' hout
      cases hout
  | cons tier tiers ih =>
      refine Coro.wp_mono (d.climb_cons hm fun m' blocked' hm' => ih blocked' hm') ?_
      exact fun _ _ _ => LadderOutcome.of_tier d

/-- The whole ladder also begins with the primary tier, before anybody else has run. -/
theorem decisionFromLadder {request : RouterRequest} (hm : d.held state m) :
    (Routine.decisionFromLadder request).wp c (fun trace m' out =>
      d.LadderOutcome state request [.primaryRouter, .fallbackRouter] [] trace m' out ∧
        ladderAttempts trace = [request.attempt] ∧
        ∃ (first : EngineEvent μ) (rest : List (EngineEvent μ)), trace = first :: rest ∧
          Quiet m first.memory ∧ first.routed? = some request) m := by
  rw [Routine.decisionFromLadder]
  refine Coro.wp_mono
    (d.climb_cons hm fun m' blocked' hm' => d.climb [.fallbackRouter] blocked' hm') ?_
  intro trace m' out h
  refine ⟨.of_tier d h, ?_, ?_⟩
  · cases h with
    | decided => rfl
    | cancelled => rfl
    | next quiet held _ later =>
        have hrest := later.attempts (by simp)
        rw [ladderAttempts, List.map_eq_nil_iff] at hrest
        simp [ladderAttempts, EngineEvent.ladder?, hrest]
  · cases h with
    | decided quiet => exact ⟨_, _, rfl, quiet, rfl⟩
    | cancelled quiet => exact ⟨_, _, rfl, quiet, rfl⟩
    | next quiet => exact ⟨_, _, rfl, quiet, rfl⟩

/-- What a chain over `candidates` asks while the request holds `state`, if the backends
`blocked` have refused it before. -/
structure ChainTrace (state : ConversationState) (candidates : List (ProviderConfig μ))
    (blocked : List Backend) (trace : List (EngineEvent μ)) : Prop where
  dispatched_sublist : (dispatched trace).Sublist (candidates.map ProviderConfig.id)
  noneAfterAnswer : NoneAfterAnswer trace
  unrouted : ∀ event ∈ trace, event.routed? = none
  heldAsking : ∀ event ∈ trace, d.held state event.memory
  avoids : ∀ backendOf, (∀ candidate ∈ candidates, backendOf candidate.id = candidate.backend) →
    Avoids backendOf blocked trace

/-- What a chain over `candidates` can do: commit the answer of one of them, fail with the
record as it was, or fail to write the record back. -/
inductive ChainOutcome (state : ConversationState) (candidates : List (ProviderConfig μ))
    (blocked : List Backend) :
    List (EngineEvent μ) → Memory μ → Except Raised RoutingResponse → Prop
  | answered {trace : List (EngineEvent μ)} {m' : Memory μ} {providerId response : String}
      (chain : d.ChainTrace state candidates blocked trace)
      (produced : Produced trace providerId response)
      (candidate : providerId ∈ candidates.map ProviderConfig.id)
      (selected : m'.own.selectedProvider = some providerId)
      (held : d.held (state.answered providerId response) m') :
      ChainOutcome state candidates blocked trace m'
        (.ok { conversationId := state.conversationId, action := .answer, response := response })
  | failed {trace : List (EngineEvent μ)} {m' : Memory μ} {raised : Raised}
      (chain : d.ChainTrace state candidates blocked trace) (held : d.held state m') :
      ChainOutcome state candidates blocked trace m' (.error raised)
  | lost {trace : List (EngineEvent μ)} {m' : Memory μ} {raised : Raised}
      (chain : d.ChainTrace state candidates blocked trace) (lost : d.lost m') :
      ChainOutcome state candidates blocked trace m' (.error raised)

/-- Every outcome has asked the questions of a chain. -/
theorem ChainOutcome.trace {candidates : List (ProviderConfig μ)} {blocked : List Backend}
    {trace : List (EngineEvent μ)} {m' : Memory μ} {out : Except Raised RoutingResponse}
    (h : d.ChainOutcome state candidates blocked trace m' out) :
    d.ChainTrace state candidates blocked trace := by
  cases h with
  | answered chain => exact chain
  | failed chain => exact chain
  | lost chain => exact chain

section Chain

variable {candidates : List (ProviderConfig μ)} {blocked : List Backend}
  {trace : List (EngineEvent μ)}

theorem ChainTrace.nil : d.ChainTrace state candidates blocked [] :=
  ⟨List.nil_sublist _, List.Pairwise.nil, by simp, by simp, fun _ _ => trivial⟩

/-- A question to the clock or the gateway comes first. -/
theorem ChainTrace.cons_local {event : EngineEvent μ} (hlocal : event.IsLocal)
    (hheld : d.held state event.memory) (h : d.ChainTrace state candidates blocked trace) :
    d.ChainTrace state candidates blocked (event :: trace) where
  dispatched_sublist := by
    rw [dispatched, List.filterMap_cons_none hlocal.1]
    exact h.dispatched_sublist
  noneAfterAnswer := by
    have hnone : dispatched [event] = [] :=
      dispatched_eq_nil_iff.mpr (List.forall_mem_singleton.mpr hlocal.1)
    exact h.noneAfterAnswer.prepend hnone
  unrouted := List.forall_mem_cons.mpr ⟨hlocal.2, h.unrouted⟩
  heldAsking := List.forall_mem_cons.mpr ⟨hheld, h.heldAsking⟩
  avoids backendOf hbackendOf := by
    refine ⟨by simp [hlocal.1], ?_⟩
    rw [EngineEvent.refusals_of_isLocal hlocal, List.append_nil]
    exact h.avoids backendOf hbackendOf

/-- A dispatch of a candidate whose backend is not blocked comes first; what it is refused is
blocked from then on, and if it was answered no other follows. -/
theorem ChainTrace.cons_dispatch {candidate : ProviderConfig μ} {request : ProviderRequest}
    {asked : Memory μ} {reply : Except Interruption String} {blocked' : List Backend}
    (hheld : d.held state asked) (hopen : candidate.backend ∉ blocked)
    (honly : ∀ text, reply = .ok text → dispatched trace = [])
    (hblocked : ∀ backendOf, backendOf candidate.id = candidate.backend →
      blocked ++ EngineEvent.refusals backendOf ⟨.dispatch candidate.id request, asked, reply⟩ ⊆
        blocked')
    (h : d.ChainTrace state candidates blocked' trace) :
    d.ChainTrace state (candidate :: candidates) blocked
      (⟨.dispatch candidate.id request, asked, reply⟩ :: trace) where
  dispatched_sublist := h.dispatched_sublist.cons_cons candidate.id
  noneAfterAnswer := by
    refine List.pairwise_cons.mpr ⟨fun later hlater hanswer => ?_, h.noneAfterAnswer⟩
    cases reply with
    | error interruption => exact absurd hanswer id
    | ok text => exact dispatched_eq_nil_iff.mp (honly text rfl) later hlater
  unrouted := List.forall_mem_cons.mpr ⟨rfl, h.unrouted⟩
  heldAsking := List.forall_mem_cons.mpr ⟨hheld, h.heldAsking⟩
  avoids backendOf hbackendOf := by
    obtain ⟨hcandidate, hrest⟩ := List.forall_mem_cons.mp hbackendOf
    constructor
    · rintro _ ⟨⟩
      rwa [hcandidate]
    · exact (h.avoids backendOf hrest).mono (hblocked backendOf hcandidate)

/-- A dispatch after which nobody else is dispatched, whatever it is refused. -/
theorem ChainTrace.cons_last {candidate : ProviderConfig μ} {request : ProviderRequest}
    {asked : Memory μ} {reply : Except Interruption String} (hheld : d.held state asked)
    (hopen : candidate.backend ∉ blocked) (hnone : dispatched trace = [])
    (h : ∀ blocked', d.ChainTrace state candidates blocked' trace) :
    d.ChainTrace state (candidate :: candidates) blocked
      (⟨.dispatch candidate.id request, asked, reply⟩ :: trace) := by
  apply ChainTrace.cons_dispatch d hheld hopen (fun _ _ => hnone) _
    (h (blocked ++ [candidate.backend]))
  intro backendOf hbackendOf
  rw [← hbackendOf]
  apply List.append_subset.mpr
  exact ⟨List.subset_append_left _ _,
    List.Subset.trans (EngineEvent.refusals_dispatch_subset backendOf)
      (List.subset_append_right _ _)⟩

/-- A candidate that is passed over. -/
theorem ChainTrace.skip {candidate : ProviderConfig μ}
    (h : d.ChainTrace state candidates blocked trace) :
    d.ChainTrace state (candidate :: candidates) blocked trace :=
  ⟨h.dispatched_sublist.cons candidate.id, h.noneAfterAnswer, h.unrouted, h.heldAsking,
    fun backendOf hbackendOf => h.avoids backendOf (List.forall_mem_cons.mp hbackendOf).2⟩

/-- An outcome, seen with the questions that came before. -/
theorem ChainOutcome.prepend {candidates' : List (ProviderConfig μ)} {blocked' : List Backend}
    {before : List (EngineEvent μ)} {m' : Memory μ} {out : Except Raised RoutingResponse}
    (hids : candidates ⊆ candidates')
    (hchain : ∀ {trace}, d.ChainTrace state candidates blocked trace →
      d.ChainTrace state candidates' blocked' (before ++ trace))
    (h : d.ChainOutcome state candidates blocked trace m' out) :
    d.ChainOutcome state candidates' blocked' (before ++ trace) m' out := by
  cases h with
  | answered chain produced candidate selected held =>
      exact .answered (hchain chain)
        (produced.mono fun event hevent => List.mem_append_right before hevent)
        (List.map_subset _ hids candidate) selected held
  | failed chain held => exact .failed (hchain chain) held
  | lost chain lost => exact .lost (hchain chain) lost

end Chain

/-- From an answered dispatch on: only the gateway and the clock are asked, and either the
processed text is committed or the record stays. -/
theorem commitAnswer (candidate : ProviderConfig μ) (request : ProviderRequest) (text : String)
    (rest : List (ProviderConfig μ)) {blocked : List Backend} {asked : Memory μ}
    (hasked : d.held state asked) (hopen : candidate.backend ∉ blocked) (hm : d.held state m) :
    (Routine.commitAnswer state tenantId candidate text).wp c (fun trace =>
      d.ChainOutcome state (candidate :: rest) blocked
        (⟨.dispatch candidate.id request, asked, .ok text⟩ :: trace)) m := by
  rw [Routine.commitAnswer]
  refine d.note_bind_own hm (fun _ => ⟨rfl, rfl⟩) fun m₁ hown _ hm₁ => ?_
  have hselected : m₁.own.selectedProvider = some candidate.id := by rw [hown]
  refine askGateway_bind fun reply => ?_
  have hprocess : d.ChainTrace state (candidate :: rest) blocked
      [⟨.dispatch candidate.id request, asked, .ok text⟩, ⟨.process text, m₁, reply⟩] :=
    .cons_last d hasked hopen rfl fun _ => .cons_local d ⟨rfl, rfl⟩ hm₁ (.nil d)
  cases reply with
  | error error => exact fail fun raised => .failed hprocess hm₁
  | ok clean =>
      refine deadlinePassed_bind fun now => ?_
      have hchain : d.ChainTrace state (candidate :: rest) blocked
          [⟨.dispatch candidate.id request, asked, .ok text⟩, ⟨.process text, m₁, .ok clean⟩,
            ⟨.loopTime, m₁, now⟩] :=
        .cons_last d hasked hopen rfl fun _ =>
          .cons_local d ⟨rfl, rfl⟩ hm₁ (.cons_local d ⟨rfl, rfl⟩ hm₁ (.nil d))
      split
      · exact .failed hchain hm₁
      · refine d.storeState_bind (d.loaded_of_held hm₁)
          (state.extends_answered candidate.id clean) (fun m₂ _ => .lost hchain)
          fun m₂ _ hselected₂ hm₂ => ?_
        exact .answered hchain ⟨request, text, asked, m₁, by simp, by simp⟩ List.mem_cons_self
          (hselected₂.trans hselected) hm₂

theorem noteDispatchCancelled_bind {candidate : ProviderConfig μ}
    {pending : List (ProviderConfig μ)} {next : Unit → Routine μ β}
    {post : List (EngineEvent μ) → Memory μ → Except Raised β → Prop} (hm : d.held state m)
    (h : ∀ (now now' : ℚ) (m₁ m' : Memory μ), d.held state m₁ → d.held state m' →
      (next ()).wp c (fun rest =>
        post (⟨.loopTime, m, now⟩ :: ⟨.loopTime, m₁, now'⟩ :: rest)) m') :
    (noteDispatchCancelled candidate pending >>= next).wp c post m := by
  rw [noteDispatchCancelled]
  simp only [bind_assoc]
  refine deadlinePassed_bind fun now => ?_
  refine d.note_bind hm (fun _ => ⟨rfl, rfl⟩) fun m₁ _ hm₁ => ?_
  refine deadlinePassed_bind fun now' => ?_
  split
  · exact d.note_bind hm₁ (fun _ => ⟨rfl, rfl⟩) fun m' _ hm' => h now now' m₁ m' hm₁ hm'
  · exact h now now' m₁ m₁ hm₁ hm₁

theorem tryCandidates {request : ProviderRequest} (candidates : List (ProviderConfig μ))
    (blocked : List Backend) (lastError : Option PyException) (hm : d.held state m) :
    (Routine.tryCandidates request state tenantId candidates blocked lastError).wp c
      (d.ChainOutcome state candidates blocked) m := by
  induction candidates generalizing m blocked lastError with
  | nil =>
      rw [Routine.tryCandidates]
      exact fail fun raised => .failed (.nil d) hm
  | cons candidate rest ih =>
      rw [Routine.tryCandidates]
      refine deadlinePassed_bind fun now => ?_
      have hclock : ∀ {candidates : List (ProviderConfig μ)} {blocked : List Backend}
          {trace : List (EngineEvent μ)}, d.ChainTrace state candidates blocked trace →
            d.ChainTrace state candidates blocked ([⟨.loopTime, m, now⟩] ++ trace) :=
        fun h => .cons_local d ⟨rfl, rfl⟩ hm h
      split
      · exact .failed (hclock (.nil d)) hm
      · split
        · refine d.note_bind hm (fun _ => ⟨rfl, rfl⟩) fun m₁ _ hm₁ => ?_
          refine Coro.wp_mono (ih blocked lastError hm₁) fun trace m' out h => ?_
          exact h.prepend d (List.subset_cons_self _ _) fun hchain => hclock (hchain.skip d)
        · rename_i hopen
          refine d.note_bind hm (fun _ => ⟨rfl, rfl⟩) fun asked _ hasked => ?_
          refine d.askProvider_bind hasked fun reply m₁ hm₁ => ?_
          cases reply with
          | error interruption =>
              cases interruption with
              | cancelled byDeadline =>
                  refine d.noteDispatchCancelled_bind hm₁ fun now₁ now₂ m₂ m₃ hm₂ hm₃ => ?_
                  refine .failed (hclock (.cons_last d hasked hopen rfl fun _ => ?_)) hm₃
                  exact .cons_local d ⟨rfl, rfl⟩ hm₁ (.cons_local d ⟨rfl, rfl⟩ hm₂ (.nil d))
              | raised error =>
                  simp only
                  split
                  · refine d.note_bind hm₁ (fun _ => ⟨rfl, rfl⟩) fun m₂ _ hm₂ => ?_
                    refine Coro.wp_mono (ih _ _ hm₂) fun trace m' out h => ?_
                    have hdispatch : ∀ {trace : List (EngineEvent μ)},
                        d.ChainTrace state rest
                          (if error.blocksBackend then candidate.backend :: blocked else blocked)
                          trace →
                        d.ChainTrace state (candidate :: rest) blocked
                          ([⟨.loopTime, m, now⟩, ⟨.dispatch candidate.id request, asked,
                            .error (.raised error)⟩] ++ trace) := by
                      intro trace htrace
                      apply hclock
                      refine .cons_dispatch d hasked hopen ?_ ?_ htrace
                      · intro text htext
                        cases htext
                      · intro backendOf hbackendOf
                        simp only [EngineEvent.refusals, hbackendOf]
                        split_ifs <;> simp
                    exact h.prepend d (List.subset_cons_self _ _) hdispatch
                  · refine d.note_bind hm₁ (fun _ => ⟨rfl, rfl⟩) fun m₂ _ hm₂ => ?_
                    exact .failed (hclock (.cons_last d hasked hopen rfl fun _ => .nil d)) hm₂
          | ok text =>
              have hcommit := d.commitAnswer candidate request text rest hasked hopen hm₁
              exact Coro.wp_mono hcommit fun trace m' out h =>
                h.prepend d (List.Subset.refl _) hclock

theorem executeWithFallback {candidates : List (ProviderConfig μ)} {request : ProviderRequest}
    {blocked : List Backend} (hm : d.held state m) :
    (Routine.executeWithFallback candidates request state tenantId blocked).wp c
      (d.ChainOutcome state candidates blocked) m := by
  unfold Routine.executeWithFallback
  cases candidates with
  | nil => exact d.tryCandidates [] blocked none hm
  | cons first rest =>
      refine d.note_bind hm (fun _ => ⟨rfl, rfl⟩) fun m' _ hm' => ?_
      exact d.tryCandidates (first :: rest) blocked none hm'

end Discipline

end LLMRouting
