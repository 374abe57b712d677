/-
# What the diagnostics tell

Diagnostics are the caller's only account of a call. They have one entry for each reply of a router
and one for each dispatch, in the order in which they happened and with what the reply said; a
candidate that is entered without a dispatch was not dispatched, and something in the call is the
reason.
-/

import LLMRouting.Routing.FailureClasses

namespace LLMRouting

open LLMRouting.Interaction

variable {μ : Type}

/-- The entry for a router's reply. -/
inductive RouterEntry : EngineEvent μ → RouterAttempt → Prop
  | decided {tier : RouterTier} {request : RouterRequest} {asked : Memory μ}
      {reply : Except Interruption RawDecision} {decision : RouterDecision}
      (judged : Routine.judged request reply = .ok decision) :
      RouterEntry ⟨.decide tier request, asked, reply⟩ { router := tier, outcome := .success }
  | failed {tier : RouterTier} {request : RouterRequest} {asked : Memory μ}
      {reply : Except Interruption RawDecision} {error : PyException}
      (judged : Routine.judged request reply = .error (.raised error)) :
      RouterEntry ⟨.decide tier request, asked, reply⟩ (tier.failedAttempt error)
  | cancelled {tier : RouterTier} {request : RouterRequest} {asked : Memory μ}
      {reply : Except Interruption RawDecision} {byDeadline : Bool} {failureClass : String}
      (judged : Routine.judged request reply = .error (.cancelled byDeadline)) :
      RouterEntry ⟨.decide tier request, asked, reply⟩
        { router := tier, outcome := .cancelled, failureClass := some failureClass }

/-- The entry for a provider's reply. -/
inductive ProviderEntry : EngineEvent μ → ProviderAttempt → Prop
  | answered {candidate : ProviderConfig μ} {request : ProviderRequest} {asked : Memory μ}
      {text : String} :
      ProviderEntry ⟨.dispatch candidate.id request, asked, .ok text⟩
        (candidate.attempt .success none)
  | failed {candidate : ProviderConfig μ} {request : ProviderRequest} {asked : Memory μ}
      {error : PyException} (controlled : Routine.isControlled error = true) :
      ProviderEntry ⟨.dispatch candidate.id request, asked, .error (.raised error)⟩
        (candidate.failedAttempt error)
  | unexpected {candidate : ProviderConfig μ} {request : ProviderRequest} {asked : Memory μ}
      {error : PyException} (uncontrolled : Routine.isControlled error = false) :
      ProviderEntry ⟨.dispatch candidate.id request, asked, .error (.raised error)⟩
        (candidate.attempt .failed (some "UNKNOWN"))
  | cancelled {candidate : ProviderConfig μ} {request : ProviderRequest} {asked : Memory μ}
      {byDeadline : Bool} {failureClass : String} :
      ProviderEntry ⟨.dispatch candidate.id request, asked, .error (.cancelled byDeadline)⟩
        (candidate.attempt .cancelled (some failureClass))

/-- The entry is about a dispatch. -/
def ProviderAttempt.isAsked (entry : ProviderAttempt) : Bool :=
  decide (entry.outcome ≠ .skippedAuthFailure) && decide (entry.outcome ≠ .skippedDeadline)

/-- The entry names the provider with its backend and its model. -/
structure ProviderAttempt.Names (entry : ProviderAttempt) (provider : ProviderConfig μ) : Prop where
  id : provider.id = entry.providerId
  backend : provider.backend = entry.backend
  model : provider.model = entry.model

namespace EngineEvent

def isRouted (event : EngineEvent μ) : Bool := event.routed?.isSome

def isDispatch (event : EngineEvent μ) : Bool := event.dispatched?.isSome

/-- The clock was past the deadline. -/
def IsOverdue : EngineEvent μ → Prop
  | ⟨.loopTime, asked, now⟩ => asked.own.deadline ≤ now
  | _ => False

/-- A router failed because this backend had refused it. -/
def RefusesRouter (backend : Backend) : EngineEvent μ → Prop
  | ⟨.decide _ request, _, reply⟩ => ∃ error,
      Routine.judged request reply = .error (.raised error) ∧
        backend ∈ Routine.refusedBackend error
  | _ => False

/-- The provider was refused by its backend. -/
def RefusesProvider (id : String) : EngineEvent μ → Prop
  | ⟨.dispatch providerId _, _, .error (.raised error)⟩ =>
      providerId = id ∧ error.blocksBackend = true
  | _ => False

end EngineEvent

/-- The backend has refused a router, or the provider of an earlier entry. -/
def Refused (trace : List (EngineEvent μ)) (earlier : List ProviderAttempt) (backend : Backend) :
    Prop :=
  (∃ event ∈ trace, EngineEvent.RefusesRouter backend event) ∨
    ∃ entry ∈ earlier, entry.backend = backend ∧
      ∃ event ∈ trace, EngineEvent.RefusesProvider entry.providerId event

/-- What the entries of a call tell about its trace. -/
structure Narrated (trace : List (EngineEvent μ)) (attempts : List RouterAttempt)
    (path : List ProviderAttempt) : Prop where
  routers : List.Forall₂ RouterEntry (trace.filter EngineEvent.isRouted) attempts
  providers : List.Forall₂ ProviderEntry (trace.filter EngineEvent.isDispatch)
    (path.filter ProviderAttempt.isAsked)
  unrepeated : (ProviderAttempt.ids path).Nodup
  undispatched : ∀ entry ∈ path, entry.isAsked = false → entry.providerId ∉ dispatched trace
  registered : ∀ entry ∈ path, ∃ event ∈ trace, ∃ provider,
    event.memory.shared.registry.getProvider? entry.providerId = some provider ∧
      entry.Names provider
  refused : ∀ earlier entry later, path = earlier ++ entry :: later →
    entry.outcome = .skippedAuthFailure → Refused trace earlier entry.backend
  routerOverdue : ∀ entry ∈ attempts, entry.outcome = .cancelled →
    entry.failureClass = some "DEADLINE_EXCEEDED" → ∃ event ∈ trace, EngineEvent.IsOverdue event
  providerOverdue : ∀ entry ∈ path, entry.outcome = .skippedDeadline ∨
    entry.outcome = .cancelled ∧ entry.failureClass = some "DEADLINE_EXCEEDED" →
      ∃ event ∈ trace, EngineEvent.IsOverdue event

section Ladder

variable {request : RouterRequest} {ending : LadderEnding} {tiers : List RouterTier}
  {trace : List (EngineEvent μ)} {routers : List RouterAttempt} {refused : List Backend}

theorem LadderRun.narrated (h : LadderRun request ending tiers trace routers refused) :
    List.Forall₂ RouterEntry (trace.filter EngineEvent.isRouted) routers := by
  induction h with
  | exhausted => exact .nil
  | decided judged => exact .cons (.decided judged) .nil
  | cancelled judged => exact .cons (.cancelled judged) .nil
  | failed judged later ih => exact .cons (.failed judged) ih

theorem LadderRun.filter_isDispatch (h : LadderRun request ending tiers trace routers refused) :
    trace.filter EngineEvent.isDispatch = [] := by
  induction h with
  | exhausted | decided judged | cancelled judged => rfl
  | failed judged later ih => exact ih

theorem LadderRun.exists_refuses (h : LadderRun request ending tiers trace routers refused) :
    ∀ backend ∈ refused, ∃ event ∈ trace, EngineEvent.RefusesRouter backend event := by
  induction h with
  | exhausted | decided judged | cancelled judged => exact fun backend hmem => by cases hmem
  | failed judged later ih =>
      intro backend hmem
      rcases List.mem_append.mp hmem with hfirst | hlater
      · exact ⟨_, List.mem_cons_self, _, judged, hfirst⟩
      · obtain ⟨event, hevent, hrefuses⟩ := ih backend hlater
        exact ⟨event, List.mem_cons_of_mem _ hevent, hrefuses⟩

theorem LadderRun.exists_overdue (h : LadderRun request ending tiers trace routers refused) :
    ∀ entry ∈ routers, entry.outcome = .cancelled →
      entry.failureClass = some "DEADLINE_EXCEEDED" →
        ∃ event ∈ trace, EngineEvent.IsOverdue event := by
  induction h with
  | exhausted => exact fun entry hmem => by cases hmem
  | decided judged =>
      intro entry hmem hcancelled
      rw [List.mem_singleton.mp hmem] at hcancelled
      cases hcancelled
  | @cancelled tier rest asked resumed now reply byDeadline judged =>
      intro entry hmem _ hclass
      rw [List.mem_singleton.mp hmem] at hclass
      by_cases hlate : resumed.own.deadline ≤ now
      · exact ⟨_, List.mem_cons_of_mem _ List.mem_cons_self, hlate⟩
      · simp [hlate] at hclass
  | failed judged later ih =>
      intro entry hmem hcancelled hclass
      rcases List.mem_cons.mp hmem with rfl | hlater
      · cases hcancelled
      · obtain ⟨event, hevent, hoverdue⟩ := ih entry hlater hcancelled hclass
        exact ⟨event, List.mem_cons_of_mem _ hevent, hoverdue⟩

end Ladder

section Chain

variable {request : ProviderRequest} {candidates : List (ProviderConfig μ)}
  {blocked : List Backend} {lastError : Option PyException} {trace : List (EngineEvent μ)}
  {path : List ProviderAttempt} {ending : ChainEnding μ}

theorem filter_isAsked_overtaken (pending : List (ProviderConfig μ)) :
    (overtakenAttempts pending).filter ProviderAttempt.isAsked = [] := by
  rw [overtakenAttempts, List.filter_map, List.map_eq_nil_iff, List.filter_eq_nil_iff]
  exact fun provider _ => Bool.false_ne_true

theorem ChainRun.narrated (h : ChainRun request ending candidates blocked lastError trace path) :
    List.Forall₂ ProviderEntry (trace.filter EngineEvent.isDispatch)
      (path.filter ProviderAttempt.isAsked) := by
  induction h with
  | skipped early refused later ih => exact ih
  | failed early unblocked controlled later ih => exact .cons (.failed controlled) ih
  | stop last =>
      cases last with
      | exhausted | found late => exact .nil
      | @cancelled candidate rest asked dispatched resumed noted now first second byDeadline later
          early unblocked overtaken =>
          have hlater : later.filter ProviderAttempt.isAsked = [] := by
            rcases overtaken with ⟨-, rfl⟩ | ⟨-, rfl⟩
            · exact filter_isAsked_overtaken rest
            · rfl
          apply List.Forall₂.cons .cancelled
          rw [hlater]
          exact .nil
      | unexpected early unblocked uncontrolled => exact .cons (.unexpected uncontrolled) .nil
      | gatewayFailed early unblocked | late early unblocked late =>
          exact .cons .answered .nil
      | committed early unblocked inTime ended => exact .cons .answered .nil

theorem ChainRun.filter_isRouted
    (h : ChainRun request ending candidates blocked lastError trace path) :
    trace.filter EngineEvent.isRouted = [] := by
  induction h with
  | skipped early refused later ih => exact ih
  | failed early unblocked controlled later ih => exact ih
  | stop last => cases last <;> rfl

/-- Every entry names a candidate. -/
theorem ChainRun.exists_named
    (h : ChainRun request ending candidates blocked lastError trace path) :
    ∀ entry ∈ path, ∃ candidate ∈ candidates, entry.Names candidate := by
  induction h with
  | skipped early refused later ih =>
      intro entry hmem
      rcases List.mem_cons.mp hmem with rfl | hlater
      · exact ⟨_, List.mem_cons_self, rfl, rfl, rfl⟩
      · obtain ⟨candidate, hcandidate, hnames⟩ := ih entry hlater
        exact ⟨candidate, List.mem_cons_of_mem _ hcandidate, hnames⟩
  | failed early unblocked controlled later ih =>
      intro entry hmem
      rcases List.mem_cons.mp hmem with rfl | hlater
      · exact ⟨_, List.mem_cons_self, rfl, rfl, rfl⟩
      · obtain ⟨candidate, hcandidate, hnames⟩ := ih entry hlater
        exact ⟨candidate, List.mem_cons_of_mem _ hcandidate, hnames⟩
  | stop last =>
      intro entry hmem
      cases last with
      | exhausted | found late => cases hmem
      | @cancelled candidate rest asked dispatched resumed noted now first second byDeadline later
          early unblocked overtaken =>
          rcases List.mem_cons.mp hmem with rfl | hlater
          · exact ⟨_, List.mem_cons_self, rfl, rfl, rfl⟩
          · rcases overtaken with ⟨-, rfl⟩ | ⟨-, rfl⟩
            · obtain ⟨pending, hpending, rfl⟩ := List.mem_map.mp hlater
              exact ⟨pending, List.mem_cons_of_mem _ hpending, rfl, rfl, rfl⟩
            · cases hlater
      | unexpected early unblocked uncontrolled | gatewayFailed early unblocked
      | late early unblocked late | committed early unblocked inTime ended =>
          rw [List.mem_singleton.mp hmem]
          exact ⟨_, List.mem_cons_self, rfl, rfl, rfl⟩

theorem Refused.mono {trace trace' : List (EngineEvent μ)} {earlier earlier' : List ProviderAttempt}
    {backend : Backend} (h : Refused trace earlier backend) (htrace : trace ⊆ trace')
    (hearlier : earlier ⊆ earlier') : Refused trace' earlier' backend := by
  rcases h with ⟨event, hevent, hrefuses⟩ | ⟨entry, hentry, hbackend, event, hevent, hrefuses⟩
  · exact .inl ⟨event, htrace hevent, hrefuses⟩
  · exact .inr ⟨entry, hearlier hentry, hbackend, event, htrace hevent, hrefuses⟩

/-- A candidate is passed over for a backend that was blocked from the start, or that has refused
an earlier candidate. -/
theorem ChainRun.refused (h : ChainRun request ending candidates blocked lastError trace path) :
    ∀ earlier entry later, path = earlier ++ entry :: later →
      entry.outcome = .skippedAuthFailure →
        entry.backend ∈ blocked ∨ Refused trace earlier entry.backend := by
  induction h with
  | skipped early refused later ih =>
      rintro (_ | ⟨first, earlier⟩) entry rest hpath hskipped
      · cases hpath
        exact .inl refused
      · obtain ⟨rfl, hrest⟩ := List.cons.inj hpath
        rcases ih earlier entry rest hrest hskipped with hblocked | hrefused
        · exact .inl hblocked
        · exact .inr (hrefused.mono (List.subset_cons_self _ _) (List.subset_cons_self _ _))
  | @failed candidate _ blocked _ asked dispatched now error trace path early unblocked controlled
      later ih =>
      rintro (_ | ⟨first, earlier⟩) entry rest hpath hskipped
      · cases hpath
        cases hskipped
      · obtain ⟨rfl, hrest⟩ := List.cons.inj hpath
        rcases ih earlier entry rest hrest hskipped with hblocked | hrefused
        · split at hblocked
          · rename_i hblocks
            rcases List.mem_cons.mp hblocked with hsame | hbefore
            · exact .inr (.inr ⟨_, List.mem_cons_self, hsame.symm, _,
                List.mem_cons_of_mem _ List.mem_cons_self, rfl, hblocks⟩)
            · exact .inl hbefore
          · exact .inl hblocked
        · exact .inr (hrefused.mono (List.subset_append_right [_, _] _)
            (List.subset_cons_self _ _))
  | stop last =>
      intro earlier entry rest hpath hskipped
      have hmem : entry ∈ earlier ++ entry :: rest :=
        List.mem_append_right _ List.mem_cons_self
      rw [← hpath] at hmem
      cases last with
      | exhausted | found late => cases hmem
      | cancelled early unblocked overtaken =>
          rcases List.mem_cons.mp hmem with rfl | hlater
          · cases hskipped
          · rcases overtaken with ⟨-, rfl⟩ | ⟨-, rfl⟩
            · obtain ⟨pending, -, rfl⟩ := List.mem_map.mp hlater
              cases hskipped
            · cases hlater
      | unexpected early unblocked uncontrolled | gatewayFailed early unblocked
      | late early unblocked late | committed early unblocked inTime ended =>
          rw [List.mem_singleton.mp hmem] at hskipped
          cases hskipped

theorem ChainRun.exists_overdue
    (h : ChainRun request ending candidates blocked lastError trace path) :
    ∀ entry ∈ path, entry.outcome = .skippedDeadline ∨
      entry.outcome = .cancelled ∧ entry.failureClass = some "DEADLINE_EXCEEDED" →
        ∃ event ∈ trace, EngineEvent.IsOverdue event := by
  induction h with
  | skipped early refused later ih =>
      intro entry hmem hends
      rcases List.mem_cons.mp hmem with rfl | hlater
      · rcases hends with hskipped | ⟨hcancelled, -⟩
        · cases hskipped
        · cases hcancelled
      · obtain ⟨event, hevent, hoverdue⟩ := ih entry hlater hends
        exact ⟨event, List.mem_cons_of_mem _ hevent, hoverdue⟩
  | failed early unblocked controlled later ih =>
      intro entry hmem hends
      rcases List.mem_cons.mp hmem with rfl | hlater
      · rcases hends with hskipped | ⟨hcancelled, -⟩
        · cases hskipped
        · cases hcancelled
      · obtain ⟨event, hevent, hoverdue⟩ := ih entry hlater hends
        exact ⟨event, List.mem_cons_of_mem _ (List.mem_cons_of_mem _ hevent), hoverdue⟩
  | stop last =>
      intro entry hmem hends
      cases last with
      | exhausted | found late => cases hmem
      | @cancelled candidate rest asked dispatched resumed noted now first second byDeadline later
          early unblocked overtaken =>
          rcases List.mem_cons.mp hmem with rfl | hlater
          · rcases hends with hskipped | ⟨-, hclass⟩
            · cases hskipped
            · by_cases hlate : resumed.own.deadline ≤ first
              · exact ⟨_, List.mem_cons_of_mem _ (List.mem_cons_of_mem _ List.mem_cons_self),
                  hlate⟩
              · simp [ProviderConfig.attempt, hlate] at hclass
          · rcases overtaken with ⟨hlate, rfl⟩ | ⟨-, rfl⟩
            · exact ⟨_, List.mem_cons_of_mem _ (List.mem_cons_of_mem _
                (List.mem_cons_of_mem _ List.mem_cons_self)), hlate⟩
            · cases hlater
      | unexpected early unblocked uncontrolled | gatewayFailed early unblocked
      | late early unblocked late | committed early unblocked inTime ended =>
          rw [List.mem_singleton.mp hmem] at hends
          rcases hends with hskipped | ⟨hcancelled, -⟩
          · cases hskipped
          · cases hcancelled

end Chain

/-- What the routers' entries tell about the ladders of a call. -/
structure LaddersNarrated (trace : List (EngineEvent μ)) (attempts : List RouterAttempt)
    (refused : List Backend) : Prop where
  routers : List.Forall₂ RouterEntry (trace.filter EngineEvent.isRouted) attempts
  undispatched : trace.filter EngineEvent.isDispatch = []
  refused : ∀ backend ∈ refused, ∃ event ∈ trace, EngineEvent.RefusesRouter backend event
  overdue : ∀ entry ∈ attempts, entry.outcome = .cancelled →
    entry.failureClass = some "DEADLINE_EXCEEDED" → ∃ event ∈ trace, EngineEvent.IsOverdue event

namespace LaddersNarrated

variable {trace later : List (EngineEvent μ)} {attempts attempts' : List RouterAttempt}
  {refused refused' : List Backend}

theorem nil : LaddersNarrated ([] : List (EngineEvent μ)) [] [] where
  routers := .nil
  undispatched := rfl
  refused := fun _ hmem => absurd hmem List.not_mem_nil
  overdue := fun _ hmem => absurd hmem List.not_mem_nil

theorem of_ladderRun {request : RouterRequest} {ending : LadderEnding} {tiers : List RouterTier}
    (h : LadderRun request ending tiers trace attempts refused) :
    LaddersNarrated trace attempts refused where
  routers := h.narrated
  undispatched := h.filter_isDispatch
  refused := h.exists_refuses
  overdue := h.exists_overdue

theorem append (h : LaddersNarrated trace attempts refused)
    (h' : LaddersNarrated later attempts' refused') :
    LaddersNarrated (trace ++ later) (attempts ++ attempts') (refused ++ refused') where
  routers := by
    rw [List.filter_append]
    exact List.rel_append h.routers h'.routers
  undispatched := by rw [List.filter_append, h.undispatched, h'.undispatched, List.nil_append]
  refused := by
    intro backend hmem
    rcases List.mem_append.mp hmem with hfirst | hlater
    · obtain ⟨event, hevent, hrefuses⟩ := h.refused backend hfirst
      exact ⟨event, List.mem_append_left _ hevent, hrefuses⟩
    · obtain ⟨event, hevent, hrefuses⟩ := h'.refused backend hlater
      exact ⟨event, List.mem_append_right _ hevent, hrefuses⟩
  overdue := by
    intro entry hmem hcancelled hclass
    rcases List.mem_append.mp hmem with hfirst | hlater
    · obtain ⟨event, hevent, hoverdue⟩ := h.overdue entry hfirst hcancelled hclass
      exact ⟨event, List.mem_append_left _ hevent, hoverdue⟩
    · obtain ⟨event, hevent, hoverdue⟩ := h'.overdue entry hlater hcancelled hclass
      exact ⟨event, List.mem_append_right _ hevent, hoverdue⟩

end LaddersNarrated

/-- The ladders of a call, and the chain at its end if it comes to one. -/
inductive CallParts (call : HandleCall) (blocked : List Backend) :
    List (EngineEvent μ) → List RouterAttempt → List ProviderAttempt → Prop
  | unchained {before : List (EngineEvent μ)} {attempts : List RouterAttempt}
      {refused : List Backend} (ladders : LaddersNarrated before attempts refused) :
      CallParts call blocked before attempts []
  | chained {before rest : List (EngineEvent μ)} {attempts : List RouterAttempt}
      {refused : List Backend} {query : ProviderRequest} {candidates : List (ProviderConfig μ)}
      {path : List ProviderAttempt} {ending : ChainEnding μ}
      (ladders : LaddersNarrated before attempts refused)
      (offered : ∀ event ∈ rest.head?, call.offered event.memory = candidates)
      (chain : ChainRun query ending candidates (blocked ++ refused) none rest path) :
      CallParts call blocked (before ++ rest) attempts path

theorem RouteRun.callParts {call : HandleCall} {ending : HandleEnding μ} {blocked : List Backend}
    {trace : List (EngineEvent μ)} {attempts : List RouterAttempt} {path : List ProviderAttempt}
    (h : RouteRun call ending blocked trace attempts path) :
    CallParts call blocked trace attempts path := by
  induction h with
  | unasked unasked => exact .unchained .nil
  | ladder ladder ended => exact .unchained (.of_ladderRun ladder)
  | chain ladder offered chain ended => exact .chained (.of_ladderRun ladder) offered chain
  | retried ladder later ih =>
      have hladder := LaddersNarrated.of_ladderRun ladder
      cases ih with
      | unchained ladders => exact .unchained (hladder.append ladders)
      | chained ladders offered chain =>
          rw [← List.append_assoc]
          rw [List.append_assoc] at chain
          exact .chained (hladder.append ladders) offered chain

/-- The candidates a call is offered are registered, each once. -/
theorem HandleCall.offered_registered {call : HandleCall} {m : Memory μ} :
    (ProviderConfig.ids (call.offered m)).Nodup ∧ ∀ candidate ∈ call.offered m,
      m.shared.registry.getProvider? candidate.id = some candidate := by
  rw [HandleCall.offered]
  split
  · exact ⟨List.nodup_nil, fun candidate hmem => absurd hmem List.not_mem_nil⟩
  · exact ⟨Registry.nodup_map_id_candidatesFor _ _ _ _ _ _,
      fun candidate hmem => Registry.getProvider?_of_mem_candidatesFor hmem⟩

/-- The entries about dispatches name the providers that were dispatched. -/
theorem dispatched_eq_ids {trace : List (EngineEvent μ)} {path : List ProviderAttempt}
    (h : List.Forall₂ ProviderEntry (trace.filter EngineEvent.isDispatch) path) :
    dispatched trace = ProviderAttempt.ids path := by
  have hfilter : dispatched trace =
      (trace.filter EngineEvent.isDispatch).filterMap EngineEvent.dispatched? := by
    rw [dispatched, List.filterMap_filter]
    apply List.filterMap_congr
    intro event _
    rw [EngineEvent.isDispatch]
    cases EngineEvent.dispatched? event <;> rfl
  rw [hfilter]
  generalize trace.filter EngineEvent.isDispatch = events at h
  induction h with
  | nil => rfl
  | cons hentry later ih =>
      cases hentry with
      | answered | failed controlled | unexpected uncontrolled | cancelled =>
          exact congrArg (List.cons _) ih

theorem not_mem_dispatched {trace : List (EngineEvent μ)} {path : List ProviderAttempt}
    (h : List.Forall₂ ProviderEntry (trace.filter EngineEvent.isDispatch)
      (path.filter ProviderAttempt.isAsked))
    (hnodup : (ProviderAttempt.ids path).Nodup) :
    ∀ entry ∈ path, entry.isAsked = false → entry.providerId ∉ dispatched trace := by
  intro entry hentry hunasked hdispatched
  rw [dispatched_eq_ids h] at hdispatched
  obtain ⟨asked, hmem, hid⟩ := List.mem_map.mp hdispatched
  obtain ⟨hasked, htrue⟩ := List.mem_filter.mp hmem
  rw [List.inj_on_of_nodup_map hnodup hasked hentry hid, hunasked] at htrue
  cases htrue

/-- A call's entries tell what it did. -/
theorem CallParts.narrated {call : HandleCall} {trace : List (EngineEvent μ)}
    {attempts : List RouterAttempt} {path : List ProviderAttempt}
    (h : CallParts call [] trace attempts path) : Narrated trace attempts path := by
  cases h with
  | unchained ladders =>
      have hproviders : List.Forall₂ ProviderEntry (trace.filter EngineEvent.isDispatch) [] := by
        rw [ladders.undispatched]
        exact .nil
      exact
        { routers := ladders.routers
          providers := hproviders
          unrepeated := List.nodup_nil
          undispatched := fun entry hmem => absurd hmem List.not_mem_nil
          registered := fun entry hmem => absurd hmem List.not_mem_nil
          refused := by
            intro earlier entry later hpath
            cases earlier <;> cases hpath
          routerOverdue := ladders.overdue
          providerOverdue := fun entry hmem => absurd hmem List.not_mem_nil }
  | @chained before rest _ refused query candidates _ ending ladders offered chain =>
      have hproviders : List.Forall₂ ProviderEntry
          ((before ++ rest).filter EngineEvent.isDispatch)
          (path.filter ProviderAttempt.isAsked) := by
        rw [List.filter_append, ladders.undispatched]
        exact chain.narrated
      have hbegun : path = [] ∨ ∃ event ∈ rest, call.offered event.memory = candidates := by
        cases rest with
        | nil =>
            left
            cases chain with
            | stop last =>
                cases last
                rfl
        | cons event rest => exact .inr ⟨event, List.mem_cons_self, offered event rfl⟩
      have hunrepeated : (ProviderAttempt.ids path).Nodup := by
        rcases hbegun with rfl | ⟨event, -, rfl⟩
        · exact List.nodup_nil
        · exact HandleCall.offered_registered.1.sublist chain.ids_prefix.sublist
      exact
        { routers := by
            rw [List.filter_append, chain.filter_isRouted, List.append_nil]
            exact ladders.routers
          providers := hproviders
          unrepeated := hunrepeated
          undispatched := not_mem_dispatched hproviders hunrepeated
          registered := by
            intro entry hentry
            rcases hbegun with rfl | ⟨event, hevent, rfl⟩
            · cases hentry
            · obtain ⟨candidate, hcandidate, hnames⟩ := chain.exists_named entry hentry
              refine ⟨event, List.mem_append_right _ hevent, candidate, ?_, hnames⟩
              rw [← hnames.id]
              exact HandleCall.offered_registered.2 candidate hcandidate
          refused := by
            intro earlier entry later hpath hskipped
            rcases chain.refused earlier entry later hpath hskipped with hblocked | hrefused
            · obtain ⟨event, hevent, hrefuses⟩ := ladders.refused _ hblocked
              exact .inl ⟨event, List.mem_append_left _ hevent, hrefuses⟩
            · exact hrefused.mono (List.subset_append_right _ _) (List.Subset.refl _)
          routerOverdue := by
            intro entry hmem hcancelled hclass
            obtain ⟨event, hevent, hoverdue⟩ := ladders.overdue entry hmem hcancelled hclass
            exact ⟨event, List.mem_append_left _ hevent, hoverdue⟩
          providerOverdue := by
            intro entry hmem hends
            obtain ⟨event, hevent, hoverdue⟩ := chain.exists_overdue entry hmem hends
            exact ⟨event, List.mem_append_right _ hevent, hoverdue⟩ }

/-- Whatever routers, providers, clock and other calls do: the diagnostics that a call shows tell
what it did after the reading of the clock with which it begins. -/
theorem handle_narrates [Metric μ] {rely : Memory μ → Memory μ → Prop} {engine : RoutingEngine}
    {call : HandleCall} {m m' : Memory μ} {trace : List (EngineEvent μ)}
    {out : Except Raised RoutingResponse} {diagnostics : RoutingDiagnostics}
    (hrely : LeavesOwn rely) (hrun : Coro.Run rely (Routine.handle engine call) m trace m' out)
    (hshown : shownDiagnostics out = some diagnostics) :
    ∃ (start : ℚ) (rest : List (EngineEvent μ)), trace = ⟨.loopTime, m, start⟩ :: rest ∧
      Narrated rest diagnostics.routerAttempts diagnostics.fallbackPath := by
  obtain ⟨now, rest, ending, attempts, path, rfl, hroute, hledger, hconcludes, -⟩ :=
    Coro.wp_sound (handle_routes hrely) hrun
  obtain ⟨failure, hbuilt⟩ := hconcludes.built hshown
  have hclassed := buildDiagnostics_classed hbuilt
  have hattempts : m'.own.routerAttempts = attempts := hledger.routerAttempts
  have hpath : m'.own.providerAttempts = path := hledger.providerAttempts
  refine ⟨now, rest, rfl, ?_⟩
  rw [hclassed.routerAttempts, hclassed.fallbackPath, hattempts, hpath]
  exact hroute.callParts.narrated

/-- The primary router's backend refuses it, and the fallback router decides. -/
def refusing : RouterTier → Except Interruption RawDecision
  | .primaryRouter => .error (.raised
      { kind := .routerUnavailable, httpStatus := some 401, backend := some .google
        blocksBackend := true })
  | .fallbackRouter => .ok (.decision generalDecision)

/-- The refusal costs the first provider its turn, and the second one is unavailable. -/
def refusedRun : List (EngineEvent ℤ) × Memory ℤ × Except Raised RoutingResponse :=
  developerRun reserve (answering refusing
    (fun _ => .error (.raised { kind := .providerUnavailable, httpStatus := some 503 })) .ok)

theorem handle_narrates_refused : ∃ diagnostics,
    shownDiagnostics refusedRun.2.2 = some diagnostics ∧
      diagnostics.fallbackPath.map (fun entry => (entry.providerId, entry.outcome)) =
        [("first", .skippedAuthFailure), ("second", .failed)] ∧
      ∃ start rest, refusedRun.1 = ⟨.loopTime, deployment reserve none, start⟩ :: rest ∧
        Narrated rest diagnostics.routerAttempts diagnostics.fallbackPath := by
  have hpath : (shownDiagnostics refusedRun.2.2).map (fun diagnostics =>
      diagnostics.fallbackPath.map fun entry => (entry.providerId, entry.outcome)) =
        some [("first", .skippedAuthFailure), ("second", .failed)] := by decide +kernel
  obtain ⟨diagnostics, hshown, hentries⟩ := Option.map_eq_some_iff.mp hpath
  exact ⟨diagnostics, hshown, hentries,
    handle_narrates (fun _ _ h => congrArg Mem.own h.symm) (run_developer _ _) hshown⟩

end LLMRouting
