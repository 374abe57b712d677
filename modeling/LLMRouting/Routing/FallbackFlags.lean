/-
# The fallback flags

Diagnostics say three times whether there was a fallback. `router_fallback_used` and
`provider_fallback_used` are read off the attempts at the end; `fallback_used` is a flag of its own,
raised where a tier or a dispatch fails, and patched where a candidate responds. A chain can go past
its first candidate without a failure, and a failure need not be followed by another candidate.
-/

import LLMRouting.Routing.CallLedger

namespace LLMRouting

open LLMRouting.Interaction

variable {μ : Type}

/-- The tier's reply is a failure, of the router or of the validator. -/
def EngineEvent.FailsRouter : EngineEvent μ → Prop
  | ⟨.decide _ request, _, reply⟩ => ∃ error, Routine.judged request reply = .error (.raised error)
  | _ => False

/-- The first dispatch fails, and the chain comes to no further candidate. -/
def FailedAlone (trace : List (EngineEvent μ)) : Prop :=
  ∃ before providerId request asked error after,
    trace = before ++ (⟨.dispatch providerId request, asked, .error (.raised error)⟩ ::
      after : List (EngineEvent μ)) ∧
    dispatched before = [] ∧ Routine.isControlled error = true ∧
      (after = [] ∨ ∃ resumed now, after = [⟨.loopTime, resumed, now⟩] ∧
        resumed.own.deadline ≤ now)

/-- The first dispatch is cancelled with the deadline over, and other candidates were to come. -/
def CancelledFirst (call : HandleCall) (trace : List (EngineEvent μ)) : Prop :=
  ∃ before begun now providerId request asked byDeadline resumed first noted second,
    trace = before ++ ([⟨.loopTime, begun, now⟩,
      ⟨.dispatch providerId request, asked, .error (.cancelled byDeadline)⟩,
        ⟨.loopTime, resumed, first⟩, ⟨.loopTime, noted, second⟩] : List (EngineEvent μ)) ∧
    dispatched before = [] ∧ noted.own.deadline ≤ second ∧ 1 < (call.offered begun).length

/-- The diagnostics that are part of a response or of an error. -/
def shownDiagnostics : Except Raised RoutingResponse → Option RoutingDiagnostics
  | .ok response => response.diagnostics
  | .error (.routing error) => some error.diagnostics
  | .error _ => none

/-- A trace has one first dispatch. -/
theorem eq_of_first_dispatch {before before' after after' : List (EngineEvent μ)}
    {event event' : EngineEvent μ} (h : before ++ event :: after = before' ++ event' :: after')
    (hbefore : dispatched before = []) (hbefore' : dispatched before' = [])
    (hevent : event.dispatched? ≠ none) (hevent' : event'.dispatched? ≠ none) :
    before = before' ∧ event = event' ∧ after = after' := by
  rw [dispatched_eq_nil_iff] at hbefore hbefore'
  induction before generalizing before' with
  | nil =>
      cases before' with
      | nil =>
          obtain ⟨rfl, rfl⟩ := List.cons.inj h
          exact ⟨rfl, rfl, rfl⟩
      | cons first rest =>
          obtain ⟨rfl, -⟩ := List.cons.inj h
          exact (hevent (hbefore' event List.mem_cons_self)).elim
  | cons first rest ih =>
      cases before' with
      | nil =>
          obtain ⟨rfl, -⟩ := List.cons.inj h
          exact (hevent' (hbefore first List.mem_cons_self)).elim
      | cons first' rest' =>
          obtain ⟨rfl, hrest⟩ := List.cons.inj h
          obtain ⟨rfl, hsame⟩ := ih hrest
            (fun event hmem => hbefore event (List.mem_cons_of_mem _ hmem))
            (fun event hmem => hbefore' event (List.mem_cons_of_mem _ hmem))
          exact ⟨rfl, hsame⟩

section Ladder

variable {request : RouterRequest} {ending : LadderEnding} {tiers : List RouterTier}
  {trace : List (EngineEvent μ)} {routers : List RouterAttempt} {refused : List Backend}

theorem LadderRun.dispatched_eq_nil (h : LadderRun request ending tiers trace routers refused) :
    dispatched trace = [] := by
  induction h with
  | exhausted | decided judged | cancelled judged => rfl
  | failed judged later ih => exact ih

/-- The failures a ladder notes are the ones its trace shows. -/
theorem LadderRun.any_isFailure_iff (h : LadderRun request ending tiers trace routers refused) :
    routers.any RouterAttempt.isFailure = true ↔
      ∃ event ∈ trace, EngineEvent.FailsRouter event := by
  induction h with
  | exhausted => simp
  | decided judged | cancelled judged =>
      simp [RouterAttempt.isFailure, EngineEvent.FailsRouter, judged]
  | failed judged later ih =>
      simp [RouterAttempt.isFailure, RouterTier.failedAttempt, EngineEvent.FailsRouter, judged]

theorem LadderRun.refused_eq_nil (h : LadderRun request ending tiers trace routers refused)
    (hfailure : routers.any RouterAttempt.isFailure = false) : refused = [] := by
  cases h with
  | exhausted | decided judged | cancelled judged => rfl
  | failed judged later => cases hfailure

/-- The second tier is asked exactly if the first one has failed. -/
theorem LadderRun.any_fallbackRouter
    (h : LadderRun request ending [.primaryRouter, .fallbackRouter] trace routers refused) :
    (routers.any fun attempt => decide (attempt.router = .fallbackRouter)) =
      routers.any RouterAttempt.isFailure := by
  cases h with
  | decided judged | cancelled judged => rfl
  | failed judged later =>
      cases later with
      | decided judged | cancelled judged => rfl
      | failed judged later => rfl

end Ladder

section Call

variable {call : HandleCall} {ending : HandleEnding μ} {blocked : List Backend}
  {trace : List (EngineEvent μ)} {routers : List RouterAttempt} {providers : List ProviderAttempt}

theorem RouteRun.any_fallbackRouter (h : RouteRun call ending blocked trace routers providers) :
    (routers.any fun attempt => decide (attempt.router = .fallbackRouter)) =
      routers.any RouterAttempt.isFailure := by
  induction h with
  | unasked unasked => rfl
  | ladder ladder ended => exact ladder.any_fallbackRouter
  | chain ladder offered chain ended => exact ladder.any_fallbackRouter
  | retried ladder later ih => rw [List.any_append, List.any_append, ladder.any_fallbackRouter, ih]

theorem ChainRun.not_failsRouter {request : ProviderRequest} {ending : ChainEnding μ}
    {candidates : List (ProviderConfig μ)} {lastError : Option PyException}
    (h : ChainRun request ending candidates blocked lastError trace providers) :
    ∀ event ∈ trace, ¬ EngineEvent.FailsRouter event := by
  induction h with
  | skipped early refused later ih => exact List.forall_mem_cons.mpr ⟨id, ih⟩
  | failed early unblocked controlled later ih =>
      exact List.forall_mem_cons.mpr ⟨id, List.forall_mem_cons.mpr ⟨id, ih⟩⟩
  | stop last => cases last <;> simp [EngineEvent.FailsRouter]

theorem exists_failsRouter_append {trace rest : List (EngineEvent μ)} :
    (∃ event ∈ trace ++ rest, EngineEvent.FailsRouter event) ↔
      (∃ event ∈ trace, EngineEvent.FailsRouter event) ∨
        ∃ event ∈ rest, EngineEvent.FailsRouter event := by
  simp only [List.mem_append, or_and_right, exists_or]

/-- The failures of routers a call notes are the ones its trace shows. -/
theorem RouteRun.any_isFailure_iff (h : RouteRun call ending blocked trace routers providers) :
    routers.any RouterAttempt.isFailure = true ↔
      ∃ event ∈ trace, EngineEvent.FailsRouter event := by
  induction h with
  | unasked unasked => simp
  | ladder ladder ended => exact ladder.any_isFailure_iff
  | chain ladder offered chain ended =>
      rw [ladder.any_isFailure_iff, exists_failsRouter_append]
      refine ⟨.inl, fun hfails => hfails.resolve_right ?_⟩
      rintro ⟨event, hevent, hfails⟩
      exact chain.not_failsRouter event hevent hfails
  | retried ladder later ih =>
      rw [List.any_append, Bool.or_eq_true, exists_failsRouter_append]
      exact or_congr ladder.any_isFailure_iff ih

/-- The chain of a call, if it comes to one, is the end of its trace. -/
inductive ChainPart (call : HandleCall) (ending : HandleEnding μ) (blocked : List Backend)
    (routers : List RouterAttempt) : List (EngineEvent μ) → List ProviderAttempt → Prop
  | unchained {trace : List (EngineEvent μ)} (undispatched : dispatched trace = [])
      (unanswered : ending.responder? = none) : ChainPart call ending blocked routers trace []
  | chained {before rest : List (EngineEvent μ)} {query : ProviderRequest}
      {candidates : List (ProviderConfig μ)} {refused : List Backend}
      {providers : List ProviderAttempt} {chainEnding : ChainEnding μ}
      (undispatched : dispatched before = [])
      (unrefused : routers.any RouterAttempt.isFailure = false → refused = [])
      (offered : ∀ event ∈ rest.head?, call.offered event.memory = candidates)
      (chain : ChainRun query chainEnding candidates (blocked ++ refused) none rest providers)
      (ended : ending = .chain chainEnding) :
      ChainPart call ending blocked routers (before ++ rest) providers

theorem RouteRun.chainPart (h : RouteRun call ending blocked trace routers providers) :
    ChainPart call ending blocked routers trace providers := by
  induction h with
  | unasked unasked =>
      apply ChainPart.unchained rfl
      cases ending with
      | settled | unresolved error | imageMissing | denied => rfl
      | ladderFailed | ladderCancelled byDeadline | chain ending => cases unasked
  | @ladder _ _ _ ladderEnding _ _ ladder ended =>
      apply ChainPart.unchained ladder.dispatched_eq_nil
      rw [ended]
      cases ladderEnding <;> rfl
  | chain ladder offered chain ended =>
      exact .chained ladder.dispatched_eq_nil ladder.refused_eq_nil offered chain ended
  | @retried blocked refused _ _ trace rest routers routers' providers ladder later ih =>
      cases ih with
      | unchained undispatched unanswered =>
          refine .unchained ?_ unanswered
          rw [dispatched_append, ladder.dispatched_eq_nil, undispatched]
          rfl
      | @chained before rest query candidates refused' _ _ undispatched unrefused offered chain
          ended =>
          rw [← List.append_assoc]
          rw [List.append_assoc blocked] at chain
          refine .chained ?_ ?_ offered chain ended
          · rw [dispatched_append, ladder.dispatched_eq_nil, undispatched]
            rfl
          · intro hfailure
            rw [List.any_append, Bool.or_eq_false_iff] at hfailure
            rw [ladder.refused_eq_nil hfailure.1, unrefused hfailure.2]
            rfl

end Call

section Flags

variable {call : HandleCall} {before after : List (EngineEvent μ)} {begun : Memory μ} {now : ℚ}
  {event : EngineEvent μ}

theorem not_failedAlone_of_undispatched {trace : List (EngineEvent μ)}
    (h : dispatched trace = []) : ¬ FailedAlone trace := by
  rintro ⟨before, providerId, request, asked, error, after, rfl, -⟩
  simp [dispatched, EngineEvent.dispatched?] at h

theorem not_cancelledFirst_of_undispatched {trace : List (EngineEvent μ)}
    (h : dispatched trace = []) : ¬ CancelledFirst call trace := by
  rintro ⟨before, begun, now, providerId, request, asked, byDeadline, resumed, first, noted, second,
    rfl, -⟩
  simp [dispatched, EngineEvent.dispatched?] at h

theorem dispatched_append_loopTime (hbefore : dispatched before = []) :
    dispatched (before ++ [(⟨.loopTime, begun, now⟩ : EngineEvent μ)]) = [] := by
  rw [dispatched_append, hbefore]
  rfl

/-- The first dispatch of a chain is the one that has to fail alone. -/
theorem failedAlone_iff (hbefore : dispatched before = []) (hevent : event.dispatched? ≠ none) :
    FailedAlone (before ++ ⟨.loopTime, begun, now⟩ :: event :: after) ↔
      ∃ providerId request asked error,
        event = ⟨.dispatch providerId request, asked, .error (.raised error)⟩ ∧
          Routine.isControlled error = true ∧ (after = [] ∨ ∃ resumed now,
            after = [⟨.loopTime, resumed, now⟩] ∧ resumed.own.deadline ≤ now) := by
  have hsplit : before ++ ⟨.loopTime, begun, now⟩ :: event :: after =
      (before ++ [⟨.loopTime, begun, now⟩]) ++ event :: after := by simp
  rw [hsplit]
  refine ⟨?_, ?_⟩
  · rintro ⟨before', providerId, request, asked, error, after', htrace, hbefore',
      hcontrolled, hlast⟩
    obtain ⟨-, rfl, rfl⟩ :=
      eq_of_first_dispatch htrace (dispatched_append_loopTime hbefore) hbefore'
      hevent (by simp [EngineEvent.dispatched?])
    exact ⟨providerId, request, asked, error, rfl, hcontrolled, hlast⟩
  · rintro ⟨providerId, request, asked, error, rfl, hcontrolled, hlast⟩
    exact ⟨_, providerId, request, asked, error, after, rfl, dispatched_append_loopTime hbefore,
      hcontrolled, hlast⟩

/-- The first dispatch of a chain is the one that has to be cancelled first. -/
theorem cancelledFirst_iff (hbefore : dispatched before = []) (hevent : event.dispatched? ≠ none) :
    CancelledFirst call (before ++ ⟨.loopTime, begun, now⟩ :: event :: after) ↔
      ∃ providerId request asked byDeadline resumed first noted second,
        event = ⟨.dispatch providerId request, asked, .error (.cancelled byDeadline)⟩ ∧
          after = [⟨.loopTime, resumed, first⟩, ⟨.loopTime, noted, second⟩] ∧
            noted.own.deadline ≤ second ∧ 1 < (call.offered begun).length := by
  refine ⟨?_, ?_⟩
  · rintro ⟨before', begun', now', providerId, request, asked, byDeadline, resumed, first, noted,
      second, htrace, hbefore', hlate, hmore⟩
    have hsplit : (before ++ [⟨.loopTime, begun, now⟩]) ++ event :: after =
        (before' ++ [⟨.loopTime, begun', now'⟩]) ++
          ⟨.dispatch providerId request, asked, .error (.cancelled byDeadline)⟩ ::
            [⟨.loopTime, resumed, first⟩, ⟨.loopTime, noted, second⟩] := by
      simpa using htrace
    obtain ⟨hbegun, rfl, rfl⟩ := eq_of_first_dispatch hsplit (dispatched_append_loopTime hbefore)
      (dispatched_append_loopTime hbefore') hevent (by simp [EngineEvent.dispatched?])
    obtain ⟨-, hbegun⟩ := List.append_inj' hbegun rfl
    cases hbegun
    exact ⟨providerId, request, asked, byDeadline, resumed, first, noted, second, rfl, rfl, hlate,
      hmore⟩
  · rintro ⟨providerId, request, asked, byDeadline, resumed, first, noted, second, rfl, rfl, hlate,
      hmore⟩
    exact ⟨before, begun, now, providerId, request, asked, byDeadline, resumed, first,
      noted, second, rfl, hbefore, hlate, hmore⟩

/-- A chain leaves no entry exactly if it is over, or finds the deadline, at once. -/
theorem ChainRun.attempts_eq_nil_iff {request : ProviderRequest} {ending : ChainEnding μ}
    {candidates : List (ProviderConfig μ)} {blocked : List Backend}
    {lastError : Option PyException} {trace : List (EngineEvent μ)}
    {attempts : List ProviderAttempt}
    (h : ChainRun request ending candidates blocked lastError trace attempts) :
    attempts = [] ↔ trace = [] ∨ ∃ resumed now,
      trace = [(⟨.loopTime, resumed, now⟩ : EngineEvent μ)] ∧
      resumed.own.deadline ≤ now := by
  cases h with
  | skipped early refused later =>
      refine iff_of_false (by simp) ?_
      rintro (htrace | ⟨resumed, now, htrace, hlate⟩)
      · cases htrace
      · cases htrace
        exact absurd hlate (not_le.mpr early)
  | failed early unblocked controlled later =>
      refine iff_of_false (by simp) ?_
      rintro (htrace | ⟨resumed, now, htrace, hlate⟩) <;> cases htrace
  | stop last =>
      cases last with
      | exhausted => exact iff_of_true rfl (.inl rfl)
      | found late => exact iff_of_true rfl (.inr ⟨_, _, rfl, late⟩)
      | cancelled early unblocked overtaken => simp
      | unexpected early unblocked uncontrolled => simp
      | gatewayFailed early unblocked => simp
      | late early unblocked late => simp
      | committed early unblocked inTime ended => simp

/-- A call without a dispatch has neither failed alone nor been cancelled before others. -/
theorem neither_of_undispatched {trace : List (EngineEvent μ)} (hbefore : dispatched before = [])
    (htrace : dispatched trace = []) :
    ¬ FailedAlone (before ++ trace) ∧ ¬ CancelledFirst call (before ++ trace) := by
  have hnone : dispatched (before ++ trace) = [] := by
    rw [dispatched_append, hbefore, htrace]
    rfl
  exact ⟨not_failedAlone_of_undispatched hnone, not_cancelledFirst_of_undispatched hnone⟩

/-- Nor has one whose first dispatch is answered. -/
theorem neither_of_answered {providerId text : String} {request : ProviderRequest}
    {asked : Memory μ} (hbefore : dispatched before = []) :
    ¬ FailedAlone (before ++ (⟨.loopTime, begun, now⟩ ::
        ⟨.dispatch providerId request, asked, .ok text⟩ :: after : List (EngineEvent μ))) ∧
      ¬ CancelledFirst call (before ++ (⟨.loopTime, begun, now⟩ ::
        ⟨.dispatch providerId request, asked, .ok text⟩ :: after : List (EngineEvent μ))) := by
  rw [failedAlone_iff hbefore (by simp [EngineEvent.dispatched?]),
    cancelledFirst_iff hbefore (by simp [EngineEvent.dispatched?])]
  constructor
  · rintro ⟨_, _, _, _, hevent, -⟩
    cases hevent
  · rintro ⟨_, _, _, _, _, _, _, _, hevent, -⟩
    cases hevent

/-- Nor has one whose first dispatch raises what the engine does not handle. -/
theorem neither_of_uncontrolled {providerId : String} {request : ProviderRequest}
    {asked : Memory μ} {error : PyException} (hbefore : dispatched before = [])
    (uncontrolled : Routine.isControlled error = false) :
    ¬ FailedAlone (before ++ (⟨.loopTime, begun, now⟩ ::
        ⟨.dispatch providerId request, asked, .error (.raised error)⟩ :: after :
          List (EngineEvent μ))) ∧
      ¬ CancelledFirst call (before ++ (⟨.loopTime, begun, now⟩ ::
        ⟨.dispatch providerId request, asked, .error (.raised error)⟩ :: after :
          List (EngineEvent μ))) := by
  rw [failedAlone_iff hbefore (by simp [EngineEvent.dispatched?]),
    cancelledFirst_iff hbefore (by simp [EngineEvent.dispatched?])]
  constructor
  · rintro ⟨_, _, _, error, hevent, hcontrolled, -⟩
    cases hevent
    rw [uncontrolled] at hcontrolled
    cases hcontrolled
  · rintro ⟨_, _, _, _, _, _, _, _, hevent, -⟩
    cases hevent

/-- A call whose first dispatch is cancelled: the flag stays down, and there are more entries if
the deadline has overtaken the others. -/
theorem flag_iff_of_cancelled {providerId : String} {request : ProviderRequest}
    {asked resumed noted : Memory μ} {first second : ℚ} {byDeadline : Bool}
    {candidate : ProviderConfig μ} {rest : List (ProviderConfig μ)} {entry : ProviderAttempt}
    {later : List ProviderAttempt} (hoffered : call.offered begun = candidate :: rest)
    (hbefore : dispatched before = []) (hentry : entry.isControlled = false)
    (overtaken : noted.own.deadline ≤ second ∧ later = overtakenAttempts rest ∨
      second < noted.own.deadline ∧ later = []) :
    ((entry :: later).any ProviderAttempt.isControlled = true ↔ 1 < (entry :: later).length) ↔
      ¬ FailedAlone (before ++ (⟨.loopTime, begun, now⟩ ::
          ⟨.dispatch providerId request, asked, .error (.cancelled byDeadline)⟩ ::
            [⟨.loopTime, resumed, first⟩, ⟨.loopTime, noted, second⟩] : List (EngineEvent μ))) ∧
        ¬ CancelledFirst call (before ++ (⟨.loopTime, begun, now⟩ ::
          ⟨.dispatch providerId request, asked, .error (.cancelled byDeadline)⟩ ::
            [⟨.loopTime, resumed, first⟩, ⟨.loopTime, noted, second⟩] : List (EngineEvent μ))) := by
  rw [failedAlone_iff hbefore (by simp [EngineEvent.dispatched?]),
    cancelledFirst_iff hbefore (by simp [EngineEvent.dispatched?]), hoffered]
  have huncontrolled : later.any ProviderAttempt.isControlled = false := by
    obtain ⟨-, rfl⟩ | ⟨-, rfl⟩ := overtaken
    · rw [overtakenAttempts, List.any_map]
      exact List.any_eq_false.mpr fun _ _ => Bool.false_ne_true
    · rfl
  have hlength : 1 < later.length + 1 ↔ later ≠ [] := by
    rw [Nat.lt_add_left_iff_pos, List.length_pos_iff]
  simp only [List.any_cons, hentry, huncontrolled, List.length_cons, hlength]
  refine ⟨fun hflag => ⟨?_, ?_⟩, fun hflag => ⟨fun hused => ?_, fun hnil => ?_⟩⟩
  · rintro ⟨_, _, _, _, hevent, -⟩
    cases hevent
  · rintro ⟨_, _, _, _, _, _, _, _, -, hafter, hlate, hmore⟩
    cases hafter
    obtain ⟨-, rfl⟩ | ⟨hpending, -⟩ := overtaken
    · have hrest : overtakenAttempts rest ≠ [] := by
        simpa [overtakenAttempts, List.length_pos_iff] using hmore
      cases hflag.mpr hrest
    · exact absurd hlate (not_le.mpr hpending)
  · cases hused
  · obtain ⟨hlate, rfl⟩ | ⟨-, rfl⟩ := overtaken
    · refine (hflag.2 ⟨_, _, _, byDeadline, resumed, first, noted, second, rfl, rfl, hlate,
        ?_⟩).elim
      simpa [overtakenAttempts, List.length_pos_iff] using hnil
    · exact (hnil rfl).elim

/-- Without a router's failure, the flag and the length of the path part where the first dispatch
fails alone, or is cancelled before others. -/
theorem ChainRun.flag_iff {request : ProviderRequest} {ending : ChainEnding μ}
    {candidates : List (ProviderConfig μ)} {trace : List (EngineEvent μ)}
    {attempts : List ProviderAttempt}
    (h : ChainRun request ending candidates [] none trace attempts)
    (hoffered : ∀ event ∈ trace.head?, call.offered event.memory = candidates)
    (hbefore : dispatched before = []) :
    ((attempts.any ProviderAttempt.isControlled ||
        ending.responder?.isSome && decide (1 < attempts.length)) = true ↔ 1 < attempts.length) ↔
      ¬ FailedAlone (before ++ trace) ∧ ¬ CancelledFirst call (before ++ trace) := by
  cases h with
  | skipped early refused later => cases refused
  | @failed candidate rest _ _ asked dispatched now error trace attempts early unblocked controlled
      later =>
      rw [failedAlone_iff hbefore (by simp [EngineEvent.dispatched?]),
        cancelledFirst_iff hbefore (by simp [EngineEvent.dispatched?])]
      have hlast := later.attempts_eq_nil_iff
      have hcontrolled : (candidate.failedAttempt error :: attempts).any
          ProviderAttempt.isControlled = true := rfl
      rw [hcontrolled, Bool.true_or, List.length_cons, Nat.lt_add_left_iff_pos,
        List.length_pos_iff]
      refine ⟨fun hflag => ⟨?_, ?_⟩, fun hflag => ⟨fun _ hnil => hflag.1 ?_, fun _ => rfl⟩⟩
      · rintro ⟨providerId, request, asked, error, -, -, htrace⟩
        exact hflag.mp rfl (hlast.mpr htrace)
      · rintro ⟨providerId, request, asked, byDeadline, resumed, first, noted, second, hevent, -⟩
        cases hevent
      · exact ⟨_, _, _, error, rfl, controlled, hlast.mp hnil⟩
  | stop last =>
      cases last with
      | exhausted | found late =>
          exact iff_of_true (by simp) (neither_of_undispatched hbefore rfl)
      | gatewayFailed early unblocked | late early unblocked late =>
          exact iff_of_true (by simp [ProviderAttempt.isControlled, ProviderConfig.attempt])
            (neither_of_answered hbefore)
      | committed early unblocked inTime ended =>
          exact iff_of_true (by simp [ProviderAttempt.isControlled, ProviderConfig.attempt])
            (neither_of_answered hbefore)
      | unexpected early unblocked uncontrolled =>
          exact iff_of_true (by simp [ProviderAttempt.isControlled, ProviderConfig.attempt,
            ChainEnding.responder?]) (neither_of_uncontrolled hbefore uncontrolled)
      | cancelled early unblocked overtaken =>
          simp only [ChainEnding.responder?, Option.isSome_none, Bool.false_and, Bool.or_false]
          exact flag_iff_of_cancelled (hoffered _ rfl) hbefore rfl overtaken

/-- What diagnostics say about fallbacks. -/
theorem buildDiagnostics_flags {registry : Registry μ} {capture : Capture μ}
    {failure : TerminalFailure} {diagnostics : RoutingDiagnostics}
    (h : buildDiagnostics registry capture failure = some diagnostics) :
    diagnostics.fallbackUsed = capture.fallbackUsed ∧
      (diagnostics.routerFallbackUsed =
        capture.routerAttempts.any fun item => decide (item.router = .fallbackRouter)) ∧
      diagnostics.providerFallbackUsed = decide (1 < capture.providerAttempts.length) := by
  rw [buildDiagnostics] at h
  cases hselected : capture.selectedProvider with
  | none =>
      simp only [hselected, Option.some.injEq] at h
      rw [← h]
      exact ⟨rfl, rfl, rfl⟩
  | some providerId =>
      simp only [hselected, Option.map_eq_some_iff] at h
      obtain ⟨provider, -, rfl⟩ := h
      exact ⟨rfl, rfl, rfl⟩

/-- Diagnostics that are shown are built at the end. -/
theorem Concludes.built {m' : Memory μ} {ending : HandleEnding μ}
    {out : Except Raised RoutingResponse} {diagnostics : RoutingDiagnostics}
    (h : Concludes m' ending out) (hshown : shownDiagnostics out = some diagnostics) : ∃ failure,
    buildDiagnostics m'.shared.registry m'.own failure = some diagnostics := by
  cases out with
  | ok response => exact ⟨{}, (h.answered response rfl).2 diagnostics hshown⟩
  | error raised =>
      cases raised with
      | routing error =>
          obtain ⟨failure, hbuilt, -⟩ := h.failed error rfl
          cases hshown
          exact ⟨failure, hbuilt⟩
      | conversationNotFound conversationId | policyNotFound policyId | cancelled byDeadline
      | exception error => cases hshown

variable [Metric μ]

/-- The aggregate flag of a call's diagnostics agrees with the two others exactly if a router has
failed, or the first dispatch neither fails alone nor is cancelled before others. -/
theorem fallbackUsed_iff {rely : Memory μ → Memory μ → Prop} {engine : RoutingEngine}
    {m m' : Memory μ} {trace : List (EngineEvent μ)} {out : Except Raised RoutingResponse}
    {diagnostics : RoutingDiagnostics} (hrely : LeavesOwn rely)
    (hrun : Coro.Run rely (Routine.handle engine call) m trace m' out)
    (hshown : shownDiagnostics out = some diagnostics) :
    (diagnostics.fallbackUsed = true ↔
        diagnostics.routerFallbackUsed = true ∨ diagnostics.providerFallbackUsed = true) ↔
      (∃ event ∈ trace, EngineEvent.FailsRouter event) ∨
        ¬ FailedAlone trace ∧ ¬ CancelledFirst call trace := by
  obtain ⟨now, rest, ending, routers, providers, rfl, hroute, hledger, hconcludes, -⟩ :=
    Coro.wp_sound (handle_routes hrely) hrun
  obtain ⟨failure, hbuilt⟩ := hconcludes.built hshown
  obtain ⟨hused, hrouter, hprovider⟩ := buildDiagnostics_flags hbuilt
  have hrouters : m'.own.routerAttempts = routers := hledger.routerAttempts
  have hproviders : m'.own.providerAttempts = providers := hledger.providerAttempts
  have hflag : diagnostics.fallbackUsed = (routers.any RouterAttempt.isFailure ||
      (providers.any ProviderAttempt.isControlled ||
        ending.responder?.isSome && decide (1 < providers.length))) := by
    rw [hused, hledger.fallbackUsed, hproviders]
    simp [Routine.newCapture, Bool.or_assoc]
  rw [hflag, hrouter, hprovider, hrouters, hproviders, hroute.any_fallbackRouter]
  have hfails : (∃ event ∈ (⟨.loopTime, m, now⟩ :: rest : List (EngineEvent μ)),
      EngineEvent.FailsRouter event) ↔ routers.any RouterAttempt.isFailure = true := by
    rw [hroute.any_isFailure_iff]
    simp [EngineEvent.FailsRouter]
  rw [hfails]
  cases hfailure : routers.any RouterAttempt.isFailure with
  | true => exact iff_of_true (by simp) (.inl rfl)
  | false =>
      simp only [Bool.false_or, Bool.false_eq_true, false_or, decide_eq_true_eq]
      cases hroute.chainPart with
      | unchained undispatched unanswered =>
          have hnone : dispatched (⟨.loopTime, m, now⟩ :: rest : List (EngineEvent μ)) = [] :=
            undispatched
          refine iff_of_true (by simp [unanswered]) ?_
          exact ⟨not_failedAlone_of_undispatched hnone, not_cancelledFirst_of_undispatched hnone⟩
      | @chained before chainTrace query candidates refused _ chainEnding undispatched unrefused
          offered chain ended =>
          have hbefore : dispatched (⟨.loopTime, m, now⟩ :: before : List (EngineEvent μ)) = [] :=
            undispatched
          rw [unrefused hfailure] at chain
          rw [ended]
          exact chain.flag_iff offered hbefore

end Flags

def developerCall : HandleCall :=
  { request := { conversationId := "c", message := "question" }, developerMode := true }

/-- Tiers, providers and a gateway that answer as told, and a clock that stands still. -/
def answering (routers : RouterTier → Except Interruption RawDecision)
    (provider : String → Except Interruption String)
    (gateway : String → Except PyException String) : Coro.Oracle engineInterface
  | _, .loopTime => (0 : ℚ)
  | _, .decide tier _ => routers tier
  | _, .dispatch providerId _ => provider providerId
  | _, .process response => gateway response

/-- A question in a new conversation. -/
def developerRun (providers : List (ProviderConfig ℤ)) (oracle : Coro.Oracle engineInterface) :
    List (EngineEvent ℤ) × Memory ℤ × Except Raised RoutingResponse :=
  (Routine.handle { maxAttempts := 2 } developerCall).eval oracle (deployment providers none) 0

theorem run_developer (providers : List (ProviderConfig ℤ)) (oracle : Coro.Oracle engineInterface) :
    Coro.Run Eq (Routine.handle { maxAttempts := 2 } developerCall) (deployment providers none)
      (developerRun providers oracle).1 (developerRun providers oracle).2.1
        (developerRun providers oracle).2.2 :=
  Coro.run_eval (fun _ => rfl) _ _ _ _

/-- The primary router is unavailable, and the fallback router decides. -/
def recovering : RouterTier → Except Interruption RawDecision
  | .primaryRouter => .error (.raised { kind := .routerUnavailable, httpStatus := some 429 })
  | .fallbackRouter => .ok (.decision generalDecision)

/-- The first provider answers. -/
def recoveredRun : List (EngineEvent ℤ) × Memory ℤ × Except Raised RoutingResponse :=
  developerRun reserve (answering recovering (fun _ => .ok "text") .ok)

theorem fallbackUsed_iff_recovered : ∃ diagnostics,
    shownDiagnostics recoveredRun.2.2 = some diagnostics ∧ (diagnostics.fallbackUsed = true ↔
      diagnostics.routerFallbackUsed = true ∨ diagnostics.providerFallbackUsed = true) := by
  have hsome : (shownDiagnostics recoveredRun.2.2).isSome = true := by decide +kernel
  obtain ⟨diagnostics, hshown⟩ := Option.isSome_iff_exists.mp hsome
  refine ⟨diagnostics, hshown, (fallbackUsed_iff (fun _ _ h => congrArg Mem.own h.symm)
    (run_developer _ _) hshown).mpr (.inl ⟨_, List.mem_cons_of_mem _ List.mem_cons_self, ?_⟩)⟩
  exact ⟨_, rfl⟩

/-- The only provider fails. -/
def loneRun : List (EngineEvent ℤ) × Memory ℤ × Except Raised RoutingResponse :=
  developerRun [generalProvider "only" 1 .google]
    (answering (fun _ => .ok (.decision generalDecision))
      (fun _ => .error (.raised { kind := .providerUnavailable })) .ok)

/-- A failure without any fallback is flagged as one. -/
theorem lone_failure_flagged :
    Coro.Run Eq (Routine.handle { maxAttempts := 2 } developerCall)
        (deployment [generalProvider "only" 1 .google] none) loneRun.1 loneRun.2.1 loneRun.2.2 ∧
      ∃ diagnostics, shownDiagnostics loneRun.2.2 = some diagnostics ∧
        ¬ (diagnostics.fallbackUsed = true ↔
          diagnostics.routerFallbackUsed = true ∨ diagnostics.providerFallbackUsed = true) := by
  have hsome : (shownDiagnostics loneRun.2.2).isSome = true := by decide +kernel
  obtain ⟨diagnostics, hshown⟩ := Option.isSome_iff_exists.mp hsome
  have hflags : (shownDiagnostics loneRun.2.2).all fun diagnostics =>
      diagnostics.fallbackUsed && !diagnostics.routerFallbackUsed &&
        !diagnostics.providerFallbackUsed := by decide +kernel
  rw [hshown, Option.all_some] at hflags
  refine ⟨run_developer _ _, diagnostics, hshown, fun hagree => ?_⟩
  simp only [Bool.and_eq_true, Bool.not_eq_true'] at hflags
  simp [hflags] at hagree

end LLMRouting
