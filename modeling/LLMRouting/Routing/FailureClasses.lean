/-
# The reported failure class

`failure_class` is found by a scan from the end over the entries of the routers and then of the
providers, for one that has a class. Successes have none, so the scan passes over them: where a call
fails outside any attempt, it reports the class of whatever went wrong before, although the call had
recovered from that. `setbacks` reads the classes off the trace.
-/

import LLMRouting.Routing.FallbackFlags

namespace LLMRouting

open LLMRouting.Interaction

variable {μ : Type}

namespace EngineEvent

def IsLoopTime : EngineEvent μ → Bool
  | ⟨.loopTime, _, _⟩ => true
  | _ => false

/-- The class of the failure a reply reports. -/
def setback? : EngineEvent μ → Option String
  | ⟨.decide _ request, _, reply⟩ =>
      match Routine.judged request reply with
      | .error (.raised error) => some (failureClass error)
      | _ => none
  | ⟨.dispatch _ _, _, .error (.raised error)⟩ =>
      some (if Routine.isControlled error then failureClass error else "UNKNOWN")
  | _ => none

/-- The call may go on to fail after this reply, and would then not fail in an attempt: a router
has decided, or the gateway has failed. -/
def IsOutside : EngineEvent μ → Prop
  | ⟨.decide _ request, _, reply⟩ => ∃ decision, Routine.judged request reply = .ok decision
  | ⟨.process _, _, .error _⟩ => True
  | _ => False

/-- The dispatch fails in a way the chain does not handle. -/
def unexpected? : EngineEvent μ → Option PyException
  | ⟨.dispatch _ _, _, .error (.raised error)⟩ =>
      if Routine.isControlled error then none else some error
  | _ => none

end EngineEvent

theorem EngineEvent.unexpected?_raised {providerId : String} {request : ProviderRequest}
    {asked : Memory μ} {error : PyException} :
    EngineEvent.unexpected? ⟨.dispatch providerId request, asked, .error (.raised error)⟩ =
      if Routine.isControlled error then none else some error := rfl

/-- The classes of the failures of a trace. Where the loop reads the clock twice in a row, it has
passed over a candidate whose backend had refused. -/
def setbacks : List (EngineEvent μ) → List String
  | [] => []
  | event :: rest =>
      (if event.IsLoopTime && rest.head?.any EngineEvent.IsLoopTime then ["AUTH"] else []) ++
        event.setback?.toList ++ setbacks rest

/-- The class of the last entry that is left by a list of entries. -/
def lastClass (classes : List (Option String)) : String :=
  (classes.getLast?.bind id).getD "UNKNOWN"

/-- The class of the failure an error of this kind is about: of the deadline, of the last attempt of
its stage, or `UNKNOWN` where there is none. -/
def classOfKind (diagnostics : RoutingDiagnostics) : RoutingErrorKind → String
  | .deadlineExceeded => "DEADLINE_EXCEEDED"
  | .routerFailure =>
      lastClass ((diagnostics.routerAttempts.filter fun attempt =>
        decide (attempt.router = .fallbackRouter)).map RouterAttempt.failureClass)
  | .providerUnavailable => lastClass (diagnostics.fallbackPath.map ProviderAttempt.failureClass)
  | .gatewayFailure | .internalError | .invalidRequest | .governancePolicyDenied => "UNKNOWN"

/-- The class of the failure that has ended a call with this error; an attempt that has raised
unexpectedly has ended it whatever the error is. -/
def endingClass (trace : List (EngineEvent μ)) (error : RoutingEngineError) : String :=
  if (trace.getLast?.bind EngineEvent.unexpected?).isSome then
    lastClass (error.diagnostics.fallbackPath.map ProviderAttempt.failureClass)
  else classOfKind error.diagnostics error.kind

/-- The call fails outside any attempt with a failure behind it that had a class. -/
def BlamesRecovered (trace : List (EngineEvent μ)) : Prop :=
  (∃ event ∈ trace.getLast?, EngineEvent.IsOutside event) ∧
    ∃ failureClass ∈ (setbacks trace).getLast?, failureClass ≠ "UNKNOWN"

/-- The last failure of a dispatch is taken for the end of the request itself: a bare
`TimeoutError`, or, with no candidate left, a reason of the engine's own. -/
def BorrowsReason (trace : List (EngineEvent μ)) : Prop :=
  (∃ error ∈ trace.getLast?.bind EngineEvent.unexpected?, error.kind = .timeoutError) ∨
    ∃ before providerId request asked error after,
      trace = before ++ (⟨.dispatch providerId request, asked, .error (.raised error)⟩ ::
        after : List (EngineEvent μ)) ∧
      Routine.isControlled error = true ∧
      (∀ event ∈ after, ∃ resumed now, event = ⟨.loopTime, resumed, now⟩ ∧
        now < resumed.own.deadline) ∧
      (error.failureReason = some "NONE" ∨ error.failureReason = some "DEADLINE_EXCEEDED" ∧
        (if after = [] then failureClass error else "AUTH") ≠ "DEADLINE_EXCEEDED")

section Setbacks

variable {request : RouterRequest} {tiers : List RouterTier} {decision : RouterDecision}
  {trace rest before : List (EngineEvent μ)} {routers : List RouterAttempt} {refused : List Backend}

theorem setbacks_cons {event : EngineEvent μ} (h : event.IsLoopTime = false) :
    setbacks (event :: rest) = event.setback?.toList ++ setbacks rest := by
  rw [setbacks, h, Bool.false_and]
  rfl

theorem setbacks_loopTime {m : Memory μ} {now : ℚ}
    (h : ∀ event ∈ rest.head?, EngineEvent.IsLoopTime event = false) :
    setbacks (⟨.loopTime, m, now⟩ :: rest) = setbacks rest := by
  have hhead : rest.head?.any EngineEvent.IsLoopTime = false := by
    cases hrest : rest.head? with
    | none => rfl
    | some event => exact h event hrest
  rw [setbacks, hhead, Bool.and_false]
  rfl

/-- The classes of a ladder that decides are the ones its trace shows. -/
theorem LadderRun.setbacks_append
    (h : LadderRun request (.decided decision) tiers trace routers refused) :
    setbacks (trace ++ rest) = routers.filterMap RouterAttempt.failureClass ++ setbacks rest := by
  induction h with
  | exhausted ended | cancelled judged ended => cases ended
  | decided judged ended =>
      rw [List.singleton_append, setbacks_cons rfl, EngineEvent.setback?, judged]
      rfl
  | failed judged later ih =>
      rw [List.cons_append, setbacks_cons rfl, EngineEvent.setback?, judged, ih]
      rfl

theorem LadderRun.getLast?_outside
    (h : LadderRun request (.decided decision) tiers trace routers refused) :
    ∃ event ∈ trace.getLast?, EngineEvent.IsOutside event := by
  induction h with
  | exhausted ended | cancelled judged ended => cases ended
  | decided judged ended => exact ⟨_, rfl, _, judged⟩
  | failed judged later ih =>
      obtain ⟨event, hevent, houtside⟩ := ih
      exact ⟨event, by rw [Option.mem_def, List.getLast?_cons, hevent]; rfl, houtside⟩

theorem LadderRun.getLast?_of_cancelled {byDeadline : Bool}
    (h : LadderRun request (.cancelled byDeadline) tiers trace routers refused) :
    ∃ resumed now, trace.getLast? = some (⟨.loopTime, resumed, now⟩ : EngineEvent μ) := by
  induction h with
  | exhausted ended | decided judged ended => cases ended
  | cancelled judged ended => exact ⟨_, _, rfl⟩
  | failed judged later ih =>
      obtain ⟨resumed, now, hlast⟩ := ih
      exact ⟨resumed, now, by rw [List.getLast?_cons, hlast]; rfl⟩

/-- Both tiers have failed, the second one last. -/
theorem LadderRun.of_exhausted
    (h : LadderRun request .exhausted [.primaryRouter, .fallbackRouter] trace routers refused) :
    ∃ first second asked reply,
      routers = [RouterTier.primaryRouter.failedAttempt first,
        RouterTier.fallbackRouter.failedAttempt second] ∧
      trace.getLast? = some (⟨.decide .fallbackRouter request, asked, reply⟩ : EngineEvent μ) ∧
        Routine.judged request reply = .error (.raised second) := by
  cases h with
  | decided judged ended | cancelled judged ended => cases ended
  | failed judged later =>
      cases later with
      | decided judged ended | cancelled judged ended => cases ended
      | failed judged later =>
          cases later with
          | exhausted ended => exact ⟨_, _, _, _, rfl, rfl, judged⟩

theorem LadderRun.head?_decides {ending : LadderEnding} {tier : RouterTier}
    (h : LadderRun request ending (tier :: tiers) trace routers refused) :
    ∀ event ∈ (trace ++ rest).head?, EngineEvent.IsLoopTime event = false := by
  cases h with
  | decided judged | cancelled judged | failed judged =>
      rintro event ⟨⟩
      rfl

end Setbacks

/-- The part of a call that is over: the first look at the clock and ladders that have decided. -/
inductive Preamble : List (EngineEvent μ) → List RouterAttempt → Prop
  | begun {m : Memory μ} {now : ℚ} : Preamble [⟨.loopTime, m, now⟩] []
  | decided {before trace : List (EngineEvent μ)} {earlier routers : List RouterAttempt}
      {request : RouterRequest} {decision : RouterDecision} {refused : List Backend}
      (preamble : Preamble before earlier)
      (ladder : LadderRun request (.decided decision) [.primaryRouter, .fallbackRouter]
        trace routers refused) : Preamble (before ++ trace) (earlier ++ routers)

/-- The last leg of a call, which ends it. -/
inductive LastLeg (ending : HandleEnding μ) : List (EngineEvent μ) → List RouterAttempt →
    List ProviderAttempt → Prop
  | unasked {before : List (EngineEvent μ)} {earlier : List RouterAttempt}
      (preamble : Preamble before earlier) (unasked : ending.Unasked) :
      LastLeg ending before earlier []
  | ladder {before trace : List (EngineEvent μ)} {earlier routers : List RouterAttempt}
      {request : RouterRequest} {ladderEnding : LadderEnding} {refused : List Backend}
      (preamble : Preamble before earlier)
      (ladder : LadderRun request ladderEnding [.primaryRouter, .fallbackRouter] trace
        routers refused)
      (ended : ending = ladderEnding.ends) :
      LastLeg ending (before ++ trace) (earlier ++ routers) []
  | chain {before trace rest : List (EngineEvent μ)} {earlier routers : List RouterAttempt}
      {request : RouterRequest} {decision : RouterDecision} {refused blocked : List Backend}
      {query : ProviderRequest} {candidates : List (ProviderConfig μ)}
      {providers : List ProviderAttempt} {chainEnding : ChainEnding μ}
      (preamble : Preamble before earlier)
      (ladder : LadderRun request (.decided decision) [.primaryRouter, .fallbackRouter]
        trace routers refused)
      (chain : ChainRun query chainEnding candidates blocked none rest providers)
      (ended : ending = .chain chainEnding) :
      LastLeg ending (before ++ trace ++ rest) (earlier ++ routers) providers

section Legs

variable {before trace : List (EngineEvent μ)} {earlier routers : List RouterAttempt}

theorem RouteRun.lastLeg {call : HandleCall} {ending : HandleEnding μ} {blocked : List Backend}
    {providers : List ProviderAttempt}
    (h : RouteRun call ending blocked trace routers providers)
    (preamble : Preamble before earlier) :
    LastLeg ending (before ++ trace) (earlier ++ routers) providers := by
  induction h generalizing before earlier with
  | unasked unasked =>
      rw [List.append_nil, List.append_nil]
      exact .unasked preamble unasked
  | ladder ladder ended => exact .ladder preamble ladder ended
  | chain ladder offered chain ended =>
      rw [← List.append_assoc]
      exact .chain preamble ladder chain ended
  | retried ladder later ih =>
      rw [← List.append_assoc, ← List.append_assoc]
      exact ih (.decided preamble ladder)

theorem Preamble.setbacks_append {rest : List (EngineEvent μ)} (h : Preamble before earlier)
    (hrest : ∀ event ∈ rest.head?, EngineEvent.IsLoopTime event = false) :
    setbacks (before ++ rest) = earlier.filterMap RouterAttempt.failureClass ++ setbacks rest := by
  induction h generalizing rest with
  | begun =>
      rw [List.singleton_append, setbacks_loopTime hrest]
      rfl
  | decided preamble ladder ih =>
      rw [List.append_assoc, ih ladder.head?_decides, ladder.setbacks_append, List.filterMap_append,
        List.append_assoc]

/-- A ladder that has decided separates what comes after it from what was before. -/
theorem Preamble.setbacks_ladder {rest : List (EngineEvent μ)} {request : RouterRequest}
    {decision : RouterDecision} {refused : List Backend} (h : Preamble before earlier)
    (ladder : LadderRun request (.decided decision) [.primaryRouter, .fallbackRouter] trace routers
      refused) :
    setbacks (before ++ trace ++ rest) =
      (earlier ++ routers).filterMap RouterAttempt.failureClass ++ setbacks rest := by
  rw [List.append_assoc, h.setbacks_append ladder.head?_decides, ladder.setbacks_append,
    List.filterMap_append, List.append_assoc]

theorem Preamble.dispatched_eq_nil (h : Preamble before earlier) : dispatched before = [] := by
  induction h with
  | begun => rfl
  | decided preamble ladder ih =>
      rw [dispatched_append, ih, ladder.dispatched_eq_nil]
      rfl

theorem EngineEvent.unexpected?_of_isOutside {event : EngineEvent μ}
    (h : EngineEvent.IsOutside event) : EngineEvent.unexpected? event = none := by
  rcases event with ⟨query, memory, reply⟩
  cases query with
  | loopTime | decide tier request | process response => rfl
  | dispatch providerId request => cases h

/-- Before anything is asked no attempt has been noted; later a router has decided last. -/
theorem Preamble.getLast?_outside (h : Preamble before earlier) :
    earlier = [] ∨ ∃ event ∈ before.getLast?, EngineEvent.IsOutside event := by
  cases h with
  | begun => exact .inl rfl
  | decided preamble ladder =>
      obtain ⟨event, hevent, houtside⟩ := ladder.getLast?_outside
      refine .inr ⟨event, ?_, houtside⟩
      rw [Option.mem_def, List.getLast?_append, hevent]
      rfl

theorem Preamble.expected (h : Preamble before earlier) :
    before.getLast?.bind EngineEvent.unexpected? = none := by
  cases h with
  | begun => rfl
  | decided preamble ladder =>
      obtain ⟨event, hevent, houtside⟩ := ladder.getLast?_outside
      rw [List.getLast?_append, hevent]
      exact EngineEvent.unexpected?_of_isOutside houtside

end Legs

namespace ChainEnding

/-- The failure that ended a chain unexpectedly. -/
def unexpected? : ChainEnding μ → Option PyException
  | .unexpected error => some error
  | _ => none

def IsGatewayFailed : ChainEnding μ → Prop
  | .gatewayFailed _ => True
  | _ => False

end ChainEnding

/-- The loop reads the clock and goes on. -/
def EngineEvent.IsEarly (event : EngineEvent μ) : Prop :=
  ∃ resumed now, event = ⟨.loopTime, resumed, now⟩ ∧ now < resumed.own.deadline

namespace ChainRun

variable {request : ProviderRequest} {candidates : List (ProviderConfig μ)}
  {blocked : List Backend} {lastError : Option PyException} {trace : List (EngineEvent μ)}
  {attempts : List ProviderAttempt} {ending : ChainEnding μ}

/-- A chain that only passes over candidates runs out of them. -/
theorem exhausted_of_early
    (h : ChainRun request ending candidates blocked lastError trace attempts)
    (hearly : ∀ event ∈ trace, EngineEvent.IsEarly event) :
    ending = .exhausted lastError ∧ (trace = [] ∧ attempts = [] ∨
      trace ≠ [] ∧ (attempts.map ProviderAttempt.failureClass).getLast? = some (some "AUTH")) := by
  have hno : ∀ {providerId asked} {reply : Except Interruption String},
      ¬ EngineEvent.IsEarly (⟨.dispatch providerId request, asked, reply⟩ : EngineEvent μ) := by
    rintro providerId asked reply ⟨resumed, now, hevent, -⟩
    cases hevent
  induction h with
  | skipped early refused later ih =>
      obtain ⟨hending, hrest⟩ := ih (List.forall_mem_cons.mp hearly).2
      refine ⟨hending, .inr ⟨List.cons_ne_nil _ _, ?_⟩⟩
      rcases hrest with ⟨-, rfl⟩ | ⟨-, hlast⟩
      · rfl
      · rw [List.map_cons, List.getLast?_cons, hlast]
        rfl
  | failed early unblocked controlled later ih =>
      exact (hno (hearly _ (List.mem_cons_of_mem _ List.mem_cons_self))).elim
  | stop last =>
      cases last with
      | exhausted => exact ⟨rfl, .inl ⟨rfl, rfl⟩⟩
      | found late =>
          obtain ⟨resumed, now, hevent, hnow⟩ := hearly _ List.mem_cons_self
          cases hevent
          exact absurd late (not_le.mpr hnow)
      | cancelled early unblocked overtaken =>
          exact (hno (hearly _ (List.mem_cons_of_mem _ List.mem_cons_self))).elim
      | unexpected early unblocked uncontrolled =>
          exact (hno (hearly _ (List.mem_cons_of_mem _ List.mem_cons_self))).elim
      | gatewayFailed early unblocked =>
          exact (hno (hearly _ (List.mem_cons_of_mem _ List.mem_cons_self))).elim
      | late early unblocked late =>
          exact (hno (hearly _ (List.mem_cons_of_mem _ List.mem_cons_self))).elim
      | committed early unblocked inTime ended =>
          exact (hno (hearly _ (List.mem_cons_of_mem _ List.mem_cons_self))).elim

/-- Unless it begins without candidates, a chain reads the clock first. -/
theorem head?_isLoopTime
    (h : ChainRun request ending candidates blocked lastError trace attempts) :
    trace = [] ∧ ending = .exhausted lastError ∨ trace.head?.any EngineEvent.IsLoopTime = true := by
  cases h with
  | skipped early refused later => exact .inr rfl
  | failed early unblocked controlled later => exact .inr rfl
  | stop last =>
      cases last with
      | exhausted => exact .inl ⟨rfl, rfl⟩
      | found late | cancelled early unblocked overtaken => exact .inr rfl
      | unexpected early unblocked uncontrolled => exact .inr rfl
      | gatewayFailed early unblocked | late early unblocked late => exact .inr rfl
      | committed early unblocked inTime ended => exact .inr rfl

/-- The last reply of a chain tells a failure of the gateway and an unexpected one. -/
theorem getLast?_tells
    (h : ChainRun request ending candidates blocked lastError trace attempts) :
    ∀ event ∈ trace.getLast?, (EngineEvent.IsOutside event ↔ ending.IsGatewayFailed) ∧
      EngineEvent.unexpected? event = ending.unexpected? := by
  have hcons : ∀ (first : EngineEvent μ) {trace : List (EngineEvent μ)},
      ¬ EngineEvent.IsOutside first → EngineEvent.unexpected? first = none →
      (trace = [] → ¬ ending.IsGatewayFailed ∧ ending.unexpected? = none) →
      (∀ event ∈ trace.getLast?, (EngineEvent.IsOutside event ↔ ending.IsGatewayFailed) ∧
        EngineEvent.unexpected? event = ending.unexpected?) →
      ∀ event ∈ (first :: trace).getLast?, (EngineEvent.IsOutside event ↔ ending.IsGatewayFailed) ∧
        EngineEvent.unexpected? event = ending.unexpected? := by
    intro first trace hinside hexpected hnil htrace
    cases trace with
    | nil =>
        intro event hevent
        obtain rfl : first = event := Option.some.inj hevent
        exact ⟨iff_of_false hinside (hnil rfl).1, hexpected.trans (hnil rfl).2.symm⟩
    | cons next rest =>
        rw [List.getLast?_cons_of_ne_nil (List.cons_ne_nil next rest)]
        exact htrace
  induction h with
  | @skipped candidate rest _ _ asked now trace attempts early refused later ih =>
      apply hcons _ id rfl _ ih
      rintro rfl
      rw [(later.exhausted_of_early (List.forall_mem_nil _)).1]
      exact ⟨id, rfl⟩
  | @failed candidate rest _ _ asked dispatched now error trace attempts early unblocked controlled
      later ih =>
      have hnil : trace = [] → ¬ ending.IsGatewayFailed ∧ ending.unexpected? = none := by
        rintro rfl
        rw [(later.exhausted_of_early (List.forall_mem_nil _)).1]
        exact ⟨id, rfl⟩
      apply hcons _ id rfl (fun hempty => by cases hempty)
      apply hcons _ id _ hnil ih
      rw [EngineEvent.unexpected?_raised, if_pos controlled]
  | stop last =>
      have hlast : ∀ (before : List (EngineEvent μ)) (last : EngineEvent μ),
          (EngineEvent.IsOutside last ↔ ending.IsGatewayFailed) →
          EngineEvent.unexpected? last = ending.unexpected? →
          ∀ event ∈ (before ++ [last]).getLast?,
            (EngineEvent.IsOutside event ↔ ending.IsGatewayFailed) ∧
              EngineEvent.unexpected? event = ending.unexpected? := by
        intro before last houtside hexpected event hevent
        rw [List.getLast?_append] at hevent
        obtain rfl : last = event := Option.some.inj hevent
        exact ⟨houtside, hexpected⟩
      cases last with
      | exhausted => rintro event ⟨⟩
      | found late => exact hlast [] _ Iff.rfl rfl
      | cancelled early unblocked overtaken => exact hlast [_, _, _] _ Iff.rfl rfl
      | late early unblocked late => exact hlast [_, _, _] _ Iff.rfl rfl
      | unexpected early unblocked uncontrolled =>
          apply hlast [_] _ Iff.rfl
          rw [EngineEvent.unexpected?_raised, uncontrolled]
          rfl
      | gatewayFailed early unblocked => exact hlast [_, _] _ Iff.rfl rfl
      | committed early unblocked inTime ended =>
          rcases ended with rfl | rfl <;> exact hlast [_, _, _] _ Iff.rfl rfl

/-- Where a chain ends in the gateway, its entries have the classes its trace shows. -/
theorem setbacks_of_gatewayFailed {candidate : ProviderConfig μ}
    (h : ChainRun request (.gatewayFailed candidate) candidates blocked lastError trace attempts) :
    setbacks trace = attempts.filterMap ProviderAttempt.failureClass := by
  induction h with
  | @skipped candidate rest _ _ asked now trace attempts early refused later ih =>
      rcases later.head?_isLoopTime with ⟨-, hending⟩ | hhead
      · cases hending
      · rw [setbacks, hhead, ih]
        rfl
  | @failed candidate rest _ _ asked dispatched now error trace attempts early unblocked controlled
      later ih =>
      rw [setbacks, setbacks_cons rfl, ih, EngineEvent.setback?, if_pos controlled]
      rfl
  | stop last =>
      cases last with
      | gatewayFailed early unblocked => rfl
      | committed early unblocked inTime ended => rcases ended with ended | ended <;> cases ended

/-- The failure that left a chain without candidates is the last thing but skips. -/
def LastFailure (request : ProviderRequest) (trace : List (EngineEvent μ))
    (attempts : List ProviderAttempt) (error : PyException) : Prop :=
  ∃ before providerId asked after,
    trace = before ++ (⟨.dispatch providerId request, asked, .error (.raised error)⟩ ::
      after : List (EngineEvent μ)) ∧ Routine.isControlled error = true ∧
    (∀ event ∈ after, EngineEvent.IsEarly event) ∧
      (attempts.map ProviderAttempt.failureClass).getLast? =
        some (some (if after = [] then failureClass error else "AUTH"))

/-- A chain without candidates left has only passed over some, or names its last failure. -/
theorem lastFailure_of_exhausted {error : Option PyException}
    (h : ChainRun request (.exhausted error) candidates blocked lastError trace attempts) :
    error = lastError ∧ (∀ event ∈ trace, EngineEvent.IsEarly event) ∨
      ∃ last, error = some last ∧ LastFailure request trace attempts last := by
  have hcons : ∀ {first : ProviderAttempt} (events : List (EngineEvent μ))
      {trace : List (EngineEvent μ)} {attempts : List ProviderAttempt} {last : PyException},
      LastFailure request trace attempts last →
        LastFailure request (events ++ trace) (first :: attempts) last := by
    rintro first events trace attempts last ⟨before, providerId, asked, after, rfl, hcontrolled,
      hafter, hclass⟩
    refine ⟨events ++ before, providerId, asked, after, (List.append_assoc ..).symm, hcontrolled,
      hafter, ?_⟩
    rw [List.map_cons, List.getLast?_cons, hclass]
    rfl
  induction h with
  | @skipped candidate rest blocked lastError asked now trace attempts early refused later ih =>
      rcases ih with ⟨hsame, hearly⟩ | ⟨last, hlast, hfailure⟩
      · exact .inl ⟨hsame, List.forall_mem_cons.mpr ⟨⟨asked, now, rfl, early⟩, hearly⟩⟩
      · exact .inr ⟨last, hlast, hcons [_] hfailure⟩
  | @failed candidate rest blocked lastError asked dispatched now error' trace attempts early
      unblocked controlled later ih =>
      rcases ih with ⟨hsame, hearly⟩ | ⟨last, hlast, hfailure⟩
      · refine .inr ⟨error', hsame, [⟨.loopTime, asked, now⟩], _, _, trace, rfl, controlled, hearly,
          ?_⟩
        rcases (later.exhausted_of_early hearly).2 with ⟨rfl, rfl⟩ | ⟨hnonempty, hclass⟩
        · rfl
        · rw [List.map_cons, List.getLast?_cons, hclass, if_neg hnonempty]
          rfl
      · exact .inr ⟨last, hlast, hcons [_, _] hfailure⟩
  | stop last =>
      cases last with
      | exhausted => exact .inl ⟨rfl, List.forall_mem_nil _⟩
      | committed early unblocked inTime ended => rcases ended with ended | ended <;> cases ended

/-- Only a chain that runs out of candidates has nothing but skips after a failure. -/
theorem exhausted_of_lastFailure {before after : List (EngineEvent μ)} {providerId : String}
    {query : ProviderRequest} {asked : Memory μ} {error : PyException}
    (h : ChainRun request ending candidates blocked lastError trace attempts)
    (htrace : trace =
      before ++ ⟨.dispatch providerId query, asked, .error (.raised error)⟩ :: after)
    (hcontrolled : Routine.isControlled error = true)
    (hafter : ∀ event ∈ after, EngineEvent.IsEarly event) : ending = .exhausted (some error) := by
  induction h generalizing before with
  | skipped early refused later ih =>
      cases before with
      | nil => cases htrace
      | cons first before => exact ih (List.cons.inj htrace).2
  | failed early unblocked controlled later ih =>
      cases before with
      | nil => cases htrace
      | cons first before =>
          obtain ⟨-, htrace⟩ := List.cons.inj htrace
          cases before with
          | nil =>
              cases htrace
              exact (later.exhausted_of_early hafter).1
          | cons second before => exact ih (List.cons.inj htrace).2
  | stop last =>
      have hdispatch : ∀ {events : List (EngineEvent μ)},
          events = before ++ ⟨.dispatch providerId query, asked, .error (.raised error)⟩ :: after →
          (⟨.dispatch providerId query, asked, .error (.raised error)⟩ :
            EngineEvent μ) ∈ events := by
        rintro events rfl
        exact List.mem_append_right before List.mem_cons_self
      have hmem := hdispatch htrace
      cases last with
      | exhausted => cases hmem
      | found late => simp at hmem
      | cancelled early unblocked overtaken => simp at hmem
      | gatewayFailed early unblocked => simp at hmem
      | late early unblocked late => simp at hmem
      | committed early unblocked inTime ended => simp at hmem
      | unexpected early unblocked uncontrolled =>
          simp only [List.mem_cons, List.not_mem_nil, or_false] at hmem
          rcases hmem with hmem | hmem
          · cases hmem
          · cases hmem
            rw [uncontrolled] at hcontrolled
            cases hcontrolled

/-- The entry of an unexpected failure is the last one. -/
theorem getLast?_of_unexpected {error : PyException}
    (h : ChainRun request (.unexpected error) candidates blocked lastError trace attempts) :
    (attempts.map ProviderAttempt.failureClass).getLast? = some (some "UNKNOWN") := by
  induction h with
  | skipped early refused later ih =>
      rw [List.map_cons, List.getLast?_cons, ih]
      rfl
  | failed early unblocked controlled later ih =>
      rw [List.map_cons, List.getLast?_cons, ih]
      rfl
  | stop last =>
      cases last with
      | unexpected early unblocked uncontrolled => rfl
      | committed early unblocked inTime ended => rcases ended with ended | ended <;> cases ended

end ChainRun

/-- What diagnostics for this reason say about the attempts. -/
structure Classed (routers : List RouterAttempt) (providers : List ProviderAttempt)
    (reason : String)
    (diagnostics : RoutingDiagnostics) : Prop where
  routerAttempts : diagnostics.routerAttempts = routers
  fallbackPath : diagnostics.fallbackPath = providers
  failureClass : diagnostics.failureClass =
    if reason = "DEADLINE_EXCEEDED" then some "DEADLINE_EXCEEDED"
    else if reason ≠ "NONE" then
      some ((routers.filterMap RouterAttempt.failureClass ++
        providers.filterMap ProviderAttempt.failureClass).getLast?.getD "UNKNOWN")
    else none

theorem buildDiagnostics_classed {registry : Registry μ} {capture : Capture μ}
    {failure : TerminalFailure} {diagnostics : RoutingDiagnostics}
    (h : buildDiagnostics registry capture failure = some diagnostics) :
    Classed capture.routerAttempts capture.providerAttempts failure.reason diagnostics := by
  have hlast : capture.lastFailureClass =
      (capture.routerAttempts.filterMap RouterAttempt.failureClass ++
        capture.providerAttempts.filterMap ProviderAttempt.failureClass).getLast? := by
    rw [Capture.lastFailureClass, ← List.getLast?_filterMap, List.filterMap_append,
      List.filterMap_map, List.filterMap_map]
    rfl
  rw [buildDiagnostics] at h
  cases hselected : capture.selectedProvider with
  | none =>
      simp only [hselected, Option.some.injEq] at h
      rw [← h]
      exact ⟨rfl, rfl, by rw [← hlast]⟩
  | some providerId =>
      simp only [hselected, Option.map_eq_some_iff] at h
      obtain ⟨provider, -, rfl⟩ := h
      exact ⟨rfl, rfl, by rw [← hlast]⟩

section Classes

variable {trace before : List (EngineEvent μ)} {routers earlier : List RouterAttempt}
  {providers : List ProviderAttempt} {error : RoutingEngineError} {reason : String}

theorem not_borrowsReason (hexpected : trace.getLast?.bind EngineEvent.unexpected? = none)
    (hdispatched : dispatched trace = []) : ¬ BorrowsReason trace := by
  rintro (⟨error, herror, -⟩ | ⟨before, providerId, request, asked, error, after, rfl, -⟩)
  · rw [hexpected] at herror
    cases herror
  · simp [dispatched, EngineEvent.dispatched?] at hdispatched

/-- Outside any attempt the class is right exactly if nothing is blamed that was recovered from. -/
theorem outside_iff (hreason : reason ≠ "DEADLINE_EXCEEDED" ∧ reason ≠ "NONE")
    (hclassed : Classed routers providers reason error.diagnostics)
    (hclass : endingClass trace error = "UNKNOWN")
    (hsetbacks : setbacks trace = routers.filterMap RouterAttempt.failureClass ++
      providers.filterMap ProviderAttempt.failureClass)
    (houtside : setbacks trace = [] ∨ ∃ event ∈ trace.getLast?, EngineEvent.IsOutside event) :
    error.diagnostics.failureClass = some (endingClass trace error) ↔ ¬ BlamesRecovered trace := by
  rw [hclassed.failureClass, if_neg hreason.1, if_pos hreason.2, hclass, ← hsetbacks,
    Option.some.injEq]
  cases hlast : (setbacks trace).getLast? with
  | none =>
      refine iff_of_true rfl ?_
      rintro ⟨-, class', hclass', -⟩
      rw [hlast] at hclass'
      cases hclass'
  | some last =>
      have houtside' := houtside.resolve_left fun hnil => by rw [hnil] at hlast; cases hlast
      refine ⟨fun hknown hblames => ?_, fun hblames => ?_⟩
      · obtain ⟨-, class', hclass', hne⟩ := hblames
        rw [hlast] at hclass'
        cases hclass'
        exact hne hknown
      · by_contra hne
        exact hblames ⟨houtside', last, hlast, hne⟩

theorem endingClass_of_expected (hexpected : trace.getLast?.bind EngineEvent.unexpected? = none) :
    endingClass trace error = classOfKind error.diagnostics error.kind := by
  rw [endingClass, hexpected]
  rfl

theorem lastClass_of_getLast? {classes : List (Option String)} {last : String}
    (h : classes.getLast? = some (some last)) : lastClass classes = last := by
  rw [lastClass, h]
  rfl

/-- The scan stops at the last entry if that has a class. -/
theorem getLast?_classes {last : String}
    (h : (providers.map ProviderAttempt.failureClass).getLast? = some (some last)) :
    (routers.filterMap RouterAttempt.failureClass ++
      providers.filterMap ProviderAttempt.failureClass).getLast? = some last := by
  rw [List.getLast?_map] at h
  obtain ⟨attempt, hattempt, hclass⟩ := Option.map_eq_some_iff.mp h
  obtain ⟨before, rfl⟩ := List.getLast?_eq_some_iff.mp hattempt
  have hlast : [attempt].filterMap ProviderAttempt.failureClass = [last] := by
    rw [List.filterMap_cons_some hclass, List.filterMap_nil]
  rw [List.filterMap_append, hlast, ← List.append_assoc]
  exact List.getLast?_concat

/-- The call ends before its next ladder. -/
theorem Preamble.class_iff {ending : HandleEnding μ} (h : Preamble before earlier)
    (hunasked : ending.Unasked) (hfailing : ending.failing? = some (error.kind, reason))
    (hclassed : Classed earlier [] reason error.diagnostics) :
    error.diagnostics.failureClass = some (endingClass before error) ↔
      ¬ BlamesRecovered before ∧ ¬ BorrowsReason before := by
  have hexpected := h.expected
  have hsetbacks : setbacks before = earlier.filterMap RouterAttempt.failureClass ++
      ([] : List ProviderAttempt).filterMap ProviderAttempt.failureClass := by
    have hnil : ∀ event ∈ ([] : List (EngineEvent μ)).head?, event.IsLoopTime = false :=
      fun event hevent => by cases hevent
    have happend := h.setbacks_append hnil
    rwa [List.append_nil] at happend
  have houtside : setbacks before = [] ∨
      ∃ event ∈ before.getLast?, EngineEvent.IsOutside event := by
    rcases h.getLast?_outside with rfl | houtside
    · exact .inl hsetbacks
    · exact .inr houtside
  have hends : (reason ≠ "DEADLINE_EXCEEDED" ∧ reason ≠ "NONE") ∧
      classOfKind error.diagnostics error.kind = "UNKNOWN" := by
    cases ending with
    | settled => cases hfailing
    | ladderFailed | ladderCancelled byDeadline | chain ending => cases hunasked
    | imageMissing | denied =>
        obtain ⟨hkind, rfl⟩ := Prod.mk.inj (Option.some.inj hfailing)
        exact ⟨by decide, by rw [← hkind]; rfl⟩
    | unresolved unresolved =>
        have hunexpected : failingOf unresolved = (.internalError, "UNKNOWN") := if_neg hunasked
        rw [HandleEnding.failing?, hunexpected] at hfailing
        obtain ⟨hkind, rfl⟩ := Prod.mk.inj (Option.some.inj hfailing)
        exact ⟨by decide, by rw [← hkind]; rfl⟩
  rw [and_iff_left (not_borrowsReason hexpected h.dispatched_eq_nil)]
  exact outside_iff hends.1 hclassed ((endingClass_of_expected hexpected).trans hends.2) hsetbacks
    houtside

/-- The class of a deadline is its own. -/
theorem failureClass_of_deadline {ending : HandleEnding μ}
    (hdeadline : ending.failing? = some deadlineFailure)
    (hfailing : ending.failing? = some (error.kind, reason))
    (hclassed : Classed routers providers reason error.diagnostics)
    (hexpected : trace.getLast?.bind EngineEvent.unexpected? = none) :
    error.diagnostics.failureClass = some (endingClass trace error) := by
  rw [hdeadline] at hfailing
  obtain ⟨hkind, rfl⟩ := Prod.mk.inj (Option.some.inj hfailing)
  rw [hclassed.failureClass, endingClass_of_expected hexpected, ← hkind]
  rfl

theorem not_blamesRecovered (h : ∀ event ∈ trace.getLast?, ¬ EngineEvent.IsOutside event) :
    ¬ BlamesRecovered trace := by
  rintro ⟨⟨event, hevent, houtside⟩, -⟩
  exact h event hevent houtside

/-- The call ends with its ladder. -/
theorem LadderRun.class_iff {ladderEnding : LadderEnding} {ending : HandleEnding μ}
    {request : RouterRequest} {refused : List Backend} (preamble : Preamble before earlier)
    (h : LadderRun request ladderEnding [.primaryRouter, .fallbackRouter] trace routers refused)
    (hended : ending = ladderEnding.ends) (hfailing : ending.failing? = some (error.kind, reason))
    (hclassed : Classed (earlier ++ routers) [] reason error.diagnostics) :
    error.diagnostics.failureClass = some (endingClass (before ++ trace) error) ↔
      ¬ BlamesRecovered (before ++ trace) ∧ ¬ BorrowsReason (before ++ trace) := by
  have hdispatched : dispatched (before ++ trace) = [] := by
    rw [dispatched_append, preamble.dispatched_eq_nil, h.dispatched_eq_nil]
    rfl
  subst hended
  cases ladderEnding with
  | decided decision => cases hfailing
  | cancelled byDeadline =>
      obtain ⟨resumed, now, hlast⟩ := h.getLast?_of_cancelled
      have hlast' : (before ++ trace).getLast? = some ⟨.loopTime, resumed, now⟩ := by
        rw [List.getLast?_append, hlast]
        rfl
      have hexpected : (before ++ trace).getLast?.bind EngineEvent.unexpected? = none := by
        rw [hlast']
        rfl
      have hinside : ∀ event ∈ (before ++ trace).getLast?, ¬ EngineEvent.IsOutside event := by
        rw [hlast']
        rintro event ⟨⟩
        exact id
      cases byDeadline with
      | false => cases hfailing
      | true =>
          exact iff_of_true (failureClass_of_deadline rfl hfailing hclassed hexpected)
            ⟨not_blamesRecovered hinside, not_borrowsReason hexpected hdispatched⟩
  | exhausted =>
      obtain ⟨first, second, asked, reply, rfl, hlast, hjudged⟩ := h.of_exhausted
      have hlast' : (before ++ trace).getLast? =
          some ⟨.decide .fallbackRouter request, asked, reply⟩ := by
        rw [List.getLast?_append, hlast]
        rfl
      have hexpected : (before ++ trace).getLast?.bind EngineEvent.unexpected? = none := by
        rw [hlast']
        rfl
      have hinside : ∀ event ∈ (before ++ trace).getLast?, ¬ EngineEvent.IsOutside event := by
        rw [hlast']
        rintro event ⟨⟩ ⟨decision, hdecision⟩
        rw [hjudged] at hdecision
        cases hdecision
      refine iff_of_true ?_
        ⟨not_blamesRecovered hinside, not_borrowsReason hexpected hdispatched⟩
      obtain ⟨hkind, rfl⟩ := Prod.mk.inj (Option.some.inj hfailing)
      have hscan : (earlier ++ [RouterTier.primaryRouter.failedAttempt first,
          RouterTier.fallbackRouter.failedAttempt second]).filterMap RouterAttempt.failureClass =
            (earlier.filterMap RouterAttempt.failureClass ++ [failureClass first]) ++
              [failureClass second] := by
        rw [List.filterMap_append, List.append_assoc]
        rfl
      have hfallback : (((earlier ++ [RouterTier.primaryRouter.failedAttempt first,
          RouterTier.fallbackRouter.failedAttempt second]).filter fun attempt =>
            decide (attempt.router = .fallbackRouter)).map RouterAttempt.failureClass).getLast? =
              some (some (failureClass second)) := by
        rw [List.filter_append, List.map_append, List.getLast?_append]
        rfl
      rw [hclassed.failureClass, endingClass_of_expected hexpected, ← hkind, classOfKind,
        hclassed.routerAttempts, lastClass_of_getLast? hfallback, hscan, List.filterMap_nil,
        List.append_nil, List.getLast?_concat]
      rfl

/-- A dispatch comes after what dispatches nothing. -/
theorem split_of_undispatched {rest before' after : List (EngineEvent μ)} {event : EngineEvent μ}
    (hbefore : dispatched before = []) (hevent : event.dispatched? ≠ none)
    (h : before ++ rest = before' ++ event :: after) :
    ∃ later, before' = before ++ later ∧ rest = later ++ event :: after := by
  rcases List.append_eq_append_iff.mp h with ⟨later, hsplit, hrest⟩ | ⟨later, hsplit, hrest⟩
  · exact ⟨later, hsplit, hrest⟩
  · cases later with
    | nil => exact ⟨[], by rw [hsplit, List.append_nil, List.append_nil], hrest.symm⟩
    | cons first later =>
        obtain ⟨rfl, -⟩ := List.cons.inj hrest
        rw [hsplit, dispatched_append, dispatched, dispatched] at hbefore
        have hnone := (List.append_eq_nil_iff.mp hbefore).2
        rw [List.filterMap_eq_nil_iff] at hnone
        exact (hevent (hnone event List.mem_cons_self)).elim

/-- A trace has one last dispatch. -/
theorem eq_of_last_dispatch {before' after after' : List (EngineEvent μ)}
    {event event' : EngineEvent μ} (h : before ++ event :: after = before' ++ event' :: after')
    (hafter : dispatched after = []) (hafter' : dispatched after' = [])
    (hevent : event.dispatched? ≠ none) (hevent' : event'.dispatched? ≠ none) : after = after' := by
  have hreverse : ∀ {events : List (EngineEvent μ)}, dispatched events = [] →
      dispatched events.reverse = [] := by
    intro events hnone
    rw [dispatched, List.filterMap_reverse, ← dispatched, hnone]
    rfl
  have hsame : after.reverse ++ event :: before.reverse =
      after'.reverse ++ event' :: before'.reverse := by
    simpa using congrArg List.reverse h
  have heq := (eq_of_first_dispatch hsame (hreverse hafter) (hreverse hafter') hevent hevent').1
  exact List.reverse_injective heq

theorem dispatched_eq_nil_of_early (h : ∀ event ∈ trace, EngineEvent.IsEarly event) :
    dispatched trace = [] := by
  rw [dispatched_eq_nil_iff]
  intro event hevent
  obtain ⟨resumed, now, rfl, -⟩ := h event hevent
  rfl

section Chain

variable {query : ProviderRequest} {candidates : List (ProviderConfig μ)} {blocked : List Backend}
  {lastError : Option PyException} {ending : ChainEnding μ} {rest : List (EngineEvent μ)}

theorem ChainRun.unexpected?_getLast?
    (h : ChainRun query ending candidates blocked lastError rest providers) (hrest : rest ≠ [])
    (before : List (EngineEvent μ)) :
    (before ++ rest).getLast?.bind EngineEvent.unexpected? = ending.unexpected? := by
  obtain ⟨event, hevent⟩ := Option.ne_none_iff_exists'.mp (mt List.getLast?_eq_none_iff.mp hrest)
  rw [List.getLast?_append, hevent]
  exact (h.getLast?_tells event hevent).2

/-- Only a chain that ends in the gateway ends outside an attempt. -/
theorem ChainRun.not_blamesRecovered
    (h : ChainRun query ending candidates blocked lastError rest providers) (hrest : rest ≠ [])
    (hgateway : ¬ ending.IsGatewayFailed) (before : List (EngineEvent μ)) :
    ¬ BlamesRecovered (before ++ rest) := by
  obtain ⟨last, hlast⟩ := Option.ne_none_iff_exists'.mp (mt List.getLast?_eq_none_iff.mp hrest)
  apply LLMRouting.not_blamesRecovered
  rw [List.getLast?_append, hlast]
  rintro event ⟨⟩ houtside
  exact hgateway ((h.getLast?_tells last hlast).1.mp houtside)

/-- A chain takes its last failure for the end of the request exactly if it runs out of candidates
with such a failure, or raises a bare time-out. -/
theorem ChainRun.borrowsReason_iff
    (h : ChainRun query ending candidates blocked lastError rest providers)
    (hbefore : dispatched before = []) (hrest : rest ≠ []) :
    BorrowsReason (before ++ rest) ↔ (∃ error ∈ ending.unexpected?, error.kind = .timeoutError) ∨
      ∃ error, ending = .exhausted (some error) ∧ LastFailure query rest providers error ∧
        (error.failureReason = some "NONE" ∨ error.failureReason = some "DEADLINE_EXCEEDED" ∧
          (providers.map ProviderAttempt.failureClass).getLast? ≠
            some (some "DEADLINE_EXCEEDED")) := by
  rw [BorrowsReason, h.unexpected?_getLast? hrest before]
  apply or_congr Iff.rfl
  refine ⟨?_, ?_⟩
  · rintro ⟨before', providerId, request, asked, error, after, htrace, hcontrolled, hafter, hreason⟩
    obtain ⟨later, -, hsplit⟩ :=
      split_of_undispatched hbefore (by simp [EngineEvent.dispatched?]) htrace
    have hending := h.exhausted_of_lastFailure hsplit hcontrolled hafter
    subst hending
    rcases h.lastFailure_of_exhausted with ⟨-, hearly⟩ | ⟨last, hlast, hfailure⟩
    · have hnone := dispatched_eq_nil_of_early hearly
      rw [hsplit] at hnone
      simp [dispatched, EngineEvent.dispatched?] at hnone
    · cases hlast
      refine ⟨error, rfl, hfailure, ?_⟩
      obtain ⟨before₂, providerId₂, asked₂, after₂, hsplit₂, -, hafter₂, hclass⟩ := hfailure
      have hsame := eq_of_last_dispatch (hsplit.symm.trans hsplit₂)
        (dispatched_eq_nil_of_early hafter) (dispatched_eq_nil_of_early hafter₂)
        (by simp [EngineEvent.dispatched?]) (by simp [EngineEvent.dispatched?])
      rw [hclass, ← hsame]
      simpa using hreason
  · rintro ⟨error, -, ⟨before', providerId, asked, after, rfl, hcontrolled, hafter, hclass⟩,
      hreason⟩
    refine ⟨before ++ before', providerId, query, asked, error, after,
      (List.append_assoc ..).symm, hcontrolled, hafter, ?_⟩
    rw [hclass] at hreason
    simpa using hreason

/-- A chain without a candidate leaves the call where its last router has decided. -/
theorem ChainRun.class_iff_of_nil
    (h : ChainRun query ending candidates blocked none [] providers)
    (hexpected : before.getLast?.bind EngineEvent.unexpected? = none)
    (hbefore : dispatched before = [])
    (hsetbacks : setbacks before = earlier.filterMap RouterAttempt.failureClass)
    (houtside : ∃ event ∈ before.getLast?, EngineEvent.IsOutside event)
    (hfailing : ending.failing? = some (error.kind, reason))
    (hclassed : Classed earlier providers reason error.diagnostics) :
    error.diagnostics.failureClass = some (endingClass before error) ↔
      ¬ BlamesRecovered before ∧ ¬ BorrowsReason before := by
  obtain ⟨-, rfl⟩ | hhead := h.head?_isLoopTime
  · have hattempts : providers = [] := by
      obtain ⟨-, hnil⟩ | ⟨hne, -⟩ := (h.exhausted_of_early (List.forall_mem_nil _)).2
      · exact hnil
      · exact (hne rfl).elim
    subst hattempts
    obtain ⟨hkind, rfl⟩ := Prod.mk.inj (Option.some.inj hfailing)
    have hclass : endingClass before error = "UNKNOWN" := by
      rw [endingClass_of_expected hexpected, ← hkind, classOfKind, hclassed.fallbackPath]
      rfl
    rw [and_iff_left (not_borrowsReason hexpected hbefore)]
    apply outside_iff (by decide) hclassed hclass _ (.inr houtside)
    rw [hsetbacks, List.filterMap_nil, List.append_nil]
  · cases hhead

/-- A chain that the deadline ends. -/
theorem ChainRun.class_iff_of_deadline
    (h : ChainRun query ending candidates blocked none rest providers)
    (hbefore : dispatched before = []) (hrest : rest ≠ [])
    (hdeadline : ending.failing? = some deadlineFailure) (hnone : ending.unexpected? = none)
    (hgateway : ¬ ending.IsGatewayFailed) (hexhausted : ∀ error, ending ≠ .exhausted error)
    (hfailing : ending.failing? = some (error.kind, reason))
    (hclassed : Classed routers providers reason error.diagnostics) :
    error.diagnostics.failureClass = some (endingClass (before ++ rest) error) ↔
      ¬ BlamesRecovered (before ++ rest) ∧ ¬ BorrowsReason (before ++ rest) := by
  have hexpected := (h.unexpected?_getLast? hrest before).trans hnone
  have hchain : (HandleEnding.chain ending).failing? = some deadlineFailure := hdeadline
  have hkept : ¬ BorrowsReason (before ++ rest) := by
    rw [h.borrowsReason_iff hbefore hrest, hnone]
    rintro (⟨error, hmem, -⟩ | ⟨error, hending, -⟩)
    · cases hmem
    · exact hexhausted _ hending
  exact iff_of_true (failureClass_of_deadline hchain hfailing hclassed hexpected)
    ⟨h.not_blamesRecovered hrest hgateway before, hkept⟩

/-- A chain whose answer the gateway fails on. -/
theorem ChainRun.class_iff_of_gatewayFailed {candidate : ProviderConfig μ}
    (h : ChainRun query (.gatewayFailed candidate) candidates blocked none rest providers)
    (hbefore : dispatched before = []) (hrest : rest ≠ [])
    (hsetbacks : setbacks (before ++ rest) =
      routers.filterMap RouterAttempt.failureClass ++ setbacks rest)
    (hfailing : (ChainEnding.gatewayFailed candidate : ChainEnding μ).failing? =
      some (error.kind, reason))
    (hclassed : Classed routers providers reason error.diagnostics) :
    error.diagnostics.failureClass = some (endingClass (before ++ rest) error) ↔
      ¬ BlamesRecovered (before ++ rest) ∧ ¬ BorrowsReason (before ++ rest) := by
  obtain ⟨last, hlast⟩ := Option.ne_none_iff_exists'.mp (mt List.getLast?_eq_none_iff.mp hrest)
  have houtside : ∃ event ∈ (before ++ rest).getLast?, EngineEvent.IsOutside event := by
    refine ⟨last, ?_, (h.getLast?_tells last hlast).1.mpr trivial⟩
    rw [List.getLast?_append, hlast]
    rfl
  obtain ⟨hkind, rfl⟩ := Prod.mk.inj (Option.some.inj hfailing)
  have hclass : endingClass (before ++ rest) error = "UNKNOWN" := by
    rw [endingClass_of_expected (h.unexpected?_getLast? hrest before), ← hkind]
    rfl
  have hkept : ¬ BorrowsReason (before ++ rest) := by
    rw [h.borrowsReason_iff hbefore hrest]
    rintro (⟨error, hmem, -⟩ | ⟨error, hending, -⟩)
    · cases hmem
    · cases hending
  rw [h.setbacks_of_gatewayFailed] at hsetbacks
  rw [and_iff_left hkept]
  exact outside_iff (by decide) hclassed hclass hsetbacks (.inr houtside)

/-- A chain that an exception ends takes only a bare time-out for the end of the request. -/
theorem ChainRun.class_iff_of_unexpected {raised : PyException}
    (h : ChainRun query (.unexpected raised) candidates blocked none rest providers)
    (hbefore : dispatched before = []) (hrest : rest ≠ [])
    (hfailing : (ChainEnding.unexpected raised : ChainEnding μ).failing? =
      some (error.kind, reason))
    (hclassed : Classed routers providers reason error.diagnostics) :
    error.diagnostics.failureClass = some (endingClass (before ++ rest) error) ↔
      ¬ BlamesRecovered (before ++ rest) ∧ ¬ BorrowsReason (before ++ rest) := by
  have hentry := h.getLast?_of_unexpected
  have hborrows := h.borrowsReason_iff hbefore hrest
  have hclass : endingClass (before ++ rest) error = "UNKNOWN" := by
    rw [endingClass, h.unexpected?_getLast? hrest before, hclassed.fallbackPath,
      lastClass_of_getLast? hentry]
    rfl
  rw [hclass, hclassed.failureClass]
  by_cases htimeout : raised.kind = .timeoutError
  · rw [ChainEnding.failing?, failingOf, if_pos htimeout] at hfailing
    obtain ⟨-, rfl⟩ := Prod.mk.inj (Option.some.inj hfailing)
    refine iff_of_false (by simp) fun hkept => hkept.2 ?_
    exact hborrows.mpr (.inl ⟨raised, rfl, htimeout⟩)
  · rw [ChainEnding.failing?, failingOf, if_neg htimeout] at hfailing
    obtain ⟨-, rfl⟩ := Prod.mk.inj (Option.some.inj hfailing)
    have hkept : ¬ BorrowsReason (before ++ rest) := by
      rw [hborrows]
      rintro (⟨error, hmem, hkind⟩ | ⟨error, hending, -⟩)
      · cases hmem
        exact htimeout hkind
      · cases hending
    refine iff_of_true ?_ ⟨h.not_blamesRecovered hrest id before, hkept⟩
    rw [getLast?_classes hentry]
    rfl

/-- A chain that has run out of candidates takes a reason of the engine's own for the end of the
request. -/
theorem ChainRun.borrowsReason_of_lastFailure {failure : PyException} {entry : String}
    (h : ChainRun query (.exhausted (some failure)) candidates blocked none rest providers)
    (hbefore : dispatched before = []) (hrest : rest ≠ [])
    (hfailure : LastFailure query rest providers failure)
    (hentry : (providers.map ProviderAttempt.failureClass).getLast? = some (some entry)) :
    BorrowsReason (before ++ rest) ↔ failure.failureReason = some "NONE" ∨
      failure.failureReason = some "DEADLINE_EXCEEDED" ∧ entry ≠ "DEADLINE_EXCEEDED" := by
  rw [h.borrowsReason_iff hbefore hrest, hentry]
  constructor
  · rintro (⟨error, hmem, -⟩ | ⟨error, hending, -, hreason⟩)
    · cases hmem
    · cases hending
      simpa using hreason
  · intro hreason
    exact .inr ⟨failure, rfl, hfailure, by simpa using hreason⟩

/-- A chain that has run out of candidates. -/
theorem ChainRun.class_iff_of_exhausted {lastError : Option PyException}
    (h : ChainRun query (.exhausted lastError) candidates blocked none rest providers)
    (hbefore : dispatched before = []) (hrest : rest ≠ [])
    (hfailing : (ChainEnding.exhausted lastError : ChainEnding μ).failing? =
      some (error.kind, reason))
    (hclassed : Classed routers providers reason error.diagnostics) :
    error.diagnostics.failureClass = some (endingClass (before ++ rest) error) ↔
      ¬ BlamesRecovered (before ++ rest) ∧ ¬ BorrowsReason (before ++ rest) := by
  obtain ⟨hkind, rfl⟩ := Prod.mk.inj (Option.some.inj hfailing)
  have hclass : ∀ {entry : String},
      (providers.map ProviderAttempt.failureClass).getLast? = some (some entry) →
      endingClass (before ++ rest) error = entry := by
    intro entry hentry
    rw [endingClass_of_expected (h.unexpected?_getLast? hrest before), ← hkind, classOfKind,
      hclassed.fallbackPath, lastClass_of_getLast? hentry]
  rw [and_iff_right (h.not_blamesRecovered hrest id before)]
  obtain ⟨rfl, hearly⟩ | ⟨failure, rfl, hfailure⟩ := h.lastFailure_of_exhausted
  · have hentry := ((h.exhausted_of_early hearly).2.resolve_left fun hnil => hrest hnil.1).2
    refine iff_of_true ?_ ?_
    · rw [hclass hentry, hclassed.failureClass, getLast?_classes hentry]
      rfl
    · rw [h.borrowsReason_iff hbefore hrest]
      rintro (⟨error, hmem, -⟩ | ⟨error, hending, -⟩)
      · cases hmem
      · cases hending
  · obtain ⟨entry, hentry⟩ : ∃ entry,
        (providers.map ProviderAttempt.failureClass).getLast? = some (some entry) := by
      obtain ⟨_, _, _, _, -, -, -, hentry⟩ := hfailure
      exact ⟨_, hentry⟩
    rw [h.borrowsReason_of_lastFailure hbefore hrest hfailure hentry, hclass hentry,
      hclassed.failureClass, getLast?_classes hentry]
    cases hgiven : failure.failureReason with
    | none => simp [hgiven]
    | some given =>
        simp only [Option.bind_some, hgiven, Option.getD_some, Option.some.injEq]
        by_cases hdeadline : given = "DEADLINE_EXCEEDED"
        · simp [hdeadline, eq_comm]
        · by_cases hnone : given = "NONE"
          · simp [hnone]
          · simp [hdeadline, hnone]

/-- The call ends with its chain. -/
theorem ChainRun.class_iff {request : RouterRequest} {decision : RouterDecision}
    {refused : List Backend} (preamble : Preamble before earlier)
    (ladder : LadderRun request (.decided decision) [.primaryRouter, .fallbackRouter] trace routers
      refused)
    (h : ChainRun query ending candidates blocked none rest providers)
    (hfailing : ending.failing? = some (error.kind, reason))
    (hclassed : Classed (earlier ++ routers) providers reason error.diagnostics) :
    error.diagnostics.failureClass = some (endingClass (before ++ trace ++ rest) error) ↔
      ¬ BlamesRecovered (before ++ trace ++ rest) ∧ ¬ BorrowsReason (before ++ trace ++ rest) := by
  have hbegun := Preamble.decided preamble ladder
  have hbefore := hbegun.dispatched_eq_nil
  have hsetbacks : setbacks (before ++ trace ++ rest) =
      (earlier ++ routers).filterMap RouterAttempt.failureClass ++ setbacks rest :=
    preamble.setbacks_ladder ladder
  by_cases hrest : rest = []
  · subst hrest
    have houtside : ∃ event ∈ (before ++ trace).getLast?, EngineEvent.IsOutside event := by
      obtain ⟨event, hevent, houtside⟩ := ladder.getLast?_outside
      exact ⟨event, by rw [List.getLast?_append, hevent]; rfl, houtside⟩
    rw [List.append_nil] at hsetbacks ⊢
    rw [setbacks, List.append_nil] at hsetbacks
    exact h.class_iff_of_nil hbegun.expected hbefore hsetbacks houtside hfailing hclassed
  · cases ending with
    | answered candidate clean | unstored candidate => cases hfailing
    | late candidate | deadlineFound =>
        exact h.class_iff_of_deadline hbefore hrest rfl rfl id
          (fun error hending => by cases hending) hfailing hclassed
    | cancelled byDeadline =>
        cases byDeadline with
        | false => cases hfailing
        | true =>
            exact h.class_iff_of_deadline hbefore hrest rfl rfl id
              (fun error hending => by cases hending) hfailing hclassed
    | gatewayFailed candidate =>
        exact h.class_iff_of_gatewayFailed hbefore hrest hsetbacks hfailing hclassed
    | unexpected raised => exact h.class_iff_of_unexpected hbefore hrest hfailing hclassed
    | exhausted lastError => exact h.class_iff_of_exhausted hbefore hrest hfailing hclassed

end Chain

theorem LastLeg.class_iff {ending : HandleEnding μ} (h : LastLeg ending trace routers providers)
    (hfailing : ending.failing? = some (error.kind, reason))
    (hclassed : Classed routers providers reason error.diagnostics) :
    error.diagnostics.failureClass = some (endingClass trace error) ↔
      ¬ BlamesRecovered trace ∧ ¬ BorrowsReason trace := by
  cases h with
  | unasked preamble unasked => exact preamble.class_iff unasked hfailing hclassed
  | ladder preamble ladder ended => exact ladder.class_iff preamble ended hfailing hclassed
  | chain preamble ladder chain ended =>
      subst ended
      exact chain.class_iff preamble ladder hfailing hclassed

/-- The class a failing call reports is that of the failure that ended it, exactly if it does not
blame a failure it has recovered from, nor take a last failure for the end of the request. -/
theorem failureClass_iff [Metric μ] {rely : Memory μ → Memory μ → Prop} {engine : RoutingEngine}
    {call : HandleCall} {m m' : Memory μ} (hrely : LeavesOwn rely)
    (hrun : Coro.Run rely (Routine.handle engine call) m trace m' (.error (.routing error))) :
    error.diagnostics.failureClass = some (endingClass trace error) ↔
      ¬ BlamesRecovered trace ∧ ¬ BorrowsReason trace := by
  obtain ⟨now, rest, ending, routers, providers, rfl, hroute, hledger, hconcludes, -⟩ :=
    Coro.wp_sound (handle_routes hrely) hrun
  obtain ⟨failure, hbuilt, hfailing⟩ := hconcludes.failed error rfl
  have hclassed := buildDiagnostics_classed hbuilt
  have hrouters : m'.own.routerAttempts = routers := hledger.routerAttempts
  have hproviders : m'.own.providerAttempts = providers := hledger.providerAttempts
  rw [hrouters, hproviders] at hclassed
  exact (hroute.lastLeg .begun).class_iff hfailing hclassed

end Classes

/-- The engine's error a call ends in. -/
def engineError? : Except Raised RoutingResponse → Option RoutingEngineError
  | .error (.routing error) => some error
  | _ => none

theorem eq_of_engineError? {out : Except Raised RoutingResponse} {error : RoutingEngineError}
    (h : engineError? out = some error) : out = .error (.routing error) := by
  cases out with
  | ok response => cases h
  | error raised =>
      cases raised with
      | routing error' =>
          cases h
          rfl
      | conversationNotFound conversationId | policyNotFound policyId | cancelled byDeadline
      | exception error' => cases h

/-- Both routers are down. -/
def routersDown : Coro.Oracle engineInterface :=
  answering (fun _ => .error (.raised { kind := .routerUnavailable, httpStatus := some 503 }))
    (fun _ => .ok "text") .ok

theorem failureClass_iff_routersDown : ∃ error,
    (developerRun reserve routersDown).2.2 = .error (.routing error) ∧
      error.diagnostics.failureClass =
        some (endingClass (developerRun reserve routersDown).1 error) := by
  have hsome : (engineError? (developerRun reserve routersDown).2.2).isSome = true := by
    decide +kernel
  obtain ⟨error, herror⟩ := Option.isSome_iff_exists.mp hsome
  have hout := eq_of_engineError? herror
  have hrun := run_developer reserve routersDown
  rw [hout] at hrun
  refine ⟨error, hout, (failureClass_iff (fun _ _ h => congrArg Mem.own h.symm) hrun).mpr
    ⟨not_blamesRecovered ?_, not_borrowsReason rfl rfl⟩⟩
  have hfailed : ∀ {request : RouterRequest} {error : PyException} {decision : RouterDecision},
      Routine.judged request (.error (.raised error)) ≠ .ok decision := by
    intro request error decision hdecision
    cases hdecision
  rintro event ⟨⟩ ⟨decision, hdecision⟩
  exact hfailed hdecision

/-- The primary router is unavailable, and in the end the gateway fails. -/
def gatewayDown : Coro.Oracle engineInterface :=
  answering recovering (fun _ => .ok "text") fun _ => .error { kind := .other }

/-- The failure of the gateway is reported under the class of the router's, from which the call had
recovered. -/
theorem recovered_router_blamed :
    Coro.Run Eq (Routine.handle { maxAttempts := 2 } developerCall) (deployment reserve none)
        (developerRun reserve gatewayDown).1 (developerRun reserve gatewayDown).2.1
          (developerRun reserve gatewayDown).2.2 ∧
      ∃ error, (developerRun reserve gatewayDown).2.2 = .error (.routing error) ∧
        error.kind = .gatewayFailure ∧ error.diagnostics.failureClass = some "HTTP_429" ∧
          endingClass (developerRun reserve gatewayDown).1 error = "UNKNOWN" := by
  have hreport : (engineError? (developerRun reserve gatewayDown).2.2).any fun error => decide
      (error.kind = .gatewayFailure ∧ error.diagnostics.failureClass = some "HTTP_429" ∧
        endingClass (developerRun reserve gatewayDown).1 error = "UNKNOWN") := by decide +kernel
  obtain ⟨error, herror, hreport⟩ := (Option.any_eq_true _ _).mp hreport
  exact ⟨run_developer _ _, error, eq_of_engineError? herror, of_decide_eq_true hreport⟩

end LLMRouting
