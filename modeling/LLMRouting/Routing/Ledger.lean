/-
# The record of a provider chain

A chain appends to the fallback path in several places: where it passes a candidate over, where
a dispatch is cancelled (and then for every candidate still to come, if the deadline has
passed), where it fails, and where it answers. `ChainRun` says once what a chain can do, with the
entries it leaves and the way it ends; what holds of every fallback path follows by induction on
it. The capture belongs to the call alone, so its surroundings never touch it.
-/

import LLMRouting.Routing.Rejections

namespace LLMRouting

open LLMRouting.Interaction

variable {μ : Type}

/-- The surroundings leave a call's capture alone. -/
def LeavesOwn (rely : Memory μ → Memory μ → Prop) : Prop := ∀ m m', rely m m' → m'.own = m.own

theorem Surroundings.leavesOwn {exclusive : Prop} {allowed : Set (Registry μ)} {call : HandleCall} :
    LeavesOwn (Surroundings exclusive allowed call) :=
  fun _ _ h => h.own_eq

section Own

open Routine

variable {rely : Memory μ → Memory μ → Prop} {m : Memory μ} {α β : Type}
  {post : List (EngineEvent μ) → Memory μ → Except Raised β → Prop}

theorem askProvider_bind_own {providerId : String} {request : ProviderRequest}
    {next : Except Interruption String → Routine μ β} (hrely : LeavesOwn rely)
    (h : ∀ reply m', m'.own = m.own → (next reply).wp (Contract.relying rely)
      (fun rest => post (⟨.dispatch providerId request, m, reply⟩ :: rest)) m') :
    (askProvider providerId request >>= next).wp (Contract.relying rely) post m := by
  rw [Coro.wp_bind]
  refine ⟨fun _ => trivial, fun reply m' hm' => h reply m' (hrely m m' ?_)⟩
  simpa [Coro.Resumes, Contract.relying] using hm'

theorem askRouter_bind_own {tier : RouterTier} {request : RouterRequest}
    {next : Except Interruption RawDecision → Routine μ β} (hrely : LeavesOwn rely)
    (h : ∀ reply m', m'.own = m.own → (next reply).wp (Contract.relying rely)
      (fun rest => post (⟨.decide tier request, m, reply⟩ :: rest)) m') :
    (askRouter tier request >>= next).wp (Contract.relying rely) post m := by
  rw [Coro.wp_bind]
  refine ⟨fun _ => trivial, fun reply m' hm' => h reply m' (hrely m m' ?_)⟩
  simpa [Coro.Resumes, Contract.relying] using hm'

/-- An error of the engine with the diagnostics of the memory it is raised in, unless they
cannot be built. -/
inductive Diagnosed (m : Memory μ) (kind : RoutingErrorKind) (failure : TerminalFailure) :
    Except Raised α → Prop
  | built {diagnostics : RoutingDiagnostics}
      (built : buildDiagnostics m.shared.registry m.own failure = some diagnostics) :
      Diagnosed m kind failure (.error (.routing ⟨kind, diagnostics⟩))
  | unbuilt (unbuilt : buildDiagnostics m.shared.registry m.own failure = none) :
      Diagnosed m kind failure (.error (.exception { kind := .unknownProvider }))

theorem fail_diagnosed {kind : RoutingErrorKind} {failure : TerminalFailure}
    {c : Contract (Memory μ)} :
    (fail (α := α) kind failure).wp c
      (fun trace m' out => trace = [] ∧ m' = m ∧ Diagnosed m kind failure out) m := by
  rw [fail]
  apply Discipline.memory_bind
  cases hbuilt : buildDiagnostics m.shared.registry m.own failure with
  | some diagnostics => exact ⟨rfl, rfl, .built hbuilt⟩
  | none => exact ⟨rfl, rfl, .unbuilt hbuilt⟩

/-- A note that is made only once the deadline has passed. -/
theorem deadlinePassed_note_bind {update : Capture μ → Capture μ} {next : Routine μ α}
    {post : List (EngineEvent μ) → Memory μ → Except Raised α → Prop}
    (late : ∀ now, m.own.deadline ≤ now → next.wp (Contract.relying rely)
      (fun rest => post (⟨.loopTime, m, now⟩ :: rest)) { m with own := update m.own })
    (early : ∀ now, now < m.own.deadline → next.wp (Contract.relying rely)
      (fun rest => post (⟨.loopTime, m, now⟩ :: rest)) m) :
    (deadlinePassed >>= fun late => (if late = true then note update else pure ()) >>=
      fun _ => next).wp (Contract.relying rely) post m := by
  apply Discipline.deadlinePassed_bind
  intro now
  split
  · rename_i hlate
    apply note_bind_relying
    exact late now (of_decide_eq_true hlate)
  · rename_i hpending
    exact early now (lt_of_not_ge fun hlate => hpending (decide_eq_true hlate))

/-- Writing a record back notes it, and does nothing else to the capture. -/
theorem storeState_own {state : ConversationState} {tenantId : String} :
    (storeState state tenantId).wp (Contract.relying rely) (fun trace m' out =>
      trace = [] ∧ m'.own = { m.own with state := some state } ∧
        (out = .ok () ∨ out = .error (.conversationNotFound state.conversationId))) m := by
  rw [storeState, remember, writeBack]
  apply note_bind_relying
  apply Discipline.memory_bind
  cases hupdate : m.shared.conversations.update state tenantId with
  | some conversations =>
      exact ⟨trivial, rfl, rfl, .inl rfl⟩
  | none =>
      exact ⟨rfl, rfl, .inr rfl⟩

end Own

/-- The entry for a candidate that failed in a controlled way. -/
def ProviderConfig.failedAttempt (candidate : ProviderConfig μ) (error : PyException) :
    ProviderAttempt :=
  { candidate.attempt .failed (some (failureClass error)) with
    failureReason := some (error.failureReason.getD "UNKNOWN")
    failureScope := some (error.failureScope.getD .nonTransient)
    upstreamStatus := error.httpStatus }

/-- The entry says that the candidate failed in a controlled way: only such a failure has a
reason. -/
def ProviderAttempt.isControlled (attempt : ProviderAttempt) : Bool :=
  attempt.failureReason.isSome

/-- How a chain ends: with an answer, with an answer that the gateway or the deadline or the
store does not let through, without candidates left, with the deadline found by the loop, with
a dispatch that was cancelled, or with one that failed unexpectedly. -/
inductive ChainEnding (μ : Type)
  | answered (candidate : ProviderConfig μ) (clean : String)
  | unstored (candidate : ProviderConfig μ)
  | late (candidate : ProviderConfig μ)
  | gatewayFailed (candidate : ProviderConfig μ)
  | exhausted (lastError : Option PyException)
  | deadlineFound
  | cancelled (byDeadline : Bool)
  | unexpected (error : PyException)

namespace ChainEnding

/-- The candidate whose dispatch returned a response. -/
def responder? : ChainEnding μ → Option (ProviderConfig μ)
  | .answered candidate _ | .unstored candidate | .late candidate | .gatewayFailed candidate =>
      some candidate
  | .exhausted _ | .deadlineFound | .cancelled _ | .unexpected _ => none

/-- The deadline has ended the chain before any candidate responded. -/
def byDeadline : ChainEnding μ → Bool
  | .deadlineFound => true
  | .cancelled byDeadline => byDeadline
  | _ => false

/-- What the chain returns or raises. -/
def Yields (state : ConversationState) (m' : Memory μ) (out : Except Raised RoutingResponse) :
    ChainEnding μ → Prop
  | .answered _ clean =>
      out = .ok { conversationId := state.conversationId, action := .answer, response := clean }
  | .unstored _ => out = .error (.conversationNotFound state.conversationId)
  | .late _ => out = .error (.exception { kind := .timeoutError })
  | .gatewayFailed _ =>
      Diagnosed m' .gatewayFailure
        { level := some "gateway", stage := .gateway, reason := "UNKNOWN" } out
  | .exhausted lastError =>
      Diagnosed m' .providerUnavailable
        { level := some "provider", stage := .provider
          reason := (lastError.bind PyException.failureReason).getD "NO_ELIGIBLE_PROVIDER"
          upstreamStatus := lastError.bind PyException.httpStatus } out
  | .deadlineFound => out = .error (.exception { kind := .timeoutError })
  | .cancelled byDeadline => out = .error (.cancelled byDeadline)
  | .unexpected error => out = .error (.exception error)

end ChainEnding

/-- The entries of candidates that the deadline has overtaken. -/
def overtakenAttempts (pending : List (ProviderConfig μ)) : List ProviderAttempt :=
  pending.map fun provider => provider.attempt .skippedDeadline (some "DEADLINE_EXCEEDED")

/-- The last iteration of a chain: what it asks, the entries it leaves, and how it ends. -/
inductive ChainStop (request : ProviderRequest) (blocked : List Backend)
    (lastError : Option PyException) : List (ProviderConfig μ) → List (EngineEvent μ) →
      List ProviderAttempt → ChainEnding μ → Prop
  | exhausted : ChainStop request blocked lastError [] [] [] (.exhausted lastError)
  | found {candidate : ProviderConfig μ} {rest : List (ProviderConfig μ)}
      {asked : Memory μ} {now : ℚ} (late : asked.own.deadline ≤ now) :
      ChainStop request blocked lastError (candidate :: rest) [⟨.loopTime, asked, now⟩] []
        .deadlineFound
  | cancelled {candidate : ProviderConfig μ} {rest : List (ProviderConfig μ)}
      {asked dispatched resumed noted : Memory μ} {now first second : ℚ} {byDeadline : Bool}
      {later : List ProviderAttempt} (early : now < asked.own.deadline)
      (unblocked : candidate.backend ∉ blocked)
      (overtaken : noted.own.deadline ≤ second ∧ later = overtakenAttempts rest ∨
        second < noted.own.deadline ∧ later = []) :
      ChainStop request blocked lastError (candidate :: rest)
        [⟨.loopTime, asked, now⟩,
          ⟨.dispatch candidate.id request, dispatched, .error (.cancelled byDeadline)⟩,
          ⟨.loopTime, resumed, first⟩, ⟨.loopTime, noted, second⟩]
        (candidate.attempt .cancelled (some (if decide (resumed.own.deadline ≤ first) then
            "DEADLINE_EXCEEDED" else "CANCELLED")) :: later)
        (.cancelled byDeadline)
  | unexpected {candidate : ProviderConfig μ} {rest : List (ProviderConfig μ)}
      {asked dispatched : Memory μ} {now : ℚ} {error : PyException}
      (early : now < asked.own.deadline) (unblocked : candidate.backend ∉ blocked)
      (uncontrolled : Routine.isControlled error = false) :
      ChainStop request blocked lastError (candidate :: rest)
        [⟨.loopTime, asked, now⟩,
          ⟨.dispatch candidate.id request, dispatched, .error (.raised error)⟩]
        [candidate.attempt .failed (some "UNKNOWN")] (.unexpected error)
  | gatewayFailed {candidate : ProviderConfig μ} {rest : List (ProviderConfig μ)}
      {asked dispatched processed : Memory μ} {now : ℚ} {text : String} {error : PyException}
      (early : now < asked.own.deadline) (unblocked : candidate.backend ∉ blocked) :
      ChainStop request blocked lastError (candidate :: rest)
        [⟨.loopTime, asked, now⟩, ⟨.dispatch candidate.id request, dispatched, .ok text⟩,
          ⟨.process text, processed, .error error⟩]
        [candidate.attempt .success none] (.gatewayFailed candidate)
  | late {candidate : ProviderConfig μ} {rest : List (ProviderConfig μ)}
      {asked dispatched processed : Memory μ} {now later : ℚ} {text clean : String}
      (early : now < asked.own.deadline) (unblocked : candidate.backend ∉ blocked)
      (late : processed.own.deadline ≤ later) :
      ChainStop request blocked lastError (candidate :: rest)
        [⟨.loopTime, asked, now⟩, ⟨.dispatch candidate.id request, dispatched, .ok text⟩,
          ⟨.process text, processed, .ok clean⟩, ⟨.loopTime, processed, later⟩]
        [candidate.attempt .success none] (.late candidate)
  | committed {candidate : ProviderConfig μ} {rest : List (ProviderConfig μ)}
      {asked dispatched processed : Memory μ} {now later : ℚ} {text clean : String}
      {ending : ChainEnding μ} (early : now < asked.own.deadline)
      (unblocked : candidate.backend ∉ blocked) (inTime : later < processed.own.deadline)
      (ended : ending = .answered candidate clean ∨ ending = .unstored candidate) :
      ChainStop request blocked lastError (candidate :: rest)
        [⟨.loopTime, asked, now⟩, ⟨.dispatch candidate.id request, dispatched, .ok text⟩,
          ⟨.process text, processed, .ok clean⟩, ⟨.loopTime, processed, later⟩]
        [candidate.attempt .success none] ending

/-- What a chain over the candidates asks and the entries it leaves, on the way to its ending. -/
inductive ChainRun (request : ProviderRequest) (ending : ChainEnding μ) :
    List (ProviderConfig μ) → List Backend → Option PyException → List (EngineEvent μ) →
      List ProviderAttempt → Prop
  | stop {candidates : List (ProviderConfig μ)} {blocked : List Backend}
      {lastError : Option PyException} {trace : List (EngineEvent μ)}
      {attempts : List ProviderAttempt}
      (last : ChainStop request blocked lastError candidates trace attempts ending) :
      ChainRun request ending candidates blocked lastError trace attempts
  | skipped {candidate : ProviderConfig μ} {rest : List (ProviderConfig μ)}
      {blocked : List Backend} {lastError : Option PyException} {asked : Memory μ} {now : ℚ}
      {trace : List (EngineEvent μ)} {attempts : List ProviderAttempt}
      (early : now < asked.own.deadline) (refused : candidate.backend ∈ blocked)
      (later : ChainRun request ending rest blocked lastError trace attempts) :
      ChainRun request ending (candidate :: rest) blocked lastError
        (⟨.loopTime, asked, now⟩ :: trace)
        (candidate.attempt .skippedAuthFailure (some "AUTH") :: attempts)
  | failed {candidate : ProviderConfig μ} {rest : List (ProviderConfig μ)}
      {blocked : List Backend} {lastError : Option PyException} {asked dispatched : Memory μ}
      {now : ℚ} {error : PyException} {trace : List (EngineEvent μ)}
      {attempts : List ProviderAttempt}
      (early : now < asked.own.deadline) (unblocked : candidate.backend ∉ blocked)
      (controlled : Routine.isControlled error = true)
      (later : ChainRun request ending rest
        (if error.blocksBackend then candidate.backend :: blocked else blocked) (some error) trace
          attempts) :
      ChainRun request ending (candidate :: rest) blocked lastError
        (⟨.loopTime, asked, now⟩ ::
          ⟨.dispatch candidate.id request, dispatched, .error (.raised error)⟩ :: trace)
        (candidate.failedAttempt error :: attempts)

/-- What a chain leaves in the capture. -/
structure ChainLedger (m m' : Memory μ) (attempts : List ProviderAttempt) (ending : ChainEnding μ) :
    Prop where
  providerAttempts : m'.own.providerAttempts = m.own.providerAttempts ++ attempts
  routerAttempts : m'.own.routerAttempts = m.own.routerAttempts
  fallbackUsed : m'.own.fallbackUsed =
    (m.own.fallbackUsed || attempts.any ProviderAttempt.isControlled ||
      ending.responder?.isSome && decide (1 < m'.own.providerAttempts.length))
  selectedProvider : m'.own.selectedProvider =
    (ending.responder?.map ProviderConfig.id).or m.own.selectedProvider

section Chain

open Routine

variable {rely : Memory μ → Memory μ → Prop} {m m₁ m' : Memory μ} {state : ConversationState}
  {tenantId : String} {request : ProviderRequest} {candidate : ProviderConfig μ}
  {rest : List (ProviderConfig μ)} {blocked : List Backend} {lastError : Option PyException}

/-- One entry more in front of what the rest of the chain leaves. -/
theorem ChainLedger.cons {attempt : ProviderAttempt} {attempts : List ProviderAttempt}
    {ending : ChainEnding μ} (h : ChainLedger m₁ m' attempts ending)
    (hattempts : m₁.own.providerAttempts = m.own.providerAttempts ++ [attempt])
    (hrouters : m₁.own.routerAttempts = m.own.routerAttempts)
    (hused : m₁.own.fallbackUsed = (m.own.fallbackUsed || attempt.isControlled))
    (hselected : m₁.own.selectedProvider = m.own.selectedProvider) :
    ChainLedger m m' (attempt :: attempts) ending where
  providerAttempts := by
    rw [h.providerAttempts, hattempts, List.append_assoc, List.singleton_append]
  routerAttempts := h.routerAttempts.trans hrouters
  fallbackUsed := by rw [h.fallbackUsed, hused, List.any_cons, Bool.or_assoc m.own.fallbackUsed]
  selectedProvider := by rw [h.selectedProvider, hselected]

/-- Only these notes of the memory it starts in matter to what a chain leaves. -/
theorem ChainLedger.congr {attempts : List ProviderAttempt} {ending : ChainEnding μ}
    (h : ChainLedger m₁ m' attempts ending)
    (hattempts : m₁.own.providerAttempts = m.own.providerAttempts)
    (hrouters : m₁.own.routerAttempts = m.own.routerAttempts)
    (hused : m₁.own.fallbackUsed = m.own.fallbackUsed)
    (hselected : m₁.own.selectedProvider = m.own.selectedProvider) :
    ChainLedger m m' attempts ending where
  providerAttempts := by rw [h.providerAttempts, hattempts]
  routerAttempts := h.routerAttempts.trans hrouters
  fallbackUsed := by rw [h.fallbackUsed, hused]
  selectedProvider := by rw [h.selectedProvider, hselected]

/-- What a chain leaves after the note about a response. -/
theorem ChainLedger.of_answered {ending : ChainEnding μ}
    (hresponder : ending.responder? = some candidate)
    (hattempts : m'.own.providerAttempts =
      m.own.providerAttempts ++ [candidate.attempt .success none])
    (hrouters : m'.own.routerAttempts = m.own.routerAttempts)
    (hused : m'.own.fallbackUsed =
      (m.own.fallbackUsed || decide (1 < m'.own.providerAttempts.length)))
    (hselected : m'.own.selectedProvider = some candidate.id) :
    ChainLedger m m' [candidate.attempt .success none] ending where
  providerAttempts := hattempts
  routerAttempts := hrouters
  fallbackUsed := by
    rw [hused, hresponder]
    simp [ProviderAttempt.isControlled, ProviderConfig.attempt]
  selectedProvider := by
    rw [hselected, hresponder]
    rfl

/-- A chain that stops without a response and without a controlled failure. -/
theorem ChainLedger.of_stopped {attempts : List ProviderAttempt} {ending : ChainEnding μ}
    (hresponder : ending.responder? = none)
    (huncontrolled : ∀ attempt ∈ attempts, attempt.isControlled = false)
    (hattempts : m'.own.providerAttempts = m.own.providerAttempts ++ attempts)
    (hrouters : m'.own.routerAttempts = m.own.routerAttempts)
    (hused : m'.own.fallbackUsed = m.own.fallbackUsed)
    (hselected : m'.own.selectedProvider = m.own.selectedProvider) :
    ChainLedger m m' attempts ending where
  providerAttempts := hattempts
  routerAttempts := hrouters
  fallbackUsed := by
    have hnone : attempts.any ProviderAttempt.isControlled = false :=
      List.any_eq_false.mpr fun attempt hattempt => by simp [huncontrolled attempt hattempt]
    rw [hused, hresponder, hnone]
    simp
  selectedProvider := by
    rw [hselected, hresponder]
    rfl

/-- What the chain does once a candidate has responded. -/
theorem commitAnswer_runs {text : String} :
    (commitAnswer state tenantId candidate text).wp (Contract.relying rely) (fun trace m' out =>
      ∃ ending, (∀ {asked dispatched : Memory μ} {now : ℚ}, now < asked.own.deadline →
          candidate.backend ∉ blocked →
          ChainStop request blocked lastError (candidate :: rest)
            (⟨.loopTime, asked, now⟩ ::
              ⟨.dispatch candidate.id request, dispatched, .ok text⟩ :: trace)
            [candidate.attempt .success none] ending) ∧
        ChainLedger m m' [candidate.attempt .success none] ending ∧
          ending.Yields state m' out) m := by
  rw [commitAnswer]
  apply note_bind_relying
  apply Discipline.askGateway_bind
  intro reply
  cases reply with
  | error error =>
      apply Coro.wp_mono fail_diagnosed
      rintro trace m' out ⟨rfl, rfl, hdiagnosed⟩
      exact ⟨.gatewayFailed candidate, fun early unblocked => .gatewayFailed early unblocked,
        .of_answered rfl rfl rfl rfl rfl, hdiagnosed⟩
  | ok clean =>
      apply Discipline.deadlinePassed_bind
      intro later
      split
      · rename_i hlate
        refine ⟨.late candidate, ?_, .of_answered rfl rfl rfl rfl rfl, rfl⟩
        intro asked dispatched now early unblocked
        exact .late early unblocked (of_decide_eq_true hlate)
      · rename_i hearly
        have hearly' := lt_of_not_ge fun hlate => hearly (decide_eq_true hlate)
        rw [Coro.wp_bind]
        apply Coro.wp_mono storeState_own
        rintro trace m₂ out ⟨rfl, hown, rfl | rfl⟩
        · refine ⟨.answered candidate clean, ?_, ?_, rfl⟩
          · intro asked dispatched now early unblocked
            exact .committed early unblocked hearly' (.inl rfl)
          · exact .of_answered rfl (by rw [hown]; rfl) (by rw [hown]; rfl) (by rw [hown])
              (by rw [hown])
        · refine ⟨.unstored candidate, ?_, ?_, rfl⟩
          · intro asked dispatched now early unblocked
            exact .committed early unblocked hearly' (.inr rfl)
          · exact .of_answered rfl (by rw [hown]; rfl) (by rw [hown]; rfl) (by rw [hown])
              (by rw [hown])

/-- A chain over the candidates that are left. -/
theorem tryCandidates_runs (hrely : LeavesOwn rely) (candidates : List (ProviderConfig μ))
    (blocked : List Backend) (lastError : Option PyException) (m : Memory μ) :
    (tryCandidates request state tenantId candidates blocked lastError).wp (Contract.relying rely)
      (fun trace m' out => ∃ attempts ending,
        ChainRun request ending candidates blocked lastError trace attempts ∧
          ChainLedger m m' attempts ending ∧ ending.Yields state m' out) m := by
  induction candidates generalizing m blocked lastError with
  | nil =>
      rw [tryCandidates]
      apply Coro.wp_mono fail_diagnosed
      rintro trace m' out ⟨rfl, rfl, hdiagnosed⟩
      exact ⟨[], .exhausted lastError, .stop .exhausted,
        .of_stopped rfl (List.forall_mem_nil _) (List.append_nil _).symm rfl rfl rfl, hdiagnosed⟩
  | cons candidate rest ih =>
      rw [tryCandidates]
      apply Discipline.deadlinePassed_bind
      intro now
      split
      · rename_i hlate
        exact ⟨[], .deadlineFound, .stop (.found (of_decide_eq_true hlate)),
          .of_stopped rfl (List.forall_mem_nil _) (List.append_nil _).symm rfl rfl rfl, rfl⟩
      · rename_i hnow
        have hearly := lt_of_not_ge fun hlate => hnow (decide_eq_true hlate)
        split
        · rename_i hrefused
          apply note_bind_relying
          apply Coro.wp_mono (ih blocked lastError _)
          rintro trace m' out ⟨attempts, ending, hrun, hledger, hyields⟩
          exact ⟨_, ending, .skipped hearly hrefused hrun,
            hledger.cons rfl rfl (by simp [ProviderAttempt.isControlled, ProviderConfig.attempt,
              appendAttempts]) rfl, hyields⟩
        · rename_i hunblocked
          apply note_bind_relying
          apply askProvider_bind_own hrely
          intro reply m₁ hown
          -- what the others do during the dispatch does not touch what the chain has noted
          have hfrom : ∀ {m' : Memory μ} {attempts : List ProviderAttempt} {ending : ChainEnding μ},
              ChainLedger m₁ m' attempts ending → ChainLedger m m' attempts ending := fun h =>
            h.congr (by rw [hown]) (by rw [hown]) (by rw [hown]) (by rw [hown])
          rcases reply with (byDeadline | error) | text
          · simp only [noteDispatchCancelled, bind_assoc]
            apply Discipline.deadlinePassed_bind
            intro first
            apply note_bind_relying
            apply deadlinePassed_note_bind
            · intro second hlate
              refine ⟨_, .cancelled byDeadline,
                .stop (.cancelled hearly hunblocked (.inl ⟨hlate, rfl⟩)),
                hfrom (.of_stopped rfl ?_ ?_ rfl rfl rfl), rfl⟩
              · rw [List.forall_mem_cons]
                exact ⟨rfl, List.forall_mem_map.mpr fun _ _ => rfl⟩
              · exact List.append_assoc _ _ _
            · intro second hpending
              exact ⟨_, .cancelled byDeadline,
                .stop (.cancelled hearly hunblocked (.inr ⟨hpending, rfl⟩)),
                hfrom (.of_stopped rfl (List.forall_mem_singleton.mpr rfl) rfl rfl rfl rfl), rfl⟩
          · by_cases hcontrolled : isControlled error = true
            · simp only [hcontrolled, if_true]
              apply note_bind_relying
              apply Coro.wp_mono (ih _ _ _)
              rintro trace m' out ⟨attempts, ending, hrun, hledger, hyields⟩
              refine ⟨_, ending, .failed hearly hunblocked hcontrolled hrun,
                hfrom (hledger.cons rfl rfl ?_ rfl), hyields⟩
              simp [ProviderAttempt.isControlled, ProviderConfig.failedAttempt]
            · simp only [hcontrolled, Bool.false_eq_true, if_false]
              apply note_bind_relying
              exact ⟨_, .unexpected error, .stop (.unexpected hearly hunblocked
                (Bool.eq_false_iff.mpr hcontrolled)),
                hfrom (.of_stopped rfl (List.forall_mem_singleton.mpr rfl) rfl rfl rfl rfl), rfl⟩
          · apply Coro.wp_mono commitAnswer_runs
            rintro trace m' out ⟨ending, hrun, hledger, hyields⟩
            exact ⟨_, ending, .stop (hrun hearly hunblocked), hfrom hledger, hyields⟩

/-- A whole chain. -/
theorem executeWithFallback_runs (hrely : LeavesOwn rely) (candidates : List (ProviderConfig μ)) :
    (executeWithFallback candidates request state tenantId blocked).wp (Contract.relying rely)
      (fun trace m' out => ∃ attempts ending,
        ChainRun request ending candidates blocked none trace attempts ∧
          ChainLedger m m' attempts ending ∧ ending.Yields state m' out) m := by
  cases candidates with
  | nil =>
      show (tryCandidates request state tenantId [] blocked none).wp _ _ m
      exact tryCandidates_runs hrely [] blocked none m
  | cons first rest =>
      rw [executeWithFallback]
      apply note_bind_relying
      apply Coro.wp_mono (tryCandidates_runs hrely (first :: rest) blocked none _)
      rintro trace m' out ⟨attempts, ending, hrun, hledger, hyields⟩
      exact ⟨attempts, ending, hrun, hledger.congr rfl rfl rfl rfl, hyields⟩

end Chain

end LLMRouting
