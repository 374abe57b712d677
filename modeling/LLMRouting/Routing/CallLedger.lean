/-
# The record of a whole call

The ladders of a call's iterations and the chain at its end write into one capture, and the
diagnostics are assembled from it when the call has ended. `RouteRun` says what a call can do, with
the attempts it notes; `CallLedger` says what is then in the capture; and `Concludes` from which
failure its diagnostics are built.
-/

import LLMRouting.ControlPlane.Ranking
import LLMRouting.Routing.FallbackPath

namespace LLMRouting

open LLMRouting.Interaction

variable {μ : Type}

inductive LadderEnding
  | decided (decision : RouterDecision)
  | exhausted
  | cancelled (byDeadline : Bool)

/-- The entry for a tier that failed. -/
def RouterTier.failedAttempt (tier : RouterTier) (error : PyException) : RouterAttempt :=
  { router := tier, outcome := .failed
    failureReason := some (error.failureReason.getD
      (if error.kind = .valueError then "INVALID_DECISION" else "UNKNOWN"))
    failureClass := some (failureClass error)
    upstreamStatus := error.httpStatus }

def RouterAttempt.isFailure (attempt : RouterAttempt) : Bool := decide (attempt.outcome = .failed)

/-- What a ladder over the tiers asks, the entries it leaves, and the backends that refused. -/
inductive LadderRun (request : RouterRequest) (ending : LadderEnding) : List RouterTier →
    List (EngineEvent μ) → List RouterAttempt → List Backend → Prop
  | exhausted (ended : ending = .exhausted) : LadderRun request ending [] [] [] []
  | decided {tier : RouterTier} {rest : List RouterTier} {asked : Memory μ}
      {reply : Except Interruption RawDecision} {decision : RouterDecision}
      (judged : Routine.judged request reply = .ok decision) (ended : ending = .decided decision) :
      LadderRun request ending (tier :: rest) [⟨.decide tier request, asked, reply⟩]
        [{ router := tier, outcome := .success }] []
  | cancelled {tier : RouterTier} {rest : List RouterTier} {asked resumed : Memory μ} {now : ℚ}
      {reply : Except Interruption RawDecision} {byDeadline : Bool}
      (judged : Routine.judged request reply = .error (.cancelled byDeadline))
      (ended : ending = .cancelled byDeadline) :
      LadderRun request ending (tier :: rest)
        [⟨.decide tier request, asked, reply⟩, ⟨.loopTime, resumed, now⟩]
        [{ router := tier, outcome := .cancelled
           failureClass := some (if decide (resumed.own.deadline ≤ now) then
             "DEADLINE_EXCEEDED" else "CANCELLED") }] []
  | failed {tier : RouterTier} {rest : List RouterTier} {asked : Memory μ}
      {reply : Except Interruption RawDecision} {error : PyException}
      {trace : List (EngineEvent μ)} {attempts : List RouterAttempt} {refused : List Backend}
      (judged : Routine.judged request reply = .error (.raised error))
      (later : LadderRun request ending rest trace attempts refused) :
      LadderRun request ending (tier :: rest) (⟨.decide tier request, asked, reply⟩ :: trace)
        (tier.failedAttempt error :: attempts) (Routine.refusedBackend error ++ refused)

/-- What a ladder leaves in the capture. -/
structure LadderLedger (m m' : Memory μ) (attempts : List RouterAttempt) : Prop where
  routerAttempts : m'.own.routerAttempts = m.own.routerAttempts ++ attempts
  fallbackUsed : m'.own.fallbackUsed = (m.own.fallbackUsed || attempts.any RouterAttempt.isFailure)
  providerAttempts : m'.own.providerAttempts = m.own.providerAttempts
  capabilitiesConsidered : m'.own.capabilitiesConsidered = m.own.capabilitiesConsidered
  state : m'.own.state = m.own.state
  selectedProvider : m'.own.selectedProvider = m.own.selectedProvider

/-- What a ladder returns or raises. -/
def LadderEnding.Yields (m' : Memory μ) (blocked : List Backend)
    (out : Except Raised (RouterDecision × List Backend)) : LadderEnding → Prop
  | .decided decision => out = .ok (decision, blocked)
  | .cancelled byDeadline => out = .error (.cancelled byDeadline)
  | .exhausted =>
      Diagnosed m' .routerFailure
        { level := some "router", stage := .fallbackRouter, reason := "ROUTER_CHAIN_EXHAUSTED" } out

section Ladder

open Routine

variable {rely : Memory μ → Memory μ → Prop} {m m₁ m' : Memory μ} {request : RouterRequest}

theorem LadderLedger.refl (m : Memory μ) : LadderLedger m m [] where
  routerAttempts := (List.append_nil _).symm
  fallbackUsed := (Bool.or_false _).symm
  providerAttempts := rfl
  capabilitiesConsidered := rfl
  state := rfl
  selectedProvider := rfl

theorem LadderLedger.trans {attempts attempts' : List RouterAttempt}
    (h : LadderLedger m m₁ attempts) (h' : LadderLedger m₁ m' attempts') :
    LadderLedger m m' (attempts ++ attempts') where
  routerAttempts := by rw [h'.routerAttempts, h.routerAttempts, List.append_assoc]
  fallbackUsed := by rw [h'.fallbackUsed, h.fallbackUsed, List.any_append, Bool.or_assoc]
  providerAttempts := h'.providerAttempts.trans h.providerAttempts
  capabilitiesConsidered := h'.capabilitiesConsidered.trans h.capabilitiesConsidered
  state := h'.state.trans h.state
  selectedProvider := h'.selectedProvider.trans h.selectedProvider

/-- The loop over the tiers that are left. -/
theorem climb_runs (hrely : LeavesOwn rely) (tiers : List RouterTier) (blocked : List Backend)
    (m : Memory μ) :
    (climb request tiers blocked).wp (Contract.relying rely) (fun trace m' out =>
      ∃ attempts refused ending, LadderRun request ending tiers trace attempts refused ∧
        LadderLedger m m' attempts ∧ ending.Yields m' (blocked ++ refused) out) m := by
  induction tiers generalizing m blocked with
  | nil =>
      rw [climb]
      apply Coro.wp_mono fail_diagnosed
      rintro trace m' out ⟨rfl, rfl, hdiagnosed⟩
      exact ⟨[], [], .exhausted, .exhausted rfl, .refl _, hdiagnosed⟩
  | cons tier rest ih =>
      rw [climb]
      apply note_bind_relying
      apply askRouter_bind_own hrely
      intro reply m₁ hown
      have hnoted : ∀ {attempt : RouterAttempt} {m₂ : Memory μ}, LadderLedger m₁ m₂ [attempt] →
          LadderLedger m m₂ [attempt] := by
        intro attempt m₂ h
        exact
          { routerAttempts := by rw [h.routerAttempts, hown]
            fallbackUsed := by rw [h.fallbackUsed, hown]
            providerAttempts := by rw [h.providerAttempts, hown]
            capabilitiesConsidered := by rw [h.capabilitiesConsidered, hown]
            state := by rw [h.state, hown]
            selectedProvider := by rw [h.selectedProvider, hown] }
      cases hjudged : judged request reply with
      | ok decision =>
          apply note_bind_relying
          exact ⟨_, [], .decided decision, .decided hjudged rfl,
            hnoted ⟨rfl, (Bool.or_false _).symm, rfl, rfl, rfl, rfl⟩,
            by rw [List.append_nil]; rfl⟩
      | error interruption =>
          cases interruption with
          | cancelled byDeadline =>
              apply Discipline.deadlinePassed_bind
              intro now
              apply note_bind_relying
              exact ⟨_, [], .cancelled byDeadline, .cancelled hjudged rfl,
                hnoted ⟨rfl, (Bool.or_false _).symm, rfl, rfl, rfl, rfl⟩, rfl⟩
          | raised error =>
              apply note_bind_relying
              apply Coro.wp_mono (ih (blocked ++ refusedBackend error) _)
              rintro trace m' out ⟨attempts, refused, ending, hrun, hledger, hyields⟩
              rw [List.append_assoc] at hyields
              refine ⟨_, _, ending, .failed hjudged hrun, LadderLedger.trans (hnoted ?_) hledger,
                hyields⟩
              exact ⟨rfl, (Bool.or_true _).symm, rfl, rfl, rfl, rfl⟩

/-- The ladder of an iteration. -/
theorem decisionFromLadder_runs (hrely : LeavesOwn rely) (m : Memory μ) :
    (decisionFromLadder request).wp (Contract.relying rely) (fun trace m' out =>
      ∃ attempts refused ending,
        LadderRun request ending [.primaryRouter, .fallbackRouter] trace attempts refused ∧
          LadderLedger m m' attempts ∧ ending.Yields m' refused out) m :=
  climb_runs hrely [.primaryRouter, .fallbackRouter] [] m

end Ladder

/-- How a call ends. The first four ask nobody: the guard or the router stops it, or it raises
something without diagnostics; its candidates cannot be resolved; its image is missing; nothing
is eligible. -/
inductive HandleEnding (μ : Type)
  | settled
  | unresolved (error : PyException)
  | imageMissing
  | denied
  | ladderFailed
  | ladderCancelled (byDeadline : Bool)
  | chain (ending : ChainEnding μ)

/-- The error a call fails with where the deadline has expired. -/
def deadlineFailure : RoutingErrorKind × String := (.deadlineExceeded, "DEADLINE_EXCEEDED")

/-- The error a call fails with where it is left with an exception. -/
def failingOf (error : PyException) : RoutingErrorKind × String :=
  if error.kind = .timeoutError then deadlineFailure else (.internalError, "UNKNOWN")

/-- The error of the engine the chain fails with, and the reason given. -/
def ChainEnding.failing? : ChainEnding μ → Option (RoutingErrorKind × String)
  | .answered _ _ | .unstored _ | .cancelled false => none
  | .late _ | .deadlineFound | .cancelled true => some deadlineFailure
  | .gatewayFailed _ => some (.gatewayFailure, "UNKNOWN")
  | .exhausted lastError =>
      some (.providerUnavailable,
        (lastError.bind PyException.failureReason).getD "NO_ELIGIBLE_PROVIDER")
  | .unexpected error => some (failingOf error)

namespace HandleEnding

/-- The error of the engine a call fails with, and the reason given. -/
def failing? : HandleEnding μ → Option (RoutingErrorKind × String)
  | .settled | .ladderCancelled false => none
  | .unresolved error => some (failingOf error)
  | .imageMissing => some (.invalidRequest, "IMAGE_REQUIRED")
  | .denied => some (.governancePolicyDenied, "GOVERNANCE_POLICY_DENIED")
  | .ladderFailed => some (.routerFailure, "ROUTER_CHAIN_EXHAUSTED")
  | .ladderCancelled true => some deadlineFailure
  | .chain ending => ending.failing?

def responder? : HandleEnding μ → Option (ProviderConfig μ)
  | .chain ending => ending.responder?
  | _ => none

/-- The ending asks neither a router nor a provider, and no time-out comes up in it. -/
def Unasked : HandleEnding μ → Prop
  | .settled | .imageMissing | .denied => True
  | .unresolved error => error.kind ≠ .timeoutError
  | .ladderFailed | .ladderCancelled _ | .chain _ => False

end HandleEnding

/-- The ending of a call whose last ladder ends so and is not followed by a chain. -/
def LadderEnding.ends : LadderEnding → HandleEnding μ
  | .decided _ => .settled
  | .exhausted => .ladderFailed
  | .cancelled byDeadline => .ladderCancelled byDeadline

/-- The candidates a chain is given that begins in this memory. -/
def HandleCall.offered (call : HandleCall) (m : Memory μ) : List (ProviderConfig μ) :=
  match m.own.taskGroup with
  | none => []
  | some group =>
      m.shared.registry.candidatesFor group call.hasImage
        ((m.own.state.map ConversationState.excludedProviders).getD [])
        (some (m.own.capabilitiesConsidered.map AvailableProvider.id)) m.own.tenant.isSome

/-- What the rest of a call asks and the attempts it notes, on the way to its ending. -/
inductive RouteRun (call : HandleCall) (ending : HandleEnding μ) : List Backend →
    List (EngineEvent μ) → List RouterAttempt → List ProviderAttempt → Prop
  | unasked {blocked : List Backend} (unasked : ending.Unasked) :
      RouteRun call ending blocked [] [] []
  | ladder {blocked refused : List Backend} {request : RouterRequest} {ladderEnding : LadderEnding}
      {trace : List (EngineEvent μ)} {routers : List RouterAttempt}
      (ladder : LadderRun request ladderEnding [.primaryRouter, .fallbackRouter] trace
        routers refused)
      (ended : ending = ladderEnding.ends) : RouteRun call ending blocked trace routers []
  | chain {blocked refused : List Backend} {request : RouterRequest} {decision : RouterDecision}
      {trace rest : List (EngineEvent μ)} {routers : List RouterAttempt}
      {query : ProviderRequest} {candidates : List (ProviderConfig μ)}
      {providers : List ProviderAttempt} {chainEnding : ChainEnding μ}
      (ladder : LadderRun request (.decided decision) [.primaryRouter, .fallbackRouter]
        trace routers refused)
      (offered : ∀ event ∈ rest.head?, call.offered event.memory = candidates)
      (chain : ChainRun query chainEnding candidates (blocked ++ refused) none rest providers)
      (ended : ending = .chain chainEnding) :
      RouteRun call ending blocked (trace ++ rest) routers providers
  | retried {blocked refused : List Backend} {request : RouterRequest} {decision : RouterDecision}
      {trace rest : List (EngineEvent μ)} {routers routers' : List RouterAttempt}
      {providers : List ProviderAttempt}
      (ladder : LadderRun request (.decided decision) [.primaryRouter, .fallbackRouter]
        trace routers refused)
      (later : RouteRun call ending (blocked ++ refused) rest routers' providers) :
      RouteRun call ending blocked (trace ++ rest) (routers ++ routers') providers

/-- What a call leaves in the capture. -/
structure CallLedger (m m' : Memory μ) (routers : List RouterAttempt)
    (providers : List ProviderAttempt) (ending : HandleEnding μ) : Prop where
  routerAttempts : m'.own.routerAttempts = m.own.routerAttempts ++ routers
  providerAttempts : m'.own.providerAttempts = m.own.providerAttempts ++ providers
  fallbackUsed : m'.own.fallbackUsed =
    (m.own.fallbackUsed || routers.any RouterAttempt.isFailure ||
      providers.any ProviderAttempt.isControlled ||
        ending.responder?.isSome && decide (1 < m'.own.providerAttempts.length))
  selectedProvider : m'.own.selectedProvider =
    (ending.responder?.map ProviderConfig.id).or m.own.selectedProvider

/-- The failure a call's diagnostics are built from, if it has any. -/
structure Concludes (m' : Memory μ) (ending : HandleEnding μ)
    (out : Except Raised RoutingResponse) : Prop where
  failed : ∀ error, out = .error (.routing error) → ∃ failure,
    buildDiagnostics m'.shared.registry m'.own failure = some error.diagnostics ∧
      ending.failing? = some (error.kind, failure.reason)
  answered : ∀ response, out = .ok response → ending.failing? = none ∧
    ∀ diagnostics, response.diagnostics = some diagnostics →
      buildDiagnostics m'.shared.registry m'.own {} = some diagnostics

/-- Diagnostics are wanted that cannot be built: the call has failed, or is to show them. -/
structure Undiagnosed (call : HandleCall) (m' : Memory μ) (ending : HandleEnding μ) : Prop where
  unbuilt : ∀ failure, buildDiagnostics m'.shared.registry m'.own failure = none
  wanted : ending.failing?.isSome = true ∨ call.developerMode = true

/-- What `_handle` is left with, before its handlers see it. -/
structure Leaves (call : HandleCall) (m' : Memory μ) (ending : HandleEnding μ)
    (out : Except Raised RoutingResponse) : Prop extends Concludes m' ending out where
  excepted : ∀ error, out = .error (.exception error) →
    ending.failing? = some (failingOf error) ∨ Undiagnosed call m' ending
  cancelled : out = .error (.cancelled true) → ending.failing? = some deadlineFailure

section Call

open Routine

variable {rely : Memory μ → Memory μ → Prop} {m m₁ m' : Memory μ} {engine : RoutingEngine}
  {call : HandleCall} {ending : HandleEnding μ} {out : Except Raised RoutingResponse}
  {routers routers' : List RouterAttempt} {providers : List ProviderAttempt}

/-- No attempt is noted. -/
structure Idle (m m' : Memory μ) : Prop where
  routerAttempts : m'.own.routerAttempts = m.own.routerAttempts
  providerAttempts : m'.own.providerAttempts = m.own.providerAttempts
  fallbackUsed : m'.own.fallbackUsed = m.own.fallbackUsed
  selectedProvider : m'.own.selectedProvider = m.own.selectedProvider

theorem Idle.refl (m : Memory μ) : Idle m m := ⟨rfl, rfl, rfl, rfl⟩

theorem Idle.trans (h : Idle m m₁) (h' : Idle m₁ m') : Idle m m' where
  routerAttempts := h'.routerAttempts.trans h.routerAttempts
  providerAttempts := h'.providerAttempts.trans h.providerAttempts
  fallbackUsed := h'.fallbackUsed.trans h.fallbackUsed
  selectedProvider := h'.selectedProvider.trans h.selectedProvider

theorem CallLedger.of_idle (h : Idle m m') (hresponder : ending.responder? = none) :
    CallLedger m m' [] [] ending where
  routerAttempts := by rw [h.routerAttempts, List.append_nil]
  providerAttempts := by rw [h.providerAttempts, List.append_nil]
  fallbackUsed := by simp [h.fallbackUsed, hresponder]
  selectedProvider := by rw [h.selectedProvider, hresponder, Option.map_none, Option.none_or]

theorem CallLedger.after_idle (h' : CallLedger m₁ m' routers providers ending) (h : Idle m m₁) :
    CallLedger m m' routers providers ending where
  routerAttempts := by rw [h'.routerAttempts, h.routerAttempts]
  providerAttempts := by rw [h'.providerAttempts, h.providerAttempts]
  fallbackUsed := by rw [h'.fallbackUsed, h.fallbackUsed]
  selectedProvider := by rw [h'.selectedProvider, h.selectedProvider]

theorem CallLedger.after_ladder (h' : CallLedger m₁ m' routers' providers ending)
    (h : LadderLedger m m₁ routers) :
    CallLedger m m' (routers ++ routers') providers ending where
  routerAttempts := by rw [h'.routerAttempts, h.routerAttempts, List.append_assoc]
  providerAttempts := by rw [h'.providerAttempts, h.providerAttempts]
  fallbackUsed := by
    rw [h'.fallbackUsed, h.fallbackUsed, List.any_append, Bool.or_assoc m.own.fallbackUsed]
  selectedProvider := by rw [h'.selectedProvider, h.selectedProvider]

theorem CallLedger.of_ladder (h : LadderLedger m m' routers)
    (hresponder : ending.responder? = none) :
    CallLedger m m' routers [] ending := by
  have hledger := (CallLedger.of_idle (.refl m') hresponder).after_ladder h
  rwa [List.append_nil] at hledger

theorem CallLedger.of_chain {chainEnding : ChainEnding μ}
    (h : ChainLedger m m' providers chainEnding) :
    CallLedger m m' [] providers (.chain chainEnding) where
  routerAttempts := by rw [h.routerAttempts, List.append_nil]
  providerAttempts := h.providerAttempts
  fallbackUsed := by
    rw [h.fallbackUsed, List.any_nil, Bool.or_false]
    rfl
  selectedProvider := h.selectedProvider

/-- Whether diagnostics can be built does not depend on the failure they are built for. -/
theorem buildDiagnostics_eq_none {failure failure' : TerminalFailure}
    (h : buildDiagnostics m.shared.registry m.own failure = none) :
    buildDiagnostics m.shared.registry m.own failure' = none := by
  rw [buildDiagnostics] at h ⊢
  cases hselected : m.own.selectedProvider with
  | none => simp [hselected] at h
  | some providerId => simpa [hselected] using h

namespace Leaves

theorem of_diagnosed {kind : RoutingErrorKind} {failure : TerminalFailure}
    (h : Diagnosed m' kind failure out) (hfailing : ending.failing? = some (kind, failure.reason)) :
    Leaves call m' ending out := by
  cases h with
  | built built =>
      exact
        { failed := by
            intro error herror
            cases herror
            exact ⟨failure, built, hfailing⟩
          answered := fun response hresponse => by cases hresponse
          excepted := fun error herror => by cases herror
          cancelled := fun hcancelled => by cases hcancelled }
  | unbuilt unbuilt =>
      exact
        { failed := fun error herror => by cases herror
          answered := fun response hresponse => by cases hresponse
          excepted := fun error herror =>
            .inr ⟨fun failure' => buildDiagnostics_eq_none unbuilt, .inl (by rw [hfailing]; rfl)⟩
          cancelled := fun hcancelled => by cases hcancelled }

theorem of_exception {error : PyException} (h : ending.failing? = some (failingOf error)) :
    Leaves call m' ending (.error (.exception error)) where
  failed := fun error herror => by cases herror
  answered := fun response hresponse => by cases hresponse
  excepted := by
    intro error' herror
    cases herror
    exact .inl h
  cancelled := fun hcancelled => by cases hcancelled

theorem of_cancelled {byDeadline : Bool}
    (h : byDeadline = true → ending.failing? = some deadlineFailure) :
    Leaves call m' ending (.error (.cancelled byDeadline)) where
  failed := fun error herror => by cases herror
  answered := fun response hresponse => by cases hresponse
  excepted := fun error herror => by cases herror
  cancelled := by
    intro hcancelled
    cases hcancelled
    exact h rfl

theorem of_conversationNotFound (conversationId : String) :
    Leaves call m' ending (.error (.conversationNotFound conversationId)) where
  failed := fun error herror => by cases herror
  answered := fun response hresponse => by cases hresponse
  excepted := fun error herror => by cases herror
  cancelled := fun hcancelled => by cases hcancelled

theorem of_policyNotFound (policyId : String) :
    Leaves call m' ending (.error (.policyNotFound policyId)) where
  failed := fun error herror => by cases herror
  answered := fun response hresponse => by cases hresponse
  excepted := fun error herror => by cases herror
  cancelled := fun hcancelled => by cases hcancelled

theorem of_ok {response : RoutingResponse} (hfailing : ending.failing? = none)
    (hdiagnostics : response.diagnostics = none) : Leaves call m' ending (.ok response) where
  failed := fun error herror => by cases herror
  answered := by
    intro response' hresponse
    cases hresponse
    exact ⟨hfailing, fun diagnostics h => by rw [hdiagnostics] at h; cases h⟩
  excepted := fun error herror => by cases herror
  cancelled := fun hcancelled => by cases hcancelled

theorem of_ladder {blocked : List Backend} {ladderEnding : LadderEnding}
    {result : Except Raised (RouterDecision × List Backend)} {raised : Raised}
    (h : ladderEnding.Yields m' blocked result) (hraised : result = .error raised) :
    Leaves call m' ladderEnding.ends (.error raised) := by
  subst hraised
  cases ladderEnding with
  | decided decision => cases h
  | cancelled byDeadline =>
      cases h
      apply of_cancelled
      rintro rfl
      rfl
  | exhausted =>
      have hdiagnosed : Diagnosed (α := RoutingResponse) m' .routerFailure
          { level := some "router", stage := .fallbackRouter, reason := "ROUTER_CHAIN_EXHAUSTED" }
          (.error raised) := by
        cases h with
        | built built => exact .built built
        | unbuilt unbuilt => exact .unbuilt unbuilt
      exact of_diagnosed hdiagnosed rfl

theorem of_chain {state : ConversationState} {chainEnding : ChainEnding μ}
    (h : chainEnding.Yields state m' out) : Leaves call m' (.chain chainEnding) out := by
  cases chainEnding with
  | answered candidate clean =>
      cases h
      exact of_ok rfl rfl
  | unstored candidate =>
      cases h
      exact of_conversationNotFound _
  | late candidate | deadlineFound =>
      cases h
      exact of_exception rfl
  | gatewayFailed candidate => exact of_diagnosed h rfl
  | exhausted lastError => exact of_diagnosed h rfl
  | cancelled byDeadline =>
      cases h
      apply of_cancelled
      rintro rfl
      rfl
  | unexpected error =>
      cases h
      exact of_exception rfl

end Leaves

/-- What the rest of a call does: a run towards an ending, the attempts it notes, and the failure
it is left with. -/
def Routes (call : HandleCall) (blocked : List Backend) (m : Memory μ)
    (trace : List (EngineEvent μ)) (m' : Memory μ) (out : Except Raised RoutingResponse) : Prop :=
  ∃ ending routers providers, RouteRun call ending blocked trace routers providers ∧
    CallLedger m m' routers providers ending ∧ Leaves call m' ending out

theorem Routes.of_unasked (ending : HandleEnding μ) {blocked : List Backend}
    (hunasked : ending.Unasked) (hidle : Idle m m') (hleaves : Leaves call m' ending out) :
    Routes call blocked m [] m' out := by
  refine ⟨ending, [], [], .unasked hunasked, .of_idle hidle ?_, hleaves⟩
  cases ending with
  | settled | unresolved error | imageMissing | denied => rfl
  | ladderFailed | ladderCancelled byDeadline | chain ending => cases hunasked

theorem Routes.after_idle {blocked : List Backend} {trace : List (EngineEvent μ)}
    (h' : Routes call blocked m₁ trace m' out) (h : Idle m m₁) :
    Routes call blocked m trace m' out := by
  obtain ⟨ending, routers, providers, hrun, hledger, hleaves⟩ := h'
  exact ⟨ending, routers, providers, hrun, hledger.after_idle h, hleaves⟩

/-- Bookkeeping of a retry: it succeeds and the call has the record it returns, or the
conversation is gone. -/
theorem prepareRetry_own {state : ConversationState} {tenantId : String} :
    (prepareRetry state tenantId).wp (Contract.relying rely) (fun trace m' out => trace = [] ∧
      Idle m m' ∧
        ((∃ retried, out = .ok (true, retried)) ∨
          (∃ retried, out = .ok (false, retried) ∧ m'.own.state = some retried) ∨
            ∃ conversationId, out = .error (.conversationNotFound conversationId))) m := by
  have hstore : ∀ {stored : ConversationState} {m : Memory μ} {β : Type}
      {next : Unit → Routine μ β} {post : List (EngineEvent μ) → Memory μ → Except Raised β → Prop},
      (∀ m', m'.own = { m.own with state := some stored } →
        post [] m' (.error (.conversationNotFound stored.conversationId))) →
      (∀ m', m'.own = { m.own with state := some stored } →
        (next ()).wp (Contract.relying rely) post m') →
      (storeState stored tenantId >>= next).wp (Contract.relying rely) post m := by
    intro stored m β next post hgone hstored
    rw [Coro.wp_bind]
    apply Coro.wp_mono storeState_own
    rintro trace m' out ⟨rfl, hown, rfl | rfl⟩
    · exact hstored m' hown
    · exact hgone m' hown
  have hnoted : ∀ {stored : ConversationState} {m m' : Memory μ},
      m'.own = { m.own with state := some stored } → Idle m m' := fun hown => by
    exact ⟨by rw [hown], by rw [hown], by rw [hown], by rw [hown]⟩
  have hcounted : ∀ {excluded : ConversationState} {m₁ : Memory μ}, Idle m m₁ →
      (storeState excluded.incrementAttempt tenantId >>= fun _ => do
        return (← guardFired excluded.incrementAttempt, excluded.incrementAttempt)).wp
          (Contract.relying rely) (fun trace m' out => trace = [] ∧ Idle m m' ∧
            ((∃ retried, out = .ok (true, retried)) ∨
              (∃ retried, out = .ok (false, retried) ∧ m'.own.state = some retried) ∨
                ∃ conversationId, out = .error (.conversationNotFound conversationId))) m₁ := by
    intro excluded m₁ hidle
    apply hstore
    · intro m' hown
      exact ⟨rfl, hidle.trans (hnoted hown), .inr (.inr ⟨_, rfl⟩)⟩
    · intro m' hown
      apply Discipline.guardFired_bind
      cases hguard : retryGuardFired m'.shared.registry excluded.incrementAttempt with
      | true => exact ⟨rfl, hidle.trans (hnoted hown), .inl ⟨_, rfl⟩⟩
      | false => exact ⟨rfl, hidle.trans (hnoted hown), .inr (.inl ⟨_, rfl, by rw [hown]⟩)⟩
  rw [prepareRetry]
  apply Discipline.guardFired_bind
  cases hguard : retryGuardFired m.shared.registry state with
  | true => exact ⟨rfl, .refl m, .inl ⟨state, rfl⟩⟩
  | false =>
      simp only [Bool.false_eq_true, if_false]
      rw [excludeLast]
      cases hlast : state.lastProvider with
      | none =>
          simp only [pure_bind]
          exact hcounted (.refl m)
      | some providerId =>
          simp only [pure_bind, bind_assoc]
          apply hstore
          · intro m' hown
            exact ⟨rfl, hnoted hown, .inr (.inr ⟨_, rfl⟩)⟩
          · intro m' hown
            exact hcounted (hnoted hown)

/-- A chain begins by reading the clock in the memory it is given its candidates in. -/
theorem executeWithFallback_begins (call : HandleCall) {candidates : List (ProviderConfig μ)}
    {request : ProviderRequest} {state : ConversationState} {tenantId : String}
    {blocked : List Backend} :
    (executeWithFallback candidates request state tenantId blocked).wp (Contract.relying rely)
      (fun trace _ _ => ∀ event ∈ trace.head?, call.offered event.memory = call.offered m) m := by
  cases candidates with
  | nil =>
      show (tryCandidates request state tenantId [] blocked none).wp _ _ m
      rw [tryCandidates]
      apply Coro.wp_mono fail_diagnosed
      rintro trace m' out ⟨rfl, -⟩ event ⟨⟩
  | cons first rest =>
      rw [executeWithFallback, tryCandidates]
      apply note_bind_relying
      apply Discipline.deadlinePassed_bind
      intro now
      apply Coro.wp_mono (Coro.wp_relying _)
      rintro trace m' out - event ⟨⟩
      rfl

/-- What an iteration does with the decision of its ladder. -/
theorem followDecision_routes (hrely : LeavesOwn rely) {request : RouterRequest}
    {state : ConversationState} {allowedIds : List String} {blocked refused : List Backend}
    {decision : RouterDecision} {trace : List (EngineEvent μ)}
    {next : ConversationState → List Backend → Routine μ RoutingResponse}
    (hladder : LadderRun request (.decided decision) [.primaryRouter, .fallbackRouter] trace routers
      refused)
    (hledger : LadderLedger m m₁ routers) (hstate : m₁.own.state = some state)
    (hallowed : m₁.own.capabilitiesConsidered.map AvailableProvider.id = allowedIds)
    (hnext : ∀ state blocked m, m.own.state = some state →
      (next state blocked).wp (Contract.relying rely) (Routes call blocked m) m) :
    (followDecision call state allowedIds (blocked ++ refused) next decision).wp
      (Contract.relying rely) (fun rest m' out => Routes call blocked m (trace ++ rest) m' out)
        m₁ := by
  have hsettled : ∀ {m' : Memory μ} {out : Except Raised RoutingResponse}, Idle m₁ m' →
      Leaves call m' .settled out → Routes call blocked m (trace ++ []) m' out := by
    intro m' out hidle hleaves
    have hcall : CallLedger m₁ m' [] [] .settled := .of_idle hidle rfl
    have hledger' := hcall.after_ladder hledger
    rw [List.append_nil] at hledger' ⊢
    exact ⟨.settled, _, _, .ladder hladder rfl, hledger', hleaves⟩
  rw [followDecision]
  split
  · rw [Coro.wp_bind]
    apply Coro.wp_mono prepareRetry_own
    rintro rest m' result ⟨rfl, hidle, ⟨retried, rfl⟩ | ⟨retried, rfl, hretried⟩ |
      ⟨conversationId, rfl⟩⟩
    · exact hsettled hidle (.of_ok rfl rfl)
    · apply Coro.wp_mono (hnext retried (blocked ++ refused) m' hretried)
      rintro rest m₂ out ⟨ending, routers', providers, hrun, hcall, hleaves⟩
      exact ⟨ending, _, providers, .retried hladder hrun,
        (hcall.after_idle hidle).after_ladder hledger, hleaves⟩
    · exact hsettled hidle (.of_conversationNotFound _)
  · exact hsettled (.refl m₁) (.of_ok rfl rfl)
  · exact hsettled (.refl m₁) (.of_ok rfl rfl)
  · rename_i haction
    apply note_bind_relying
    apply Discipline.memory_bind
    apply Coro.wp_mono (Coro.wp_and (executeWithFallback_runs hrely _)
      (executeWithFallback_begins call))
    rintro rest m' out ⟨⟨providers, ending, hchain, hledger', hyields⟩, hbegins⟩
    refine ⟨.chain ending, routers ++ [], providers, ?_, ?_, .of_chain hyields⟩
    · rw [List.append_nil]
      apply RouteRun.chain hladder _ hchain rfl
      intro event hevent
      rw [hbegins event hevent, HandleCall.offered]
      simp only [hstate, hallowed, Option.map_some, Option.getD_some]
    · have hcall := (CallLedger.of_chain hledger').after_idle (m := m₁) ⟨rfl, rfl, rfl, rfl⟩
      exact hcall.after_ladder hledger

/-- The only exception of candidate resolution is about a policy that does not load. -/
theorem resolveCandidateSet_unexpected [Metric μ] {registry : Registry μ}
    {governance : GovernanceRepository} {policies : PolicyRepository} {tenant : TenantContext}
    {context : RoutingContext} {excluded : List String} {error : PyException}
    (h : resolveCandidateSet registry governance policies tenant context excluded =
      .error (.unexpected error)) : error.kind = .other := by
  rw [resolveCandidateSet_eq_bind, PolicyEvaluator.resolvePolicy] at h
  split at h
  · split at h
    · cases h
    · cases h
  · split at h
    · cases h
    · cases h
      rfl

/-- Looking for candidates notes no attempt, and keeps the record. -/
theorem resolveCandidates_bind_idle [Metric μ] {β : Type} {context : RoutingContext}
    {excluded : List String} {next : CandidateSet μ → Routine μ β}
    {post : List (EngineEvent μ) → Memory μ → Except Raised β → Prop}
    (hpolicy : ∀ policyId, post [] m (.error (.policyNotFound policyId)))
    (herror : ∀ error : PyException, error.kind = .other → post [] m (.error (.exception error)))
    (h : ∀ candidateSet m', Idle m m' → m'.own.state = m.own.state →
      (next candidateSet).wp (Contract.relying rely) post m') :
    (resolveCandidates engine context excluded >>= next).wp (Contract.relying rely) post m := by
  rw [resolveCandidates, bind_assoc]
  apply Discipline.memory_bind
  split
  · rename_i tenant hresolver hsome
    cases hresolved : resolveCandidateSet m.shared.registry m.shared.governance m.shared.policies
        tenant context excluded with
    | error error =>
        cases error with
        | policyNotFound policyId => exact hpolicy policyId
        | unexpected error => exact herror error (resolveCandidateSet_unexpected hresolved)
    | ok candidateSet =>
        simp only [bind_assoc]
        apply note_bind_relying
        rw [recordPolicyAudit, bind_assoc]
        apply Discipline.memory_bind
        split
        · rw [bind_assoc]
          apply Coro.wp_modify_bind_relying.mpr
          apply note_bind_relying
          exact h candidateSet _ ⟨rfl, rfl, rfl, rfl⟩ rfl
        · exact h candidateSet _ ⟨rfl, rfl, rfl, rfl⟩ rfl
  · exact h _ m (.refl m) rfl

variable [Metric μ]

/-- One iteration of the loop. -/
theorem routeBody_routes (hrely : LeavesOwn rely) {state : ConversationState}
    {blocked : List Backend} {next : ConversationState → List Backend → Routine μ RoutingResponse}
    (hstate : m.own.state = some state)
    (hnext : ∀ state blocked m, m.own.state = some state →
      (next state blocked).wp (Contract.relying rely) (Routes call blocked m) m) :
    (routeBody engine call next state blocked).wp (Contract.relying rely) (Routes call blocked m)
      m := by
  rw [routeBody]
  apply Discipline.guardFired_bind
  split
  · exact .of_unasked .settled trivial (.refl m) (.of_ok rfl rfl)
  · apply note_bind_relying
    apply resolveCandidates_bind_idle
    · intro policyId
      exact .of_unasked .settled trivial ⟨rfl, rfl, rfl, rfl⟩ (.of_policyNotFound policyId)
    · intro error hkind
      have hunasked : HandleEnding.Unasked (μ := μ) (.unresolved error) := by
        rw [HandleEnding.Unasked, hkind]
        decide
      exact .of_unasked (.unresolved error) hunasked ⟨rfl, rfl, rfl, rfl⟩ (.of_exception rfl)
    · intro candidateSet m₁ hidle hkept
      have hidle' : Idle m m₁ :=
        ⟨hidle.routerAttempts, hidle.providerAttempts, hidle.fallbackUsed,
      hidle.selectedProvider⟩
      simp only
      split
      · apply Coro.wp_mono fail_diagnosed
        rintro trace m' out ⟨rfl, rfl, hdiagnosed⟩
        exact .of_unasked .denied trivial hidle' (.of_diagnosed hdiagnosed rfl)
      · apply Discipline.memory_bind
        apply note_bind_relying
        rw [Coro.wp_bind]
        apply Coro.wp_mono (decisionFromLadder_runs hrely _)
        rintro trace m₂ result ⟨routers, refused, ending, hladder, hledger, hyields⟩
        have hbegun : Idle m { m₁ with own :=
            { m₁.own with capabilitiesConsidered := candidateSet.providers } } :=
          hidle'.trans ⟨rfl, rfl, rfl, rfl⟩
        cases result with
        | error raised =>
            refine Routes.after_idle ⟨ending.ends, routers, [], .ladder hladder rfl, ?_,
              .of_ladder hyields rfl⟩ hbegun
            apply CallLedger.of_ladder hledger
            cases ending <;> rfl
        | ok decided =>
            cases ending with
            | decided decision =>
                cases hyields
                apply Coro.wp_mono (followDecision_routes hrely hladder hledger
                  (hledger.state.trans (hkept.trans hstate))
                  (congrArg (List.map _) hledger.capabilitiesConsidered) hnext)
                intro rest m' out hroutes
                exact hroutes.after_idle hbegun
            | cancelled byDeadline => cases hyields
            | exhausted => cases hyields

/-- The loop, by induction on the rounds it may take. -/
theorem route_routes (hrely : LeavesOwn rely) {state : ConversationState} {blocked : List Backend}
    (hstate : m.own.state = some state) :
    (route engine call state blocked).wp (Contract.relying rely) (Routes call blocked m) m := by
  rw [route]
  generalize state.maxAttempts - state.attemptCount = rounds
  induction rounds generalizing state blocked m with
  | zero =>
      rw [routeLoop]
      apply routeBody_routes hrely hstate
      intro retried blocked m _
      exact .of_unasked .settled trivial (.refl m) (.of_ok rfl rfl)
  | succ rounds ih =>
      rw [routeLoop]
      apply routeBody_routes hrely hstate
      intro retried blocked m hretried
      exact ih hretried

omit [Metric μ] in
/-- Attaching diagnostics to a response notes nothing. -/
theorem attachDiagnostics_leaves {response : RoutingResponse}
    (h : Leaves call m ending (.ok response)) :
    (attachDiagnostics call response).wp (Contract.relying rely)
      (fun trace m' out => trace = [] ∧ m' = m ∧ Leaves call m ending out) m := by
  rw [attachDiagnostics]
  split
  · exact ⟨rfl, rfl, h⟩
  · rename_i hdeveloper
    apply Discipline.memory_bind
    cases hbuilt : buildDiagnostics m.shared.registry m.own {} with
    | some diagnostics =>
        refine ⟨rfl, rfl, ?_⟩
        exact
          { failed := fun error herror => by cases herror
            answered := by
              intro answer hanswer
              cases hanswer
              refine ⟨(h.answered response rfl).1, fun diagnostics' hdiagnostics => ?_⟩
              cases hdiagnostics
              exact hbuilt
            excepted := fun error herror => by cases herror
            cancelled := fun hcancelled => by cases hcancelled }
    | none =>
        refine ⟨rfl, rfl, ?_⟩
        exact
          { failed := fun error herror => by cases herror
            answered := fun answer hanswer => by cases hanswer
            excepted := fun error herror =>
              .inr ⟨fun failure => buildDiagnostics_eq_none hbuilt,
                .inr (Bool.not_eq_false _ ▸ hdeveloper)⟩
            cancelled := fun hcancelled => by cases hcancelled }

theorem routeAndAttach_routes (hrely : LeavesOwn rely) {state : ConversationState} :
    (routeAndAttach engine call state).wp (Contract.relying rely) (Routes call [] m) m := by
  rw [routeAndAttach, remember]
  apply note_bind_relying
  rw [Coro.wp_bind]
  apply Coro.wp_mono (route_routes hrely rfl)
  intro trace m' result hroutes
  have hroutes' : Routes call [] m trace m' result := hroutes.after_idle ⟨rfl, rfl, rfl, rfl⟩
  cases result with
  | error raised => exact hroutes'
  | ok response =>
      obtain ⟨ending, routers, providers, hrun, hledger, hleaves⟩ := hroutes'
      apply Coro.wp_mono (attachDiagnostics_leaves hleaves)
      rintro rest m₁ out ⟨rfl, rfl, hattached⟩
      rw [List.append_nil]
      exact ⟨ending, routers, providers, hrun, hledger, hattached⟩

theorem handleRetry_routes (hrely : LeavesOwn rely) :
    (handleRetry engine call).wp (Contract.relying rely) (Routes call [] m) m := by
  rw [handleRetry]
  apply Discipline.memory_bind
  cases hload : m.shared.conversations.load call.request.conversationId call.tenantId with
  | none => exact .of_unasked .settled trivial (.refl m) (.of_conversationNotFound _)
  | some state =>
      apply note_bind_relying
      split
      · apply Coro.wp_mono fail_diagnosed
        rintro trace m' out ⟨rfl, rfl, hdiagnosed⟩
        exact .of_unasked .imageMissing trivial ⟨rfl, rfl, rfl, rfl⟩ (.of_diagnosed hdiagnosed rfl)
      · apply note_bind_relying
        rw [Coro.wp_bind]
        apply Coro.wp_mono prepareRetry_own
        rintro trace m' result ⟨rfl, hidle, hresult⟩
        have hidle' : Idle m m' :=
          ⟨hidle.routerAttempts, hidle.providerAttempts, hidle.fallbackUsed,
      hidle.selectedProvider⟩
        obtain ⟨retried, rfl⟩ | ⟨retried, rfl, -⟩ | ⟨conversationId, rfl⟩ := hresult
        · have hleaves : Leaves call m' .settled (.ok (stopResponse retried.conversationId)) :=
            .of_ok rfl rfl
          apply Coro.wp_mono (attachDiagnostics_leaves hleaves)
          rintro rest m₁ out ⟨rfl, rfl, hattached⟩
          exact .of_unasked .settled trivial hidle' hattached
        · apply Coro.wp_mono (routeAndAttach_routes hrely)
          intro rest m₁ out hroutes
          exact hroutes.after_idle hidle'
        · exact .of_unasked .settled trivial hidle' (.of_conversationNotFound _)

theorem handleMessage_routes (hrely : LeavesOwn rely) :
    (handleMessage engine call).wp (Contract.relying rely) (Routes call [] m) m := by
  have hwritten : ∀ {state : ConversationState} {m₁ : Memory μ}, Idle m m₁ →
      (writeBack (freshTurn call state) call.tenantId >>= fun _ =>
        routeAndAttach engine call (freshTurn call state)).wp (Contract.relying rely)
          (Routes call [] m) m₁ := by
    intro state m₁ hidle
    rw [writeBack, bind_assoc]
    apply Discipline.memory_bind
    split
    · apply Coro.wp_modify_bind_relying.mpr
      apply Coro.wp_mono (routeAndAttach_routes hrely)
      intro trace m' out hroutes
      exact hroutes.after_idle ⟨hidle.routerAttempts, hidle.providerAttempts, hidle.fallbackUsed,
      hidle.selectedProvider⟩
    · exact .of_unasked .settled trivial hidle (.of_conversationNotFound _)
  rw [handleMessage, loadOrCreate, bind_assoc]
  apply Discipline.memory_bind
  split
  · exact hwritten (.refl m)
  · rw [bind_assoc]
    apply Coro.wp_modify_bind_relying.mpr
    exact hwritten ⟨rfl, rfl, rfl, rfl⟩

theorem handleBody_routes (hrely : LeavesOwn rely) :
    (handleBody engine call).wp (Contract.relying rely) (Routes call [] m) m := by
  rw [handleBody]
  split
  · exact handleRetry_routes hrely
  · exact handleMessage_routes hrely

omit [Metric μ] in
/-- The handlers of a call ask nobody, and build diagnostics from the failure they see. -/
theorem translate_concludes {raised : Raised} (h : Leaves call m ending (.error raised)) :
    (translate raised).wp (Contract.relying rely)
      (fun trace m' out => trace = [] ∧ m' = m ∧ Concludes m ending out ∧
        ∀ error, out = .error (.exception error) → Undiagnosed call m ending) m := by
  have hfail : ∀ {kind : RoutingErrorKind} {failure : TerminalFailure},
      (ending.failing? = some (kind, failure.reason) ∨ Undiagnosed call m ending) →
      (fail kind failure).wp (Contract.relying rely)
        (fun trace m' out => trace = [] ∧ m' = m ∧ Concludes m ending out ∧
          ∀ error, out = .error (.exception error) → Undiagnosed call m ending) m := by
    intro kind failure hfailing
    apply Coro.wp_mono fail_diagnosed
    rintro trace m' out ⟨rfl, rfl, hdiagnosed⟩
    refine ⟨rfl, rfl, ?_⟩
    rcases hfailing with hfailing | hunbuilt
    · have hleaves : Leaves call m' ending out := .of_diagnosed hdiagnosed hfailing
      refine ⟨hleaves.toConcludes, ?_⟩
      rintro error rfl
      cases hdiagnosed with
      | unbuilt unbuilt =>
          exact ⟨fun _ => buildDiagnostics_eq_none unbuilt, .inl (by rw [hfailing]; rfl)⟩
    · cases hdiagnosed with
      | built built =>
          rw [hunbuilt.unbuilt failure] at built
          cases built
      | unbuilt unbuilt =>
          exact
            ⟨{ failed := fun error herror => by cases herror
               answered := fun response hresponse => by cases hresponse },
              fun _ _ => hunbuilt⟩
  have hpass : ∀ {error : Raised}, (∀ raised, error ≠ .exception raised) →
      Leaves call m ending (.error error) →
        ([] : List (EngineEvent μ)) = [] ∧ m = m ∧ Concludes m ending (.error error) ∧
          ∀ raised, (.error error : Except Raised RoutingResponse) = .error (.exception raised) →
            Undiagnosed call m ending :=
    fun hother hleaves => ⟨rfl, rfl, hleaves.toConcludes, fun raised hraised =>
      (hother raised (Except.error.inj hraised)).elim⟩
  cases raised with
  | routing error => exact hpass (fun raised hraised => by cases hraised) h
  | conversationNotFound conversationId => exact hpass (fun raised hraised => by cases hraised) h
  | policyNotFound policyId => exact hpass (fun raised hraised => by cases hraised) h
  | cancelled byDeadline =>
      cases byDeadline with
      | false => exact hpass (fun raised hraised => by cases hraised) h
      | true => exact hfail (.inl (h.cancelled rfl))
  | exception error =>
      have hexcepted := h.excepted error rfl
      rw [Routine.translate]
      rw [failingOf] at hexcepted
      split
      · rename_i htimeout
        rw [if_pos htimeout] at hexcepted
        exact hfail hexcepted
      · rename_i htimeout
        rw [if_neg htimeout] at hexcepted
        apply Discipline.memory_bind
        exact hfail hexcepted

/-- A whole call: it reads the clock, then routes, and its diagnostics are those of its ending. -/
theorem handle_routes (hrely : LeavesOwn rely) :
    (handle engine call).wp (Contract.relying rely) (fun trace m' out =>
      ∃ (now : ℚ) (rest : List (EngineEvent μ)) (ending : HandleEnding μ)
        (routers : List RouterAttempt)
        (providers : List ProviderAttempt), trace = ⟨.loopTime, m, now⟩ :: rest ∧
        RouteRun call ending [] rest routers providers ∧
          CallLedger { m with own := newCapture engine call now } m' routers providers ending ∧
            Concludes m' ending out ∧
              ∀ error, out = .error (.exception error) → Undiagnosed call m' ending) m := by
  rw [handle, loopTime, Coro.wp_bind, Coro.wp_ask]
  refine ⟨fun _ => trivial, fun now resumed hresumed => ?_⟩
  obtain rfl : resumed = m := by simpa [Coro.Resumes] using hresumed
  apply note_bind_relying
  rw [Coro.wp_bind, Coro.wp_attempt]
  apply Coro.wp_mono (handleBody_routes hrely)
  rintro rest m' result ⟨ending, routers, providers, hrun, hledger, hleaves⟩
  cases result with
  | ok response =>
      refine ⟨now, rest ++ [], ending, routers, providers, rfl, ?_, hledger, hleaves.toConcludes,
        fun error herror => by cases herror⟩
      rw [List.append_nil]
      exact hrun
  | error raised =>
      apply Coro.wp_mono (translate_concludes hleaves)
      rintro last m₁ out ⟨rfl, rfl, hconcludes⟩
      refine ⟨now, rest ++ [], ending, routers, providers, rfl, ?_, hledger, hconcludes⟩
      rw [List.append_nil]
      exact hrun

end Call

end LLMRouting
