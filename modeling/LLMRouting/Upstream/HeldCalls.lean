/-
# What a task holds of the circuits

A router call and a dispatch are admitted through the circuit of their backend before they
post, and tell it afterwards how that went. This module follows a `handle` call down to its
requests, with a note of the call it has been admitted with: what it does to the circuits is
an admission, a refusal, or the end of that call. It awaits a reply from a backend only while
it holds a call through its circuit, and it holds nothing when it ends.
-/

import LLMRouting.Interaction.Shadow
import LLMRouting.Providers.ProbeGuarantees
import LLMRouting.Routing.Compositional
import LLMRouting.Upstream.SharedCircuit

namespace LLMRouting

open LLMRouting.Interaction

variable {μ α : Type}

/-- The call a task has been admitted with, and through which circuit. -/
abbrev HeldCall : Type := Option (Backend × Caller)

def UpstreamCaller.caller : UpstreamCaller → Caller
  | .router _ _ _ => .router
  | .provider _ _ => .dispatcher

/-- A reply that is a reading of the circuits' clock. -/
def SystemQuery.reading? : (query : SystemQuery) → systemInterface.Reply query → Option ℚ
  | .monotonic, now => some now
  | .loopTime, _ | .post _ _, _ | .closeClient _ _ _, _ | .process _, _ => none

/-- What a task can do to the circuits with what it holds: ask for admission, or end the call
it was admitted with. -/
inductive Passage (now : ℚ) : HeldCall × (Backend → BackendCircuit) →
    HeldCall × (Backend → BackendCircuit) → Prop
  | denied {backend : Backend} {circuits : Backend → BackendCircuit} {circuit : BackendCircuit}
      (caller : Caller)
      (denied : (circuits backend).allowRequest now = some (false, circuit)) :
      Passage now (none, circuits) (none, Function.update circuits backend circuit)
  | admitted {backend : Backend} {circuits : Backend → BackendCircuit} {circuit : BackendCircuit}
      {caller : Caller} (admitted : (circuits backend).allowRequest now = some (true, circuit)) :
      Passage now (none, circuits)
        (some (backend, caller), Function.update circuits backend circuit)
  | finished {backend : Backend} {circuits : Backend → BackendCircuit} (ending : CallEnding) :
      Passage now (some (backend, ending.caller), circuits)
        (none, Function.update circuits backend
          ((circuits backend).reportAll now ending.reports))

/-- The call behind a question: that of the request, or the dispatch whose client is closed. -/
def SystemQuery.call? : SystemQuery → HeldCall
  | .post caller backend => some (backend, caller.caller)
  | .closeClient _ backend _ => some (backend, .dispatcher)
  | .loopTime | .monotonic | .process _ => none

/-- A task is followed by what it holds. Its writes leave the circuits alone or are passages, and
it waits with the call behind its question. -/
def circuitShadow (μ : Type) : Shadow systemInterface (Memory μ) HeldCall ℚ where
  reading? := SystemQuery.reading?
  acts now here there :=
    there.1 = here.1 ∧ there.2.shared.circuits = here.2.shared.circuits ∨
      Passage now (here.1, here.2.shared.circuits) (there.1, there.2.shared.circuits)
  parks query held := held = query.call?

namespace Exchange

variable {now : ℚ} {held : HeldCall} {m : Memory μ} {backend : Backend}

theorem monotonic_shadowed {post : ℚ → HeldCall → Memory μ → Except UpstreamError ℚ → Prop}
    (h : ∀ later, post later held m (.ok later)) :
    monotonic.shadowed (circuitShadow μ) post now held m :=
  Coro.shadowed_ask_local rfl h

/-- The admission of a call, in a memory with the same registry. -/
theorem allowRequest_shadowed (caller : Caller) :
    (allowRequest backend).shadowed (circuitShadow μ) (fun _ held m' out =>
      m'.shared.registry = m.shared.registry ∧
        held = match out with
          | .ok true => some (backend, caller)
          | .ok false | .error _ => none) now none m := by
  rw [allowRequest]
  apply Coro.shadowed_bind
  apply monotonic_shadowed
  intro later
  apply Coro.shadowed_get_bind
  cases hallowed : (m.shared.circuits backend).allowRequest later with
  | none => exact ⟨rfl, rfl⟩
  | some decided =>
      obtain ⟨admitted, circuit⟩ := decided
      cases admitted with
      | false => exact ⟨none, .inr (.denied caller hallowed), rfl, rfl⟩
      | true => exact ⟨some (backend, caller), .inr (.admitted hallowed), rfl, rfl⟩

/-- The end of a call that is told to the circuit by one write. -/
theorem setCircuit_shadowed (ending : CallEnding) {update : BackendCircuit → BackendCircuit}
    (hupdate : update (m.shared.circuits backend) =
      (m.shared.circuits backend).reportAll now ending.reports) :
    (setCircuit backend update).shadowed (circuitShadow μ) (fun _ held m' out =>
      held = none ∧ out = .ok () ∧ m'.shared.circuits backend =
        (m.shared.circuits backend).reportAll now ending.reports) now
        (some (backend, ending.caller)) m := by
  refine ⟨none, .inr ?_, rfl, rfl, ?_⟩
  · show Passage now _ (none, Function.update m.shared.circuits backend
      (update (m.shared.circuits backend)))
    rw [hupdate]
    exact .finished ending
  · show Function.update m.shared.circuits backend (update (m.shared.circuits backend)) backend = _
    rw [Function.update_self, hupdate]

theorem recordSuccess_shadowed (ending : CallEnding) (hending : ending.reports = [.success]) :
    (recordSuccess backend).shadowed (circuitShadow μ) (fun _ held _ _ => held = none) now
      (some (backend, ending.caller)) m := by
  apply Coro.shadowed_mono (setCircuit_shadowed ending (by rw [hending]; rfl))
  exact fun _ _ _ _ h => h.1

/-- A recorded failure ends the call. What remains of it is a release, which does nothing. -/
theorem recordFailure_shadowed {backendTransient : Bool} (ending : CallEnding)
    (hending : ending.netReport = .failure backendTransient) :
    (recordFailure backend backendTransient).shadowed (circuitShadow μ) (fun _ held m' out =>
      held = none ∧ out = .ok () ∧
        (m'.shared.circuits backend).releaseProbe = m'.shared.circuits backend) now
        (some (backend, ending.caller)) m := by
  rw [recordFailure]
  apply Coro.shadowed_bind
  apply monotonic_shadowed
  intro later
  have hreport : (m.shared.circuits backend).reportAll later ending.reports =
      (m.shared.circuits backend).recordFailure later backendTransient := by
    rw [BackendCircuit.reportAll_reports, hending]
    rfl
  apply Coro.shadowed_mono (setCircuit_shadowed ending hreport.symm)
  rintro _ held m' out ⟨hheld, hout, hcircuit⟩
  refine ⟨hheld, hout, ?_⟩
  rw [hcircuit, hreport]
  exact BackendCircuit.releaseProbe_recordFailure backendTransient

theorem releaseProbe_shadowed (ending : CallEnding) (hending : ending.reports = [.release]) :
    (releaseProbe backend).shadowed (circuitShadow μ) (fun _ held _ _ => held = none) now
      (some (backend, ending.caller)) m := by
  apply Coro.shadowed_mono (setCircuit_shadowed ending (by rw [hending]; rfl))
  exact fun _ _ _ _ h => h.1

/-- A release that changes nothing is not noticed. -/
theorem releaseProbe_idle (hidle : (m.shared.circuits backend).releaseProbe =
    m.shared.circuits backend) :
    (releaseProbe backend).shadowed (circuitShadow μ) (fun _ held' _ _ => held' = held) now held
      m := by
  refine ⟨held, .inl ⟨rfl, ?_⟩, rfl⟩
  show Function.update m.shared.circuits backend (m.shared.circuits backend).releaseProbe = _
  rw [hidle, Function.update_eq_self]

theorem post_shadowed {caller : UpstreamCaller} :
    (post caller backend).shadowed (circuitShadow μ)
      (fun _ held _ _ => held = some (backend, caller.caller)) now
      (some (backend, caller.caller)) m := by
  rw [post]
  apply Coro.shadowed_bind
  exact Coro.shadowed_ask rfl rfl fun reply later m' => Coro.shadowed_settle rfl

end Exchange

namespace StructuredHTTPRouter

open Exchange

variable (router : StructuredHTTPRouter) {tier : RouterTier} {request : RouterRequest} {now : ℚ}
  {m : Memory μ}

/-- The call has ended, and the release that is still to come does nothing. -/
structure EndedEarly (held : HeldCall) (m : Memory μ) (error : UpstreamError) : Prop where
  held_eq : held = none
  no_timeout : error.isTimeoutError = false
  idle : (m.shared.circuits router.backend).releaseProbe = m.shared.circuits router.backend

/-- A router's helpers still hold the call, unless they have raised after recording a failure. -/
def HelpersLeave (held : HeldCall) (m : Memory μ) : Except UpstreamError α → Prop
  | .ok _ => held = some (router.backend, .router)
  | .error error => held = some (router.backend, .router) ∨ router.EndedEarly held m error

theorem raiseUnavailable_shadowed {error : UpstreamError} :
    (router.raiseUnavailable (α := α) error).shadowed (circuitShadow μ) (fun _ held m' out =>
      ∃ unavailable, out = .error unavailable ∧ router.EndedEarly held m' unavailable) now
      (some (router.backend, .router)) m := by
  rw [raiseUnavailable]
  apply Coro.shadowed_bind
  apply Coro.shadowed_mono (recordFailure_shadowed
    (.decide (.httpError (routerFailureMetadata error).failureScope)) rfl)
  rintro _ held m' _ ⟨hheld, rfl, hidle⟩
  exact ⟨_, rfl, hheld, rfl, hidle⟩

theorem exchange_shadowed {caller : UpstreamCaller} (hcaller : caller.caller = .router) :
    (router.exchange caller).shadowed (circuitShadow μ)
      (fun _ held m' out => router.HelpersLeave held m' out) now
      (some (router.backend, .router)) m := by
  rw [exchange]
  apply Coro.shadowed_rescue
  rw [← hcaller]
  apply Coro.shadowed_mono post_shadowed
  rintro now held m' out rfl
  rw [hcaller]
  cases out with
  | ok response => exact rfl
  | error error =>
      cases error with
      | http httpError =>
          apply Coro.shadowed_mono router.raiseUnavailable_shadowed
          rintro _ held m' _ ⟨unavailable, rfl, hended⟩
          exact .inr hended
      | defect defect => exact .inl rfl
      | raised interruption => exact .inl rfl

theorem repair_shadowed :
    (router.repair tier request).shadowed (circuitShadow μ)
      (fun _ held m' out => router.HelpersLeave held m' out) now
      (some (router.backend, .router)) m := by
  rw [repair]
  apply Coro.shadowed_bind
  apply Coro.shadowed_mono (router.exchange_shadowed rfl)
  intro now held m' out hout
  cases out with
  | error error => exact hout
  | ok response =>
      rw [show held = some (router.backend, .router) from hout]
      cases hparse : router.reader.parse response with
      | ok decision =>
          simp only [hparse]
          exact rfl
      | error error =>
          simp only [hparse]
          rcases ReplyReader.isReading_of_parse hparse with ⟨defect, rfl⟩ | rfl
          · apply Coro.shadowed_bind
            apply Coro.shadowed_mono (recordFailure_shadowed (.decide .unusable) rfl)
            rintro _ held m' _ ⟨hheld, rfl, hidle⟩
            exact .inr ⟨hheld, rfl, hidle⟩
          · exact .inl rfl

theorem decideWithRepair_shadowed :
    (router.decideWithRepair tier request).shadowed (circuitShadow μ)
      (fun _ held m' out => router.HelpersLeave held m' out) now
      (some (router.backend, .router)) m := by
  rw [decideWithRepair]
  apply Coro.shadowed_bind
  apply Coro.shadowed_mono (router.exchange_shadowed rfl)
  intro now held m' out hout
  cases out with
  | error error => exact hout
  | ok response =>
      rw [show held = some (router.backend, .router) from hout]
      cases hparse : router.reader.parse response with
      | ok decision =>
          simp only [hparse]
          exact rfl
      | error error =>
          simp only [hparse]
          rcases ReplyReader.isReading_of_parse hparse with ⟨defect, rfl⟩ | rfl
          · exact router.repair_shadowed
          · exact .inl rfl

/-- A router call holds nothing before and after. -/
theorem decide_shadowed :
    (router.decide tier request).shadowed (circuitShadow μ) (fun _ held _ _ => held = none) now
      none m := by
  rw [decide]
  apply Coro.shadowed_bind
  apply Coro.shadowed_mono (allowRequest_shadowed .router)
  rintro now held m' out ⟨-, rfl⟩
  rcases out with error | admitted
  · exact rfl
  · cases admitted with
    | false => exact rfl
    | true =>
        simp only [if_true]
        apply Coro.shadowed_bind
        apply Coro.shadowed_rescue
        apply Coro.shadowed_mono router.decideWithRepair_shadowed
        intro now held m' out hout
        cases out with
        | ok decision =>
            rw [show held = some (router.backend, .router) from hout]
            apply Coro.shadowed_bind
            apply Coro.shadowed_mono (recordSuccess_shadowed (.decide .success) rfl)
            rintro _ held m' out rfl
            cases out with
            | ok value => exact rfl
            | error error => exact rfl
        | error error =>
            by_cases htimeout : error.isTimeoutError = true
            · simp only [htimeout, if_true]
              have hheld : held = some (router.backend, .router) := by
                rcases hout with hheld | hended
                · exact hheld
                · rw [hended.no_timeout] at htimeout
                  cases htimeout
              rw [hheld]
              apply Coro.shadowed_mono router.raiseUnavailable_shadowed
              rintro _ held m' _ ⟨unavailable, rfl, hended⟩
              exact hended.held_eq
            · simp only [htimeout]
              apply Coro.shadowed_bind
              rcases hout with rfl | hended
              · apply Coro.shadowed_mono (releaseProbe_shadowed (.decide .cancelled) rfl)
                rintro _ held m' out rfl
                cases out with
                | ok value => exact rfl
                | error error => exact rfl
              · rw [hended.held_eq]
                apply Coro.shadowed_mono (releaseProbe_idle hended.idle)
                rintro _ held m' out rfl
                cases out with
                | ok value => exact rfl
                | error error => exact rfl

end StructuredHTTPRouter

namespace ProviderDispatcher

open Exchange

variable {now : ℚ} {held : HeldCall} {m : Memory μ} {providerId : String}
  {request : ProviderRequest} {backend : Backend} {config : ProviderConfig μ}

theorem withClient_shadowed {body : Exchange μ α}
    (hbody : body.shadowed (circuitShadow μ)
      (fun _ held _ _ => held = some (config.backend, .dispatcher)) now
      (some (config.backend, .dispatcher)) m) :
    (withClient config body).shadowed (circuitShadow μ)
      (fun _ held _ _ => held = some (config.backend, .dispatcher)) now
      (some (config.backend, .dispatcher)) m := by
  rw [withClient]
  apply Coro.shadowed_bind
  apply Coro.shadowed_attempt
  apply Coro.shadowed_mono hbody
  rintro now held m' out rfl
  apply Coro.shadowed_bind
  exact Coro.shadowed_ask rfl rfl fun reply later m'' => Coro.shadowed_settle rfl

theorem generate_shadowed :
    (generate config request).shadowed (circuitShadow μ)
      (fun _ held _ _ => held = some (config.backend, .dispatcher)) now
      (some (config.backend, .dispatcher)) m := by
  apply Coro.shadowed_rescue
  apply Coro.shadowed_mono
  · apply withClient_shadowed
    rw [complete]
    cases config.apiKey with
    | none => exact rfl
    | some key =>
        apply Coro.shadowed_bind
        apply Coro.shadowed_mono post_shadowed
        rintro now held m' out rfl
        cases out with
        | ok response => exact Coro.shadowed_settle rfl
        | error error => exact rfl
  · rintro now held m' out rfl
    cases out with
    | ok text => exact rfl
    | error error => exact rfl

/-- Nobody has had the floor since the provider was looked up, so it is found again. -/
theorem execute_shadowed (hfound : m.shared.registry.getProvider? providerId = some config) :
    (execute providerId request).shadowed (circuitShadow μ)
      (fun _ held _ _ => held = some (config.backend, .dispatcher)) now
      (some (config.backend, .dispatcher)) m := by
  apply Coro.shadowed_rescue
  apply Coro.shadowed_bind
  rw [resolve]
  apply Coro.shadowed_get_bind
  simp only [hfound]
  cases config.enabled with
  | false => exact rfl
  | true =>
      apply Coro.shadowed_mono generate_shadowed
      rintro now held m' out rfl
      cases out with
      | ok text => exact rfl
      | error error => exact rfl

/-- The failure is reported, which ends the call, and it is raised again. -/
theorem reportFailure_shadowed {error : UpstreamError} :
    (reportFailure (α := α) backend error).shadowed (circuitShadow μ)
      (fun _ held _ out => out = .error error ∧ held = none) now (some (backend, .dispatcher))
      m := by
  rw [reportFailure]
  cases unavailable? error with
  | some unavailable =>
      apply Coro.shadowed_bind
      apply Coro.shadowed_mono (recordFailure_shadowed
        (.dispatch (.unavailable (unavailable.failureScope.getD .nonTransient))) ?_)
      · rintro _ held m' _ ⟨hheld, rfl, -⟩
        exact ⟨rfl, hheld⟩
      · cases unavailable.failureScope with
        | none => rfl
        | some scope => cases scope <;> rfl
  | none =>
      apply Coro.shadowed_bind
      apply Coro.shadowed_mono (setCircuit_shadowed (.dispatch .cancelled) rfl)
      rintro _ held m' _ ⟨hheld, rfl, -⟩
      exact ⟨rfl, hheld⟩

/-- A dispatch holds nothing before and after. -/
theorem dispatch_shadowed :
    (dispatch providerId request).shadowed (circuitShadow μ) (fun _ held _ _ => held = none) now
      none m := by
  rw [dispatch]
  apply Coro.shadowed_get_bind
  cases hfound : m.shared.registry.getProvider? providerId with
  | none => exact rfl
  | some config =>
      apply Coro.shadowed_bind
      apply Coro.shadowed_mono (allowRequest_shadowed .dispatcher)
      rintro now held m' out ⟨hregistry, rfl⟩
      rcases out with error | admitted
      · exact rfl
      · cases admitted with
        | false => exact rfl
        | true =>
            simp only [if_true]
            apply Coro.shadowed_bind
            apply Coro.shadowed_rescue
            rw [← hregistry] at hfound
            apply Coro.shadowed_mono (execute_shadowed hfound)
            rintro now held m' out rfl
            cases out with
            | ok response =>
                apply Coro.shadowed_bind
                apply Coro.shadowed_mono (recordSuccess_shadowed (.dispatch .success) rfl)
                rintro _ held m' out rfl
                cases out with
                | ok value => exact rfl
                | error error => exact rfl
            | error error =>
                apply Coro.shadowed_mono reportFailure_shadowed
                rintro _ held m' _ ⟨rfl, rfl⟩
                exact rfl

end ProviderDispatcher

/-- No write of the engine's own touches the circuits. -/
theorem leaves_compositional (tenantId : String) :
    Compositional (μ := μ) tenantId fun _ routine =>
      routine.Leaves fun m => m.shared.circuits where
  pure _ := trivial
  raise _ := trivial
  bind h hnext := h.seq hnext fun _ => trivial
  attempt h := h.seq (fun _ => trivial) fun _ => trivial
  ask _ _ := trivial
  note _ := ⟨fun _ => rfl, trivial⟩
  look h _ := h
  audit _ := ⟨fun _ => rfl, trivial⟩
  create engine call _ := by
    apply Coro.leaves_get_bind
    intro m
    cases m.shared.conversations.load call.request.conversationId call.tenantId with
    | some stored => trivial
    | none => exact ⟨fun _ => rfl, trivial⟩
  writeBack state := by
    apply Coro.leaves_get_bind
    intro m
    cases m.shared.conversations.update state tenantId with
    | none => trivial
    | some conversations => exact ⟨fun _ => rfl, trivial⟩

namespace Routers

variable (routers : Routers) {now : ℚ} {m : Memory μ}

theorem awaited_shadowed {exchange : Exchange μ α}
    (h : exchange.shadowed (circuitShadow μ) (fun _ held _ _ => held = none) now none m) :
    (awaited exchange).shadowed (circuitShadow μ) (fun _ held _ _ => held = none) now none m := by
  apply Coro.shadowed_attempt
  apply Coro.shadowed_rescue
  apply Coro.shadowed_mono h
  rintro now held m' out rfl
  cases out with
  | ok value => exact rfl
  | error error => exact rfl

/-- The program behind a question holds nothing before and after. -/
theorem program_shadowed (query : EngineQuery) :
    (routers.program query).shadowed (circuitShadow μ) (fun _ held _ _ => held = none) now none
      m := by
  cases query with
  | loopTime => exact Coro.shadowed_ask_local rfl fun _ => rfl
  | decide tier request =>
      apply awaited_shadowed
      apply Coro.shadowed_bind
      apply Coro.shadowed_mono (routers tier).decide_shadowed
      rintro now held m' out rfl
      cases out with
      | ok decision => exact rfl
      | error error => exact rfl
  | dispatch providerId request => exact awaited_shadowed ProviderDispatcher.dispatch_shadowed
  | process response => exact Coro.shadowed_ask_local rfl fun _ => rfl

/-- So does a `handle` call. -/
theorem handle_shadowed [Metric μ] (engine : RoutingEngine) (call : HandleCall) :
    (routers.handle engine call).shadowed (circuitShadow μ) (fun _ held _ _ => held = none) now
      none m :=
  Coro.shadowed_inline (fun _ _ _ h => Or.inl ⟨rfl, h⟩)
    (fun query _ _ => routers.program_shadowed query)
    (leaves_compositional call.tenantId).handle now m

end Routers

end LLMRouting
