/-
# Candidates that are withdrawn while their chain runs

The candidates of a chain are computed once, and each of its dispatches suspends, so a later
candidate may be disabled, replaced or removed before its turn comes. `dispatch` looks the provider
up twice: before it asks the circuit, where an unknown id is the registry's own error, and in
`resolve`, where it is a `ProviderUnavailableError`. Nothing happens between the two, so a
candidate that was disabled is passed over, and one that was removed ends the request. So does one
that was replaced by a provider without a key, and one that is removed while its own dispatch is
awaited, if diagnostics are built afterwards, since they look it up a third time.
-/

import LLMRouting.Providers.CircuitInvariant
import LLMRouting.Routing.Circuits
import LLMRouting.Routing.FailureClasses
import LLMRouting.Upstream.Refusals
import LLMRouting.Upstream.SharedCircuit

namespace LLMRouting

open LLMRouting.Interaction

variable {μ α : Type}

/-- Every circuit is one that its operations can have made. -/
def SoundCircuits (m : Memory μ) : Prop := ∀ backend, (m.shared.circuits backend).WellFormed

theorem ofCircuits_soundCircuits : OfCircuits (SoundCircuits (μ := μ)) := by
  intro m m' hcircuits hm backend
  rw [hcircuits]
  exact hm backend

section Programs

open Exchange Coro

theorem setCircuit_maintains {backend : Backend} {update : BackendCircuit → BackendCircuit}
    (h : ∀ circuit : BackendCircuit, circuit.WellFormed → (update circuit).WellFormed) :
    (setCircuit (μ := μ) backend update).Maintains SoundCircuits := by
  apply maintains_modify
  intro m hm other
  show (Function.update m.shared.circuits backend
    (update (m.shared.circuits backend)) other).WellFormed
  by_cases hother : other = backend
  · subst hother
    rw [Function.update_self]
    exact h _ (hm other)
  · rw [Function.update_of_ne hother]
    exact hm other

theorem allowRequest_maintains {backend : Backend} :
    (allowRequest (μ := μ) backend).Maintains SoundCircuits := by
  apply maintains_ask.bind
  intro now
  apply maintains_get_bind
  intro m hm
  split
  · exact maintains_raise
  · rename_i admitted circuit hallowed
    have hcircuit : circuit.WellFormed :=
      (hm backend).admission (BackendCircuit.admission_of_allowRequest hallowed)
    exact (setCircuit_maintains fun _ _ => hcircuit).bind fun _ => maintains_pure

theorem recordSuccess_maintains {backend : Backend} :
    (recordSuccess (μ := μ) backend).Maintains SoundCircuits :=
  setCircuit_maintains fun _ _ => BackendCircuit.wellFormed_recordSuccess

theorem recordFailure_maintains {backend : Backend} {backendTransient : Bool} :
    (recordFailure (μ := μ) backend backendTransient).Maintains SoundCircuits := by
  apply maintains_ask.bind
  intro now
  exact setCircuit_maintains fun circuit h => h.report (.failure backendTransient)

theorem releaseProbe_maintains {backend : Backend} :
    (releaseProbe (μ := μ) backend).Maintains SoundCircuits :=
  setCircuit_maintains fun circuit h =>
    (h.report .release : (circuit.report 0 .release).WellFormed)

theorem post_maintains {caller : UpstreamCaller} {backend : Backend} :
    (post (μ := μ) caller backend).Maintains SoundCircuits := by
  apply maintains_ask.bind
  exact fun reply => maintains_settle

/-- A router keeps the circuits in order. -/
theorem StructuredHTTPRouter.decide_maintains {router : StructuredHTTPRouter} {tier : RouterTier}
    {request : RouterRequest} :
    (router.decide (μ := μ) tier request).Maintains SoundCircuits := by
  have hraise : ∀ {α : Type} {error : UpstreamError},
      (router.raiseUnavailable (μ := μ) (α := α) error).Maintains SoundCircuits :=
    recordFailure_maintains.bind fun _ => maintains_raise
  have hexchange : ∀ {caller : UpstreamCaller},
      (router.exchange (μ := μ) caller).Maintains SoundCircuits := by
    intro caller
    apply post_maintains.rescue
    intro error
    split
    · exact hraise
    · exact maintains_raise
  have hrepair : (router.repair (μ := μ) tier request).Maintains SoundCircuits := by
    apply hexchange.bind
    intro response
    split
    · exact maintains_pure
    · exact recordFailure_maintains.bind fun _ => maintains_raise
    · exact maintains_raise
  have hladder : (router.decideWithRepair (μ := μ) tier request).Maintains SoundCircuits := by
    apply hexchange.bind
    intro response
    split
    · exact maintains_pure
    · exact hrepair
    · exact maintains_raise
  apply allowRequest_maintains.bind
  intro admitted
  split
  · apply Maintains.bind
    · apply hladder.rescue
      intro error
      split
      · exact hraise
      · exact releaseProbe_maintains.bind fun _ => maintains_raise
    · exact fun _ => recordSuccess_maintains.bind fun _ => maintains_pure
  · exact maintains_raise

/-- A dispatch keeps the circuits in order. -/
theorem ProviderDispatcher.dispatch_maintains {providerId : String} {request : ProviderRequest} :
    (ProviderDispatcher.dispatch (μ := μ) providerId request).Maintains SoundCircuits := by
  have hgenerate : ∀ config : ProviderConfig μ,
      (ProviderDispatcher.generate config request).Maintains SoundCircuits := by
    intro config
    apply Maintains.translate
    apply Maintains.bind
    · apply Maintains.attempt
      rw [ProviderDispatcher.complete]
      split
      · exact maintains_raise
      · exact post_maintains.bind fun _ => maintains_settle
    · exact fun _ => maintains_ask.bind fun _ => maintains_settle
  have hexecute :
      (ProviderDispatcher.execute (μ := μ) providerId request).Maintains SoundCircuits := by
    apply Maintains.translate
    apply Maintains.bind
    · apply maintains_get_bind
      intro m _
      split
      · exact maintains_raise
      · split
        · exact maintains_pure
        · exact maintains_raise
    · exact hgenerate
  have hreport : ∀ {backend : Backend} {error : UpstreamError},
      (ProviderDispatcher.reportFailure (μ := μ) (α := String) backend error).Maintains
        SoundCircuits := by
    intro backend error
    rw [ProviderDispatcher.reportFailure]
    split
    · exact recordFailure_maintains.bind fun _ => maintains_raise
    · exact releaseProbe_maintains.bind fun _ => maintains_raise
  apply maintains_get_bind
  intro m _
  split
  · exact maintains_raise
  · apply allowRequest_maintains.bind
    intro admitted
    split
    · apply (hexecute.rescue fun error => hreport).bind
      exact fun _ => recordSuccess_maintains.bind fun _ => maintains_pure
    · exact maintains_raise

/-- The programs behind the engine's questions keep the circuits in order. -/
theorem program_maintains (routers : Routers) (query : EngineQuery) :
    (routers.program (μ := μ) query).Maintains SoundCircuits := by
  cases query with
  | loopTime => exact maintains_ask
  | process response => exact maintains_ask
  | decide tier request =>
      apply Maintains.attempt
      apply Maintains.translate
      exact StructuredHTTPRouter.decide_maintains.bind fun _ => maintains_pure
  | dispatch providerId request =>
      exact ProviderDispatcher.dispatch_maintains.translate.attempt

end Programs

/-- Nothing can be dispatched to the provider: it is not registered, or not enabled. -/
def Registry.withdrawn (registry : Registry μ) (providerId : String) : Bool :=
  !(registry.getProvider? providerId).any ProviderConfig.enabled

section Dispatch

open Exchange ProviderDispatcher

variable {rely : Memory μ → Memory μ → Prop} {m : Memory μ} {providerId : String}
  {request : ProviderRequest}

/-- A slot that was just taken is given back. -/
theorem BackendCircuit.Admission.inflight_releaseProbe_le {circuit circuit' : BackendCircuit}
    {now : ℚ} {admitted : Bool} (h : Admission circuit now admitted circuit')
    (hadmitted : admitted = true) :
    circuit'.releaseProbe.halfOpenInflight ≤ circuit.halfOpenInflight := by
  cases h with
  | cooling | full => cases hadmitted
  | closed state => simp [BackendCircuit.releaseProbe, state]
  | probe state free => simp [BackendCircuit.releaseProbe, state]
  | firstProbe state opened late => simp [BackendCircuit.releaseProbe]

/-- No circuit has more slots taken. -/
def HoldsNoSlot (m m' : Memory μ) : Prop :=
  ∀ backend, (m'.shared.circuits backend).halfOpenInflight ≤
    (m.shared.circuits backend).halfOpenInflight

theorem HoldsNoSlot.of_update {backend : Backend} {circuit : BackendCircuit}
    (h : circuit.halfOpenInflight ≤ (m.shared.circuits backend).halfOpenInflight) :
    HoldsNoSlot m { m with shared :=
      { m.shared with circuits := Function.update m.shared.circuits backend circuit } } := by
  intro other
  by_cases hother : other = backend
  · subst hother
    simpa using h
  · simp [Function.update_of_ne hother]

theorem HoldsNoSlot.of_updates {backend : Backend} {taken circuit : BackendCircuit}
    (h : circuit.halfOpenInflight ≤ (m.shared.circuits backend).halfOpenInflight) :
    HoldsNoSlot m { m with shared :=
      { m.shared with
        circuits := Function.update (Function.update m.shared.circuits backend taken) backend
          circuit } } := by
  rw [Function.update_idem]
  exact .of_update h

/-- The circuit in order answers, and nothing else changes. -/
theorem allowRequest_updates {backend : Backend} (hsound : SoundCircuits m) :
    (allowRequest backend).wp (Contract.relying rely) (fun trace m' out =>
      ∃ now admitted circuit, Recorded trace [] [] [now] ∧
        (m.shared.circuits backend).allowRequest now = some (admitted, circuit) ∧
        m' = { m with shared :=
          { m.shared with circuits := Function.update m.shared.circuits backend circuit } } ∧
        out = .ok admitted) m := by
  rw [allowRequest, Coro.wp_bind]
  apply Coro.wp_mono monotonic_reads
  rintro trace m₁ _ ⟨rfl, now, hclock, rfl⟩
  obtain ⟨⟨admitted, circuit⟩, hallowed⟩ := (hsound backend).exists_allowRequest now
  simp only [Coro.wp_bind, Coro.wp_get, hallowed]
  exact ⟨trivial, now, admitted, circuit, hclock.stop, hallowed, rfl, rfl⟩

/-- The second lookup finds a disabled provider disabled. -/
theorem execute_disabled {config : ProviderConfig μ}
    (hconfig : m.shared.registry.getProvider? providerId = some config)
    (hdisabled : config.enabled = false) :
    (execute providerId request).wp (Contract.relying rely) (fun trace m' out =>
      trace = [] ∧ m' = m ∧ out = .error (.ofException
        { kind := .providerDisabled, failureReason := some "UNKNOWN" })) m := by
  rw [execute, resolve]
  simp only [Coro.wp_translate, Coro.wp_bind, Coro.wp_get, hconfig, hdisabled, Bool.false_eq_true,
    if_false]
  exact ⟨rfl, rfl, rfl⟩

/-- A disabled provider is a controlled failure, wherever its circuit is: refused, or admitted
and released. -/
theorem ProviderDispatcher.dispatch_disabled {config : ProviderConfig μ}
    (hconfig : m.shared.registry.getProvider? providerId = some config)
    (hdisabled : config.enabled = false) (hsound : SoundCircuits m) :
    (dispatch providerId request).wp (Contract.relying rely) (fun trace m' out =>
      postings trace = [] ∧ HoldsNoSlot m m' ∧
        ∃ error, out = .error (.ofException error) ∧ Routine.isControlled error = true) m := by
  rw [dispatch]
  simp only [Coro.wp_bind, Coro.wp_get, hconfig]
  apply Coro.wp_mono (allowRequest_updates hsound)
  rintro trace m₁ _ ⟨now, admitted, circuit, hclock, hallowed, hm₁, rfl⟩
  cases admitted with
  | false =>
      refine ⟨?_, ?_, _, rfl, rfl⟩
      · simpa using hclock.postings_eq
      · rw [hm₁]
        apply HoldsNoSlot.of_update
        rw [BackendCircuit.eq_of_denied hallowed]
  | true =>
      have hadmission := BackendCircuit.admission_of_allowRequest hallowed
      have hfound : m₁.shared.registry.getProvider? providerId = some config := by
        rw [hm₁]
        exact hconfig
      simp only [if_true, Coro.wp_bind, Coro.wp_rescue]
      apply Coro.wp_mono (execute_disabled hfound hdisabled)
      rintro rest m₂ _ ⟨rfl, rfl, rfl⟩
      subst hm₁
      refine ⟨trivial, ?_, ?_, _, rfl, rfl⟩
      · simpa using hclock.postings_eq
      · apply HoldsNoSlot.of_updates
        simpa only [Function.update_self] using hadmission.inflight_releaseProbe_le rfl

/-- A provider that is gone is the registry's own error. -/
theorem ProviderDispatcher.dispatch_unregistered
    (hnone : m.shared.registry.getProvider? providerId = none) :
    (dispatch providerId request).wp (Contract.relying rely) (fun trace m' out =>
      trace = [] ∧ m' = m ∧ out = .error (.ofException { kind := .unknownProvider })) m := by
  rw [dispatch]
  simp only [Coro.wp_bind, Coro.wp_get, hnone]
  exact ⟨rfl, rfl, rfl⟩

/-- What a dispatch turns into a `ProviderUnavailableError`, or is cancelled by. -/
def UpstreamError.isCaught (error : UpstreamError) : Bool :=
  error.isProviderFailure || error.isTimeoutError ||
    match error with
    | .raised (.cancelled _) => true
    | _ => false

/-- An awaited operation returns, or fails with what a dispatch catches. -/
def isBorne : Except UpstreamError α → Bool
  | .ok _ => true
  | .error error => error.isCaught

/-- Nothing that was awaited raised what a dispatch does not catch. -/
structure AwaitsCaught (trace : List (SystemEvent μ)) : Prop where
  posted : ∀ posting ∈ postings trace, isBorne (received posting.reply) = true
  closed : ∀ closing ∈ closings trace,
    isBorne (closing.reply.mapError TransportFailure.toError) = true

instance (trace : List (SystemEvent μ)) : Decidable (AwaitsCaught trace) :=
  decidable_of_iff ((∀ posting ∈ postings trace, isBorne (received posting.reply) = true) ∧
      ∀ closing ∈ closings trace, isBorne (closing.reply.mapError TransportFailure.toError) = true)
    ⟨fun h => ⟨h.1, h.2⟩, fun h => ⟨h.posted, h.closed⟩⟩

theorem AwaitsCaught.of_subset {trace part : List (SystemEvent μ)} (h : AwaitsCaught trace)
    (hpart : part ⊆ trace) : AwaitsCaught part where
  posted := fun posting hposting => h.posted posting (List.filterMap_subset _ hpart hposting)
  closed := fun closing hclosing => h.closed closing (List.filterMap_subset _ hpart hclosing)

/-- An error with which the chain goes on, or a cancellation. -/
def IsControlledError (error : UpstreamError) : Prop :=
  (∃ byDeadline, error = .raised (.cancelled byDeadline)) ∨
    ∃ raised, error = .ofException raised ∧ Routine.isControlled raised = true

theorem isControlledError_of_caught {error : UpstreamError} (h : error.isCaught = true) :
    IsControlledError (executed (generated error)) := by
  cases error with
  | http error | defect error => exact .inr ⟨_, rfl, rfl⟩
  | raised interruption =>
      cases interruption with
      | cancelled byDeadline => exact .inl ⟨byDeadline, rfl⟩
      | raised error =>
          by_cases hfailure : (UpstreamError.raised (.raised error)).isProviderFailure = true
          · rw [generated, if_pos hfailure]
            exact .inr ⟨_, rfl, rfl⟩
          · have htimeout : (UpstreamError.raised (.raised error)).isTimeoutError = true := by
              simpa [UpstreamError.isCaught, hfailure] using h
            rw [generated, if_neg hfailure, executed, if_pos htimeout]
            exact .inr ⟨_, rfl, rfl⟩

/-- What an exchange with a client came to is caught if both of its parts are. -/
theorem isBorne_closed {outcome : Except UpstreamError String}
    {closing : Except TransportFailure Unit} (houtcome : isBorne outcome = true)
    (hclosing : isBorne (closing.mapError TransportFailure.toError) = true) :
    isBorne (closed outcome closing) = true := by
  cases closing with
  | ok done => exact houtcome
  | error failure => exact hclosing

/-- A provider with a key fails in a controlled way unless something is raised that is not
caught. -/
theorem execute_enabled {config : ProviderConfig μ} (hrely : Bearable rely)
    (hconfig : m.shared.registry.getProvider? providerId = some config)
    (henabled : config.enabled = true) (hkeyed : config.apiKey ≠ none) :
    (execute providerId request).wp (Contract.relying rely) (fun trace _ out =>
      AwaitsCaught trace → ∀ error, out = .error error → IsControlledError error) m := by
  rw [execute, resolve]
  simp only [Coro.wp_translate, Coro.wp_bind, Coro.wp_get, hconfig, henabled, if_true]
  apply Coro.wp_pure.mpr
  apply Coro.wp_mono (generate_posts hrely)
  rintro trace m' _ ⟨posted, outcome, closing, hcompleted, hexchanged, rfl⟩ hcaught error herror
  cases hcompleted with
  | keyless unkeyed => exact absurd unkeyed hkeyed
  | posted keyed reply =>
      have hposted : isBorne (received reply) = true := by
        apply hcaught.posted ⟨.provider config.id request, config.backend, reply⟩
        simp [hexchanged.postings_eq]
      have hclosed : isBorne (closing.mapError TransportFailure.toError) = true := by
        apply hcaught.closed ⟨config.backend, pending (received reply), closing⟩
        simp [hexchanged.closings_eq]
      have hborne := isBorne_closed hposted hclosed
      cases hresult : closed (received reply) closing with
      | ok text =>
          rw [hresult] at herror
          cases herror
      | error failure =>
          rw [hresult] at hborne herror
          rw [← Except.error.inj herror]
          exact isControlledError_of_caught hborne

/-- A dispatch to an enabled provider with a key fails in a controlled way unless something is
raised that is not caught. -/
theorem ProviderDispatcher.dispatch_enabled {config : ProviderConfig μ} (hrely : Bearable rely)
    (hconfig : m.shared.registry.getProvider? providerId = some config)
    (hsound : SoundCircuits m) (henabled : config.enabled = true) (hkeyed : config.apiKey ≠ none) :
    (dispatch providerId request).wp (Contract.relying rely) (fun trace _ out =>
      AwaitsCaught trace → ∀ error, out = .error error → IsControlledError error) m := by
  rw [dispatch]
  simp only [Coro.wp_bind, Coro.wp_get, hconfig]
  apply Coro.wp_mono (allowRequest_updates hsound)
  rintro trace m₁ _ ⟨now, admitted, circuit, hclock, hallowed, hm₁, rfl⟩
  cases admitted with
  | false =>
      rintro - error ⟨⟩
      exact .inr ⟨_, rfl, rfl⟩
  | true =>
      have hfound : m₁.shared.registry.getProvider? providerId = some config := by
        rw [hm₁]
        exact hconfig
      simp only [if_true, Coro.wp_bind, Coro.wp_rescue]
      apply Coro.wp_mono (execute_enabled hrely hfound henabled hkeyed)
      intro rest m₂ out hout
      cases out with
      | ok text =>
          apply Coro.wp_mono (setCircuit_silent hrely)
          rintro last m₃ _ ⟨-, -, rfl⟩ - error ⟨⟩
      | error failure =>
          apply Coro.wp_mono (reportFailure_silent hrely)
          rintro last m₃ _ ⟨-, rfl⟩ hcaught error ⟨⟩
          exact hout (hcaught.of_subset fun event hevent => by simp [hevent]) failure rfl

end Dispatch

/-- The exception a dispatch ended in. -/
def EngineEvent.dispatchError? : EngineEvent μ → Option PyException
  | ⟨.dispatch _ _, _, .error (.raised error)⟩ => some error
  | _ => none

/-- The provider that the dispatch returned a response of. -/
def EngineEvent.responder? : EngineEvent μ → Option String
  | ⟨.dispatch providerId _, _, .ok _⟩ => some providerId
  | _ => none

/-- The gateway cleans, and the clock shows that there is time left. -/
def EngineEvent.GoesThrough : EngineEvent μ → Prop
  | ⟨.process _, _, reply⟩ => ∃ clean, reply = .ok clean
  | ⟨.loopTime, asked, now⟩ => now < asked.own.deadline
  | _ => True

section Chain

variable {request : ProviderRequest} {ending : ChainEnding μ} {candidates : List (ProviderConfig μ)}
  {blocked : List Backend} {lastError : Option PyException}
  {trace before after : List (EngineEvent μ)}
  {attempts : List ProviderAttempt} {event : EngineEvent μ} {error : PyException}

theorem ChainStop.uncontrolled
    (h : ChainStop request blocked lastError candidates trace attempts ending) :
    ∀ event ∈ trace, ∀ error, EngineEvent.dispatchError? event = some error →
      Routine.isControlled error = false := by
  cases h with
  | exhausted => exact List.forall_mem_nil _
  | unexpected early unblocked uncontrolled =>
      intro event hevent error herror
      rcases List.mem_pair.mp hevent with rfl | rfl
      · cases herror
      · cases herror
        exact uncontrolled
  | found late | cancelled early unblocked overtaken | gatewayFailed early unblocked
  | late early unblocked late | committed early unblocked inTime ended =>
      simp [EngineEvent.dispatchError?]

/-- After a controlled failure the rest of the chain is a chain over the candidates behind. -/
theorem ChainRun.goes_on
    (h : ChainRun request ending candidates blocked lastError trace attempts)
    (htrace : trace = before ++ event :: after)
    (herror : EngineEvent.dispatchError? event = some error)
    (hcontrolled : Routine.isControlled error = true) :
    ∃ passed candidate later blocked' attempts', candidates = passed ++ candidate :: later ∧
      EngineEvent.dispatched? event = some candidate.id ∧
      ChainRun request ending later blocked' (some error) after attempts' := by
  induction h generalizing before with
  | stop last =>
      have hmem : event ∈ before ++ event :: after := List.mem_append_right _ List.mem_cons_self
      rw [last.uncontrolled event (htrace ▸ hmem) error herror] at hcontrolled
      cases hcontrolled
  | @skipped candidate rest blocked lastError asked now trace attempts early refused later ih =>
      cases before with
      | nil =>
          obtain ⟨rfl, -⟩ := List.cons.inj htrace
          cases herror
      | cons first before =>
          obtain ⟨passed, found, behind, blocked', attempts', rfl, hid, hrest⟩ :=
            ih (List.cons.inj htrace).2
          exact ⟨candidate :: passed, found, behind, blocked', attempts', rfl, hid, hrest⟩
  | @failed candidate rest blocked lastError asked dispatched now failure trace attempts early
      unblocked controlled later ih =>
      cases before with
      | nil =>
          obtain ⟨rfl, -⟩ := List.cons.inj htrace
          cases herror
      | cons first before =>
          have hrest := (List.cons.inj htrace).2
          cases before with
          | nil =>
              obtain ⟨rfl, rfl⟩ := List.cons.inj hrest
              cases herror
              exact ⟨[], candidate, rest, _, attempts, rfl, rfl, later⟩
          | cons second before =>
              obtain ⟨passed, found, behind, blocked', attempts', rfl, hid, hrest⟩ :=
                ih (List.cons.inj hrest).2
              exact ⟨candidate :: passed, found, behind, blocked', attempts', rfl, hid, hrest⟩

/-- An unexpected failure is that of the last dispatch. -/
theorem ChainRun.unexpected_last
    (h : ChainRun request ending candidates blocked lastError trace attempts)
    (hending : ending = .unexpected error) :
    ∃ event ∈ trace.getLast?, EngineEvent.dispatchError? event = some error ∧
      Routine.isControlled error = false := by
  induction h with
  | stop last =>
      cases last with
      | unexpected early unblocked uncontrolled =>
          cases hending
          exact ⟨_, rfl, rfl, uncontrolled⟩
      | committed early unblocked inTime ended =>
          subst hending
          rcases ended with ended | ended
          · cases ended
          · cases ended
      | exhausted | found late | cancelled early unblocked overtaken
      | gatewayFailed early unblocked | late early unblocked late => cases hending
  | skipped early refused later ih | failed early unblocked controlled later ih =>
      obtain ⟨event, hlast, herror⟩ := ih
      refine ⟨event, ?_, herror⟩
      rw [Option.mem_def] at hlast ⊢
      simp only [List.getLast?_cons, hlast, Option.getD_some]

/-- A chain with a response has dispatched the responder; it does not fail if what follows goes
through. -/
theorem ChainRun.responds {candidate : ProviderConfig μ}
    (h : ChainRun request ending candidates blocked lastError trace attempts)
    (hresponder : ending.responder? = some candidate) :
    ∃ before event after, trace = before ++ event :: after ∧
      EngineEvent.responder? event = some candidate.id ∧
        ((∀ later ∈ after, EngineEvent.GoesThrough later) → ending.failing? = none) := by
  induction h with
  | stop last =>
      cases last with
      | exhausted | found late | cancelled early unblocked overtaken
      | unexpected early unblocked uncontrolled => cases hresponder
      | gatewayFailed early unblocked =>
          cases hresponder
          refine ⟨[_], _, [_], rfl, rfl, fun hafter => ?_⟩
          obtain ⟨clean, hclean⟩ := hafter _ List.mem_cons_self
          cases hclean
      | late early unblocked late =>
          cases hresponder
          refine ⟨[_], _, [_, _], rfl, rfl, fun hafter => ?_⟩
          have hearly := hafter _ (List.mem_cons_of_mem _ List.mem_cons_self)
          exact absurd late (not_le_of_gt hearly)
      | committed early unblocked inTime ended =>
          rcases ended with rfl | rfl
          · cases hresponder
            exact ⟨[_], _, [_, _], rfl, rfl, fun _ => rfl⟩
          · cases hresponder
            exact ⟨[_], _, [_, _], rfl, rfl, fun _ => rfl⟩
  | skipped early refused later ih =>
      obtain ⟨before, event, after, rfl, hevent⟩ := ih
      exact ⟨_ :: before, event, after, rfl, hevent⟩
  | failed early unblocked controlled later ih =>
      obtain ⟨before, event, after, rfl, hevent⟩ := ih
      exact ⟨_ :: _ :: before, event, after, rfl, hevent⟩

/-- A chain in which a dispatch returns has a responder. -/
theorem ChainRun.responder_ne_none
    (h : ChainRun request ending candidates blocked lastError trace attempts)
    (hevent : event ∈ trace) (hresponder : EngineEvent.responder? event ≠ none) :
    ending.responder? ≠ none := by
  induction h with
  | stop last =>
      cases last with
      | exhausted => cases hevent
      | found late | cancelled early unblocked overtaken
      | unexpected early unblocked uncontrolled =>
          simp only [List.mem_cons, List.not_mem_nil, or_false] at hevent
          rcases hevent with rfl | rfl | rfl | rfl <;> exact absurd rfl hresponder
      | gatewayFailed early unblocked | late early unblocked late => exact Option.some_ne_none _
      | committed early unblocked inTime ended =>
          rcases ended with rfl | rfl
          · exact Option.some_ne_none _
          · exact Option.some_ne_none _
  | skipped early refused later ih =>
      rcases List.mem_cons.mp hevent with rfl | hevent
      · exact absurd rfl hresponder
      · exact ih hevent
  | failed early unblocked controlled later ih =>
      rcases List.mem_cons.mp hevent with rfl | hevent
      · exact absurd rfl hresponder
      rcases List.mem_cons.mp hevent with rfl | hevent
      · exact absurd rfl hresponder
      · exact ih hevent

end Chain

/-- After `event` the call goes on with the candidates behind the one that was dispatched: what
follows is a chain over them, and the call ends as that chain does. -/
def GoesOn (call : HandleCall) (before : List (EngineEvent μ)) (event : EngineEvent μ)
    (error : PyException) (after : List (EngineEvent μ)) (m' : Memory μ)
    (out : Except Raised RoutingResponse) : Prop :=
  ∃ earlier begun tried passed candidate later request ending blocked attempts,
    before = earlier ++ begun :: tried ∧
    call.offered begun.memory = passed ++ candidate :: later ∧
    EngineEvent.dispatched? event = some candidate.id ∧
    ChainRun request ending later blocked (some error) after attempts ∧
    Concludes m' (.chain ending) out

/-- What has been asked before does not matter. -/
theorem GoesOn.cons {call : HandleCall} {before after : List (EngineEvent μ)}
    {event : EngineEvent μ} {error : PyException} {m' : Memory μ}
    {out : Except Raised RoutingResponse} (h : GoesOn call before event error after m' out)
    (first : EngineEvent μ) : GoesOn call (first :: before) event error after m' out := by
  obtain ⟨earlier, begun, tried, passed, candidate, later, request, ending, blocked, attempts,
    rfl, hgoes⟩ := h
  exact ⟨first :: earlier, begun, tried, passed, candidate, later, request, ending, blocked,
    attempts, rfl, hgoes⟩

theorem EngineEvent.dispatched?_ne_none {event : EngineEvent μ} {error : PyException}
    (h : EngineEvent.dispatchError? event = some error) : EngineEvent.dispatched? event ≠ none := by
  obtain ⟨query, asked, reply⟩ := event
  cases query with
  | dispatch providerId request => exact Option.some_ne_none providerId
  | loopTime | process response | decide tier request => cases h

theorem RouteRun.goes_on {call : HandleCall} {ending : HandleEnding μ} {blocked : List Backend}
    {trace before after : List (EngineEvent μ)} {event : EngineEvent μ} {error : PyException}
    {routers : List RouterAttempt} {providers : List ProviderAttempt} {m' : Memory μ}
    {out : Except Raised RoutingResponse}
    (h : RouteRun call ending blocked trace routers providers)
    (htrace : trace = before ++ event :: after)
    (herror : EngineEvent.dispatchError? event = some error)
    (hcontrolled : Routine.isControlled error = true) (hconcludes : Concludes m' ending out) :
    GoesOn call before event error after m' out := by
  have hevent := EngineEvent.dispatched?_ne_none herror
  cases h.chainPart with
  | unchained undispatched unanswered =>
      have hmem : event ∈ before ++ event :: after := List.mem_append_right _ List.mem_cons_self
      exact (hevent (dispatched_eq_nil_iff.mp undispatched event (htrace ▸ hmem))).elim
  | chained undispatched unrefused offered chain ended =>
      obtain ⟨tried, rfl, rfl⟩ := split_of_undispatched undispatched hevent htrace
      obtain ⟨passed, candidate, later, blocked', attempts, hcandidates, hid, hlater⟩ :=
        chain.goes_on rfl herror hcontrolled
      subst ended
      cases tried with
      | nil =>
          -- A chain looks at the clock before it dispatches.
          rcases chain.head?_isLoopTime with ⟨hnil, -⟩ | hhead
          · cases hnil
          · obtain ⟨query, asked, reply⟩ := event
            cases query with
            | loopTime => cases herror
            | dispatch providerId request | process response | decide tier request => cases hhead
      | cons begun tried =>
          have hoffered := offered begun rfl
          exact ⟨_, begun, tried, passed, candidate, later, _, _, blocked', attempts, rfl,
            hoffered.trans hcandidates, hid, hlater, hconcludes⟩

section Route

variable {call : HandleCall} {ending : HandleEnding μ} {blocked : List Backend}
  {trace : List (EngineEvent μ)} {event : EngineEvent μ} {routers : List RouterAttempt}
  {providers : List ProviderAttempt}

/-- A call that ends in an internal error after a dispatch does so because of it. -/
theorem RouteRun.unexpected_last (h : RouteRun call ending blocked trace routers providers)
    {reason : String} (hfailing : ending.failing? = some (.internalError, reason))
    (hlast : event ∈ trace.getLast?) (hevent : EngineEvent.dispatched? event ≠ none) :
    ∃ error, EngineEvent.dispatchError? event = some error ∧
      Routine.isControlled error = false := by
  cases h.chainPart with
  | unchained undispatched unanswered =>
      exact (hevent (dispatched_eq_nil_iff.mp undispatched event
        (List.mem_of_getLast? hlast))).elim
  | @chained before rest _ _ _ _ chainEnding undispatched unrefused offered chain ended =>
      subst ended
      have hrest : rest ≠ [] := by
        rintro rfl
        rw [List.append_nil] at hlast
        exact hevent (dispatched_eq_nil_iff.mp undispatched event (List.mem_of_getLast? hlast))
      obtain ⟨error, hending⟩ : ∃ error, chainEnding = .unexpected error := by
        cases chainEnding with
        | unexpected error => exact ⟨error, rfl⟩
        | answered candidate clean | unstored candidate => cases hfailing
        | late candidate | deadlineFound | gatewayFailed candidate | exhausted lastError =>
            cases hfailing
        | cancelled byDeadline => cases byDeadline <;> cases hfailing
      obtain ⟨last, hmem, herror⟩ := chain.unexpected_last hending
      rw [Option.mem_def, List.getLast?_append_of_ne_nil _ hrest] at hlast
      obtain rfl := Option.some.inj (hlast.symm.trans hmem)
      exact ⟨error, herror⟩

theorem RouteRun.responds (h : RouteRun call ending blocked trace routers providers)
    {candidate : ProviderConfig μ} (hresponder : ending.responder? = some candidate) :
    ∃ before event after, trace = before ++ event :: after ∧
      EngineEvent.responder? event = some candidate.id ∧
        ((∀ later ∈ after, EngineEvent.GoesThrough later) → ending.failing? = none) := by
  cases h.chainPart with
  | unchained undispatched unanswered => cases unanswered.symm.trans hresponder
  | @chained earlier _ _ _ _ _ _ undispatched unrefused offered chain ended =>
      subst ended
      obtain ⟨before, event, after, rfl, hevent⟩ := chain.responds hresponder
      exact ⟨earlier ++ before, event, after, (List.append_assoc _ _ _).symm, hevent⟩

theorem EngineEvent.dispatched?_of_responder? {providerId : String}
    (h : EngineEvent.responder? event = some providerId) :
    EngineEvent.dispatched? event = some providerId := by
  obtain ⟨query, asked, reply⟩ := event
  cases query with
  | dispatch id request =>
      cases reply with
      | ok text => exact h
      | error interruption => cases h
  | loopTime | process response | decide tier request => cases h

theorem RouteRun.responder_ne_none (h : RouteRun call ending blocked trace routers providers)
    (hevent : event ∈ trace) (hresponder : EngineEvent.responder? event ≠ none) :
    ending.responder? ≠ none := by
  obtain ⟨providerId, hid⟩ := Option.ne_none_iff_exists'.mp hresponder
  have hdispatched := EngineEvent.dispatched?_of_responder? hid
  cases h.chainPart with
  | unchained undispatched unanswered =>
      cases hdispatched.symm.trans (dispatched_eq_nil_iff.mp undispatched event hevent)
  | chained undispatched unrefused offered chain ended =>
      subst ended
      rcases List.mem_append.mp hevent with hbefore | hrest
      · cases hdispatched.symm.trans (dispatched_eq_nil_iff.mp undispatched event hbefore)
      · exact chain.responder_ne_none hrest hresponder

/-- A call with a response does not end in an internal error of the engine. -/
theorem HandleEnding.failing?_of_responder (hresponder : ending.responder? ≠ none)
    (reason : String) : ending.failing? ≠ some (.internalError, reason) := by
  intro hfailing
  cases ending with
  | chain chainEnding =>
      cases chainEnding with
      | answered candidate clean | unstored candidate | late candidate
      | gatewayFailed candidate => cases hfailing
      | exhausted lastError | deadlineFound | cancelled byDeadline | unexpected error =>
          exact hresponder rfl
  | settled | unresolved error | imageMissing | denied | ladderFailed
  | ladderCancelled byDeadline => exact hresponder rfl

end Route

/-- The event asks for a dispatch to a provider that is withdrawn by then. -/
def EngineEvent.FindsWithdrawn (event : EngineEvent μ) : Prop :=
  ∃ providerId ∈ EngineEvent.dispatched? event,
    event.memory.shared.registry.withdrawn providerId = true

/-- A provider that is dispatched to is registered still, if perhaps disabled. -/
def EngineEvent.FindsRegistered (event : EngineEvent μ) : Prop :=
  ∀ providerId ∈ EngineEvent.dispatched? event,
    (event.memory.shared.registry.getProvider? providerId).isSome

instance : DecidablePred (EngineEvent.FindsRegistered (μ := μ)) := fun event =>
  inferInstanceAs (Decidable (∀ providerId ∈ EngineEvent.dispatched? event,
    (event.memory.shared.registry.getProvider? providerId).isSome))

variable {routers : Routers} {rely : Memory μ → Memory μ → Prop}

/-- The provider that is dispatched to is registered otherwise than it was in `m`, or no more. -/
def EngineEvent.FindsChanged (m : Memory μ) (event : EngineEvent μ) : Prop :=
  ∃ providerId ∈ EngineEvent.dispatched? event,
    event.memory.shared.registry.getProvider? providerId ≠
      m.shared.registry.getProvider? providerId

/-- The call ends in what the API reports as `INTERNAL_ERROR`. -/
def EndsInternally (out : Except Raised RoutingResponse) : Prop :=
  (∃ failure, out = .error (.routing failure) ∧ failure.kind = .internalError) ∨
    ∃ error, out = .error (.exception error)

/-- Every dispatch to a withdrawn provider fails in a controlled way, holds no slot afterwards, and
the call goes on with the candidates behind; and a call that ends in an internal error has no
response by then, and does not end so with a provider that has changed since `m`. -/
structure WithdrawalsOvercome (call : HandleCall) (m : Memory μ)
    (rounds : List (routers.Round rely)) (m' : Memory μ) (out : Except Raised RoutingResponse) :
    Prop where
  overcome : ∀ before round after, rounds = before ++ round :: after →
    EngineEvent.FindsWithdrawn round.event →
      HoldsNoSlot round.event.memory round.after ∧
        ∃ error, EngineEvent.dispatchError? round.event = some error ∧
          Routine.isControlled error = true ∧
          GoesOn call (before.map Answered.event) round.event error
            (after.map Answered.event) m' out
  unchanged : EndsInternally out → ∀ round ∈ rounds.getLast?,
    ¬ EngineEvent.FindsChanged m round.event
  unanswered : EndsInternally out → ∀ round ∈ rounds, EngineEvent.responder? round.event = none

/-- What may become of the providers that a call dispatches to. -/
structure WithdrawalsBearable (call : HandleCall) (m : Memory μ)
    (rounds : List (routers.Round rely)) (m' : Memory μ) : Prop where
  /-- No candidate is removed before it is dispatched. -/
  registered : ∀ round ∈ rounds, EngineEvent.FindsRegistered round.event
  /-- What replaces an enabled candidate has a key, and raises nothing that is not caught. -/
  replaced : ∀ round ∈ rounds, ∀ providerId ∈ EngineEvent.dispatched? round.event,
    ∀ config ∈ round.event.memory.shared.registry.getProvider? providerId,
      m.shared.registry.getProvider? providerId ≠ some config → config.enabled = true →
        config.apiKey ≠ none ∧ AwaitsCaught round.trace
  /-- A provider that has responded stays registered, unless its response goes through without
  diagnostics. -/
  kept : ∀ before round after, rounds = before ++ round :: after →
    ∀ providerId ∈ EngineEvent.responder? round.event,
      (m'.shared.registry.getProvider? providerId).isSome ∨
        call.developerMode = false ∧
          ∀ later ∈ after, EngineEvent.GoesThrough later.event

theorem bearable_own : Bearable fun m m' : Memory μ => m'.own = m.own where
  refl := fun _ => rfl
  trans := fun h h' => h'.trans h
  circuits := fun _ _ => rfl

section Rounds

variable {call : HandleCall} {engine : RoutingEngine} {m m' : Memory μ}
  {rounds : List (routers.Round rely)} {out : Except Raised RoutingResponse}

/-- A round with a withdrawn provider that is registered still. -/
theorem round_disabled {round : routers.Round rely}
    (hsound : SoundCircuits round.event.memory)
    (hwithdrawn : EngineEvent.FindsWithdrawn round.event)
    (hregistered : EngineEvent.FindsRegistered round.event) :
    HoldsNoSlot round.event.memory round.after ∧
      ∃ error, EngineEvent.dispatchError? round.event = some error ∧
        Routine.isControlled error = true := by
  obtain ⟨⟨query, asked, reply⟩, trace, after, hrun⟩ := round
  obtain ⟨providerId, hid, hwithdrawn⟩ := hwithdrawn
  have hfound := hregistered providerId hid
  cases query with
  | loopTime | process response | decide tier request => cases hid
  | dispatch id request =>
      cases hid
      obtain ⟨config, hconfig⟩ := Option.isSome_iff_exists.mp hfound
      have hdisabled : config.enabled = false := by
        simpa [Registry.withdrawn, hconfig] using hwithdrawn
      have hprogram : (routers.program (.dispatch providerId request)).wp (Contract.relying rely)
          (fun _ m' out => HoldsNoSlot asked m' ∧ ∃ error : PyException,
            out = .ok (.error (.raised error)) ∧ Routine.isControlled error = true) asked := by
        rw [Routers.program, Routers.awaited]
        simp only [Coro.wp_attempt, Coro.wp_translate]
        apply Coro.wp_mono (ProviderDispatcher.dispatch_disabled hconfig hdisabled hsound)
        rintro trace m' _ ⟨-, hslots, error, rfl, hcontrolled⟩
        exact ⟨hslots, error, rfl, hcontrolled⟩
      obtain ⟨hslots, error, hreply, hcontrolled⟩ := Coro.wp_sound hprogram hrun
      obtain rfl : reply = .error (.raised error) := Except.ok.inj hreply
      exact ⟨hslots, error, rfl, hcontrolled⟩

/-- A round with an enabled provider that can be asked. -/
theorem round_enabled (hrely : LeavesOwn rely) {round : routers.Round rely} {providerId : String}
    {config : ProviderConfig μ} {error : PyException} (hsound : SoundCircuits round.event.memory)
    (hid : EngineEvent.dispatched? round.event = some providerId)
    (hconfig : round.event.memory.shared.registry.getProvider? providerId = some config)
    (henabled : config.enabled = true) (hkeyed : config.apiKey ≠ none)
    (hcaught : AwaitsCaught round.trace)
    (herror : EngineEvent.dispatchError? round.event = some error) :
    Routine.isControlled error = true := by
  obtain ⟨⟨query, asked, reply⟩, trace, after, hrun⟩ := round
  cases query with
  | loopTime | process response | decide tier request => cases hid
  | dispatch id request =>
      cases hid
      have hprogram : (routers.program (.dispatch providerId request)).wp
          (Contract.relying fun m m' : Memory μ => m'.own = m.own)
          (fun trace _ out => AwaitsCaught trace → ∀ raised : PyException,
            out = .ok (.error (.raised raised)) → Routine.isControlled raised = true) asked := by
        rw [Routers.program, Routers.awaited]
        simp only [Coro.wp_attempt, Coro.wp_translate]
        apply Coro.wp_mono
          (ProviderDispatcher.dispatch_enabled bearable_own hconfig hsound henabled hkeyed)
        intro trace m' out hout hcaught raised hraised
        cases out with
        | ok text => cases hraised
        | error failure =>
            rcases hout hcaught failure rfl with ⟨byDeadline, rfl⟩ | ⟨raised', rfl, hcontrolled⟩
            · cases hraised
            · cases hraised
              exact hcontrolled
      cases reply with
      | ok text => cases herror
      | error interruption =>
          cases interruption with
          | cancelled byDeadline => cases herror
          | raised raised =>
              cases herror
              exact Coro.wp_sound hprogram (hrun.mono hrely) hcaught _ rfl

/-- A round with a provider that is not registered any more ends in the registry's error. -/
theorem round_unregistered {round : routers.Round rely} {error : PyException}
    (hunregistered : ¬ EngineEvent.FindsRegistered round.event)
    (herror : EngineEvent.dispatchError? round.event = some error) :
    Routine.isControlled error = false := by
  obtain ⟨⟨query, asked, reply⟩, trace, after, hrun⟩ := round
  cases query with
  | loopTime | process response | decide tier request => cases herror
  | dispatch providerId request =>
      have hnone : asked.shared.registry.getProvider? providerId = none := by
        by_contra hsome
        apply hunregistered
        rintro id ⟨⟩
        exact Option.isSome_iff_ne_none.mpr hsome
      have hprogram : (routers.program (.dispatch providerId request)).wp (Contract.relying rely)
          (fun _ _ out => out = .ok (.error (.raised { kind := .unknownProvider }))) asked := by
        rw [Routers.program, Routers.awaited]
        simp only [Coro.wp_attempt, Coro.wp_translate]
        apply Coro.wp_mono (ProviderDispatcher.dispatch_unregistered hnone)
        rintro trace m' _ ⟨-, -, rfl⟩
        rfl
      have hreply := Except.ok.inj (Coro.wp_sound hprogram hrun)
      subst hreply
      cases herror
      rfl

/-- An unregistered provider is withdrawn. -/
theorem EngineEvent.findsWithdrawn_of_unregistered {event : EngineEvent μ}
    (h : ¬ EngineEvent.FindsRegistered event) : EngineEvent.FindsWithdrawn event := by
  rw [EngineEvent.FindsRegistered] at h
  simp only [not_forall] at h
  obtain ⟨providerId, hid, hnone⟩ := h
  refine ⟨providerId, hid, ?_⟩
  rw [Registry.withdrawn, Option.not_isSome_iff_eq_none.mp hnone]
  rfl

/-- A call that removes a candidate does not overcome that. -/
theorem WithdrawalsOvercome.registered (h : WithdrawalsOvercome call m rounds m' out) :
    ∀ round ∈ rounds, EngineEvent.FindsRegistered round.event := by
  intro round hround
  by_contra hunregistered
  obtain ⟨before, after, hsplit⟩ := List.append_of_mem hround
  obtain ⟨-, error, herror, hcontrolled, -⟩ := h.overcome before round after hsplit
    (EngineEvent.findsWithdrawn_of_unregistered hunregistered)
  rw [round_unregistered hunregistered herror] at hcontrolled
  cases hcontrolled

/-- Diagnostics cannot be built where the selected provider is not registered. -/
theorem selected_of_unbuilt {registry : Registry μ} {capture : Capture μ}
    (h : ∀ failure, buildDiagnostics registry capture failure = none) :
    ∃ providerId, capture.selectedProvider = some providerId ∧
      registry.getProvider? providerId = none := by
  by_contra hfound
  simp only [not_exists, not_and] at hfound
  have hregistered : ∀ providerId ∈ capture.selectedProvider,
      ∃ provider, registry.getProvider? providerId = some provider :=
    fun providerId hselected => Option.ne_none_iff_exists'.mp (hfound providerId hselected)
  obtain ⟨diagnostics, hbuilt⟩ := exists_buildDiagnostics hregistered {}
  rw [h] at hbuilt
  cases hbuilt

namespace WithdrawalsBearable

/-- What is dispatched to after a change fails in a controlled way, if it fails. -/
theorem controlled (h : WithdrawalsBearable call m rounds m') (hrely : LeavesOwn rely)
    {round : routers.Round rely} (hround : round ∈ rounds)
    (hsound : SoundCircuits round.event.memory) (hchanged : EngineEvent.FindsChanged m round.event)
    {error : PyException} (herror : EngineEvent.dispatchError? round.event = some error) :
    Routine.isControlled error = true := by
  obtain ⟨providerId, hid, hchanged⟩ := hchanged
  obtain ⟨config, hconfig⟩ :=
    Option.isSome_iff_exists.mp (h.registered round hround providerId hid)
  by_cases henabled : config.enabled = true
  · have hdiffers : m.shared.registry.getProvider? providerId ≠ some config :=
      fun hsame => hchanged (hconfig.trans hsame.symm)
    obtain ⟨hkeyed, hcaught⟩ :=
      h.replaced round hround providerId hid config hconfig hdiffers henabled
    exact round_enabled hrely hsound hid hconfig henabled hkeyed hcaught herror
  · have hwithdrawn : EngineEvent.FindsWithdrawn round.event :=
      ⟨providerId, hid, by simp [Registry.withdrawn, hconfig, henabled]⟩
    obtain ⟨-, error', herror', hcontrolled⟩ :=
      round_disabled hsound hwithdrawn (h.registered round hround)
    rw [herror] at herror'
    cases herror'
    exact hcontrolled

/-- Diagnostics that are wanted can be built. -/
theorem diagnosed (h : WithdrawalsBearable call m rounds m') {capture : Capture μ}
    {first : EngineEvent μ} {rest : List (EngineEvent μ)} {ending : HandleEnding μ}
    {blocked : List Backend} {routerAttempts : List RouterAttempt}
    {providers : List ProviderAttempt} (htrace : rounds.map Answered.event = first :: rest)
    (hroute : RouteRun call ending blocked rest routerAttempts providers)
    (hcapture : capture.selectedProvider = none)
    (hledger : CallLedger { m with own := capture } m' routerAttempts providers ending) :
    ¬ Undiagnosed call m' ending := by
  intro hundiagnosed
  obtain ⟨providerId, hselected, hgone⟩ := selected_of_unbuilt hundiagnosed.unbuilt
  have hresponded : ending.responder?.map ProviderConfig.id = some providerId := by
    rw [← hselected, hledger.selectedProvider]
    simp [hcapture]
  obtain ⟨candidate, hresponder, rfl⟩ := Option.map_eq_some_iff.mp hresponded
  obtain ⟨before, event, after, rfl, hevent, hgoes⟩ := hroute.responds hresponder
  obtain ⟨earlier, behind, rfl, -, hbehind⟩ :=
    List.map_eq_append_iff.mp (htrace.trans (List.cons_append (a := first)).symm)
  obtain ⟨round, later, rfl, rfl, rfl⟩ := List.map_eq_cons_iff.mp hbehind
  rcases h.kept earlier round later rfl candidate.id hevent with hkept | ⟨hsilent, hthrough⟩
  · rw [hgone] at hkept
    cases hkept
  · have hfailing := hgoes fun event hmem => by
      obtain ⟨round, hround, rfl⟩ := List.mem_map.mp hmem
      exact hthrough round hround
    rcases hundiagnosed.wanted with hwanted | hwanted
    · rw [hfailing] at hwanted
      cases hwanted
    · rw [hsilent] at hwanted
      cases hwanted

end WithdrawalsBearable

/-- A call whose diagnostics can be built ends in an internal error because of its ending. -/
theorem failing?_of_endsInternally {ending : HandleEnding μ} (h : EndsInternally out)
    (hconcludes : Concludes m' ending out) (hbuilt : ∀ error,
      out ≠ .error (.exception error)) :
    ∃ reason, ending.failing? = some (.internalError, reason) := by
  rcases h with ⟨failure, hout, hkind⟩ | ⟨error, hout⟩
  · obtain ⟨terminal, -, hfailing⟩ := hconcludes.failed failure hout
    exact ⟨terminal.reason, hkind ▸ hfailing⟩
  · exact (hbuilt error hout).elim

/-- A dispatch that comes last comes last after the first look at the clock, too. -/
theorem getLast?_of_begun {now : ℚ} {rest : List (EngineEvent μ)}
    (htrace : rounds.map Answered.event = ⟨.loopTime, m, now⟩ :: rest) {round : routers.Round rely}
    (hlast : round ∈ rounds.getLast?) (hdispatched : EngineEvent.dispatched? round.event ≠ none) :
    round.event ∈ rest.getLast? := by
  have hevent : (rounds.map Answered.event).getLast? = some round.event := by
    rw [List.getLast?_map, hlast]
    rfl
  rw [htrace, List.getLast?_cons] at hevent
  cases hrest : rest.getLast? with
  | none =>
      rw [hrest] at hevent
      rw [← Option.some.inj hevent] at hdispatched
      exact absurd rfl hdispatched
  | some event =>
      rw [hrest] at hevent
      exact hevent

variable [Metric μ]

/-- The engine's part of a served call, in whose course its own capture is left alone. -/
theorem served_engine (hrely : LeavesOwn rely)
    (hserved : Coro.Served rely routers.program (Routine.handle engine call) m rounds m' out) :
    Coro.Run (fun m m' : Memory μ => m'.own = m.own) (Routine.handle engine call) m
      (rounds.map Answered.event) m' out := by
  apply hserved.run
  intro answered
  obtain ⟨hresumes, -⟩ : _ ∧ (answered.event.memory.shared.registry ∈
      Registry.serving (fun _ => Backend.google) → _) :=
    Coro.wp_sound (program_conducted routers bearable_own _) (answered.run.mono hrely) _ rfl
  exact hresumes

/-- In every run a call overcomes what is withdrawn while its chain runs as long as no candidate is
removed before it is dispatched, what replaces one can be asked, and what has responded stays
registered while it may have to be shown. -/
theorem withdrawals_overcome (hrely : LeavesOwn rely)
    (hkeeps : ∀ m m', rely m m' → SoundCircuits m → SoundCircuits m') (hsound : SoundCircuits m)
    (hserved : Coro.Served rely routers.program (Routine.handle engine call) m rounds m' out)
    (hbearable : WithdrawalsBearable call m rounds m') :
    WithdrawalsOvercome call m rounds m' out := by
  have hcircuits : ∀ round ∈ rounds, SoundCircuits round.event.memory :=
    (Routine.handle_maintains ofCircuits_soundCircuits).served hkeeps (program_maintains routers)
      hserved hsound
  obtain ⟨now, rest, ending, routerAttempts, providers, htrace, hroute, hledger, hconcludes,
    hundiagnosed⟩ := Coro.wp_sound (handle_routes fun _ _ h => h) (served_engine hrely hserved)
  have hfailing : EndsInternally out →
      ∃ reason, ending.failing? = some (.internalError, reason) := by
    intro hinternal
    apply failing?_of_endsInternally hinternal hconcludes
    intro error herror
    exact hbearable.diagnosed htrace hroute rfl hledger (hundiagnosed error herror)
  refine ⟨?_, ?_, ?_⟩
  · intro before round after hsplit hwithdrawn
    have hround : round ∈ rounds := hsplit ▸ List.mem_append_right _ List.mem_cons_self
    obtain ⟨hslots, error, herror, hcontrolled⟩ :=
      round_disabled (hcircuits round hround) hwithdrawn (hbearable.registered round hround)
    refine ⟨hslots, error, herror, hcontrolled, ?_⟩
    rw [hsplit, List.map_append, List.map_cons] at htrace
    cases before with
    | nil =>
        obtain ⟨hfirst, -⟩ := List.cons.inj htrace
        rw [hfirst] at herror
        cases herror
    | cons first before =>
        obtain ⟨-, hrest⟩ := List.cons.inj htrace
        exact (hroute.goes_on hrest.symm herror hcontrolled hconcludes).cons first.event
  · intro hinternal round hlast hchanged
    obtain ⟨reason, hreason⟩ := hfailing hinternal
    have hdispatched : EngineEvent.dispatched? round.event ≠ none := by
      obtain ⟨providerId, hid, -⟩ := hchanged
      rw [hid]
      exact Option.some_ne_none providerId
    obtain ⟨error, herror, huncontrolled⟩ :=
      hroute.unexpected_last hreason (getLast?_of_begun htrace hlast hdispatched) hdispatched
    have hround : round ∈ rounds := List.mem_of_getLast? hlast
    rw [hbearable.controlled hrely hround (hcircuits round hround) hchanged herror]
      at huncontrolled
    cases huncontrolled
  · intro hinternal round hround
    obtain ⟨reason, hreason⟩ := hfailing hinternal
    by_contra hresponder
    have hmem : round.event ∈ rounds.map Answered.event := List.mem_map_of_mem hround
    rw [htrace] at hmem
    rcases List.mem_cons.mp hmem with hfirst | hrest
    · rw [hfirst] at hresponder
      exact hresponder rfl
    · exact HandleEnding.failing?_of_responder (hroute.responder_ne_none hrest hresponder) reason
        hreason

end Rounds

/-- Others change the registry by its operations, and nothing else. -/
def Reconfigured (m m' : Memory μ) : Prop :=
  ∃ operations : List (RegistryOperation μ), m' = { m with shared :=
    { m.shared with registry := operations.foldl Registry.change m.shared.registry } }

theorem Reconfigured.leavesOwn : LeavesOwn (Reconfigured (μ := μ)) := by
  rintro m m' ⟨operations, rfl⟩
  rfl

theorem Reconfigured.soundCircuits {m m' : Memory μ} (h : Reconfigured m m')
    (hm : SoundCircuits m) : SoundCircuits m' := by
  obtain ⟨operations, rfl⟩ := h
  exact ofCircuits_soundCircuits m _ rfl hm

/-- The registry is changed whenever a dispatch is suspended. -/
def whileDispatching (operation : RegistryOperation μ) (_ : ℕ) (m : Memory μ) : Memory μ :=
  let operations := if m.own.stage = .dispatcher then [operation] else []
  { m with
    shared := { m.shared with registry := operations.foldl Registry.change m.shared.registry } }

theorem reconfigured_whileDispatching (operation : RegistryOperation μ) (index : ℕ) (m : Memory μ) :
    Reconfigured m (whileDispatching operation index m) :=
  ⟨_, rfl⟩

/-- The first provider is out of order, and the others answer. -/
def failingFirst : Coro.Oracle systemInterface
  | _, .loopTime => (0 : ℚ)
  | _, .monotonic => (0 : ℚ)
  | _, .post (.router _ _ _) _ =>
      (.ok (completion answerText) : Except TransportFailure HttpResponse)
  | _, .post (.provider providerId _) _ =>
      (.ok (if providerId = "first" then { status := 503 } else completion "text") :
        Except TransportFailure HttpResponse)
  | _, .closeClient _ _ _ => (.ok () : Except TransportFailure Unit)
  | _, .process response => (.ok response : Except PyException String)

/-- A task among three providers, with a change of the registry during each dispatch. -/
def reconfigured (operation : RegistryOperation ℤ) (task : Routine ℤ RoutingResponse) :
    List (googleThenNvidia.Round (Reconfigured (μ := ℤ))) × Memory ℤ ×
      Except Raised RoutingResponse :=
  task.serve googleThenNvidia.program failingFirst (whileDispatching operation)
    (reconfigured_whileDispatching operation) secondOpinionMemory 0

theorem served_reconfigured (operation : RegistryOperation ℤ) (task : Routine ℤ RoutingResponse) :
    Coro.Served Reconfigured googleThenNvidia.program task secondOpinionMemory
      (reconfigured operation task).1 (reconfigured operation task).2.1
      (reconfigured operation task).2.2 :=
  Coro.served_serve (reconfigured_whileDispatching operation) task secondOpinionMemory 0

/-- A new message. -/
abbrev firstOpinionTask : Routine ℤ RoutingResponse :=
  Routine.handle { maxAttempts := 5 } firstOpinionCall

/-- The second provider is removed while the first is asked: the request ends in an internal
error, and the third is not asked. -/
theorem removed_candidate_fatal :
    Coro.Served Reconfigured googleThenNvidia.program firstOpinionTask secondOpinionMemory
        (reconfigured (.remove "second") firstOpinionTask).1
        (reconfigured (.remove "second") firstOpinionTask).2.1
        (reconfigured (.remove "second") firstOpinionTask).2.2 ∧
      dispatched ((reconfigured (.remove "second") firstOpinionTask).1.map Answered.event) =
        ["first", "second"] ∧
      (engineError? (reconfigured (.remove "second") firstOpinionTask).2.2).map
        RoutingEngineError.kind = some .internalError ∧
      ¬ WithdrawalsOvercome firstOpinionCall secondOpinionMemory
        (reconfigured (.remove "second") firstOpinionTask).1
        (reconfigured (.remove "second") firstOpinionTask).2.1
        (reconfigured (.remove "second") firstOpinionTask).2.2 := by
  refine ⟨served_reconfigured _ _, by decide +kernel, by decide +kernel, fun h => ?_⟩
  have hregistered := h.registered
  revert hregistered
  decide +kernel

/-- The second provider is disabled while the first is asked: the third answers. -/
theorem withdrawals_overcome_disabled :
    dispatched ((reconfigured (.disable "second") firstOpinionTask).1.map Answered.event) =
        ["first", "second", "third"] ∧
      (reconfigured (.disable "second") firstOpinionTask).2.2.isOk = true ∧
      WithdrawalsOvercome firstOpinionCall secondOpinionMemory
        (reconfigured (.disable "second") firstOpinionTask).1
        (reconfigured (.disable "second") firstOpinionTask).2.1
        (reconfigured (.disable "second") firstOpinionTask).2.2 := by
  refine ⟨by decide +kernel, by decide +kernel, ?_⟩
  have hkept : ∀ round ∈ (reconfigured (.disable "second") firstOpinionTask).1,
      ∀ providerId ∈ EngineEvent.responder? round.event,
        ((reconfigured (.disable "second") firstOpinionTask).2.1.shared.registry.getProvider?
          providerId).isSome := by
    decide +kernel
  apply withdrawals_overcome Reconfigured.leavesOwn (fun _ _ h hm => h.soundCircuits hm)
    (fun backend => BackendCircuit.wellFormed_new _) (served_reconfigured _ _)
  refine ⟨by decide +kernel, by decide +kernel, ?_⟩
  intro before round after hsplit providerId hresponder
  exact .inl (hkept round (hsplit ▸ List.mem_append_right _ List.mem_cons_self) providerId
    hresponder)

end LLMRouting
