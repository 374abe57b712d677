/-
# Two users of one circuit

A backend has one circuit, and both the routers and the task calls that go to the backend
report to it. A router reports from its helpers and then once more from `decide`, a task call
only from `dispatch`, and each reads the failure in a table of its own. What either of them
does to the circuit is nonetheless one report, and which one depends only on what its
exchange with the backend came to.
-/

import LLMRouting.Upstream.Ladder

namespace LLMRouting

open LLMRouting.Interaction

variable {μ α : Type}

/-- How an exchange with a backend ends: with a reply that can be used, with one that cannot,
with a status that is no success, with an error of the HTTP client, with the expiry of the
caller's time limit, or with its cancellation. -/
inductive UpstreamOutcome
  | usable
  | unusable
  | status (code : ℕ) (text : String)
  | timeout
  | network
  | other
  | limit
  | cancelled
  deriving DecidableEq

/-- The report an exchange with this outcome deserves. -/
def UpstreamOutcome.report : UpstreamOutcome → CircuitReport
  | .usable => .success
  | .unusable => .failure false
  | .status code text => .failure (decide (classifyHttpFailure code text = .backendTransient))
  | .timeout => .failure true
  | .network => .failure true
  | .other => .failure false
  | .limit => .failure true
  | .cancelled => .release

/-- The outcome an error stands for; an exception of the caller's own stands for none. -/
def UpstreamError.outcome? : UpstreamError → Option UpstreamOutcome
  | .http .timeout => some .timeout
  | .http .network => some .network
  | .http .other => some .other
  | .http (.status code text) => some (.status code text)
  | .defect _ => some .unusable
  | .raised (.cancelled _) => some .cancelled
  | .raised (.raised error) => if error.kind = .timeoutError then some .limit else none

/-- The outcome of an exchange with this result. -/
def UpstreamOutcome.of? : Except UpstreamError α → Option UpstreamOutcome
  | .ok _ => some .usable
  | .error error => error.outcome?

/-- The readings of the circuits' clock a trace contains. -/
def SystemEvent.reading? : SystemEvent μ → Option ℚ
  | ⟨.monotonic, _, now⟩ => some now
  | _ => none

def clockReadings (trace : List (SystemEvent μ)) : List ℚ := trace.filterMap SystemEvent.reading?

@[simp]
theorem clockReadings_append {first second : List (SystemEvent μ)} :
    clockReadings (first ++ second) = clockReadings first ++ clockReadings second :=
  List.filterMap_append

/-- Apart from what the surroundings have done since `m`, the circuit of `backend` has been
given one report. `readings` are the readings of the clock since `m`, and a failure is dated
by the only one. -/
def Reported (rely : Memory μ → Memory μ → Prop) (backend : Backend) (m : Memory μ)
    (readings : List ℚ) (m' : Memory μ) (report : CircuitReport) : Prop :=
  ∃ resumed now, Relation.ReflTransGen rely m resumed ∧
    m'.shared.circuits backend = (resumed.shared.circuits backend).report now report ∧
    ∀ backendTransient, report = .failure backendTransient → readings = [now]

/-- What a call does to the circuit of `backend`: nothing, where the circuit does not let it
through, and otherwise taking what `allow_request` takes, and one report in the end. -/
inductive Treated (rely : Memory μ → Memory μ → Prop) (backend : Backend) (m : Memory μ) :
    List ℚ → Memory μ → Option CircuitReport → Prop
  | refused {m' : Memory μ} {now : ℚ}
      (denied : ∀ circuit, (m.shared.circuits backend).allowRequest now ≠ some (true, circuit))
      (unchanged : m'.shared.circuits backend = m.shared.circuits backend) :
      Treated rely backend m [now] m' none
  | admitted {admitted m' : Memory μ} {now : ℚ} {readings : List ℚ} {report : CircuitReport}
      (allowed : (m.shared.circuits backend).allowRequest now =
        some (true, admitted.shared.circuits backend))
      (reported : Reported rely backend admitted readings m' report) :
      Treated rely backend m (now :: readings) m' (some report)

/-- The surroundings leave the circuit of `backend` alone. -/
def LeavesAlone (rely : Memory μ → Memory μ → Prop) (backend : Backend) : Prop :=
  ∀ m m', rely m m' → m'.shared.circuits backend = m.shared.circuits backend

section Treated

variable {rely : Memory μ → Memory μ → Prop} {backend : Backend} {m m' n n' : Memory μ}
  {readings : List ℚ} {report : CircuitReport}

theorem LeavesAlone.circuit_eq (h : LeavesAlone rely backend)
    (hsteps : Relation.ReflTransGen rely m m') :
    m'.shared.circuits backend = m.shared.circuits backend := by
  induction hsteps with
  | refl => rfl
  | tail _ hstep ih => exact (h _ _ hstep).trans ih

/-- Only a failure is dated. -/
theorem BackendCircuit.report_congr {circuit : BackendCircuit} {now later : ℚ}
    (h : ∀ backendTransient, report = .failure backendTransient → now = later) :
    circuit.report now report = circuit.report later report := by
  cases report with
  | success => rfl
  | failure backendTransient => rw [h backendTransient rfl]
  | release => rfl

/-- A circuit that denies a request is left as it was. -/
theorem BackendCircuit.eq_of_denied {circuit circuit' : BackendCircuit} {now : ℚ}
    (h : circuit.allowRequest now = some (false, circuit')) : circuit' = circuit := by
  cases admission_of_allowRequest h with
  | cooling => rfl
  | full => rfl

/-- A call that fails where the circuit asserts its opening time has done nothing. -/
theorem Treated.of_asserted {now : ℚ}
    (h : (m.shared.circuits backend).allowRequest now = none) :
    Treated rely backend m [now] m none := by
  refine .refused ?_ rfl
  intro circuit hsome
  rw [h] at hsome
  cases hsome

theorem Treated.of_denied {now : ℚ}
    (h : (m.shared.circuits backend).allowRequest now =
      some (false, m'.shared.circuits backend)) :
    Treated rely backend m [now] m' none := by
  refine .refused ?_ (BackendCircuit.eq_of_denied h)
  intro circuit hsome
  rw [h] at hsome
  cases hsome

/-- The same report to the same circuit at the same time has the same effect. -/
theorem Reported.circuit_eq (halone : LeavesAlone rely backend)
    (hcircuit : m.shared.circuits backend = n.shared.circuits backend)
    (h : Reported rely backend m readings m' report)
    (h' : Reported rely backend n readings n' report) :
    m'.shared.circuits backend = n'.shared.circuits backend := by
  obtain ⟨resumed, now, hsteps, hm', hdated⟩ := h
  obtain ⟨resumed', later, hsteps', hn', hdated'⟩ := h'
  rw [hm', hn', halone.circuit_eq hsteps, halone.circuit_eq hsteps', hcircuit]
  apply BackendCircuit.report_congr
  intro backendTransient hreport
  have hreadings := (hdated backendTransient hreport).symm.trans (hdated' backendTransient hreport)
  exact (List.cons.inj hreadings).1

/-- Two calls that find the same circuit at the same time and report the same leave the same
circuit. -/
theorem Treated.circuit_eq {reports : Option CircuitReport} (halone : LeavesAlone rely backend)
    (hcircuit : m.shared.circuits backend = n.shared.circuits backend)
    (h : Treated rely backend m readings m' reports)
    (h' : Treated rely backend n readings n' reports) :
    m'.shared.circuits backend = n'.shared.circuits backend := by
  cases h with
  | refused denied unchanged =>
      cases h' with
      | refused _ unchanged' => rw [unchanged, unchanged', hcircuit]
  | admitted allowed reported =>
      cases h' with
      | admitted allowed' reported' =>
          rw [hcircuit, allowed'] at allowed
          have hadmitted := (Prod.mk.inj (Option.some.inj allowed)).2.symm
          exact reported.circuit_eq halone hadmitted reported'

end Treated

/-- What a stretch of an exchange asks: the requests posted, the clients closed, and the
readings of the clock. -/
structure Recorded (trace : List (SystemEvent μ)) (posted : List Posting) (closed : List Closing)
    (readings : List ℚ) : Prop where
  postings_eq : postings trace = posted
  closings_eq : closings trace = closed
  readings_eq : clockReadings trace = readings

theorem Recorded.nil : Recorded ([] : List (SystemEvent μ)) [] [] [] := ⟨rfl, rfl, rfl⟩

theorem Recorded.append {first second : List (SystemEvent μ)} {posted posted' : List Posting}
    {closed closed' : List Closing} {readings readings' : List ℚ}
    (h : Recorded first posted closed readings) (h' : Recorded second posted' closed' readings') :
    Recorded (first ++ second) (posted ++ posted') (closed ++ closed') (readings ++ readings') where
  postings_eq := by rw [postings_append, h.postings_eq, h'.postings_eq]
  closings_eq := by rw [closings_append, h.closings_eq, h'.closings_eq]
  readings_eq := by rw [clockReadings_append, h.readings_eq, h'.readings_eq]

theorem Recorded.stop {trace : List (SystemEvent μ)} {posted : List Posting}
    {closed : List Closing} {readings : List ℚ} (h : Recorded trace posted closed readings) :
    Recorded (trace ++ []) posted closed readings := by
  rwa [List.append_nil]

namespace Exchange

variable {rely : Memory μ → Memory μ → Prop} {backend : Backend} {m : Memory μ}

theorem monotonic_reads :
    monotonic.wp (Contract.relying rely)
      (fun trace m' out => m' = m ∧ ∃ now, Recorded trace [] [] [now] ∧ out = .ok now) m := by
  rw [monotonic]
  rw [Coro.wp_ask]
  refine ⟨fun _ => trivial, ?_⟩
  intro now m' hm'
  have hsame : m' = m := by simpa [Coro.Resumes] using hm'
  exact ⟨hsame, now, ⟨rfl, rfl, rfl⟩, rfl⟩

theorem setCircuit_writes {update : BackendCircuit → BackendCircuit} :
    (setCircuit backend update).wp (Contract.relying rely) (fun trace m' out =>
      Recorded trace [] [] [] ∧
        m'.shared.circuits backend = update (m.shared.circuits backend) ∧
        m'.shared.registry = m.shared.registry ∧ out = .ok ()) m :=
  ⟨trivial, .nil, Function.update_self _ _ _, rfl, rfl⟩

/-- The decision on a request is the circuit's own, at the one reading of the clock. -/
theorem allowRequest_decides :
    (allowRequest backend).wp (Contract.relying rely) (fun trace m' out =>
      m'.shared.registry = m.shared.registry ∧ ∃ now, Recorded trace [] [] [now] ∧
        ((m.shared.circuits backend).allowRequest now = none ∧ m' = m ∧
            out = .error (.ofException { kind := .other }) ∨
          ∃ admitted, (m.shared.circuits backend).allowRequest now =
            some (admitted, m'.shared.circuits backend) ∧ out = .ok admitted)) m := by
  rw [allowRequest]
  rw [Coro.wp_bind]
  apply Coro.wp_mono monotonic_reads
  rintro trace m₁ _ ⟨rfl, now, hclock, rfl⟩
  simp only [Coro.wp_bind, Coro.wp_get]
  cases hallowed : (m₁.shared.circuits backend).allowRequest now with
  | none => exact ⟨rfl, now, hclock.stop, .inl ⟨hallowed, rfl, rfl⟩⟩
  | some decided =>
      simp only [Coro.wp_bind]
      apply Coro.wp_mono setCircuit_writes
      rintro rest m' _ ⟨hrest, hcircuit, hregistry, rfl⟩
      refine ⟨hregistry, now, hclock.append hrest.stop, .inr ⟨decided.1, ?_, rfl⟩⟩
      rw [hallowed, hcircuit]

theorem recordFailure_records {backendTransient : Bool} :
    (recordFailure backend backendTransient).wp (Contract.relying rely) (fun trace m' out =>
      ∃ now, Recorded trace [] [] [now] ∧
        m'.shared.circuits backend =
          (m.shared.circuits backend).recordFailure now backendTransient ∧ out = .ok ()) m := by
  rw [recordFailure]
  rw [Coro.wp_bind]
  apply Coro.wp_mono monotonic_reads
  rintro trace m₁ _ ⟨rfl, now, hclock, rfl⟩
  apply Coro.wp_mono setCircuit_writes
  rintro rest m' _ ⟨hrest, hcircuit, -, rfl⟩
  exact ⟨now, hclock.append hrest, hcircuit, rfl⟩

/-- A post suspends once, during which the surroundings make one step. -/
theorem post_suspends {caller : UpstreamCaller} :
    (post caller backend).wp (Contract.relying rely) (fun trace m' out => ∃ reply,
      Recorded trace [⟨caller, backend, reply⟩] [] [] ∧ rely m m' ∧ out = checked reply) m := by
  rw [post]
  rw [Coro.wp_bind, Coro.wp_ask]
  refine ⟨fun _ => trivial, ?_⟩
  intro reply m' hm'
  apply Coro.wp_settle.mpr
  exact ⟨reply, ⟨rfl, rfl, rfl⟩, by simpa [Coro.Resumes, Contract.relying] using hm', rfl⟩

end Exchange

/-- What the helpers of a router have told the circuit since `m`, at the readings of the clock:
nothing so far, or of one failure. -/
inductive Told (rely : Memory μ → Memory μ → Prop) (backend : Backend) (m : Memory μ) :
    List ℚ → Memory μ → Option Bool → Prop
  | nothing {m' : Memory μ} (steps : Relation.ReflTransGen rely m m') :
      Told rely backend m [] m' none
  | failure {resumed m' : Memory μ} {now : ℚ} {backendTransient : Bool}
      (steps : Relation.ReflTransGen rely m resumed)
      (recorded : m'.shared.circuits backend =
        (resumed.shared.circuits backend).recordFailure now backendTransient) :
      Told rely backend m [now] m' (some backendTransient)

section Told

variable {rely : Memory μ → Memory μ → Prop} {backend : Backend} {m middle m' m'' : Memory μ}
  {readings : List ℚ} {backendTransient : Bool}

theorem Told.after (hsteps : Relation.ReflTransGen rely m middle) {told : Option Bool}
    (h : Told rely backend middle readings m' told) : Told rely backend m readings m' told := by
  cases h with
  | nothing steps => exact .nothing (hsteps.trans steps)
  | failure steps recorded => exact .failure (hsteps.trans steps) recorded

theorem Told.steps (h : Told rely backend m readings m' none) :
    Relation.ReflTransGen rely m m' := by
  cases h with
  | nothing steps => exact steps

/-- What is told to the circuit by the helpers is all that is, if nothing is added but a
release. -/
theorem Told.reported (h : Told rely backend m readings m' (some backendTransient))
    (hreleased : m''.shared.circuits backend = (m'.shared.circuits backend).releaseProbe) :
    Reported rely backend m readings m'' (.failure backendTransient) := by
  cases h with
  | @failure resumed _ now _ steps recorded =>
      refine ⟨resumed, now, steps, ?_, fun _ _ => rfl⟩
      rw [hreleased, recorded]
      exact BackendCircuit.releaseProbe_recordFailure backendTransient

/-- A report after nothing has been told is the only one. -/
theorem Reported.of_steps (now : ℚ) (hsteps : Relation.ReflTransGen rely m middle)
    {report : CircuitReport}
    (hreport : m'.shared.circuits backend =
      (middle.shared.circuits backend).report now report)
    (hdated : ∀ backendTransient, report = .failure backendTransient → readings = [now]) :
    Reported rely backend m readings m' report :=
  ⟨middle, now, hsteps, hreport, hdated⟩

end Told

namespace StructuredHTTPRouter

open Exchange

/-- What the helpers tell the circuit about a result. -/
def told : Except UpstreamError α → Option Bool
  | .error (.http error) =>
      some (Decidable.decide ((routerFailureMetadata (.http error)).failureScope =
        .backendTransient))
  | .error (.defect _) => some false
  | .error (.raised _) => none
  | .ok _ => none

/-- The report of a router about a result. -/
def reportOf : Except UpstreamError α → CircuitReport
  | .ok _ => .success
  | .error error =>
      match told (Except.error error : Except UpstreamError α) with
      | some backendTransient => .failure backendTransient
      | none =>
          if error.isTimeoutError then
            .failure (Decidable.decide ((routerFailureMetadata error).failureScope =
              .backendTransient))
          else .release

/-- The table of the router agrees with what an outcome deserves. -/
theorem reportOf_eq {result : Except UpstreamError α} {outcome : UpstreamOutcome}
    (h : UpstreamOutcome.of? result = some outcome) : reportOf result = outcome.report := by
  cases result with
  | ok value =>
      cases h
      rfl
  | error error =>
      cases error with
      | http httpError =>
          cases httpError <;> cases h <;> rfl
      | defect defect =>
          cases h
          rfl
      | raised interruption =>
          cases interruption with
          | cancelled byDeadline =>
              cases h
              rfl
          | raised error =>
              have hkind : error.kind = .timeoutError := by
                by_contra hkind
                simp [UpstreamOutcome.of?, UpstreamError.outcome?, hkind] at h
              have houtcome : outcome = .limit := by
                simpa [UpstreamOutcome.of?, UpstreamError.outcome?, hkind] using h.symm
              rw [houtcome]
              simp [reportOf, told, UpstreamError.isTimeoutError, routerFailureMetadata, hkind,
                UpstreamOutcome.report]

variable (router : StructuredHTTPRouter)

/-- What the exchange of a tier came to, by the reply to what it posted last; nothing where
it was not let through. -/
def concluded (posted : List Posting) : Option (Except UpstreamError RouterDecision) :=
  posted.getLast?.map fun posting => router.received posting.reply

variable {rely : Memory μ → Memory μ → Prop} {m : Memory μ} {tier : RouterTier}
  {request : RouterRequest}

theorem raiseUnavailable_records {error : UpstreamError} :
    (router.raiseUnavailable (α := α) error).wp (Contract.relying rely) (fun trace m' out =>
      ∃ now, Recorded trace [] [] [now] ∧
        m'.shared.circuits router.backend =
          (m.shared.circuits router.backend).recordFailure now
            (Decidable.decide ((routerFailureMetadata error).failureScope = .backendTransient)) ∧
        out = .error (.ofException (router.unavailable error))) m := by
  rw [raiseUnavailable]
  rw [Coro.wp_bind]
  apply Coro.wp_mono recordFailure_records
  rintro trace m' _ ⟨now, hclock, hcircuit, rfl⟩
  exact ⟨now, hclock.stop, hcircuit, rfl⟩

/-- An exchange tells the circuit of an error of the client, and of nothing else. -/
theorem exchange_tells {caller : UpstreamCaller} :
    (router.exchange caller).wp (Contract.relying rely) (fun trace m' out => ∃ reply readings,
      Recorded trace [⟨caller, router.backend, reply⟩] [] readings ∧
        Told rely router.backend m readings m' (told (checked reply)) ∧
        out = (checked reply).mapError router.wrapped) m := by
  rw [exchange]
  rw [Coro.wp_rescue]
  apply Coro.wp_mono post_suspends
  rintro trace m' _ ⟨reply, hposted, hstep, rfl⟩
  have hsteps : Relation.ReflTransGen rely m m' := .single hstep
  cases hchecked : checked reply with
  | ok response =>
      refine ⟨reply, [], hposted, ?_, by rw [hchecked]; rfl⟩
      rw [hchecked]
      exact .nothing hsteps
  | error error =>
      cases error with
      | defect defect => exact absurd hchecked (checked_ne_defect defect)
      | raised interruption =>
          refine ⟨reply, [], hposted.stop, ?_, by rw [hchecked]; rfl⟩
          rw [hchecked]
          exact .nothing hsteps
      | http error =>
          apply Coro.wp_mono router.raiseUnavailable_records
          rintro rest m₂ _ ⟨now, hrest, hcircuit, rfl⟩
          refine ⟨reply, [now], hposted.append hrest, ?_, by rw [hchecked]; rfl⟩
          rw [hchecked]
          exact .failure hsteps hcircuit

theorem told_checked {reply : Except TransportFailure HttpResponse} {error : UpstreamError}
    (h : checked reply = .error error) : told (checked reply) = told (router.received reply) := by
  rw [router.received_of_error h, h]
  cases error <;> rfl

theorem repair_tells :
    (router.repair tier request).wp (Contract.relying rely) (fun trace m' out =>
      ∃ reply readings, Recorded trace [router.posting tier request true reply] [] readings ∧
        Told rely router.backend m readings m' (told (router.received reply)) ∧
        out = (router.received reply).mapError router.wrapped) m := by
  rw [repair]
  rw [Coro.wp_bind]
  apply Coro.wp_mono router.exchange_tells
  rintro trace m₁ _ ⟨reply, readings, hposted, htold, rfl⟩
  cases hchecked : checked reply with
  | error error =>
      rw [router.told_checked hchecked] at htold
      exact ⟨reply, readings, hposted, htold, by rw [router.received_of_error hchecked]; rfl⟩
  | ok response =>
      have hreceived := router.received_of_ok hchecked
      rw [hchecked] at htold
      simp only [Except.mapError]
      cases hparse : router.reader.parse response with
      | ok decision =>
          rw [hparse] at hreceived
          refine ⟨reply, readings, hposted.stop, ?_, by rw [hreceived]⟩
          rw [hreceived]
          exact htold
      | error error =>
          rw [hparse] at hreceived
          rcases ReplyReader.isReading_of_parse hparse with ⟨defect, rfl⟩ | rfl
          · simp only [Coro.wp_bind]
            apply Coro.wp_mono recordFailure_records
            rintro rest m₂ _ ⟨now, hrest, hcircuit, rfl⟩
            have hreadings : readings = [] := by
              cases htold
              rfl
            subst hreadings
            refine ⟨reply, [now], hposted.append hrest.stop, ?_, by rw [hreceived]; rfl⟩
            rw [hreceived]
            exact .failure htold.steps hcircuit
          · refine ⟨reply, readings, hposted.stop, ?_, by rw [hreceived]; rfl⟩
            rw [hreceived]
            exact htold

/-- The circuit is told about the result that the exchange of the tier comes to. -/
theorem decideWithRepair_tells :
    (router.decideWithRepair tier request).wp (Contract.relying rely) (fun trace m' out =>
      ∃ posted readings result, Recorded trace posted [] readings ∧
        router.concluded posted = some result ∧
        Told rely router.backend m readings m' (told result) ∧
        out = result.mapError router.wrapped) m := by
  rw [decideWithRepair]
  rw [Coro.wp_bind]
  apply Coro.wp_mono router.exchange_tells
  rintro trace m₁ _ ⟨reply, readings, hposted, htold, rfl⟩
  cases hchecked : checked reply with
  | error error =>
      rw [router.told_checked hchecked] at htold
      exact ⟨_, readings, router.received reply, hposted, rfl, htold,
        by rw [router.received_of_error hchecked]; rfl⟩
  | ok response =>
      have hreceived := router.received_of_ok hchecked
      rw [hchecked] at htold
      simp only [Except.mapError]
      cases hparse : router.reader.parse response with
      | ok decision =>
          rw [hparse] at hreceived
          exact ⟨_, readings, .ok decision, hposted.stop, congrArg some hreceived, htold, rfl⟩
      | error error =>
          rcases ReplyReader.isReading_of_parse hparse with ⟨defect, rfl⟩ | rfl
          · apply Coro.wp_mono router.repair_tells
            rintro rest m₂ _ ⟨second, later, hsecond, htold', rfl⟩
            have hreadings : readings = [] := by
              cases htold
              rfl
            subst hreadings
            exact ⟨_, later, _, hposted.append hsecond, rfl, htold'.after htold.steps, rfl⟩
          · rw [hparse] at hreceived
            exact ⟨_, readings, _, hposted.stop, congrArg some hreceived, htold, rfl⟩

/-- A release after the helpers have told of a failure. -/
theorem released_reports {α : Type} {readings : List ℚ} {backendTransient : Bool} {m₁ : Memory μ}
    {error : UpstreamError}
    (htold : Told rely router.backend m₁ readings m (some backendTransient)) :
    (releaseProbe router.backend >>= fun _ => (Coro.raise error : Exchange μ α)).wp
      (Contract.relying rely)
      (fun trace m' out => ∃ later raised, Recorded trace [] [] later ∧
        Reported rely router.backend m₁ (readings ++ later) m' (.failure backendTransient) ∧
        out = .error raised) m := by
  rw [releaseProbe, Coro.wp_bind]
  apply Coro.wp_mono setCircuit_writes
  rintro trace m' _ ⟨hwrite, hcircuit, -, rfl⟩
  refine ⟨[], error, hwrite.stop, ?_, rfl⟩
  rw [List.append_nil]
  exact htold.reported hcircuit

/-- After the helpers have raised, `decide` adds what is missing of the report. -/
theorem handled_reports {readings : List ℚ} {error : UpstreamError} {m₁ : Memory μ}
    (htold : Told rely router.backend m₁ readings m
      (told (Except.error error : Except UpstreamError RouterDecision))) :
    (if (router.wrapped error).isTimeoutError then
        router.raiseUnavailable (α := RouterDecision) (router.wrapped error)
      else do
        releaseProbe router.backend
        Coro.raise (router.wrapped error)).wp (Contract.relying rely)
      (fun trace m' out => ∃ later raised, Recorded trace [] [] later ∧
        Reported rely router.backend m₁ (readings ++ later) m'
          (reportOf (Except.error error : Except UpstreamError RouterDecision)) ∧
        out = .error raised) m := by
  cases error with
  | http httpError => exact router.released_reports htold
  | defect defect => exact router.released_reports htold
  | raised interruption =>
      have hsteps := htold.steps
      have hreadings : readings = [] := by
        cases htold
        rfl
      subst hreadings
      show (if (UpstreamError.raised interruption).isTimeoutError then _ else _ :
        Exchange μ RouterDecision).wp _ _ m
      by_cases htimeout : (UpstreamError.raised interruption).isTimeoutError = true
      · rw [if_pos htimeout]
        apply Coro.wp_mono router.raiseUnavailable_records
        rintro trace m' _ ⟨now, hclock, hcircuit, rfl⟩
        refine ⟨[now], _, hclock, ?_, rfl⟩
        simp only [reportOf, told, htimeout, if_true]
        exact .of_steps now hsteps hcircuit fun _ _ => rfl
      · rw [if_neg htimeout, releaseProbe, Coro.wp_bind]
        apply Coro.wp_mono setCircuit_writes
        rintro trace m' _ ⟨hwrite, hcircuit, -, rfl⟩
        refine ⟨[], _, hwrite.stop, ?_, rfl⟩
        simp only [reportOf, told, htimeout, Bool.false_eq_true, if_false]
        refine .of_steps 0 hsteps hcircuit ?_
        rintro backendTransient ⟨⟩

/-- What a tier that was let through does, put together. -/
theorem treated_of_reported {trace rest : List (SystemEvent μ)} {now : ℚ} {m₁ m' : Memory μ}
    {posted : List Posting} {readings later : List ℚ}
    {result : Except UpstreamError RouterDecision} (hclock : Recorded trace [] [] [now])
    (hallowed : (m.shared.circuits router.backend).allowRequest now =
      some (true, m₁.shared.circuits router.backend))
    (hrest : Recorded rest (posted ++ []) ([] ++ []) (readings ++ later))
    (hconcluded : router.concluded posted = some result)
    (hreported : Reported rely router.backend m₁ (readings ++ later) m' (reportOf result)) :
    Treated rely router.backend m (clockReadings (trace ++ rest)) m'
      ((router.concluded (postings (trace ++ rest))).map reportOf) := by
  have hposted : postings (trace ++ rest) = posted := by
    rw [postings_append, hclock.postings_eq, hrest.postings_eq, List.append_nil, List.nil_append]
  rw [clockReadings_append, hclock.readings_eq, hrest.readings_eq, hposted, hconcluded]
  exact .admitted hallowed hreported

/-- A router is refused by the circuit and posts nothing, or reports once about what its
exchange came to. -/
theorem decide_treats :
    (router.decide tier request).wp (Contract.relying rely) (fun trace m' _ =>
      Treated rely router.backend m (clockReadings trace) m'
        ((router.concluded (postings trace)).map reportOf)) m := by
  rw [decide]
  rw [Coro.wp_bind]
  apply Coro.wp_mono allowRequest_decides
  rintro trace m₁ _ ⟨-, now, hclock, ⟨hasserted, rfl, rfl⟩ | ⟨admitted, hallowed, rfl⟩⟩
  · simp only [hclock.readings_eq, hclock.postings_eq]
    exact .of_asserted hasserted
  · cases admitted with
    | false =>
        have hstopped := hclock.stop
        show Treated rely router.backend m (clockReadings (trace ++ [])) m₁
          ((router.concluded (postings (trace ++ []))).map reportOf)
        rw [hstopped.readings_eq, hstopped.postings_eq]
        exact .of_denied hallowed
    | true =>
        simp only [if_true, Coro.wp_bind, Coro.wp_rescue]
        apply Coro.wp_mono router.decideWithRepair_tells
        rintro rest m₂ _ ⟨posted, readings, result, hrest, hconcluded, htold, rfl⟩
        cases result with
        | ok decision =>
            apply Coro.wp_mono setCircuit_writes
            rintro last m₃ _ ⟨hlast, hcircuit, -, rfl⟩
            apply router.treated_of_reported hclock hallowed (hrest.append hlast.stop) hconcluded
            refine .of_steps 0 htold.steps hcircuit ?_
            rintro backendTransient ⟨⟩
        | error error =>
            apply Coro.wp_mono (router.handled_reports htold)
            rintro last m₃ _ ⟨later, raised, hlast, hreported, rfl⟩
            exact router.treated_of_reported hclock hallowed (hrest.append hlast)
              hconcluded hreported

end StructuredHTTPRouter

namespace ProviderDispatcher

open Exchange

/-- What the exchange of a dispatch came to, by the reply to its request and the closing of its
client; nothing where it posted nothing. -/
def concluded (posted : List Posting) (closings : List Closing) :
    Option (Except UpstreamError String) :=
  posted.head?.bind fun posting =>
    closings.head?.map fun closing => closed (received posting.reply) closing.reply

/-- The report of a dispatch about an error that passes its handlers. -/
def reportOfError (error : UpstreamError) : CircuitReport :=
  match unavailable? error with
  | some unavailable => .failure (decide (unavailable.failureScope = some .backendTransient))
  | none => .release

/-- The report of a dispatch about a result. -/
def reportOf : Except UpstreamError α → CircuitReport
  | .ok _ => .success
  | .error error => reportOfError (executed (generated error))

/-- The table of the adapter agrees with what an outcome deserves. -/
theorem reportOf_eq {result : Except UpstreamError α} {outcome : UpstreamOutcome}
    (h : UpstreamOutcome.of? result = some outcome) : reportOf result = outcome.report := by
  cases result with
  | ok value =>
      cases h
      rfl
  | error error =>
      cases error with
      | http httpError =>
          cases httpError with
          | status code text =>
              cases h
              simp [reportOf, reportOfError, executed, generated, unavailable?,
                UpstreamOutcome.report,
                UpstreamError.isProviderFailure, UpstreamError.isTimeoutError,
                UpstreamError.ofException, providerUnavailable, adapterFailureMetadata]
          | timeout | network | other =>
              cases h
              rfl
      | defect defect =>
          cases h
          rfl
      | raised interruption =>
          cases interruption with
          | cancelled byDeadline =>
              cases h
              rfl
          | raised error =>
              have hkind : error.kind = .timeoutError := by
                by_contra hkind
                simp [UpstreamOutcome.of?, UpstreamError.outcome?, hkind] at h
              have houtcome : outcome = .limit := by
                simpa [UpstreamOutcome.of?, UpstreamError.outcome?, hkind] using h.symm
              rw [houtcome]
              simp [reportOf, reportOfError, executed, generated, UpstreamError.isProviderFailure,
                UpstreamError.isTimeoutError, hkind, executionTimedOut, UpstreamError.ofException,
                unavailable?, UpstreamOutcome.report]

variable {rely : Memory μ → Memory μ → Prop} {m : Memory μ} {request : ProviderRequest}
  {config : ProviderConfig μ} {providerId : String} {backend : Backend}

theorem complete_suspends :
    (complete config request).wp (Contract.relying rely) (fun trace m' out => ∃ posted,
      Recorded trace posted [] [] ∧ Relation.ReflTransGen rely m m' ∧
        Completed config request posted out) m := by
  rw [complete]
  split
  · exact ⟨[], .nil, .refl, .keyless ‹_›⟩
  · rename_i key hkey
    have hkeyed : config.apiKey ≠ none := by
      rw [hkey]
      exact Option.some_ne_none key
    rw [Coro.wp_bind]
    apply Coro.wp_mono post_suspends
    rintro trace m' _ ⟨reply, hposted, hstep, rfl⟩
    cases hchecked : checked reply with
    | error error =>
        have hreceived : received reply = .error error := by rw [received, hchecked]; rfl
        exact ⟨_, hposted, .single hstep, hreceived ▸ .posted hkeyed reply⟩
    | ok response =>
        have hreceived : received reply = response.content := by rw [received, hchecked]; rfl
        apply Coro.wp_settle.mpr
        exact ⟨_, hposted.stop, .single hstep, hreceived ▸ .posted hkeyed reply⟩

/-- The post and the closing of the client suspend, and nothing else is done. -/
theorem generate_suspends :
    (generate config request).wp (Contract.relying rely) (fun trace m' out =>
      ∃ posted outcome closing, Completed config request posted outcome ∧
        Recorded trace posted [⟨config.backend, pending outcome, closing⟩] [] ∧
        Relation.ReflTransGen rely m m' ∧
        out = (closed outcome closing).mapError generated) m := by
  rw [generate, withClient]
  rw [Coro.wp_translate, Coro.wp_bind, Coro.wp_attempt]
  apply Coro.wp_mono complete_suspends
  rintro trace m₁ outcome ⟨posted, hposted, hsteps, hcompleted⟩
  simp only
  rw [Coro.wp_bind, Coro.wp_ask]
  refine ⟨fun _ => trivial, ?_⟩
  intro closing m₂ hm₂
  have hstep₂ : rely m₁ m₂ := by simpa [Coro.Resumes, Contract.relying] using hm₂
  have hclosed : Recorded
      [⟨.closeClient config.id config.backend (pending outcome), m₁, closing⟩] []
      [⟨config.backend, pending outcome, closing⟩] [] := ⟨rfl, rfl, rfl⟩
  have hrecorded := hposted.append hclosed.stop
  rw [List.append_nil posted] at hrecorded
  apply Coro.wp_settle.mpr
  exact ⟨posted, outcome, closing, hcompleted, hrecorded, hsteps.tail hstep₂, rfl⟩

/-- What runs under the time limit leaves the circuit to its surroundings. It posts nothing
where the provider is gone, disabled or without a key. -/
theorem execute_suspends :
    (execute providerId request).wp (Contract.relying rely) (fun trace m' out =>
      ∃ posted closings, Recorded trace posted closings [] ∧ Relation.ReflTransGen rely m m' ∧
        ∀ result, concluded posted closings = some result →
          out = (result.mapError generated).mapError executed) m := by
  rw [execute, resolve]
  simp only [Coro.wp_translate, Coro.wp_bind, Coro.wp_get]
  split
  · refine ⟨[], [], .nil, .refl, ?_⟩
    rintro _ ⟨⟩
  · rename_i config hconfig
    by_cases henabled : config.enabled = true
    · simp only [henabled, if_true]
      apply Coro.wp_pure.mpr
      apply Coro.wp_mono generate_suspends
      rintro trace m' _ ⟨posted, outcome, closing, hcompleted, hrecorded, hsteps, rfl⟩
      refine ⟨_, _, hrecorded, hsteps, ?_⟩
      cases hcompleted with
      | keyless => rintro _ ⟨⟩
      | posted =>
          rintro _ ⟨⟩
          rfl
    · simp only [henabled, Bool.false_eq_true, if_false]
      refine ⟨[], [], .nil, .refl, ?_⟩
      rintro _ ⟨⟩

/-- The outer handlers of `dispatch` report once. -/
theorem reportFailure_reports {error : UpstreamError} {m₁ : Memory μ}
    (hsteps : Relation.ReflTransGen rely m₁ m) :
    (reportFailure (α := α) backend error).wp (Contract.relying rely) (fun trace m' out =>
      ∃ readings, Recorded trace [] [] readings ∧
        Reported rely backend m₁ readings m' (reportOfError error) ∧ out = .error error) m := by
  rw [reportFailure, reportOfError]
  cases unavailable? error with
  | some unavailable =>
      simp only [Coro.wp_bind]
      apply Coro.wp_mono recordFailure_records
      rintro trace m' _ ⟨now, hclock, hcircuit, rfl⟩
      exact ⟨[now], hclock.stop, .of_steps now hsteps hcircuit fun _ _ => rfl, rfl⟩
  | none =>
      simp only [releaseProbe, Coro.wp_bind]
      apply Coro.wp_mono setCircuit_writes
      rintro trace m' _ ⟨hwrite, hcircuit, -, rfl⟩
      refine ⟨[], hwrite.stop, .of_steps 0 hsteps hcircuit ?_, rfl⟩
      rintro backendTransient ⟨⟩

/-- What a dispatch does, from what its trace records. -/
theorem treated_of_recorded {trace : List (SystemEvent μ)} {posted : List Posting}
    {closed : List Closing} {readings : List ℚ} {reports : Option CircuitReport} {m' : Memory μ}
    (hrecorded : Recorded trace posted closed readings)
    (htreated : Treated rely backend m readings m' reports)
    (hreports : ∀ result, concluded posted closed = some result →
      reports = some (reportOf result)) :
    ∃ reports, Treated rely backend m (clockReadings trace) m' reports ∧
      ∀ result, concluded (postings trace) (closings trace) = some result →
        reports = some (reportOf result) := by
  rw [hrecorded.readings_eq, hrecorded.postings_eq, hrecorded.closings_eq]
  exact ⟨reports, htreated, hreports⟩

/-- The report about an error is the one about the result it comes from. -/
theorem reportOf_of_mapError {result : Except UpstreamError α} {error : UpstreamError}
    (h : .error error = (result.mapError generated).mapError executed) :
    reportOfError error = reportOf result := by
  cases result with
  | ok value => cases h
  | error cause =>
      cases h
      rfl

theorem reportOf_of_ok {result : Except UpstreamError α} {value : α}
    (h : .ok value = (result.mapError generated).mapError executed) :
    CircuitReport.success = reportOf result := by
  cases result with
  | ok value => rfl
  | error cause => cases h

/-- A dispatch of a registered provider is refused by the circuit and posts nothing, or reports
once, and where it has posted about what its exchange came to. -/
theorem dispatch_treats (hconfig : m.shared.registry.getProvider? providerId = some config) :
    (dispatch providerId request).wp (Contract.relying rely) (fun trace m' _ => ∃ reports,
      Treated rely config.backend m (clockReadings trace) m' reports ∧
        ∀ result, concluded (postings trace) (closings trace) = some result →
          reports = some (reportOf result)) m := by
  rw [dispatch]
  simp only [Coro.wp_bind, Coro.wp_get, hconfig]
  apply Coro.wp_mono allowRequest_decides
  rintro trace m₁ _ ⟨-, now, hclock, ⟨hasserted, rfl, rfl⟩ | ⟨admitted, hallowed, rfl⟩⟩
  · refine treated_of_recorded hclock (.of_asserted hasserted) ?_
    rintro _ ⟨⟩
  · cases admitted with
    | false =>
        refine treated_of_recorded hclock.stop (.of_denied hallowed) ?_
        rintro _ ⟨⟩
    | true =>
        simp only [if_true, Coro.wp_bind, Coro.wp_rescue]
        apply Coro.wp_mono execute_suspends
        rintro rest m₂ result ⟨posted, closed, hrest, hsteps, hresult⟩
        cases result with
        | ok text =>
            apply Coro.wp_mono setCircuit_writes
            rintro last m₃ _ ⟨hlast, hcircuit, -, rfl⟩
            have hreported : Reported rely config.backend m₁ [] m₃ .success := by
              refine .of_steps 0 hsteps hcircuit ?_
              rintro backendTransient ⟨⟩
            refine treated_of_recorded (hclock.append (hrest.append hlast.stop))
              (.admitted hallowed hreported) ?_
            intro concluded' hconcluded
            simp only [List.append_nil, List.nil_append] at hconcluded
            rw [reportOf_of_ok (hresult concluded' hconcluded)]
        | error error =>
            apply Coro.wp_mono (reportFailure_reports hsteps)
            rintro last m₃ _ ⟨readings, hlast, hreported, rfl⟩
            refine treated_of_recorded (hclock.append (hrest.append hlast))
              (.admitted hallowed hreported) ?_
            intro concluded' hconcluded
            simp only [List.append_nil, List.nil_append] at hconcluded
            rw [reportOf_of_mapError (hresult concluded' hconcluded)]

end ProviderDispatcher

/-- The outcome of the exchange of a tier, where it was let through. -/
def StructuredHTTPRouter.outcome? (router : StructuredHTTPRouter) (trace : List (SystemEvent μ)) :
    Option UpstreamOutcome :=
  (router.concluded (postings trace)).bind UpstreamOutcome.of?

/-- The outcome of the exchange of a dispatch, where it has posted. -/
def ProviderDispatcher.outcome? (trace : List (SystemEvent μ)) : Option UpstreamOutcome :=
  (ProviderDispatcher.concluded (postings trace) (closings trace)).bind UpstreamOutcome.of?

section Alike

variable {rely : Memory μ → Memory μ → Prop} {backend : Backend} {m m' n n' : Memory μ}

/-- Whether a call is let through depends on the circuit and the time only. -/
theorem Treated.refused_of_refused {readings : List ℚ} {reports : Option CircuitReport}
    (hcircuit : m.shared.circuits backend = n.shared.circuits backend)
    (h : Treated rely backend m readings m' none)
    (h' : Treated rely backend n readings n' reports) :
    reports = none := by
  cases h with
  | refused denied _ =>
      cases h' with
      | refused _ _ => rfl
      | admitted allowed _ =>
          rw [hcircuit] at denied
          exact absurd allowed (denied _)

/-- A router and a task call with the same backend each do nothing to its circuit where they are
refused, and otherwise report to it once, what the outcome of the exchange deserves. Left alone
by others, the circuit is thus the same after both, if it was before, the clock shows the same
and the outcomes are the same. -/
theorem circuits_treated_alike (router : StructuredHTTPRouter) (tier : RouterTier)
    (request : RouterRequest) (providerId : String) (task : ProviderRequest)
    {config : ProviderConfig μ} {trace trace' : List (SystemEvent μ)}
    {out : Except UpstreamError RouterDecision} {out' : Except UpstreamError String}
    (hconfig : n.shared.registry.getProvider? providerId = some config)
    (hbackend : config.backend = router.backend)
    (hdecide : Coro.Run rely (router.decide tier request) m trace m' out)
    (hdispatch : Coro.Run rely (ProviderDispatcher.dispatch providerId task) n trace' n' out') :
    ∃ reports reports',
      Treated rely router.backend m (clockReadings trace) m' reports ∧
      Treated rely router.backend n (clockReadings trace') n' reports' ∧
      (∀ outcome ∈ router.outcome? trace, reports = some outcome.report) ∧
      (∀ outcome ∈ ProviderDispatcher.outcome? trace', reports' = some outcome.report) ∧
      (LeavesAlone rely router.backend →
        m.shared.circuits router.backend = n.shared.circuits router.backend →
        clockReadings trace = clockReadings trace' →
        (postings trace = [] ∨
          ∃ outcome ∈ router.outcome? trace, outcome ∈ ProviderDispatcher.outcome? trace') →
        m'.shared.circuits router.backend = n'.shared.circuits router.backend) := by
  have hdecided := Coro.wp_sound router.decide_treats hdecide
  obtain ⟨reports', hdispatched, hreports'⟩ :=
    Coro.wp_sound (ProviderDispatcher.dispatch_treats hconfig) hdispatch
  rw [hbackend] at hdispatched
  have houtcome : ∀ outcome ∈ router.outcome? trace,
      (router.concluded (postings trace)).map StructuredHTTPRouter.reportOf =
        some outcome.report := by
    intro outcome hmem
    obtain ⟨result, hresult, hof⟩ := Option.bind_eq_some_iff.mp hmem
    rw [hresult]
    exact congrArg some (StructuredHTTPRouter.reportOf_eq hof)
  have houtcome' : ∀ outcome ∈ ProviderDispatcher.outcome? trace',
      reports' = some outcome.report := by
    intro outcome hmem
    obtain ⟨result, hresult, hof⟩ := Option.bind_eq_some_iff.mp hmem
    rw [hreports' result hresult]
    exact congrArg some (ProviderDispatcher.reportOf_eq hof)
  refine ⟨_, reports', hdecided, hdispatched, houtcome, houtcome', ?_⟩
  intro halone hcircuit hclock hsame
  rw [← hclock] at hdispatched
  rcases hsame with hrefused | ⟨outcome, hmem, hmem'⟩
  · rw [hrefused] at hdecided
    have hnone := hdecided.refused_of_refused hcircuit hdispatched
    rw [hnone] at hdispatched
    exact hdecided.circuit_eq halone hcircuit hdispatched
  · rw [houtcome outcome hmem] at hdecided
    rw [houtcome' outcome hmem'] at hdispatched
    exact hdecided.circuit_eq halone hcircuit hdispatched

end Alike

/-- A half-open circuit of google with one of its three slots taken. -/
def probedMemory : Memory ℤ :=
  { deployment [generalProvider "p" 1 .google] none with
    shared :=
      { (deployment [generalProvider "p" 1 .google] none).shared with
        circuits := fun _ =>
          { settings := .bearing 2 2, state := .halfOpen, openedAt := some 0
            halfOpenInflight := 1 } } }

/-- The backends cannot be reached, 40 seconds after the circuits were opened. -/
def unreachable : Coro.Oracle systemInterface
  | _, .loopTime => (40 : ℚ)
  | _, .monotonic => (40 : ℚ)
  | _, .post _ _ => (.error .network : Except TransportFailure HttpResponse)
  | _, .closeClient _ _ _ => (.ok () : Except TransportFailure Unit)
  | _, .process response => (.ok response : Except PyException String)

/-- A tier that probes its backend. -/
def probingRouter : List (SystemEvent ℤ) × Memory ℤ × Except UpstreamError RouterDecision :=
  ((googleThenNvidia .primaryRouter).decide .primaryRouter firstRequest).eval unreachable
    probedMemory 0

/-- A task call that probes its backend. -/
def probingTask : List (SystemEvent ℤ) × Memory ℤ × Except UpstreamError String :=
  (ProviderDispatcher.dispatch "p" { text := "question", image := none }).eval unreachable
    probedMemory 0

/-- Either probe opens the circuit again. -/
theorem circuits_treated_alike_probing :
    (googleThenNvidia .primaryRouter).outcome? probingRouter.1 = some .network ∧
      ProviderDispatcher.outcome? probingTask.1 = some .network ∧
      (probingTask.2.1.shared.circuits .google).state = .open ∧
      probingRouter.2.1.shared.circuits .google = probingTask.2.1.shared.circuits .google := by
  have hrouter : (googleThenNvidia .primaryRouter).outcome? probingRouter.1 = some .network := by
    decide +kernel
  have htask : ProviderDispatcher.outcome? probingTask.1 = some .network := by
    decide +kernel
  have hdecide : Coro.Run Eq
      ((googleThenNvidia .primaryRouter).decide .primaryRouter firstRequest) probedMemory
      probingRouter.1 probingRouter.2.1 probingRouter.2.2 :=
    Coro.run_eval (fun _ => rfl) _ _ _ _
  have hdispatch : Coro.Run Eq
      (ProviderDispatcher.dispatch "p" { text := "question", image := none }) probedMemory
      probingTask.1 probingTask.2.1 probingTask.2.2 :=
    Coro.run_eval (fun _ => rfl) _ _ _ _
  have hregistered : probedMemory.shared.registry.getProvider? "p" =
      some (generalProvider "p" 1 .google) := rfl
  obtain ⟨_, _, _, _, _, _, hsame⟩ := circuits_treated_alike (googleThenNvidia .primaryRouter)
    .primaryRouter firstRequest "p" { text := "question", image := none } hregistered rfl hdecide
    hdispatch
  refine ⟨hrouter, htask, by decide +kernel, ?_⟩
  apply hsame
  · rintro _ _ rfl
    rfl
  · rfl
  · decide +kernel
  · exact .inr ⟨.network, hrouter, htask⟩

end LLMRouting
