/-
# The representation of a circuit

A circuit keeps four fields in step by hand, and its operations come in any order: reports
of calls it let in long ago, releases of slots nobody took, snapshots in between. This
module says what the fields mean. The one that needs a history is the failure counter: it
counts the transient failures recorded since the circuit last recorded a success, and a
half-open circuit that closes records one.

The history and the last clock reading are bookkeeping of the model.
-/

import LLMRouting.Interaction.Transition
import LLMRouting.Providers.CircuitBreaker

namespace LLMRouting

open LLMRouting.Interaction

/-- What `snapshot` reports about one circuit. -/
structure CircuitSnapshot where
  state : CircuitState
  consecutiveFailures : ℕ
  halfOpenInflight : ℕ
  deriving DecidableEq, Repr

/-- An OPEN circuit whose cooldown is over is reported as HALF_OPEN, which it becomes only
with the next request. -/
def BackendCircuit.snapshot (circuit : BackendCircuit) (now : ℚ) : CircuitSnapshot where
  state :=
    if circuit.state = .open ∧
        circuit.openedAt.any fun openedAt => circuit.settings.openSeconds ≤ now - openedAt then
      .halfOpen
    else circuit.state
  consecutiveFailures := circuit.consecutiveFailures
  halfOpenInflight := circuit.halfOpenInflight

/-- The operations of `BackendCircuits` on one backend. -/
inductive CircuitOperation
  | allowRequest
  | report (report : CircuitReport)
  | snapshot
  deriving DecidableEq, Repr

inductive CircuitReply
  | admitted (allowed : Bool)
  | recorded
  | seen (snapshot : CircuitSnapshot)
  deriving DecidableEq, Repr

/-- What an operation returns and the circuit afterwards; `none` where the assertion of
`allow_request` fails. -/
def BackendCircuit.perform (circuit : BackendCircuit) (now : ℚ) :
    CircuitOperation → Option (CircuitReply × BackendCircuit)
  | .allowRequest => (circuit.allowRequest now).map fun answer => (.admitted answer.1, answer.2)
  | .report report => some (.recorded, circuit.report now report)
  | .snapshot => some (.seen (circuit.snapshot now), circuit)

/-- An operation as it was performed, with the circuit's state before and after it. -/
structure PastOperation where
  backend : Backend
  operation : CircuitOperation
  before : CircuitState
  after : CircuitState
  deriving DecidableEq, Repr

namespace PastOperation

/-- A transient failure was recorded. -/
def isTransientFailure (past : PastOperation) : Bool :=
  decide (past.operation = .report (.failure true))

/-- A success was recorded, as an outcome or because a half-open circuit was closed. -/
def recordsSuccess (past : PastOperation) : Bool :=
  decide (past.operation = .report .success ∨ past.before ≠ .closed ∧ past.after = .closed)

end PastOperation

/-- The transient failures recorded since a success was. -/
def failuresSinceSuccess (history : List PastOperation) : ℕ :=
  (history.reverse.takeWhile fun past => !past.recordsSuccess).countP
    PastOperation.isTransientFailure

/-- An operation on the circuit of one backend, and the clock reading it makes. -/
structure TimedOperation where
  backend : Backend
  operation : CircuitOperation
  now : ℚ
  deriving DecidableEq

/-- `BackendCircuits`, with the last reading of its clock and what has been done so far. -/
structure BackendCircuits where
  circuits : Backend → BackendCircuit
  clock : ℚ
  history : List PastOperation := []

namespace BackendCircuits

/-- Circuits that were just made. -/
def initial (settings : CircuitSettings) (clock : ℚ) : BackendCircuits where
  circuits _ := { settings := settings }
  clock := clock

/-- The operations on one backend's circuit. -/
def historyOf (board : BackendCircuits) (backend : Backend) : List PastOperation :=
  board.history.filter fun past => decide (past.backend = backend)

/-- One operation; `none` if the clock were to run backwards or the assertion fails. -/
def step (board : BackendCircuits) (timed : TimedOperation) : Option BackendCircuits :=
  if board.clock ≤ timed.now then
    ((board.circuits timed.backend).perform timed.now timed.operation).map fun performed =>
      { circuits := Function.update board.circuits timed.backend performed.2
        clock := timed.now
        history := board.history ++
          [⟨timed.backend, timed.operation, (board.circuits timed.backend).state,
            performed.2.state⟩] }
  else none

end BackendCircuits

theorem failuresSinceSuccess_snoc (history : List PastOperation) (past : PastOperation) :
    failuresSinceSuccess (history ++ [past]) =
      if past.recordsSuccess then 0
      else failuresSinceSuccess history + if past.isTransientFailure then 1 else 0 := by
  unfold failuresSinceSuccess
  rw [List.reverse_append, List.reverse_singleton, List.singleton_append]
  by_cases hsuccess : past.recordsSuccess
  · simp [hsuccess]
  · simp [hsuccess, List.countP_cons]

/-- An operation on another backend's circuit is no part of this one's history. -/
theorem BackendCircuits.historyOf_snoc (board : BackendCircuits) (past : PastOperation)
    (circuits : Backend → BackendCircuit) (clock : ℚ) (backend : Backend) :
    historyOf { circuits := circuits, clock := clock, history := board.history ++ [past] } backend =
      if past.backend = backend then board.historyOf backend ++ [past]
      else board.historyOf backend := by
  show (board.history ++ [past]).filter _ = _
  rw [List.filter_append]
  by_cases hbackend : past.backend = backend
  · simp [hbackend, historyOf]
  · simp [hbackend, historyOf]

namespace BackendCircuit

/-- What the fields of a circuit mean, if `failures` transient failures have been recorded
since a success was. -/
structure Represented (circuit : BackendCircuit) (failures : ℕ) : Prop extends
    WellFormed circuit where
  openedAt_eq_none : circuit.state = .closed → circuit.openedAt = none
  failures_eq : circuit.state = .closed → circuit.consecutiveFailures = failures
  below : circuit.state = .closed →
    circuit.consecutiveFailures < circuit.settings.failureThreshold
  reached : circuit.state ≠ .closed →
    circuit.settings.failureThreshold ≤ circuit.consecutiveFailures

variable {circuit circuit' : BackendCircuit} {now : ℚ} {failures : ℕ}

theorem represented_new (settings : CircuitSettings) : Represented { settings := settings } 0 where
  toWellFormed := wellFormed_new settings
  openedAt_eq_none _ := rfl
  failures_eq _ := rfl
  below _ := settings.failureThreshold_pos
  reached h := absurd rfl h

/-- A circuit that records a success starts over. -/
theorem represented_recordSuccess : circuit.recordSuccess.Represented 0 where
  toWellFormed := wellFormed_recordSuccess
  openedAt_eq_none _ := rfl
  failures_eq _ := rfl
  below _ := circuit.settings.failureThreshold_pos
  reached h := absurd rfl h

/-- A circuit opens with its failures counted up to the threshold. -/
theorem represented_trip
    (hreached : circuit.settings.failureThreshold ≤ circuit.consecutiveFailures) :
    (circuit.trip now).Represented failures where
  toWellFormed := wellFormed_trip
  openedAt_eq_none h := by cases h
  failures_eq h := by cases h
  below h := by cases h
  reached _ := hreached

/-- The count after a report. -/
def failuresAfter (circuit : BackendCircuit) (failures : ℕ) : CircuitReport → ℕ
  | .success => 0
  | .failure false => if circuit.state = .halfOpen then 0 else failures
  | .failure true => failures + 1
  | .release => failures

/-- A report adds to the count what its place in the history says. -/
theorem failuresAfter_eq {backend : Backend} (report : CircuitReport) :
    circuit.failuresAfter failures report =
      if (PastOperation.mk backend (.report report) circuit.state
        (circuit.report now report).state).recordsSuccess then 0
      else failures +
        if (PastOperation.mk backend (.report report) circuit.state
          (circuit.report now report).state).isTransientFailure then 1 else 0 := by
  cases report with
  | success => simp [PastOperation.recordsSuccess, failuresAfter]
  | release =>
      have hstate : (circuit.report now .release).state = circuit.state := by
        simp only [BackendCircuit.report, releaseProbe]
        split_ifs <;> rfl
      simp [PastOperation.recordsSuccess, PastOperation.isTransientFailure, failuresAfter, hstate]
  | failure backendTransient =>
      cases hstate : circuit.state with
      | halfOpen =>
          have hafter : (circuit.report now (.failure backendTransient)).state =
              if backendTransient then .open else .closed := by
            rw [state_report_of_halfOpen hstate]
            cases backendTransient <;> rfl
          cases backendTransient <;>
            simp_all [PastOperation.recordsSuccess, PastOperation.isTransientFailure, failuresAfter]
      | closed =>
          cases backendTransient <;>
            simp [PastOperation.recordsSuccess, PastOperation.isTransientFailure, failuresAfter,
              hstate]
      | «open» =>
          have hafter : (circuit.report now (.failure backendTransient)).state ≠ .closed := by
            simp only [BackendCircuit.report, recordFailure, hstate]
            split_ifs <;> simp_all [trip]
          cases backendTransient <;>
            simp_all [PastOperation.recordsSuccess, PastOperation.isTransientFailure, failuresAfter]

theorem Represented.report (h : circuit.Represented failures) (report : CircuitReport) :
    (circuit.report now report).Represented (circuit.failuresAfter failures report) := by
  have hwellFormed : (circuit.report now report).WellFormed := h.toWellFormed.report report
  cases report with
  | success => exact represented_recordSuccess
  | release =>
      by_cases hhalf : circuit.state = .halfOpen
      · have hrelease : circuit.report now .release =
            { circuit with halfOpenInflight := circuit.halfOpenInflight - 1 } := if_pos hhalf
        rw [hrelease] at hwellFormed ⊢
        exact ⟨hwellFormed, h.openedAt_eq_none, h.failures_eq, h.below, h.reached⟩
      · have hrelease : circuit.report now .release = circuit := if_neg hhalf
        rw [hrelease]
        exact h
  | failure backendTransient =>
      by_cases hhalf : circuit.state = .halfOpen
      · cases backendTransient with
        | false =>
            have hclosed : circuit.report now (.failure false) = circuit.recordSuccess := by
              simp [BackendCircuit.report, recordFailure, hhalf]
            rw [hclosed, failuresAfter, if_pos hhalf]
            exact represented_recordSuccess
        | true =>
            have htripped : circuit.report now (.failure true) = circuit.trip now := by
              simp [BackendCircuit.report, recordFailure, hhalf]
            rw [htripped]
            exact represented_trip (h.reached (by simp [hhalf]))
      · cases backendTransient with
        | false =>
            have hsame : circuit.report now (.failure false) = circuit := by
              simp [BackendCircuit.report, recordFailure, hhalf]
            rw [hsame, failuresAfter, if_neg hhalf]
            exact h
        | true =>
            by_cases hreached :
                circuit.settings.failureThreshold ≤ circuit.consecutiveFailures + 1
            · have htripped : circuit.report now (.failure true) = trip
                  { circuit with consecutiveFailures := circuit.consecutiveFailures + 1 } now := by
                simp [BackendCircuit.report, recordFailure, hhalf, hreached]
              rw [htripped]
              exact represented_trip hreached
            · have hcounted : circuit.report now (.failure true) =
                  { circuit with consecutiveFailures := circuit.consecutiveFailures + 1 } := by
                simp [BackendCircuit.report, recordFailure, hhalf, hreached]
              rw [hcounted] at hwellFormed ⊢
              refine ⟨hwellFormed, h.openedAt_eq_none, ?_, ?_, ?_⟩
              · exact fun hclosed => congrArg (· + 1) (h.failures_eq hclosed)
              · exact fun _ => not_le.mp hreached
              · exact fun hopen => (h.reached hopen).trans (Nat.le_succ _)

theorem Represented.admission (h : circuit.Represented failures) {admitted : Bool}
    (hadmission : Admission circuit now admitted circuit') : circuit'.Represented failures := by
  have hwellFormed := h.toWellFormed.admission hadmission
  cases hadmission with
  | cooling | full | closed => exact h
  | probe => exact ⟨hwellFormed, h.openedAt_eq_none, h.failures_eq, h.below, h.reached⟩
  | firstProbe state =>
      have hreached := h.reached (by simp [state])
      exact
        { toWellFormed := hwellFormed
          openedAt_eq_none := fun h => by cases h
          failures_eq := fun h => by cases h
          below := fun h => by cases h
          reached := fun _ => hreached }

/-- The assertion of `allow_request` holds. -/
theorem WellFormed.exists_allowRequest (h : circuit.WellFormed) (now : ℚ) :
    ∃ answer, circuit.allowRequest now = some answer := by
  rw [allowRequest]
  by_cases hopen : circuit.state = .open
  · obtain ⟨openedAt, hopened⟩ := Option.isSome_iff_exists.mp (h.openedAt_isSome (by simp [hopen]))
    rw [if_pos hopen, hopened]
    exact ⟨_, rfl⟩
  · rw [if_neg hopen]
    exact ⟨_, rfl⟩

/-- An operation on the circuit and what it adds to the count agree. -/
theorem Represented.perform (h : circuit.Represented failures) {backend : Backend}
    {operation : CircuitOperation} {reply : CircuitReply}
    (hperform : circuit.perform now operation = some (reply, circuit')) :
    circuit'.Represented
      (if (PastOperation.mk backend operation circuit.state circuit'.state).recordsSuccess then 0
      else failures +
        if (PastOperation.mk backend operation circuit.state circuit'.state).isTransientFailure
          then 1 else 0) := by
  cases operation with
  | snapshot =>
      cases hperform
      by_cases hclosed : circuit.state = .closed
      · simpa [PastOperation.recordsSuccess, PastOperation.isTransientFailure, hclosed] using h
      · simpa [PastOperation.recordsSuccess, PastOperation.isTransientFailure, hclosed] using h
  | allowRequest =>
      obtain ⟨⟨admitted, answered⟩, hallow, hanswer⟩ := Option.map_eq_some_iff.mp hperform
      cases hanswer
      have hadmission := admission_of_allowRequest hallow
      have hrepresented := h.admission hadmission
      have hstate : circuit.state ≠ .closed → answered.state ≠ .closed := by
        intro hne
        cases hadmission with
        | cooling | full | closed | probe => exact hne
        | firstProbe => simp
      by_cases hclosed : circuit.state = .closed
      · simpa [PastOperation.recordsSuccess, PastOperation.isTransientFailure, hclosed] using
          hrepresented
      · simpa [PastOperation.recordsSuccess, PastOperation.isTransientFailure, hclosed,
          hstate hclosed] using hrepresented
  | report report =>
      cases hperform
      have hrepresented : (circuit.report now report).Represented _ := h.report report
      have hcount : circuit.failuresAfter failures report =
          if (PastOperation.mk backend (.report report) circuit.state
            (circuit.report now report).state).recordsSuccess then 0
          else failures +
            if (PastOperation.mk backend (.report report) circuit.state
              (circuit.report now report).state).isTransientFailure then 1 else 0 :=
        failuresAfter_eq report
      rwa [← hcount]

theorem settings_perform {operation : CircuitOperation} {reply : CircuitReply}
    (h : circuit.perform now operation = some (reply, circuit')) :
    circuit'.settings = circuit.settings := by
  cases operation with
  | snapshot =>
      cases h
      rfl
  | report report =>
      cases h
      exact settings_report report
  | allowRequest =>
      obtain ⟨⟨admitted, answered⟩, hallow, hanswer⟩ := Option.map_eq_some_iff.mp h
      cases hanswer
      cases admission_of_allowRequest hallow with
      | cooling | full | closed | probe | firstProbe => rfl

/-- A CLOSED circuit opens with the transient failure that fills the count, and with nothing
else. -/
theorem Represented.opens_iff (h : circuit.Represented failures) (hclosed : circuit.state = .closed)
    {operation : CircuitOperation} {reply : CircuitReply}
    (hperform : circuit.perform now operation = some (reply, circuit')) :
    circuit'.state = .open ↔ operation = .report (.failure true) ∧
      failures + 1 = circuit.settings.failureThreshold := by
  have hcount := h.failures_eq hclosed
  have hbelow := h.below hclosed
  cases operation with
  | snapshot =>
      cases hperform
      simp [hclosed]
  | allowRequest =>
      have hallow : circuit.allowRequest now = some (true, circuit) :=
        allowRequest_of_closed hclosed
      rw [BackendCircuit.perform, hallow] at hperform
      cases hperform
      simp [hclosed]
  | report report =>
      cases hperform
      cases report with
      | success => simp [BackendCircuit.report, recordSuccess]
      | release => simp [BackendCircuit.report, releaseProbe, hclosed]
      | failure backendTransient =>
          cases backendTransient with
          | false => simp [BackendCircuit.report, recordFailure, hclosed]
          | true =>
              by_cases hreached : circuit.settings.failureThreshold ≤ failures + 1
              · have hfull : failures + 1 = circuit.settings.failureThreshold := by omega
                simp [BackendCircuit.report, recordFailure, hclosed, hcount, trip, hfull]
              · have hfull : failures + 1 ≠ circuit.settings.failureThreshold := by omega
                simp [BackendCircuit.report, recordFailure, hclosed, hcount, hreached, hfull]

end BackendCircuit

namespace BackendCircuits

/-- Every circuit has the settings it was made with, and fields that mean what they should. -/
def Represented (settings : CircuitSettings) (board : BackendCircuits) : Prop :=
  ∀ backend, (board.circuits backend).settings = settings ∧
    (board.circuits backend).Represented (failuresSinceSuccess (board.historyOf backend))

theorem represented_initial (settings : CircuitSettings) (clock : ℚ) :
    (initial settings clock).Represented settings :=
  fun _ => ⟨rfl, BackendCircuit.represented_new settings⟩

variable {settings : CircuitSettings} {board board' : BackendCircuits} {timed : TimedOperation}

/-- One operation, on whichever circuit and at whatever time. -/
theorem Represented.step (h : board.Represented settings) (hstep : board.step timed = some board') :
    board'.Represented settings := by
  unfold BackendCircuits.step at hstep
  split_ifs at hstep
  obtain ⟨⟨reply, circuit⟩, hperform, hboard⟩ := Option.map_eq_some_iff.mp hstep
  cases hboard
  intro backend
  obtain ⟨hsettings, hrepresented⟩ := h backend
  rw [historyOf_snoc]
  show BackendCircuit.settings (Function.update board.circuits timed.backend circuit backend) = _ ∧
    BackendCircuit.Represented (Function.update board.circuits timed.backend circuit backend) _
  by_cases hbackend : timed.backend = backend
  · subst hbackend
    rw [Function.update_self, if_pos rfl, failuresSinceSuccess_snoc]
    exact ⟨(BackendCircuit.settings_perform hperform).trans hsettings,
      hrepresented.perform hperform⟩
  · rw [Function.update_of_ne (Ne.symm hbackend), if_neg hbackend]
    exact ⟨hsettings, hrepresented⟩

theorem represented_of_run {clock : ℚ} {operations : List TimedOperation}
    (h : Steps (Enabled BackendCircuits.step) (initial settings clock) operations board) :
    board.Represented settings := by
  apply Steps.invariant (P := Represented settings) h
  · exact represented_initial settings clock
  · intro board timed board' hboard hstep
    exact hboard.step hstep

/-- What the fields of a circuit say in each state, given its history. -/
structure FieldsAgree (settings : CircuitSettings) (circuit : BackendCircuit)
    (history : List PastOperation) : Prop where
  closed : circuit.state = .closed →
    circuit.openedAt = none ∧ circuit.halfOpenInflight = 0 ∧
      circuit.consecutiveFailures = failuresSinceSuccess history ∧
      circuit.consecutiveFailures < settings.failureThreshold
  opened : circuit.state = .open →
    circuit.openedAt.isSome ∧ circuit.halfOpenInflight = 0 ∧
      settings.failureThreshold ≤ circuit.consecutiveFailures
  halfOpen : circuit.state = .halfOpen →
    circuit.openedAt.isSome ∧ circuit.halfOpenInflight ≤ settings.halfOpenProbes

theorem Represented.fieldsAgree (h : board.Represented settings) (backend : Backend) :
    FieldsAgree settings (board.circuits backend) (board.historyOf backend) := by
  obtain ⟨rfl, hcircuit⟩ := h backend
  constructor
  · intro hclosed
    exact ⟨hcircuit.openedAt_eq_none hclosed, hcircuit.inflight_eq_zero (by simp [hclosed]),
      hcircuit.failures_eq hclosed, hcircuit.below hclosed⟩
  · intro hopen
    have hne : (board.circuits backend).state ≠ .closed := by simp [hopen]
    exact ⟨hcircuit.openedAt_isSome hne, hcircuit.inflight_eq_zero (by simp [hopen]),
      hcircuit.reached hne⟩
  · intro hhalf
    exact ⟨hcircuit.openedAt_isSome (by simp [hhalf]), hcircuit.inflight_le⟩

/-- Whatever operations the circuits of all backends have been through, in any order and at
any times: the fields of each agree with its state and its history, no operation fails, and
a CLOSED circuit opens exactly when the transient failure that completes the threshold since
the last success is recorded. -/
theorem circuit_fields {clock : ℚ} {operations : List TimedOperation}
    (h : Steps (Enabled BackendCircuits.step) (initial settings clock) operations board) :
    (∀ backend, FieldsAgree settings (board.circuits backend) (board.historyOf backend)) ∧
    (∀ timed : TimedOperation, board.clock ≤ timed.now → ∃ board', board.step timed = some board') ∧
    ∀ backend, (board.circuits backend).state = .closed → ∀ operation now reply circuit',
      (board.circuits backend).perform now operation = some (reply, circuit') →
      (circuit'.state = .open ↔ operation = .report (.failure true) ∧
        failuresSinceSuccess (board.historyOf backend) + 1 = settings.failureThreshold) := by
  have hrepresented := represented_of_run h
  refine ⟨hrepresented.fieldsAgree, ?_, ?_⟩
  · intro timed hclock
    rw [BackendCircuits.step]
    rw [if_pos hclock]
    cases hoperation : timed.operation with
    | snapshot | report => exact ⟨_, rfl⟩
    | allowRequest =>
        obtain ⟨answer, hanswer⟩ :=
          (hrepresented timed.backend).2.toWellFormed.exists_allowRequest timed.now
        exact ⟨_, by rw [BackendCircuit.perform, hanswer]; rfl⟩
  · intro backend hclosed operation now reply circuit' hperform
    obtain ⟨rfl, hcircuit⟩ := hrepresented backend
    exact hcircuit.opens_iff hclosed hperform

/-- Two transient failures with a failure of another kind between them, on one backend, and
a release of a slot that was never taken on another. -/
def twoFailures : List TimedOperation :=
  [⟨.google, .report (.failure true), 0⟩, ⟨.nvidia, .report .release, 1⟩,
    ⟨.google, .report (.failure false), 1⟩, ⟨.google, .report (.failure true), 2⟩]

theorem circuit_fields_twoFailures :
    ∃ board, replay BackendCircuits.step (initial (.bearing 1 0) 0) twoFailures = some board ∧
      (board.circuits .google).state = .open ∧ (board.circuits .google).openedAt.isSome ∧
      (board.circuits .nvidia).consecutiveFailures = 0 := by
  have hreplay : ((replay BackendCircuits.step (initial (.bearing 1 0) 0) twoFailures).map
      fun board => ((board.circuits .google).state, (board.circuits .nvidia).state,
        failuresSinceSuccess (board.historyOf .nvidia))) = some (.open, .closed, 0) := by
    decide +kernel
  obtain ⟨board, hboard, hstates⟩ := Option.map_eq_some_iff.mp hreplay
  obtain ⟨hopen, hclosed, hnone⟩ : (board.circuits .google).state = .open ∧
      (board.circuits .nvidia).state = .closed ∧
      failuresSinceSuccess (board.historyOf .nvidia) = 0 := by simpa using hstates
  obtain ⟨hfields, -, -⟩ := circuit_fields (steps_of_replay hboard)
  have hopened := (hfields .google).opened hopen
  have hcount := (hfields .nvidia).closed hclosed
  exact ⟨board, hboard, hopen, hopened.1, hcount.2.2.1.trans hnone⟩

end BackendCircuits

end LLMRouting
