/-
# Calls through one circuit

A router call and a provider dispatch use their backend's circuit in the same way:
they ask it for admission, are away for as long as the upstream takes, and report how
that went when they come back. Between the two moments any number of other calls may
come and go. This module is that system, for one backend: the circuit, the clock, and
the calls that were admitted and have not reported yet.

The circuit keeps no record of who it let in. The two counters and the notes on each
outstanding call are bookkeeping of the model, never read by the circuit.
-/

import LLMRouting.Interaction.Transition
import LLMRouting.Providers.CircuitBreaker

namespace LLMRouting

open LLMRouting.Interaction

/-- How `ProviderDispatcher.dispatch` leaves its outer `try`. -/
inductive DispatchEnding
  | success
  | unavailable (scope : FailureScope)
  | timedOut
  | disabled
  | cancelled
  | unexpected
  deriving DecidableEq, Repr

/-- A time-out is turned into a transient `ProviderUnavailableError` first; whatever is
no `ProviderUnavailableError` only gives its slot back. -/
def DispatchEnding.reports : DispatchEnding → List CircuitReport
  | .success => [.success]
  | .unavailable scope => [.failure (decide (scope = .backendTransient))]
  | .timedOut => [.failure true]
  | .disabled | .cancelled | .unexpected => [.release]

/-- How `StructuredHTTPRouter.decide` leaves its `try`. -/
inductive RouterEnding
  | success
  | httpError (scope : FailureScope)
  | unusable
  | timedOut
  | cancelled
  | unexpected
  deriving DecidableEq, Repr

/-- The helpers that record a failure raise `RouterUnavailableError` inside the `try`,
which releases once more on its way out; the time-out is recorded outside it. -/
def RouterEnding.reports : RouterEnding → List CircuitReport
  | .success => [.success]
  | .httpError scope => [.failure (decide (scope = .backendTransient)), .release]
  | .unusable => [.failure false, .release]
  | .timedOut => [.failure true]
  | .cancelled | .unexpected => [.release]

inductive Caller
  | dispatcher
  | router
  deriving DecidableEq, Repr

inductive CallEnding
  | dispatch (ending : DispatchEnding)
  | decide (ending : RouterEnding)
  deriving DecidableEq, Repr

namespace CallEnding

def caller : CallEnding → Caller
  | .dispatch _ => .dispatcher
  | .decide _ => .router

def reports : CallEnding → List CircuitReport
  | .dispatch ending => ending.reports
  | .decide ending => ending.reports

/-- The one report a call amounts to. -/
def netReport (ending : CallEnding) : CircuitReport := ending.reports.headD .release

end CallEnding

namespace BackendCircuit

def reportAll (circuit : BackendCircuit) (now : ℚ) (reports : List CircuitReport) :
    BackendCircuit :=
  reports.foldl (fun circuit report => circuit.report now report) circuit

/-- A finished call has the effect of exactly one report. -/
theorem reportAll_reports (circuit : BackendCircuit) (now : ℚ) (ending : CallEnding) :
    circuit.reportAll now ending.reports = circuit.report now ending.netReport := by
  cases ending with
  | dispatch ending => cases ending <;> rfl
  | decide ending =>
      cases ending with
      | httpError scope => exact releaseProbe_recordFailure _
      | unusable => exact releaseProbe_recordFailure false
      | success | timedOut | cancelled | unexpected => rfl

end BackendCircuit

/-- A call that was admitted and has not reported: how many half-open periods had begun
when it was, and whether it came in during one. -/
structure OutstandingCall where
  caller : Caller
  period : ℕ
  probe : Bool
  deriving DecidableEq, Repr

/-- The circuit of a backend and the calls that are using it. -/
structure Traffic where
  circuit : BackendCircuit
  now : ℚ
  period : ℕ := 0
  admissions : ℕ := 0
  outstanding : List OutstandingCall := []
  deriving DecidableEq

inductive TrafficAction
  | wait (later : ℚ)
  | arrive (caller : Caller)
  | finish (index : ℕ) (ending : CallEnding)
  deriving DecidableEq

namespace Traffic

/-- A fresh circuit at some moment of the clock. -/
def initial (settings : CircuitSettings) (now : ℚ) : Traffic :=
  { circuit := { settings := settings }, now := now }

/-- The bookkeeping after `allow_request` has answered. -/
def arrived (traffic : Traffic) (caller : Caller) (admitted : Bool) (circuit : BackendCircuit) :
    Traffic :=
  let period :=
    if traffic.circuit.state ≠ .halfOpen ∧ circuit.state = .halfOpen then traffic.period + 1
    else traffic.period
  if admitted then
    { traffic with
      circuit := circuit
      period := period
      admissions := traffic.admissions + 1
      outstanding := traffic.outstanding ++ [⟨caller, period, decide (circuit.state = .halfOpen)⟩] }
  else { traffic with circuit := circuit, period := period }

/-- One step: the clock moves on, a call arrives, or an outstanding call finishes. -/
def step (traffic : Traffic) : TrafficAction → Option Traffic
  | .wait later => if traffic.now ≤ later then some { traffic with now := later } else none
  | .arrive caller =>
      (traffic.circuit.allowRequest traffic.now).map fun answer =>
        traffic.arrived caller answer.1 answer.2
  | .finish index ending =>
      match traffic.outstanding[index]? with
      | none => none
      | some call =>
          if call.caller = ending.caller then
            some { traffic with
              circuit := traffic.circuit.reportAll traffic.now ending.reports
              outstanding := traffic.outstanding.eraseIdx index }
          else none

/-- The outstanding calls admitted since the circuit last became HALF_OPEN. -/
def currentProbes (traffic : Traffic) : ℕ :=
  traffic.outstanding.countP fun call => decide (call.period = traffic.period)

/-- The outstanding calls that were admitted while the circuit was HALF_OPEN. -/
def heldProbes (traffic : Traffic) : ℕ := traffic.outstanding.countP OutstandingCall.probe

/-- The steps of the system, one constructor for each thing that can happen. -/
inductive StepCases (traffic : Traffic) : TrafficAction → Traffic → Prop
  | wait {later : ℚ} (later_le : traffic.now ≤ later) :
      StepCases traffic (.wait later) { traffic with now := later }
  | denied {caller : Caller}
      (admission : traffic.circuit.Admission traffic.now false traffic.circuit) :
      StepCases traffic (.arrive caller) traffic
  | admitted {caller : Caller} {circuit : BackendCircuit}
      (admission : traffic.circuit.Admission traffic.now true circuit)
      (state : traffic.circuit.state = circuit.state) :
      StepCases traffic (.arrive caller)
        { traffic with
          circuit := circuit
          admissions := traffic.admissions + 1
          outstanding := traffic.outstanding ++
            [⟨caller, traffic.period, decide (circuit.state = .halfOpen)⟩] }
  | firstProbe {caller : Caller} {openedAt : ℚ} (state : traffic.circuit.state = .open)
      (opened : traffic.circuit.openedAt = some openedAt)
      (late : openedAt + traffic.circuit.settings.openSeconds ≤ traffic.now) :
      StepCases traffic (.arrive caller)
        { traffic with
          circuit := { traffic.circuit with state := .halfOpen, halfOpenInflight := 1 }
          period := traffic.period + 1
          admissions := traffic.admissions + 1
          outstanding := traffic.outstanding ++ [⟨caller, traffic.period + 1, true⟩] }
  | finish {index : ℕ} {ending : CallEnding} {call : OutstandingCall}
      (found : traffic.outstanding[index]? = some call) (caller : call.caller = ending.caller) :
      StepCases traffic (.finish index ending)
        { traffic with
          circuit := traffic.circuit.report traffic.now ending.netReport
          outstanding := traffic.outstanding.eraseIdx index }

theorem stepCases {traffic traffic' : Traffic} {action : TrafficAction}
    (h : traffic.step action = some traffic') : StepCases traffic action traffic' := by
  cases action with
  | wait later =>
      obtain ⟨hle, h⟩ := Option.ite_none_right_eq_some.mp h
      cases h
      exact .wait hle
  | arrive caller =>
      obtain ⟨⟨admitted, circuit⟩, hallow, rfl⟩ := Option.map_eq_some_iff.mp h
      cases BackendCircuit.admission_of_allowRequest hallow with
      | cooling state opened early =>
          have hdenied : StepCases traffic (.arrive caller) traffic :=
            .denied (.cooling state opened early)
          simpa [arrived] using hdenied
      | full state full =>
          have hdenied : StepCases traffic (.arrive caller) traffic := .denied (.full state full)
          simpa [arrived] using hdenied
      | closed state =>
          have hadmitted : StepCases traffic (.arrive caller) _ := .admitted (.closed state) rfl
          simpa [arrived] using hadmitted
      | probe state free =>
          have hadmitted : StepCases traffic (.arrive caller) _ := .admitted (.probe state free) rfl
          simpa [arrived, state] using hadmitted
      | firstProbe state opened late =>
          have hfirst : StepCases traffic (.arrive caller) _ := .firstProbe state opened late
          simpa [arrived, state] using hfirst
  | finish index ending =>
      cases hfound : traffic.outstanding[index]? with
      | none => simp [step, hfound] at h
      | some call =>
          simp only [step, hfound] at h
          obtain ⟨hcaller, h⟩ := Option.ite_none_right_eq_some.mp h
          cases h
          rw [BackendCircuit.reportAll_reports]
          exact .finish hfound hcaller

theorem settings_step {traffic traffic' : Traffic} {action : TrafficAction}
    (h : traffic.step action = some traffic') :
    traffic'.circuit.settings = traffic.circuit.settings := by
  cases stepCases h with
  | wait | denied | firstProbe => rfl
  | admitted admission => cases admission <;> rfl
  | finish => exact BackendCircuit.settings_report _

theorem now_le_of_step {traffic traffic' : Traffic} {action : TrafficAction}
    (h : traffic.step action = some traffic') : traffic.now ≤ traffic'.now := by
  cases stepCases h with
  | wait later_le => exact later_le
  | denied | admitted | firstProbe | finish => exact le_rfl

theorem admissions_le_of_step {traffic traffic' : Traffic} {action : TrafficAction}
    (h : traffic.step action = some traffic') : traffic.admissions ≤ traffic'.admissions := by
  cases stepCases h with
  | wait | denied | finish => exact le_rfl
  | admitted | firstProbe => exact Nat.le_succ _

/-- Counting the outstanding calls after one of them has left. -/
theorem countP_eraseIdx {calls : List OutstandingCall} {index : ℕ} {call : OutstandingCall}
    (h : calls[index]? = some call) (p : OutstandingCall → Bool) :
    (calls.eraseIdx index).countP p + (if p call then 1 else 0) = calls.countP p := by
  obtain ⟨hindex, rfl⟩ := List.getElem?_eq_some_iff.mp h
  rw [← (List.getElem_cons_eraseIdx_perm hindex).countP_eq p, List.countP_cons]

/-- The circuit is well formed, no outstanding call comes from a later half-open period,
and every taken slot belongs to an outstanding probe. -/
structure Invariant (traffic : Traffic) : Prop where
  wellFormed : traffic.circuit.WellFormed
  period_le : ∀ call ∈ traffic.outstanding, call.period ≤ traffic.period
  inflight_le : traffic.circuit.halfOpenInflight ≤ traffic.heldProbes

theorem invariant_initial (settings : CircuitSettings) (now : ℚ) :
    (initial settings now).Invariant where
  wellFormed := BackendCircuit.wellFormed_new settings
  period_le _ h := absurd h List.not_mem_nil
  inflight_le := le_rfl

theorem Invariant.finish {traffic : Traffic} (h : traffic.Invariant) {index : ℕ}
    {call : OutstandingCall} (hfound : traffic.outstanding[index]? = some call)
    (report : CircuitReport) :
    Invariant { traffic with
      circuit := traffic.circuit.report traffic.now report
      outstanding := traffic.outstanding.eraseIdx index } where
  wellFormed := h.wellFormed.report report
  period_le other hother := h.period_le other (List.mem_of_mem_eraseIdx hother)
  inflight_le := by
    have hcount := countP_eraseIdx hfound OutstandingCall.probe
    have hheld := h.inflight_le
    simp only [heldProbes] at hheld ⊢
    by_cases hrelease : traffic.circuit.state = .halfOpen ∧ report = .release
    · obtain ⟨hstate, rfl⟩ := hrelease
      rw [BackendCircuit.halfOpenInflight_release hstate]
      split_ifs at hcount <;> omega
    · have hne : (traffic.circuit.report traffic.now report).state ≠ .halfOpen := by
        by_cases hstate : traffic.circuit.state = .halfOpen
        · rw [ne_eq, BackendCircuit.state_report_eq_halfOpen_iff hstate]
          exact fun hreport => hrelease ⟨hstate, hreport⟩
        · exact BackendCircuit.state_report_ne_halfOpen hstate report
      rw [(h.wellFormed.report report).inflight_eq_zero hne]
      exact Nat.zero_le _

theorem Invariant.step {traffic traffic' : Traffic} {action : TrafficAction}
    (h : traffic.Invariant) (hstep : traffic.step action = some traffic') :
    traffic'.Invariant := by
  have hnew : ∀ {call : OutstandingCall} {period : ℕ} {other : OutstandingCall},
      call.period ≤ period → traffic.period ≤ period →
        other ∈ traffic.outstanding ++ [call] → other.period ≤ period := by
    intro call period other hcall hperiod hmem
    rcases List.mem_append.mp hmem with hmem | hmem
    · exact (h.period_le other hmem).trans hperiod
    · rwa [List.mem_singleton.mp hmem]
  have hheld := h.inflight_le
  simp only [heldProbes] at hheld
  cases stepCases hstep with
  | wait => exact ⟨h.wellFormed, h.period_le, h.inflight_le⟩
  | denied => exact h
  | admitted admission state =>
      refine ⟨h.wellFormed.admission admission, fun _ => hnew le_rfl le_rfl, ?_⟩
      simp only [heldProbes, List.countP_append]
      cases admission with
      | closed => exact hheld.trans (Nat.le_add_right _ _)
      | probe hhalf => simpa [hhalf] using hheld
      | firstProbe hopen => exact absurd (hopen.symm.trans state) (by simp)
  | firstProbe state opened late =>
      refine ⟨h.wellFormed.admission (.firstProbe state opened late),
        fun _ => hnew le_rfl (Nat.le_succ _), ?_⟩
      simp [heldProbes]
  | finish found => exact h.finish found _

/-- `Reachable settings traffic`: some run of calls and clock readings leads from a fresh
circuit to `traffic`. -/
def Reachable (settings : CircuitSettings) (traffic : Traffic) : Prop :=
  ∃ now actions, Steps (Enabled step) (initial settings now) actions traffic

theorem Reachable.invariant {settings : CircuitSettings} {traffic : Traffic}
    (h : Reachable settings traffic) : traffic.Invariant := by
  obtain ⟨now, actions, hrun⟩ := h
  exact hrun.invariant (invariant_initial settings now) fun _ _ _ => Invariant.step

end Traffic

end LLMRouting
