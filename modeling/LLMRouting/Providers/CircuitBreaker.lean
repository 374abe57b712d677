/-
# Backend circuits

The circuit of one backend, shared by the router and the task calls that go to it.
The clock is read by the caller and passed in, in seconds; an upstream float is a
rational.
-/

import LLMRouting.Schemas.Models

namespace LLMRouting

inductive CircuitState
  | closed
  | open
  | halfOpen
  deriving DecidableEq, Repr

/-- The three tunables within the bounds `Settings` puts on them. -/
structure CircuitSettings where
  failureThreshold : ℕ := 3
  openSeconds : ℚ := 30
  halfOpenProbes : ℕ := 1
  failureThreshold_pos : 1 ≤ failureThreshold := by decide
  halfOpenProbes_pos : 1 ≤ halfOpenProbes := by decide
  deriving DecidableEq

/-- The tunables of a circuit that bears `failures` failures before the one that opens it and
lets `probes` probes in besides the first. -/
def CircuitSettings.bearing (failures probes : ℕ) : CircuitSettings where
  failureThreshold := failures + 1
  halfOpenProbes := probes + 1
  failureThreshold_pos := Nat.le_add_left 1 failures
  halfOpenProbes_pos := Nat.le_add_left 1 probes

structure BackendCircuit where
  settings : CircuitSettings
  state : CircuitState := .closed
  consecutiveFailures : ℕ := 0
  openedAt : Option ℚ := none
  halfOpenInflight : ℕ := 0
  deriving DecidableEq

namespace BackendCircuit

/-- The second half of `allow_request`: take a probe slot if the circuit is HALF_OPEN. -/
def takeSlot (circuit : BackendCircuit) : Bool × BackendCircuit :=
  if circuit.state = .halfOpen then
    if circuit.settings.halfOpenProbes ≤ circuit.halfOpenInflight then (false, circuit)
    else (true, { circuit with halfOpenInflight := circuit.halfOpenInflight + 1 })
  else (true, circuit)

/-- Whether a request is let through, and the circuit afterwards; `none` where the
assertion on `opened_at` fails. -/
def allowRequest (circuit : BackendCircuit) (now : ℚ) : Option (Bool × BackendCircuit) :=
  if circuit.state = .open then
    circuit.openedAt.map fun openedAt =>
      if now - openedAt < circuit.settings.openSeconds then (false, circuit)
      else takeSlot { circuit with state := .halfOpen, halfOpenInflight := 0 }
  else some circuit.takeSlot

def recordSuccess (circuit : BackendCircuit) : BackendCircuit :=
  { circuit with
    state := .closed, consecutiveFailures := 0, openedAt := none, halfOpenInflight := 0 }

/-- `_open`. -/
def trip (circuit : BackendCircuit) (now : ℚ) : BackendCircuit :=
  { circuit with state := .open, openedAt := some now, halfOpenInflight := 0 }

def recordFailure (circuit : BackendCircuit) (now : ℚ) (backendTransient : Bool) :
    BackendCircuit :=
  if !backendTransient then
    if circuit.state = .halfOpen then circuit.recordSuccess else circuit
  else if circuit.state = .halfOpen then circuit.trip now
  else
    let counted := { circuit with consecutiveFailures := circuit.consecutiveFailures + 1 }
    if counted.settings.failureThreshold ≤ counted.consecutiveFailures then counted.trip now
    else counted

/-- `BackendCircuits.release_probe`, on the circuit it looks up. -/
def releaseProbe (circuit : BackendCircuit) : BackendCircuit :=
  if circuit.state = .halfOpen then
    { circuit with halfOpenInflight := circuit.halfOpenInflight - 1 }
  else circuit

end BackendCircuit

/-- The three operations by which a finished call reports to its circuit. -/
inductive CircuitReport
  | success
  | failure (backendTransient : Bool)
  | release
  deriving DecidableEq, Repr

namespace BackendCircuit

def report (circuit : BackendCircuit) (now : ℚ) : CircuitReport → BackendCircuit
  | .success => circuit.recordSuccess
  | .failure backendTransient => circuit.recordFailure now backendTransient
  | .release => circuit.releaseProbe

variable {circuit : BackendCircuit} {now : ℚ}

@[simp]
theorem settings_report (report : CircuitReport) :
    (circuit.report now report).settings = circuit.settings := by
  cases report with
  | success => rfl
  | failure backendTransient =>
      simp only [BackendCircuit.report, recordFailure]
      split_ifs <;> rfl
  | release =>
      simp only [BackendCircuit.report, releaseProbe]
      split_ifs <;> rfl

/-- Every recorded outcome ends the half-open period, closing the circuit unless it is
a transient failure. -/
theorem state_report_of_halfOpen (h : circuit.state = .halfOpen) (report : CircuitReport) :
    (circuit.report now report).state =
      match report with
      | .success => .closed
      | .failure false => .closed
      | .failure true => .open
      | .release => .halfOpen := by
  cases report with
  | success => rfl
  | failure backendTransient =>
      cases backendTransient <;> simp [BackendCircuit.report, recordFailure, recordSuccess, trip, h]
  | release => simp [BackendCircuit.report, releaseProbe, h]

/-- A HALF_OPEN circuit stays so exactly when its slot is only released. -/
theorem state_report_eq_halfOpen_iff (h : circuit.state = .halfOpen) {report : CircuitReport} :
    (circuit.report now report).state = .halfOpen ↔ report = .release := by
  rw [state_report_of_halfOpen h]
  cases report with
  | success => simp
  | failure backendTransient => cases backendTransient <;> simp
  | release => simp

theorem halfOpenInflight_release (h : circuit.state = .halfOpen) :
    (circuit.report now .release).halfOpenInflight = circuit.halfOpenInflight - 1 := by
  simp [BackendCircuit.report, releaseProbe, h]

/-- No report makes a circuit HALF_OPEN. -/
theorem state_report_ne_halfOpen (h : circuit.state ≠ .halfOpen) (report : CircuitReport) :
    (circuit.report now report).state ≠ .halfOpen := by
  cases report with
  | success => simp [BackendCircuit.report, recordSuccess]
  | failure backendTransient =>
      simp only [BackendCircuit.report, recordFailure, if_neg h]
      split_ifs <;> simp_all [trip]
  | release => simp [BackendCircuit.report, releaseProbe, h]

/-- An OPEN circuit is left alone by a release and by a failure that is not transient. -/
theorem report_eq_self_of_open (h : circuit.state = .open) {report : CircuitReport}
    (hreport : report = .release ∨ report = .failure false) :
    circuit.report now report = circuit := by
  rcases hreport with rfl | rfl
  · simp [BackendCircuit.report, releaseProbe, h]
  · simp [BackendCircuit.report, recordFailure, h]

/-- A report that opens the circuit sets its opening time. -/
theorem openedAt_report {report : CircuitReport} (h : circuit.state ≠ .open)
    (hopen : (circuit.report now report).state = .open) :
    (circuit.report now report).openedAt = some now := by
  cases report with
  | success => simp [BackendCircuit.report, recordSuccess] at hopen
  | failure backendTransient =>
      simp only [BackendCircuit.report, recordFailure] at hopen ⊢
      split_ifs at hopen ⊢
      · simp [recordSuccess] at hopen
      · exact absurd hopen h
      · rfl
      · rfl
      · exact absurd hopen h
  | release =>
      simp only [BackendCircuit.report, releaseProbe] at hopen
      split_ifs at hopen <;> exact absurd hopen h

/-- A release after a recorded failure does nothing more. -/
theorem releaseProbe_recordFailure (backendTransient : Bool) :
    (circuit.recordFailure now backendTransient).releaseProbe =
      circuit.recordFailure now backendTransient := by
  have hne : (circuit.recordFailure now backendTransient).state ≠ .halfOpen := by
    by_cases h : circuit.state = .halfOpen
    · intro hstill
      have hreport : CircuitReport.failure backendTransient = .release :=
        (state_report_eq_halfOpen_iff h).mp hstill
      cases hreport
    · exact state_report_ne_halfOpen h (.failure backendTransient)
  rw [releaseProbe, if_neg hne]

/-- A circuit has an opening time exactly while it is not CLOSED, and probe slots are
taken only while it is HALF_OPEN, never more than there are. -/
structure WellFormed (circuit : BackendCircuit) : Prop where
  openedAt_isSome : circuit.state ≠ .closed → circuit.openedAt.isSome
  inflight_eq_zero : circuit.state ≠ .halfOpen → circuit.halfOpenInflight = 0
  inflight_le : circuit.halfOpenInflight ≤ circuit.settings.halfOpenProbes

theorem wellFormed_new (settings : CircuitSettings) :
    WellFormed { settings := settings } where
  openedAt_isSome h := absurd rfl h
  inflight_eq_zero _ := rfl
  inflight_le := Nat.zero_le _

theorem wellFormed_recordSuccess : circuit.recordSuccess.WellFormed where
  openedAt_isSome h := absurd rfl h
  inflight_eq_zero _ := rfl
  inflight_le := Nat.zero_le _

theorem wellFormed_trip : (circuit.trip now).WellFormed where
  openedAt_isSome _ := rfl
  inflight_eq_zero _ := rfl
  inflight_le := Nat.zero_le _

theorem WellFormed.report (h : circuit.WellFormed) (report : CircuitReport) :
    (circuit.report now report).WellFormed := by
  cases report with
  | success => exact wellFormed_recordSuccess
  | failure backendTransient =>
      simp only [BackendCircuit.report, recordFailure]
      split_ifs
      · exact wellFormed_recordSuccess
      · exact h
      · exact wellFormed_trip
      · exact wellFormed_trip
      · exact ⟨h.openedAt_isSome, h.inflight_eq_zero, h.inflight_le⟩
  | release =>
      simp only [BackendCircuit.report, releaseProbe]
      split_ifs with hstate
      · exact ⟨h.openedAt_isSome, fun hne => absurd hstate hne,
          (Nat.sub_le _ _).trans h.inflight_le⟩
      · exact h

theorem allowRequest_of_closed (h : circuit.state = .closed) :
    circuit.allowRequest now = some (true, circuit) := by
  simp [allowRequest, takeSlot, h]

theorem allowRequest_of_full (h : circuit.state = .halfOpen)
    (hfull : circuit.settings.halfOpenProbes ≤ circuit.halfOpenInflight) :
    circuit.allowRequest now = some (false, circuit) := by
  simp [allowRequest, takeSlot, h, hfull]

theorem allowRequest_of_free (h : circuit.state = .halfOpen)
    (hfree : circuit.halfOpenInflight < circuit.settings.halfOpenProbes) :
    circuit.allowRequest now =
      some (true, { circuit with halfOpenInflight := circuit.halfOpenInflight + 1 }) := by
  simp [allowRequest, takeSlot, h, hfree]

theorem allowRequest_of_cooling {openedAt : ℚ} (h : circuit.state = .open)
    (hopened : circuit.openedAt = some openedAt)
    (hnow : now < openedAt + circuit.settings.openSeconds) :
    circuit.allowRequest now = some (false, circuit) := by
  have hcooldown : now - openedAt < circuit.settings.openSeconds := by linarith
  simp [allowRequest, h, hopened, hcooldown]

/-- The first request after the cooldown is the first probe. -/
theorem allowRequest_of_cooled {openedAt : ℚ} (h : circuit.state = .open)
    (hopened : circuit.openedAt = some openedAt)
    (hnow : openedAt + circuit.settings.openSeconds ≤ now) :
    circuit.allowRequest now =
      some (true, { circuit with state := .halfOpen, halfOpenInflight := 1 }) := by
  have hcooldown : ¬ now - openedAt < circuit.settings.openSeconds := by linarith
  have hprobes : circuit.settings.halfOpenProbes ≠ 0 :=
    Nat.one_le_iff_ne_zero.mp circuit.settings.halfOpenProbes_pos
  simp [allowRequest, h, hopened, hcooldown, takeSlot, hprobes]

/-- What `allow_request` can do: deny and change nothing, let a request through a CLOSED
circuit, take a further probe slot, or begin a half-open period with its first probe. -/
inductive Admission (circuit : BackendCircuit) (now : ℚ) : Bool → BackendCircuit → Prop
  | cooling {openedAt : ℚ} (state : circuit.state = .open)
      (opened : circuit.openedAt = some openedAt)
      (early : now < openedAt + circuit.settings.openSeconds) :
      Admission circuit now false circuit
  | full (state : circuit.state = .halfOpen)
      (full : circuit.settings.halfOpenProbes ≤ circuit.halfOpenInflight) :
      Admission circuit now false circuit
  | closed (state : circuit.state = .closed) : Admission circuit now true circuit
  | probe (state : circuit.state = .halfOpen)
      (free : circuit.halfOpenInflight < circuit.settings.halfOpenProbes) :
      Admission circuit now true
        { circuit with halfOpenInflight := circuit.halfOpenInflight + 1 }
  | firstProbe {openedAt : ℚ} (state : circuit.state = .open)
      (opened : circuit.openedAt = some openedAt)
      (late : openedAt + circuit.settings.openSeconds ≤ now) :
      Admission circuit now true { circuit with state := .halfOpen, halfOpenInflight := 1 }

theorem admission_of_allowRequest {admitted : Bool} {circuit' : BackendCircuit}
    (h : circuit.allowRequest now = some (admitted, circuit')) :
    Admission circuit now admitted circuit' := by
  cases hstate : circuit.state with
  | closed =>
      rw [allowRequest_of_closed hstate] at h
      cases h
      exact .closed hstate
  | halfOpen =>
      rcases le_or_gt circuit.settings.halfOpenProbes circuit.halfOpenInflight with hfull | hfree
      · rw [allowRequest_of_full hstate hfull] at h
        cases h
        exact .full hstate hfull
      · rw [allowRequest_of_free hstate hfree] at h
        cases h
        exact .probe hstate hfree
  | «open» =>
      cases hopened : circuit.openedAt with
      | none => simp [allowRequest, hstate, hopened] at h
      | some openedAt =>
          rcases lt_or_ge now (openedAt + circuit.settings.openSeconds) with hearly | hlate
          · rw [allowRequest_of_cooling hstate hopened hearly] at h
            cases h
            exact .cooling hstate hopened hearly
          · rw [allowRequest_of_cooled hstate hopened hlate] at h
            cases h
            exact .firstProbe hstate hopened hlate

theorem WellFormed.admission (h : circuit.WellFormed) {admitted : Bool}
    {circuit' : BackendCircuit} (hadmission : Admission circuit now admitted circuit') :
    circuit'.WellFormed := by
  cases hadmission with
  | cooling | full | closed => exact h
  | probe state free =>
      exact ⟨h.openedAt_isSome, fun hne => absurd state hne, Nat.succ_le_of_lt free⟩
  | firstProbe state opened =>
      refine ⟨fun _ => ?_, fun hne => absurd rfl hne, circuit.settings.halfOpenProbes_pos⟩
      exact Option.isSome_of_eq_some opened

end BackendCircuit

end LLMRouting
