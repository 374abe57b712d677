/-
# What health says about a circuit

A snapshot works out what the next request would find without making it: an OPEN circuit whose
cooldown is over is shown as HALF_OPEN, with the probe slots as they are. That is what the
breaker then does, since an OPEN circuit has no slot taken, whatever it has been through.
-/

import LLMRouting.Providers.CircuitInvariant

namespace LLMRouting

open LLMRouting.Interaction

namespace BackendCircuit

/-- An operation on the circuit, with the reading of the clock it makes. -/
def act (circuit : BackendCircuit) (timed : CircuitOperation × ℚ) : Option BackendCircuit :=
  (circuit.perform timed.2 timed.1).map Prod.snd

variable {circuit circuit' : BackendCircuit} {settings : CircuitSettings} {now : ℚ}

theorem WellFormed.act (h : circuit.WellFormed) {timed : CircuitOperation × ℚ}
    (hact : circuit.act timed = some circuit') : circuit'.WellFormed := by
  obtain ⟨⟨reply, after⟩, hperform, rfl⟩ := Option.map_eq_some_iff.mp hact
  cases hoperation : timed.1 with
  | snapshot =>
      rw [hoperation] at hperform
      cases hperform
      exact h
  | report report =>
      rw [hoperation] at hperform
      cases hperform
      exact h.report report
  | allowRequest =>
      rw [hoperation] at hperform
      obtain ⟨⟨admitted, answered⟩, hallow, hanswer⟩ := Option.map_eq_some_iff.mp hperform
      cases hanswer
      exact h.admission (admission_of_allowRequest hallow)

/-- No operation brings a circuit out of order, nor does the clock. -/
theorem wellFormed_of_run {operations : List (CircuitOperation × ℚ)}
    (h : Steps (Enabled act) { settings := settings } operations circuit) : circuit.WellFormed := by
  apply Steps.invariant (P := WellFormed) h
  · exact wellFormed_new settings
  · intro circuit timed circuit' hcircuit hact
    exact hcircuit.act hact

theorem snapshot_of_not_open (h : circuit.state ≠ .open) :
    (circuit.snapshot now).state = circuit.state :=
  if_neg fun hopen => h hopen.1

theorem snapshot_of_cooling {openedAt : ℚ} (h : circuit.state = .open)
    (hopened : circuit.openedAt = some openedAt)
    (hnow : now < openedAt + circuit.settings.openSeconds) :
    (circuit.snapshot now).state = .open := by
  have hearly : ¬ circuit.settings.openSeconds ≤ now - openedAt := by linarith
  simp [snapshot, h, hopened, hearly]

theorem snapshot_of_cooled {openedAt : ℚ} (h : circuit.state = .open)
    (hopened : circuit.openedAt = some openedAt)
    (hnow : openedAt + circuit.settings.openSeconds ≤ now) :
    (circuit.snapshot now).state = .halfOpen := by
  have hlate : circuit.settings.openSeconds ≤ now - openedAt := by linarith
  simp [snapshot, h, hopened, hlate]

end BackendCircuit

/-- By what it shows, the circuit lets the next request through. -/
def CircuitSnapshot.Admits (snapshot : CircuitSnapshot) (settings : CircuitSettings) : Prop :=
  snapshot.state = .closed ∨
    snapshot.state = .halfOpen ∧ snapshot.halfOpenInflight < settings.halfOpenProbes

namespace BackendCircuit

variable {circuit circuit' : BackendCircuit} {settings : CircuitSettings} {now : ℚ}

/-- Every answer of `allow_request` is the one a snapshot announces, and so is the state it
leaves. -/
theorem WellFormed.snapshot_announces (h : circuit.WellFormed) {admitted : Bool}
    (hadmission : Admission circuit now admitted circuit') :
    (admitted = true ↔ (circuit.snapshot now).Admits circuit.settings) ∧
      circuit'.state = (circuit.snapshot now).state := by
  rw [CircuitSnapshot.Admits]
  cases hadmission with
  | cooling state opened early =>
      rw [snapshot_of_cooling state opened early, state]
      simp
  | full state full =>
      rw [snapshot_of_not_open (by simp [state]), state]
      exact ⟨by simpa [snapshot] using full, rfl⟩
  | closed state =>
      rw [snapshot_of_not_open (by simp [state]), state]
      simp
  | probe state free =>
      rw [snapshot_of_not_open (by simp [state]), state]
      exact ⟨by simpa [snapshot] using free, rfl⟩
  | firstProbe state opened late =>
      -- no slot is taken while the circuit is OPEN
      have hnone : circuit.halfOpenInflight = 0 := h.inflight_eq_zero (by simp [state])
      have hslot : 0 < circuit.settings.halfOpenProbes := circuit.settings.halfOpenProbes_pos
      rw [snapshot_of_cooled state opened late]
      exact ⟨by simpa [snapshot, hnone] using hslot, rfl⟩

/-- Health reports what the breaker will do. -/
theorem snapshot_agrees {operations : List (CircuitOperation × ℚ)}
    (h : Steps (Enabled act) { settings := settings } operations circuit) (now : ℚ) :
    circuit.perform now .snapshot = some (.seen (circuit.snapshot now), circuit) ∧
    ∃ admitted circuit', circuit.allowRequest now = some (admitted, circuit') ∧
      (admitted = true ↔ (circuit.snapshot now).Admits settings) ∧
      circuit'.state = (circuit.snapshot now).state := by
  have hsettings : circuit.settings = settings := by
    apply Steps.invariant (P := fun circuit => circuit.settings = settings) h
    · rfl
    · intro circuit timed circuit' hcircuit hact
      obtain ⟨⟨reply, after⟩, hperform, rfl⟩ := Option.map_eq_some_iff.mp hact
      exact (settings_perform hperform).trans hcircuit
  have hwellFormed := wellFormed_of_run h
  obtain ⟨⟨admitted, circuit'⟩, hallow⟩ := hwellFormed.exists_allowRequest now
  refine ⟨rfl, admitted, circuit', hallow, ?_⟩
  rw [← hsettings]
  exact hwellFormed.snapshot_announces (admission_of_allowRequest hallow)

/-- Three transient failures and a cooldown, as health and the next request see it. -/
theorem snapshot_agrees_cooled :
    ∃ circuit, replay act { settings := {} }
        [(.report (.failure true), 0), (.report (.failure true), 0),
          (.report (.failure true), 0), (.allowRequest, 10)] = some circuit ∧
      ∃ circuit', circuit.allowRequest 30 = some (true, circuit') ∧
        circuit'.state = .halfOpen := by
  have hreplay : ((replay act { settings := {} }
      [(.report (.failure true), 0), (.report (.failure true), 0),
        (.report (.failure true), 0), (.allowRequest, 10)]).map
      fun circuit => (circuit.snapshot 30)) = some ⟨.halfOpen, 3, 0⟩ := by
    decide +kernel
  obtain ⟨circuit, hcircuit, hsnapshot⟩ := Option.map_eq_some_iff.mp hreplay
  obtain ⟨-, admitted, circuit', hallow, hadmits, hstate⟩ :=
    snapshot_agrees (steps_of_replay hcircuit) 30
  have hadmitted : admitted = true := by
    apply hadmits.mpr
    rw [hsnapshot]
    exact .inr ⟨rfl, by decide⟩
  rw [hsnapshot] at hstate
  rw [hadmitted] at hallow
  exact ⟨circuit, hcircuit, circuit', hallow, hstate⟩

end BackendCircuit

end LLMRouting
