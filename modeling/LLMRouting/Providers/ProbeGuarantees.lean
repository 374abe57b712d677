/-
# What a circuit guarantees about its probes

A circuit counts probe slots and hears outcomes, but neither is tied to the call it
came from. A call that was admitted before the circuit opened may still report into
the cooldown or into a later half-open period, and there it counts as if it were a
probe. Slots are nevertheless never leaked.
-/

import LLMRouting.Providers.CircuitLifecycle

namespace LLMRouting

open LLMRouting.Interaction

namespace Traffic

/-- The action finishes a call admitted before the current half-open period began. -/
def FinishesEarlierCall (traffic : Traffic) (index : ℕ) : Prop :=
  (traffic.outstanding[index]?).any fun call => decide (call.period < traffic.period)

/-- An earlier call finishes during a half-open period and only gives a slot back. -/
def ReleasesForeignSlot (traffic : Traffic) : TrafficAction → Prop
  | .finish index ending =>
      traffic.circuit.state = .halfOpen ∧ traffic.FinishesEarlierCall index ∧
        ending.netReport = .release
  | _ => False

/-- An earlier call finishes during a half-open period and its outcome is recorded. -/
def RecordsForeignOutcome (traffic : Traffic) : TrafficAction → Prop
  | .finish index ending =>
      traffic.circuit.state = .halfOpen ∧ traffic.FinishesEarlierCall index ∧
        ending.netReport ≠ .release
  | _ => False

/-- A call finishes during the cooldown with a success or a transient failure. -/
def RecordsDuringCooldown (traffic : Traffic) : TrafficAction → Prop
  | .finish _ ending =>
      traffic.circuit.state = .open ∧
        (ending.netReport = .success ∨ ending.netReport = .failure true)
  | _ => False

instance (traffic : Traffic) (action : TrafficAction) :
    Decidable (traffic.ReleasesForeignSlot action) := by
  cases action <;> unfold ReleasesForeignSlot FinishesEarlierCall <;> infer_instance

instance (traffic : Traffic) (action : TrafficAction) :
    Decidable (traffic.RecordsForeignOutcome action) := by
  cases action <;> unfold RecordsForeignOutcome FinishesEarlierCall <;> infer_instance

instance (traffic : Traffic) (action : TrafficAction) :
    Decidable (traffic.RecordsDuringCooldown action) := by
  cases action <;> unfold RecordsDuringCooldown <;> infer_instance

/-- While HALF_OPEN, each outstanding call of the period holds a slot of its own. -/
def SlotsHeld (traffic : Traffic) : Prop :=
  traffic.circuit.state = .halfOpen → traffic.currentProbes ≤ traffic.circuit.halfOpenInflight

theorem SlotsHeld.step {traffic traffic' : Traffic} {action : TrafficAction}
    (hinv : traffic.Invariant) (h : traffic.SlotsHeld)
    (hstep : traffic.step action = some traffic')
    (hforeign : ¬ traffic.ReleasesForeignSlot action) : traffic'.SlotsHeld := by
  intro hhalf
  cases stepCases hstep with
  | wait => exact h hhalf
  | denied => exact h hhalf
  | admitted admission state =>
      have hheld := h (state.trans hhalf)
      simp only [currentProbes, List.countP_append] at hheld ⊢
      cases admission with
      | closed hclosed => exact absurd (hclosed.symm.trans hhalf) (by simp)
      | probe => simpa using hheld
      | firstProbe hopen => exact absurd (hopen.symm.trans state) (by simp)
  | firstProbe =>
      have hnone : (traffic.outstanding.countP fun call =>
          decide (call.period = traffic.period + 1)) = 0 := by
        rw [List.countP_eq_zero]
        intro call hcall
        have hperiod := hinv.period_le call hcall
        simp only [decide_eq_true_eq]
        omega
      simp [currentProbes, hnone]
  | @finish index ending call found caller =>
      have hstate : traffic.circuit.state = .halfOpen := by
        by_contra hne
        exact BackendCircuit.state_report_ne_halfOpen hne _ hhalf
      have hrelease := (BackendCircuit.state_report_eq_halfOpen_iff hstate).mp hhalf
      have hcurrent : call.period = traffic.period := by
        by_contra hne
        have hearlier := lt_of_le_of_ne (hinv.period_le call (List.mem_of_getElem? found)) hne
        have hfinishes : traffic.FinishesEarlierCall index := by
          simp [FinishesEarlierCall, found, hearlier]
        exact hforeign (And.intro hstate (And.intro hfinishes hrelease))
      have hcount := countP_eraseIdx found fun call => decide (call.period = traffic.period)
      have hheld := h hstate
      simp only [hcurrent, decide_true, if_true] at hcount
      simp only [currentProbes, hrelease, BackendCircuit.halfOpenInflight_release hstate] at hheld ⊢
      omega

/-- The invariants of a run without foreign releases. -/
theorem slotsHeld_of_no_foreign_release {settings : CircuitSettings} {now : ℚ}
    {actions : List TrafficAction} {traffic : Traffic}
    (hrun : Steps (Guarded step fun t a => ¬ t.ReleasesForeignSlot a) (initial settings now)
      actions traffic) :
    traffic.Invariant ∧ traffic.SlotsHeld ∧ traffic.circuit.settings = settings := by
  refine hrun.invariant
    (P := fun t => t.Invariant ∧ t.SlotsHeld ∧ t.circuit.settings = settings)
    ⟨invariant_initial settings now, fun _ => le_rfl, rfl⟩ ?_
  rintro t a t' ⟨hinv, hslots, hsettings⟩ ⟨hstep, hforeign⟩
  refine ⟨hinv.step hstep, hslots.step hinv hstep hforeign, ?_⟩
  rw [settings_step hstep, hsettings]

/-- As long as no earlier call gives a slot back during a half-open period, a HALF_OPEN
circuit has at most `half_open_probes` calls of its period outstanding. -/
theorem currentProbes_le_of_no_foreign_release (settings : CircuitSettings) (now : ℚ)
    {actions : List TrafficAction} {traffic : Traffic}
    (hrun : Steps (Guarded step fun t a => ¬ t.ReleasesForeignSlot a) (initial settings now)
      actions traffic)
    (hhalf : traffic.circuit.state = .halfOpen) :
    traffic.currentProbes ≤ settings.halfOpenProbes := by
  obtain ⟨hinv, hslots, rfl⟩ := slotsHeld_of_no_foreign_release hrun
  exact (hslots hhalf).trans hinv.wellFormed.inflight_le

/-- One failure opens the circuit, and one probe is allowed at a time. -/
def oneProbe : CircuitSettings := { failureThreshold := 1 }

/-- Two calls are admitted, one fails and opens the circuit; after the cooldown a third is
the probe. -/
def probeWithStraggler : List TrafficAction :=
  [.arrive .router, .arrive .dispatcher, .finish 0 (.decide .timedOut), .wait 30,
    .arrive .dispatcher]

/-- The straggler is cancelled, gives the probe's slot back, and a second probe is let in. -/
theorem two_probes_after_foreign_release :
    ∃ traffic ∈ replay step (initial oneProbe 0)
        (probeWithStraggler ++ [.finish 0 (.dispatch .cancelled), .arrive .router]),
      traffic.circuit.state = .halfOpen ∧ oneProbe.halfOpenProbes < traffic.currentProbes := by
  decide +kernel

/-- When the probe itself is cancelled, the slot given back was its own. -/
theorem currentProbes_le_after_own_release :
    ∃ traffic ∈ replay (restrict step fun t a => ¬ t.ReleasesForeignSlot a) (initial oneProbe 0)
        (probeWithStraggler ++ [.finish 1 (.dispatch .cancelled), .arrive .router]),
      traffic.currentProbes ≤ oneProbe.halfOpenProbes := by
  obtain ⟨traffic, hreplay, hhalf⟩ :
      ∃ traffic ∈ replay (restrict step fun t a => ¬ t.ReleasesForeignSlot a)
        (initial oneProbe 0)
        (probeWithStraggler ++ [.finish 1 (.dispatch .cancelled), .arrive .router]),
      traffic.circuit.state = .halfOpen := by decide +kernel
  exact ⟨traffic, hreplay, currentProbes_le_of_no_foreign_release oneProbe 0
    (guarded_of_replay hreplay) hhalf⟩

/-- The circuit goes from some other state to OPEN. -/
def Opens (traffic : Traffic) (action : TrafficAction) (traffic' : Traffic) : Prop :=
  traffic.step action = some traffic' ∧ traffic.circuit.state ≠ .open ∧
    traffic'.circuit.state = .open

/-- The cooldown that began at `openedAt` is still on and has let nobody in, or its time
is over and somebody was let in. -/
def Cooling (openedAt : ℚ) (admissions : ℕ) (traffic : Traffic) : Prop :=
  (traffic.circuit.state = .open ∧ traffic.circuit.openedAt = some openedAt ∧
      traffic.admissions = admissions) ∨
    (openedAt + traffic.circuit.settings.openSeconds ≤ traffic.now ∧
      admissions < traffic.admissions)

/-- A circuit that opens notes the time. -/
theorem cooling_of_opens {traffic traffic' : Traffic} {action : TrafficAction}
    (h : traffic.Opens action traffic') : traffic'.Cooling traffic'.now traffic'.admissions := by
  obtain ⟨hstep, hclosed, hopen⟩ := h
  refine Or.inl ⟨hopen, ?_, rfl⟩
  cases stepCases hstep with
  | wait => exact absurd hopen hclosed
  | denied => exact absurd hopen hclosed
  | admitted admission state => exact absurd (state.trans hopen) hclosed
  | firstProbe state => exact absurd state hclosed
  | finish => exact BackendCircuit.openedAt_report hclosed hopen

theorem Cooling.step {openedAt : ℚ} {admissions : ℕ} {traffic traffic' : Traffic}
    {action : TrafficAction} (h : traffic.Cooling openedAt admissions)
    (hstep : traffic.step action = some traffic')
    (hrecords : ¬ traffic.RecordsDuringCooldown action) :
    traffic'.Cooling openedAt admissions := by
  have hsettings := settings_step hstep
  rcases h with ⟨hopen, hopened, hadmissions⟩ | ⟨hover, hadmissions⟩
  · cases stepCases hstep with
    | wait => exact Or.inl ⟨hopen, hopened, hadmissions⟩
    | denied => exact Or.inl ⟨hopen, hopened, hadmissions⟩
    | admitted admission state =>
        cases admission with
        | closed hclosed => exact absurd (hclosed.symm.trans hopen) (by simp)
        | probe hhalf => exact absurd (hhalf.symm.trans hopen) (by simp)
        | firstProbe => exact absurd (hopen.symm.trans state) (by simp)
    | @firstProbe _ opened _ hopened' late =>
        obtain rfl : opened = openedAt := Option.some.inj (hopened'.symm.trans hopened)
        exact Or.inr ⟨late, hadmissions ▸ Nat.lt_succ_self _⟩
    | @finish index ending =>
        have hreport : ending.netReport = .release ∨ ending.netReport = .failure false := by
          cases hnet : ending.netReport with
          | success => exact absurd (And.intro hopen (Or.inl hnet)) hrecords
          | failure backendTransient =>
              cases backendTransient with
              | true => exact absurd (And.intro hopen (Or.inr hnet)) hrecords
              | false => exact Or.inr rfl
          | release => exact Or.inl rfl
        refine Or.inl ?_
        simp only [BackendCircuit.report_eq_self_of_open hopen hreport]
        exact ⟨hopen, hopened, hadmissions⟩
  · refine Or.inr ⟨?_, ?_⟩
    · rw [hsettings]
      exact hover.trans (now_le_of_step hstep)
    · exact hadmissions.trans_le (admissions_le_of_step hstep)

/-- From the moment a circuit opens, as long as no call reports a success or a transient
failure during the cooldown: requests are denied until `open_seconds` have passed, and
the first one after that is admitted. -/
theorem cooldown_of_no_report {traffic opened last : Traffic} {action : TrafficAction}
    {actions : List TrafficAction} (hopens : traffic.Opens action opened)
    (hrun : Steps (Guarded step fun t a => ¬ t.RecordsDuringCooldown a) opened actions last) :
    (last.now < opened.now + opened.circuit.settings.openSeconds →
        last.circuit.allowRequest last.now = some (false, last.circuit)) ∧
      (opened.now + opened.circuit.settings.openSeconds ≤ last.now →
        last.admissions = opened.admissions →
          ∃ circuit, last.circuit.allowRequest last.now = some (true, circuit)) := by
  have hcooling : last.Cooling opened.now opened.admissions ∧
      last.circuit.settings = opened.circuit.settings := by
    refine hrun.invariant
      (P := fun t => t.Cooling opened.now opened.admissions ∧
        t.circuit.settings = opened.circuit.settings)
      ⟨cooling_of_opens hopens, rfl⟩ ?_
    rintro t a t' ⟨hcooling, hsettings⟩ ⟨hstep, hrecords⟩
    exact ⟨hcooling.step hstep hrecords, (settings_step hstep).trans hsettings⟩
  obtain ⟨hcooling, hsettings⟩ := hcooling
  rw [← hsettings]
  rcases hcooling with ⟨hopen, hopened, -⟩ | ⟨hover, hadmissions⟩
  · refine ⟨fun hearly => ?_, fun hlate _ => ?_⟩
    · exact BackendCircuit.allowRequest_of_cooling hopen hopened hearly
    · exact ⟨_, BackendCircuit.allowRequest_of_cooled hopen hopened hlate⟩
  · refine ⟨fun hearly => absurd hearly (not_lt.mpr hover), fun _ hsame => ?_⟩
    exact absurd hsame hadmissions.ne'

/-- Two calls are admitted and one of them fails. -/
def opening : List TrafficAction := [.arrive .router, .arrive .dispatcher]

/-- The other call succeeds and closes the circuit with the whole cooldown to go. -/
theorem admitted_during_cooldown :
    ∃ traffic ∈ replay step (initial oneProbe 0) opening,
      ∃ opened ∈ traffic.step (.finish 0 (.decide .timedOut)),
        traffic.Opens (.finish 0 (.decide .timedOut)) opened ∧
          ∃ last ∈ opened.step (.finish 0 (.dispatch .success)),
            last.now < opened.now + opened.circuit.settings.openSeconds ∧
              last.circuit.allowRequest last.now = some (true, last.circuit) := by
  unfold Opens
  decide +kernel

/-- Cancelling the other call leaves the cooldown as it is. -/
theorem cooldown_after_cancellation :
    ∃ traffic ∈ replay step (initial oneProbe 0) opening,
      ∃ opened ∈ traffic.step (.finish 0 (.decide .timedOut)),
        ∃ last ∈ replay (restrict step fun t a => ¬ t.RecordsDuringCooldown a) opened
            [.finish 0 (.dispatch .cancelled), .wait 29],
          last.circuit.allowRequest last.now = some (false, last.circuit) := by
  obtain ⟨traffic, htraffic, opened, hstep, hopens, last, hlast, hearly⟩ :
      ∃ traffic ∈ replay step (initial oneProbe 0) opening,
        ∃ opened ∈ traffic.step (.finish 0 (.decide .timedOut)),
          traffic.Opens (.finish 0 (.decide .timedOut)) opened ∧
            ∃ last ∈ replay (restrict step fun t a => ¬ t.RecordsDuringCooldown a) opened
                [.finish 0 (.dispatch .cancelled), .wait 29],
              last.now < opened.now + opened.circuit.settings.openSeconds := by
    unfold Opens
    decide +kernel
  exact ⟨traffic, htraffic, opened, hstep, last, hlast,
    (cooldown_of_no_report hopens (guarded_of_replay hlast)).1 hearly⟩

/-- The action finishes a call of the current half-open period. -/
def FinishesProbe (traffic : Traffic) : TrafficAction → Prop
  | .finish index _ =>
      (traffic.outstanding[index]?).any fun call => decide (call.period = traffic.period)
  | _ => False

instance (traffic : Traffic) (action : TrafficAction) :
    Decidable (traffic.FinishesProbe action) := by
  cases action <;> unfold FinishesProbe <;> infer_instance

/-- If the step ends a half-open period, it finishes a probe of that period. -/
def EndedByProbe (traffic : Traffic) (action : TrafficAction) (traffic' : Traffic) : Prop :=
  traffic.circuit.state = .halfOpen → traffic'.circuit.state ≠ .halfOpen →
    traffic.FinishesProbe action

/-- In every run, a step lets only probes decide the half-open period exactly when it does
not record the outcome of an earlier call. -/
theorem endedByProbe_iff {settings : CircuitSettings} {traffic traffic' : Traffic}
    {action : TrafficAction} (hreach : Reachable settings traffic)
    (hstep : traffic.step action = some traffic') :
    traffic.EndedByProbe action traffic' ↔ ¬ traffic.RecordsForeignOutcome action := by
  cases stepCases hstep with
  | wait => exact iff_of_true (fun h hne => absurd h hne) id
  | denied => exact iff_of_true (fun h hne => absurd h hne) id
  | admitted admission state =>
      exact iff_of_true (fun h hne => absurd (state.symm.trans h) hne) id
  | firstProbe => exact iff_of_true (fun _ hne => absurd rfl hne) id
  | @finish index ending call found =>
      have hperiod := hreach.invariant.period_le call (List.mem_of_getElem? found)
      constructor
      · rintro hended ⟨hhalf, hearlier, hreport⟩
        have hprobe := hended hhalf fun hstill =>
          hreport ((BackendCircuit.state_report_eq_halfOpen_iff hhalf).mp hstill)
        simp only [FinishesProbe, FinishesEarlierCall, found, Option.any_some,
          decide_eq_true_eq] at hprobe hearlier
        exact absurd hprobe hearlier.ne
      · intro hforeign hhalf hended
        by_contra hprobe
        simp only [FinishesProbe, found, Option.any_some, decide_eq_true_eq] at hprobe
        have hearlier : traffic.FinishesEarlierCall index := by
          simp [FinishesEarlierCall, found, lt_of_le_of_ne hperiod hprobe]
        have hreport : ending.netReport ≠ .release := fun hrelease =>
          hended ((BackendCircuit.state_report_eq_halfOpen_iff hhalf).mpr hrelease)
        exact hforeign (And.intro hhalf (And.intro hearlier hreport))

/-- The straggler succeeds during the half-open period and closes the circuit while the
probe is still out. -/
theorem closed_by_straggler :
    ∃ traffic ∈ replay step (initial oneProbe 0) probeWithStraggler,
      ∃ traffic' ∈ traffic.step (.finish 0 (.dispatch .success)),
        ¬ traffic.EndedByProbe (.finish 0 (.dispatch .success)) traffic' := by
  unfold EndedByProbe
  decide +kernel

/-- When the probe succeeds, it ends the half-open period itself. -/
theorem ended_by_probe :
    ∃ traffic ∈ replay step (initial oneProbe 0) probeWithStraggler,
      ∃ traffic' ∈ traffic.step (.finish 1 (.dispatch .success)),
        traffic.EndedByProbe (.finish 1 (.dispatch .success)) traffic' := by
  obtain ⟨traffic, hreplay, traffic', hstep, hforeign⟩ :
      ∃ traffic ∈ replay step (initial oneProbe 0) probeWithStraggler,
        ∃ traffic' ∈ traffic.step (.finish 1 (.dispatch .success)),
          ¬ traffic.RecordsForeignOutcome (.finish 1 (.dispatch .success)) := by decide +kernel
  exact ⟨traffic, hreplay, traffic', hstep,
    (endedByProbe_iff ⟨0, probeWithStraggler, steps_of_replay hreplay⟩ hstep).mpr hforeign⟩

/-- If the circuit is OPEN, its cooldown has passed. -/
def CooldownOver (traffic : Traffic) : Prop :=
  traffic.circuit.state = .open → ∀ openedAt ∈ traffic.circuit.openedAt,
    openedAt + traffic.circuit.settings.openSeconds ≤ traffic.now

/-- In every run, each taken slot belongs to an outstanding probe; so a HALF_OPEN circuit
that denies a request has a probe outstanding, and a backend with no call outstanding
admits the next request once the cooldown is over. -/
theorem no_slot_leaked {settings : CircuitSettings} {traffic : Traffic}
    (hreach : Reachable settings traffic) :
    traffic.circuit.halfOpenInflight ≤ traffic.heldProbes ∧
      (∀ circuit, traffic.circuit.state = .halfOpen →
        traffic.circuit.allowRequest traffic.now = some (false, circuit) →
          ∃ call ∈ traffic.outstanding, call.probe = true) ∧
      (traffic.outstanding = [] → traffic.CooldownOver →
        ∃ circuit, traffic.circuit.allowRequest traffic.now = some (true, circuit)) := by
  have hinv := hreach.invariant
  refine ⟨hinv.inflight_le, fun circuit hhalf hdenied => ?_, fun hnone hover => ?_⟩
  · cases BackendCircuit.admission_of_allowRequest hdenied with
    | cooling hopen => exact absurd (hopen.symm.trans hhalf) (by simp)
    | full _ hfull =>
        have hprobes := traffic.circuit.settings.halfOpenProbes_pos
        have hpos : 0 < traffic.heldProbes := (hprobes.trans hfull).trans hinv.inflight_le
        exact List.countP_pos_iff.mp hpos
  · have hheld : traffic.circuit.halfOpenInflight = 0 := by
      have hinflight := hinv.inflight_le
      simpa [heldProbes, hnone] using hinflight
    cases hstate : traffic.circuit.state with
    | closed => exact ⟨_, BackendCircuit.allowRequest_of_closed hstate⟩
    | halfOpen =>
        refine ⟨_, BackendCircuit.allowRequest_of_free hstate ?_⟩
        exact hheld ▸ traffic.circuit.settings.halfOpenProbes_pos
    | «open» =>
        have hsome := hinv.wellFormed.openedAt_isSome (by simp [hstate])
        obtain ⟨openedAt, hopened⟩ := Option.isSome_iff_exists.mp hsome
        exact ⟨_, BackendCircuit.allowRequest_of_cooled hstate hopened (hover hstate _ hopened)⟩

/-- With the probe out the next request is denied, and the probe is there to be blamed. -/
theorem no_slot_leaked_probe :
    ∃ traffic ∈ replay step (initial oneProbe 0) probeWithStraggler,
      ∃ call ∈ traffic.outstanding, call.probe = true := by
  obtain ⟨traffic, hreplay, hhalf, hdenied⟩ :
      ∃ traffic ∈ replay step (initial oneProbe 0) probeWithStraggler,
        traffic.circuit.state = .halfOpen ∧
          traffic.circuit.allowRequest traffic.now = some (false, traffic.circuit) := by
    decide +kernel
  exact ⟨traffic, hreplay, (no_slot_leaked ⟨0, probeWithStraggler, steps_of_replay hreplay⟩).2.1
    traffic.circuit hhalf hdenied⟩

end Traffic

end LLMRouting
