/-
# What a denial means

A call is denied when resolution leaves it no candidate. Governance and the exclusions of the
turn are cut together, so that can mean either of two things: governance lets nobody serve the
call, or everybody it lets serve has been used up. The retry guard tells the two apart by the
whole registry. This module says where that is right, whatever happens between the two.
-/

import LLMRouting.ControlPlane.Chains
import LLMRouting.Routing.Rejections

namespace LLMRouting

open LLMRouting.Interaction

variable {μ : Type} {engine : RoutingEngine} {call : HandleCall}

namespace HandleCall

/-- The provider is enabled, and the tenant's governance has nothing against it. -/
def Eligible (call : HandleCall) (engine : RoutingEngine) (world : World μ) (id : String) : Prop :=
  ∃ config, world.registry.getProvider? id = some config ∧ config.enabled = true ∧
    (engine.candidateResolver = true → ∀ tenant ∈ call.tenant,
      GovernanceEvaluator.reasonFor (world.governance.getActive tenant.tenantId) call.context
        config = none)

/-- Somebody is eligible, and everybody who is has been excluded. -/
def UsedUp (call : HandleCall) (engine : RoutingEngine) (world : World μ)
    (excluded : List String) : Prop :=
  (∃ id, call.Eligible engine world id) ∧ ∀ id, call.Eligible engine world id → id ∈ excluded

/-- Who is eligible is a matter of the registry and of governance. -/
theorem eligible_congr {world world' : World μ} (hregistry : world'.registry = world.registry)
    (hgovernance : world'.governance = world.governance) :
    call.Eligible engine world' = call.Eligible engine world := by
  funext id
  rw [Eligible, Eligible, hregistry, hgovernance]

theorem usedUp_congr {world world' : World μ} (hregistry : world'.registry = world.registry)
    (hgovernance : world'.governance = world.governance) {excluded excluded' : List String}
    (hexcluded : ∀ id, id ∈ excluded' ↔ id ∈ excluded) :
    call.UsedUp engine world' excluded' ↔ call.UsedUp engine world excluded := by
  rw [UsedUp, UsedUp, eligible_congr hregistry hgovernance]
  simp only [hexcluded]

/-- Under a tenant's governance, the candidates are the eligible providers outside the
exclusions. -/
theorem mem_ids_iff_of_resolved [Metric μ] {world : World μ} {tenant : TenantContext}
    {excluded : List String} {candidateSet : CandidateSet μ}
    (hresolver : engine.candidateResolver = true) (htenant : call.tenant = some tenant)
    (h : resolveCandidateSet world.registry world.governance world.policies tenant call.context
      excluded = .ok candidateSet) {id : String} :
    id ∈ candidateSet.ids ↔ call.Eligible engine world id ∧ id ∉ excluded := by
  apply Iff.intro
  · intro hid
    obtain ⟨config, hget, henabled, hexcluded, hreason⟩ := resolveCandidateSet_sound h hid
    refine ⟨⟨config, hget, henabled, ?_⟩, hexcluded⟩
    intro _ other hother
    rw [htenant] at hother
    cases hother
    exact hreason
  · intro heligible
    obtain ⟨⟨config, hget, henabled, hreason⟩, hexcluded⟩ := heligible
    obtain ⟨policy, -, rfl⟩ := eq_rankedSet_of_resolve h
    have hid : config.id = id := world.registry.consistent.id_eq id config hget
    subst hid
    rw [CandidateSet.ids, ((rankedSet_providers_perm _ _ _ _ _).map _).mem_iff,
      mem_map_id_eligibleFor_iff (Registry.mem_listProviders_iff.mpr hget) henabled hexcluded]
    exact hreason hresolver tenant htenant

/-- Where no tenant is governed, everybody who is enabled is eligible. -/
theorem mem_ids_iff_of_legacy {world : World μ} {excluded : List String}
    (hlegacy : ∀ tenant, engine.candidateResolver = true → call.tenant = some tenant → False)
    {id : String} :
    id ∈ (Routine.legacyCandidateSet world.registry excluded).ids ↔
      call.Eligible engine world id ∧ id ∉ excluded := by
  apply Iff.intro
  · intro hid
    obtain ⟨provider, hprovider, rfl⟩ := List.mem_map.mp hid
    obtain ⟨config, hget, henabled, hexcluded, -⟩ :=
      Registry.mem_availableForRouter_iff.mp hprovider
    refine ⟨⟨config, hget, henabled, ?_⟩, hexcluded⟩
    intro hresolver tenant htenant
    exact (hlegacy tenant hresolver htenant).elim
  · intro heligible
    obtain ⟨⟨config, hget, henabled, -⟩, hexcluded⟩ := heligible
    refine List.mem_map.mpr ⟨⟨id, config.capabilities⟩, ?_, rfl⟩
    exact Registry.mem_availableForRouter_iff.mpr ⟨config, hget, henabled, hexcluded, rfl⟩

/-- The candidates are the eligible providers outside the exclusions. -/
theorem mem_ids_iff_of_candidates [Metric μ] {world : World μ} {excluded : List String}
    {candidateSet : CandidateSet μ}
    (h : call.candidates engine world excluded = .ok candidateSet) {id : String} :
    id ∈ candidateSet.ids ↔ call.Eligible engine world id ∧ id ∉ excluded := by
  rw [HandleCall.candidates] at h
  split at h
  · rename_i tenant hresolver htenant
    exact mem_ids_iff_of_resolved hresolver htenant h
  · rename_i hlegacy
    cases h
    exact mem_ids_iff_of_legacy fun tenant hresolver htenant => hlegacy tenant hresolver htenant

/-- There is no candidate when everybody who is eligible has been excluded. -/
theorem ids_eq_nil_iff_of_candidates [Metric μ] {world : World μ} {excluded : List String}
    {candidateSet : CandidateSet μ}
    (h : call.candidates engine world excluded = .ok candidateSet) :
    candidateSet.ids = [] ↔ ∀ id, call.Eligible engine world id → id ∈ excluded := by
  rw [List.eq_nil_iff_forall_not_mem]
  constructor
  · intro hnone id heligible
    by_contra hexcluded
    exact hnone id ((mem_ids_iff_of_candidates h).mpr ⟨heligible, hexcluded⟩)
  · intro hall id hid
    obtain ⟨heligible, hexcluded⟩ := (mem_ids_iff_of_candidates h).mp hid
    exact hexcluded (hall id heligible)

end HandleCall

/-- The error that says governance denied the call. -/
def IsDenial (raised : Raised) : Prop :=
  ∃ diagnostics, raised = .routing ⟨.governancePolicyDenied, diagnostics⟩

theorem IsDenial.isRejection {raised : Raised} (h : IsDenial raised) : IsRejection raised := by
  obtain ⟨diagnostics, rfl⟩ := h
  exact .denied diagnostics

theorem not_isDenial_conversationNotFound {id : String} :
    ¬ IsDenial (.conversationNotFound id) := by
  intro hdenial
  obtain ⟨diagnostics, h⟩ := hdenial
  cases h

namespace Routine

variable {α : Type} {state : ConversationState} {tenantId : String}

/-- The code does not raise a denial. -/
abbrev Undenying (routine : Routine μ α) : Prop :=
  routine.RaisesOnly fun raised => ¬ IsDenial raised

theorem undenying_raise {raised : Raised} (h : ∀ error, raised ≠ .routing error) :
    Undenying (Coro.raise raised : Routine μ α) := by
  apply Coro.raisesOnly_raise
  intro hdenial
  obtain ⟨diagnostics, hdenial⟩ := hdenial
  exact h _ hdenial

theorem undenying_note (update : Capture μ → Capture μ) : Undenying (note update) :=
  Coro.raisesOnly_modify _

theorem undenying_fail {kind : RoutingErrorKind} (hkind : kind ≠ .governancePolicyDenied)
    (failure : TerminalFailure) : Undenying (fail kind failure : Routine μ α) := by
  apply Coro.RaisesOnly.bind Coro.raisesOnly_get
  intro m
  cases buildDiagnostics m.shared.registry m.own failure with
  | some diagnostics =>
      intro hdenial
      obtain ⟨_, hdenial⟩ := hdenial
      cases hdenial
      exact hkind rfl
  | none => exact undenying_raise fun _ => by simp

theorem undenying_deadlinePassed : Undenying (deadlinePassed : Routine μ Bool) := by
  apply Coro.RaisesOnly.bind (Coro.raisesOnly_ask _)
  intro now
  apply Coro.RaisesOnly.bind Coro.raisesOnly_get
  intro m
  exact Coro.raisesOnly_pure _

theorem undenying_storeState (state : ConversationState) (tenantId : String) :
    Undenying (storeState state tenantId : Routine μ Unit) := by
  apply Coro.RaisesOnly.bind (undenying_note _)
  intro _
  apply Coro.RaisesOnly.bind Coro.raisesOnly_get
  intro m
  cases m.shared.conversations.update state tenantId with
  | some conversations => exact Coro.raisesOnly_modify _
  | none => exact undenying_raise fun _ => by simp

theorem undenying_prepareRetry (state : ConversationState) (tenantId : String) :
    Undenying (prepareRetry state tenantId : Routine μ (Bool × ConversationState)) := by
  have hguard : ∀ state : ConversationState, Undenying (guardFired state : Routine μ Bool) :=
    fun state => Coro.RaisesOnly.bind Coro.raisesOnly_get fun m => Coro.raisesOnly_pure _
  have hexclude : Undenying (excludeLast state tenantId : Routine μ ConversationState) := by
    rw [excludeLast]
    cases state.lastProvider with
    | none => exact Coro.raisesOnly_pure _
    | some providerId =>
        exact Coro.RaisesOnly.bind (undenying_storeState _ _) fun _ => Coro.raisesOnly_pure _
  apply Coro.RaisesOnly.bind (hguard state)
  intro fired
  cases fired with
  | true => exact Coro.raisesOnly_pure _
  | false =>
      apply Coro.RaisesOnly.bind hexclude
      intro excluded
      apply Coro.RaisesOnly.bind (undenying_storeState _ _)
      intro _
      apply Coro.RaisesOnly.bind (hguard _)
      intro stopped
      exact Coro.raisesOnly_pure _

theorem undenying_climb (request : RouterRequest) (tiers : List RouterTier)
    (blocked : List Backend) :
    Undenying (climb request tiers blocked : Routine μ (RouterDecision × List Backend)) := by
  induction tiers generalizing blocked with
  | nil => exact undenying_fail (by decide) _
  | cons tier rest ih =>
      apply Coro.RaisesOnly.bind (undenying_note _)
      intro _
      apply Coro.RaisesOnly.bind (Coro.raisesOnly_ask _)
      intro reply
      cases hjudged : judged request reply with
      | ok decision => exact Coro.RaisesOnly.bind (undenying_note _) fun _ => Coro.raisesOnly_pure _
      | error interruption =>
          cases interruption with
          | raised error => exact Coro.RaisesOnly.bind (undenying_note _) fun _ => ih _
          | cancelled byDeadline =>
              apply Coro.RaisesOnly.bind undenying_deadlinePassed
              intro late
              apply Coro.RaisesOnly.bind (undenying_note _)
              intro _
              exact undenying_raise fun _ => by simp

theorem undenying_noteDispatchCancelled (candidate : ProviderConfig μ)
    (pending : List (ProviderConfig μ)) : Undenying (noteDispatchCancelled candidate pending) := by
  apply Coro.RaisesOnly.bind undenying_deadlinePassed
  intro late
  apply Coro.RaisesOnly.bind (undenying_note _)
  intro _
  apply Coro.RaisesOnly.bind undenying_deadlinePassed
  intro late'
  cases late' <;> trivial

theorem undenying_commitAnswer (state : ConversationState) (tenantId : String)
    (candidate : ProviderConfig μ) (response : String) :
    Undenying (commitAnswer state tenantId candidate response) := by
  apply Coro.RaisesOnly.bind (undenying_note _)
  intro _
  apply Coro.RaisesOnly.bind (Coro.raisesOnly_ask _)
  intro reply
  cases reply with
  | error error => exact undenying_fail (by decide) _
  | ok clean =>
      apply Coro.RaisesOnly.bind undenying_deadlinePassed
      intro late
      cases late with
      | true => exact undenying_raise fun _ => by simp
      | false =>
          exact Coro.RaisesOnly.bind (undenying_storeState _ _) fun _ => Coro.raisesOnly_pure _

theorem undenying_tryCandidates (request : ProviderRequest) (state : ConversationState)
    (tenantId : String) (candidates : List (ProviderConfig μ)) (blocked : List Backend)
    (lastError : Option PyException) :
    Undenying (tryCandidates request state tenantId candidates blocked lastError) := by
  induction candidates generalizing blocked lastError with
  | nil => exact undenying_fail (by decide) _
  | cons candidate rest ih =>
      apply Coro.RaisesOnly.bind undenying_deadlinePassed
      intro late
      cases late with
      | true => exact undenying_raise fun _ => by simp
      | false =>
          simp only [Bool.false_eq_true, if_false]
          by_cases hblocked : candidate.backend ∈ blocked
          · rw [if_pos hblocked]
            exact Coro.RaisesOnly.bind (undenying_note _) fun _ => ih _ _
          · rw [if_neg hblocked]
            apply Coro.RaisesOnly.bind (undenying_note _)
            intro _
            apply Coro.RaisesOnly.bind (Coro.raisesOnly_ask _)
            intro reply
            cases reply with
            | ok response => exact undenying_commitAnswer state tenantId candidate response
            | error interruption =>
                cases interruption with
                | cancelled byDeadline =>
                    apply Coro.RaisesOnly.bind (undenying_noteDispatchCancelled candidate rest)
                    intro _
                    exact undenying_raise fun _ => by simp
                | raised error =>
                    simp only
                    by_cases hcontrolled : isControlled error = true
                    · rw [if_pos hcontrolled]
                      exact Coro.RaisesOnly.bind (undenying_note _) fun _ => ih _ _
                    · rw [if_neg hcontrolled]
                      apply Coro.RaisesOnly.bind (undenying_note _)
                      intro _
                      exact undenying_raise fun _ => by simp

theorem undenying_executeWithFallback (candidates : List (ProviderConfig μ))
    (request : ProviderRequest) (state : ConversationState) (tenantId : String)
    (blocked : List Backend) :
    Undenying (executeWithFallback candidates request state tenantId blocked) := by
  cases candidates with
  | nil => exact undenying_tryCandidates request state tenantId [] blocked none
  | cons first rest =>
      apply Coro.RaisesOnly.bind (undenying_note _)
      intro _
      exact undenying_tryCandidates request state tenantId (first :: rest) blocked none

theorem undenying_attachDiagnostics (response : RoutingResponse) :
    Undenying (attachDiagnostics (μ := μ) call response) := by
  rw [attachDiagnostics]
  by_cases hmode : call.developerMode = false
  · rw [if_pos hmode]
    exact Coro.raisesOnly_pure _
  · rw [if_neg hmode]
    apply Coro.RaisesOnly.bind Coro.raisesOnly_get
    intro m
    cases buildDiagnostics m.shared.registry m.own {} with
    | some diagnostics => exact Coro.raisesOnly_pure _
    | none => exact undenying_raise fun _ => by simp

end Routine

/-- The surroundings leave the call's notes alone and do not use up its pool. -/
structure PoolKept (engine : RoutingEngine) (call : HandleCall) (excluded : List String)
    (m m' : Memory μ) : Prop where
  own_eq : m'.own = m.own
  usedUp : call.UsedUp engine m'.shared excluded → call.UsedUp engine m.shared excluded

theorem PoolKept.refl {excluded : List String} (m : Memory μ) : PoolKept engine call excluded m m :=
  ⟨rfl, id⟩

/-- The call runs for its tenant, and its pool is not used up. -/
structure Supplied (engine : RoutingEngine) (call : HandleCall) (excluded : List String)
    (m : Memory μ) : Prop where
  tenant_eq : m.own.tenant = call.tenant
  unspent : ¬ call.UsedUp engine m.shared excluded

namespace Supplied

variable {excluded : List String} {m m' : Memory μ}

theorem of_kept (h : Supplied engine call excluded m) (hkept : PoolKept engine call excluded m m') :
    Supplied engine call excluded m' where
  tenant_eq := by rw [hkept.own_eq, h.tenant_eq]
  unspent husedUp := h.unspent (hkept.usedUp husedUp)

theorem of_same (h : Supplied engine call excluded m) (htenant : m'.own.tenant = m.own.tenant)
    (hregistry : m'.shared.registry = m.shared.registry)
    (hgovernance : m'.shared.governance = m.shared.governance) :
    Supplied engine call excluded m' where
  tenant_eq := htenant.trans h.tenant_eq
  unspent husedUp := by
    apply h.unspent
    exact (HandleCall.usedUp_congr hregistry hgovernance fun _ => Iff.rfl).mp husedUp

open Routine in
theorem storeState {state' : ConversationState} (h : Supplied engine call excluded m) :
    (Routine.storeState state' call.tenantId).wp
      (Contract.relying (PoolKept engine call excluded)) (fun trace m' out =>
        trace = [] ∧ m'.shared.registry = m.shared.registry ∧
          m'.own.selectedProvider = m.own.selectedProvider ∧
          match out with
          | .ok _ => m'.own.state = some state' ∧ Supplied engine call excluded m'
          | .error _ => True) m := by
  rw [Routine.storeState, remember, writeBack]
  apply note_bind_relying
  apply Discipline.memory_bind
  cases hload : m.shared.conversations.load state'.conversationId call.tenantId with
  | none =>
      have hnone : m.shared.conversations.update state' call.tenantId = none := by
        rw [ConversationStateManager.update, hload]
        rfl
      simp only [hnone]
      exact ⟨rfl, rfl, rfl, trivial⟩
  | some original =>
      simp only [ConversationStateManager.update_of_load hload]
      exact ⟨trivial, rfl, rfl, rfl, rfl, h.of_same rfl rfl rfl⟩

/-- What a supplied call can count on. -/
def discipline (engine : RoutingEngine) (call : HandleCall) (excluded : List String) :
    Discipline (Contract.relying (PoolKept (μ := μ) engine call excluded)) call.tenantId where
  held state m := m.own.state = some state ∧ Supplied engine call excluded m
  loaded _ m := Supplied engine call excluded m
  lost _ := True
  loaded_of_held h := h.2
  state_eq h := h.1
  pause _ := trivial
  rely h hkept := ⟨by rw [hkept.own_eq, h.1], h.2.of_kept hkept⟩
  quiet h hquiet := ⟨trivial, hquiet.state.trans h.1,
    h.2.of_same hquiet.tenant hquiet.registry hquiet.governance⟩
  store h _ := h.storeState

end Supplied

/-- Whatever may be excluded in the rest of the turn has been excluded. -/
structure Saturated (excluded : List String) (state : ConversationState) : Prop where
  mem_iff : ∀ id, id ∈ state.excludedProviders ↔ id ∈ excluded
  last_mem : ∀ id, state.lastProvider = some id → id ∈ excluded

theorem Saturated.retried {excluded : List String} {state : ConversationState}
    (h : Saturated excluded state) : Saturated excluded state.retried where
  mem_iff id := by
    rw [ConversationState.mem_excluded_retried_iff, h.mem_iff]
    exact or_iff_left_of_imp (h.last_mem id)
  last_mem id hlast := by
    rw [(ConversationState.retried_retried state).lastProvider_eq] at hlast
    exact h.last_mem id hlast

theorem saturated_retried (state : ConversationState) :
    Saturated state.retried.excludedProviders state.retried where
  mem_iff _ := Iff.rfl
  last_mem id hlast := by
    rw [(ConversationState.retried_retried state).lastProvider_eq] at hlast
    exact ConversationState.mem_excluded_retried_iff.mpr (Or.inr hlast)

/-- If the outcome is a denial, governance lets nobody serve the call. -/
def Justified (engine : RoutingEngine) (call : HandleCall) (m : Memory μ)
    (out : Except Raised RoutingResponse) : Prop :=
  ∀ raised, out = .error raised → IsDenial raised → ∀ id, ¬ call.Eligible engine m.shared id

theorem justified_ok {m : Memory μ} {response : RoutingResponse} :
    Justified engine call m (.ok response) := by
  intro raised hraised
  cases hraised

theorem justified_error {m : Memory μ} {raised : Raised} (h : ¬ IsDenial raised) :
    Justified engine call m (.error raised) := by
  intro raised' hraised hdenial
  cases hraised
  exact (h hdenial).elim

section Loop

open Routine

variable [Metric μ] {excluded : List String} {state : ConversationState} {m : Memory μ}

omit [Metric μ] in
/-- What cannot raise a denial is justified whatever happens. -/
theorem justified_of_undenying {routine : Routine μ RoutingResponse}
    {rely : Memory μ → Memory μ → Prop}
    (h : Undenying routine) : routine.wp (Contract.relying rely)
      (fun _ m' out => Justified engine call m' out) m := by
  apply Coro.wp_mono h.wp
  intro trace m' out hout raised hraised hdenial
  exact (hout raised hraised hdenial).elim

theorem ResolveError.not_isDenial (error : ResolveError) : ¬ IsDenial error.raised := by
  intro hdenial
  obtain ⟨diagnostics, hdenial⟩ := hdenial
  cases error <;> cases hdenial

omit [Metric μ] in
/-- Following a decision, if the next iteration is justified. -/
theorem followDecision_justified {allowedIds : List String} {blocked : List Backend}
    {decision : RouterDecision}
    {next : ConversationState → List Backend → Routine μ RoutingResponse}
    (hheld : (Supplied.discipline engine call excluded).held state m)
    (hnext : ∀ m', (Supplied.discipline engine call excluded).held state.retried m' →
      retryGuardFired m'.shared.registry state.retried = false → ∀ blocked',
        (next state.retried blocked').wp (Contract.relying (PoolKept engine call excluded))
          (fun _ m' out => Justified engine call m' out) m') :
    (followDecision call state allowedIds blocked next decision).wp
      (Contract.relying (PoolKept engine call excluded))
      (fun _ m' out => Justified engine call m' out) m := by
  rw [followDecision]
  split
  · rw [Coro.wp_bind]
    have hloaded := (Supplied.discipline engine call excluded).loaded_of_held hheld
    have hretry := (Supplied.discipline engine call excluded).prepareRetry hloaded
    apply Coro.wp_mono (Coro.wp_and hretry (undenying_prepareRetry state call.tenantId).wp)
    intro trace m₁ out hresult
    obtain ⟨houtcome, hundenying⟩ := hresult
    cases houtcome with
    | exhausted guard => exact justified_ok
    | lost lost => exact justified_error (hundenying _ rfl)
    | counted guard registry held =>
        cases hguard : retryGuardFired m₁.shared.registry state.retried with
        | true => exact justified_ok
        | false => exact hnext m₁ held hguard blocked
  · exact justified_ok
  · exact justified_ok
  · apply note_bind_relying
    apply Discipline.memory_bind
    exact justified_of_undenying (undenying_executeWithFallback _ _ _ _ _)

/-- One iteration, if the next one is justified. -/
theorem routeBody_justified {blocked : List Backend}
    {next : ConversationState → List Backend → Routine μ RoutingResponse}
    (hstate : Saturated excluded state)
    (hheld : (Supplied.discipline engine call excluded).held state m)
    (hnext : ∀ m', (Supplied.discipline engine call excluded).held state.retried m' →
      retryGuardFired m'.shared.registry state.retried = false → ∀ blocked',
        (next state.retried blocked').wp (Contract.relying (PoolKept engine call excluded))
          (fun _ m' out => Justified engine call m' out) m') :
    (routeBody engine call next state blocked).wp
      (Contract.relying (PoolKept engine call excluded))
      (fun _ m' out => Justified engine call m' out) m := by
  obtain ⟨hown, hsupplied⟩ := hheld
  apply routeBody_relying
  · exact hsupplied.tenant_eq
  · intro _
    exact justified_ok
  · intro _ error m' _ _
    exact justified_error error.not_isDenial
  · -- no candidate is left, and since the pool is not used up there never was one
    intro _ candidateSet m' hnoted hresolved hids raised _ raised' _ _ id heligible
    rw [HandleCall.eligible_congr hnoted.registry hnoted.governance] at heligible
    have hexcluded := (HandleCall.ids_eq_nil_iff_of_candidates hresolved).mp hids
    apply hsupplied.unspent
    refine ⟨⟨id, heligible⟩, ?_⟩
    intro other hother
    exact (hstate.mem_iff other).mp (hexcluded other hother)
  · intro _ candidateSet m' hnoted _ _
    have hheld' : (Supplied.discipline engine call excluded).held state m' :=
      ⟨hnoted.state.trans hown, hsupplied.of_same hnoted.tenant hnoted.registry hnoted.governance⟩
    rw [Coro.wp_bind]
    apply Coro.wp_mono (Coro.wp_and
      ((Supplied.discipline engine call excluded).decisionFromLadder hheld')
      (undenying_climb _ _ _).wp)
    intro trace m₁ out hresult
    obtain ⟨⟨houtcome, -⟩, hundenying⟩ := hresult
    cases out with
    | error raised => exact justified_error (hundenying raised rfl)
    | ok decided => exact followDecision_justified houtcome.held hnext

/-- The loop, as long as its budget lasts. -/
theorem route_justified (budget : ℕ) {blocked : List Backend}
    (hbudget : state.maxAttempts - state.attemptCount ≤ budget) (hstate : Saturated excluded state)
    (hheld : (Supplied.discipline engine call excluded).held state m) :
    (route engine call state blocked).wp (Contract.relying (PoolKept engine call excluded))
      (fun _ m' out => Justified engine call m' out) m := by
  induction budget generalizing state m blocked with
  | zero =>
      rw [route_eq]
      apply routeBody_justified hstate hheld
      intro m' _ hguard
      have hopen := guard_open hguard
      rw [ConversationState.attemptCount_retried,
        (ConversationState.retried_retried state).maxAttempts_eq] at hopen
      omega
  | succ budget ih =>
      rw [route_eq]
      apply routeBody_justified hstate hheld
      intro m' hheld' hguard blocked'
      apply ih _ hstate.retried hheld'
      rw [ConversationState.attemptCount_retried,
        (ConversationState.retried_retried state).maxAttempts_eq]
      omega

/-- The routing of a ready record and what is attached to its outcome. -/
theorem routeAndAttach_justified (hstate : Saturated excluded state)
    (hsupplied : Supplied engine call excluded m) :
    (routeAndAttach engine call state).wp (Contract.relying (PoolKept engine call excluded))
      (fun _ m' out => Justified engine call m' out) m := by
  rw [routeAndAttach, remember]
  apply note_bind_relying
  rw [Coro.wp_bind]
  apply Coro.wp_mono
  · apply route_justified (state.maxAttempts - state.attemptCount) le_rfl hstate
    exact ⟨rfl, hsupplied.of_same rfl rfl rfl⟩
  · intro trace m' out hout
    cases out with
    | error raised => exact hout
    | ok response => exact justified_of_undenying (undenying_attachDiagnostics response)

end Loop

/-- The exclusions of the turn when the call is routed. -/
def HandleCall.turnExclusions (call : HandleCall) (m : Memory μ) : List String :=
  if call.request.retry then
    (call.record m).elim [] fun stored => stored.retried.excludedProviders
  else []

section Calls

open Routine

variable [Metric μ] {m : Memory μ}

/-- A denial means that governance lets nobody serve the call, and a retry that finds its pool
used up ends in STOP. -/
structure DenialMeansGovernance (engine : RoutingEngine) (call : HandleCall) (m : Memory μ) :
    Prop where
  denied : ∀ trace m' raised, Coro.Run (PoolKept engine call (call.turnExclusions m))
      (handle engine call) m trace m' (.error raised) →
    IsDenial raised → ∀ id, ¬ call.Eligible engine m'.shared id
  stopped : call.request.retry = true → ∀ stored, call.record m = some stored →
    ¬ ImageMissing call stored → call.UsedUp engine m.shared (call.turnExclusions m) →
      ∀ trace m' out, Coro.Run (PoolKept engine call (call.turnExclusions m))
          (handle engine call) m trace m' out →
        ∃ response, out = .ok response ∧ response.action = .stop

omit [Metric μ] in
/-- The retry's pool is used up, and the retry guard does not see it. -/
def UsedUpUnnoticed (engine : RoutingEngine) (call : HandleCall) (m : Memory μ) : Prop :=
  call.request.retry = true ∧ ∃ stored, call.record m = some stored ∧ ¬ ImageMissing call stored ∧
    retryGuardFired m.shared.registry stored.retried = false ∧
    call.UsedUp engine m.shared (call.turnExclusions m)

omit [Metric μ] in
theorem turnExclusions_of_stored (hretry : call.request.retry = true) {stored : ConversationState}
    (hstored : call.record m = some stored) :
    call.turnExclusions m = stored.retried.excludedProviders := by
  rw [HandleCall.turnExclusions, if_pos hretry, hstored]
  rfl

omit [Metric μ] in
theorem Justified.translated {result out : Except Raised RoutingResponse}
    (h : Justified engine call m result) (htranslated : Translated result out) :
    Justified engine call m out := by
  cases htranslated with
  | ok response => exact justified_ok
  | error same =>
      intro raised hraised hdenial
      cases hraised
      have hsame := same (Or.inr hdenial.isRejection)
      rw [← hsame] at h
      exact h _ rfl hdenial

omit [Metric μ] in
theorem not_isDenial_of_failed {kind : RoutingErrorKind} (hkind : kind ≠ .governancePolicyDenied)
    {raised : Raised} (h : Failed kind m raised) : ¬ IsDenial raised := by
  intro hdenial
  obtain ⟨diagnostics, hdenial⟩ := hdenial
  cases h with
  | diagnosed diagnostics =>
      cases hdenial
      exact hkind rfl
  | undiagnosed selected => cases hdenial

/-- A retry of a stored conversation whose pool is not used up once it is routed. -/
theorem handleRetry_justified {stored : ConversationState}
    (hretry : call.request.retry = true) (hselected : m.own.selectedProvider = none)
    (htenant : m.own.tenant = call.tenant) (hstored : call.record m = some stored)
    (hnoticed : ¬ UsedUpUnnoticed engine call m) :
    (handleRetry engine call).wp
      (Contract.relying (PoolKept engine call stored.retried.excludedProviders))
      (fun _ m' out => Justified engine call m' out) m := by
  have hturn := turnExclusions_of_stored hretry hstored
  apply handleRetry_relying hselected hstored
  · intro _ m' raised _ hfailed
    exact justified_error (not_isDenial_of_failed (by decide) hfailed)
  · intro _ _ m' response _ _
    exact justified_ok
  · intro _ _ m' response _
    exact justified_ok
  · intro himage hguard m' hcounted
    rw [retried_markImage] at hguard ⊢
    have hunspent : ¬ call.UsedUp engine m.shared stored.retried.excludedProviders := by
      intro husedUp
      rw [← hturn] at husedUp
      exact hnoticed ⟨hretry, stored, hstored, himage, hguard, husedUp⟩
    have hsaturated : Saturated stored.retried.excludedProviders (markImage call stored.retried) :=
      ⟨(saturated_retried stored).mem_iff, (saturated_retried stored).last_mem⟩
    apply routeAndAttach_justified hsaturated
    have hsupplied : Supplied engine call stored.retried.excludedProviders m := ⟨htenant, hunspent⟩
    apply hsupplied.of_same _ hcounted.registry_eq hcounted.governance_eq
    rw [hcounted.own_eq]

omit [Metric μ] in
/-- The record of a new message is found or made without touching anything else. -/
theorem loadOrCreate_bind_relying {β : Type} {rely : Memory μ → Memory μ → Prop}
    {next : ConversationState → Routine μ β}
    {post : List (EngineEvent μ) → Memory μ → Except Raised β → Prop}
    (h : ∀ state conversations, (next state).wp (Contract.relying rely) post
      { m with shared := { m.shared with conversations := conversations } }) :
    (loadOrCreate engine call >>= next).wp (Contract.relying rely) post m := by
  rw [loadOrCreate, bind_assoc]
  apply Discipline.memory_bind
  cases m.shared.conversations.load call.request.conversationId call.tenantId with
  | some state => exact h state m.shared.conversations
  | none =>
      simp only [bind_assoc, pure_bind]
      apply Coro.wp_modify_bind_relying.mpr
      exact h _ _

/-- A new message begins with nobody excluded. -/
theorem handleMessage_justified (htenant : m.own.tenant = call.tenant) :
    (handleMessage engine call).wp (Contract.relying (PoolKept engine call []))
      (fun _ m' out => Justified engine call m' out) m := by
  have hsupplied : ∀ {world : World μ}, ¬ call.UsedUp engine world [] := by
    intro world husedUp
    obtain ⟨⟨id, heligible⟩, hexcluded⟩ := husedUp
    cases hexcluded id heligible
  have hfresh : ∀ state, Saturated [] (freshTurn call state) := by
    intro state
    exact ⟨fun _ => Iff.rfl, fun _ hlast => by cases hlast⟩
  rw [handleMessage]
  apply loadOrCreate_bind_relying
  intro state conversations
  rw [writeBack, bind_assoc]
  apply Discipline.memory_bind
  cases (conversations.update (freshTurn call state) call.tenantId) with
  | none => exact justified_error not_isDenial_conversationNotFound
  | some updated =>
      apply Coro.wp_modify_bind_relying.mpr
      exact routeAndAttach_justified (hfresh state) ⟨htenant, hsupplied⟩

/-- A call whose pool is not used up unnoticed. -/
theorem handle_justified (hnoticed : ¬ UsedUpUnnoticed engine call m) :
    (handle engine call).wp (Contract.relying (PoolKept engine call (call.turnExclusions m)))
      (fun _ m' out => Justified engine call m' out) m := by
  have hbody : ∀ now : ℚ, (handleBody engine call).wp
      (Contract.relying (PoolKept engine call (call.turnExclusions m)))
      (fun _ m' out => Justified engine call m' out)
      { m with own := newCapture engine call now } := by
    intro now
    rw [handleBody]
    by_cases hretry : call.request.retry = true
    · rw [if_pos hretry]
      cases hstored : call.record m with
      | some stored =>
          rw [turnExclusions_of_stored hretry hstored]
          exact handleRetry_justified hretry rfl rfl hstored hnoticed
      | none =>
          have hload : m.shared.conversations.load call.request.conversationId call.tenantId =
            none :=
            hstored
          rw [handleRetry]
          apply Discipline.memory_bind
          simp only [hload]
          exact justified_error not_isDenial_conversationNotFound
    · rw [if_neg hretry, HandleCall.turnExclusions, if_neg hretry]
      exact handleMessage_justified rfl
  apply handle_relying
  intro now
  apply Coro.wp_mono (hbody now)
  intro trace m' result hresult out htranslated
  exact hresult.translated htranslated

/-- A retry of a stored conversation that the guard stops. -/
theorem handle_stopped {rely : Memory μ → Memory μ → Prop} {stored : ConversationState}
    (hretry : call.request.retry = true) (hstored : call.record m = some stored)
    (himage : ¬ ImageMissing call stored)
    (hguard : retryGuardFired m.shared.registry stored.retried = true) :
    (handle engine call).wp (Contract.relying rely)
      (fun _ _ out => ∃ response, out = .ok response ∧ response.action = .stop) m := by
  have hstop : ∀ response : RoutingResponse, response.action = .stop → ∀ out,
      Translated (.ok response) out → ∃ response, out = .ok response ∧ response.action = .stop := by
    intro response haction out htranslated
    cases htranslated
    exact ⟨response, rfl, haction⟩
  apply handle_retry_relying hretry
  intro now
  apply handleRetry_relying
  · rfl
  · exact hstored
  · intro hmissing
    exact (himage hmissing).elim
  · intro _ _ m' response _ haction
    exact hstop response haction
  · intro _ _ m' response haction
    exact hstop response haction
  · intro _ hopen
    have hfired : retryGuardFired m.shared.registry stored.retried = false := by
      rw [retried_markImage] at hopen
      exact hopen
    rw [hguard] at hfired
    cases hfired

/-- A retry of a stored conversation whose pool is used up and that the guard lets pass. -/
theorem handle_raises {rely : Memory μ → Memory μ → Prop} (h : UsedUpUnnoticed engine call m) :
    (handle engine call).wp (Contract.relying rely)
      (fun _ _ out => ∃ raised, out = .error raised) m := by
  obtain ⟨hretry, stored, hstored, himage, hguard, husedUp⟩ := h
  rw [turnExclusions_of_stored hretry hstored] at husedUp
  have hraised : ∀ (raised : Raised) out, Translated (.error raised) out →
      ∃ raised, out = .error raised := by
    intro raised out htranslated
    cases htranslated with
    | error same => exact ⟨_, rfl⟩
  have hopen : retryGuardFired m.shared.registry stored = false :=
    guard_open_of_extends (ConversationState.retried_retried stored).toExtends hguard
  have hguard' : retryGuardFired m.shared.registry (markImage call stored).retried = false := by
    rw [retried_markImage]
    exact hguard
  apply handle_retry_relying hretry
  intro now
  apply handleRetry_relying
  · rfl
  · exact hstored
  · intro hmissing
    exact (himage hmissing).elim
  · intro _ hfired
    rw [hopen] at hfired
    cases hfired
  · intro _ hfired
    rw [hguard'] at hfired
    cases hfired
  · intro _ _ m' hcounted
    have hworld : call.candidates engine m'.shared = call.candidates engine m.shared :=
      hcounted.candidates_eq
    apply routeAndAttach_relying
    · rw [hcounted.own_eq]
      rfl
    · rw [hcounted.registry_eq]
      exact hguard'
    · intro error m₁ _ _
      exact hraised error.raised
    · intro candidateSet m₁ _ _ _ _ raised _
      exact hraised raised
    · intro candidateSet hresolved hids
      rw [hworld, retried_markImage] at hresolved
      exact (hids ((HandleCall.ids_eq_nil_iff_of_candidates hresolved).mpr husedUp.2)).elim

/-- A retry whose pool is used up unnoticed does not stop. -/
theorem not_denialMeansGovernance_of_usedUpUnnoticed (hunnoticed : UsedUpUnnoticed engine call m) :
    ¬ DenialMeansGovernance engine call m := by
  intro hmeans
  have ⟨hretry, stored, hstored, himage, _, husedUp⟩ := hunnoticed
  have hrun :
      Coro.Run (PoolKept engine call (call.turnExclusions m)) (handle engine call) m _ _ _ :=
    Coro.run_eval PoolKept.refl
      (scripted (fun _ => .ok (.decision generalDecision)) fun _ => .ok "text") _ m 0
  obtain ⟨response, hresponse, -⟩ :=
    hmeans.stopped hretry stored hstored himage husedUp _ _ _ hrun
  obtain ⟨raised, hraised⟩ := Coro.wp_sound (handle_raises hunnoticed) hrun
  rw [hraised] at hresponse
  cases hresponse

theorem denialMeansGovernance_of_noticed (hnoticed : ¬ UsedUpUnnoticed engine call m) :
    DenialMeansGovernance engine call m where
  denied := by
    intro trace m' raised hrun hdenial
    exact Coro.wp_sound (handle_justified hnoticed) hrun raised rfl hdenial
  stopped := by
    intro hretry stored hstored himage husedUp trace m' out hrun
    have hguard : retryGuardFired m.shared.registry stored.retried = true := by
      by_contra hopen
      rw [Bool.not_eq_true] at hopen
      exact hnoticed ⟨hretry, stored, hstored, himage, hopen, husedUp⟩
    exact Coro.wp_sound (handle_stopped hretry hstored himage hguard) hrun

/-- Denials mean governance, and exhausted retries end in STOP, unless the retry's pool is
used up and the retry guard does not see it. -/
theorem denialMeansGovernance_iff (engine : RoutingEngine) (call : HandleCall) (m : Memory μ) :
    DenialMeansGovernance engine call m ↔ ¬ UsedUpUnnoticed engine call m :=
  ⟨fun hmeans hunnoticed => not_denialMeansGovernance_of_usedUpUnnoticed hunnoticed hmeans,
    denialMeansGovernance_of_noticed⟩

end Calls

/-- The tenant may use one of the two providers only, and it has answered. -/
def confinedMemory : Memory ℤ :=
  { acmeMemory with
    shared := { acmeMemory.shared with
      governance := (GovernanceRepository.empty.upsert
        { tenantId := "acme", allowedProviderIds := ["first"] }).1 } }

/-- The tenant asks again. -/
def confinedCall : HandleCall where
  request := { conversationId := "c", message := "again", retry := true }
  tenant := some { tenantId := "acme" }

/-- The provider that governance lets serve the tenant is used up. -/
theorem usedUp_confined :
    confinedCall.UsedUp { maxAttempts := 3 } confinedMemory.shared ["first"] := by
  constructor
  · refine ⟨"first", generalProvider "first" 1 .google, by decide, rfl, ?_⟩
    intro _ tenant htenant
    cases htenant
    decide
  · intro id heligible
    obtain ⟨config, hget, -, hgoverned⟩ := heligible
    have hreason := hgoverned rfl { tenantId := "acme" } rfl
    have hpasses := GovernanceEvaluator.reasonFor_eq_none_iff_passes.mp hreason .allowedProviders
    have hid : config.id = id := confinedMemory.shared.registry.consistent.id_eq id config hget
    rw [← hid]
    exact hpasses (by decide)

/-- The retry is denied although governance lets a provider serve it. -/
theorem used_up_pool_denied :
    ¬ ∀ (engine : RoutingEngine) (call : HandleCall) (m : Memory ℤ),
      DenialMeansGovernance engine call m := by
  intro hclaim
  have hmeans := hclaim { maxAttempts := 3 } confinedCall confinedMemory
  have hturn : confinedCall.turnExclusions confinedMemory = ["first"] := by decide +kernel
  have husedUp : confinedCall.UsedUp { maxAttempts := 3 } confinedMemory.shared
      (confinedCall.turnExclusions confinedMemory) := by
    rw [hturn]
    exact usedUp_confined
  have hrun : Coro.Run (PoolKept { maxAttempts := 3 } confinedCall
      (confinedCall.turnExclusions confinedMemory))
      (Routine.handle { maxAttempts := 3 } confinedCall) confinedMemory _ _ _ :=
    Coro.run_eval PoolKept.refl
      (scripted (fun _ => .ok (.decision generalDecision)) fun _ => .ok "text") _ _ 0
  obtain ⟨response, hresponse, -⟩ := hmeans.stopped rfl answeredOnce (by decide +kernel)
    (fun himage => by cases himage.1) husedUp _ _ _ hrun
  have hraised : ((Routine.handle { maxAttempts := 3 } confinedCall).eval
      (scripted (fun _ => .ok (.decision generalDecision)) fun _ => .ok "text") confinedMemory
        0).2.2.toOption = none := by decide +kernel
  rw [hresponse] at hraised
  cases hraised

end LLMRouting
