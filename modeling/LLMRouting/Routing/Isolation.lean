/-
# Calls of different tenants

The conversations of all tenants are in one store. A call reads and writes the records of its
own tenant only, and of the rest of the world it looks at the registry and the control plane.
So for any set of tenants, their calls do what they would do if there were no others.
-/

import LLMRouting.Interaction.Noninterference
import LLMRouting.Routing.Compositional
import LLMRouting.Routing.Crew
import LLMRouting.Routing.Rules

namespace LLMRouting

open LLMRouting.Interaction

variable {μ : Type}

/-- The part of the world that calls on behalf of some tenants look at. -/
structure TenantView (μ : Type) where
  registry : Registry μ
  policies : PolicyRepository
  governance : GovernanceRepository
  record : String → String → Option ConversationState

section View

variable (tenants : String → Prop) [DecidablePred tenants]

/-- The registry, the control plane, and the conversations of these tenants. -/
def World.view (world : World μ) : TenantView μ where
  registry := world.registry
  policies := world.policies
  governance := world.governance
  record tenantId conversationId :=
    if tenants tenantId then world.conversations.load conversationId tenantId else none

variable {tenants} {world world' : World μ}

theorem view_eq (hregistry : world'.registry = world.registry)
    (hpolicies : world'.policies = world.policies)
    (hgovernance : world'.governance = world.governance)
    (hrecords : ∀ tenantId, tenants tenantId → ∀ conversationId,
      world'.conversations.load conversationId tenantId =
        world.conversations.load conversationId tenantId) :
    world'.view tenants = world.view tenants := by
  have hrecord : (world'.view tenants).record = (world.view tenants).record := by
    funext tenantId conversationId
    by_cases htenant : tenants tenantId
    · simp only [World.view, if_pos htenant, hrecords tenantId htenant]
    · simp only [World.view, if_neg htenant]
  show TenantView.mk world'.registry world'.policies world'.governance
    (world'.view tenants).record =
    TenantView.mk world.registry world.policies world.governance (world.view tenants).record
  rw [hregistry, hpolicies, hgovernance, hrecord]

theorem registry_of_view (h : world'.view tenants = world.view tenants) :
    world'.registry = world.registry :=
  congrArg TenantView.registry h

theorem policies_of_view (h : world'.view tenants = world.view tenants) :
    world'.policies = world.policies :=
  congrArg TenantView.policies h

theorem governance_of_view (h : world'.view tenants = world.view tenants) :
    world'.governance = world.governance :=
  congrArg TenantView.governance h

theorem load_of_view (h : world'.view tenants = world.view tenants) {tenantId : String}
    (htenant : tenants tenantId) (conversationId : String) :
    world'.conversations.load conversationId tenantId =
      world.conversations.load conversationId tenantId := by
  have hrecord := congrFun (congrFun (congrArg TenantView.record h) tenantId) conversationId
  simpa only [World.view, if_pos htenant] using hrecord

/-- The same change to the conversations leaves what looked the same looking the same. -/
theorem view_put (h : world'.view tenants = world.view tenants)
    {conversations conversations' : ConversationStateManager}
    (hrecords : ∀ tenantId, tenants tenantId → ∀ conversationId,
      conversations'.load conversationId tenantId = conversations.load conversationId tenantId) :
    ({ world' with conversations := conversations' } : World μ).view tenants =
      ({ world with conversations := conversations } : World μ).view tenants := by
  have hregistry := registry_of_view h
  have hpolicies := policies_of_view h
  have hgovernance := governance_of_view h
  exact view_eq hregistry hpolicies hgovernance hrecords

end View

section Sides

variable {tenants : String → Prop} [DecidablePred tenants] {tenantId : String}

theorem aligned_of_sameView (htenant : tenants tenantId) {m m' : Memory μ}
    (h : SameView (World.view tenants) m m') : Aligned tenantId m m' where
  own := h.1
  registry := registry_of_view h.2
  policies := policies_of_view h.2
  governance := governance_of_view h.2
  load := load_of_view h.2 htenant

/-- What a tenant's routine does depends on nothing but what its tenants see. -/
theorem compositional_alike (htenant : tenants tenantId) :
    Compositional (μ := μ) tenantId fun _ routine =>
      routine.Alike (SameView (World.view tenants)) routine where
  pure value := .pure value
  raise raised := .raise raised
  bind h hnext := h.bind hnext
  attempt h := h.attempt
  ask query := Coro.alike_ask (I := engineInterface) query
  note update := Coro.alike_modify fun _ _ h => ⟨congrArg update h.1, h.2⟩
  look hnext hsame := by
    apply Coro.alike_get_bind
    intro m m' h
    rw [hsame m m' (aligned_of_sameView htenant h)]
    exact hnext m
  audit reference := Coro.alike_modify fun _ _ h => ⟨h.1, h.2⟩
  create engine call hcall := by
    rw [← hcall] at htenant
    apply Coro.alike_get_bind
    intro m m' h
    rw [load_of_view h.2 htenant]
    cases m.shared.conversations.load call.request.conversationId call.tenantId with
    | some stored => exact .pure _
    | none =>
        refine Coro.Alike.bind (Coro.alike_modify fun m₁ m₁' h₁ => ⟨h₁.1, view_put h₁.2 ?_⟩)
          fun _ => .pure _
        intro otherTenant hother otherId
        show (m'.shared.conversations.put _ _).load otherId otherTenant =
          (m.shared.conversations.put _ _).load otherId otherTenant
        rw [ConversationStateManager.load_put, ConversationStateManager.load_put,
          load_of_view h.2 hother]
  writeBack state := by
    apply Coro.alike_get_bind
    intro m m' h
    rw [ConversationStateManager.update, ConversationStateManager.update,
      load_of_view h.2 htenant state.conversationId]
    cases m.shared.conversations.load state.conversationId tenantId with
    | none => exact .raise _
    | some stored =>
        apply Coro.alike_modify
        intro m₁ m₁' h₁
        refine ⟨h₁.1, view_put h₁.2 ?_⟩
        intro otherTenant hother otherId
        rw [ConversationStateManager.load_put, ConversationStateManager.load_put,
          load_of_view h.2 hother]

/-- A record put away for one tenant is not seen by others. -/
theorem view_put_of_not (htenant : ¬ tenants tenantId) (world : World μ)
    (state : ConversationState) :
    ({ world with conversations := world.conversations.put state tenantId } : World μ).view
        tenants =
      world.view tenants := by
  refine view_eq (by rfl) (by rfl) (by rfl) ?_
  intro otherTenant hother otherId
  have hne : ¬ (otherTenant = tenantId ∧ otherId = state.conversationId) := by
    intro hsame
    rw [hsame.1] at hother
    exact htenant hother
  rw [ConversationStateManager.load_put, if_neg hne]

/-- A tenant's routine changes nothing that other tenants see. -/
theorem compositional_unseen (htenant : ¬ tenants tenantId) :
    Compositional (μ := μ) tenantId fun _ routine =>
      ∀ m, routine.wp (unseenContract (World.view tenants)) (fun _ _ _ => True) m where
  pure _ _ := trivial
  raise _ _ := trivial
  bind h hnext m := by
    rw [Coro.wp_bind]
    apply Coro.wp_mono (h m)
    intro trace m' out _
    cases out with
    | ok value => exact hnext value m'
    | error raised => trivial
  attempt h m := by
    rw [Coro.wp_attempt]
    exact h m
  ask _ _ := ⟨fun _ => trivial, fun _ _ _ => trivial⟩
  note _ _ := ⟨rfl, trivial⟩
  look hnext _ m := hnext m m
  audit _ _ := ⟨rfl, trivial⟩
  create engine call hcall m := by
    rw [← hcall] at htenant
    apply Discipline.memory_bind
    cases m.shared.conversations.load call.request.conversationId call.tenantId with
    | some stored => trivial
    | none => exact ⟨view_put_of_not htenant m.shared _, trivial⟩
  writeBack state m := by
    apply Discipline.memory_bind
    rw [ConversationStateManager.update]
    cases m.shared.conversations.load state.conversationId tenantId with
    | none => trivial
    | some stored => exact ⟨view_put_of_not htenant m.shared _, trivial⟩

/-- The calls of some tenants see what belongs to them, and no other call touches it. -/
theorem separated_tenants [Metric μ] (engine : RoutingEngine) :
    Separated (engineCrew μ engine) (World.view tenants) fun call => tenants call.tenantId where
  alike _ htenant := (compositional_alike htenant).handle
  unseen _ htenant shared := (compositional_unseen htenant).handle ⟨shared, { requestId := "" }⟩

end Sides

/-- The surroundings neither read nor write conversations, and the control plane and the
registry are changed by themselves. -/
def Outside : EngineMove μ → Prop
  | .disturb update => (∀ world, (update world).conversations = world.conversations) ∧
      ∀ world world' : World μ, world'.registry = world.registry →
        world'.policies = world.policies → world'.governance = world.governance →
          (update world').registry = (update world).registry ∧
          (update world').policies = (update world).policies ∧
          (update world').governance = (update world).governance
  | .start _ _ | .resume _ _ => True

section Runs

variable {tenants : String → Prop} [DecidablePred tenants]

theorem independent_of_outside {move : EngineMove μ} (h : Outside move) :
    move.Independent (World.view tenants) := by
  cases move with
  | start call oracle => trivial
  | resume index oracle => trivial
  | disturb update =>
      intro world world' hview
      obtain ⟨hregistry, hpolicies, hgovernance⟩ := h.2 world world' (registry_of_view hview)
        (policies_of_view hview) (governance_of_view hview)
      apply view_eq hregistry hpolicies hgovernance
      intro tenantId htenant conversationId
      rw [h.1, h.1, load_of_view hview htenant]

variable [Metric μ] {engine : RoutingEngine} {world world' : World μ} {pool : EnginePool μ}
  {moves : List (EngineMove μ)}

/-- Whatever other tenants' calls do, and whatever conversations they have: the calls of some
tenants ask, keep and return what they would alone, and leave the same conversations. -/
theorem alone_of_run (hworld : world'.view tenants = world.view tenants)
    (hrun : Steps (Guarded (Pool.step (engineCrew μ engine)) fun _ move => Outside move)
      ⟨world, []⟩ moves pool) :
    ∃ alone, Steps (Enabled (Pool.step (engineCrew μ engine))) ⟨world', []⟩
        (ownMoves (fun call => tenants call.tenantId) [] moves) alone ∧
      alone.seats.map Seat.visible =
        (pool.seats.filter fun seat => decide (tenants seat.label.tenantId)).map Seat.visible ∧
      alone.shared.view tenants = pool.shared.view tenants := by
  have hkeeps : (⟨world, []⟩ : EnginePool μ).Keeps
      (sideContract (fun call => tenants call.tenantId) (World.view tenants)) := by
    intro seat hseat
    cases hseat
  have hmirrors : (⟨world, []⟩ : EnginePool μ).Mirrors (fun call => tenants call.tenantId)
      (World.view tenants) ⟨world', []⟩ := ⟨hworld, .nil⟩
  obtain ⟨alone, halone, hlast⟩ := hmirrors.run (separated_tenants engine)
    (fun _ _ _ hstep => ⟨hstep.1, independent_of_outside hstep.2⟩) hkeeps hrun
  exact ⟨alone, halone, map_visible_of_forall₂ hlast.seats, hlast.shared⟩

end Runs

end LLMRouting
