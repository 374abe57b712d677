/-
# What an iteration exposes, accepts and can execute

Three functions speak of the groups a request can be answered in. The registry exposes the
groups with an eligible provider that serves the request's modality, the validator accepts
the exposed groups and for an image the multimodal one only, and the chain is filtered by
group, exclusions and modality. Where the first two part company is a matter of which
providers accept images.
-/

import LLMRouting.Config.Settings
import LLMRouting.Routing.Call

namespace LLMRouting

open LLMRouting.Interaction

variable {μ : Type}

/-- A group is exposed when an eligible provider of the group serves the modality. -/
theorem Registry.mem_availableTaskGroups_iff {registry : Registry μ} {group : TaskGroup}
    {allowed : Option (List String)} {requiresImage : Bool} :
    group ∈ registry.availableTaskGroups allowed requiresImage ↔
      ∃ config, registry.getProvider? config.id = some config ∧ config.enabled = true ∧
        allows allowed config.id = true ∧ servesModality requiresImage config = true ∧
        config.taskGroup = group := by
  simp only [availableTaskGroups, List.mem_filter, group.mem_all, decide_eq_true_eq, List.mem_map,
    mem_listProviders_iff, Bool.and_eq_true, true_and, and_assoc]

section Iteration

variable [Metric μ] {engine : RoutingEngine} {call : HandleCall} {state : ConversationState}
  {m : Memory μ} {candidateSet : CandidateSet μ}

/-- No candidate of an iteration is excluded by the retries before it. -/
theorem Discipline.Resolution.not_mem_excluded {context : RoutingContext} {excluded : List String}
    (h : Discipline.Resolution engine context excluded m candidateSet) {id : String}
    (hid : id ∈ candidateSet.ids) : id ∉ excluded := by
  cases h with
  | governed resolver tenant_eq resolved =>
      obtain ⟨config, -, -, hexcluded, -⟩ := resolveCandidateSet_sound resolved hid
      exact hexcluded
  | legacy ungoverned =>
      obtain ⟨available, havailable, rfl⟩ := List.mem_map.mp hid
      obtain ⟨config, -, -, hexcluded, -⟩ := Registry.mem_availableForRouter_iff.mp havailable
      exact hexcluded

/-- The request the routers are asked in an iteration with the given candidates. -/
def exposedRequest (registry : Registry μ) (call : HandleCall) (state : ConversationState)
    (ids : List String) : RouterRequest :=
  Routine.routerRequest call state (registry.availableTaskGroups (some ids) call.hasImage)

/-- The validator accepts a decision for the request. -/
def Accepts (request : RouterRequest) (decision : RouterDecision) : Prop :=
  DecisionValidator.validate (.decision decision) request.availableTaskGroups request.hasImage
    request.retry = .ok decision

/-- Exposure, validation and execution agree on the groups of an iteration. -/
structure ExposureAgrees (registry : Registry μ) (call : HandleCall) (state : ConversationState)
    (ids : List String) : Prop where
  accepted : ∀ (decision : RouterDecision) (h : decision.action = .answer),
    decision.answeredGroup h ∈ (exposedRequest registry call state ids).availableTaskGroups ↔
      Accepts (exposedRequest registry call state ids) decision
  executable : ∀ group ∈ (exposedRequest registry call state ids).availableTaskGroups,
    ∀ preserve, registry.candidatesFor group call.hasImage state.excludedProviders (some ids)
      preserve ≠ []
  multimodal : call.hasImage = true →
    ∀ group ∈ (exposedRequest registry call state ids).availableTaskGroups, group = .multimodal

/-- Among the candidates, only multimodal providers accept images. -/
def ImagesAreMultimodal (registry : Registry μ) (ids : List String) : Prop :=
  ∀ config, registry.getProvider? config.id = some config → config.enabled = true →
    config.id ∈ ids → config.acceptsImage = true → config.taskGroup = .multimodal

omit [Metric μ] in
/-- An ANSWER is accepted when its group is exposed and suits the modality. -/
theorem accepts_iff {request : RouterRequest} {decision : RouterDecision}
    (h : decision.action = .answer) :
    Accepts request decision ↔ decision.answeredGroup h ∈ request.availableTaskGroups ∧
      (request.hasImage = true → decision.answeredGroup h = .multimodal) := by
  rw [Accepts]
  rw [DecisionValidator.validate_eq_ok_iff]
  constructor
  · intro ⟨_, hsuits⟩
    exact ⟨hsuits.mem_available h, hsuits.multimodal_of_image h⟩
  · intro ⟨hgroup, himage⟩
    refine ⟨rfl, ?_, fun _ => hgroup, fun _ => himage⟩
    intro hretry
    rw [h] at hretry
    cases hretry

/-- Every exposed group has a candidate, since no candidate is excluded. -/
theorem candidatesFor_ne_nil
    (hresolution : Discipline.Resolution engine call.context state.excludedProviders m candidateSet)
    {group : TaskGroup} {image : Bool}
    (hgroup : group ∈ m.shared.registry.availableTaskGroups (some candidateSet.ids) image)
    (preserve : Bool) :
    m.shared.registry.candidatesFor group image state.excludedProviders (some candidateSet.ids)
      preserve ≠ [] := by
  obtain ⟨config, hget, henabled, hallowed, hmodality, hcfg⟩ :=
    Registry.mem_availableTaskGroups_iff.mp hgroup
  have hid : config.id ∈ candidateSet.ids := by simpa [Registry.allows] using hallowed
  have heligible : config ∈ m.shared.registry.eligibleProviders group image
      state.excludedProviders (some candidateSet.ids) :=
    Registry.mem_eligibleProviders_iff.mpr
      ⟨hget, henabled, hcfg, hresolution.not_mem_excluded hid, hallowed, hmodality⟩
  exact List.ne_nil_of_mem
    ((m.shared.registry.candidatesFor_perm _ _ _ _ preserve).mem_iff.mpr heligible)

omit [Metric μ] in
/-- The groups exposed for an image are the multimodal one alone exactly when only
multimodal providers accept images. -/
theorem exposes_multimodal_iff {registry : Registry μ} {ids : List String} :
    (∀ group ∈ registry.availableTaskGroups (some ids) true, group = .multimodal) ↔
      ImagesAreMultimodal registry ids := by
  constructor
  · intro h config hget henabled hid himage
    apply h
    apply Registry.mem_availableTaskGroups_iff.mpr
    exact ⟨config, hget, henabled, by simpa [Registry.allows] using hid, himage, rfl⟩
  · intro h group hgroup
    obtain ⟨config, hget, henabled, hallowed, himage, rfl⟩ :=
      Registry.mem_availableTaskGroups_iff.mp hgroup
    exact h config hget henabled (by simpa [Registry.allows] using hallowed) himage

/-- The three notions agree on an iteration exactly when, for an image, only multimodal
providers among its candidates accept images. -/
theorem exposureAgrees_iff
    (hresolution :
      Discipline.Resolution engine call.context state.excludedProviders m candidateSet) :
    ExposureAgrees m.shared.registry call state candidateSet.ids ↔
      (call.hasImage = true → ImagesAreMultimodal m.shared.registry candidateSet.ids) := by
  constructor
  · intro h himage
    have hmultimodal := h.multimodal himage
    unfold exposedRequest Routine.routerRequest at hmultimodal
    rw [himage] at hmultimodal
    exact exposes_multimodal_iff.mp hmultimodal
  · intro h
    have hmultimodal : call.hasImage = true →
        ∀ group ∈ (exposedRequest m.shared.registry call state
          candidateSet.ids).availableTaskGroups, group = .multimodal := by
      intro himage
      rw [exposedRequest, Routine.routerRequest]
      rw [himage]
      exact exposes_multimodal_iff.mpr (h himage)
    constructor
    · intro decision hanswer
      rw [accepts_iff hanswer]
      constructor
      · intro hgroup
        exact ⟨hgroup, fun himage => hmultimodal himage _ hgroup⟩
      · intro haccepted
        exact haccepted.1
    · intro group hgroup preserve
      exact candidatesFor_ne_nil hresolution hgroup preserve
    · exact hmultimodal

end Iteration

/-- One enabled provider for each group; the general one accepts the given modalities. -/
def fourGroups (modalities : List InputModality) : List (ProviderConfig ℤ) :=
  [{ generalProvider "general" 1 .google with capabilities := { inputModalities := modalities } },
    { generalProvider "coding" 1 .google with taskGroup := .codingReasoning },
    { generalProvider "creative" 1 .google with taskGroup := .creative },
    { generalProvider "multimodal" 1 .google with
      taskGroup := .multimodal
      capabilities := { inputModalities := [.text, .image] } }]

/-- A new message with an image. -/
def imageCall : HandleCall :=
  { request :=
      { conversationId := "conversation", message := "what is this?"
        image := some
          { mediaType := "image/png"
            dataBase64 := "iVBORw0KGgoAAAANSUhEUgAAAAEAAAABCAYAAAAfFcSJ" } } }

/-- The four groups as the application's registry, which serves V1. -/
def fourGroupsMemory (modalities : List InputModality) : Memory ℤ :=
  deployment (fourGroups modalities) none

/-- A topology that settings accept exposes the general group for an image, and the
validator refuses it. -/
theorem general_exposed_for_image :
    ¬ ∀ (configs : List (ProviderConfig ℤ)) (engine : RoutingEngine) (call : HandleCall)
      (state : ConversationState) (candidateSet : CandidateSet ℤ),
      Settings.validateProviderConfigs configs = .ok () →
      Discipline.Resolution engine call.context state.excludedProviders (deployment configs none)
        candidateSet →
      ExposureAgrees (deployment configs none).shared.registry call state candidateSet.ids := by
  intro hclaim
  have hresolution : Discipline.Resolution { maxAttempts := 3 } imageCall.context []
      (fourGroupsMemory [.text, .image])
      (Routine.legacyCandidateSet (fourGroupsMemory [.text, .image]).shared.registry []) :=
    .legacy (Or.inr rfl)
  have hagrees := hclaim (fourGroups [.text, .image]) { maxAttempts := 3 } imageCall
    (Routine.freshTurn imageCall (Terms.createdState { maxAttempts := 3 } imageCall)) _
    (by decide) hresolution
  have hmultimodal := hagrees.multimodal rfl .general (by decide)
  cases hmultimodal

/-- With a general provider for texts only, an image request is exposed as documented. -/
theorem exposureAgrees_textGeneral :
    ExposureAgrees (fourGroupsMemory [.text]).shared.registry imageCall
      (Routine.freshTurn imageCall (Terms.createdState { maxAttempts := 3 } imageCall))
      (Routine.legacyCandidateSet (fourGroupsMemory [.text]).shared.registry []).ids := by
  have hresolution : Discipline.Resolution { maxAttempts := 3 } imageCall.context []
      (fourGroupsMemory [.text])
      (Routine.legacyCandidateSet (fourGroupsMemory [.text]).shared.registry []) :=
    .legacy (Or.inr rfl)
  apply (exposureAgrees_iff hresolution).mpr
  intro _
  apply exposes_multimodal_iff.mp
  decide

end LLMRouting
