/-
# Validation of router decisions

A router hands over a decision or a dictionary; the validator accepts what matches the
schema and suits the request it was asked about.
-/

import LLMRouting.Schemas.Models

namespace LLMRouting

/-- The reasons for an `InvalidDecisionError`, which is a `ValueError`. -/
inductive InvalidDecisionError
  | schemaMismatch
  | retryWithoutInvocation
  | unavailableTaskGroup
  | imageNeedsMultimodal
  deriving DecidableEq, Repr

def InvalidDecisionError.message : InvalidDecisionError → String
  | .schemaMismatch => "Router decision does not match the required schema"
  | .retryWithoutInvocation => "RETRY requires an explicit retry invocation"
  | .unavailableTaskGroup => "Router selected an unavailable task group"
  | .imageNeedsMultimodal => "Image requests must use the multimodal task group"

/-- The error as the ladder's handler sees it. -/
def InvalidDecisionError.toException (_ : InvalidDecisionError) : PyException :=
  { kind := .valueError }

/-- What schema validation makes of a router's answer. -/
def RawDecision.parsed? : RawDecision → Option RouterDecision
  | .decision parsed => some parsed
  | .record validated => validated

/-- The group of an ANSWER decision; the schema makes the assertion on it hold. -/
def RouterDecision.answeredGroup (decision : RouterDecision) (h : decision.action = .answer) :
    TaskGroup :=
  decision.taskGroup.get (decision.answerRequiresTaskGroup.mp h)

namespace DecisionValidator

def validate (decision : RawDecision) (availableTaskGroups : List TaskGroup)
    (hasImage retry : Bool) :
    Except InvalidDecisionError RouterDecision :=
  match decision.parsed? with
  | none => .error .schemaMismatch
  | some parsed =>
      if parsed.action = .retry ∧ retry = false then .error .retryWithoutInvocation
      else if h : parsed.action = .answer then
        if parsed.answeredGroup h ∉ availableTaskGroups then .error .unavailableTaskGroup
        else if hasImage = true ∧ parsed.answeredGroup h ≠ .multimodal then
          .error .imageNeedsMultimodal
        else .ok parsed
      else .ok parsed

/-- A decision suits a request: RETRY answers a retry, an ANSWER names an offered group,
and the multimodal one if the request carries an image. -/
structure Suits (decision : RouterDecision) (availableTaskGroups : List TaskGroup)
    (hasImage retry : Bool) : Prop where
  retry_of_action : decision.action = .retry → retry = true
  mem_available : ∀ h : decision.action = .answer,
    decision.answeredGroup h ∈ availableTaskGroups
  multimodal_of_image : ∀ h : decision.action = .answer,
    hasImage = true → decision.answeredGroup h = .multimodal

/-- The validator accepts exactly the schema-conformant decisions that suit the request. -/
theorem validate_eq_ok_iff {raw : RawDecision} {availableTaskGroups : List TaskGroup}
    {hasImage retry : Bool} {decision : RouterDecision} :
    validate raw availableTaskGroups hasImage retry = .ok decision ↔
      raw.parsed? = some decision ∧ Suits decision availableTaskGroups hasImage retry := by
  rw [validate]
  cases hparsed : raw.parsed? with
  | none => simp
  | some parsed =>
      simp only [Option.some.injEq]
      constructor
      · intro h
        split_ifs at h with hretry hanswer hgroup himage
        · cases h
          refine ⟨rfl, fun haction => ?_, fun _ => hgroup, fun _ hhas => ?_⟩
          · exact absurd (haction.symm.trans hanswer) (by simp)
          · by_contra hne
            exact himage ⟨hhas, hne⟩
        · cases h
          refine ⟨rfl, fun haction => ?_, fun h => absurd h hanswer, fun h => absurd h hanswer⟩
          by_contra hno
          exact hretry ⟨haction, Bool.eq_false_iff.mpr hno⟩
      · rintro ⟨rfl, hsuits⟩
        rw [if_neg fun h => by simp [hsuits.retry_of_action h.1] at h]
        by_cases hanswer : parsed.action = .answer
        · rw [dif_pos hanswer, if_neg (not_not.mpr (hsuits.mem_available hanswer)), if_neg]
          rintro ⟨himage, hne⟩
          exact hne (hsuits.multimodal_of_image hanswer himage)
        · rw [dif_neg hanswer]

end DecisionValidator

end LLMRouting
