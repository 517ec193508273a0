import TacoRank.Recovery.Policy
import Mathlib.Tactic.NormNum

/-!
# Soundness of the recovery policy

Every return of `_route` spends a repair only while the budget lasts, retries the sealed commit only
below the cap, and gives the decision texts and settings that the schema accepts (`Route.Sound`).
`decideRecovery` therefore always constructs its decision (`decideRecovery_ok`).
-/

namespace TacoRank

/-- What the state machine and the schema ask of a route. -/
structure Route.Sound (context : RecoveryPolicyContext) (route : Route) : Prop where
  budget : route.action.consumesRepair = true → 0 < context.remainingRepairBudget
  retries : route.action = .retrySameCommit → context.sameCommitRetriesUsed < maxSameCommitRetries
  reason : NonEmpty route.reason
  instructions : NonEmpty route.instructions
  settings : validRuntimeMapping route.adjustments = true
  adjustment : route.adjustments.length =
    if route.action = .adjustApprovedRuntimeSetting then 1 else 0

section Sound
variable {context : RecoveryPolicyContext} {failure : FailureClassification} {sameCount : Nat}

/-- A route that neither spends a repair nor retries nor adjusts. -/
lemma Route.Sound.idle {action reason instructions}
    (idle : action = .abandon ∨ action = .rollback ∨ action = .returnToPlanner)
    (reasonText : NonEmpty reason) (instructionText : NonEmpty instructions) :
    Route.Sound context { action, reason, instructions } := by
  rcases idle with rfl | rfl | rfl
  · exact ⟨nofun, nofun, reasonText, instructionText, rfl, rfl⟩
  · exact ⟨nofun, nofun, reasonText, instructionText, rfl, rfl⟩
  · exact ⟨nofun, nofun, reasonText, instructionText, rfl, rfl⟩

/-- A route that spends a repair. -/
lemma Route.Sound.repair {action reason instructions}
    (repair : action = .traeRepair ∨ action = .restartFromTrustedParent)
    (budget : context.remainingRepairBudget ≠ 0)
    (reasonText : NonEmpty reason) (instructionText : NonEmpty instructions) :
    Route.Sound context { action, reason, instructions } := by
  have positive : 0 < context.remainingRepairBudget := Nat.pos_of_ne_zero budget
  rcases repair with rfl | rfl
  · exact ⟨fun _ => positive, nofun, reasonText, instructionText, rfl, rfl⟩
  · exact ⟨fun _ => positive, nofun, reasonText, instructionText, rfl, rfl⟩

/-- A route that retries the sealed commit. -/
lemma Route.Sound.retry {reason instructions}
    (cap : context.sameCommitRetriesUsed < maxSameCommitRetries)
    (reasonText : NonEmpty reason) (instructionText : NonEmpty instructions) :
    Route.Sound context { action := .retrySameCommit, reason, instructions } :=
  ⟨nofun, fun _ => cap, reasonText, instructionText, rfl, rfl⟩

lemma selfDebug_nonEmpty {attempt : Nat} {remaining : Int} :
    NonEmpty (buildSelfDebugInstructions failure context attempt remaining) := by
  have start : NonEmpty "The original hypothesis remains: " := .of_chars rfl
  unfold buildSelfDebugInstructions
  dsimp only
  split
  · simp only [String.append_assoc]
    exact start.append
  · simp only [String.append_assoc]
    exact start.append

lemma routeIntegrity_sound {route} (h : routeIntegrity failure context sameCount = some route) :
    Route.Sound context route := by
  unfold routeIntegrity at h
  split at h
  · split at h
    · cases h
      exact .idle (.inl rfl) (.of_chars rfl) (.append (.append (.of_chars rfl)))
    · rename_i budget
      cases h
      refine .repair (.inr rfl) (fun empty => budget (.inr empty)) (.of_chars rfl) ?_
      simp only [String.append_assoc]
      exact selfDebug_nonEmpty.append
  · split at h
    · cases h
      exact .idle (.inl rfl) (.of_chars rfl) (.of_chars rfl)
    · split at h
      · cases h
        exact .idle (.inl rfl) (.of_chars rfl) (.append (.of_chars rfl))
      · cases h

lemma routeBudget_sound {route} (h : routeBudget context = some route) : route.Sound context := by
  unfold routeBudget at h
  split at h
  · cases h
    refine .idle (.inl rfl) ?_ ?_
    · exact .append (.append (.of_chars rfl))
    · exact .append (.append (.of_chars rfl))
  · cases h

lemma routeControlPlane_sound {route} (h : routeControlPlane failure = some route) :
    route.Sound context := by
  unfold routeControlPlane at h
  split at h
  · cases h
    refine .idle (.inl rfl) (.of_chars rfl) ?_
    simp only [String.append_assoc]
    exact .append (.of_chars rfl)
  · split at h
    · cases h
      refine .idle (.inl rfl) (.of_chars rfl) ?_
      simp only [String.append_assoc]
      exact .append (.of_chars rfl)
    · cases h

lemma routeNoOp_sound {route} (h : routeNoOp failure context sameCount = some route) :
    route.Sound context := by
  unfold routeNoOp at h
  split at h
  · split at h
    · cases h
      exact .idle (.inr (.inr rfl)) (.of_chars rfl) (.append (.of_chars rfl))
    · rename_i budget
      cases h
      exact .repair (.inl rfl) (fun empty => budget (.inr empty)) (.of_chars rfl) selfDebug_nonEmpty
  · split at h
    · cases h
      refine .idle (.inr (.inr rfl)) (.of_chars rfl) ?_
      exact .append (.append (.of_chars rfl))
    · cases h

lemma routeOwnerRetry_sound {route} (h : routeOwnerRetry failure context sameCount = some route) :
    route.Sound context := by
  unfold routeOwnerRetry at h
  split at h
  · split at h
    · cases h
      refine .idle (.inl rfl) (.prepend (.of_chars rfl)) ?_
      simp only [String.append_assoc]
      exact .append (.of_chars rfl)
    · rename_i fresh
      cases h
      have cap : context.sameCommitRetriesUsed < maxSameCommitRetries := by
        unfold maxSameCommitRetries
        omega
      refine .retry cap ?_ ?_
      · exact .append (.append (.of_chars rfl))
      · split
        · simp only [String.append_assoc]
          exact .append (.of_chars rfl)
        · simp only [String.append_assoc]
          exact .append (.of_chars rfl)
  · cases h

lemma sameCommitRetry_sound : (sameCommitRetry context).Sound context := by
  unfold sameCommitRetry
  split
  · exact .retry ‹_› (.of_chars rfl) (.of_chars rfl)
  · exact .idle (.inl rfl) (.of_chars rfl) (.of_chars rfl)

lemma routeRepeated_sound {route} (h : routeRepeated failure context sameCount = some route) :
    route.Sound context := by
  unfold routeRepeated at h
  split at h
  · cases h
    exact sameCommitRetry_sound
  · split at h
    · cases h
      exact .idle (.inl rfl) (.of_chars rfl) (.of_chars rfl)
    · split at h
      · cases h
        exact .idle (.inl rfl) (.of_chars rfl) (.of_chars rfl)
      · cases h

/-- A selected adjustment is an approved setting with a valid value. -/
lemma selectRuntimeAdjustment_valid {failureClass name value}
    (h : selectRuntimeAdjustment failureClass context = some (name, value)) :
    validRuntimeMapping [(name, value)] = true := by
  unfold selectRuntimeAdjustment at h
  obtain ⟨name', _, found⟩ := List.exists_of_findSome?_eq_some h
  split at found
  · rename_i approved
    split at found
    · split at found
      · rename_i legal
        cases found
        simp [validRuntimeMapping, approved, legal.1]
      · cases found
    · cases found
  · cases found

lemma routeRuntime_sound {render : Rendering} {route}
    (h : routeRuntime render failure context = some route) : route.Sound context := by
  unfold routeRuntime at h
  split at h
  · rename_i selected
    cases h
    refine ⟨nofun, nofun, ?_, ?_, selectRuntimeAdjustment_valid selected, rfl⟩
    · exact .append (.append (.of_chars rfl))
    · simp only [String.append_assoc]
      exact .append (.of_chars rfl)
  · split at h
    · cases h
      exact .idle (.inr (.inl rfl)) (.of_chars rfl) (.of_chars rfl)
    · split at h
      · cases h
        exact sameCommitRetry_sound
      · split at h
        · cases h
          exact .idle (.inl rfl) (.of_chars rfl) (.of_chars rfl)
        · cases h

lemma routeRepair_sound : (routeRepair failure context).Sound context := by
  unfold routeRepair
  split
  · exact .idle (.inl rfl) (.of_chars rfl) (.of_chars rfl)
  · rename_i budget
    split
    · refine .idle (.inl rfl) (.of_chars rfl) ?_
      simp only [String.append_assoc]
      exact .append (.of_chars rfl)
    · exact .repair (.inl rfl) budget (.append (.of_chars rfl)) selfDebug_nonEmpty

/-- Every route is sound. -/
lemma route_sound {render : Rendering} : (route render failure context sameCount).Sound context := by
  unfold route
  cases chosen : (routeIntegrity failure context sameCount).or (routeBudget context) |>.or
      (routeControlPlane failure) |>.or (routeNoOp failure context sameCount) |>.or
      (routeOwnerRetry failure context sameCount) |>.or
      (routeRepeated failure context sameCount) |>.or (routeRuntime render failure context) with
  | none => exact routeRepair_sound
  | some route =>
    simp only [Option.or_eq_some_iff] at chosen
    rcases chosen with early | ⟨_, runtime⟩
    · rcases early with early | ⟨_, repeated⟩
      · rcases early with early | ⟨_, owner⟩
        · rcases early with early | ⟨_, noOp⟩
          · rcases early with early | ⟨_, control⟩
            · rcases early with integrity | ⟨_, budget⟩
              · exact routeIntegrity_sound integrity
              · exact routeBudget_sound budget
            · exact routeControlPlane_sound control
          · exact routeNoOp_sound noOp
        · exact routeOwnerRetry_sound owner
      · exact routeRepeated_sound repeated
    · exact routeRuntime_sound runtime

end Sound

/-! ### The decision -/

/-- A lesson with two tags that cites nothing yet. -/
lemma LessonFields.Valid.plain {category tag tag' summary applicability avoidWhen} {confidence : ℚ}
    (first : NonEmpty tag) (second : NonEmpty tag') (summaryText : NonEmpty summary)
    (applicabilityText : NonEmpty applicability) (low : 0 ≤ confidence) (high : confidence ≤ 1) :
    LessonFields.Valid
      { origin := .operational, category, tags := [tag, tag'], summary, applicability, avoidWhen
        confidence, sourceEventIds := [], sourceCommitShas := [] } := by
  refine ⟨?_, summaryText, applicabilityText, low, high, by simp⟩
  intro t mem
  rcases List.mem_pair.mp mem with rfl | rfl
  · exact first
  · exact second

/-- The lessons of the policy are schema-valid. -/
lemma operationalLesson_valid {failure repeated lesson}
    (h : operationalLesson failure repeated = some lesson) : lesson.Valid := by
  unfold operationalLesson at h
  dsimp only at h
  repeat' split at h
  all_goals cases h
  all_goals refine .plain (.of_chars rfl) (.of_chars rfl) (.of_chars rfl) (.of_chars rfl) ?_ ?_
  all_goals norm_num

lemma buildOperationalLesson_valid {failure} {context : RecoveryPolicyContext} {exhausted eventId lesson}
    (h : buildOperationalLesson failure context exhausted eventId = some lesson) : lesson.Valid := by
  unfold buildOperationalLesson at h
  split at h
  · cases h
  · obtain ⟨plain, found, rfl⟩ := Option.map_eq_some_iff.mp h
    obtain ⟨tags, summary, applicability, low, high, _⟩ := operationalLesson_valid found
    refine ⟨tags, summary, applicability, low, high, ?_⟩
    dsimp only
    split
    · intro sha mem
      cases mem
    · intro sha mem
      rw [List.mem_singleton.mp mem]
      exact context.validateCommit

/-- What the policy decides: the decision it constructs, field by field. -/
structure PolicyDecision (failureEventId : EventId) (context : RecoveryPolicyContext)
    (decision : RecoveryDecision) : Prop where
  experiment : decision.experimentId = context.experimentId
  failure : decision.failureEventId = failureEventId
  attempt : decision.repairAttempt =
    min (max 1 (context.repairAttemptsUsed + 1)) (max 1 context.maxRepairAttempts)
  budget : (decision.remainingRepairBudget : Int) =
    context.remainingRepairBudget - decision.action.consumesRepair.toNat
  retries : decision.action = .retrySameCommit →
    context.sameCommitRetriesUsed < maxSameCommitRetries

section Decision
variable {failureEventId : EventId} {failure : FailureClassification}
  {context : RecoveryPolicyContext} {chosen : Route}

/-- The budget that a sound route leaves. -/
lemma Route.Sound.left (sound : chosen.Sound context) (failureEventId : EventId)
    (failure : FailureClassification) :
    (recoveryFields failureEventId failure context chosen).remainingRepairBudget =
        context.remainingRepairBudget - chosen.action.consumesRepair.toNat ∧
      chosen.action.consumesRepair.toNat ≤ context.remainingRepairBudget := by
  constructor
  · simp only [recoveryFields]
    cases chosen.action <;> rfl
  · cases consumes : chosen.action.consumesRepair with
    | true => exact sound.budget consumes
    | false => exact Nat.zero_le _

/-- The fields of a sound route are schema-valid. -/
lemma Route.Sound.valid (sound : chosen.Sound context) :
    (recoveryFields failureEventId failure context chosen).Valid := by
  obtain ⟨left, enough⟩ := sound.left failureEventId failure
  refine ⟨?_, sound.reason, sound.instructions, ?_, sound.settings, sound.adjustment, ?_⟩
  · exact le_min (le_max_left _ _) (le_max_left _ _)
  · omega
  · intro lesson found
    exact buildOperationalLesson_valid found

/-- The policy always constructs its decision. -/
lemma decideRecovery_ok {render : Rendering} (cited : context.failureEventId = failureEventId) :
    ∃ decision, decideRecovery render failureEventId failure context = .ok decision ∧
      PolicyDecision failureEventId context decision := by
  have sound : (route render failure context (priorErrors failure context + 1)).Sound context :=
    route_sound
  obtain ⟨left, enough⟩ := sound.left failureEventId failure
  have limit : min maxRepairAttempts context.maxRepairAttempts = context.maxRepairAttempts :=
    min_eq_right context.validateLimits.1
  unfold decideRecovery RecoveryFields.decision
  rw [if_neg (fun other => other cited)]
  dsimp only
  rw [dif_pos sound.valid]
  refine ⟨_, rfl, rfl, rfl, ?_, ?_, sound.retries⟩
  · simp only [recoveryFields, limit]
  · dsimp only
    rw [left, Int.toNat_of_nonneg (by omega)]
    rfl

end Decision

end TacoRank
