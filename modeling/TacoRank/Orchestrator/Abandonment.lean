import TacoRank.Orchestrator.AdapterFailures
import TacoRank.Orchestrator.ExperimentLane

/-!
# Abandoned experiments

`_abandon_experiment` means to close an experiment with a terminal decision. The decision cites no
evaluation, which the state machine accepts for a verified smoke output only, and where an experiment
is abandoned its output has not been verified. So the decision is rejected in every run, and the
rejection stops a sequential run (`abandonment_rejected`).
-/

namespace TacoRank
open Lib Lib.Result

section Abandonment
variable {h : Harness} {fuel : Nat} {spec : ExperimentSpec} {proposal : EventId}
  {w w' : World Event Submission Answer} {attempt : Nat} {fidelity : Fidelity} {cause : EventId}
  {reasonCode : String}

/-- The abandoned experiment of a lane is open, and its ledger is valid. -/
lemma abandoned_done (fresh : h.FreshContexts)
    (world : LaneWorld spec.experimentId w)
    (abandons : h.developExperiment fuel spec proposal w =
      (.ok (.abandon attempt fidelity cause reasonCode), w')) :
    LaneLedger h spec.experimentId w'.log ∧
      Done spec.experimentId (.abandon attempt fidelity cause reasonCode) w'.log := by
  have ran : LaneSpec _ _ _ (h.developExperiment fuel spec proposal) _ _ := developExperiment_spec fresh
  have outcome := ran.spec w world.admits world.proposed
  rw [abandons] at outcome
  exact ⟨outcome.1.invariant, outcome.2⟩

theorem abandonment_rejected (fresh : h.FreshContexts)
    (world : LaneWorld spec.experimentId w)
    (abandons : h.developExperiment fuel spec proposal w =
      (.ok (.abandon attempt fidelity cause reasonCode), w')) :
    validateTransition w'.log
        (.experimentDecided (Harness.abandonDecision spec fidelity reasonCode)) ≠ .ok () ∧
      ∃ error, error.controlPlane = true ∧
        h.abandonExperiment spec attempt fidelity cause reasonCode w' =
          (.error (.raised error), w') := by
  obtain ⟨v, done⟩ := abandoned_done fresh world abandons
  refine ⟨fun legal => ?_, abandonExperiment_eq v done⟩
  cases done with
  | abandon _ _ _ unverified =>
    exact abandonDecision_rejected (e := (Submission.mk "" ⟨"", .decisionAbandoned, 0⟩
      (.experimentDecided (Harness.abandonDecision spec fidelity reasonCode)) none {} 0).event w'.log)
      v.valid unverified ⟨rfl, legal⟩ rfl

end Abandonment

section Runs
open Scenario

lemma abandon_adjustments : ([] : List (String × RuntimeValue)).length =
    if RecoveryAction.abandon = .adjustApprovedRuntimeSetting then 1 else 0 := rfl

/-- The output gate rejects the output, and the recovery manager abandons the experiment. -/
def outputRejected : List Answer :=
  managerFails.take 2 ++
  [ succeeded 1,
    .output { experimentId := "", attempt := 1, predictionArtifact := prediction 1, accepted := false },
    .recovery
      { action := .abandon, reasonCode := "ABANDON", validateActionAdjustment := abandon_adjustments } ]

/-- The lane of the experiment up to its abandonment. -/
def abandonedLane : Except (Halt RouterError) Harness.Exit × World Event Submission Answer :=
  scenarioHarness.developExperiment 3 (spec "exp") 5 (scenarioWorld outputRejected)

lemma abandonedLane_eq : scenarioHarness.developExperiment 3 (spec "exp") 5
    (scenarioWorld outputRejected) =
      (.ok (.abandon 1 .full 5 "STAGE_ABANDONED"), abandonedLane.2) := by
  have ends : abandonedLane.1 = .ok (.abandon 1 .full 5 "STAGE_ABANDONED") := by decide +kernel
  have paired : ∀ {α β : Type} {p : α × β} {a : α}, p.1 = a → p = (a, p.2) := by
    rintro α β p a rfl
    rfl
  exact paired ends

theorem abandonment_rejected_output :
    validateTransition abandonedLane.2.log (.experimentDecided
        (Harness.abandonDecision (spec "exp") .full "STAGE_ABANDONED")) ≠ .ok () ∧
      ∃ error, error.controlPlane = true ∧
        scenarioHarness.abandonExperiment (spec "exp") 1 .full 5 "STAGE_ABANDONED" abandonedLane.2 =
          (.error (.raised error), abandonedLane.2) :=
  abandonment_rejected scenarioHarness_fresh (scenarioWorld_lane outputRejected)
    abandonedLane_eq

/-- The ledger of the whole run. -/
def abandonedLedger : List Event :=
  (scenarioHarness.runOneExperiment 3 (spec "exp") 5 (scenarioWorld outputRejected)).2.log

theorem abandonment_fails_run :
    validateTransition abandonedLane.2.log (.experimentDecided
        (Harness.abandonDecision (spec "exp") .full "STAGE_ABANDONED")) =
        .error (.transitionError "decision requires evaluation") ∧
      ValidLedger abandonedLedger ∧ statusOf abandonedLedger = some .failed ∧
      (abandonedLedger.getLast?.map fun e => e.payload) =
        some (.runStopped "RECOVERY_CONTROL_PLANE_FAILURE"
          "The recovery control plane failed; the run was stopped fail-closed.") := by
  have rejected : validateTransition abandonedLane.2.log (.experimentDecided
      (Harness.abandonDecision (spec "exp") .full "STAGE_ABANDONED")) =
      .error (.transitionError "decision requires evaluation") := by
    decide +kernel
  have valid : ValidLedger abandonedLedger := .of_check (by decide +kernel)
  exact ⟨rejected, valid, by decide +kernel, by decide +kernel⟩

end Runs
end TacoRank
