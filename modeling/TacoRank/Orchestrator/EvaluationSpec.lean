import TacoRank.Orchestrator.DecisionSpec

/-!
# Specification of evaluations

The evaluation of a verified output: the call of the evaluator and its retry, the recovery of a
verified no-op, and the decision with its retry. The event of an evaluation is new, because the
attempt has not been evaluated, and acknowledging it once more records nothing.
-/

namespace TacoRank
open Lib Lib.Result

/-- An event is the newest output check or recovery decision. -/
def Answering (e : Event) (t : List Event) : Prop :=
  newest (ofTypes [.outputChecked, .recoveryDecided]) t = some e

/-- The newest request of a round has been evaluated. -/
structure EvaluatedIn (h : Harness) (x : String) (round : Harness.Round)
    (evaluation : EvaluationResult) (t : List Event) : Prop where
  running : Running round 6 t
  evaluated : Evaluated evaluation t
  recorded : ∃ e ∈ t, Records h ⟨x, .evaluation round.fidelity, round.request.attempt⟩
    (.evaluationCompleted evaluation) e
  owner : evaluation.experimentId = x
  fidelity : evaluation.fidelity = round.fidelity
  expects : evaluation.trust.verdict ≠ .noOp → Expects x .evaluation t

section Evaluation
variable {h : Harness} {x : String} {fuel : Nat} {spec : ExperimentSpec} {proposal : EventId}
  {round : Harness.Round} {k : Nat} {t0 t : List Event} {evaluation : EvaluationResult}
  {evaluationEvent : Event}

/-! ### Decisions -/

lemma FailedIn.decides {failure : Event} (failed : FailedIn round 6 .evaluation t0 failure t)
    (decides : DecidesOn x round evaluation evaluationEvent t0) :
    DecidesOn x round evaluation evaluationEvent t := by
  obtain ⟨result, payload, _⟩ := failed.payload
  refine ⟨failed.running, ?_, ?_, decides.payload, decides.attempt, decides.fidelity⟩
  · rcases failed.shape with rfl | ⟨rfl, _⟩
    · obtain ⟨e, found, evaluated⟩ := decides.evaluated
      refine ⟨e, ?_, evaluated⟩
      rw [newest_other (by simp [payload, ofTypes, EventPayload.type])]
      exact found
    · exact decides.evaluated
  · rcases failed.shape with rfl | ⟨rfl, _⟩
    · exact List.mem_append_left _ decides.recorded
    · exact decides.recorded

lemma AnsweredIn.running {failure : Event} {r : Harness.Recovery}
    (answered : AnsweredIn x round k failure r t0 t)
    (stays : r.decision.action.isCodeRecovery = false) : Running round k t :=
  ⟨answered.inRound, answered.sealed, answered.answered.base, answered.answered.calm stays⟩

lemma AnsweredIn.decides {failure : Event} {r : Harness.Recovery}
    (answered : AnsweredIn x round 6 failure r t0 t)
    (decides : DecidesOn x round evaluation evaluationEvent t0)
    (stays : r.decision.action.isCodeRecovery = false) :
    DecidesOn x round evaluation evaluationEvent t := by
  refine ⟨answered.running stays, answered.kept _ (.evaluated evaluation) decides.evaluated,
    answered.kept (evaluationEvent ∈ ·) ?_ decides.recorded, decides.payload, decides.attempt,
    decides.fidelity⟩
  exact fun t e _ mem => List.mem_append_left _ mem

/-- The failure of a decision. -/
lemma decisionFailed_spec {error : RouterError} (fresh : h.FreshContexts) (runs : round.Runs spec.experimentId)
    (decides : DecidesOn spec.experimentId round evaluation evaluationEvent t0)
    (owner : evaluation.experimentId = spec.experimentId)
    (verdict : evaluation.trust.verdict ≠ .noOp) (expects : Expects spec.experimentId .evaluation t0) :
    LaneSpec h spec.experimentId (On spec.experimentId (· = t0))
      (h.decisionFailed spec proposal round evaluation evaluationEvent error)
      (GoesOn spec.experimentId) (Left h spec.experimentId Signals) := by
  refine (roundFailure_spec runs decides.running (le_refl 6) (by decide)).bind fun failure => ?_
  refine fix_trace fun t1 failed => ?_
  have decides1 := failed.decides decides
  refine (failed.recover_spec fresh (le_refl 6) (by decide)).bind fun r => ?_
  refine fix_trace fun t2 answered => ?_
  split
  · rename_i retry
    have stays : r.decision.action.isCodeRecovery = false := by rw [retry]; rfl
    have decides2 := answered.decides decides1 stays
    refine catching_spec fresh (decider_spec Steady.on) (answered.expects failed rfl expects retry)
      answered.recorded (fun _ => rfl) ?_ ?_
    · intro decision
      refine Meets.assuming fun same => ?_
      exact decided_spec decides2 runs (same.trans owner)
    · intro retryError
      refine (roundFailure_spec runs decides2.running (le_refl 6) (by decide)).bind fun failure' => ?_
      refine fix_trace fun t3 failed' => ?_
      refine (failed'.recover_spec fresh (le_refl 6) (by decide)).bind fun r' => ?_
      refine Meets.ret fun es _ answered' => ?_
      have base := answered'.answered.base
      exact .undecided base.undecided base.uncontained
  · exact resume_spec runs (le_refl 6) answered (by simp [*, RecoveryAction.isCodeRecovery])
  · refine (repairOnce_spec (P := fun t => InRound round 6 t ∧ Evaluated evaluation t) fresh
      runs ((InRound.kept (le_refl 6)).and (.evaluated evaluation)) (fun _ hp => hp.1) ?_ ?_).pre ?_
    · exact fun action t hp _ => hp.2.notNoOp verdict
    · rintro exit (rfl | rfl) es base _ _
      · exact .undecided base.undecided base.uncontained
      · exact .undecided base.undecided base.uncontained
    · rintro es _ rfl
      exact ⟨answered.answered, answered.inRound,
        answered.kept _ (.evaluated evaluation) decides1.evaluated⟩

/-- The recovery of a verified no-op. -/
lemma noOpRecovery_spec (fresh : h.FreshContexts)
    (runs : round.Runs spec.experimentId)
    (decides : DecidesOn spec.experimentId round evaluation evaluationEvent t0)
    (verdict : evaluation.trust.verdict = .noOp) :
    LaneSpec h spec.experimentId (On spec.experimentId (· = t0))
      (h.noOpRecovery fuel spec proposal round evaluationEvent) (GoesOn spec.experimentId)
      (Left h spec.experimentId Signals) := by
  have type : evaluationEvent.payload.type ≠ .executionStarted := by
    simp [decides.payload, EventPayload.type]
  have stage : evaluationEvent.payload.failureStage ≠ some .coding := by
    rw [decides.payload]
    exact (Option.some_ne_none _).symm
  refine (answerInRound_spec fresh decides.running (le_refl 6) decides.recorded
    (by simp [decides.payload, EventPayload.place]) decides.attempt type stage).bind fun r => ?_
  refine fix_trace fun t1 answered => ?_
  refine Meets.catching (Q := fun outcome => On spec.experimentId
    (Repaired (fun t => InRound round 6 t ∧ Evaluated evaluation t) outcome))
    (R := Left h spec.experimentId fun _ => NoOp) ?_ ?_ ?_ ?_
  · refine (repairLoop_spec fresh ((InRound.kept (le_refl 6)).and (.evaluated evaluation))
      fun action t hp => hp.2.noOp verdict).pre ?_
    rintro es _ rfl
    exact ⟨answered.answered, answered.inRound,
      answered.kept _ (.evaluated evaluation) decides.evaluated⟩
  · intro outcome
    cases outcome with
    | accepted checked =>
      refine Meets.ret fun es _ repaired => ?_
      obtain ⟨sealed, licensed⟩ := repaired.accepted checked rfl
      exact repaired.kept.1.repaired (le_refl 6) runs sealed ⟨repaired.base, repaired.calm, licensed⟩
    | exhausted =>
      exact Meets.ret fun es _ repaired => .undecided repaired.base.undecided repaired.base.uncontained
    | gaveUp =>
      exact Meets.ret fun es _ repaired => .undecided repaired.base.undecided repaired.base.uncontained
  · intro error
    split
    · rename_i found
      cases found
    · rename_i found
      cases found
    · rename_i found
      cases found
    · rename_i found
      cases found
      refine Meets.ret fun es _ left => ?_
      cases left with
      | plain undecided uncontained => exact .undecided undecided uncontained
      | lesson controlPlane => cases controlPlane
      | broken undecided broken =>
        cases broken with
        | integrity _ _ _ controlPlane => cases controlPlane
        | signal split payload before signalled site =>
          exact .returned split payload (RouterError.repairWorkerUnavailable.inj signalled).1.symm
            before undecided site
    · rename_i other found
      cases found
      refine Meets.raise fun es _ left => ?_
      cases left with
      | plain undecided uncontained calm => exact .plain undecided uncontained calm
      | lesson controlPlane undecided rejected => exact .lesson controlPlane undecided rejected
      | broken undecided broken =>
        refine .broken undecided ?_
        cases broken with
        | integrity split payload before controlPlane integrity =>
          exact .integrity split payload before controlPlane integrity
        | signal split payload before signalled =>
          refine .signal split payload before signalled fun action => ?_
          rw [action] at signalled
          exact (other _ signalled).elim
  · rintro w _ _ _
    refine .raises ?_
    rintro reply error ⟨err, rfl, _⟩
    rfl


/-! ### Evaluations -/

/-- Where a computation without effects fails, the experiment is undecided. -/
lemma Running.compute {α : Type} {found : Except RouterError α}
    {K : RecoveryAction → List Event → Prop} (running : Running round k t0) :
    LaneSpec h x (On x (· = t0)) (Program.ofExcept found : Lane α)
      (fun _ => On x (· = t0)) (Left h x K) := by
  refine Meets.ofExcept (fun _ _ _ same _ => same) fun error es _ same _ => ?_
  exact .base (same ▸ running.base.toUnclosed) (.inr (same ▸ running.calm))

/-- An acknowledged evaluation is decided on, unless it is a no-op. -/
lemma evaluated_spec {request : EvaluationRequest} {cause : EventId} (fresh : h.FreshContexts) (runs : round.Runs spec.experimentId)
    (evaluatedIn : EvaluatedIn h spec.experimentId round evaluation t0) :
    LaneSpec h spec.experimentId (On spec.experimentId (· = t0))
      (h.evaluated fuel spec proposal round request evaluation cause)
      (GoesOn spec.experimentId) (Left h spec.experimentId Signals) := by
  have base := evaluatedIn.running.base
  refine evaluatedIn.running.compute.bind fun _ => ?_
  refine Meets.bind (Q := fun e => On spec.experimentId fun t =>
    DecidesOn spec.experimentId round evaluation e t0 ∧ t = t0) ?_
    fun e => Meets.assuming fun decides => ?_
  · -- the evaluation has been recorded
    refine append_own (congrArg some evaluatedIn.owner) ?_ ?_ ?_
    · rintro es e _ rfl _ _ _ fresh
      obtain ⟨e', mem, records⟩ := evaluatedIn.recorded
      exact absurd records (fresh e' mem)
    · rintro es e _ rfl mem records
      exact ⟨⟨evaluatedIn.running, evaluatedIn.evaluated, mem, records.payload, by rw [records.key],
        evaluatedIn.fidelity⟩, rfl⟩
    · rintro now es error v rfl _
      exact .base base.toUnclosed (.inr evaluatedIn.running.calm)
  refine Meets.bind (Q := fun _ => On spec.experimentId (· = t0)) ?_ fun exhausted => ?_
  · refine (stopIfRuntimeBudgetExhausted_spec (P := On spec.experimentId (· = t0)) Steady.on).weaken
      (fun _ _ hp => hp) (fun _ _ _ hp => hp) ?_
    rintro error es _ ⟨control, same⟩
    exact .base (same ▸ base.toUnclosed) (.inl control)
  split
  · refine Meets.ret fun es _ same => ?_
    exact .undecided (same ▸ base.undecided) (same ▸ base.uncontained)
  split
  · rename_i verdict
    exact noOpRecovery_spec fresh runs decides verdict
  · rename_i verdict
    refine evaluatedIn.running.compute.bind fun _ => ?_
    refine evaluatedIn.running.compute.bind fun _ => ?_
    refine evaluatedIn.running.compute.bind fun _ => ?_
    have expects := evaluatedIn.expects verdict
    refine catching_spec fresh (decider_spec Steady.on) expects decides.recorded (fun _ => rfl) ?_ ?_
    · intro decision
      refine Meets.assuming fun same => ?_
      exact decided_spec decides runs (same.trans evaluatedIn.owner)
    · intro error
      exact decisionFailed_spec fresh runs decides evaluatedIn.owner verdict expects

/-- One call of the evaluator. -/
lemma evaluate_spec {request : EvaluationRequest} {answered : Event}
    (running : Running round k t0) (last : k ≤ 5) (answers : Answering answered t0)
    (same : spec.experimentId = x)
    (owner : request.experimentId = x) (fidelity : request.fidelity = round.fidelity) :
    LaneSpec h x (On x (· = t0)) (h.evaluate spec round request answered.eventId)
      (fun evaluation => On x (EvaluatedIn h x round evaluation)) (fun _ => On x (· = t0)) := by
  refine Meets.bind (evaluator_spec Steady.on) fun evaluation => ?_
  refine Meets.assuming fun asked => ?_
  obtain ⟨asked, level⟩ := asked
  refine Meets.bind (Q := fun _ => On x (· = t0))
    (Meets.ofExcept (fun _ _ _ same _ => same) fun _ _ _ same _ => same) fun _ => ?_
  refine Meets.bind (Q := fun _ => On x (EvaluatedIn h x round evaluation)) ?_
    fun _ => Meets.ret fun _ _ hp => hp
  refine append_own (congrArg some (asked.trans owner)) ?_ ?_ ?_
  · rintro es e _ rfl ok records caused _
    rw [same] at records
    have type : e.payload.type ≠ .executionStarted := by simp [records.payload, EventPayload.type]
    refine ⟨?_, ⟨⟨?_, running.sealed.snoc ?_, running.base.plain ?_, .snoc ?_⟩, ?_, ⟨e, by simp, records⟩,
      asked.trans owner, level.trans fidelity, .evaluated records.payload (asked.trans owner)⟩⟩
    · unfold Rule
      rw [records.payload]
      exact ⟨⟨answered, answers, caused⟩, running.inRound.pending last⟩
    · refine running.inRound.snoc (by omega) (le_refl 6) ?_ type fun _ => by rw [records.key]
      simp [records.payload, EventPayload.place]
    · simp [records.payload, EventPayload.type]
    · simp [records.payload, EventPayload.type]
    · rw [records.payload]
      rfl
    · exact ⟨e, newest_own (by rw [records.payload]; rfl), records.payload⟩
  · rintro es e _ rfl mem records
    refine (running.inRound.fresh mem (by rw [records.key]) ?_ ?_).elim
    · simp [records.payload, EventPayload.type]
    · simp only [records.payload, EventPayload.place]
      omega
  · rintro now es error v rfl _
    rfl

/-- The request to the evaluator is one for the round. -/
lemma evaluationRequestFor_spec {output : OutputCheckResult} {outputEvent : Event}
    {baseline parent : List (String × ℚ)} :
    LaneSpec h x (On x (· = t0))
      (Harness.evaluationRequestFor h spec round output outputEvent baseline parent)
      (fun request es => (request.experimentId = spec.experimentId ∧
        request.fidelity = round.fidelity) ∧ On x (· = t0) es) (fun _ => On x (· = t0)) := by
  refine Meets.bind state_spec fun s => ?_
  refine Meets.bind events_spec fun ledger => ?_
  refine Meets.bind (Q := fun _ => On x (· = t0)) ?_ fun best => ?_
  · exact Meets.ofExcept (fun _ _ _ hp _ => hp.2.2) fun _ _ _ hp _ => hp.2.2
  · exact Meets.ret fun _ _ same => ⟨⟨rfl, rfl⟩, same⟩


/-- The failure of an evaluation. -/
lemma evaluationFailed_spec {request : Option EvaluationRequest} {outputEvent : Event}
    {error : RouterError} (fresh : h.FreshContexts)
    (runs : round.Runs spec.experimentId) (running : Running round 4 t0)
    (expects : Expects spec.experimentId .evaluation t0) (smoke : round.fidelity ≠ .smoke)
    (asked : ∀ q, request = some q →
      q.experimentId = spec.experimentId ∧ q.fidelity = round.fidelity) :
    LaneSpec h spec.experimentId (On spec.experimentId (· = t0))
      (h.evaluationFailed fuel spec proposal round request outputEvent error)
      (GoesOn spec.experimentId) (Left h spec.experimentId Signals) := by
  have abandons : ∀ {es : List Event} {exit : Harness.Exit} {cause cause' : EventId}
      {reason reason' : String},
      exit = .abandon round.request.attempt round.fidelity cause reason ∨
        exit = .abandon round.request.attempt round.fidelity cause' reason' →
      Base (trace spec.experimentId es) → Calm (trace spec.experimentId es) →
      Done spec.experimentId exit es := by
    rintro es exit cause cause' reason reason' (rfl | rfl) base calm
    · exact .abandon base.undecided base.uncontained calm fun none => absurd none smoke
    · exact .abandon base.undecided base.uncontained calm fun none => absurd none smoke
  have pending : ∀ action t, InRound round 5 t → Signals action t :=
    fun action t inRound _ => (inRound.pending (le_refl 5)).notNoOp
  refine (roundFailure_spec runs running (by decide) (by decide)).bind fun failure => ?_
  refine fix_trace fun t1 failed => ?_
  refine (failed.recover_spec fresh (by decide) (by decide)).bind fun r => ?_
  refine fix_trace fun t2 answered => ?_
  obtain ⟨pre, last⟩ := answered.last t0 (failed.new (by decide))
  dsimp only
  split
  · rename_i retry
    have stays : r.decision.action.isCodeRecovery = false := by rw [retry]; rfl
    have running2 := answered.running stays
    cases request with
    | none =>
      refine Meets.ret fun es _ same => ?_
      exact .undecided (same ▸ running2.base.undecided) (same ▸ running2.base.uncontained)
    | some request =>
      obtain ⟨owner, fidelity⟩ := asked request rfl
      have answers : Answering r.event t2 := by
        rw [last]
        exact newest_own (by rw [answered.answered.payload]; rfl)
      refine catching_spec fresh (evaluate_spec running2 (le_refl 5) answers rfl owner fidelity)
        (answered.expects failed rfl expects retry) answered.recorded (fun _ => rfl) ?_ ?_
      · intro evaluation
        exact fix_trace fun t3 evaluatedIn => evaluated_spec fresh runs evaluatedIn
      · intro retryError
        refine (roundFailure_spec runs running2 (by decide) (by decide)).bind fun failure' => ?_
        refine fix_trace fun t3 failed' => ?_
        refine (failed'.recover_spec fresh (by decide) (by decide)).bind fun r' => ?_
        refine fix_trace fun t4 answered' => ?_
        refine (repairOnce_spec fresh runs (InRound.kept (k := 5) (by decide))
          (fun t inRound => inRound.mono (by decide)) pending ?_).pre ?_
        · exact fun exit same es base calm _ => abandons same base calm
        · rintro es _ rfl
          exact ⟨answered'.answered, answered'.inRound⟩
  · exact resume_spec runs (by decide) answered (by simp [*, RecoveryAction.isCodeRecovery])
  · refine (repairOnce_spec fresh runs (InRound.kept (k := 5) (by decide))
      (fun t inRound => inRound.mono (by decide)) pending ?_).pre ?_
    · exact fun exit same es base calm _ => abandons same base calm
    · rintro es _ rfl
      exact ⟨answered.answered, answered.inRound⟩

/-- The evaluation of a verified output. -/
lemma evaluationStage_spec {output : OutputCheckResult} {outputEvent : Event}
    (fresh : h.FreshContexts) (runs : round.Runs spec.experimentId)
    (running : Running round 4 t0) (expects : Expects spec.experimentId .evaluation t0)
    (smoke : round.fidelity ≠ .smoke) (answers : Answering outputEvent t0) :
    LaneSpec h spec.experimentId (On spec.experimentId (· = t0))
      (h.evaluationStage fuel spec proposal round output outputEvent)
      (GoesOn spec.experimentId) (Left h spec.experimentId Signals) := by
  have computes : ∀ {α : Type} {f : List Event → Except RouterError α} {g : α → Lane Harness.Flow},
      (∀ a, LaneSpec h spec.experimentId (On spec.experimentId (· = t0)) (g a)
        (GoesOn spec.experimentId) (Left h spec.experimentId Signals)) →
      LaneSpec h spec.experimentId (On spec.experimentId (· = t0))
        (Harness.events >>= fun ledger => Program.ofExcept (f ledger) >>= g)
        (GoesOn spec.experimentId) (Left h spec.experimentId Signals) := by
    intro α f g rest
    refine Meets.bind (Q := fun _ => On spec.experimentId (· = t0))
      (events_spec.post fun _ _ _ hp => hp.2) fun ledger => ?_
    exact Meets.bind running.compute rest
  refine computes fun baseline => computes fun parent => ?_
  have recorded : outputEvent ∈ t0 := (newest_mem answers).1
  refine catching_spec fresh evaluationRequestFor_spec expects recorded (fun _ => rfl) ?_ ?_
  · intro request
    refine Meets.assuming fun asked => ?_
    refine catching_spec fresh (evaluate_spec running (by decide) answers rfl asked.1 asked.2) expects recorded
      (fun _ => rfl) ?_ ?_
    · intro evaluation
      exact fix_trace fun t1 evaluatedIn => evaluated_spec fresh runs evaluatedIn
    · intro error
      refine evaluationFailed_spec fresh runs running expects smoke ?_
      rintro q ⟨⟩
      exact asked
  · intro error
    exact evaluationFailed_spec fresh runs running expects smoke fun q none => by cases none

end Evaluation
end TacoRank
