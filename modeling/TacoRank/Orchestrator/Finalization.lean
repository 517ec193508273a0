import TacoRank.Orchestrator.BestProvenance
import TacoRank.Orchestrator.ConvergenceCounters
import TacoRank.Orchestrator.FinalSelection
import TacoRank.Orchestrator.NodeTrace
import TacoRank.Orchestrator.PostStop

/-!
# Finalization plans

Port of `candidate_finalization_plan` in `orchestrator/finalize.py`. The plan looks up the receipt, the
evaluation and the last attempt of the best experiment one by one, and the state machine compares the
request that it leads to with the last gate check. The two meet exactly when the last gate check accepted
the best commit (`finalization_sound_iff`); `supersededRun` has a later check of another commit.
-/

namespace TacoRank
open Lib Lib.Result

/-- `FinalizationError`. -/
structure FinalizationError where
  message : String
deriving DecidableEq, Repr

/-- `CandidateFinalizationPlan`. -/
structure CandidateFinalizationPlan where
  experimentId : String
  commitSha : String
  patchReceiptId : String
  seed : Int
  bestPrimaryScore : Option ℚ
  nextAttempt : Nat
deriving DecidableEq, Repr

/-- What is found, or the error of `candidate_finalization_plan`. -/
def foundOr {α : Type} (found : Option α) (message : String) : Except FinalizationError α :=
  match found with
  | some a => .ok a
  | none => .error ⟨message⟩

lemma foundOr_ok {α : Type} {found : Option α} {message : String} {a : α} :
    foundOr found message = .ok a ↔ found = some a := by
  cases found <;> simp [foundOr]

/-- `not state.best_experiment_id or not state.best_commit_sha`, with the two ids. -/
def RunState.selected (state : RunState) : Option (String × String) :=
  match state.bestExperimentId, state.bestCommitSha with
  | some experimentId, some commitSha =>
    if experimentId ≠ "" ∧ commitSha ≠ "" then some (experimentId, commitSha) else none
  | _, _ => none

lemma selected_inv {state : RunState} {selected : String × String} (h : state.selected = some selected) :
    state.bestExperimentId = some selected.1 ∧ state.bestCommitSha = some selected.2 := by
  unfold RunState.selected at h
  split at h
  · split at h
    · cases h
      exact ⟨‹_›, ‹_›⟩
    · cases h
  · cases h

/-- The check that `receipt` looks for. -/
def receiptOf (experimentId commitSha : String) (event : Event) : Option PatchCheckResult :=
  match event.payload with
  | .patchChecked result =>
    if result.experimentId = experimentId ∧ result.patchCommitSha = commitSha ∧ result.accepted = true then
      some result
    else
      none
  | _ => none

/-- The result that `evaluation` looks for. -/
def bestEvaluationOf (experimentId : String) (best : Option ℚ) (event : Event) : Option EvaluationResult :=
  match event.payload with
  | .evaluationCompleted result =>
    if result.experimentId = experimentId ∧ result.fidelity = .full ∧ result.population = .publicValidation ∧
        result.trust.verdict = .accepted ∧ some result.metricSet.primaryScore = best then
      some result
    else
      none
  | _ => none

/-- `attempts`. -/
def attemptsOf (experimentId : String) (events : List Event) : List Nat :=
  events.filterMap fun event => match event.payload with
    | .executionStarted request => if request.experimentId = experimentId then some request.attempt else none
    | _ => none

/-- `candidate_finalization_plan`. -/
def candidateFinalizationPlan (events : List Event) (state : RunState) :
    Except FinalizationError CandidateFinalizationPlan := do
  ensure (state.status = .stopped) ⟨"finalization requires a stopped run"⟩
  let selected ← foundOr state.selected "stopped run has no verified best"
  ensure (selected.1 ≠ "baseline") ⟨"baseline finalization uses protected baseline evidence"⟩
  let receiptId ← foundOr
    ((Log.lastSome (receiptOf selected.1 selected.2) events).bind fun receipt => receipt.receiptId)
    "selected candidate has no exact accepted Gate A receipt"
  let evaluation ← foundOr (Log.lastSome (bestEvaluationOf selected.1 state.bestPrimaryScore) events)
    "selected candidate has no trusted best-score evaluation"
  return {
    experimentId := selected.1
    commitSha := selected.2
    patchReceiptId := receiptId
    seed := evaluation.seed
    bestPrimaryScore := state.bestPrimaryScore
    nextAttempt := (attemptsOf selected.1 events).max?.getD 0 + 1 }

/-- The request of `_run_final_execution`. -/
def CandidateFinalizationPlan.request (plan : CandidateFinalizationPlan) (config : RunConfig) (attempt : Nat)
    (commandId : String) : RunRequest where
  experimentId := plan.experimentId
  attempt
  fidelity := .full
  commandId
  patchCommitSha := plan.commitSha
  patchReceiptId := plan.patchReceiptId
  seed := plan.seed
  dataManifestSha256 := config.dataManifestSha256
  timeoutSeconds := (config.timeoutProfiles.lookup "standard").getD 600
  memoryLimitMb := 10240
  gpuMemoryLimitMb := 0
  networkEnabled := false

/-! ### The last gate check -/

section Gates
variable {es : List Event} {e : Event} {x : String}

/-- The last request of an experiment runs under its last gate check. -/
def LastGated (es : List Event) (x : String) (q : RunRequest) : Prop :=
  ∃ c check s, lastForExperiment .patchChecked es x = some (c, check) ∧
    lastForExperiment .executionStarted es x = some (s, q) ∧ Gated check q

lemma LastGated.snoc {q : RunRequest} (h : LastGated es x q)
    (checked : EventKind.patchChecked.ofExperiment x e = none)
    (started : EventKind.executionStarted.ofExperiment x e = none) : LastGated (es ++ [e]) x q := by
  obtain ⟨c, check, s, last, request, gated⟩ := h
  refine ⟨c, check, s, ?_, ?_, gated⟩
  · rw [lastForExperiment_snoc, checked, Option.none_or, last]
  · rw [lastForExperiment_snoc, started, Option.none_or, request]

/-- An accepted request runs under the last gate check. -/
lemma LastGated.started {s : RunState} {n : ExperimentNode} {q : RunRequest}
    (payload : e.payload = .executionStarted q) (owner : q.experimentId = x)
    (legal : ExecutionLegal es s q n) : LastGated (es ++ [e]) x q := by
  obtain ⟨⟨c, check⟩, last, gated⟩ := legal.receipt
  refine ⟨c, check, e, ?_, ?_, gated⟩
  · rw [lastForExperiment_snoc, EventKind.ofExperiment_none (by rw [payload]; rfl), Option.none_or, ← owner, last]
  · rw [lastForExperiment_snoc, EventKind.ofExperiment_self (by rw [payload]; rfl) owner]
    rfl

/-- A request that is worked on, or whose candidate was accepted, runs under the last gate check; an
accepted best was scored by the last evaluation. -/
structure GatedNode (es : List Event) (x : String) (n : ExperimentNode) : Prop where
  running : InFlight (standing es x n) → ∃ q, LastGated es x q
  accepted : n.status = .accepted → ∃ q, LastGated es x q
  scored : n.status = .accepted → n.bestEligible = true → ∃ result, newestEvaluation es x = some result ∧
    result.fidelity = .full ∧ result.population = .publicValidation ∧ result.trust.verdict = .accepted

section Node
variable {n m : ExperimentNode}

/-- A node at rest satisfies the invariant. -/
lemma GatedNode.rest (idle : AtRest n.status) : GatedNode es x n := by
  have no {st : ExperimentStatus} (status : n.status = st) (busy : ¬ AtRest st) : False := busy (status ▸ idle)
  refine ⟨fun inFlight => ?_, fun accepted => (no accepted id).elim, fun accepted => (no accepted id).elim⟩
  rw [standing_of_status fun recovering => no recovering id] at inFlight
  cases status : n.status <;> rw [status] at inFlight idle <;> first
    | exact absurd idle id
    | exact absurd inFlight id

/-- A node that is not accepted satisfies the invariant when its last request does. -/
lemma GatedNode.working (status : n.status ≠ .accepted)
    (gated : InFlight (standing es x n) → ∃ q, LastGated es x q) : GatedNode es x n :=
  ⟨gated, fun accepted => absurd accepted status, fun accepted => absurd accepted status⟩

/-- A node whose failure was no adapter failure satisfies the invariant. -/
lemma GatedNode.failed (status : n.status = .recovering) (failure : e.payload.recoverableFailure = some x)
    (stage : e.payload.failureStage = none) : GatedNode (es ++ [e]) x n := by
  refine .working (by simp [status]) fun inFlight => ?_
  rw [standing_failed status failure, stage] at inFlight
  exact absurd inFlight id

/-- Where no request is worked on, none is in flight. -/
lemma InFlight.idle {P : Prop} (st : ExperimentStatus)
    (idle : st ∉ [.running, .outputReady, .outputVerified, .evaluated]) (inFlight : InFlight st) : P := by
  cases st <;> first | exact absurd inFlight id | simp at idle

/-- The request stays in flight over an event that neither starts a run nor checks a patch. -/
lemma GatedNode.carry (h : GatedNode es x n)
    (checked : EventKind.patchChecked.ofExperiment x e = none)
    (started : EventKind.executionStarted.ofExperiment x e = none) (inFlight : InFlight (standing es x n)) :
    ∃ q, LastGated (es ++ [e]) x q := by
  obtain ⟨q, gated⟩ := h.running inFlight
  exact ⟨q, gated.snoc checked started⟩

lemma GatedNode.decided {d : ExperimentDecision} (h : GatedNode es x n)
    (payload : e.payload = .experimentDecided d) (owner : d.experimentId = x)
    (evidence : DecisionEvidence es n d) : GatedNode (es ++ [e]) x (n.decided e.eventId d) := by
  have checked : EventKind.patchChecked.ofExperiment x e = none :=
    EventKind.ofExperiment_none (by rw [payload]; rfl)
  have started : EventKind.executionStarted.ofExperiment x e = none :=
    EventKind.ofExperiment_none (by rw [payload]; rfl)
  have inFlight : InFlight (standing es x n) := by
    cases evidence with
    | smoke _ status =>
      rw [standing_of_status (by simp [status]), status]
      trivial
    | evaluated _ status =>
      rw [standing_of_status (by simp [status]), status]
      trivial
  cases decision : d.decision with
  | accept =>
    have status : (n.decided e.eventId d).status = .accepted := by
      rw [ExperimentNode.decided_status, decision]
      rfl
    refine ⟨fun running => ?_, fun _ => h.carry checked started inFlight, fun _ eligible => ?_⟩
    · rw [standing_of_status (by rw [status]; simp), status] at running
      exact absurd running id
    · have best : d.bestEligible = true := by
        simpa [ExperimentNode.decided, decision] using eligible
      have full : d.fidelityCompleted = .full := d.validatePromotion.2 best
      cases evidence with
      | smoke fidelity => simp [full] at fidelity
      | @evaluated found _ _ last _ _ legal =>
        have eligible := legal best
        refine ⟨found.2, ?_, eligible.fidelity, eligible.population, eligible.verdict⟩
        rw [newestEvaluation_snoc (EventKind.ofExperiment_none (by rw [payload]; rfl)), newestEvaluation, ← owner,
          last]
        rfl
  | _ => exact .rest (by simp [decision, ExperimentDecisionKind.status, AtRest])

/-- No recovery accepts a candidate. -/
lemma Reducer.recoveryStatus_ne_accepted (r : Reducer) (d : RecoveryDecision) :
    r.recoveryStatus d ≠ .accepted := by
  unfold recoveryStatus
  cases d.action with
  | retrySameCommit =>
    cases r.eventById d.failureEventId with
    | none => exact ExperimentStatus.noConfusion
    | some f =>
      dsimp only
      rw [Reducer.retryTarget_some]
      split
      · simp
      · simp
      · simp
      · split <;> simp
      · simp
  | _ => simp

/-- Every accepted event keeps the invariant. -/
lemma NodeStep.gatedNode {r : Reducer} {n n' : Option ExperimentNode} (step : NodeStep es r e x n n')
    (v : ValidLedger es) (hr : replay es = .ok r) (ok : Accepted es e)
    (h : ∀ m, n = some m → GatedNode es x m) : ∀ m, n' = some m → GatedNode (es ++ [e]) x m := by
  cases step with
  | frame other =>
    intro m found
    have before := h m found
    have checked : EventKind.patchChecked.ofExperiment x e = none := EventKind.ofExperiment_frame other
    have started : EventKind.executionStarted.ofExperiment x e = none := EventKind.ofExperiment_frame other
    have silent : e.payload.recoverableFailure ≠ some x := fun failure =>
      other (EventPayload.recoverableFailure_owned failure)
    refine ⟨fun inFlight => ?_, fun accepted => ?_, fun accepted eligible => ?_⟩
    · rw [standing_other silent] at inFlight
      exact before.carry checked started inFlight
    · obtain ⟨q, gated⟩ := before.accepted accepted
      exact ⟨q, gated.snoc checked started⟩
    · rw [newestEvaluation_snoc (EventKind.ofExperiment_frame other)]
      exact before.scored accepted eligible
  | proposed =>
    rintro _ ⟨⟩
    exact .rest trivial
  | patchCreated =>
    rintro _ ⟨⟩
    exact .rest trivial
  | @patchChecked c m payload owner =>
    rintro _ ⟨⟩
    cases accepted : c.accepted with
    | true => exact .rest (by simp [ExperimentNode.patchChecked, accepted, AtRest])
    | false =>
      exact .failed (by simp [ExperimentNode.patchChecked, accepted])
        (by simp [payload, EventPayload.recoverableFailure, owner, accepted])
        (by simp [payload, EventPayload.failureStage])
  | executionStarted payload owner legal =>
    rintro _ ⟨⟩
    exact .working (by simp [ExperimentNode.executionStarted]) fun _ => ⟨_, .started payload owner legal⟩
  | @executionFinished res m payload owner legal =>
    rintro _ ⟨⟩
    by_cases success : res.outcome = .success
    · refine .working (by simp [success]) fun _ => (h m rfl).carry ?_ ?_ ?_
      · exact EventKind.ofExperiment_none (by rw [payload]; rfl)
      · exact EventKind.ofExperiment_none (by rw [payload]; rfl)
      · rw [standing_of_status (by simp [legal.status]), legal.status]
        trivial
    · exact .failed (by simp [success])
        (by simp [payload, EventPayload.recoverableFailure, owner, success])
        (by simp [payload, EventPayload.failureStage])
  | @adapterFailed res m payload owner legal =>
    rintro _ ⟨⟩
    refine .working (by simp [ExperimentNode.adapterFailed]) ?_
    have checked : EventKind.patchChecked.ofExperiment x e = none :=
      EventKind.ofExperiment_none (by rw [payload]; rfl)
    have started : EventKind.executionStarted.ofExperiment x e = none :=
      EventKind.ofExperiment_none (by rw [payload]; rfl)
    exact standing_adapterFailed (P := fun st => InFlight st → ∃ q, LastGated (es ++ [e]) x q)
      InFlight.idle id payload owner legal ((h m rfl).carry checked started)
  | @recoveryDecided d m payload owner legal =>
    rintro _ ⟨⟩
    obtain ⟨f, latest, found⟩ := legal.failureEvent v hr ok
    rw [owner] at latest
    have checked : EventKind.patchChecked.ofExperiment x e = none :=
      EventKind.ofExperiment_none (by rw [payload]; rfl)
    have started : EventKind.executionStarted.ofExperiment x e = none :=
      EventKind.ofExperiment_none (by rw [payload]; rfl)
    refine .working ?_ ?_
    · rw [Reducer.recoveryNode_status]
      exact Reducer.recoveryStatus_ne_accepted _ d
    · exact standing_recovered (P := fun st => InFlight st → ∃ q, LastGated (es ++ [e]) x q)
        InFlight.idle id payload legal.status latest found ((h m rfl).carry checked started)
  | @outputChecked out m payload owner legal =>
    rintro _ ⟨⟩
    cases accepted : out.accepted with
    | true =>
      refine .working (by simp [ExperimentNode.outputChecked, accepted]) fun _ => (h m rfl).carry ?_ ?_ ?_
      · exact EventKind.ofExperiment_none (by rw [payload]; rfl)
      · exact EventKind.ofExperiment_none (by rw [payload]; rfl)
      · rw [standing_of_status (by simp [legal.status]), legal.status]
        trivial
    | false =>
      exact .failed (by simp [ExperimentNode.outputChecked, accepted])
        (by simp [payload, EventPayload.recoverableFailure, owner, accepted])
        (by simp [payload, EventPayload.failureStage])
  | @evaluationCompleted res q m payload owner legal =>
    rintro _ ⟨⟩
    by_cases noOp : res.trust.verdict = .noOp
    · exact .failed (by simp [ExperimentNode.evaluationCompleted, noOp])
        (by simp [payload, EventPayload.recoverableFailure, owner, noOp])
        (by simp [payload, EventPayload.failureStage])
    · refine .working (by simp [ExperimentNode.evaluationCompleted, noOp]) fun _ => (h m rfl).carry ?_ ?_ ?_
      · exact EventKind.ofExperiment_none (by rw [payload]; rfl)
      · exact EventKind.ofExperiment_none (by rw [payload]; rfl)
      · rw [standing_of_status (by simp [legal.status]), legal.status]
        trivial
  | experimentDecided payload owner evidence =>
    rintro _ ⟨⟩
    exact (h _ rfl).decided payload owner evidence

lemma ValidLedger.gatedNode {r : Reducer} (v : ValidLedger es) (hr : TacoRank.replay es = .ok r) :
    ∀ m, r.state.experiments.get? x = some m → GatedNode es x m := by
  refine v.run_induct (I := fun es r => ∀ m, r.state.experiments.get? x = some m → GatedNode es x m) ?_ ?_ hr
  · intro m found
    cases found
  · intro es e r r' v hr ok step ih
    exact (node_step hr ok step x).gatedNode v hr ok ih

end Node

end Gates

/-! ### The best of a ledger -/

section Best
variable {es : List Event} {e : Event} {r r' : Reducer} {b : BestUpdated}

/-- A score is that of a trusted public full evaluation of an experiment. -/
def ScoredBy (es : List Event) (x : String) (score : ℚ) : Prop :=
  ∃ f ∈ es, ∃ result, f.payload = .evaluationCompleted result ∧ result.experimentId = x ∧
    result.fidelity = .full ∧ result.population = .publicValidation ∧ result.trust.verdict = .accepted ∧
    result.metricSet.primaryScore = score

/-- The best of the projection, as the last update of the ledger left it. -/
structure Chosen (es : List Event) (r : Reducer) (b : BestUpdated) : Prop where
  recorded : ∃ e ∈ es, e.payload = .bestUpdated b
  best : r.state.best = (some b.experimentId, some b.commitSha, some b.primaryScore)
  gated : ∃ q, LastGated es b.experimentId q
  scored : ScoredBy es b.experimentId b.primaryScore
  candidate : b.experimentId ≠ "baseline"
  node : ∃ n, r.state.experiments.get? b.experimentId = some n ∧
    (Live r.state.status → n.status = .accepted)

lemma ScoredBy.snoc {x : String} {score : ℚ} (h : ScoredBy es x score) : ScoredBy (es ++ [e]) x score := by
  obtain ⟨f, mem, scored⟩ := h
  exact ⟨f, List.mem_append_left _ mem, scored⟩

/-- A best update is chosen. -/
lemma chosen_updated (v : ValidLedger es) (hr : replay es = .ok r) (ok : Accepted es e)
    (step : r.step e = .ok r') (payload : e.payload = .bestUpdated b) : Chosen (es ++ [e]) r' b := by
  have v' : ValidLedger (es ++ e :: []) := .snoc v ok
  obtain ⟨_, n, hr', node, _, legal⟩ := v'.best_inv payload
  cases hr.symm.trans hr'
  have gated := v.gatedNode hr n node
  obtain ⟨q, last⟩ := gated.accepted legal.status
  obtain ⟨result, newest, full, population, verdict⟩ := gated.scored legal.status legal.eligible
  obtain ⟨f, found⟩ : ∃ f, lastForExperiment .evaluationCompleted es b.experimentId = some (f, result) := by
    obtain ⟨found, last, rfl⟩ := Option.map_eq_some_iff.mp newest
    exact ⟨found.1, last⟩
  have mem : f ∈ es := lastForExperiment_mem found
  obtain ⟨evaluated, owner⟩ := lastForExperiment_payload found
  have score : result.metricSet.primaryScore = b.primaryScore := by
    have measured := (v.measured hr).present n node
    rw [newest] at measured
    obtain ⟨metricSet, metrics, _, score⟩ := legal.score
    have same := (Prod.mk.inj measured).1
    rw [metrics] at same
    cases same
    exact score
  have other : e.payload.experiment ≠ some b.experimentId := by simp [payload, EventPayload.experiment]
  refine ⟨⟨e, by simp, payload⟩, ?_, ⟨q, last.snoc (EventKind.ofExperiment_frame other)
    (EventKind.ofExperiment_frame other)⟩, .snoc ⟨f, mem, result, evaluated, owner, full, population, verdict,
    score⟩, ?_, ?_⟩
  · simp only [Reducer.step, Reducer.branch, payload, pure_eq_ok] at step
    subst step
    rfl
  · obtain ⟨a, c, rfl⟩ := List.append_of_mem mem
    obtain ⟨_, _, _, _, _, evaluation⟩ := v.evaluation_inv evaluated
    exact fun named => evaluation.notBaseline (Eq.trans owner named)
  · have kept := nodeOf_foreign v ok other
    have hr' : replay (es ++ [e]) = .ok r' := by
      rw [replay_snoc, hr]
      exact step
    rw [nodeOf_replay hr, nodeOf_replay hr', node] at kept
    exact ⟨n, kept, fun _ => legal.status⟩

/-- After a best update nothing but another one moves the best. -/
lemma Chosen.step (h : Chosen es r b) (v : ValidLedger es) (hr : replay es = .ok r) (ok : Accepted es e)
    (step : r.step e = .ok r') (other : e.payload.type ≠ .bestUpdated) : Chosen (es ++ [e]) r' b := by
  obtain ⟨n, node, settled⟩ := h.node
  have nodeStep := node_step hr ok step b.experimentId
  obtain ⟨n', after⟩ : ∃ n', r'.state.experiments.get? b.experimentId = n' := ⟨_, rfl⟩
  rw [node, after] at nodeStep
  have baseline : e.payload.type ≠ .baselineVerified := by
    intro baseline
    obtain ⟨_, branch⟩ := ok.branch hr (by simp [baseline])
    cases p : e.payload with
    | baselineVerified payload =>
      rw [p] at branch
      simp only [validateBranch, validateBaselineVerified, bind_eq_ok, require_ok] at branch
      obtain ⟨_, _, _, absent, _⟩ := branch
      have empty := ((v.incumbent hr).early absent).2.2 b.experimentId
      rw [node] at empty
      cases empty
    | _ =>
      rw [p] at baseline
      cases baseline
  refine ⟨?_, (best_frame step baseline other).trans h.best, ?_, h.scored.snoc, h.candidate, ?_⟩
  · obtain ⟨f, mem, recorded⟩ := h.recorded
    exact ⟨f, List.mem_append_left _ mem, recorded⟩
  · obtain ⟨q, gated⟩ := h.gated
    cases nodeStep with
    | frame silent =>
      exact ⟨q, gated.snoc (EventKind.ofExperiment_frame silent) (EventKind.ofExperiment_frame silent)⟩
    | executionStarted payload owner legal => exact ⟨_, .started payload owner legal⟩
    | patchChecked payload owner legal =>
      -- the candidate is accepted, and no patch is checked after a stop
      exfalso
      by_cases live : Live r.state.status
      · rw [legal.status] at settled
        cases settled live
      · rcases dead_type hr ok live with ⟨_, type⟩ | type <;> rw [payload] at type <;> cases type
    | patchCreated payload | executionFinished payload | adapterFailed payload | recoveryDecided payload
    | outputChecked payload | evaluationCompleted payload | experimentDecided payload =>
      exact ⟨q, gated.snoc (EventKind.ofExperiment_none (by rw [payload]; rfl))
        (EventKind.ofExperiment_none (by rw [payload]; rfl))⟩
  · by_cases live : Live r'.state.status
    · have before := live_back hr ok step live
      have running : r.state.status ≠ .stopped := by
        intro stopped
        rw [stopped] at before
        exact before
      have ended : n.status.terminal = true := by rw [settled before]; rfl
      obtain ⟨m, found, same⟩ := nodeStep.terminal running ended
      exact ⟨m, after.trans found, fun _ => same.trans (settled before)⟩
    · cases n' with
      | some m => exact ⟨m, after, fun alive => absurd alive live⟩
      | none => cases nodeStep

/-- The best of a ledger with a best update. -/
lemma ValidLedger.chosen (v : ValidLedger es) (hr : TacoRank.replay es = .ok r)
    (updated : ∃ e ∈ es, e.payload.type = .bestUpdated) : ∃ b, Chosen es r b := by
  refine v.run_induct (I := fun es r => (∃ e ∈ es, e.payload.type = .bestUpdated) → ∃ b, Chosen es r b)
    ?_ ?_ hr updated
  · rintro ⟨e, mem, _⟩
    cases mem
  · intro es e r r' v hr ok step ih updated
    by_cases here : e.payload.type = .bestUpdated
    · cases p : e.payload with
      | bestUpdated b => exact ⟨b, chosen_updated v hr ok step p⟩
      | _ =>
        rw [p] at here
        cases here
    · obtain ⟨f, mem, type⟩ := updated
      rcases List.mem_append.mp mem with old | new
      · obtain ⟨b, chosen⟩ := ih ⟨f, old, type⟩
        exact ⟨b, chosen.step v hr ok step here⟩
      · rw [List.mem_singleton.mp new] at type
        exact absurd type here

end Best

/-! ### Attempts -/

section Attempts
variable {es : List Event} {e : Event} {x : String}

/-- The attempt that an event of a run records for an experiment. -/
def EventPayload.runAttempt (x : String) : EventPayload → Option Nat
  | .executionStarted request => if request.experimentId = x then some request.attempt else none
  | .executionFinished result => if result.experimentId = x then some result.attempt else none
  | .outputChecked result => if result.experimentId = x then some result.attempt else none
  | .evaluationCompleted result => if result.experimentId = x then some result.attempt else none
  | _ => none

lemma attemptsOf_snoc : attemptsOf x (es ++ [e]) = attemptsOf x es ++ attemptsOf x [e] :=
  List.filterMap_append

lemma mem_attemptsOf {f : Event} {q : RunRequest} (mem : f ∈ es) (payload : f.payload = .executionStarted q)
    (owner : q.experimentId = x) : q.attempt ∈ attemptsOf x es := by
  refine List.mem_filterMap.mpr ⟨f, mem, ?_⟩
  rw [payload]
  exact if_pos owner

lemma last_mem_attemptsOf {f : Event} {q : RunRequest}
    (last : lastForExperiment .executionStarted es x = some (f, q)) : q.attempt ∈ attemptsOf x es := by
  obtain ⟨payload, owner⟩ := lastForExperiment_payload last
  exact mem_attemptsOf (lastForExperiment_mem last) payload owner

/-- The attempt of an event of another experiment is not read. -/
lemma runAttempt_frame {p : EventPayload} (other : p.experiment ≠ some x) : p.runAttempt x = none := by
  cases p <;> first | rfl | exact if_neg fun same => other (congrArg some same)

/-- A run records the attempts of its requests. -/
def RecordsAttempts (es : List Event) (x : String) : Prop :=
  ∀ e ∈ es, ∀ k, e.payload.runAttempt x = some k → k ∈ attemptsOf x es

lemma RecordsAttempts.snoc (h : RecordsAttempts es x)
    (last : ∀ k, e.payload.runAttempt x = some k → k ∈ attemptsOf x (es ++ [e])) :
    RecordsAttempts (es ++ [e]) x := by
  intro f mem k attempt
  rcases List.mem_append.mp mem with old | new
  · rw [attemptsOf_snoc]
    exact List.mem_append_left _ (h f old k attempt)
  · rw [List.mem_singleton.mp new] at attempt
    exact last k attempt

lemma NodeStep.recordsAttempts {r : Reducer} {n n' : Option ExperimentNode} (step : NodeStep es r e x n n')
    (h : RecordsAttempts es x) : RecordsAttempts (es ++ [e]) x := by
  refine h.snoc fun k attempt => ?_
  cases step with
  | frame other =>
    rw [runAttempt_frame other] at attempt
    cases attempt
  | executionStarted payload owner =>
    rw [payload] at attempt
    cases (if_pos owner).symm.trans attempt
    exact mem_attemptsOf (by simp) payload owner
  | executionFinished payload owner legal =>
    rw [payload] at attempt
    cases (if_pos owner).symm.trans attempt
    obtain ⟨⟨s, q⟩, last, answers⟩ := legal.request
    rw [owner] at last
    rw [attemptsOf_snoc, answers.1]
    exact List.mem_append_left _ (last_mem_attemptsOf last)
  | outputChecked payload owner legal =>
    rw [payload] at attempt
    cases (if_pos owner).symm.trans attempt
    obtain ⟨⟨f, res⟩, last, examined⟩ := legal.finished
    rw [owner] at last
    obtain ⟨finished, finisher⟩ := lastForExperiment_payload last
    rw [attemptsOf_snoc, ← examined.2.1]
    refine List.mem_append_left _ (h f (lastForExperiment_mem last) res.attempt ?_)
    rw [finished]
    exact if_pos finisher
  | evaluationCompleted payload owner legal =>
    rw [payload] at attempt
    cases (if_pos owner).symm.trans attempt
    obtain ⟨⟨s, q⟩, last, same⟩ := legal.request.started
    rw [owner] at last
    cases same
    rw [attemptsOf_snoc, ← legal.request.attempt]
    exact List.mem_append_left _ (last_mem_attemptsOf last)
  | proposed payload | patchCreated payload | patchChecked payload | adapterFailed payload
  | recoveryDecided payload | experimentDecided payload =>
    rw [payload] at attempt
    cases attempt

lemma ValidLedger.recordsAttempts (v : ValidLedger es) : RecordsAttempts es x := by
  obtain ⟨r, hr⟩ := v.replay
  refine v.run_induct (I := fun es _ => RecordsAttempts es x) ?_ ?_ hr
  · intro e mem
    cases mem
  · intro es e r r' _ hr ok step ih
    exact (node_step hr ok step x).recordsAttempts ih

end Attempts

/-! ### The plan -/

section Plan
variable {config : RunConfig} {es : List Event} {s : RunState} {r : Reducer} {b : BestUpdated}

/-- A plan is fresh, names the best and a receipt of the best commit, and leads to a clean reproduction that
the state machine accepts. -/
structure SoundPlan (config : RunConfig) (es : List Event) (s : RunState) (plan : CandidateFinalizationPlan) :
    Prop where
  fresh : ∀ e ∈ es, ∀ k, e.payload.runAttempt plan.experimentId = some k → k < plan.nextAttempt
  experiment : s.bestExperimentId = some plan.experimentId
  commit : s.bestCommitSha = some plan.commitSha
  bound : ∃ e ∈ es, ∃ check, e.payload = .patchChecked check ∧ check.experimentId = plan.experimentId ∧
    check.patchCommitSha = plan.commitSha ∧ check.accepted = true ∧ check.receiptId = some plan.patchReceiptId
  accepted : validateTransition es
    (.executionStarted (plan.request config plan.nextAttempt "clean_reproduce")) = .ok ()

/-- There is a sound plan. -/
def FinalizationSound (config : RunConfig) (es : List Event) (s : RunState) : Prop :=
  ∃ plan, candidateFinalizationPlan es s = .ok plan ∧ SoundPlan config es s plan

/-- The last gate check of the best experiment accepted the best commit. -/
def GateCurrent (es : List Event) (s : RunState) : Prop :=
  ∃ x event check, s.bestExperimentId = some x ∧
    lastForExperiment .patchChecked es x = some (event, check) ∧ check.accepted = true ∧
    s.bestCommitSha = some check.patchCommitSha

/-- The last request of the best experiment was for the best commit. -/
def RanBest (es : List Event) (s : RunState) : Prop :=
  ∃ x event q, s.bestExperimentId = some x ∧ lastForExperiment .executionStarted es x = some (event, q) ∧
    s.bestCommitSha = some q.patchCommitSha

/-- The state machine accepts a clean reproduction of the best commit under the last gate check. -/
lemma cleanReproduction_accepted {q : RunRequest} {n : ExperimentNode} {c : Event} {check : PatchCheckResult}
    (hr : replay es = .ok r) (stopped : r.state.status = .stopped)
    (node : r.state.experiments.get? q.experimentId = some n)
    (experiment : r.state.bestExperimentId = some q.experimentId)
    (commit : r.state.bestCommitSha = some q.patchCommitSha) (full : q.fidelity = .full)
    (command : q.commandId = "clean_reproduce")
    (last : lastForExperiment .patchChecked es q.experimentId = some (c, check)) (gated : Gated check q) :
    validateTransition es (.executionStarted q) = .ok () := by
  have site : validatePostStopExecution es (r.state.aggregate es) q = .ok () := by
    unfold validatePostStopExecution
    refine bind_eq_ok.mpr ⟨n, requireSome_ok.mpr ⟨?_, ?_, ?_, full, ?_⟩, ?_⟩
    · rw [RunState.aggregate_experiments, node]
    · rw [RunState.aggregate_bestExperimentId, experiment]
    · rw [RunState.aggregate_bestCommitSha, commit]
    · simp [command]
    · rw [command, if_neg (by decide), if_neg (by decide)]
      rfl
  have branch : validateExecutionStarted es (r.state.aggregate es) q = .ok () := by
    unfold validateExecutionStarted validateExecutionSite
    rw [if_pos (by simpa using stopped)]
    refine check_bind_eq_ok.mpr ⟨site, bind_eq_ok.mpr ⟨(c, check), requireSome_ok.mpr ⟨last, gated.1⟩, ?_⟩⟩
    exact require_ok.mpr gated.2
  have late : Accepted es (nextEvent es (.executionStarted q)) := accepted_late hr rfl stopped rfl branch
  exact late.2

/-- The receipt of the plan is that of the last gate check, if that is one of the best commit. -/
lemma receipt_last {x commit : String} {c : Event} {check : PatchCheckResult}
    (last : lastForExperiment .patchChecked es x = some (c, check)) (same : check.patchCommitSha = commit)
    (accepted : check.accepted = true) : Log.lastSome (receiptOf x commit) es = some check := by
  obtain ⟨pre, post, rfl, read, owner, silent⟩ := lastForExperiment_split last
  have payload : c.payload = .patchChecked check := (lastForExperiment_payload last).1
  refine Log.lastSome_at ?_ fun e mem => ?_
  · unfold receiptOf
    rw [payload]
    exact if_pos ⟨owner, same, accepted⟩
  · have other := silent e mem
    unfold receiptOf
    cases found : e.payload with
    | patchChecked result =>
      refine if_neg fun named => ?_
      rw [EventKind.ofExperiment_self (by rw [found]; rfl) named.1] at other
      cases other
    | _ => rfl

/-- A best score that was scored is found. -/
lemma evaluation_found {x : String} {score : ℚ} (scored : ScoredBy es x score) :
    ∃ result, Log.lastSome (bestEvaluationOf x (some score)) es = some result := by
  obtain ⟨f, mem, result, payload, facts⟩ := scored
  cases found : Log.lastSome (bestEvaluationOf x (some score)) es with
  | some result => exact ⟨result, rfl⟩
  | none =>
    have absent := Log.lastSome_eq_none.mp found f mem
    unfold bestEvaluationOf at absent
    rw [payload] at absent
    dsimp only at absent
    obtain ⟨owner, full, population, verdict, same⟩ := facts
    rw [if_pos ⟨owner, full, population, verdict, congrArg some same⟩] at absent
    cases absent

/-- The plan, when its searches succeed. -/
lemma plan_ok {x commit receiptId : String} {check : PatchCheckResult} {result : EvaluationResult}
    (stopped : s.status = .stopped) (selected : s.selected = some (x, commit)) (candidate : x ≠ "baseline")
    (receipt : Log.lastSome (receiptOf x commit) es = some check) (id : check.receiptId = some receiptId)
    (evaluation : Log.lastSome (bestEvaluationOf x s.bestPrimaryScore) es = some result) :
    candidateFinalizationPlan es s = .ok
      { experimentId := x, commitSha := commit, patchReceiptId := receiptId, seed := result.seed
        bestPrimaryScore := s.bestPrimaryScore, nextAttempt := (attemptsOf x es).max?.getD 0 + 1 } := by
  unfold candidateFinalizationPlan
  refine check_bind_eq_ok.mpr ⟨ensure_eq_ok.mpr stopped, bind_eq_ok.mpr ⟨(x, commit), ?_, ?_⟩⟩
  · rw [selected]
    rfl
  refine check_bind_eq_ok.mpr ⟨ensure_eq_ok.mpr candidate, bind_eq_ok.mpr ⟨receiptId, ?_, ?_⟩⟩
  · rw [receipt, Option.bind_some, id]
    rfl
  refine bind_eq_ok.mpr ⟨result, ?_, rfl⟩
  rw [evaluation]
  rfl

lemma Chosen.bestExperimentId (h : Chosen es r b) : r.state.bestExperimentId = some b.experimentId :=
  congrArg Prod.fst h.best

lemma Chosen.bestCommitSha (h : Chosen es r b) : r.state.bestCommitSha = some b.commitSha :=
  congrArg (fun best => best.2.1) h.best

lemma Chosen.bestPrimaryScore (h : Chosen es r b) : r.state.bestPrimaryScore = some b.primaryScore :=
  congrArg (fun best => best.2.2) h.best

/-- What a plan was found from. -/
lemma plan_inv {plan : CandidateFinalizationPlan} (planned : candidateFinalizationPlan es s = .ok plan) :
    s.bestExperimentId = some plan.experimentId ∧ s.bestCommitSha = some plan.commitSha ∧
      plan.nextAttempt = (attemptsOf plan.experimentId es).max?.getD 0 + 1 ∧
      ∃ check, Log.lastSome (receiptOf plan.experimentId plan.commitSha) es = some check ∧
        check.receiptId = some plan.patchReceiptId := by
  unfold candidateFinalizationPlan at planned
  obtain ⟨_, ⟨selected, found, planned⟩⟩ := (check_bind_eq_ok.mp planned).imp_right bind_eq_ok.mp
  obtain ⟨_, ⟨receiptId, receipt, planned⟩⟩ := (check_bind_eq_ok.mp planned).imp_right bind_eq_ok.mp
  obtain ⟨evaluation, _, planned⟩ := bind_eq_ok.mp planned
  cases pure_eq_ok.mp planned
  obtain ⟨check, last, id⟩ := Option.bind_eq_some_iff.mp (foundOr_ok.mp receipt)
  obtain ⟨experiment, commit⟩ := selected_inv (foundOr_ok.mp found)
  exact ⟨experiment, commit, rfl, check, last, id⟩

/-- A sound plan runs the commit of the last gate check. -/
lemma SoundPlan.current {plan : CandidateFinalizationPlan} (hr : replay es = .ok r)
    (sound : SoundPlan config es (r.state.aggregate es) plan) : GateCurrent es (r.state.aggregate es) := by
  cases (validateTransition_ok hr).mp sound.accepted with
  | first _ type => cases type
  | later _ _ _ branch =>
    obtain ⟨_, _, legal⟩ := validateExecutionStarted_inv branch
    obtain ⟨⟨event, check⟩, last, accepted, _, commit⟩ := legal.receipt
    exact ⟨_, event, check, sound.experiment, last, accepted, sound.commit.trans (congrArg some commit.symm)⟩

/-- A plan is sound when the last gate check accepted its commit. -/
lemma plan_sound {plan : CandidateFinalizationPlan} (v : ValidLedger es) (hr : replay es = .ok r)
    (stopped : r.state.status = .stopped)
    (planned : candidateFinalizationPlan es (r.state.aggregate es) = .ok plan)
    (current : GateCurrent es (r.state.aggregate es)) : SoundPlan config es (r.state.aggregate es) plan := by
  obtain ⟨experiment, commit, next, check, receipt, id⟩ := plan_inv planned
  obtain ⟨x, event, check', best, last, accepted, checked⟩ := current
  cases experiment.symm.trans best
  have same : check'.patchCommitSha = plan.commitSha := Option.some.inj (checked.symm.trans commit)
  cases receipt.symm.trans (receipt_last last same accepted)
  obtain ⟨payload, owner⟩ := lastForExperiment_payload last
  have mem : event ∈ es := lastForExperiment_mem last
  obtain ⟨n, node⟩ := v.node_of_event hr mem (x := plan.experimentId) (by rw [payload]; exact congrArg some owner)
  constructor
  · intro e mem k attempt
    rw [next]
    exact Nat.lt_succ_of_le (List.le_max?_getD_of_mem (v.recordsAttempts e mem k attempt))
  · exact experiment
  · exact commit
  · exact ⟨event, mem, check, payload, owner, same, accepted, id⟩
  · refine cleanReproduction_accepted hr stopped node ?_ ?_ rfl rfl last ⟨accepted, id, same⟩
    · rw [RunState.aggregate_bestExperimentId] at experiment
      exact experiment
    · rw [RunState.aggregate_bestCommitSha] at commit
      exact commit

/-- There is a plan when the last gate check accepted the best commit. -/
lemma Chosen.planned (h : Chosen es r b) (stopped : r.state.status = .stopped)
    (named : b.experimentId ≠ "" ∧ b.commitSha ≠ "") (current : GateCurrent es (r.state.aggregate es)) :
    ∃ plan, candidateFinalizationPlan es (r.state.aggregate es) = .ok plan := by
  obtain ⟨x, event, check, best, last, accepted, checked⟩ := current
  rw [RunState.aggregate_bestExperimentId, h.bestExperimentId] at best
  cases best
  rw [RunState.aggregate_bestCommitSha, h.bestCommitSha] at checked
  have same : check.patchCommitSha = b.commitSha := (Option.some.inj checked).symm
  obtain ⟨receiptId, id⟩ : ∃ receiptId, check.receiptId = some receiptId := by
    have receipt := check.validateReceipt.mp accepted
    cases id : check.receiptId with
    | some receiptId => exact ⟨receiptId, rfl⟩
    | none =>
      rw [id] at receipt
      exact absurd rfl receipt
  obtain ⟨result, evaluation⟩ := evaluation_found h.scored
  have selected : (r.state.aggregate es).selected = some (b.experimentId, b.commitSha) := by
    unfold RunState.selected
    rw [RunState.aggregate_bestExperimentId, h.bestExperimentId, RunState.aggregate_bestCommitSha,
      h.bestCommitSha]
    exact if_pos named
  have status : (r.state.aggregate es).status = .stopped := by simpa using stopped
  have score : (r.state.aggregate es).bestPrimaryScore = some b.primaryScore := by
    rw [RunState.aggregate_bestPrimaryScore, h.bestPrimaryScore]
  rw [← score] at evaluation
  exact ⟨_, plan_ok status selected h.candidate (receipt_last last same accepted) id evaluation⟩

/-- The last request of the best experiment ran under the last gate check. -/
lemma Chosen.current_iff (h : Chosen es r b) :
    GateCurrent es (r.state.aggregate es) ↔ RanBest es (r.state.aggregate es) := by
  obtain ⟨q, c, check, s, last, request, accepted, _, commit⟩ := h.gated
  have experiment : (r.state.aggregate es).bestExperimentId = some b.experimentId := by
    rw [RunState.aggregate_bestExperimentId, h.bestExperimentId]
  constructor
  · rintro ⟨x, event, check', best, last', _, checked⟩
    cases experiment.symm.trans best
    cases last.symm.trans last'
    exact ⟨_, s, q, experiment, request, checked.trans (congrArg some commit)⟩
  · rintro ⟨x, event, q', best, request', ran⟩
    cases experiment.symm.trans best
    cases request.symm.trans request'
    exact ⟨_, c, check, experiment, last, accepted, ran.trans (congrArg some commit.symm)⟩

/-- No patch is checked, and the best does not move, after a run was stopped. -/
lemma ValidLedger.gate_frozen {post : List Event} {r' : Reducer} (v : ValidLedger (es ++ post))
    (hr : TacoRank.replay es = .ok r) (dead : ¬ Live r.state.status)
    (hr' : TacoRank.replay (es ++ post) = .ok r') : r'.state.best = r.state.best ∧
      ∀ x, lastForExperiment .patchChecked (es ++ post) x = lastForExperiment .patchChecked es x := by
  have frozen := v.extend (I := fun all => ∀ r', TacoRank.replay all = .ok r' → ¬ Live r'.state.status ∧
    r'.state.best = r.state.best ∧
      ∀ x, lastForExperiment .patchChecked all x = lastForExperiment .patchChecked es x) ?_ ?_
  · exact (frozen r' hr').2
  · intro r1 hr1
    cases hr.symm.trans hr1
    exact ⟨dead, rfl, fun _ => rfl⟩
  · intro mid e _ ok ih r2 hr2
    obtain ⟨r1, hr1, step⟩ := replay_snoc_inv hr2
    obtain ⟨dead, best, checks⟩ := ih r1 hr1
    have late : e.payload.type.mayFollowStop = true ∨ e.payload.type = .submissionChecked :=
      (dead_type hr1 ok dead).imp_left And.right
    refine ⟨fun live => dead (live_back hr1 ok step live), ?_, fun x => ?_⟩
    · refine (best_frame step ?_ ?_).trans best
      · intro type
        rw [type] at late
        rcases late with late | late <;> cases late
      · intro type
        rw [type] at late
        rcases late with late | late <;> cases late
    · rw [lastForExperiment_snoc, EventKind.ofExperiment_none, Option.none_or, checks]
      cases p : e.payload with
      | patchChecked check =>
        rw [p] at late
        rcases late with late | late <;> cases late
      | _ => rfl

/-- The gate stays current, or stale, after a stop. -/
lemma ValidLedger.current_frozen {post : List Event} {r' : Reducer} (v : ValidLedger (es ++ post))
    (hr : TacoRank.replay es = .ok r) (stopped : r.state.status = .stopped)
    (hr' : TacoRank.replay (es ++ post) = .ok r') :
    GateCurrent (es ++ post) (r'.state.aggregate (es ++ post)) ↔ GateCurrent es (r.state.aggregate es) := by
  have dead : ¬ Live r.state.status := by
    rw [stopped]
    exact id
  obtain ⟨best, checks⟩ := v.gate_frozen hr dead hr'
  have experiment : r'.state.bestExperimentId = r.state.bestExperimentId := congrArg Prod.fst best
  have commit : r'.state.bestCommitSha = r.state.bestCommitSha := congrArg (fun best => best.2.1) best
  unfold GateCurrent
  simp only [RunState.aggregate_bestExperimentId, RunState.aggregate_bestCommitSha, experiment, commit, checks]

/-- Finalization plans: after a stop, and after any number of attempts to finalize, a plan is sound exactly
when the last gate check of the best experiment accepted the best commit. When the best was updated, this is
also when there is a sound plan, and when the last request of the best experiment was for the best commit. -/
theorem finalization_sound_iff {post : List Event} {s' : RunState} (v : ValidLedger (es ++ post))
    (projected : project es = .ok s) (stopped : s.status = .stopped)
    (projected' : project (es ++ post) = .ok s') (stopped' : s'.status = .stopped) :
    (∀ plan, candidateFinalizationPlan (es ++ post) s' = .ok plan →
      (SoundPlan config (es ++ post) s' plan ↔ GateCurrent es s)) ∧
    ((∃ e ∈ es, e.payload.type = .bestUpdated) →
      (∀ e ∈ es ++ post, ∀ b, e.payload = .bestUpdated b → b.experimentId ≠ "" ∧ b.commitSha ≠ "") →
      (FinalizationSound config (es ++ post) s' ↔ GateCurrent es s) ∧ (GateCurrent es s ↔ RanBest es s)) := by
  obtain ⟨r, hr, rfl⟩ := project_ok.mp projected
  obtain ⟨r', hr', rfl⟩ := project_ok.mp projected'
  have stop : r.state.status = .stopped := by simpa using stopped
  have stop' : r'.state.status = .stopped := by simpa using stopped'
  have front : ValidLedger es := v.take
  have frozen := v.current_frozen hr stop hr'
  refine ⟨fun plan planned => ?_, fun updated named => ?_⟩
  · rw [← frozen]
    exact ⟨fun sound => sound.current hr', fun current => plan_sound v hr' stop' planned current⟩
  · obtain ⟨b, chosen⟩ := front.chosen hr updated
    refine ⟨?_, chosen.current_iff⟩
    rw [← frozen]
    constructor
    · rintro ⟨plan, _, sound⟩
      exact sound.current hr'
    · intro current
      obtain ⟨e, mem, type⟩ := updated
      obtain ⟨b', chosen'⟩ := v.chosen hr' ⟨e, List.mem_append_left post mem, type⟩
      obtain ⟨f, recorded, payload⟩ := chosen'.recorded
      obtain ⟨plan, planned⟩ := chosen'.planned stop' (named f recorded b' payload) current
      exact ⟨plan, planned, plan_sound v hr' stop' planned current⟩

open Scenario in
/-- A stopped run with one failed attempt to finalize it. -/
def retriedRun : List Event := record (proposal 2 "exp" ++
  [ (some 6, patch "exp" 1 "a"), (some 7, gatePassed "exp" 1 "a"),
    (some 8, .executionStarted (request "exp" 1 "a" 0)), (some 9, finished "exp" 1 "a"),
    (some 10, outputPassed "exp" 1), (some 11, evaluation "exp" 1 0 1 (3 / 5)),
    (some 12, confirm "exp" 12), (some 13, .executionStarted (request "exp" 2 "a" 1)),
    (some 14, finished "exp" 2 "a"), (some 15, outputPassed "exp" 2),
    (some 16, confirmation "exp" 2 1 2 (3 / 5) 12), (some 17, accept "exp" 17),
    (some 18, best "exp" "a" (3 / 5) 18),
    (some 19, .runStopped "experiment_budget" "all experiments are used up"),
    (some 20, .executionStarted { request "exp" 3 "a" 0 with commandId := "clean_reproduce" }),
    (some 21, crashed "exp" 3 "a") ])

theorem finalization_sound_retried : ∃ s, project retriedRun = .ok s ∧
    FinalizationSound scenarioConfig retriedRun s := by
  have v : ValidLedger retriedRun := .of_check (by decide +kernel)
  have split : retriedRun = retriedRun.take 20 ++ retriedRun.drop 20 := by rfl
  rw [split] at v ⊢
  have front : ValidLedger (retriedRun.take 20) := v.take
  obtain ⟨s, projected⟩ := front.project
  obtain ⟨s', projected'⟩ := v.project
  have stopped : (project (retriedRun.take 20)).toOption.map RunState.status = some .stopped := by
    decide +kernel
  have stopped' : (project (retriedRun.take 20 ++ retriedRun.drop 20)).toOption.map RunState.status =
      some .stopped := by decide +kernel
  have best : (project (retriedRun.take 20)).toOption.map (fun s => (s.bestExperimentId, s.bestCommitSha)) =
      some (some "exp", some "a") := by decide +kernel
  have checked : (lastForExperiment .patchChecked (retriedRun.take 20) "exp").map (fun found =>
      (found.2.accepted, found.2.patchCommitSha)) = some (true, "a") := by decide +kernel
  have named : ∀ e ∈ retriedRun.take 20 ++ retriedRun.drop 20, ∀ b, e.payload = .bestUpdated b →
      b.experimentId ≠ "" ∧ b.commitSha ≠ "" := by
    have all : (retriedRun.take 20 ++ retriedRun.drop 20).all (fun e => match e.payload with
        | .bestUpdated b => b.experimentId ≠ "" ∧ b.commitSha ≠ ""
        | _ => true) = true := by decide +kernel
    intro e mem b payload
    have here := List.all_eq_true.mp all e mem
    rw [payload] at here
    exact of_decide_eq_true here
  have updated : (retriedRun.take 20).any (fun e => e.payload.type = .bestUpdated) = true := by decide +kernel
  rw [projected] at stopped best
  rw [projected'] at stopped'
  obtain ⟨update, mem, type⟩ := List.any_eq_true.mp updated
  obtain ⟨⟨event, check⟩, last, facts⟩ := Option.map_eq_some_iff.mp checked
  have experiment := congrArg Prod.fst (Option.some.inj best)
  have commit := congrArg Prod.snd (Option.some.inj best)
  have current : GateCurrent (retriedRun.take 20) s :=
    ⟨"exp", event, check, experiment, last, congrArg Prod.fst facts,
      commit.trans (congrArg (fun facts => some facts.2) facts.symm)⟩
  refine ⟨s', projected', ?_⟩
  exact (((finalization_sound_iff v projected (Option.some.inj stopped) projected'
    (Option.some.inj stopped')).2 ⟨update, mem, of_decide_eq_true type⟩ named).1).mpr current

open Scenario in
/-- A run whose best commit has an accepted check that is not the last one of its experiment. -/
def supersededRun : List Event := record (proposal 2 "exp" ++
  [ (some 6, patch "exp" 1 "b"), (some 7, gatePassed "exp" 1 "b"),
    (some 8, .executionStarted (request "exp" 1 "b" 0)), (some 9, crashed "exp" 1 "b"),
    (some 10, recovery "exp" 10 1 1 .traeRepair), (some 11, patch "exp" 2 "c"),
    (some 12, gatePassed "exp" 2 "c"), (some 13, .executionStarted (request "exp" 2 "c" 0)),
    (some 14, crashed "exp" 2 "c"), (some 15, recovery "exp" 15 2 0 .traeRepair),
    (some 16, patch "exp" 3 "b"), (some 17, failed "exp" 3 .patchGate),
    (some 18, recovery "exp" 18 2 0 .adjustApprovedRuntimeSetting),
    (some 19, .executionStarted (request "exp" 3 "c" 0)), (some 20, finished "exp" 3 "c"),
    (some 21, outputPassed "exp" 3), (some 22, evaluation "exp" 3 0 1 (3 / 5)),
    (some 23, confirm "exp" 23), (some 24, .executionStarted (request "exp" 4 "c" 1)),
    (some 25, finished "exp" 4 "c"), (some 26, outputPassed "exp" 4),
    (some 27, confirmation "exp" 4 1 2 (3 / 5) 23), (some 28, accept "exp" 28),
    (some 29, best "exp" "b" (3 / 5) 29),
    (some 30, .runStopped "experiment_budget" "all experiments are used up") ])

theorem superseded_plan_rejected : ¬ ∀ es s, ValidLedger es → project es = .ok s → s.status = .stopped →
    (∃ x, s.bestExperimentId = some x) →
    ∀ plan, candidateFinalizationPlan es s = .ok plan → SoundPlan scenarioConfig es s plan := by
  intro sound
  have v : ValidLedger supersededRun := .of_check (by decide +kernel)
  obtain ⟨s, projected⟩ := v.project
  have planned : (project supersededRun).toOption.bind (fun s =>
      (candidateFinalizationPlan supersededRun s).toOption.map CandidateFinalizationPlan.commitSha) =
        some "b" := by decide +kernel
  have best : (project supersededRun).toOption.map (fun s => (s.status, s.bestExperimentId)) =
      some (.stopped, some "exp") := by decide +kernel
  have checked : (lastForExperiment .patchChecked supersededRun "exp").map (fun found =>
      found.2.patchCommitSha) = some "c" := by decide +kernel
  rw [projected] at planned best
  obtain ⟨plan, returned, commit⟩ := Option.map_eq_some_iff.mp planned
  have returned : candidateFinalizationPlan supersededRun s = .ok plan := by
    cases outcome : candidateFinalizationPlan supersededRun s <;> rw [outcome] at returned <;> cases returned
    rfl
  have status := congrArg Prod.fst (Option.some.inj best)
  have experiment := congrArg Prod.snd (Option.some.inj best)
  have ok := sound supersededRun s v projected status ⟨"exp", experiment⟩ plan returned
  obtain ⟨r, hr, rfl⟩ := project_ok.mp projected
  obtain ⟨x, event, check, same, last, _, current⟩ := ok.current hr
  cases experiment.symm.trans same
  rw [last] at checked
  rw [ok.commit, commit] at current
  have clash : "b" = "c" := (Option.some.inj current).trans (Option.some.inj checked)
  exact absurd clash (by decide)

end Plan
end TacoRank
