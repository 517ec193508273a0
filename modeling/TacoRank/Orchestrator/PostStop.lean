import TacoRank.Orchestrator.Provenance

/-!
# After the stop

After `run.stopped` the state machine admits executions, outputs and evaluations for the sealed best.
The guard of `execution.started` names the selected experiment, but `execution.finished` and
`output.checked` look only at the status of their node, and `evaluation.completed` at the status and
the command of the request. `stop_freezes` states exactly which experiments are frozen by a stop:
those with no execution or output pending.
-/

namespace TacoRank
open Lib Lib.Result

/-- Whether nothing of a stopped experiment is still admitted: no execution is running, no output
awaits its gate, and no verified output is one of a clean reproduction. -/
def settledAtStop (es : List Event) (x : String) (n : ExperimentNode) : Bool :=
  match n.status with
  | .running | .outputReady => false
  | .outputVerified =>
    x = "baseline" ||
      match lastForExperiment .executionStarted es x with
      | some (_, q) => !(q.commandId = "clean_reproduce" && q.fidelity = .full)
      | none => true
  | _ => true

/-! ### A settled experiment is frozen -/

/-- A stopped run writes to no settled experiment but the selected one. -/
lemma NodeStep.frozen {es e x n n'} {r : Reducer} (step : NodeStep es r e x (some n) n')
    (type : r.state.status = .stopped ∧ e.payload.type.mayFollowStop = true ∨
      e.payload.type = .submissionChecked)
    (other : r.state.bestExperimentId ≠ some x) (settled : settledAtStop es x n = true) :
    n' = some n ∧ e.payload.experiment ≠ some x := by
  cases step with
  | frame silent => exact ⟨rfl, silent⟩
  | patchCreated payload | patchChecked payload | adapterFailed payload | recoveryDecided payload
  | experimentDecided payload =>
    rw [payload] at type
    rcases type with ⟨_, type⟩ | type <;> cases type
  | executionStarted payload owner legal =>
    rw [payload] at type
    rcases type with ⟨stopped, _⟩ | type
    · have selected := (legal.selected (by simpa using stopped)).1
      rw [owner, RunState.aggregate_bestExperimentId] at selected
      exact absurd selected.symm other
    · cases type
  | executionFinished payload owner legal =>
    simp [settledAtStop, legal.status] at settled
  | outputChecked payload owner legal =>
    simp [settledAtStop, legal.status] at settled
  | evaluationCompleted payload owner legal =>
    rw [payload] at type
    rcases type with ⟨stopped, _⟩ | type
    · obtain ⟨command, _, full⟩ := legal.postStop (by simpa using stopped)
      obtain ⟨⟨s, q'⟩, started, same⟩ := legal.request.started
      cases same
      rw [owner] at started
      have notBaseline := legal.notBaseline
      rw [owner] at notBaseline
      have fidelity : q'.fidelity = .full := legal.fidelity.symm.trans full
      have clean : q'.commandId = "clean_reproduce" := command
      simp [settledAtStop, legal.status, started, clean, fidelity, notBaseline] at settled
    · cases type

/-- The reading of the last request does not see other experiments. -/
lemma settledAtStop_snoc {es e x n} (silent : e.payload.experiment ≠ some x) :
    settledAtStop (es ++ [e]) x n = settledAtStop es x n := by
  unfold settledAtStop
  rw [lastForExperiment_snoc, EventKind.ofExperiment_frame silent, Option.none_or]

/-- A stopped ledger in which an experiment other than the best is settled. -/
structure Frozen (es : List Event) (x : String) (n : ExperimentNode) : Prop where
  state : ∃ r, replay es = .ok r ∧ r.state.experiments.get? x = some n ∧
    ¬ Live r.state.status ∧ r.state.bestExperimentId ≠ some x
  settled : settledAtStop es x n = true

/-- Every accepted event keeps a settled experiment frozen. -/
lemma Frozen.step {es e x n} (h : Frozen es x n) (ok : Accepted es e) : Frozen (es ++ [e]) x n := by
  obtain ⟨r, hr, node, dead, other⟩ := h.state
  obtain ⟨r', step⟩ := ok.step hr
  have type := dead_type hr ok dead
  have nodeStep := node_step hr ok step x
  rw [node] at nodeStep
  obtain ⟨same, silent⟩ := nodeStep.frozen type other h.settled
  have frame := (Reducer.step_inv step).frame
  have best : r'.state.bestExperimentId = r.state.bestExperimentId := by
    apply frame.bestId
    · rcases type with ⟨_, type⟩ | type <;> intro no <;> rw [no] at type <;> cases type
    · rcases type with ⟨_, type⟩ | type <;> intro no <;> rw [no] at type <;> cases type
  refine ⟨⟨r', ?_, same, fun live => dead (live_back hr ok step live), ?_⟩, ?_⟩
  · rw [replay_snoc, hr]
    exact step
  · rw [best]
    exact other
  · rw [settledAtStop_snoc silent]
    exact h.settled

/-! ### An unsettled experiment still moves -/

section Late
variable {es : List Event} {x : String} {r : Reducer} {n : ExperimentNode}

/-- An event that may follow a stop is accepted when its branch accepts it. -/
lemma accepted_late {e : Event} (hr : replay es = .ok r) (id : e.eventId = es.length + 1)
    (stopped : r.state.status = .stopped) (type : e.payload.type.mayFollowStop = true)
    (branch : validateBranch es (r.state.aggregate es) e.payload = .ok ()) : Accepted es e := by
  refine ⟨id, (validateTransition_ok hr).mpr (.later ?_ ?_ ⟨?_, fun _ => type, ?_⟩ branch)⟩
  · rintro rfl
    cases hr
    cases stopped
  · intro no
    rw [no] at type
    cases type
  · simp [stopped]
  · simp [stopped]

/-- The event that records a payload next. -/
def nextEvent (es : List Event) (payload : EventPayload) : Event :=
  { eventId := es.length + 1
    key := { experimentId := payload.experiment.getD "", stage := .stopped, attempt := es.length }
    causationEventId := none
    payload }

/-- A crash of a running request. -/
def crashOf (x : String) (q : RunRequest) : RunResult :=
  { experimentId := x, attempt := q.attempt, fidelity := q.fidelity
    patchCommitSha := q.patchCommitSha, outcome := .codeError, predictionArtifact := none
    validateOutcomeArtifacts := fun success => RunOutcome.noConfusion success }

/-- A running execution may still finish after the stop. -/
lemma late_finish (v : ValidLedger es) (hr : replay es = .ok r)
    (node : r.state.experiments.get? x = some n) (stopped : r.state.status = .stopped)
    (status : n.status = .running) :
    ∃ e, Accepted es e ∧ nodeOf (es ++ [e]) x ≠ some n := by
  have evidence := v.evidence hr x n node
  rw [standing_of_status (by simp [status]), status] at evidence
  obtain ⟨c, s, q, run⟩ := evidence
  have legal : FinishLegal es (crashOf x q) n :=
    ⟨status, (s, q), run.started, rfl, rfl, rfl⟩
  have ok : Accepted es (nextEvent es (.executionFinished (crashOf x q))) := by
    refine accepted_late hr rfl stopped rfl (validateExecutionFinished_ok.mpr ⟨n, ?_, legal⟩)
    rw [RunState.aggregate_experiments]
    exact node
  refine ⟨_, ok, fun same => ?_⟩
  rw [nodeOf_update hr ok node rfl nofun] at same
  have moved := congrArg ExperimentNode.status (Option.some.inj same)
  rw [status] at moved
  cases moved

/-- A ready output may still be checked after the stop. -/
lemma late_output (v : ValidLedger es) (hr : replay es = .ok r)
    (node : r.state.experiments.get? x = some n) (stopped : r.state.status = .stopped)
    (status : n.status = .outputReady) :
    ∃ e, Accepted es e ∧ nodeOf (es ++ [e]) x ≠ some n := by
  have evidence := v.evidence hr x n node
  rw [standing_of_status (by simp [status]), status] at evidence
  obtain ⟨c, s, f, q, res, run⟩ := evidence
  obtain ⟨artifact, ha⟩ := Option.isSome_iff_exists.mp (res.validateOutcomeArtifacts run.success)
  let out : OutputCheckResult :=
    { experimentId := x, attempt := res.attempt, predictionArtifact := artifact, accepted := false }
  have legal : OutputLegal es out n :=
    ⟨status, (f, res), run.finished, run.success, rfl, artifact, ha, rfl⟩
  have ok : Accepted es (nextEvent es (.outputChecked out)) := by
    refine accepted_late hr rfl stopped rfl (validateOutputChecked_ok.mpr ⟨n, ?_, legal⟩)
    rw [RunState.aggregate_experiments]
    exact node
  refine ⟨_, ok, fun same => ?_⟩
  rw [nodeOf_update hr ok node rfl nofun] at same
  have moved := congrArg ExperimentNode.status (Option.some.inj same)
  rw [status] at moved
  cases moved

/-- A single-seed evaluation of a clean reproduction. -/
def reproductionOf (x : String) (q : RunRequest) (queries : Nat) (contract : ContractVerified) :
    EvaluationResult where
  experimentId := x
  attempt := q.attempt
  population := .publicValidation
  fidelity := .full
  seed := q.seed
  publicQueryIndex := some (queries + 1)
  evaluatorSha256 := contract.evaluatorSha256
  contractSha256 := contract.contractSha256
  metricSet := { metrics := [], primaryMetricName := "", primaryScore := 0 }
  trust :=
    { verdict := .negative, stability := .singleSeed, integrity := .clean
      validateConsistency := by decide }
  validateEvaluationRoute := by simp [EvaluationFields.RouteValid]

/-- A verified output of a clean reproduction may still be evaluated after the stop. -/
lemma late_evaluation (v : ValidLedger es) (hr : replay es = .ok r)
    (node : r.state.experiments.get? x = some n) (stopped : r.state.status = .stopped)
    (contract : eventsOf EventPayload.contract es ≠ []) (status : n.status = .outputVerified)
    (unsettled : settledAtStop es x n = false) :
    ∃ e, Accepted es e ∧ nodeOf (es ++ [e]) x ≠ some n := by
  have evidence := v.evidence hr x n node
  rw [standing_of_status (by simp [status]), status] at evidence
  obtain ⟨c, s, f, o, q, res, out, run⟩ := evidence
  obtain ⟨found, hf⟩ := Option.isSome_iff_exists.mp (List.getLast?_isSome.mpr contract)
  have started := run.run.run.started
  simp only [settledAtStop, status, started, Bool.or_eq_false_iff, decide_eq_false_iff_not,
    Bool.not_eq_false', Bool.and_eq_true, decide_eq_true_eq] at unsettled
  obtain ⟨notBaseline, command, full⟩ := unsettled
  have outAttempt : out.attempt = q.attempt := run.examined.2.1.symm.trans run.run.answers.1
  let result := reproductionOf x q r.state.publicValidationQueries found.2
  have legal : EvaluationLegal es (r.state.aggregate es) result n q := by
    refine ⟨status, notBaseline, by simp [result, reproductionOf], ?_, full.symm, rfl,
      ⟨found, hf, rfl, rfl⟩, fun _ => ⟨command, rfl, rfl⟩, by simp [full], ?_, ?_, [], .nil, ?_⟩
    · exact ⟨⟨(o, out), run.checked, run.accepted, outAttempt⟩,
        ⟨(f, res), run.run.finished, run.run.success, run.run.answers⟩, ⟨(s, q), started, rfl⟩, rfl⟩
    · simp [result, reproductionOf, full]
    · simp [result, reproductionOf, expectedQueryIndex]
    · simp
  have ok : Accepted es (nextEvent es (.evaluationCompleted result)) := by
    refine accepted_late hr rfl stopped rfl (validateEvaluationCompleted_ok.mpr ⟨n, q, ?_, legal⟩)
    rw [RunState.aggregate_experiments]
    exact node
  refine ⟨_, ok, fun same => ?_⟩
  rw [nodeOf_update hr ok node rfl nofun] at same
  have moved := congrArg ExperimentNode.status (Option.some.inj same)
  rw [status] at moved
  cases moved

end Late

/-! ### The stop -/

/-- A stop is recorded behind a verified contract. -/
lemma ValidLedger.stop_inv {pre stop post reasonCode reason}
    (v : ValidLedger (pre ++ stop :: post)) (payload : stop.payload = .runStopped reasonCode reason) :
    eventsOf EventPayload.contract pre ≠ [] := by
  obtain ⟨r, hr⟩ := v.front.replay
  cases (validateTransition_ok hr).mp v.accepted.2 with
  | first _ type => simp [payload, EventPayload.type] at type
  | later _ _ _ branch =>
    rw [payload] at branch
    simp only [validateBranch, validateRunStopped, bind_eq_ok, require_ok] at branch
    obtain ⟨_, baseline, _⟩ := branch
    obtain ⟨found, mem⟩ := List.exists_mem_of_ne_nil _ baseline
    simp only [eventsOf, List.mem_filterMap, Option.map_eq_some_iff] at mem
    obtain ⟨e, he, p, hp, rfl⟩ := mem
    obtain ⟨a, b, rfl⟩ := List.append_of_mem he
    have verified : e.payload = .baselineVerified p := by
      cases q : e.payload <;> rw [q] at hp <;> cases hp
      rfl
    obtain ⟨r0, hr0⟩ := v.front.front.replay
    cases (validateTransition_ok hr0).mp v.front.accepted.2 with
    | first _ type => simp [verified, EventPayload.type] at type
    | later _ _ _ branch =>
      rw [verified] at branch
      simp only [validateBranch, validateBaselineVerified, bind_eq_ok, require_ok] at branch
      obtain ⟨_, contract, _⟩ := branch
      intro none
      rw [eventsOf, List.filterMap_append, List.append_eq_nil_iff] at none
      exact contract none.1

/-- What a stop freezes: the node of an experiment other than the selected best stays as it is in
every continuation of a stopped ledger if and only if the stop is not finalizable, so that nothing
follows it, or the experiment is settled. -/
theorem stop_freezes {pre stop x n reasonCode reason} (v : ValidLedger (pre ++ [stop]))
    (payload : stop.payload = .runStopped reasonCode reason)
    (node : nodeOf (pre ++ [stop]) x = some n) (other : bestOf (pre ++ [stop]) ≠ some x) :
    (∀ post, ValidLedger (pre ++ [stop] ++ post) → nodeOf (pre ++ [stop] ++ post) x = some n) ↔
      (isFinalizableStopReason reasonCode = true → settledAtStop (pre ++ [stop]) x n = true) := by
  obtain ⟨r, hr⟩ := v.replay
  obtain ⟨r0, hr0, step⟩ := replay_snoc_inv hr
  have status := (Reducer.step_inv step).frame.status
  rw [payload] at status
  rw [nodeOf_replay hr] at node
  rw [bestOf_replay hr] at other
  constructor
  · intro frozen finalizable
    simp only [RunStatus.after, finalizable, if_true] at status
    cases settled : settledAtStop (pre ++ [stop]) x n with
    | true => rfl
    | false =>
      have contract : eventsOf EventPayload.contract (pre ++ [stop]) ≠ [] := by
        rw [eventsOf, List.filterMap_append]
        exact fun none => v.stop_inv payload (List.append_eq_nil_iff.mp none).1
      have moves : ∃ e, Accepted (pre ++ [stop]) e ∧ nodeOf (pre ++ [stop] ++ [e]) x ≠ some n := by
        cases st : n.status with
        | running => exact late_finish v hr node status st
        | outputReady => exact late_output v hr node status st
        | outputVerified => exact late_evaluation v hr node status contract st settled
        | _ => simp [settledAtStop, st] at settled
      obtain ⟨e, ok, moved⟩ := moves
      exact absurd (frozen [e] (.snoc v ok)) moved
  · intro condition post v'
    by_cases finalizable : isFinalizableStopReason reasonCode = true
    · simp only [RunStatus.after, finalizable, if_true] at status
      have start : Frozen (pre ++ [stop]) x n :=
        ⟨⟨r, hr, node, by rw [status]; exact id, other⟩, condition finalizable⟩
      have final : Frozen (pre ++ [stop] ++ post) x n :=
        Log.Valid.extend (I := fun es => Frozen es x n) v' start fun _ _ _ ok h => h.step ok
      obtain ⟨r', hr', node', _⟩ := final.state
      rw [nodeOf_replay hr']
      exact node'
    · simp only [RunStatus.after, finalizable] at status
      -- a failed run accepts nothing, so nothing follows the stop
      cases post with
      | nil => rwa [List.append_nil, nodeOf_replay hr]
      | cons e post =>
        have dead : ¬ Live r.state.status := by
          rw [status]
          exact id
        cases (validateTransition_ok hr).mp v'.accepted.2 with
        | first start => simp at start
        | later _ _ legal => exact absurd status legal.live.2

open Scenario in
/-- A run that is stopped while its experiment executes. -/
def inflightRun : List Event := record (proposal 2 "exp" ++
  [ (some 6, patch "exp" 1 "a"), (some 7, gatePassed "exp" 1 "a"),
    (some 8, .executionStarted (request "exp" 1 "a" 0)),
    (some 9, .runStopped "wall_time_budget" "wall time is used up"),
    (some 9, finished "exp" 1 "a"), (some 11, outputPassed "exp" 1) ])

theorem execution_finishes_after_stop : ValidLedger inflightRun ∧
    (nodeOf (inflightRun.take 10) "exp").map (·.status) = some .running ∧
    (nodeOf inflightRun "exp").map (·.status) = some .outputVerified ∧
    bestOf (inflightRun.take 10) = some "baseline" :=
  ⟨.of_check (by decide +kernel), by decide +kernel, by decide +kernel, by decide +kernel⟩

theorem stop_freezes_run : ∃ n, nodeOf (inflightRun.take 10) "exp" = some n ∧
    ¬ ∀ post, ValidLedger (inflightRun.take 10 ++ post) →
      nodeOf (inflightRun.take 10 ++ post) "exp" = some n := by
  have split : inflightRun.take 10 = inflightRun.take 9 ++ [inflightRun.get ⟨9, by decide⟩] := by
    rfl
  have v : ValidLedger (inflightRun.take 10) := .of_check (by decide +kernel)
  have running : (nodeOf (inflightRun.take 10) "exp").map (·.status) = some .running := by
    decide +kernel
  have other : bestOf (inflightRun.take 10) ≠ some "exp" := by decide +kernel
  obtain ⟨n, node, status⟩ := Option.map_eq_some_iff.mp running
  refine ⟨n, node, fun frozen => ?_⟩
  rw [split] at v node other frozen
  have settled := (stop_freezes v rfl node other).mp frozen rfl
  simp [settledAtStop, status] at settled

end TacoRank
