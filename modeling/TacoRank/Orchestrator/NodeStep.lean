import TacoRank.Orchestrator.Inversion

/-!
# Steps of a ledger

`Accepted.inv` opens an accepted event into the conditions on the run status and its branch, and
`Accepted.step` shows that the reducer replays whatever the state machine accepts, so a valid ledger
always projects. `NodeStep` lists everything an accepted event can do to the node of one experiment;
`ValidLedger.run_induct` and `ValidLedger.node_induct` are the induction rules over valid ledgers.
-/

namespace TacoRank
open Lib Lib.Result

/-- The facts checked on the run status. -/
structure StatusLegal (status : RunStatus) (type : EventType) : Prop where
  live : status ≠ .finalized ∧ status ≠ .failed
  stopped : status = .stopped → type.mayFollowStop = true
  finalizing : status = .finalizing → type = .submissionChecked

lemma validateRunStatus_ok {status type} : validateRunStatus status type = .ok () ↔
    StatusLegal status type := by
  simp only [validateRunStatus, bind_eq_ok, require_ok, List.mem_cons, List.not_mem_nil, or_false,
    not_or]
  constructor
  · rintro ⟨_, live, _, stopped, finalizing⟩
    exact ⟨live, stopped, finalizing⟩
  · rintro ⟨live, stopped, finalizing⟩
    exact ⟨(), live, (), stopped, finalizing⟩

/-- Inversion of `validate_transition` against a replayed prefix. -/
inductive TransitionLegal (es : List Event) (r : Reducer) (p : EventPayload) : Prop where
  | first
    (start : es = [])
    (type : p.type = .runStarted) : TransitionLegal es r p
  | later
    (started : es ≠ [])
    (type : p.type ≠ .runStarted)
    (status : StatusLegal r.state.status p.type)
    (branch : validateBranch es (r.state.aggregate es) p = .ok ()) : TransitionLegal es r p

lemma validateTransition_ok {es r p} (h : replay es = .ok r) :
    validateTransition es p = .ok () ↔ TransitionLegal es r p := by
  have projected : project es = .ok (r.state.aggregate es) := project_ok.mpr ⟨r, h, rfl⟩
  cases es with
  | nil =>
    simp only [validateTransition, require_ok]
    constructor
    · exact .first rfl
    · intro legal
      cases legal with
      | first _ type => exact type
      | later started => exact absurd rfl started
  | cons e0 es =>
    simp only [validateTransition, bind_eq_ok, require_ok, projected, Except.ok.injEq]
    constructor
    · rintro ⟨_, type, _, rfl, ⟨⟩, status, branch⟩
      rw [RunState.aggregate_status, validateRunStatus_ok] at status
      exact .later (by simp) type status branch
    · intro legal
      cases legal with
      | first start => cases start
      | later _ type status branch =>
        refine ⟨(), type, _, rfl, (), ?_, branch⟩
        rw [RunState.aggregate_status, validateRunStatus_ok]
        exact status

/-- Everything an accepted event can do to the node of an experiment. -/
inductive NodeStep (es : List Event) (r : Reducer) (e : Event) (x : String) :
    Option ExperimentNode → Option ExperimentNode → Prop where
  | frame {n}
    (other : e.payload.experiment ≠ some x) :
    NodeStep es r e x n n
  | proposed {spec}
    (payload : e.payload = .experimentProposed spec)
    (owner : spec.experimentId = x)
    (status : r.state.status = .ready ∨ r.state.status = .running) :
    NodeStep es r e x none (some (.ofSpec spec))
  | patchCreated {c n}
    (payload : e.payload = .patchCreated c)
    (owner : c.experimentId = x)
    (legal : PatchLegal es c n) :
    NodeStep es r e x (some n) (some (n.patchCreated c))
  | patchChecked {c n}
    (payload : e.payload = .patchChecked c)
    (owner : c.experimentId = x)
    (legal : CheckLegal es c n) :
    NodeStep es r e x (some n) (some (n.patchChecked c))
  | executionStarted {q n}
    (payload : e.payload = .executionStarted q)
    (owner : q.experimentId = x)
    (legal : ExecutionLegal es (r.state.aggregate es) q n) :
    NodeStep es r e x (some n) (some (n.executionStarted q))
  | executionFinished {res n}
    (payload : e.payload = .executionFinished res)
    (owner : res.experimentId = x)
    (legal : FinishLegal es res n) :
    NodeStep es r e x (some n) (some (n.executionFinished res))
  | adapterFailed {res n}
    (payload : e.payload = .adapterFailed res)
    (owner : res.experimentId = x)
    (legal : n.status ∈ allowedFailureStates es res) :
    NodeStep es r e x (some n) (some (n.adapterFailed res))
  | recoveryDecided {d n}
    (payload : e.payload = .recoveryDecided d)
    (owner : d.experimentId = x)
    (legal : RecoveryLegal es (r.state.aggregate es) d n) :
    NodeStep es r e x (some n) (some ((r.observe e).recoveryNode e.eventId d n))
  | outputChecked {out n}
    (payload : e.payload = .outputChecked out)
    (owner : out.experimentId = x)
    (legal : OutputLegal es out n) :
    NodeStep es r e x (some n) (some (n.outputChecked out))
  | evaluationCompleted {res q n}
    (payload : e.payload = .evaluationCompleted res)
    (owner : res.experimentId = x)
    (legal : EvaluationLegal es (r.state.aggregate es) res n q) :
    NodeStep es r e x (some n) (some (n.evaluationCompleted res))
  | experimentDecided {d n}
    (payload : e.payload = .experimentDecided d)
    (owner : d.experimentId = x)
    (evidence : DecisionEvidence es n d)
    (promotion : PromotionLegal (r.state.aggregate es) n d) :
    NodeStep es r e x (some n) (some (n.decided e.eventId d))

/-- A branch finds the node of the replayed state. -/
lemma same_node {s : RunState} {es x n m} (hn : s.experiments.get? x = some n)
    (hm : (s.aggregate es).experiments.get? x = some m) : n = m := by
  rw [RunState.aggregate_experiments, hn] at hm
  exact Option.some.inj hm

/-- The branch of an event that writes to an experiment accepts only what `NodeStep` lists. -/
lemma node_step {es r r' e} (hr : replay es = .ok r) (ok : Accepted es e)
    (step : r.step e = .ok r') (x : String) :
    NodeStep es r e x (r.state.experiments.get? x) (r'.state.experiments.get? x) := by
  have write := (Reducer.step_inv step).nodes x
  generalize hn' : r'.state.experiments.get? x = n' at write ⊢
  generalize hn : r.state.experiments.get? x = n at write ⊢
  by_cases other : e.payload.experiment = some x
  case neg =>
    cases write with
    | frame => exact .frame other
    | proposed payload owner => simp [payload, EventPayload.experiment, owner] at other
    | update owner => exact absurd owner other
  cases (validateTransition_ok hr).mp ok.2 with
  | first _ type => cases p : e.payload <;> simp [p, EventPayload.type, EventPayload.experiment] at *
  | later _ _ _ branch =>
    cases write with
    | frame other' => exact absurd other other'
    | proposed payload owner =>
      subst owner
      rw [payload] at branch
      simp only [validateBranch, validateExperimentProposed, bind_eq_ok, require_ok,
        RunState.aggregate_status, RunState.aggregate_experiments] at branch
      obtain ⟨_, status, _, absent, _⟩ := branch
      rw [hn] at absent
      subst absent
      exact .proposed payload rfl (by simpa using status)
    | @update n _ old =>
      cases p : e.payload with
      | patchCreated d =>
        rw [p] at other branch
        cases other
        obtain ⟨m, hm, legal⟩ := validatePatchCreated_ok.mp branch
        obtain rfl := same_node hn hm
        simpa only [Reducer.nodeUpdate, p] using NodeStep.patchCreated p rfl legal
      | patchChecked d =>
        rw [p] at other branch
        cases other
        obtain ⟨m, hm, legal⟩ := validatePatchChecked_ok.mp branch
        obtain rfl := same_node hn hm
        simpa only [Reducer.nodeUpdate, p] using NodeStep.patchChecked p rfl legal
      | executionStarted d =>
        rw [p] at other branch
        cases other
        obtain ⟨m, hm, legal⟩ := validateExecutionStarted_inv branch
        obtain rfl := same_node hn hm
        simpa only [Reducer.nodeUpdate, p] using NodeStep.executionStarted p rfl legal
      | executionFinished d =>
        rw [p] at other branch
        cases other
        obtain ⟨m, hm, legal⟩ := validateExecutionFinished_ok.mp branch
        obtain rfl := same_node hn hm
        simpa only [Reducer.nodeUpdate, p] using NodeStep.executionFinished p rfl legal
      | adapterFailed d =>
        rw [p] at other branch
        cases other
        obtain ⟨m, hm, legal⟩ := validateAdapterFailed_ok.mp branch
        obtain rfl := same_node hn hm
        simpa only [Reducer.nodeUpdate, p] using NodeStep.adapterFailed p rfl legal
      | recoveryDecided d =>
        rw [p] at other branch
        cases other
        obtain ⟨m, hm, legal⟩ := validateRecoveryDecided_ok.mp branch
        obtain rfl := same_node hn hm
        simpa only [Reducer.nodeUpdate, p] using NodeStep.recoveryDecided p rfl legal
      | outputChecked d =>
        rw [p] at other branch
        cases other
        obtain ⟨m, hm, legal⟩ := validateOutputChecked_ok.mp branch
        obtain rfl := same_node hn hm
        simpa only [Reducer.nodeUpdate, p] using NodeStep.outputChecked p rfl legal
      | evaluationCompleted d =>
        rw [p] at other branch
        cases other
        obtain ⟨m, q, hm, legal⟩ := validateEvaluationCompleted_ok.mp branch
        obtain rfl := same_node hn hm
        simpa only [Reducer.nodeUpdate, p] using NodeStep.evaluationCompleted p rfl legal
      | experimentDecided d =>
        rw [p] at other branch
        cases other
        obtain ⟨m, hm, evidence, promotion⟩ := validateExperimentDecided_ok.mp branch
        obtain rfl := same_node hn hm
        simpa only [Reducer.nodeUpdate, p] using NodeStep.experimentDecided p rfl evidence promotion
      | experimentProposed spec => exact absurd p (old spec)
      | _ => simp [p, EventPayload.experiment] at other

/-- The reducer replays what the state machine accepts. -/
lemma Accepted.step {es r e} (hr : replay es = .ok r) (ok : Accepted es e) :
    ∃ r', r.step e = .ok r' := by
  have update {x n} (hn : (r.state.aggregate es).experiments.get? x = some n)
      (f : ExperimentNode → ExperimentNode) :
      (r.observe e).state.updateNode x f =
        .ok { (r.observe e).state with experiments := r.state.experiments.set x (f n) } := by
    rw [RunState.aggregate_experiments] at hn
    exact RunState.updateNode_ok.mpr ⟨n, hn, rfl⟩
  unfold Reducer.step Reducer.branch
  cases (validateTransition_ok hr).mp ok.2 with
  | first _ type =>
    cases p : e.payload with
    | runStarted payload => exact ⟨_, rfl⟩
    | _ => simp [p, EventPayload.type] at type
  | later _ _ _ branch =>
    cases p : e.payload with
    | patchCreated d =>
      rw [p] at branch
      obtain ⟨n, hn, _⟩ := validatePatchCreated_ok.mp branch
      simp only [update hn]
      exact ⟨_, rfl⟩
    | patchChecked d =>
      rw [p] at branch
      obtain ⟨n, hn, _⟩ := validatePatchChecked_ok.mp branch
      simp only [update hn]
      exact ⟨_, rfl⟩
    | executionStarted d =>
      rw [p] at branch
      obtain ⟨n, hn, _⟩ := validateExecutionStarted_inv branch
      simp only [update hn]
      exact ⟨_, rfl⟩
    | executionFinished d =>
      rw [p] at branch
      obtain ⟨n, hn, _⟩ := validateExecutionFinished_ok.mp branch
      simp only [update hn]
      exact ⟨_, rfl⟩
    | adapterFailed d =>
      rw [p] at branch
      obtain ⟨n, hn, _⟩ := validateAdapterFailed_ok.mp branch
      simp only [update hn]
      exact ⟨_, rfl⟩
    | recoveryDecided d =>
      rw [p] at branch
      obtain ⟨n, hn, _⟩ := validateRecoveryDecided_ok.mp branch
      simp only [update hn]
      exact ⟨_, rfl⟩
    | outputChecked d =>
      rw [p] at branch
      obtain ⟨n, hn, _⟩ := validateOutputChecked_ok.mp branch
      simp only [update hn]
      exact ⟨_, rfl⟩
    | evaluationCompleted d =>
      rw [p] at branch
      obtain ⟨n, q, hn, _⟩ := validateEvaluationCompleted_ok.mp branch
      simp only [update hn]
      exact ⟨_, rfl⟩
    | experimentDecided d =>
      rw [p] at branch
      obtain ⟨n, hn, _⟩ := validateExperimentDecided_ok.mp branch
      have node : (r.observe e).state.node d.experimentId = .ok n := by
        rw [RunState.aggregate_experiments] at hn
        exact RunState.node_ok.mpr hn
      simp only [update hn, node]
      exact ⟨_, rfl⟩
    | lessonStatusChanged lessonId status reason =>
      rw [p] at branch
      simp only [validateBranch, require_ok, RunState.aggregate_lessons] at branch
      obtain ⟨lesson, hl⟩ := Option.isSome_iff_exists.mp branch
      have found : (r.observe e).state.lessons.get? lessonId = some lesson := hl
      simp only [found]
      exact ⟨_, rfl⟩
    | _ => exact ⟨_, rfl⟩

/-- A valid ledger replays. -/
theorem ValidLedger.replay {es : List Event} (v : ValidLedger es) : ∃ r, replay es = .ok r := by
  induction v with
  | nil => exact ⟨{}, rfl⟩
  | snoc _ ok ih =>
    obtain ⟨r, hr⟩ := ih
    obtain ⟨r', step⟩ := ok.step hr
    exact ⟨r', by rw [replay_snoc, hr]; exact step⟩

/-- A valid ledger projects. -/
theorem ValidLedger.project {es : List Event} (v : ValidLedger es) : ∃ s, project es = .ok s := by
  obtain ⟨r, hr⟩ := v.replay
  exact ⟨_, project_ok.mpr ⟨r, hr, rfl⟩⟩

/-- Inversion of a replay that ends in an accepted event. -/
lemma replay_snoc_inv {es e r'} (h : replay (es ++ [e]) = .ok r') :
    ∃ r, replay es = .ok r ∧ r.step e = .ok r' := by
  rw [replay_snoc, bind_eq_ok] at h
  exact h

section Induction

/-- Induction over valid ledgers with their replayed states. -/
theorem ValidLedger.run_induct {I : List Event → Reducer → Prop} (nil : I [] {})
    (snoc : ∀ {es e r r'}, ValidLedger es → TacoRank.replay es = .ok r → Accepted es e →
      r.step e = .ok r' → I es r → I (es ++ [e]) r')
    {es r} (v : ValidLedger es) (hr : TacoRank.replay es = .ok r) : I es r := by
  induction v generalizing r with
  | nil =>
    cases hr
    exact nil
  | snoc v ok ih =>
    obtain ⟨r0, hr0, step⟩ := replay_snoc_inv hr
    exact snoc v hr0 ok step (ih hr0)

/-- Induction over valid ledgers for the node of one experiment. -/
theorem ValidLedger.node_induct {x : String} {P : List Event → Option ExperimentNode → Prop}
    (nil : P [] none)
    (step : ∀ {es e r n n'}, ValidLedger es → TacoRank.replay es = .ok r → Accepted es e →
      r.state.experiments.get? x = n → NodeStep es r e x n n' → P es n → P (es ++ [e]) n')
    {es r} (v : ValidLedger es) (hr : TacoRank.replay es = .ok r) :
    P es (r.state.experiments.get? x) :=
  v.run_induct (I := fun es r => P es (r.state.experiments.get? x)) nil
    (fun v hr ok hstep ih => step v hr ok rfl (node_step hr ok hstep x) ih) hr

end Induction

/-- The node of an experiment in the projection of a ledger. -/
def nodeOf (es : List Event) (x : String) : Option ExperimentNode :=
  match project es with
  | .ok s => s.experiments.get? x
  | .error _ => none

lemma nodeOf_replay {es r x} (hr : replay es = .ok r) :
    nodeOf es x = r.state.experiments.get? x := by
  have projected : project es = .ok (r.state.aggregate es) := project_ok.mpr ⟨r, hr, rfl⟩
  simp only [nodeOf, projected, RunState.aggregate_experiments]

/-- The run status in the projection of a ledger. -/
def statusOf (es : List Event) : Option RunStatus :=
  match project es with
  | .ok s => some s.status
  | .error _ => none

lemma statusOf_replay {es r} (hr : replay es = .ok r) : statusOf es = some r.state.status := by
  have projected : project es = .ok (r.state.aggregate es) := project_ok.mpr ⟨r, hr, rfl⟩
  simp only [statusOf, projected, RunState.aggregate_status]

/-- The experiment selected as the best in the projection of a ledger. -/
def bestOf (es : List Event) : Option String :=
  match project es with
  | .ok s => s.bestExperimentId
  | .error _ => none

lemma bestOf_replay {es r} (hr : replay es = .ok r) : bestOf es = r.state.bestExperimentId := by
  have projected : project es = .ok (r.state.aggregate es) := project_ok.mpr ⟨r, hr, rfl⟩
  simp only [bestOf, projected, RunState.aggregate_bestExperimentId]

/-- An accepted event of an experiment updates its node. -/
lemma nodeOf_update {es r e x n} (hr : replay es = .ok r) (ok : Accepted es e)
    (node : r.state.experiments.get? x = some n) (owner : e.payload.experiment = some x)
    (old : ∀ spec, e.payload ≠ .experimentProposed spec) :
    nodeOf (es ++ [e]) x = some (r.nodeUpdate e n) := by
  obtain ⟨r', step⟩ := ok.step hr
  have hr' : replay (es ++ [e]) = .ok r' := by
    rw [replay_snoc, hr]
    exact step
  rw [nodeOf_replay hr']
  have write := (Reducer.step_inv step).nodes x
  rw [node] at write
  generalize r'.state.experiments.get? x = n' at write ⊢
  cases write with
  | frame other => exact absurd owner other
  | proposed payload => exact absurd payload (old _)
  | update => rfl

/-- An event that names no experiment, or another one, leaves the node alone. -/
lemma nodeOf_foreign {es : List Event} {e : Event} {x : String} (v : ValidLedger es)
    (ok : Accepted es e) (other : e.payload.experiment ≠ some x) :
    nodeOf (es ++ [e]) x = nodeOf es x := by
  obtain ⟨r, hr⟩ := v.replay
  obtain ⟨r', step⟩ := ok.step hr
  have hr' : replay (es ++ [e]) = .ok r' := by
    rw [replay_snoc, hr]
    exact step
  have write := node_step hr ok step x
  rw [nodeOf_replay hr', nodeOf_replay hr]
  generalize r'.state.experiments.get? x = n' at write ⊢
  generalize r.state.experiments.get? x = n at write ⊢
  cases write with
  | frame => rfl
  | _ => simp_all [EventPayload.experiment]

/-- Events that name no experiment, or other ones, leave a node alone. -/
lemma nodeOf_append_foreign {base post : List Event} {x : String} (v : ValidLedger (base ++ post))
    (foreign : ∀ s ∈ post, s.payload.experiment ≠ some x) : nodeOf (base ++ post) x = nodeOf base x := by
  induction post using List.reverseRecOn with
  | nil => rw [List.append_nil]
  | append_singleton post s ih =>
    rw [← List.append_assoc] at v ⊢
    obtain ⟨front, ok⟩ := v.snoc_inv
    rw [nodeOf_foreign front ok (foreign s (by simp))]
    exact ih front fun s mem => foreign s (List.mem_append_left _ mem)

/-- A ledger whose entries pass the check is valid. -/
lemma ValidLedger.of_check {es : List Event} (h : Log.checkFrom Accepted [] es = true) :
    ValidLedger es :=
  Log.Valid.of_checkFrom .nil h

/-! ### The stop -/

/-- The run has not been stopped. -/
def Live : RunStatus → Prop
  | .initializing | .ready | .running => True
  | _ => False

/-- The status of a run that has not been stopped allows everything. -/
lemma Live.legal {status : RunStatus} {type : EventType} (live : Live status) :
    StatusLegal status type := by
  cases status <;> first
    | exact live.elim
    | exact ⟨⟨by simp, by simp⟩, by simp, by simp⟩

/-- A stopped run is never resumed. -/
lemma live_back {es r r' e} (hr : replay es = .ok r) (ok : Accepted es e)
    (step : r.step e = .ok r') (live : Live r'.state.status) : Live r.state.status := by
  rw [(Reducer.step_inv step).frame.status] at live
  cases (validateTransition_ok hr).mp ok.2 with
  | first start =>
    subst start
    cases hr
    trivial
  | later _ _ status _ =>
    obtain ⟨⟨notFinalized, notFailed⟩, stopped, finalizing⟩ := status
    cases before : r.state.status with
    | stopped =>
      have type := stopped before
      rw [before] at live
      cases p : e.payload <;> rw [p] at type live <;> first
        | exact absurd live id
        | cases type
    | finalizing =>
      have type := finalizing before
      cases p : e.payload with
      | submissionChecked payload =>
        rw [p] at live
        simp only [RunStatus.after] at live
        split at live <;> exact absurd live id
      | _ =>
        rw [p] at type
        cases type
    | finalized => exact absurd before notFinalized
    | failed => exact absurd before notFailed
    | _ => trivial

/-- What may follow a stop. -/
lemma dead_type {es r e} (hr : replay es = .ok r) (ok : Accepted es e)
    (dead : ¬ Live r.state.status) :
    r.state.status = .stopped ∧ e.payload.type.mayFollowStop = true ∨
      e.payload.type = .submissionChecked := by
  cases (validateTransition_ok hr).mp ok.2 with
  | first start =>
    subst start
    cases hr
    exact absurd trivial dead
  | later _ _ status _ =>
    obtain ⟨⟨notFinalized, notFailed⟩, stopped, finalizing⟩ := status
    cases before : r.state.status with
    | stopped => exact .inl ⟨rfl, stopped before⟩
    | finalizing => exact .inr (finalizing before)
    | finalized => exact absurd before notFinalized
    | failed => exact absurd before notFailed
    | _ =>
      rw [before] at dead
      exact absurd trivial dead

/-- The state machine takes a decision of a live run on its evidence and its promotion. -/
lemma validateTransition_decided {es : List Event} {r : Reducer} {d : ExperimentDecision}
    (hr : replay es = .ok r) (started : es ≠ []) :
    validateTransition es (.experimentDecided d) = .ok () ↔ Live r.state.status ∧
      ∃ n, r.state.experiments.get? d.experimentId = some n ∧ DecisionEvidence es n d ∧
        PromotionLegal (r.state.aggregate es) n d := by
  have live : StatusLegal r.state.status .experimentDecided ↔ Live r.state.status := by
    constructor
    · intro legal
      cases status : r.state.status with
      | stopped => exact absurd (legal.stopped status) (by simp [EventType.mayFollowStop])
      | finalizing => exact absurd (legal.finalizing status) (by simp)
      | finalized => exact legal.live.1 status
      | failed => exact legal.live.2 status
      | _ => trivial
    · exact Live.legal
  rw [validateTransition_ok hr, ← live]
  constructor
  · intro legal
    cases legal with
    | first start => exact absurd start started
    | later _ _ status branch =>
      obtain ⟨n, node, rest⟩ := validateExperimentDecided_ok.mp branch
      rw [RunState.aggregate_experiments] at node
      exact ⟨status, n, node, rest⟩
  · rintro ⟨status, n, node, rest⟩
    refine .later started (by simp [EventPayload.type]) status ?_
    exact validateExperimentDecided_ok.mpr ⟨n, by rw [RunState.aggregate_experiments]; exact node, rest⟩

/-! ### Statuses -/

/-- The status that a recovery decision leaves. -/
def Reducer.recoveryStatus (r : Reducer) (d : RecoveryDecision) : ExperimentStatus :=
  match d.action with
  | .abandon | .rollback => .invalid
  | .adjustApprovedRuntimeSetting => .readyToRun
  | .retrySameCommit => (r.retryTarget (r.eventById d.failureEventId)).1
  | .returnToPlanner => .noOp
  | .traeRepair | .restartFromTrustedParent => .recovering

/-- The status in which a retry resumes, by the stage of the failure. -/
lemma Reducer.retryTarget_some (r : Reducer) (f : Event) : (r.retryTarget (some f)).1 =
    match f.payload.failureStage with
    | some .coding => .proposed
    | some .patchGate => .patchReady
    | some .outputGate => .outputReady
    | some .evaluation => if r.causedByEvaluation (some f) then .evaluated else .outputVerified
    | _ => .readyToRun := by
  simp only [retryTarget, Option.bind_some]
  cases f.payload.failureStage with
  | none => rfl
  | some stage =>
    cases stage with
    | evaluation => exact apply_ite Prod.fst _ _ _
    | _ => rfl

@[simp] lemma Reducer.recoveryNode_status (r : Reducer) (id d n) :
    (r.recoveryNode id d n).status = r.recoveryStatus d := by
  unfold recoveryNode recoveryStatus
  cases d.action <;> rfl

@[simp] lemma Reducer.recoveryNode_latestCommitSha (r : Reducer) (id d n) :
    (r.recoveryNode id d n).latestCommitSha = n.latestCommitSha := by
  unfold recoveryNode ExperimentNode.recoveryCounted
  cases d.action <;> rfl

@[simp] lemma ExperimentNode.executionFinished_status (n : ExperimentNode) (res : RunResult) :
    (n.executionFinished res).status =
      if res.outcome = .success then .outputReady else .recovering := by
  unfold executionFinished
  split <;> rfl

@[simp] lemma ExperimentNode.executionFinished_latestCommitSha (n : ExperimentNode)
    (res : RunResult) : (n.executionFinished res).latestCommitSha = n.latestCommitSha := by
  unfold executionFinished
  split <;> rfl

@[simp] lemma ExperimentNode.decided_status (n : ExperimentNode) (id d) :
    (n.decided id d).status = d.decision.status := by
  unfold decided
  split
  · split <;> rfl
  · rfl

@[simp] lemma ExperimentNode.decided_latestCommitSha (n : ExperimentNode) (id d) :
    (n.decided id d).latestCommitSha = n.latestCommitSha := by
  unfold decided
  split
  · split <;> rfl
  · rfl

/-! ### Events by id -/

/-- Ids in the front of a ledger are at most its length. -/
lemma ValidLedger.id_le {pre post : List Event} {e : Event} (v : ValidLedger (pre ++ post))
    (mem : e ∈ pre) : e.eventId ≤ pre.length := by
  obtain ⟨a, b, rfl⟩ := List.append_of_mem mem
  rw [v.front.eventId]
  simp

/-- Ids behind the front of a ledger are larger than its length. -/
lemma ValidLedger.lt_id {pre post : List Event} {e : Event} (v : ValidLedger (pre ++ post))
    (mem : e ∈ post) : pre.length < e.eventId := by
  obtain ⟨a, b, rfl⟩ := List.append_of_mem mem
  have v' : ValidLedger ((pre ++ a) ++ e :: b) := by simpa using v
  rw [v'.eventId, List.length_append]
  omega

/-- `events_by_id` holds the events newest first. -/
lemma ValidLedger.eventsById {es r} (v : ValidLedger es) (hr : TacoRank.replay es = .ok r) :
    r.eventsById = es.reverse := by
  refine v.run_induct (I := fun es r => r.eventsById = es.reverse) rfl ?_ hr
  intro es e r r' _ _ _ step ih
  rw [(Reducer.step_inv step).byId, ih, List.reverse_concat]

/-- `events_by_id.get` of the id of an event in the ledger. -/
lemma ValidLedger.eventById {es r} {f : Event} (v : ValidLedger es)
    (hr : TacoRank.replay es = .ok r) (mem : f ∈ es) : r.eventById f.eventId = some f := by
  rw [Reducer.eventById, v.eventsById hr]
  cases found : es.reverse.find? (fun e => e.eventId = f.eventId) with
  | none =>
    have absent := List.find?_eq_none.mp found f (by simpa using mem)
    simp at absent
  | some g =>
    have id := List.find?_some found
    have memg := List.mem_of_find?_eq_some found
    rw [List.mem_reverse] at memg
    rw [v.eq_of_id memg mem (of_decide_eq_true id)]

/-- The reducer finds the failure that an accepted recovery decision cites. -/
lemma RecoveryLegal.failureEvent {es r s e d n} (legal : RecoveryLegal es s d n)
    (v : ValidLedger es) (hr : TacoRank.replay es = .ok r) (ok : Accepted es e) :
    ∃ f, latestRecoverableFailure es d.experimentId = some f ∧
      (r.observe e).eventById d.failureEventId = some f := by
  obtain ⟨f, hf, id⟩ := legal.failure
  refine ⟨f, hf, ?_⟩
  have mem := (latestRecoverableFailure_mem hf).1
  have earlier : ¬ e.eventId = f.eventId := by
    intro same
    obtain ⟨a, b, rfl⟩ := List.append_of_mem mem
    rw [ok.1, v.eventId] at same
    simp at same
  rw [Reducer.eventById, Reducer.observe, List.find?_cons_of_neg (by simpa [id] using earlier), id]
  exact v.eventById hr mem

end TacoRank
