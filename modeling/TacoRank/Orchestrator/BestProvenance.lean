import TacoRank.Orchestrator.BestEvidence

/-!
# Provenance of the best commit

`best.updated` is checked against `latest_commit_sha` of the node, which `patch.created` overwrites
whatever commit is gated, executed or scored afterwards. `best_provenance` shows that the best commit
is the scored and gated one as long as every development execution requests the latest commit of its
experiment and no evaluator failure of a fresh output names an old evaluation as its cause;
`staleRun` is a valid ledger whose best commit was neither gated nor evaluated.
-/

namespace TacoRank
open Lib Lib.Result

/-- An event names an `evaluation.completed` event as its cause. -/
def citesEvaluation (ledger : List Event) (e : Event) : Bool :=
  ledger.any fun c => e.causationEventId = some c.eventId && c.payload.type = .evaluationCompleted

/-- A development execution requests the latest commit of its experiment. -/
def requestsLatestCommit (pre : List Event) (e : Event) : Bool :=
  match e.payload with
  | .executionStarted q =>
    statusOf pre = some .stopped ||
      (nodeOf pre q.experimentId).bind (·.latestCommitSha) = some q.patchCommitSha
  | _ => true

/-- An evaluator failure on a verified output is not caused by an evaluation. -/
def evaluatorFailureFresh (ledger pre : List Event) (e : Event) : Bool :=
  match e.payload with
  | .adapterFailed res =>
    res.failureStage ≠ .evaluation ||
      (nodeOf pre res.experimentId).map (·.status) ≠ some .outputVerified ||
      !citesEvaluation ledger e
  | _ => true

/-- Both conditions, at every event of a ledger. -/
def RunsLatestCommit (es : List Event) : Prop :=
  ∀ pre e post, es = pre ++ e :: post →
    requestsLatestCommit pre e = true ∧ evaluatorFailureFresh es pre e = true

instance (es : List Event) : Decidable (RunsLatestCommit es) :=
  decidable_of_iff
    (∀ i : Fin es.length, requestsLatestCommit (es.take i) (es.get i) = true ∧
      evaluatorFailureFresh es (es.take i) (es.get i) = true)
    (Log.forall_split (P := fun pre e => requestsLatestCommit pre e = true ∧
      evaluatorFailureFresh es pre e = true)).symm

/-- The best commit is the one that the evaluation behind the cited decision scored, and it passed
the patch gate before. -/
structure CommitProvenance (pre : List Event) (b : BestUpdated) (c s v d : Event)
    (check : PatchCheckResult) (q : RunRequest) (res : EvaluationResult)
    (decision : ExperimentDecision) : Prop where
  order : [c, s, v, d].Sublist pre
  gated : c.payload = .patchChecked check ∧ check.experimentId = b.experimentId ∧
    check.accepted = true ∧ check.patchCommitSha = b.commitSha
  started : s.payload = .executionStarted q ∧ q.experimentId = b.experimentId ∧
    q.attempt = res.attempt
  evaluated : v.payload = .evaluationCompleted res ∧ res.experimentId = b.experimentId ∧
    evaluationRequest (eventsBefore pre v) res = .ok q
  decided : d.payload = .experimentDecided decision ∧ d.eventId = b.decisionEventId ∧
    decision.evaluationEventId = some v.eventId
  commit : b.commitSha = q.patchCommitSha

/-- Every best update of the ledger has its commit's provenance. -/
def BestProvenance (es : List Event) : Prop :=
  ∀ pre e post b, es = pre ++ e :: post → e.payload = .bestUpdated b →
    ∃ c s v d check q res decision, CommitProvenance pre b c s v d check q res decision

/-! ### The invariant -/

/-- An evaluation scored a commit. -/
def ScoresCommit (es : List Event) (v : Event) (commit : Option String) : Prop :=
  ∃ res q, v ∈ es ∧ v.payload = .evaluationCompleted res ∧ Scored (eventsBefore es v) res q ∧
    commit = some q.patchCommitSha

/-- The standings in which the last request of an experiment is still being worked on. -/
def InFlight : ExperimentStatus → Prop
  | .running | .outputReady | .outputVerified | .evaluated => True
  | _ => False

/-- A node is evaluated, or a retry would restore that status. -/
def Reviewed (ledger es : List Event) (x : String) (n : ExperimentNode) : Prop :=
  n.status = .evaluated ∨ n.status = .recovering ∧ ∃ f, latestRecoverableFailure es x = some f ∧
    f.payload.failureStage = some .evaluation ∧ citesEvaluation ledger f = true

/-- The latest commit of a node is the one being run, the one last evaluated, the one accepted. -/
structure LatestCommit (ledger es : List Event) (x : String) (n : ExperimentNode) : Prop where
  running : InFlight (standing es x n) → ∀ s q,
    lastForExperiment .executionStarted es x = some (s, q) →
    n.latestCommitSha = some q.patchCommitSha
  reviewed : Reviewed ledger es x n → ∃ v res,
    lastForExperiment .evaluationCompleted es x = some (v, res) ∧
    ScoresCommit es v n.latestCommitSha
  accepted : n.status = .accepted → n.bestEligible = true → ∃ d decision v,
    d ∈ es ∧ n.terminalEventId = some d.eventId ∧ d.payload = .experimentDecided decision ∧
    decision.evaluationEventId = some v.eventId ∧ ScoresCommit es v n.latestCommitSha

section Snoc
variable {ledger es : List Event} {e : Event} {x : String}

lemma ScoresCommit.snoc {v commit} (h : ScoresCommit es v commit) :
    ScoresCommit (es ++ [e]) v commit := by
  obtain ⟨res, q, mem, payload, scored, same⟩ := h
  exact ⟨res, q, List.mem_append_left _ mem, payload, by rwa [eventsBefore_append mem], same⟩

/-- The reading of the last evaluation is carried over an event that is none. -/
lemma LatestCommit.reviewed_snoc {n m : ExperimentNode} (h : LatestCommit ledger es x n)
    (silent : EventKind.evaluationCompleted.ofExperiment x e = none)
    (commit : m.latestCommitSha = n.latestCommitSha) (before : Reviewed ledger es x n) :
    ∃ v res, lastForExperiment .evaluationCompleted (es ++ [e]) x = some (v, res) ∧
      ScoresCommit (es ++ [e]) v m.latestCommitSha := by
  obtain ⟨v, res, last, scored⟩ := h.reviewed before
  refine ⟨v, res, ?_, ?_⟩
  · rw [lastForExperiment_snoc, silent, Option.none_or, last]
  · rw [commit]
    exact scored.snoc

/-- The request in flight is carried over an event that is none. -/
lemma LatestCommit.running_snoc {n m : ExperimentNode} (h : LatestCommit ledger es x n)
    (silent : EventKind.executionStarted.ofExperiment x e = none)
    (commit : m.latestCommitSha = n.latestCommitSha) (before : InFlight (standing es x n)) :
    ∀ s q, lastForExperiment .executionStarted (es ++ [e]) x = some (s, q) →
      m.latestCommitSha = some q.patchCommitSha := by
  intro s q last
  rw [lastForExperiment_snoc, silent, Option.none_or] at last
  rw [commit]
  exact h.running before s q last

end Snoc

/-- The statuses about which the invariant says nothing. -/
def AtRest : ExperimentStatus → Prop
  | .proposed | .patchReady | .readyToRun | .noOp | .rejected | .pruned | .invalid => True
  | _ => False

/-- A node at rest satisfies the invariant. -/
lemma LatestCommit.rest {ledger es x} {n : ExperimentNode} (idle : AtRest n.status) :
    LatestCommit ledger es x n := by
  have no {st} (status : n.status = st) (busy : ¬ AtRest st) : False := busy (status ▸ idle)
  refine ⟨fun inFlight => ?_, fun reviewed => ?_, fun accepted => (no accepted id).elim⟩
  · rw [standing_of_status fun recovering => no recovering id] at inFlight
    cases status : n.status <;> rw [status] at inFlight idle <;> first
      | exact absurd idle id
      | exact absurd inFlight id
  · rcases reviewed with evaluated | ⟨recovering, _⟩
    · exact (no evaluated id).elim
    · exact (no recovering id).elim

/-- A node that is neither reviewed nor accepted satisfies the invariant when its last request does. -/
lemma LatestCommit.inFlight {ledger es x st} {n : ExperimentNode} (status : n.status = st)
    (recovering : st ≠ .recovering) (evaluated : st ≠ .evaluated) (accepted : st ≠ .accepted)
    (running : ∀ s q, lastForExperiment .executionStarted es x = some (s, q) →
      n.latestCommitSha = some q.patchCommitSha) : LatestCommit ledger es x n := by
  subst status
  refine ⟨fun _ => running, fun reviewed => ?_, fun no => absurd no accepted⟩
  rcases reviewed with no | ⟨no, _⟩
  · exact absurd no evaluated
  · exact absurd no recovering

/-- A node whose failure was no adapter failure satisfies the invariant. -/
lemma LatestCommit.failed {ledger es e x} {n : ExperimentNode} (status : n.status = .recovering)
    (failure : e.payload.recoverableFailure = some x) (stage : e.payload.failureStage = none) :
    LatestCommit ledger (es ++ [e]) x n := by
  refine ⟨fun inFlight => ?_, fun reviewed => ?_, fun accepted => ?_⟩
  · rw [standing_failed status failure, stage] at inFlight
    exact absurd inFlight id
  · rcases reviewed with evaluated | ⟨_, f, latest, evaluation, _⟩
    · rw [status] at evaluated
      cases evaluated
    · rw [latestRecoverableFailure_snoc, if_pos failure] at latest
      cases latest
      rw [stage] at evaluation
      cases evaluation
  · rw [status] at accepted
    cases accepted

/-- An adapter failure keeps the request in flight. -/
lemma LatestCommit.adapterFailed {ledger es e x res} {n : ExperimentNode}
    (h : LatestCommit ledger es x n) (payload : e.payload = .adapterFailed res)
    (owner : res.experimentId = x) (legal : n.status ∈ allowedFailureStates es res)
    (node : nodeOf es x = some n) (fresh : evaluatorFailureFresh ledger es e = true) :
    LatestCommit ledger (es ++ [e]) x (n.adapterFailed res) := by
  have failure : e.payload.recoverableFailure = some x := by
    simp [payload, EventPayload.recoverableFailure, owner]
  have stage : e.payload.failureStage = some res.failureStage := by
    simp [payload, EventPayload.failureStage]
  have allowed := mem_allowedFailureStates legal
  refine ⟨fun inFlight => ?_, fun reviewed => ?_, fun accepted => ?_⟩
  · refine h.running_snoc (EventKind.ofExperiment_none (by rw [payload]; rfl)) rfl ?_
    rw [standing_failed rfl failure, stage] at inFlight
    cases hs : res.failureStage with
    | outputGate =>
      simp only [hs, FailureStage.expectedStates, List.mem_singleton, reduceCtorEq, false_and,
        and_false, or_false] at allowed
      rw [standing_of_status (by simp [allowed]), allowed]
      trivial
    | evaluation =>
      simp only [hs, FailureStage.expectedStates, List.mem_cons, List.not_mem_nil, reduceCtorEq,
        false_and, and_false, or_false] at allowed
      rcases allowed with status | status
      · rw [standing_of_status (by simp [status]), status]
        trivial
      · rw [standing_of_status (by simp [status]), status]
        trivial
    | _ =>
      rw [hs] at inFlight
      exact absurd inFlight id
  · refine h.reviewed_snoc (EventKind.ofExperiment_none (by rw [payload]; rfl)) rfl ?_
    rcases reviewed with evaluated | ⟨_, f, latest, evaluation, cites⟩
    · cases evaluated
    · rw [latestRecoverableFailure_snoc, if_pos failure] at latest
      cases latest
      rw [stage] at evaluation
      cases hs : res.failureStage <;> rw [hs] at evaluation <;> cases evaluation
      simp only [hs, FailureStage.expectedStates, List.mem_cons, List.not_mem_nil, reduceCtorEq,
        false_and, and_false, or_false] at allowed
      rcases allowed with status | status
      · simp [evaluatorFailureFresh, payload, owner, node, hs, status, cites] at fresh
      · exact .inl status
  · cases accepted

/-- The failure that a retry sends back to `EVALUATED` cites an evaluation. -/
lemma citesEvaluation_of_caused {ledger es post e f} {r : Reducer} (v : ValidLedger es)
    (hr : replay es = .ok r) (split : ledger = es ++ e :: post)
    (caused : (r.observe e).causedByEvaluation (some f) = true) :
    citesEvaluation ledger f = true := by
  unfold Reducer.causedByEvaluation at caused
  rw [Option.bind_some] at caused
  split at caused
  · rename_i c hc
    obtain ⟨id, cause, lookup⟩ := Option.bind_eq_some_iff.mp hc
    have same := List.find?_some lookup
    have mem := List.mem_of_find?_eq_some lookup
    have mem' : c ∈ ledger := by
      simp only [Reducer.observe, List.mem_cons, v.eventsById hr, List.mem_reverse] at mem
      rw [split]
      rcases mem with rfl | mem
      · simp
      · simp [mem]
    refine List.any_eq_true.mpr ⟨c, mem', ?_⟩
    rw [cause, Bool.and_eq_true]
    refine ⟨?_, caused⟩
    rw [of_decide_eq_true same]
    exact decide_eq_true rfl
  · cases caused

/-- A recovery decision keeps the request in flight. -/
lemma LatestCommit.recoveryDecided {ledger es post e x d f} {r : Reducer} {n : ExperimentNode}
    (h : LatestCommit ledger es x n) (v : ValidLedger es) (hr : replay es = .ok r)
    (split : ledger = es ++ e :: post) (payload : e.payload = .recoveryDecided d)
    (status : n.status = .recovering) (latest : latestRecoverableFailure es x = some f)
    (found : (r.observe e).eventById d.failureEventId = some f) :
    LatestCommit ledger (es ++ [e]) x ((r.observe e).recoveryNode e.eventId d n) := by
  have silent : e.payload.recoverableFailure ≠ some x := by
    simp [payload, EventPayload.recoverableFailure]
  have target := (r.observe e).recoveryNode_status e.eventId d n
  have commit := (r.observe e).recoveryNode_latestCommitSha e.eventId d n
  generalize (r.observe e).recoveryNode e.eventId d n = m at target commit ⊢
  have started : EventKind.executionStarted.ofExperiment x e = none :=
    EventKind.ofExperiment_none (by rw [payload]; rfl)
  have evaluated : EventKind.evaluationCompleted.ofExperiment x e = none :=
    EventKind.ofExperiment_none (by rw [payload]; rfl)
  unfold Reducer.recoveryStatus at target
  cases action : d.action with
  | traeRepair | restartFromTrustedParent =>
    rw [action] at target
    dsimp only at target
    refine ⟨fun inFlight => ?_, fun reviewed => ?_, fun accepted => ?_⟩
    · refine h.running_snoc started commit ?_
      rw [standing_other silent] at inFlight
      rw [standing, if_pos target] at inFlight
      rw [standing, if_pos status]
      exact inFlight
    · refine h.reviewed_snoc evaluated commit ?_
      rcases reviewed with no | ⟨_, g, latest', stage, cites⟩
      · simp [target] at no
      · rw [latestRecoverableFailure_snoc, if_neg silent] at latest'
        exact .inr ⟨status, g, latest', stage, cites⟩
    · simp [target] at accepted
  | retrySameCommit =>
    rw [action] at target
    simp only [found, Reducer.retryTarget_some] at target
    cases stage : f.payload.failureStage with
    | none =>
      rw [stage] at target
      exact .rest (by rw [target]; trivial)
    | some st =>
      rw [stage] at target
      cases st with
      | outputGate =>
        dsimp only at target
        refine .inFlight target (by simp) (by simp) (by simp) (h.running_snoc started commit ?_)
        rw [standing, if_pos status, latest, Option.bind_some, stage]
        trivial
      | evaluation =>
        dsimp only at target
        refine ⟨fun _ => h.running_snoc started commit ?_, fun reviewed => ?_, fun accepted => ?_⟩
        · rw [standing, if_pos status, latest, Option.bind_some, stage]
          trivial
        · refine h.reviewed_snoc evaluated commit (.inr ⟨status, f, latest, stage, ?_⟩)
          split at target
          · exact citesEvaluation_of_caused v hr split ‹_›
          · rcases reviewed with no | ⟨no, _⟩ <;> simp [target] at no
        · split at target <;> simp [target] at accepted
      | _ => exact .rest (by rw [target]; trivial)
  | _ =>
    rw [action] at target
    exact .rest (by rw [target]; trivial)

/-- An evaluation scores the commit in flight. -/
lemma LatestCommit.evaluationCompleted {ledger es e x res q s} {n : ExperimentNode}
    (h : LatestCommit ledger es x n) (payload : e.payload = .evaluationCompleted res)
    (owner : res.experimentId = x) (legal : EvaluationLegal es s res n q) (fresh : ∀ e' ∈ es, e' ≠ e) :
    LatestCommit ledger (es ++ [e]) x (n.evaluationCompleted res) := by
  by_cases noOp : res.trust.verdict = .noOp
  · exact .failed (by simp [ExperimentNode.evaluationCompleted, noOp])
      (by simp [payload, EventPayload.recoverableFailure, owner, noOp])
      (by simp [payload, EventPayload.failureStage])
  · have verified : InFlight (standing es x n) := by
      rw [standing_of_status (by simp [legal.status]), legal.status]
      trivial
    refine ⟨fun _ => h.running_snoc (EventKind.ofExperiment_none (by rw [payload]; rfl)) rfl verified,
      fun _ => ⟨e, res, ?_, res, q, by simp, payload, ?_, ?_⟩, fun accepted => ?_⟩
    · rw [lastForExperiment_snoc, EventKind.ofExperiment_self (by rw [payload]; rfl) owner]
      rfl
    · have before : eventsBefore (es ++ [e]) e = es := by
        unfold eventsBefore
        rw [List.takeWhile_append_of_pos (by simpa using fresh)]
        simp
      rw [before]
      exact legal.request
    · obtain ⟨⟨s', q'⟩, started, same⟩ := legal.request.started
      rw [owner] at started
      cases same
      exact h.running verified s' q' started
    · simp [ExperimentNode.evaluationCompleted, noOp] at accepted

/-- A best-eligible acceptance keeps the evaluation it cites. -/
lemma LatestCommit.experimentDecided {ledger es e x d} {n : ExperimentNode}
    (h : LatestCommit ledger es x n) (payload : e.payload = .experimentDecided d)
    (owner : d.experimentId = x) (evidence : DecisionEvidence es n d) :
    LatestCommit ledger (es ++ [e]) x (n.decided e.eventId d) := by
  cases decision : d.decision with
  | accept =>
    have status : (n.decided e.eventId d).status = .accepted := by
      rw [ExperimentNode.decided_status, decision]
      rfl
    have eligible : (n.decided e.eventId d).bestEligible = d.bestEligible := by
      simp [ExperimentNode.decided, decision]
    have terminal : (n.decided e.eventId d).terminalEventId = some e.eventId := by
      simp [ExperimentNode.decided, decision]
    refine ⟨fun inFlight => ?_, fun reviewed => ?_, fun _ best => ?_⟩
    · rw [standing_of_status (by rw [status]; simp), status] at inFlight
      exact absurd inFlight id
    · rcases reviewed with no | ⟨no, _⟩ <;> rw [status] at no <;> cases no
    · rw [eligible] at best
      have full : d.fidelityCompleted = .full := d.validatePromotion.2 best
      cases evidence with
      | smoke fidelity => simp [full] at fidelity
      | @evaluated found _ evaluated last cited =>
        obtain ⟨v, res, last', scored⟩ := h.reviewed (.inl evaluated)
        rw [owner, last'] at last
        cases last
        refine ⟨e, d, v, by simp, terminal, payload, cited, ?_⟩
        rw [ExperimentNode.decided_latestCommitSha]
        exact scored.snoc
  | _ => exact .rest (by simp [decision, ExperimentDecisionKind.status, AtRest])

/-- Every accepted event before the stop keeps the invariant. -/
lemma NodeStep.latestCommit {ledger es post e x n n'} {r : Reducer}
    (step : NodeStep es r e x n n') (v : ValidLedger es) (hr : replay es = .ok r)
    (ok : Accepted es e) (split : ledger = es ++ e :: post) (node : nodeOf es x = n)
    (live : r.state.status ≠ .stopped) (latest : requestsLatestCommit es e = true)
    (fresh : evaluatorFailureFresh ledger es e = true)
    (h : ∀ m, n = some m → LatestCommit ledger es x m) :
    ∀ m, n' = some m → LatestCommit ledger (es ++ [e]) x m := by
  cases step with
  | frame other =>
    intro m hm
    have hm := h m hm
    have silent : e.payload.recoverableFailure ≠ some x := fun failure =>
      other (EventPayload.recoverableFailure_owned failure)
    refine ⟨fun inFlight => ?_, fun reviewed => ?_, fun accepted best => ?_⟩
    · rw [standing_other silent] at inFlight
      exact hm.running_snoc (EventKind.ofExperiment_frame other) rfl inFlight
    · refine hm.reviewed_snoc (EventKind.ofExperiment_frame other) rfl ?_
      rcases reviewed with evaluated | ⟨recovering, f, latest', stage⟩
      · exact .inl evaluated
      · rw [latestRecoverableFailure_snoc, if_neg silent] at latest'
        exact .inr ⟨recovering, f, latest', stage⟩
    · obtain ⟨d, decision, v, mem, terminal, payload, cited, scored⟩ := hm.accepted accepted best
      exact ⟨d, decision, v, List.mem_append_left _ mem, terminal, payload, cited, scored.snoc⟩
  | proposed =>
    rintro _ ⟨⟩
    exact .rest trivial
  | patchCreated =>
    rintro _ ⟨⟩
    exact .rest trivial
  | @patchChecked c m payload owner =>
    rintro _ ⟨⟩
    cases accepted : c.accepted with
    | true => exact .rest (by simp [ExperimentNode.patchChecked, accepted, AtRest])
    | false =>
      exact .failed (by simp [ExperimentNode.patchChecked, accepted])
        (by simp [payload, EventPayload.recoverableFailure, owner, accepted])
        (by simp [payload, EventPayload.failureStage])
  | @executionStarted q m payload owner =>
    rintro _ ⟨⟩
    subst owner
    have statusOk := statusOf_replay hr
    have here : EventKind.executionStarted.ofExperiment q.experimentId e = some (e, q) :=
      EventKind.ofExperiment_self (by rw [payload]; rfl) rfl
    have status : (m.executionStarted q).status = .running := rfl
    refine .inFlight status (by simp) (by simp) (by simp) fun s q' last => ?_
    rw [lastForExperiment_snoc, here] at last
    cases last
    have commit : m.latestCommitSha = some q.patchCommitSha := by
      simpa [requestsLatestCommit, payload, statusOk, live, node] using latest
    exact commit
  | @executionFinished res m payload owner legal =>
    rintro _ ⟨⟩
    by_cases success : res.outcome = .success
    · have status : (m.executionFinished res).status = .outputReady := by simp [success]
      refine .inFlight status (by simp) (by simp) (by simp) ?_
      refine (h m rfl).running_snoc (EventKind.ofExperiment_none (by rw [payload]; rfl))
        (m.executionFinished_latestCommitSha res) ?_
      rw [standing_of_status (by simp [legal.status]), legal.status]
      trivial
    · exact .failed (by simp [success])
        (by simp [payload, EventPayload.recoverableFailure, owner, success])
        (by simp [payload, EventPayload.failureStage])
  | adapterFailed payload owner legal =>
    rintro _ ⟨⟩
    exact (h _ rfl).adapterFailed payload owner legal node fresh
  | recoveryDecided payload owner legal =>
    rintro _ ⟨⟩
    obtain ⟨f, latest', found⟩ := legal.failureEvent v hr ok
    rw [owner] at latest'
    exact (h _ rfl).recoveryDecided v hr split payload legal.status latest' found
  | @outputChecked out m payload owner legal =>
    rintro _ ⟨⟩
    cases accepted : out.accepted with
    | true =>
      have status : (m.outputChecked out).status = .outputVerified := by
        simp [ExperimentNode.outputChecked, accepted]
      refine .inFlight status (by simp) (by simp) (by simp) ?_
      refine (h m rfl).running_snoc (EventKind.ofExperiment_none (by rw [payload]; rfl)) rfl ?_
      rw [standing_of_status (by simp [legal.status]), legal.status]
      trivial
    | false =>
      exact .failed (by simp [ExperimentNode.outputChecked, accepted])
        (by simp [payload, EventPayload.recoverableFailure, owner, accepted])
        (by simp [payload, EventPayload.failureStage])
  | evaluationCompleted payload owner legal =>
    rintro _ ⟨⟩
    refine (h _ rfl).evaluationCompleted payload owner legal ?_
    rintro e' mem rfl
    have vl : ValidLedger (es ++ e' :: []) := .snoc v ok
    have low := vl.id_le mem
    rw [ok.1] at low
    exact absurd low (Nat.not_succ_le_self _)
  | experimentDecided payload owner evidence =>
    rintro _ ⟨⟩
    exact (h _ rfl).experimentDecided payload owner evidence

/-- The invariant holds at every front of a live ledger that runs the latest commits. -/
lemma ValidLedger.latestCommit {ledger es post r} (v : ValidLedger es)
    (runs : RunsLatestCommit ledger) (split : ledger = es ++ post)
    (hr : TacoRank.replay es = .ok r) (live : Live r.state.status) (x : String) :
    ∀ n, r.state.experiments.get? x = some n → LatestCommit ledger es x n := by
  refine v.run_induct (I := fun es r => ∀ post, ledger = es ++ post → Live r.state.status →
    ∀ n, r.state.experiments.get? x = some n → LatestCommit ledger es x n) ?_ ?_ hr post split live
  · rintro _ _ _ _ ⟨⟩
  · intro es e r r' v hr ok step ih post split live
    have split' : ledger = es ++ e :: post := by simpa using split
    have live' := live_back hr ok step live
    obtain ⟨latest, fresh⟩ := runs _ _ _ split'
    have notStopped : r.state.status ≠ .stopped := by
      intro stopped
      rw [stopped] at live'
      exact live'
    exact (node_step hr ok step x).latestCommit v hr ok split' (nodeOf_replay hr) notStopped latest
      fresh (ih _ split' live')

/-- Best-commit provenance: when every development execution requests the latest commit of its
experiment and no evaluator failure of a verified output names an evaluation as its cause, the commit
of every best update was gated, and scored by the evaluation behind the cited decision. -/
theorem best_provenance {es} (v : ValidLedger es) (runs : RunsLatestCommit es) :
    BestProvenance es := by
  rintro pre e post b rfl payload
  obtain ⟨r, n, hr, hn, ⟨⟨notFinalized, notFailed⟩, stopped, finalizing⟩, legal⟩ := v.best_inv payload
  have live : Live r.state.status := by
    cases before : r.state.status with
    | stopped => cases stopped before
    | finalizing => cases finalizing before
    | finalized => exact absurd before notFinalized
    | failed => exact absurd before notFailed
    | _ => trivial
  have latest := v.front.latestCommit runs rfl hr live b.experimentId n hn
  obtain ⟨d, decision, V, memD, terminal, decided, cited, res, q, memV, evaluated, scored, commit⟩ :=
    latest.accepted legal.status legal.eligible
  -- the decision that the update cites is the one that closed the node
  obtain ⟨⟨D, dD⟩, lookup, terminal', owner, accept, eligible⟩ := legal.decision
  obtain ⟨memD', id, read⟩ := eventWithId_spec lookup
  rw [terminal] at terminal'
  have same := v.front.eq_of_id memD memD' (Option.some.inj terminal')
  subst same
  have decided' := EventPayload.decision_eq read
  rw [decided] at decided'
  cases decided'
  -- its evaluation was recorded before it
  obtain ⟨a, a', split⟩ := List.append_of_mem memD
  subst split
  have vpre := v.front
  obtain ⟨_, m, _, _, evidence⟩ := vpre.decision_inv decided
  have full : dD.fidelityCompleted = .full := dD.validatePromotion.2 eligible
  cases evidence with
  | smoke fidelity => simp [full] at fidelity
  | @evaluated found _ _ last cited' =>
    obtain ⟨V', res'⟩ := found
    obtain ⟨evaluated', owner'⟩ := lastForExperiment_payload last
    have memV' := lastForExperiment_mem last
    rw [cited] at cited'
    have same := vpre.eq_of_id memV (List.mem_append_left _ memV') (Option.some.inj cited')
    subst same
    obtain ⟨w, w', splitW⟩ := List.append_of_mem memV'
    subst splitW
    rw [evaluated] at evaluated'
    cases evaluated'
    have before : eventsBefore (w ++ V :: w' ++ d :: a') V = w := by
      rw [eventsBefore_append (by simp)]
      exact vpre.front.eventsBefore
    obtain ⟨c, s, f, o, check, q', run, out, chain⟩ := evaluation_provenance vpre.front evaluated
    have request := chain.request
    rw [before] at scored
    rw [evaluationRequest_ok.mpr scored] at request
    cases request
    have x : res'.experimentId = b.experimentId := owner'.trans owner
    have commit' : b.commitSha = q.patchCommitSha := by
      rw [legal.commit] at commit
      exact Option.some.inj commit
    refine ⟨c, s, V, d, check, q, res', dD, ?_, ?_, ?_, ?_, ?_, commit'⟩
    · have two : [c, s].Sublist w :=
        ((List.Sublist.refl [c, s]).append (List.nil_sublist [f, o])).trans chain.order
      have three : [c, s, V].Sublist (w ++ V :: w') :=
        two.append (List.singleton_sublist.mpr (by simp))
      exact three.append (List.singleton_sublist.mpr (by simp : d ∈ d :: a'))
    · obtain ⟨gate, gateOwner, accepted⟩ := chain.checked
      exact ⟨gate, gateOwner.trans x, accepted, chain.receipt.2.trans commit'.symm⟩
    · obtain ⟨started, startedOwner, attempt⟩ := chain.started
      exact ⟨started, startedOwner.trans x, attempt⟩
    · rw [before]
      exact ⟨evaluated, x, evaluationRequest_ok.mpr scored⟩
    · exact ⟨decided, id, cited⟩

theorem best_provenance_run : BestProvenance bestRun := by
  have v : ValidLedger bestRun := .of_check (by decide +kernel)
  exact best_provenance v (by decide +kernel)

open Scenario in
/-- A run in which a repaired patch is never gated: its gate adapter fails, and a runtime adjustment
sends the experiment back to running the commit of the older receipt. -/
def staleRun : List Event := record (proposal 2 "exp" ++
  [ (some 6, patch "exp" 1 "a"), (some 7, gatePassed "exp" 1 "a"),
    (some 8, .executionStarted (request "exp" 1 "a" 0)), (some 9, crashed "exp" 1 "a"),
    (some 10, recovery "exp" 10 1 1 .traeRepair), (some 11, patch "exp" 2 "b"),
    (some 12, failed "exp" 2 .patchGate),
    (some 13, recovery "exp" 13 2 1 .adjustApprovedRuntimeSetting),
    (some 14, .executionStarted (request "exp" 2 "a" 0)), (some 15, finished "exp" 2 "a"),
    (some 16, outputPassed "exp" 2), (some 17, evaluation "exp" 2 0 1 (3 / 5)),
    (some 18, confirm "exp" 18), (some 19, .executionStarted (request "exp" 3 "a" 1)),
    (some 20, finished "exp" 3 "a"), (some 21, outputPassed "exp" 3),
    (some 22, confirmation "exp" 3 1 2 (3 / 5) 18), (some 23, accept "exp" 23),
    (some 24, best "exp" "b" (3 / 5) 24) ])

/-- Whether a commit has an accepted gate check. -/
def gatedCommit (es : List Event) (commit : String) : Bool :=
  es.any fun e => match e.payload with
    | .patchChecked check => check.accepted && check.patchCommitSha = commit
    | _ => false

theorem best_commit_never_gated : ValidLedger staleRun ∧ ¬ BestProvenance staleRun := by
  refine ⟨.of_check (by decide +kernel), fun provenance => ?_⟩
  have split : staleRun = staleRun.take 24 ++ staleRun.get ⟨24, by decide⟩ :: [] := by rfl
  obtain ⟨c, s, v, d, check, q, res, decision, h⟩ := provenance _ _ _ _ split rfl
  obtain ⟨gate, _, accepted, commit⟩ := h.gated
  have mem : c ∈ staleRun.take 24 := h.order.subset (by simp)
  have gated : gatedCommit (staleRun.take 24) "b" = true :=
    List.any_eq_true.mpr ⟨c, mem, by simp [gate, accepted, commit]⟩
  have never : gatedCommit (staleRun.take 24) "b" = false := by decide +kernel
  rw [never] at gated
  cases gated

end TacoRank
