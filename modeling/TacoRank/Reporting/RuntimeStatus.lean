import TacoRank.Orchestrator.Discipline
import TacoRank.Orchestrator.LanesCommute

/-!
# Runtime status

`runtime_status` of `reporting/results.py`: the phase, derived from the events a second time and compared
with the phase of the projection, and the anchors of live monitoring. The two phases agree for every ledger
of the store, so the comparison fails after no append; what can fail is the deadline of the stage, which need
not be a `datetime` (`runtime_phase_agrees`). What else `rebuild_views` renders is a parameter.
-/

namespace TacoRank
open Lib Lib.Result

/-- The phase in which a retry resumes, in `_phase_after_event`. -/
def retryPhase (find : EventId → Option Event) (decision : RecoveryDecision) : Phase :=
  let failure := find decision.failureEventId
  let failureStage := failure.bind (·.payload.failureStage)
  if failureStage = some .coding then .coding
  else if failureStage = some .patchGate then .patchGate
  else if failureStage = some .outputGate then .outputGate
  else if failureStage = some .evaluation then
    let cause := (failure.bind (·.causationEventId)).bind find
    if cause.map (·.payload.type) = some .evaluationCompleted then .decision else .evaluation
  else .execution

/-- `_phase_after_event`, with `events_by_id.get`. -/
def phaseAfterEvent (find : EventId → Option Event) (previous : Phase) (event : Event) : Phase :=
  match event.payload with
  | .runStarted _ => .contractVerification
  | .contractVerified _ => .baseline
  | .baselineVerified _ => .planning
  | .contextCreated context => .context context.role
  | .experimentProposed _ => .coding
  | .patchCreated _ => .patchGate
  | .patchChecked result => if result.accepted then .execution else .recovery
  | .executionStarted _ => .running
  | .executionFinished result => if result.outcome = .success then .outputGate else .recovery
  | .adapterFailed _ => .recovery
  | .planningFailed _ => .planningFailure
  | .recoveryDecided decision =>
    if decision.action ∈ [.abandon, .rollback, .returnToPlanner] then .planning
    else if decision.action = .adjustApprovedRuntimeSetting then .execution
    else if decision.action = .retrySameCommit then retryPhase find decision
    else .recovery
  | .outputChecked result => if result.accepted then .evaluation else .recovery
  | .evaluationCompleted result => if result.trust.verdict = .noOp then .recovery else .decision
  | .experimentDecided decision => if decision.decision = .promote then .execution else .planning
  | .runStopped reasonCode _ => if isFinalizableStopReason reasonCode then .stopped else .failed
  | .finalSelected _ => .submission
  | .submissionChecked payload => if payload.accepted then .finalized else .failed
  | _ => previous

/-- The phase after the events; the last event of an id is the one in `events_by_id`. -/
def runtimePhase (events : List Event) : Phase :=
  events.foldl (phaseAfterEvent (lookup events.reverse)) .notStarted

/-- The local variables of the loop of `runtime_status`. -/
structure StageView where
  phase : Phase := .notStarted
  stageStartedAt : Option Int := none
deriving DecidableEq

/-- One round of the loop: a stage starts where the phase changes. -/
def StageView.step (find : EventId → Option Event) (view : StageView) (event : Event) : StageView :=
  let nextPhase := phaseAfterEvent find view.phase event
  { phase := nextPhase
    stageStartedAt := if nextPhase ≠ view.phase then some event.timestamp else view.stageStartedAt }

/-- The loop of `runtime_status`. -/
def stageView (events : List Event) : StageView :=
  events.foldl (StageView.step (lookup events.reverse)) {}

/-- `_configured_stage_timeout`, in seconds. -/
def configuredStageTimeout (events : List Event) (phase : Phase) (experimentId : Option String) :
    Option Nat :=
  match phase with
  | .context .coder => events.reverse.findSome? fun event => match event.payload with
    | .contextCreated context =>
      if context.role = .coder ∧ context.experimentId = experimentId then
        some context.wallTimeLimitSeconds
      else
        none
    | _ => none
  | .running => events.reverse.findSome? fun event => match event.payload with
    | .executionStarted request =>
      if some request.experimentId = experimentId then some request.timeoutSeconds else none
    | _ => none
  | _ => none

/-- `timedelta(seconds=..)`, in microseconds. -/
def timedelta (seconds : Nat) : Except PyError Int := do
  let days := seconds / 86400
  if 2 ^ 31 ≤ days then
    throw (.overflowError "Python int too large to convert to C int")
  if 999999999 < days then
    throw (.overflowError ("days=" ++ toString days ++ "; must have magnitude <= 999999999"))
  return 1000000 * seconds

/-- `datetime.max`, in microseconds since 1970. -/
def datetimeMax : Int := 253402300799999999

/-- `datetime + timedelta`, of a positive timedelta. -/
def datetimeAdd (moment delta : Int) : Except PyError Int :=
  if datetimeMax < moment + delta then
    throw (.overflowError "date value out of range")
  else
    return moment + delta

/-- `deadline` of `runtime_status`. -/
def stageDeadline (stageStartedAt : Option Int) (timeoutSeconds : Option Nat) :
    Except PyError (Option Int) :=
  match stageStartedAt, timeoutSeconds with
  | some startedAt, some timeout => do
    let delta ← timedelta timeout
    let deadline ← datetimeAdd startedAt delta
    return some deadline
  | _, _ => return none

/-- What `runtime_status` returns; durations count microseconds. -/
structure RuntimeStatus where
  experimentId : Option String
  phase : Phase
  attempt : Option Nat
  fidelity : Option Fidelity
  stageStartedAt : Option Int
  stageElapsedAtLedgerHead : Int
  configuredTimeoutSeconds : Option Nat
  estimatedDeadline : Option Int
  lastEventId : Option EventId
  lastEventType : Option EventType
  lastEventAt : Option Int
deriving DecidableEq

/-- The dictionary that `runtime_status` returns. -/
def RuntimeStatus.anchors (events : List Event) (state : RunState) (stageStartedAt : Option Int)
    (timeoutSeconds : Option Nat) (deadline : Option Int) : RuntimeStatus :=
  let lastEvent := events.getLast?
  { experimentId :=
      state.activeExperimentId <|> events.reverse.findSome? fun event => event.payload.owner
    phase := state.phase
    attempt := state.activeAttempt
    fidelity := state.activeFidelity
    stageStartedAt
    stageElapsedAtLedgerHead := match lastEvent, stageStartedAt with
      | some last, some startedAt => max 0 (last.timestamp - startedAt)
      | _, _ => 0
    configuredTimeoutSeconds := timeoutSeconds
    estimatedDeadline := deadline
    lastEventId := lastEvent.map (·.eventId)
    lastEventType := lastEvent.map (·.payload.type)
    lastEventAt := lastEvent.map (·.timestamp) }

/-- `runtime_status`. -/
def runtimeStatus (events : List Event) : Except PyError RuntimeStatus := do
  let state ← project events
  let view := stageView events
  if view.phase ≠ state.phase then
    throw (.valueError "runtime phase projection disagrees with run state")
  let timeoutSeconds := configuredStageTimeout events state.phase state.activeExperimentId
  let deadline ← stageDeadline view.stageStartedAt timeoutSeconds
  return .anchors events state view.stageStartedAt timeoutSeconds deadline

/-- `Harness._append`: the store's append, and `rebuild_views` of the ledger after it. -/
def appendAndRebuild (render : List Event → RuntimeStatus → Except PyError Unit) (events : List Event)
    (s : Submission) : Except PyError (Event × List Event) := do
  let appended ← EventStore.append events s
  let status ← runtimeStatus appended.2
  render appended.2 status
  return appended

/-- The deadline of the current stage, if it has one, is a `datetime`. -/
def DeadlineFits (events : List Event) : Prop :=
  ∀ state startedAt timeout, project events = .ok state →
    (stageView events).stageStartedAt = some startedAt →
    configuredStageTimeout events state.phase state.activeExperimentId = some timeout →
    timeout / 86400 ≤ 999999999 ∧ startedAt + 1000000 * timeout ≤ datetimeMax

/-! ### The deadline -/

/-- A timedelta has at most 999999999 days. -/
lemma timedelta_cases (seconds : Nat) :
    timedelta seconds = .ok (1000000 * seconds) ∧ seconds / 86400 ≤ 999999999 ∨
    (∃ message, timedelta seconds = .error (.overflowError message)) ∧ 999999999 < seconds / 86400 := by
  by_cases wide : 2 ^ 31 ≤ seconds / 86400
  · exact .inr ⟨⟨_, by simp only [timedelta, if_pos wide]; rfl⟩, by omega⟩
  by_cases long : 999999999 < seconds / 86400
  · exact .inr ⟨⟨_, by simp only [timedelta, if_neg wide, if_pos long]; rfl⟩, long⟩
  · exact .inl ⟨by simp only [timedelta, if_neg wide, if_neg long]; rfl, by omega⟩

/-- A stage has a deadline, unless it is configured to end after the last `datetime`. -/
lemma stageDeadline_cases (stageStartedAt : Option Int) (timeoutSeconds : Option Nat) :
    (∃ deadline, stageDeadline stageStartedAt timeoutSeconds = .ok deadline ∧
      ∀ startedAt timeout, stageStartedAt = some startedAt → timeoutSeconds = some timeout →
        timeout / 86400 ≤ 999999999 ∧ startedAt + 1000000 * timeout ≤ datetimeMax) ∨
    (∃ message, stageDeadline stageStartedAt timeoutSeconds = .error (.overflowError message)) ∧
      ∃ startedAt timeout, stageStartedAt = some startedAt ∧ timeoutSeconds = some timeout ∧
        ¬ (timeout / 86400 ≤ 999999999 ∧ startedAt + 1000000 * timeout ≤ datetimeMax) := by
  cases stageStartedAt with
  | none => exact .inl ⟨none, rfl, nofun⟩
  | some startedAt => cases timeoutSeconds with
    | none => exact .inl ⟨none, rfl, nofun⟩
    | some timeout =>
      rcases timedelta_cases timeout with ⟨delta, fits⟩ | ⟨⟨message, raised⟩, long⟩
      · by_cases late : datetimeMax < startedAt + 1000000 * timeout
        · refine .inr ⟨⟨"date value out of range", ?_⟩, startedAt, timeout, rfl, rfl, by omega⟩
          rw [stageDeadline, delta, ok_bind, datetimeAdd, if_pos late]
          rfl
        · refine .inl ⟨some (startedAt + 1000000 * timeout), ?_, fun _ _ start limit => ?_⟩
          · rw [stageDeadline, delta, ok_bind, datetimeAdd, if_neg late]
            rfl
          · cases start
            cases limit
            exact ⟨fits, not_lt.mp late⟩
      · refine .inr ⟨⟨message, ?_⟩, startedAt, timeout, rfl, rfl, by omega⟩
        rw [stageDeadline, raised]
        rfl

/-! ### One event -/

/-- The phase that goes with the status in which a retry resumes. -/
def ExperimentStatus.resumePhase : ExperimentStatus → Phase
  | .proposed => .coding
  | .patchReady => .patchGate
  | .outputReady => .outputGate
  | .evaluated => .decision
  | .outputVerified => .evaluation
  | _ => .execution

lemma retryPhase_eq {find : EventId → Option Event} {decision : RecoveryDecision} :
    retryPhase find decision = (resumed find decision).resumePhase := by
  unfold retryPhase resumed
  dsimp only
  split_ifs <;> rfl

/-- The reducer resumes in the phase of its status. -/
lemma Reducer.retryTarget_phase {r : Reducer} {failure : Option Event} :
    (r.retryTarget failure).2 = (r.retryTarget failure).1.resumePhase := by
  unfold retryTarget
  split
  · rfl
  · rfl
  · rfl
  · split <;> rfl
  · rfl

/-- A decision leaves the run executing or planning. -/
lemma Reducer.decidedRun_phase (r : Reducer) (n : ExperimentNode) (d : ExperimentDecision) :
    (r.decidedRun n d).state.phase = if d.decision = .promote then .execution else .planning := by
  unfold decidedRun
  split
  · rfl
  · split
    · rfl
    · split <;> rfl

/-- The phase after a step of the reducer. -/
lemma Reducer.step_phase {r r' : Reducer} {e : Event} (h : r.step e = .ok r') :
    r'.state.phase = phaseAfterEvent (r.observe e).eventById r.state.phase e := by
  unfold step branch at h
  unfold phaseAfterEvent
  obtain ⟨eventId, timestamp, runId, key, cause, payload, delta⟩ := e
  cases payload with
  | patchCreated d | patchChecked d | executionStarted d | executionFinished d | adapterFailed d
  | outputChecked d | evaluationCompleted d =>
    simp only [bind_eq_ok, pure_eq_ok, RunState.updateNode_ok, observe] at h
    obtain ⟨s, ⟨n, hn, rfl⟩, rfl⟩ := h
    rfl
  | recoveryDecided d =>
    simp only [bind_eq_ok, pure_eq_ok, RunState.updateNode_ok] at h
    obtain ⟨s, ⟨n, hn, rfl⟩, rfl⟩ := h
    dsimp only
    rw [retryPhase_eq, ← retryTarget_resumed, ← retryTarget_phase]
    unfold recoveryRun
    cases d.action <;> rfl
  | experimentDecided d =>
    simp only [bind_eq_ok, pure_eq_ok, RunState.updateNode_ok, RunState.node_ok, observe] at h
    obtain ⟨m, hm, s, ⟨n, hn, rfl⟩, rfl⟩ := h
    exact decidedRun_phase _ m d
  | lessonStatusChanged lessonId status reason =>
    simp only at h
    split at h
    · cases h
    · cases h
      rfl
  | baselineVerified payload =>
    simp only [pure_eq_ok, observe] at h
    subst h
    unfold RunState.baselineVerified
    dsimp only
    split <;> rfl
  | _ =>
    simp only [pure_eq_ok, observe] at h
    subst h
    rfl

/-- The phase depends on the ledger through the failures that retries answer. -/
lemma phaseAfterEvent_congr {find find' : EventId → Option Event} {previous : Phase} {e : Event}
    (same : ∀ d, e.payload = .recoveryDecided d → resumed find d = resumed find' d) :
    phaseAfterEvent find previous e = phaseAfterEvent find' previous e := by
  unfold phaseAfterEvent
  cases p : e.payload with
  | recoveryDecided d => simp only [retryPhase_eq, same d p]
  | _ => rfl

/-! ### Whole ledgers -/

section Ledger
variable {es : List Event}

/-- The last event of an id is the only one. -/
lemma lookup_reverse (numbered : Numbered es) : lookup es.reverse = lookup es := by
  funext eventId
  cases found : lookup es eventId with
  | none =>
    have absent := List.find?_eq_none.mp found
    refine List.find?_eq_none.mpr fun e mem => absent e (List.mem_reverse.mp mem)
  | some e =>
    have mem := List.mem_of_find?_eq_some found
    have same : e.eventId = eventId := by simpa using List.find?_some (show es.find? _ = some e from found)
    rw [← same]
    exact lookup_eq (numbered.perm (List.reverse_perm es).symm) (List.mem_reverse.mpr mem)

/-- The phases agree after every front of a ledger. -/
lemma replay_phase {pre post : List Event} (grounded : Log.Valid Grounded (pre ++ post))
    (numbered : Numbered (pre ++ post)) {r : Reducer} (hr : replay pre = .ok r) :
    pre.foldl (phaseAfterEvent (lookup (pre ++ post))) .notStarted = r.state.phase := by
  induction pre using List.reverseRecOn generalizing post r with
  | nil =>
    cases hr
    rfl
  | append_singleton pre e ih =>
    obtain ⟨r0, hr0, step⟩ := replay_snoc_inv hr
    rw [List.append_assoc, List.singleton_append] at grounded numbered ⊢
    rw [List.foldl_append, ih grounded numbered hr0, Reducer.step_phase step]
    refine phaseAfterEvent_congr fun d payload => ?_
    exact (resumed_lookup numbered hr0 grounded.accepted payload).symm

/-- The loop derives the phase as the fold does. -/
lemma stageView_phase : (stageView es).phase = runtimePhase es := by
  suffices whole : ∀ find (view : StageView), (es.foldl (StageView.step find) view).phase =
      es.foldl (phaseAfterEvent find) view.phase from whole _ _
  intro find
  induction es with
  | nil => exact fun view => rfl
  | cons e es ih => exact fun view => ih (view.step find e)

/-- The phase of a ledger of the store is derived twice. -/
lemma runtimePhase_eq (v : ValidLedger es) (caused : Log.Valid Caused es) :
    ∃ state, project es = .ok state ∧ runtimePhase es = state.phase := by
  obtain ⟨r, hr⟩ := ValidLedger.replay v
  have projected : project es = .ok (r.state.aggregate es) := project_ok.mpr ⟨r, hr, rfl⟩
  have grounded : Log.Valid Grounded (es ++ []) := by simpa using v.grounded caused
  have numbered : Numbered (es ++ []) := by simpa using v.numbered
  have replayed := replay_phase grounded numbered hr
  refine ⟨_, projected, ?_⟩
  obtain ⟨totals, elapsed, same⟩ := r.state.aggregate_eq es
  rw [runtimePhase, lookup_reverse v.numbered, same, ← replayed, List.append_nil]

/-- The comparison of the phases holds, so that the deadline decides. -/
lemma runtimeStatus_eq (v : ValidLedger es) (caused : Log.Valid Caused es) {state : RunState}
    (projected : project es = .ok state) :
    runtimeStatus es = (stageDeadline (stageView es).stageStartedAt
        (configuredStageTimeout es state.phase state.activeExperimentId)).map
      (.anchors es state (stageView es).stageStartedAt
        (configuredStageTimeout es state.phase state.activeExperimentId)) := by
  obtain ⟨_, again, phase⟩ := runtimePhase_eq v caused
  cases projected.symm.trans again
  rw [← stageView_phase] at phase
  simp only [runtimeStatus, projected, ok_bind, phase, ne_eq, not_true_eq_false, if_false]
  cases stageDeadline (stageView es).stageStartedAt
    (configuredStageTimeout es state.phase state.activeExperimentId) <;> rfl

/-- `runtime_status` of a ledger of the store fails exactly at a deadline that is no `datetime`. -/
lemma runtimeStatus_cases (v : ValidLedger es) (caused : Log.Valid Caused es) {state : RunState}
    (projected : project es = .ok state) :
    (∃ status, runtimeStatus es = .ok status ∧ status.phase = state.phase ∧ DeadlineFits es) ∨
    (∃ message, runtimeStatus es = .error (.overflowError message)) ∧ ¬ DeadlineFits es := by
  rw [runtimeStatus_eq v caused projected]
  rcases stageDeadline_cases (stageView es).stageStartedAt
    (configuredStageTimeout es state.phase state.activeExperimentId) with
    ⟨deadline, answer, fits⟩ | ⟨⟨message, raised⟩, startedAt, timeout, start, limit, late⟩
  · refine .inl ⟨_, by rw [answer]; rfl, rfl, fun state' startedAt timeout projected' start limit => ?_⟩
    cases projected.symm.trans projected'
    exact fits startedAt timeout start limit
  · exact .inr ⟨⟨message, by rw [raised]; rfl⟩, fun fits =>
      late (fits state startedAt timeout projected start limit)⟩

/-- The store knows the cause of what it records. -/
lemma EventStore.append_caused {s : Submission} {e : Event} {es' : List Event} (fresh : s.existing es = none)
    (appended : EventStore.append es s = .ok (e, es')) : Caused es (s.event es) := by
  intro c cause
  simp only [EventStore.append, fresh] at appended
  split at appended
  · cases appended
  · split at appended
    · cases appended
    next known =>
      have named : s.causationEventId = some c := cause
      simp only [named, Option.any_some, decide_eq_true_eq, not_not, List.mem_map] at known
      exact known

/-- What the store appends keeps the ledger. -/
lemma append_ledger {s : Submission} {e : Event} {es' : List Event} (v : ValidLedger es)
    (caused : Log.Valid Caused es) (appended : EventStore.append es s = .ok (e, es')) :
    ValidLedger es' ∧ Log.Valid Caused es' := by
  have written := EventStore.append_inv appended
  cases written with
  | again mem same => exact ⟨v, caused⟩
  | recorded fresh run accepted =>
    have absent : s.existing es = none :=
      List.find?_eq_none.mpr fun e mem => by simpa using fresh e mem
    exact ⟨v.snoc accepted, caused.snoc (EventStore.append_caused absent appended)⟩

/-- For every ledger of the store the phase of `runtime_status` is the phase of the projection, so the
comparison does not fail after a write. What fails there is the deadline of a stage, and exactly when it is
not a `datetime`. -/
theorem runtime_phase_agrees (v : ValidLedger es) (caused : Log.Valid Caused es) :
    (∃ state, project es = .ok state ∧ runtimePhase es = state.phase ∧
      ((∃ status, runtimeStatus es = .ok status ∧ status.phase = state.phase ∧ DeadlineFits es) ∨
        (∃ message, runtimeStatus es = .error (.overflowError message)) ∧ ¬ DeadlineFits es)) ∧
      ∀ render s,
        (∀ error, EventStore.append es s = .error error → appendAndRebuild render es s = .error error) ∧
        ∀ appended, EventStore.append es s = .ok appended →
          (DeadlineFits appended.2 → ∃ status, runtimeStatus appended.2 = .ok status ∧
            appendAndRebuild render es s = (render appended.2 status).map fun _ => appended) ∧
          (¬ DeadlineFits appended.2 →
            ∃ message, appendAndRebuild render es s = .error (.overflowError message)) := by
  obtain ⟨state, projected, phase⟩ := runtimePhase_eq v caused
  refine ⟨⟨state, projected, phase, runtimeStatus_cases v caused projected⟩, fun render s =>
    ⟨fun error refused => ?_, fun appended written => ?_⟩⟩
  · rw [appendAndRebuild, refused]
    rfl
  · obtain ⟨v', caused'⟩ := append_ledger v caused written
    obtain ⟨state', projected', _⟩ := runtimePhase_eq v' caused'
    obtain ⟨status, rebuilt, _, fits⟩ | ⟨⟨message, raised⟩, late⟩ :=
      runtimeStatus_cases v' caused' projected'
    · refine ⟨fun _ => ⟨status, rebuilt, ?_⟩, fun late => absurd fits late⟩
      rw [appendAndRebuild, written, ok_bind, rebuilt, ok_bind]
      cases render appended.2 status <;> rfl
    · refine ⟨fun fits => absurd fits late, fun _ => ⟨message, ?_⟩⟩
      rw [appendAndRebuild, written, ok_bind, raised]
      rfl

end Ledger

open Scenario in
/-- An experiment whose coder fails once and is retried. -/
def coderRetriedRun : List Event := record (proposal 2 "one" ++
  [ (some 6, failed "one" 1 .coding), (some 7, recovery "one" 7 1 2 .retrySameCommit) ])

theorem runtime_phase_agrees_retried : runtimePhase coderRetriedRun = .coding ∧
    ∃ state, project coderRetriedRun = .ok state ∧ state.phase = .coding := by
  have valid : ValidLedger coderRetriedRun := .of_check (by decide +kernel)
  have caused : Log.Valid Caused coderRetriedRun := Log.Valid.of_checkFrom .nil (by decide +kernel)
  have coding : runtimePhase coderRetriedRun = .coding := by decide +kernel
  obtain ⟨⟨state, projected, same, _⟩, _⟩ := runtime_phase_agrees valid caused
  exact ⟨coding, state, projected, same.symm.trans coding⟩

open Scenario in
/-- A run up to its first proposal. -/
def proposedRun : List Event := record ((proposal 2 "one").take 5)

/-- The coder context of the proposal, with a limit of some ten thousand years. -/
def unboundedContext : Submission where
  runId := ""
  key := { experimentId := "one", stage := .coderContext, attempt := 1 }
  payload := .contextCreated
    { contextId := "coder", role := .coder, experimentId := some "one"
      wallTimeLimitSeconds := 300000000000 }
  causationEventId := some 5

/-- The store accepts the context of a coder without a useful limit, and the views fail after the write. -/
theorem unbounded_context_overflows :
    ValidLedger proposedRun ∧ Log.Valid Caused proposedRun ∧
    (∃ appended, EventStore.append proposedRun unboundedContext = .ok appended ∧
      appended.2.length = proposedRun.length + 1) ∧
    ∀ render, appendAndRebuild render proposedRun unboundedContext =
      .error (.overflowError "date value out of range") := by
  have valid : ValidLedger proposedRun := .of_check (by decide +kernel)
  have caused : Log.Valid Caused proposedRun := Log.Valid.of_checkFrom .nil (by decide +kernel)
  have written : EventStore.append proposedRun unboundedContext =
      .ok (unboundedContext.event proposedRun, proposedRun ++ [unboundedContext.event proposedRun]) := by
    decide +kernel
  have raised : runtimeStatus (proposedRun ++ [unboundedContext.event proposedRun]) =
      .error (.overflowError "date value out of range") := by decide +kernel
  refine ⟨valid, caused, ⟨_, written, rfl⟩, fun render => ?_⟩
  rw [appendAndRebuild, written, ok_bind, raised]
  rfl

end TacoRank
