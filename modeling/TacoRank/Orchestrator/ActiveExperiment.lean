import TacoRank.Orchestrator.Lifecycle
import TacoRank.Orchestrator.RunStep
import TacoRank.Orchestrator.Scenario

/-!
# The active experiment

The projection clears the active experiment when an experiment is abandoned, rolled back or decided,
but not when it is returned to the planner. A planning failure is recorded without an experiment, so
it is rejected as long as one is active. `active_experiment` states exactly which ledgers are free of
this: those that return experiments to the planner only while no experiment is active.
-/

namespace TacoRank
open Lib Lib.Result

/-- The active experiment in the projection of a ledger. -/
def activeOf (es : List Event) : Option String :=
  match project es with
  | .ok s => s.activeExperimentId
  | .error _ => none

lemma activeOf_replay {es r} (hr : replay es = .ok r) : activeOf es = r.state.activeExperimentId := by
  have projected : project es = .ok (r.state.aggregate es) := project_ok.mpr ⟨r, hr, rfl⟩
  obtain ⟨totals, elapsed, aggregate⟩ := r.state.aggregate_eq es
  simp only [activeOf, projected, aggregate]

/-- The active experiment has not ended. -/
def ActiveLive (es : List Event) : Prop :=
  ∀ x, activeOf es = some x → ∃ n, nodeOf es x = some n ∧ n.status.terminal = false

/-- An event that closes an experiment or returns it to the planner. -/
def EventPayload.closes : EventPayload → Bool
  | .recoveryDecided decision => decision.action ∈ [.abandon, .rollback, .returnToPlanner]
  | .experimentDecided decision => decision.decision ≠ .promote
  | _ => false

/-- An event that returns an experiment to the planner. -/
def EventPayload.returnsToPlanner : EventPayload → Bool
  | .recoveryDecided decision => decision.action = .returnToPlanner
  | _ => false

/-- The event that records a context next. -/
def nextContext (es : List Event) (context : ContextDocument) : Event :=
  { eventId := es.length + 1
    key := { experimentId := "run", stage := .plannerContext, attempt := 0 }
    causationEventId := es.getLast?.map Event.eventId
    payload := .contextCreated context }

/-- A planner context and the failure of its planner can be recorded next. -/
def PlanningRecordable (es : List Event) : Prop :=
  ∀ event context result, event.eventId = es.length + 1 → event.payload = .contextCreated context →
    context.role = .planner → result.contextId = context.contextId →
    validateTransition es event.payload = .ok () ∧
      validateTransition (es ++ [event]) (.planningFailed result) = .ok ()

/-- The active experiment is live at every point of a ledger, and planning may fail after every event
that closes an experiment or returns it. -/
structure ActiveAccounted (es : List Event) : Prop where
  live : ∀ pre post, es = pre ++ post → ActiveLive pre
  recordable : ∀ pre e post, es = pre ++ e :: post → e.payload.closes = true →
    PlanningRecordable (pre ++ [e])

/-! ### Live experiments -/

/-- A status that an experiment gets without being closed is not terminal. -/
lemma NodeStep.live {es r e x n n'} (step : NodeStep es r e x n n')
    (old : ∀ m, n = some m → m.status.terminal = false) (open_ : e.payload.closes = false) :
    ∀ m, n' = some m → m.status.terminal = false := by
  cases step with
  | frame => exact old
  | proposed | patchCreated | executionStarted | adapterFailed =>
    rintro _ ⟨⟩
    rfl
  | patchChecked =>
    rintro _ ⟨⟩
    simp only [ExperimentNode.patchChecked]
    split <;> rfl
  | executionFinished =>
    rintro _ ⟨⟩
    rw [ExperimentNode.executionFinished_status]
    split <;> rfl
  | @recoveryDecided d m payload =>
    rintro _ ⟨⟩
    rw [payload] at open_
    rw [Reducer.recoveryNode_status]
    unfold Reducer.recoveryStatus
    cases action : d.action with
    | abandon | rollback | returnToPlanner => simp [EventPayload.closes, action] at open_
    | retrySameCommit =>
      simp only [Reducer.retryTarget]
      split
      · rfl
      · rfl
      · rfl
      · split <;> rfl
      · rfl
    | _ => rfl
  | outputChecked =>
    rintro _ ⟨⟩
    simp only [ExperimentNode.outputChecked]
    split <;> rfl
  | evaluationCompleted =>
    rintro _ ⟨⟩
    simp only [ExperimentNode.evaluationCompleted]
    split <;> rfl
  | experimentDecided payload =>
    rintro _ ⟨⟩
    rw [payload] at open_
    simp only [EventPayload.closes, decide_eq_false_iff_not, not_not] at open_
    rw [ExperimentNode.decided_status, open_]
    rfl

/-- Closing an experiment leaves none active, unless it is returned to the planner. -/
lemma EventPayload.active_closed {p : EventPayload} {active : Option String}
    (closed : p.closes = true) (kept : p.returnsToPlanner = false) : p.active active = none := by
  cases p with
  | recoveryDecided decision =>
    simp only [closes, List.mem_cons, List.not_mem_nil, or_false, decide_eq_true_eq] at closed
    simp only [returnsToPlanner, decide_eq_false_iff_not] at kept
    simp only [EventPayload.active]
    rcases closed with action | action | action
    · rw [action]
    · rw [action]
    · exact absurd action kept
  | experimentDecided decision =>
    simp only [closes, decide_eq_true_eq] at closed
    simp only [EventPayload.active, if_neg closed]
  | _ => cases closed

lemma EventPayload.closes_of_returned {p : EventPayload} (returned : p.returnsToPlanner = true) :
    p.closes = true := by
  cases p with
  | recoveryDecided decision =>
    simp only [returnsToPlanner, decide_eq_true_eq] at returned
    simp [closes, returned]
  | _ => cases returned

/-- Returning an experiment to the planner leaves the active one. -/
lemma EventPayload.active_returned {p : EventPayload} {active : Option String}
    (returned : p.returnsToPlanner = true) : p.active active = active := by
  cases p with
  | recoveryDecided decision =>
    simp only [returnsToPlanner, decide_eq_true_eq] at returned
    simp only [EventPayload.active, returned]
  | _ => cases returned

/-- An event that closes nothing leaves the active experiment, none, or the proposed one. -/
lemma EventPayload.active_open {p : EventPayload} {active : Option String}
    (old : ∀ spec, p ≠ .experimentProposed spec) : p.active active = active ∨ p.active active = none := by
  cases p with
  | experimentProposed spec => exact absurd rfl (old spec)
  | recoveryDecided decision =>
    simp only [EventPayload.active]
    split
    · exact .inr rfl
    · exact .inr rfl
    · exact .inl rfl
  | experimentDecided decision =>
    simp only [EventPayload.active]
    split
    · exact .inl rfl
    · exact .inr rfl
  | planningFailed | runStopped => exact .inr rfl
  | _ => exact .inl rfl

/-- The active experiment of a replayed state has not ended. -/
def LiveState (r : Reducer) : Prop :=
  ∀ x, r.state.activeExperimentId = some x →
    ∃ n, r.state.experiments.get? x = some n ∧ n.status.terminal = false

/-- An event keeps the active experiment live unless it returns it to the planner. -/
lemma LiveState.step {es r r' e} (h : LiveState r) (hr : replay es = .ok r) (ok : Accepted es e)
    (step : r.step e = .ok r')
    (returned : e.payload.returnsToPlanner = true → r.state.activeExperimentId = none) :
    LiveState r' := by
  intro x active
  rw [(Reducer.step_write step).active] at active
  have nodeStep := node_step hr ok step x
  by_cases closed : e.payload.closes = true
  · by_cases back : e.payload.returnsToPlanner = true
    · rw [EventPayload.active_returned back, returned back] at active
      cases active
    · rw [EventPayload.active_closed closed (by simpa using back)] at active
      cases active
  · have open_ : e.payload.closes = false := by simpa using closed
    by_cases proposed : ∃ spec, e.payload = .experimentProposed spec
    · obtain ⟨spec, payload⟩ := proposed
      rw [payload] at active
      cases active
      have table := (Reducer.step_write step).table
      generalize r'.state.experiments = d' at table ⊢
      cases table with
      | frame none =>
        rw [payload] at none
        cases none
      | proposed written =>
        rw [payload] at written
        cases written
        exact ⟨_, Dict.get?_set_self _ _ _, rfl⟩
      | update _ old => exact absurd payload (old spec)
    · have kept : r.state.activeExperimentId = some x := by
        have kept : e.payload.active r.state.activeExperimentId = r.state.activeExperimentId ∨
            e.payload.active r.state.activeExperimentId = none :=
          EventPayload.active_open fun spec payload => proposed ⟨spec, payload⟩
        rcases kept with same | none
        · rw [← same]
          exact active
        · rw [none] at active
          cases active
      obtain ⟨n, node, live⟩ := h x kept
      rw [node] at nodeStep
      have status := nodeStep.live (by rintro _ ⟨⟩; exact live) open_
      generalize r'.state.experiments.get? x = n' at nodeStep status ⊢
      cases n' with
      | some m => exact ⟨m, rfl, status m rfl⟩
      | none => cases nodeStep

/-! ### Planning failures -/

/-- A run gets back to its first status by no event but its start. -/
lemma RunStatus.after_initializing {status : RunStatus} {p : EventPayload}
    (h : status.after p = .initializing) :
    p.type = .runStarted ∨ status = .initializing ∧ ∀ spec, p ≠ .experimentProposed spec := by
  cases p with
  | runStarted => exact .inl rfl
  | baselineVerified | experimentProposed | finalSelected => cases h
  | runStopped | submissionChecked =>
    simp only [RunStatus.after] at h
    split at h <;> cases h
  | _ => exact .inr ⟨h, (by simp)⟩

/-- A node that an event leaves was there before, or the event proposed it. -/
lemma NodeStep.origin {es r e x n m} (step : NodeStep es r e x n (some m)) :
    n ≠ none ∨ ∃ spec, e.payload = .experimentProposed spec := by
  cases step with
  | proposed payload => exact .inr ⟨_, payload⟩
  | _ => exact .inl (by simp)

/-- A run with experiments has been opened. -/
lemma ValidLedger.opened {es r x n} (v : ValidLedger es) (hr : TacoRank.replay es = .ok r)
    (node : r.state.experiments.get? x = some n) : r.state.status ≠ .initializing := by
  refine v.run_induct
    (I := fun _ r => r.state.experiments.get? x ≠ none → r.state.status ≠ .initializing) ?_ ?_ hr
    (by simp [node])
  · exact fun absent => absurd rfl absent
  · intro es e r r' _ hr ok step ih present initial
    rw [(Reducer.step_inv step).frame.status] at initial
    obtain ⟨m, node⟩ := Option.ne_none_iff_exists'.mp present
    have nodeStep := node_step hr ok step x
    rw [node] at nodeStep
    rcases RunStatus.after_initializing initial with start | ⟨same, old⟩
    · cases (validateTransition_ok hr).mp ok.2 with
      | first empty =>
        subst empty
        cases hr
        rcases nodeStep.origin with before | ⟨spec, payload⟩
        · exact before rfl
        · rw [payload] at start
          cases start
      | later _ type => exact type start
    · rcases nodeStep.origin with before | ⟨spec, payload⟩
      · exact ih before same
      · exact old spec payload

/-- A run with an experiment that has not been stopped accepts proposals. -/
lemma ValidLedger.open_ {es r x n} (v : ValidLedger es) (hr : TacoRank.replay es = .ok r)
    (node : r.state.experiments.get? x = some n) (live : Live r.state.status) :
    r.state.status = .ready ∨ r.state.status = .running := by
  have opened := v.opened hr node
  cases status : r.state.status with
  | ready => exact .inl rfl
  | running => exact .inr rfl
  | initializing => exact absurd status opened
  | _ =>
    rw [status] at live
    exact absurd live id

/-- An event that closes an experiment belongs to it, leaves the run status alone and follows no
stop. -/
lemma EventPayload.closes_inv {p : EventPayload} (closed : p.closes = true) :
    (∃ x, p.experiment = some x) ∧ (∀ spec, p ≠ .experimentProposed spec) ∧
      (∀ status : RunStatus, status.after p = status) ∧
      p.type.mayFollowStop = false ∧ p.type ≠ .submissionChecked := by
  cases p with
  | recoveryDecided d => exact ⟨⟨_, rfl⟩, (by simp), fun _ => rfl, rfl, by simp [EventPayload.type]⟩
  | experimentDecided d => exact ⟨⟨_, rfl⟩, (by simp), fun _ => rfl, rfl, by simp [EventPayload.type]⟩
  | _ => cases closed

/-- An event that closes an experiment is accepted in an open run, and leaves it open. -/
lemma Accepted.closing {es r r' e} (v : ValidLedger es) (hr : replay es = .ok r) (ok : Accepted es e)
    (step : r.step e = .ok r') (closed : e.payload.closes = true) :
    (r'.state.status = .ready ∨ r'.state.status = .running) ∧
      eventsOf EventPayload.baseline (es ++ [e]) ≠ [] := by
  have v' : ValidLedger (es ++ [e]) := v.snoc ok
  have hr' : replay (es ++ [e]) = .ok r' := by
    rw [replay_snoc, hr]
    exact step
  obtain ⟨⟨x, owner⟩, old, after, type⟩ := EventPayload.closes_inv closed
  have live : Live r.state.status := by
    by_contra dead
    rcases dead_type hr ok dead with ⟨_, late⟩ | submission
    · rw [type.1] at late
      cases late
    · exact type.2 submission
  have same : r'.state.status = r.state.status := by
    rw [(Reducer.step_inv step).frame.status]
    exact after _
  have table := (Reducer.step_write step).table
  have node : ∃ n, r.state.experiments.get? x = some n := by
    generalize r'.state.experiments = d' at table
    cases table with
    | frame none => rw [owner] at none; cases none
    | proposed payload => exact absurd payload (old _)
    | update other _ node =>
      rw [owner] at other
      cases other
      exact ⟨_, node⟩
  obtain ⟨n, node⟩ := node
  have status := v.open_ hr node live
  refine ⟨by rwa [same], ?_⟩
  obtain ⟨k, passed⟩ := v'.passed hr'
  rw [passed.baseline]
  have reached := passed.reached
  rw [same] at reached
  rcases status with status | status
  · rw [status] at reached
    cases reached
    omega
  · rw [status] at reached
    cases reached
    omega

/-- In an open run, planning may fail exactly while no experiment is active. -/
lemma planningRecordable_iff {es r} (hr : replay es = .ok r)
    (status : r.state.status = .ready ∨ r.state.status = .running)
    (baseline : eventsOf EventPayload.baseline es ≠ []) :
    PlanningRecordable es ↔ r.state.activeExperimentId = none := by
  have started : es ≠ [] := by
    rintro rfl
    exact baseline rfl
  have legal {type : EventType} : StatusLegal r.state.status type := by
    rcases status with status | status <;> rw [status] <;> exact Live.legal trivial
  have recorded {event : Event} {context} (payload : event.payload = .contextCreated context) :
      validateTransition es event.payload = .ok () := by
    rw [payload]
    refine (validateTransition_ok hr).mpr (.later started (by simp [EventPayload.type]) legal ?_)
    simp only [validateBranch, validateContextCreated, bind_eq_ok, require_ok,
      RunState.aggregate_status]
    refine ⟨(), baseline, ?_⟩
    rcases status with status | status <;> simp [status]
  have after (event : Event) {context} (id : event.eventId = es.length + 1)
      (payload : event.payload = .contextCreated context) :
      ∃ r', replay (es ++ [event]) = .ok r' ∧ r'.state.status = r.state.status ∧
        r'.state.activeExperimentId = r.state.activeExperimentId ∧
        r'.state.phase = .context context.role := by
    obtain ⟨r', step⟩ := Accepted.step hr ⟨id, recorded payload⟩
    have write := Reducer.step_write step
    refine ⟨r', ?_, ?_, ?_, write.phase context payload⟩
    · rw [replay_snoc, hr]
      exact step
    · rw [(Reducer.step_inv step).frame.status, payload]
      rfl
    · rw [write.active, payload]
      rfl
  constructor
  · intro recordable
    let context : ContextDocument := { contextId := "", role := .planner, experimentId := none }
    let event := nextContext es context
    obtain ⟨r', hr', _, active, _⟩ := after event rfl rfl
    have failed := (recordable event context ⟨"", "", "", ""⟩ rfl rfl rfl rfl).2
    cases (validateTransition_ok hr').mp failed with
    | first _ type => cases type
    | later _ _ _ branch =>
      simp only [validateBranch, validatePlanningFailed, bind_eq_ok, require_ok] at branch
      obtain ⟨_, _, _, _, _, _, _, _, none⟩ := branch
      obtain ⟨totals, elapsed, aggregate⟩ := r'.state.aggregate_eq (es ++ [event])
      rw [aggregate, active] at none
      exact none
  · intro none event context result id payload role contextId
    refine ⟨recorded payload, ?_⟩
    obtain ⟨r', hr', same, active, phase⟩ := after _ id payload
    refine (validateTransition_ok hr').mpr (.later (by simp) (by simp [EventPayload.type]) ?_ ?_)
    · rw [same]
      exact legal
    · obtain ⟨totals, elapsed, aggregate⟩ := r'.state.aggregate_eq (es ++ [event])
      have last : (eventsOf EventPayload.context (es ++ [event])).getLast? =
          some (event, context) := by
        simp [eventsOf, payload, EventPayload.context]
      simp only [validateBranch, validatePlanningFailed, bind_eq_ok, require_ok, requireSome_ok,
        aggregate, same, phase, role, active, none, last, List.getLast?_concat, Option.map_some]
      refine ⟨(), ⟨by simpa using status, trivial⟩, (event, context), ⟨rfl, trivial⟩, (),
        ⟨role, contextId.symm⟩, (), rfl, trivial⟩

/-! ### The condition -/

/-- Experiments are returned to the planner only while no experiment is active. -/
def ReturnedIdle (es : List Event) : Prop :=
  ∀ pre e post, es = pre ++ e :: post → e.payload.returnsToPlanner = true → activeOf pre = none

lemma ReturnedIdle.front {pre post : List Event} (h : ReturnedIdle (pre ++ post)) :
    ReturnedIdle pre := by
  rintro a e b rfl returned
  exact h a e (b ++ post) (by simp) returned

/-- The active experiment of a ledger that returns experiments only while none is active. -/
lemma ValidLedger.liveState {es r} (v : ValidLedger es) (hr : TacoRank.replay es = .ok r)
    (idle : ReturnedIdle es) : LiveState r := by
  refine v.run_induct (I := fun es r => ReturnedIdle es → LiveState r) ?_ ?_ hr idle
  · intro _ x active
    cases active
  · intro es e r r' _ hr ok step ih idle
    refine (ih idle.front).step hr ok step fun returned => ?_
    rw [← activeOf_replay hr]
    exact idle es e [] rfl returned

/-- The active experiment is live: in every valid ledger, at every point, the active experiment has
not ended, and planning may fail after every event that closes an experiment or returns it, if and
only if experiments are returned to the planner only while none is active. -/
theorem active_experiment {es} (v : ValidLedger es) : ActiveAccounted es ↔ ReturnedIdle es := by
  constructor
  · rintro accounted pre e post rfl returned
    obtain ⟨r, hr⟩ := v.front.replay
    obtain ⟨r', step⟩ := v.accepted.step hr
    have hr' : replay (pre ++ [e]) = .ok r' := by
      rw [replay_snoc, hr]
      exact step
    have closed : e.payload.closes = true := EventPayload.closes_of_returned returned
    obtain ⟨status, baseline⟩ := Accepted.closing v.front hr v.accepted step closed
    have none := (planningRecordable_iff hr' status baseline).mp
      (accounted.recordable pre e post rfl closed)
    rwa [(Reducer.step_write step).active, EventPayload.active_returned returned,
      ← activeOf_replay hr] at none
  · intro idle
    refine ⟨?_, ?_⟩
    · rintro pre post rfl x active
      obtain ⟨r, hr⟩ := v.front.replay
      rw [activeOf_replay hr] at active
      rw [nodeOf_replay hr]
      exact v.front.liveState hr idle.front x active
    · rintro pre e post rfl closed
      obtain ⟨r, hr⟩ := v.front.replay
      obtain ⟨r', step⟩ := v.accepted.step hr
      have hr' : replay (pre ++ [e]) = .ok r' := by
        rw [replay_snoc, hr]
        exact step
      obtain ⟨status, baseline⟩ := Accepted.closing v.front hr v.accepted step closed
      refine (planningRecordable_iff hr' status baseline).mpr ?_
      rw [(Reducer.step_write step).active]
      by_cases returned : e.payload.returnsToPlanner = true
      · rw [EventPayload.active_returned returned, ← activeOf_replay hr]
        exact idle pre e post rfl returned
      · exact EventPayload.active_closed closed (by simpa using returned)

open Scenario in
/-- A run whose experiment is returned to the planner after an exhausted no-op repair. -/
def returnedRun : List Event := record (proposal 2 "exp" ++
  [ (some 6, patch "exp" 1 "a"), (some 7, gatePassed "exp" 1 "a"),
    (some 8, .executionStarted (request "exp" 1 "a" 0)), (some 9, finished "exp" 1 "a"),
    (some 10, outputPassed "exp" 1), (some 11, noOpEvaluation "exp" 1 0 1 (1 / 2)),
    (some 12, recovery "exp" 12 1 1 .traeRepair), (some 13, failed "exp" 2 .coding),
    (some 14, recovery "exp" 14 2 1 .returnToPlanner),
    (some 15, .contextCreated { contextId := "planner", role := .planner, experimentId := none }) ])

/-- The active experiment has ended, and the failure of the planner is rejected. -/
theorem returned_experiment_stays_active : ValidLedger returnedRun ∧
    activeOf returnedRun = some "exp" ∧
    (nodeOf returnedRun "exp").map (·.status) = some .noOp ∧
    validateTransition returnedRun (.planningFailed ⟨"planner", "TimeoutError", "fingerprint", ""⟩) =
      .error (.transitionError "planning failure cannot be attached to an active experiment") :=
  ⟨.of_check (by decide +kernel), by decide +kernel, by decide +kernel, by decide +kernel⟩

theorem active_experiment_run : ¬ ActiveAccounted returnedRun := by
  have v : ValidLedger returnedRun := .of_check (by decide +kernel)
  have split : returnedRun = returnedRun.take 14 ++ returnedRun.get ⟨14, by decide⟩ ::
      returnedRun.drop 15 := by
    rfl
  intro accounted
  have idle := (active_experiment v).mp accounted _ _ _ split rfl
  have active : activeOf (returnedRun.take 14) = some "exp" := by decide +kernel
  rw [active] at idle
  cases idle

end TacoRank
