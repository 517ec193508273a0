import TacoRank.Orchestrator.NodeStep
import TacoRank.Orchestrator.Scenario

/-!
# The life of a run

The run status is written by five branches of the reducer and guarded by as many branches of the
state machine. `Reached` ties the status to the milestones of the ledger, the events that open and
close the phases of a run, so each guard is a fact about how far the run has come. An experiment that
has ended keeps its status until the run is stopped, because every branch that writes to a node asks
for a status that is not terminal.
-/

namespace TacoRank
open Lib Lib.Result

/-- The place of a status in the life of a run. -/
def RunStatus.rank : RunStatus → Nat
  | .initializing => 0
  | .ready => 1
  | .running => 2
  | .stopped => 3
  | .finalizing => 4
  | .finalized | .failed => 5

/-- The milestones of a run in their order. -/
def lifecycle : List EventType :=
  [.runStarted, .contractVerified, .baselineVerified, .runStopped, .finalSelected,
    .submissionChecked]

/-- The milestones that a ledger has passed. -/
def milestones (es : List Event) : List EventType :=
  (es.map (·.payload.type)).filter (· ∈ lifecycle)

/-- The terminal statuses of an experiment. -/
def ExperimentStatus.terminal : ExperimentStatus → Bool
  | .noOp | .accepted | .rejected | .pruned | .invalid => true
  | _ => false

/-- How many milestones a run with a status has passed. -/
inductive Reached : RunStatus → Nat → Prop where
  | initializing {k} (early : k ≤ 2) : Reached .initializing k
  | ready : Reached .ready 3
  | running : Reached .running 3
  | stopped : Reached .stopped 4
  | aborted : Reached .failed 4
  | finalizing : Reached .finalizing 5
  | finalized : Reached .finalized 6
  | rejected : Reached .failed 6

/-! ### Milestones -/

lemma milestones_snoc (es : List Event) (e : Event) : milestones (es ++ [e]) =
    milestones es ++ if e.payload.type ∈ lifecycle then [e.payload.type] else [] := by
  rw [milestones, milestones, List.map_append, List.filter_append]
  by_cases h : e.payload.type ∈ lifecycle <;> simp [h]

lemma mem_milestones {es : List Event} {type : EventType} (milestone : type ∈ lifecycle) :
    type ∈ milestones es ↔ ∃ e ∈ es, e.payload.type = type := by
  simp [milestones, milestone]

/-- A recorded kind of milestone has been passed. -/
lemma milestone_of_eventsOf {β} {read : EventPayload → Option β} {es : List Event}
    {type : EventType} (milestone : type ∈ lifecycle)
    (kind : ∀ p, (read p).isSome = true ↔ p.type = type) :
    eventsOf read es ≠ [] ↔ type ∈ milestones es := by
  rw [mem_milestones milestone]
  constructor
  · intro some
    obtain ⟨found, mem⟩ := List.exists_mem_of_ne_nil _ some
    simp only [eventsOf, List.mem_filterMap, Option.map_eq_some_iff] at mem
    obtain ⟨e, he, b, hb, _⟩ := mem
    exact ⟨e, he, (kind e.payload).mp (by simp [hb])⟩
  · rintro ⟨e, he, type⟩ none
    obtain ⟨b, hb⟩ := Option.isSome_iff_exists.mp ((kind e.payload).mpr type)
    have mem : (e, b) ∈ eventsOf read es := by
      simp only [eventsOf, List.mem_filterMap, Option.map_eq_some_iff]
      exact ⟨e, he, b, hb, rfl⟩
    rw [none] at mem
    cases mem

lemma contract_milestone {es : List Event} :
    eventsOf EventPayload.contract es ≠ [] ↔ .contractVerified ∈ milestones es :=
  milestone_of_eventsOf (by simp [lifecycle]) fun p => by
    cases p <;> simp [EventPayload.contract, EventPayload.type]

lemma baseline_milestone {es : List Event} :
    eventsOf EventPayload.baseline es ≠ [] ↔ .baselineVerified ∈ milestones es :=
  milestone_of_eventsOf (by simp [lifecycle]) fun p => by
    cases p <;> simp [EventPayload.baseline, EventPayload.type]

/-- The milestones of a ledger are the first ones, as many as its status allows. -/
structure Passed (es : List Event) (status : RunStatus) (k : Nat) : Prop where
  milestones : milestones es = lifecycle.take k
  reached : Reached status k

section Passed
variable {es : List Event} {e : Event} {status status' : RunStatus} {k : Nat}

/-- An event that is no milestone. -/
lemma Passed.minor (h : Passed es status k) (other : e.payload.type ∉ lifecycle)
    (reached : Reached status' k) : Passed (es ++ [e]) status' k := by
  refine ⟨?_, reached⟩
  rw [milestones_snoc, if_neg other, List.append_nil]
  exact h.milestones

/-- The next milestone. -/
lemma Passed.next (h : Passed es status k) {type : EventType} (payload : e.payload.type = type)
    (milestone : lifecycle.take (k + 1) = lifecycle.take k ++ [type])
    (reached : Reached status' (k + 1)) : Passed (es ++ [e]) status' (k + 1) := by
  refine ⟨?_, reached⟩
  have mem : type ∈ lifecycle.take (k + 1) := by simp [milestone]
  rw [milestones_snoc, payload, if_pos (List.mem_of_mem_take mem), h.milestones, milestone]

/-- A passed milestone has its place. -/
lemma Passed.mem (h : Passed es status k) {type : EventType} {i : Nat} (le : k ≤ 6)
    (place : ∀ j ≤ 6, type ∈ lifecycle.take j ↔ i ≤ j) : type ∈ TacoRank.milestones es ↔ i ≤ k := by
  rw [h.milestones]
  exact place k le

lemma Reached.le (h : Reached status k) : k ≤ 6 := by
  cases h <;> omega

lemma Passed.contract (h : Passed es status k) : eventsOf EventPayload.contract es ≠ [] ↔ 2 ≤ k := by
  rw [contract_milestone]
  exact h.mem h.reached.le (by decide)

lemma Passed.baseline (h : Passed es status k) : eventsOf EventPayload.baseline es ≠ [] ↔ 3 ≤ k := by
  rw [baseline_milestone]
  exact h.mem h.reached.le (by decide)

end Passed

/-- Every accepted event keeps the milestones in step with the status. -/
lemma Passed.step {es r r' e k} (h : Passed es r.state.status k) (hr : replay es = .ok r)
    (ok : Accepted es e) (step : r.step e = .ok r') : ∃ k', Passed (es ++ [e]) r'.state.status k' := by
  rw [(Reducer.step_inv step).frame.status]
  cases (validateTransition_ok hr).mp ok.2 with
  | first start type =>
    subst start
    cases hr
    cases p : e.payload with
    | runStarted payload =>
      have none : Passed [] .initializing 0 := ⟨rfl, .initializing (by omega)⟩
      exact ⟨1, none.next (by rw [p]; rfl) rfl (.initializing (by omega))⟩
    | _ =>
      rw [p] at type
      cases type
  | later _ type status branch =>
    have minor (other : e.payload.type ∉ lifecycle)
        (reached : Reached (r.state.status.after e.payload) k) :
        ∃ k', Passed (es ++ [e]) (r.state.status.after e.payload) k' := ⟨k, h.minor other reached⟩
    cases p : e.payload with
    | runStarted payload =>
      exact absurd (by rw [p]; rfl) type
    | contractVerified payload =>
      rw [p] at branch
      simp only [validateBranch, validateContractVerified, require_ok] at branch
      have passed := h.milestones
      rw [TacoRank.milestones, branch] at passed
      have first : k = 1 := by
        have length := congrArg List.length passed
        simp [lifecycle] at length
        omega
      subst first
      generalize r.state.status = s at h
      cases h.reached
      exact ⟨2, h.next (by rw [p]; rfl) rfl (.initializing (by omega))⟩
    | baselineVerified payload =>
      rw [p] at branch
      simp only [validateBranch, validateBaselineVerified, bind_eq_ok, require_ok] at branch
      obtain ⟨_, contract, _, unverified, _⟩ := branch
      have verified := h.contract.mp contract
      have second : k = 2 := by
        by_contra more
        exact h.baseline.mpr (by omega) unverified
      subst second
      exact ⟨3, h.next (by rw [p]; rfl) rfl .ready⟩
    | experimentProposed spec =>
      rw [p] at branch
      simp only [validateBranch, validateExperimentProposed, bind_eq_ok, require_ok,
        RunState.aggregate_status, List.mem_cons, List.not_mem_nil, or_false] at branch
      obtain ⟨_, open_, _⟩ := branch
      rw [p] at minor
      refine minor (by simp [EventPayload.type, lifecycle]) ?_
      have reached := h.reached
      rcases open_ with open_ | open_
      · rw [open_] at reached
        cases reached
        exact .running
      · rw [open_] at reached
        cases reached
        exact .running
    | runStopped reasonCode reason =>
      rw [p] at branch
      simp only [validateBranch, validateRunStopped, bind_eq_ok, require_ok,
        RunState.aggregate_status] at branch
      obtain ⟨_, baseline, unstopped⟩ := branch
      have verified := h.baseline.mp baseline
      have third : k = 3 := by
        have reached := h.reached
        have live := status.live
        generalize r.state.status = s at reached unstopped live
        cases reached with
        | initializing early => omega
        | ready | running => rfl
        | _ => simp at unstopped live
      subst third
      refine ⟨4, h.next (by rw [p]; rfl) rfl ?_⟩
      simp only [RunStatus.after]
      split
      · exact .stopped
      · exact .aborted
    | finalSelected payload =>
      rw [p] at branch
      simp only [validateBranch, validateFinalSelected, bind_eq_ok, require_ok,
        RunState.aggregate_status] at branch
      obtain ⟨_, stopped, _⟩ := branch
      rw [stopped] at h
      cases h.reached
      exact ⟨5, h.next (by rw [p]; rfl) rfl .finalizing⟩
    | submissionChecked payload =>
      rw [p] at branch
      simp only [validateBranch, require_ok, RunState.aggregate_status] at branch
      rw [branch] at h
      cases h.reached
      refine ⟨6, h.next (by rw [p]; rfl) rfl ?_⟩
      simp only [RunStatus.after]
      split
      · exact .finalized
      · exact .rejected
    | _ =>
      rw [p] at minor
      exact minor (by simp [EventPayload.type, lifecycle]) h.reached

/-- The milestones of a valid ledger. -/
lemma ValidLedger.passed {es r} (v : ValidLedger es) (hr : TacoRank.replay es = .ok r) :
    ∃ k, Passed es r.state.status k := by
  refine v.run_induct (I := fun es r => ∃ k, Passed es r.state.status k) ?_ ?_ hr
  · exact ⟨0, rfl, .initializing (by omega)⟩
  · intro es e r r' _ hr ok step ⟨k, h⟩
    exact h.step hr ok step

/-! ### Statuses -/

/-- An event that is no milestone leaves the status alone or sets it to running. -/
lemma RunStatus.after_minor {status : RunStatus} {p : EventPayload} (other : p.type ∉ lifecycle) :
    status.after p = status ∨ status.after p = .running := by
  cases p with
  | experimentProposed spec => exact .inr rfl
  | runStarted | baselineVerified | runStopped | finalSelected | submissionChecked =>
    exact absurd (by simp [EventPayload.type, lifecycle]) other
  | _ => exact .inl rfl

/-- The status only moves forward. -/
lemma Passed.forward {es r r' e k} (h : Passed es r.state.status k) (hr : replay es = .ok r)
    (ok : Accepted es e) (step : r.step e = .ok r') : r.state.status.rank ≤ r'.state.status.rank := by
  obtain ⟨k', h'⟩ := h.step hr ok step
  have count := congrArg List.length h'.milestones
  rw [milestones_snoc, h.milestones] at count
  have reached := h.reached
  have reached' := h'.reached
  have le := reached.le
  have le' := reached'.le
  have length : lifecycle.length = 6 := rfl
  by_cases milestone : e.payload.type ∈ lifecycle
  · have next : k' = k + 1 := by
      rw [if_pos milestone] at count
      simp only [List.length_append, List.length_take, length, List.length_singleton] at count
      omega
    subst next
    have live : r.state.status ≠ .failed := by
      cases (validateTransition_ok hr).mp ok.2 with
      | first start =>
        subst start
        cases hr
        simp
      | later _ _ status _ => exact status.live.2
    generalize r.state.status = s at reached live
    generalize r'.state.status = s' at reached'
    cases reached with
    | initializing => exact Nat.zero_le _
    | aborted => exact absurd rfl live
    | _ =>
      cases reached' with
      | initializing early => omega
      | _ => simp [RunStatus.rank]
  · have same : k' = k := by
      rw [if_neg milestone] at count
      simp only [List.length_append, List.length_take, length, List.length_nil] at count
      omega
    subst same
    rw [(Reducer.step_inv step).frame.status] at reached' ⊢
    have minor : r.state.status.after e.payload = r.state.status ∨
        r.state.status.after e.payload = .running := RunStatus.after_minor milestone
    rcases minor with after | after
    · rw [after]
    · rw [after] at reached' ⊢
      cases reached'
      generalize r.state.status = s at reached
      cases reached with
      | initializing early => omega
      | _ => simp [RunStatus.rank]

/-- A failure is reported in no terminal status. -/
lemma FailureStage.expected_live {stage : FailureStage} {st : ExperimentStatus}
    (expected : st ∈ stage.expectedStates) : st.terminal = false := by
  cases stage <;> simp only [expectedStates, List.mem_cons, List.not_mem_nil, or_false] at expected
  case coding | evaluation =>
    rcases expected with rfl | rfl <;> rfl
  all_goals subst expected; rfl

/-- Before the stop, no branch writes to the node of an experiment that has ended. -/
lemma NodeStep.terminal {es r e x n n'} (step : NodeStep es r e x (some n) n')
    (running : r.state.status ≠ .stopped) (ended : n.status.terminal = true) :
    ∃ m, n' = some m ∧ m.status = n.status := by
  have refuted {st : ExperimentStatus} (status : n.status = st) (live : st.terminal = false) :
      ∃ m, n' = some m ∧ m.status = n.status := by
    rw [status, live] at ended
    cases ended
  cases step with
  | frame => exact ⟨n, rfl, rfl⟩
  | patchCreated _ _ legal =>
    rcases legal.status with status | status | ⟨status, _⟩
    · exact refuted status rfl
    · exact refuted status rfl
    · exact refuted status rfl
  | patchChecked _ _ legal => exact refuted legal.status rfl
  | executionStarted _ _ legal => exact refuted (legal.runnable (by simpa using running)) rfl
  | executionFinished _ _ legal => exact refuted legal.status rfl
  | adapterFailed _ _ legal =>
    rcases mem_allowedFailureStates legal with status | ⟨status, _⟩
    · exact refuted rfl (FailureStage.expected_live status)
    · exact refuted status rfl
  | recoveryDecided _ _ legal => exact refuted legal.status rfl
  | outputChecked _ _ legal => exact refuted legal.status rfl
  | evaluationCompleted _ _ legal => exact refuted legal.status rfl
  | experimentDecided _ _ evidence _ =>
    cases evidence with
    | smoke _ status => exact refuted status rfl
    | evaluated _ status => exact refuted status rfl

/-! ### The law -/

/-- The law of the lifecycle. -/
structure LifecycleOrder (es : List Event) : Prop where
  forward : ∀ pre e post, es = pre ++ e :: post → ∃ status status',
    statusOf pre = some status ∧ statusOf (pre ++ [e]) = some status' ∧ status.rank ≤ status'.rank
  milestones : milestones es <+: lifecycle
  closed : ∀ pre e post, es = pre ++ e :: post →
    statusOf pre ≠ some .finalized ∧ statusOf pre ≠ some .failed
  terminal : ∀ pre e post, es = pre ++ e :: post →
    (∀ e' ∈ pre, e'.payload.type ≠ .runStopped) → ∀ x n, nodeOf pre x = some n →
      n.status.terminal = true → ∃ n', nodeOf (pre ++ [e]) x = some n' ∧ n'.status = n.status

/-- Lifecycle order: the run status only moves forward, every milestone is passed at most once and in
order, nothing follows a closed run, and until the stop an experiment that has ended keeps its status
under every event. -/
theorem lifecycle_order {es} (v : ValidLedger es) : LifecycleOrder es := by
  refine ⟨?_, ?_, ?_, ?_⟩
  · rintro pre e post rfl
    obtain ⟨r, hr⟩ := v.front.replay
    obtain ⟨k, h⟩ := v.front.passed hr
    obtain ⟨r', step⟩ := v.accepted.step hr
    have hr' : replay (pre ++ [e]) = .ok r' := by
      rw [replay_snoc, hr]
      exact step
    exact ⟨_, _, statusOf_replay hr, statusOf_replay hr', h.forward hr v.accepted step⟩
  · obtain ⟨r, hr⟩ := v.replay
    obtain ⟨k, h⟩ := v.passed hr
    rw [h.milestones]
    exact List.take_prefix k lifecycle
  · rintro pre e post rfl
    obtain ⟨r, hr⟩ := v.front.replay
    rw [statusOf_replay hr]
    cases (validateTransition_ok hr).mp v.accepted.2 with
    | first start =>
      subst start
      cases hr
      simp
    | later _ _ status _ => exact ⟨fun h => status.live.1 (Option.some.inj h),
        fun h => status.live.2 (Option.some.inj h)⟩
  · rintro pre e post rfl unstopped x n node ended
    obtain ⟨r, hr⟩ := v.front.replay
    obtain ⟨k, h⟩ := v.front.passed hr
    obtain ⟨r', step⟩ := v.accepted.step hr
    have hr' : replay (pre ++ [e]) = .ok r' := by
      rw [replay_snoc, hr]
      exact step
    have running : r.state.status ≠ .stopped := by
      intro stopped
      rw [stopped] at h
      cases h.reached
      have passed : EventType.runStopped ∈ TacoRank.milestones pre := by simp [h.milestones, lifecycle]
      obtain ⟨e', mem, type⟩ := (mem_milestones (by simp [lifecycle])).mp passed
      exact unstopped e' mem type
    rw [nodeOf_replay hr] at node
    have nodeStep := node_step hr v.accepted step x
    rw [node, ← nodeOf_replay hr'] at nodeStep
    exact nodeStep.terminal running ended

open Scenario in
/-- A run whose only experiment is abandoned before the run is stopped. -/
def abandonedRun : List Event := record (proposal 2 "exp" ++
  [ (some 6, failed "exp" 1 .coding), (some 7, recovery "exp" 7 1 2 .abandon),
    (some 8, .contextCreated { contextId := "planner", role := .planner, experimentId := none }),
    (some 9, .runStopped "planner_stop" "nothing left to propose") ])

theorem lifecycle_order_run : LifecycleOrder abandonedRun :=
  lifecycle_order (.of_check (by decide +kernel))

end TacoRank
