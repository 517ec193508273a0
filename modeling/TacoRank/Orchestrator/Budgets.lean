import TacoRank.Orchestrator.NodeStep
import TacoRank.Orchestrator.Scenario

/-!
# Repair and retry budgets

The counters `repair_count` and `same_commit_retry_count` of a node count events of the ledger, and
they stay within `max_repairs_per_experiment` of the run contract resp. `MAX_SAME_COMMIT_RETRIES`.
`Counters` is the invariant: the repair counter is never reset, the retry counter is reset by every
`patch.created`.
-/

namespace TacoRank
open Lib Lib.Result

/-- Whether an event is the `patch.created` of an experiment. -/
def isPatchOf (x : String) (e : Event) : Bool :=
  match e.payload with
  | .patchCreated candidate => candidate.experimentId = x
  | _ => false

/-- Whether an event is a `recovery.decided` of an experiment with such an action. -/
def recoveryOf (x : String) (action : RecoveryAction → Bool) (e : Event) : Bool :=
  match e.payload with
  | .recoveryDecided decision => decision.experimentId = x && action decision.action
  | _ => false

/-- The `recovery.decided` events of an experiment with action `TRAE_REPAIR` or `RESTART`. -/
def repairs (es : List Event) (x : String) : Nat :=
  es.countP (recoveryOf x RecoveryAction.consumesRepair)

/-- The `RETRY_SAME_COMMIT` decisions of an experiment since its last `patch.created`. -/
def retries (es : List Event) (x : String) : Nat :=
  (Log.since (isPatchOf x) es).countP (recoveryOf x (· = .retrySameCommit))

/-- The contract of a run: the payload of its first event. -/
def contractOf (es : List Event) : Option RunStarted :=
  es.head?.bind fun e => match e.payload with
    | .runStarted payload => some payload
    | _ => none

lemma isPatchOf_frame {x e} (other : e.payload.experiment ≠ some x) : isPatchOf x e = false := by
  unfold isPatchOf
  split
  · rename_i candidate payload
    simpa [payload, EventPayload.experiment] using other
  · rfl

lemma recoveryOf_frame {x action e} (other : e.payload.experiment ≠ some x) :
    recoveryOf x action e = false := by
  unfold recoveryOf
  split
  · rename_i decision payload
    have ne : decision.experimentId ≠ x := by simpa [payload, EventPayload.experiment] using other
    simp [ne]
  · rfl

lemma repairs_snoc (es : List Event) (e : Event) (x : String) :
    repairs (es ++ [e]) x =
      repairs es x + if recoveryOf x RecoveryAction.consumesRepair e then 1 else 0 := by
  simp [repairs, List.countP_append, List.countP_cons]

lemma retries_snoc (es : List Event) (e : Event) (x : String) :
    retries (es ++ [e]) x = if isPatchOf x e then 0 else
      retries es x + if recoveryOf x (· = .retrySameCommit) e then 1 else 0 := by
  unfold retries
  rw [Log.since_snoc]
  split
  · rfl
  · simp [List.countP_append, List.countP_cons]

lemma contractOf_snoc {es : List Event} {e : Event} {c : RunStarted} (h : contractOf es = some c) :
    contractOf (es ++ [e]) = some c := by
  cases es with
  | nil => cases h
  | cons e0 es => exact h

/-- The run settings of a valid ledger are those of its contract. -/
lemma ValidLedger.contract {es r} (v : ValidLedger es) (hr : TacoRank.replay es = .ok r)
    (started : es ≠ []) : ∃ c, contractOf es = some c ∧
      r.state.maxRepairsPerExperiment = c.maxRepairsPerExperiment ∧
      r.state.maxConfirmationAttempts = c.maxConfirmationAttempts := by
  refine v.run_induct (I := fun es r => es ≠ [] → ∃ c, contractOf es = some c ∧
    r.state.maxRepairsPerExperiment = c.maxRepairsPerExperiment ∧
    r.state.maxConfirmationAttempts = c.maxConfirmationAttempts) (absurd rfl) ?_ hr started
  intro es e r r' _ hr ok step ih _
  cases (validateTransition_ok hr).mp ok.2 with
  | first start type =>
    subst start
    cases hr
    obtain ⟨eventId, timestamp, runId, key, cause, payload, delta⟩ := e
    cases payload with
    | runStarted c =>
      cases step
      exact ⟨c, rfl, rfl, rfl⟩
    | _ => cases type
  | later started type =>
    obtain ⟨c, hc, repairs, confirmations⟩ := ih started
    have frame := (Reducer.step_inv step).frame
    refine ⟨c, contractOf_snoc hc, ?_, ?_⟩
    · rw [frame.repairs type, repairs]
    · rw [frame.confirmations type, confirmations]

/-- The counters of a node count its events, within their limits. -/
structure Counters (es : List Event) (x : String) (limit : Nat) (n : Option ExperimentNode) :
    Prop where
  repairs : repairs es x = (n.map ExperimentNode.repairCount).getD 0
  retries : retries es x = (n.map ExperimentNode.sameCommitRetryCount).getD 0
  repairLimit : TacoRank.repairs es x ≤ limit
  retryLimit : TacoRank.retries es x ≤ maxSameCommitRetries

/-- Events that move no counter keep the invariant. -/
lemma Counters.keep {es e x limit} {n n' : Option ExperimentNode} (h : Counters es x limit n)
    (patch : isPatchOf x e = false) (recovery : ∀ action, recoveryOf x action e = false)
    (repairCount : (n'.map ExperimentNode.repairCount).getD 0 =
      (n.map ExperimentNode.repairCount).getD 0)
    (retryCount : (n'.map ExperimentNode.sameCommitRetryCount).getD 0 =
      (n.map ExperimentNode.sameCommitRetryCount).getD 0) :
    Counters (es ++ [e]) x limit n' := by
  have repairs' : TacoRank.repairs (es ++ [e]) x = TacoRank.repairs es x := by
    simp [repairs_snoc, recovery]
  have retries' : TacoRank.retries (es ++ [e]) x = TacoRank.retries es x := by
    simp [retries_snoc, recovery, patch]
  constructor
  · rw [repairs', repairCount, h.repairs]
  · rw [retries', retryCount, h.retries]
  · rw [repairs']
    exact h.repairLimit
  · rw [retries']
    exact h.retryLimit

/-- A repair decision takes the next free slot. -/
lemma RecoveryLegal.slot {es s d n} (legal : RecoveryLegal es s d n)
    (repair : d.action.consumesRepair = true) :
    d.repairAttempt = n.repairCount + 1 ∧ n.repairCount + 1 ≤ s.maxRepairsPerExperiment ∧
      d.remainingRepairBudget + (n.repairCount + 1) = s.maxRepairsPerExperiment := by
  have attempt := legal.attempt
  have budget := legal.budget
  rw [repair] at budget
  simp only [Bool.toNat_true] at budget
  have room : n.repairCount + 1 ≤ s.maxRepairsPerExperiment := by omega
  omega

/-- `recovery.decided` keeps the counters. -/
lemma Counters.recoveryDecided {es e x limit d} {r : Reducer} {n : ExperimentNode}
    (h : Counters es x limit (some n)) (payload : e.payload = .recoveryDecided d)
    (owner : d.experimentId = x) (legal : RecoveryLegal es (r.state.aggregate es) d n)
    (contract : r.state.maxRepairsPerExperiment = limit) :
    Counters (es ++ [e]) x limit (some ((r.observe e).recoveryNode e.eventId d n)) := by
  have patch : isPatchOf x e = false := by simp [isPatchOf, payload]
  have recovery : ∀ action, recoveryOf x action e = action d.action := by
    intro action
    simp [recoveryOf, payload, owner]
  have nodeRepairs := h.repairs
  have nodeRetries := h.retries
  simp only [Option.map_some, Option.getD_some] at nodeRepairs nodeRetries
  have repairSlot := legal.slot
  have retrySlot := legal.retries
  rw [RunState.aggregate_maxRepairsPerExperiment, contract] at repairSlot
  have limits := h.repairLimit
  have limits' := h.retryLimit
  cases action : d.action with
  | traeRepair | restartFromTrustedParent =>
    obtain ⟨attempt, room, _⟩ := repairSlot (by rw [action]; rfl)
    constructor
    all_goals
      simp [repairs_snoc, retries_snoc, recovery, patch, action, RecoveryAction.consumesRepair,
        Reducer.recoveryNode, ExperimentNode.recoveryCounted]
      omega
  | retrySameCommit =>
    have room := retrySlot action
    constructor
    all_goals
      simp [repairs_snoc, retries_snoc, recovery, patch, action, RecoveryAction.consumesRepair,
        Reducer.recoveryNode, ExperimentNode.recoveryCounted]
      omega
  | adjustApprovedRuntimeSetting | returnToPlanner | rollback | abandon =>
    constructor
    all_goals
      simp [repairs_snoc, retries_snoc, recovery, patch, action, RecoveryAction.consumesRepair,
        Reducer.recoveryNode, ExperimentNode.recoveryCounted]
      omega

/-- Every accepted event keeps the counters. -/
lemma NodeStep.counters {es r e x limit n n'} (step : NodeStep es r e x n n')
    (contract : es ≠ [] → r.state.maxRepairsPerExperiment = limit)
    (h : Counters es x limit n) : Counters (es ++ [e]) x limit n' := by
  cases step with
  | frame other =>
    exact h.keep (isPatchOf_frame other) (fun _ => recoveryOf_frame other) rfl rfl
  | patchCreated payload owner =>
    have recovery : ∀ action, recoveryOf x action e = false := by simp [recoveryOf, payload]
    have patch : isPatchOf x e = true := by simp [isPatchOf, payload, owner]
    constructor
    · simpa [repairs_snoc, recovery, ExperimentNode.patchCreated] using h.repairs
    · simp [retries_snoc, patch, ExperimentNode.patchCreated]
    · simpa [repairs_snoc, recovery] using h.repairLimit
    · simp [retries_snoc, patch]
  | recoveryDecided payload owner legal =>
    refine h.recoveryDecided payload owner legal (contract ?_)
    rintro rfl
    obtain ⟨f, hf, _⟩ := legal.failure
    cases hf
  | executionFinished payload =>
    refine h.keep (by simp [isPatchOf, payload]) (by simp [recoveryOf, payload]) ?_ ?_
    all_goals
      simp only [ExperimentNode.executionFinished, Option.map_some]
      split <;> rfl
  | experimentDecided payload =>
    refine h.keep (by simp [isPatchOf, payload]) (by simp [recoveryOf, payload]) ?_ ?_
    all_goals
      simp only [ExperimentNode.decided, Option.map_some]
      split
      · split <;> rfl
      · rfl
  | proposed payload | patchChecked payload | executionStarted payload | adapterFailed payload
  | outputChecked payload | evaluationCompleted payload =>
    exact h.keep (by simp [isPatchOf, payload]) (by simp [recoveryOf, payload]) rfl rfl

/-- The counters of a valid ledger. -/
lemma ValidLedger.counters {es r c} (v : ValidLedger es) (hr : TacoRank.replay es = .ok r)
    (contract : contractOf es = some c) (x : String) :
    Counters es x c.maxRepairsPerExperiment (r.state.experiments.get? x) := by
  refine v.run_induct (I := fun es r => (es ≠ [] → contractOf es = some c) →
    Counters es x c.maxRepairsPerExperiment (r.state.experiments.get? x)) ?_ ?_ hr (fun _ => contract)
  · intro _
    exact ⟨rfl, rfl, Nat.zero_le _, Nat.zero_le _⟩
  · intro es e r r' v hr ok step ih hc
    have settings : es ≠ [] → contractOf es = some c ∧
        r.state.maxRepairsPerExperiment = c.maxRepairsPerExperiment := by
      intro started
      obtain ⟨c', hc', repairs, _⟩ := v.contract hr started
      have same := contractOf_snoc (e := e) hc'
      rw [hc (by simp)] at same
      cases same
      exact ⟨hc', repairs⟩
    exact (node_step hr ok step x).counters (fun started => (settings started).2)
      (ih fun started => (settings started).1)

/-- The node an accepted recovery decision was checked against. -/
lemma ValidLedger.recovery_inv {pre e post d} (v : ValidLedger (pre ++ e :: post))
    (payload : e.payload = .recoveryDecided d) : ∃ r n, TacoRank.replay pre = .ok r ∧
      r.state.experiments.get? d.experimentId = some n ∧
      RecoveryLegal pre (r.state.aggregate pre) d n := by
  obtain ⟨r, hr⟩ := v.front.replay
  obtain ⟨r', step⟩ := v.accepted.step hr
  refine ⟨r, ?_⟩
  have node := node_step hr v.accepted step d.experimentId
  generalize r.state.experiments.get? d.experimentId = n at node ⊢
  generalize r'.state.experiments.get? d.experimentId = n' at node
  cases node with
  | frame other => simp [payload, EventPayload.experiment] at other
  | recoveryDecided payload' _ legal =>
    rw [payload] at payload'
    cases payload'
    exact ⟨_, hr, rfl, legal⟩
  | proposed h | patchCreated h | patchChecked h | executionStarted h | executionFinished h
  | adapterFailed h | outputChecked h | evaluationCompleted h | experimentDecided h =>
    rw [payload] at h
    cases h

/-- Repair and retry budgets: the repair counter of a node is the number of its repair decisions and
stays within the contract, every repair decision records what is left after it, and between two
consecutive patches of an experiment there are at most `MAX_SAME_COMMIT_RETRIES` retries. -/
theorem repair_budget {es x n} (v : ValidLedger es) (node : nodeOf es x = some n) :
    ∃ contract, contractOf es = some contract ∧
      n.repairCount = repairs es x ∧
      n.repairCount ≤ contract.maxRepairsPerExperiment ∧
      (∀ pre e post d, es = pre ++ e :: post → e.payload = .recoveryDecided d →
        d.experimentId = x → d.action.consumesRepair = true →
        (d.remainingRepairBudget : Int) =
          (contract.maxRepairsPerExperiment : Int) - repairs (pre ++ [e]) x) ∧
      (∀ pre first mid second post, es = pre ++ first :: (mid ++ second :: post) →
        isPatchOf x first = true → isPatchOf x second = true →
        (∀ e ∈ mid, isPatchOf x e = false) →
        mid.countP (recoveryOf x (· = .retrySameCommit)) ≤ maxSameCommitRetries) := by
  obtain ⟨r, hr⟩ := v.replay
  rw [nodeOf_replay hr] at node
  have started : es ≠ [] := by
    rintro rfl
    cases hr
    cases node
  obtain ⟨c, hc, _, _⟩ := v.contract hr started
  have counters := v.counters hr hc x
  have prefixCounters : ∀ pre post r0, es = pre ++ post → pre ≠ [] → TacoRank.replay pre = .ok r0 →
      Counters pre x c.maxRepairsPerExperiment (r0.state.experiments.get? x) ∧
      r0.state.maxRepairsPerExperiment = c.maxRepairsPerExperiment := by
    rintro pre post r0 rfl started hr0
    obtain ⟨c0, hc0, settings, _⟩ := v.front.contract hr0 started
    have same : contractOf (pre ++ post) = some c0 := by
      cases pre with
      | nil => exact absurd rfl started
      | cons e0 pre => exact hc0
    rw [hc] at same
    cases same
    exact ⟨v.front.counters hr0 hc0 x, settings⟩
  refine ⟨c, hc, ?_, ?_, ?_, ?_⟩
  · rw [counters.repairs, node]
    rfl
  · have limit := counters.repairLimit
    rwa [counters.repairs, node] at limit
  · rintro pre e post d rfl payload rfl repair
    obtain ⟨r0, n0, hr0, hn0, legal⟩ := v.recovery_inv payload
    have started0 : pre ≠ [] := by
      rintro rfl
      obtain ⟨f, hf, _⟩ := legal.failure
      cases hf
    obtain ⟨counters0, settings⟩ := prefixCounters pre _ r0 rfl started0 hr0
    obtain ⟨_, _, left⟩ := legal.slot repair
    rw [RunState.aggregate_maxRepairsPerExperiment, settings] at left
    have count := counters0.repairs
    rw [hn0] at count
    have counted : recoveryOf d.experimentId RecoveryAction.consumesRepair e = true := by
      simp [recoveryOf, payload, repair]
    rw [repairs_snoc, counted, count]
    simp only [Option.map_some, Option.getD_some, if_true]
    omega
  · rintro pre first mid second post rfl isFirst _ silent
    have v' : ValidLedger ((pre ++ first :: mid) ++ second :: post) := by simpa using v
    obtain ⟨r0, hr0⟩ := v'.front.replay
    obtain ⟨counters0, _⟩ := prefixCounters (pre ++ first :: mid) (second :: post) r0 (by simp)
      (by simp) hr0
    have limit := counters0.retryLimit
    rwa [retries, Log.since_at isFirst silent] at limit

open Scenario in
/-- A run in which the gate rejects the first patch and the repaired one crashes once. -/
def repairRun : List Event := record (proposal 2 "exp" ++
  [ (some 6, patch "exp" 1 "a"), (some 7, gateRejected "exp" 1 "a"),
    (some 8, recovery "exp" 8 1 1 .traeRepair), (some 9, patch "exp" 2 "b"),
    (some 10, gatePassed "exp" 2 "b"), (some 11, .executionStarted (request "exp" 2 "b" 0)),
    (some 12, crashed "exp" 2 "b"), (some 13, recovery "exp" 13 2 1 .retrySameCommit) ])

theorem repair_budget_run : ∃ n contract,
    nodeOf repairRun "exp" = some n ∧ contractOf repairRun = some contract ∧
    n.repairCount = 1 ∧ n.repairCount = repairs repairRun "exp" ∧
    n.repairCount ≤ contract.maxRepairsPerExperiment := by
  have v : ValidLedger repairRun := .of_check (by decide +kernel)
  have count : (nodeOf repairRun "exp").map ExperimentNode.repairCount = some 1 := by
    decide +kernel
  obtain ⟨n, node, one⟩ := Option.map_eq_some_iff.mp count
  obtain ⟨contract, hc, counted, limit, _⟩ := repair_budget v node
  exact ⟨n, contract, node, hc, one, counted, limit⟩

end TacoRank
