import TacoRank.Orchestrator.Budgets

/-!
# Repair authorization

A replacement patch is meant to answer a recovery decision that sends the experiment back to the
coder; `Harness._execute_code_repair` refuses every other decision. The state machine itself admits
`patch.created` by the status of the node alone, so it also accepts a replacement patch after a
failure that nobody decided. `repair_authorization` bounds the patches of every ledger whose
replacement patches answer a decided failure.
-/

namespace TacoRank
open Lib Lib.Result

/-- A retry of a failed coder call: the cited failure is an adapter failure of stage `coding`. -/
def isCoderRetry (es : List Event) (x : String) (e : Event) : Bool :=
  match e.payload with
  | .recoveryDecided d =>
    d.experimentId = x && d.action = .retrySameCommit &&
      (eventWithId EventPayload.failureStage es d.failureEventId).map Prod.snd = some .coding
  | _ => false

/-- Whether a recovery decision sends the experiment back to the coder. -/
def sendsToCoder (es : List Event) (x : String) (e : Event) : Bool :=
  recoveryOf x RecoveryAction.consumesRepair e || isCoderRetry es x e

/-- The `patch.created` events of an experiment. -/
def patches (es : List Event) (x : String) : Nat := es.countP (isPatchOf x)

/-- The coder retries of an experiment. -/
def coderRetries (es : List Event) (x : String) : Nat := es.countP (isCoderRetry es x)

/-- What the router checks before it replaces a patch: the latest failure was answered by a repair
or a restart, and a node that is ready to run keeps its patch. -/
def patchAuthorized (es : List Event) (x : String) : Bool :=
  match nodeOf es x with
  | none => true
  | some n =>
    n.status ≠ .readyToRun &&
    (n.status ≠ .recovering ||
      match lastForExperiment .recoveryDecided es x, latestRecoverableFailure es x with
      | some (_, d), some f => d.action.consumesRepair && d.failureEventId = f.eventId
      | _, _ => false)

/-- Since the last patch of the experiment. -/
def sincePatch (es : List Event) (x : String) : List Event := Log.since (isPatchOf x) es

lemma sincePatch_snoc (es : List Event) (e : Event) (x : String) :
    sincePatch (es ++ [e]) x = if isPatchOf x e then [] else sincePatch es x ++ [e] :=
  Log.since_snoc _ _ _

lemma patches_snoc (es : List Event) (e : Event) (x : String) :
    patches (es ++ [e]) x = patches es x + if isPatchOf x e then 1 else 0 := by
  simp [patches, List.countP_append, List.countP_cons]

/-- Where a patched experiment stands since its last patch; `ledger` is the whole run. -/
structure PatchGap (ledger es : List Event) (x : String) (n : Option ExperimentNode) : Prop where
  fresh : n = none → patches es x = 0
  proposed : ∀ m, n = some m → m.status = .proposed → 0 < patches es x →
    ∃ e ∈ sincePatch es x, sendsToCoder ledger x e = true
  recovering : ∀ m, n = some m → m.status = .recovering → 0 < patches es x →
    ∃ f ∈ sincePatch es x, latestRecoverableFailure es x = some f

/-- The last patch of an experiment lies in the front of the ledger. -/
lemma sincePatch_later {es : List Event} {x : String} {f e : Event} (v : ValidLedger es)
    (hf : f ∈ sincePatch es x) (he : e ∈ es) (later : f.eventId ≤ e.eventId) :
    e ∈ sincePatch es x := by
  obtain ⟨pre, split⟩ := Log.since_suffix (isPatchOf x) es
  have v' : ValidLedger (pre ++ sincePatch es x) := by
    unfold sincePatch
    rw [← split]
    exact v
  have low := v'.lt_id hf
  have mem : e ∈ pre ++ sincePatch es x := by
    unfold sincePatch
    rw [← split]
    exact he
  rcases List.mem_append.mp mem with front | back
  · have high := v'.id_le front
    exact absurd (low.trans_le (later.trans high)) (lt_irrefl _)
  · exact back

/-- An authorized replacement patch answers a decision made since the last patch. -/
lemma PatchGap.authorized {ledger es : List Event} {x : String} {n c} (v : ValidLedger es)
    (gap : PatchGap ledger es x (some n)) (node : nodeOf es x = some n) (legal : PatchLegal es c n)
    (authorized : patchAuthorized es x = true) (patched : 0 < patches es x) :
    ∃ e ∈ sincePatch es x, sendsToCoder ledger x e = true := by
  simp only [patchAuthorized, node, Bool.and_eq_true, Bool.or_eq_true, decide_eq_true_eq] at authorized
  obtain ⟨notReady, answered⟩ := authorized
  rcases legal.status with status | status | ⟨status, _⟩
  · exact gap.proposed n rfl status patched
  · obtain ⟨f, hf, latest⟩ := gap.recovering n rfl status patched
    replace answered := answered.resolve_left (fun h => h status)
    rw [latest] at answered
    split at answered
    · rename_i R d f' hd hf'
      cases hf'
      simp only [Bool.and_eq_true, decide_eq_true_eq] at answered
      obtain ⟨repair, cited⟩ := answered
      obtain ⟨pre, post, split, read, owner, _⟩ := lastForExperiment_split hd
      have payload : R.payload = .recoveryDecided d := EventKind.recoveryDecided.read_eq read
      subst split
      obtain ⟨_, _, _, _, rlegal⟩ := v.recovery_inv payload
      obtain ⟨g, hg, id⟩ := rlegal.failure
      have earlier := v.id_le (latestRecoverableFailure_mem hg).1
      rw [← id, cited] at earlier
      refine ⟨R, sincePatch_later v hf (by simp) ?_, ?_⟩
      · rw [v.eventId]
        exact earlier.trans (Nat.le_succ _)
      · have owner' : d.experimentId = x := owner
        simp [sendsToCoder, recoveryOf, payload, repair, owner']
    · cases answered
  · exact absurd status notReady

/-- An event that is no patch keeps the invariant when the status it leaves is accounted for. -/
lemma PatchGap.keep {ledger es e x n} {m' : ExperimentNode} (h : PatchGap ledger es x n)
    (patch : isPatchOf x e = false)
    (proposed : m'.status = .proposed → n = none ∨ sendsToCoder ledger x e = true)
    (recovering : m'.status = .recovering → e.payload.recoverableFailure = some x ∨
      ∃ m, n = some m ∧ m.status = .recovering) :
    PatchGap ledger (es ++ [e]) x (some m') := by
  have since : sincePatch (es ++ [e]) x = sincePatch es x ++ [e] := by
    simp [sincePatch_snoc, patch]
  have count : patches (es ++ [e]) x = patches es x := by simp [patches_snoc, patch]
  constructor
  · intro none
    cases none
  · rintro _ ⟨⟩ status patched
    rw [count] at patched
    rcases proposed status with none | sends
    · rw [h.fresh none] at patched
      exact absurd patched (lt_irrefl 0)
    · exact ⟨e, by simp [since], sends⟩
  · rintro _ ⟨⟩ status patched
    rw [count] at patched
    rw [since, latestRecoverableFailure_snoc]
    by_cases failure : e.payload.recoverableFailure = some x
    · exact ⟨e, by simp, by simp [failure]⟩
    · obtain ⟨m, hm, recovering⟩ := (recovering status).resolve_left failure
      obtain ⟨f, hf, latest⟩ := h.recovering m hm recovering patched
      exact ⟨f, by simp [hf], by simp [failure, latest]⟩

/-- A retry that goes back to the coder cites a coding failure. -/
lemma isCoderRetry_of_proposed {ledger es post e x d f} {r : Reducer}
    (v : ValidLedger ledger) (split : ledger = es ++ e :: post)
    (payload : e.payload = .recoveryDecided d) (owner : d.experimentId = x)
    (latest : latestRecoverableFailure es x = some f) (id : d.failureEventId = f.eventId)
    (found : (r.observe e).eventById d.failureEventId = some f)
    (status : (r.observe e).recoveryStatus d = .proposed) : isCoderRetry ledger x e = true := by
  unfold Reducer.recoveryStatus at status
  cases action : d.action with
  | retrySameCommit =>
    have coding : f.payload.failureStage = some .coding := by
      simp only [action, found, Reducer.retryTarget, Option.bind_some] at status
      split at status <;> first | assumption | (split at status <;> cases status) | cases status
    obtain ⟨a, b, rfl⟩ := List.append_of_mem (latestRecoverableFailure_mem latest).1
    have v' : ValidLedger (a ++ f :: (b ++ e :: post)) := by simpa [split] using v
    have stage := v'.eventWithId coding
    have whole : eventWithId EventPayload.failureStage ledger d.failureEventId =
        some (f, .coding) := by
      rw [id, split]
      simpa using stage
    simp [isCoderRetry, payload, owner, action, whole]
  | _ => simp [action] at status

/-- Every accepted event keeps the invariant. -/
lemma NodeStep.patchGap {ledger es post e x n n'} {r : Reducer} (step : NodeStep es r e x n n')
    (v : ValidLedger ledger) (split : ledger = es ++ e :: post) (hr : replay es = .ok r)
    (h : PatchGap ledger es x n) : PatchGap ledger (es ++ [e]) x n' := by
  cases step with
  | frame other =>
    have patch := isPatchOf_frame other
    have since : sincePatch (es ++ [e]) x = sincePatch es x ++ [e] := by
      simp [sincePatch_snoc, patch]
    have count : patches (es ++ [e]) x = patches es x := by simp [patches_snoc, patch]
    have silent : e.payload.recoverableFailure ≠ some x := fun failure =>
      other (EventPayload.recoverableFailure_owned failure)
    constructor
    · rw [count]
      exact h.fresh
    · intro m hm status patched
      rw [count] at patched
      obtain ⟨e', he', sends⟩ := h.proposed m hm status patched
      exact ⟨e', by simp [since, he'], sends⟩
    · intro m hm status patched
      rw [count] at patched
      obtain ⟨f, hf, latest⟩ := h.recovering m hm status patched
      exact ⟨f, by simp [since, hf], by simp [silent, latest]⟩
  | proposed payload =>
    exact h.keep (by simp [isPatchOf, payload]) (fun _ => .inl rfl)
      (by simp [ExperimentNode.ofSpec])
  | patchCreated payload owner =>
    have patch : isPatchOf x e = true := by simp [isPatchOf, payload, owner]
    constructor
    · intro none
      cases none
    · rintro _ ⟨⟩ status
      simp [ExperimentNode.patchCreated] at status
    · rintro _ ⟨⟩ status
      simp [ExperimentNode.patchCreated] at status
  | @patchChecked c _ payload owner =>
    refine h.keep (by simp [isPatchOf, payload]) ?_ ?_
    all_goals
      cases accepted : c.accepted <;>
        simp [ExperimentNode.patchChecked, payload, EventPayload.recoverableFailure, owner, accepted]
  | executionStarted payload =>
    exact h.keep (by simp [isPatchOf, payload]) (by simp [ExperimentNode.executionStarted])
      (by simp [ExperimentNode.executionStarted])
  | @executionFinished res _ payload owner =>
    refine h.keep (by simp [isPatchOf, payload]) ?_ ?_
    all_goals
      by_cases success : res.outcome = .success <;>
        simp [payload, EventPayload.recoverableFailure, owner, success]
  | adapterFailed payload owner =>
    exact h.keep (by simp [isPatchOf, payload]) (by simp [ExperimentNode.adapterFailed])
      (by simp [payload, EventPayload.recoverableFailure, owner])
  | @recoveryDecided d m payload owner legal =>
    subst split
    obtain ⟨f, latest, found⟩ := legal.failureEvent v.front hr v.accepted
    obtain ⟨g, hg, id⟩ := legal.failure
    rw [latest] at hg
    cases hg
    rw [owner] at latest
    refine h.keep (by simp [isPatchOf, payload]) ?_ (fun _ => .inr ⟨m, rfl, legal.status⟩)
    intro status
    rw [Reducer.recoveryNode_status] at status
    have retry := isCoderRetry_of_proposed v rfl payload owner latest id found status
    simp [sendsToCoder, retry]
  | @outputChecked out _ payload owner =>
    refine h.keep (by simp [isPatchOf, payload]) ?_ ?_
    all_goals
      cases accepted : out.accepted <;>
        simp [ExperimentNode.outputChecked, payload, EventPayload.recoverableFailure, owner, accepted]
  | @evaluationCompleted res _ _ payload owner =>
    refine h.keep (by simp [isPatchOf, payload]) ?_ ?_
    all_goals
      by_cases noOp : res.trust.verdict = .noOp <;>
        simp [ExperimentNode.evaluationCompleted, payload, EventPayload.recoverableFailure, owner,
          noOp]
  | @experimentDecided d _ payload =>
    refine h.keep (by simp [isPatchOf, payload]) ?_ ?_
    all_goals
      cases decision : d.decision <;> simp [ExperimentDecisionKind.status, decision]

/-- The invariant holds at every front of a valid ledger. -/
lemma ValidLedger.patchGap {ledger es post r} (v : ValidLedger ledger) (split : ledger = es ++ post)
    (hr : TacoRank.replay es = .ok r) (x : String) :
    PatchGap ledger es x (r.state.experiments.get? x) := by
  have whole : ValidLedger (es ++ post) := split ▸ v
  have front := whole.front
  refine front.run_induct (I := fun es r => ∀ post, ledger = es ++ post →
    PatchGap ledger es x (r.state.experiments.get? x)) ?_ ?_ hr post split
  · intro _ _
    exact ⟨fun _ => rfl, by rintro _ ⟨⟩, by rintro _ ⟨⟩⟩
  · intro es e r r' _ hr ok step ih post split
    have split' : ledger = es ++ e :: post := by simpa using split
    exact (node_step hr ok step x).patchGap v split' hr (ih _ split')

/-- Every patch of the experiment was authorized when it was recorded. -/
def PatchesAuthorized (es : List Event) (x : String) : Prop :=
  ∀ pre e post, es = pre ++ e :: post → isPatchOf x e = true → patchAuthorized pre x = true

instance (es : List Event) (x : String) : Decidable (PatchesAuthorized es x) :=
  decidable_of_iff
    (∀ i : Fin es.length, isPatchOf x (es.get i) = true → patchAuthorized (es.take i) x = true)
    (Log.forall_split (P := fun pre e => isPatchOf x e = true → patchAuthorized pre x = true)).symm

/-- Two consecutive patches of the experiment have a decision between them that sends it back to the
coder. -/
def GapsDecided (es : List Event) (x : String) : Prop :=
  ∀ pre first mid second post, es = pre ++ first :: (mid ++ second :: post) →
    isPatchOf x first = true → isPatchOf x second = true → (∀ e ∈ mid, isPatchOf x e = false) →
    ∃ e ∈ mid, sendsToCoder es x e = true

/-- The patches of the experiment stay within the repair budget and the coder retries. -/
def PatchesBounded (es : List Event) (x : String) : Prop :=
  ∀ contract, contractOf es = some contract →
    patches es x ≤ 1 + contract.maxRepairsPerExperiment + coderRetries es x

/-- Before an authorized replacement patch there is a decision since the last one. -/
lemma ValidLedger.decided {ledger pre e post x} (v : ValidLedger ledger)
    (split : ledger = pre ++ e :: post) (patch : isPatchOf x e = true)
    (authorized : patchAuthorized pre x = true) (patched : 0 < patches pre x) :
    ∃ d ∈ sincePatch pre x, sendsToCoder ledger x d = true := by
  have v' : ValidLedger (pre ++ e :: post) := split ▸ v
  obtain ⟨r, hr⟩ := v'.front.replay
  obtain ⟨r', step⟩ := v'.accepted.step hr
  have gap := v.patchGap split hr x
  have node := node_step hr v'.accepted step x
  have here := nodeOf_replay (x := x) hr
  generalize r.state.experiments.get? x = n at gap node here
  generalize r'.state.experiments.get? x = n' at node
  cases node with
  | frame other =>
    rw [isPatchOf_frame other] at patch
    cases patch
  | patchCreated payload owner legal => exact gap.authorized v'.front here legal authorized patched
  | proposed payload | patchChecked payload | executionStarted payload | executionFinished payload
  | adapterFailed payload | recoveryDecided payload | outputChecked payload
  | evaluationCompleted payload | experimentDecided payload =>
    simp [isPatchOf, payload] at patch

/-- Patches are paid for by the decisions before the last patch. -/
lemma ValidLedger.patches_paid {ledger es post x} (v : ValidLedger ledger)
    (split : ledger = es ++ post) (authorized : PatchesAuthorized ledger x) :
    patches es x + (sincePatch es x).countP (sendsToCoder ledger x) ≤
      1 + es.countP (sendsToCoder ledger x) := by
  induction es using List.reverseRecOn generalizing post with
  | nil => simp [patches, sincePatch]
  | append_singleton es e ih =>
    have split' : ledger = es ++ e :: post := by simpa using split
    have paid := ih split'
    have count : (es ++ [e]).countP (sendsToCoder ledger x) =
        es.countP (sendsToCoder ledger x) + if sendsToCoder ledger x e then 1 else 0 := by
      simp [List.countP_append, List.countP_cons]
    rw [patches_snoc, sincePatch_snoc, count]
    cases patch : isPatchOf x e with
    | false =>
      simp only [Bool.false_eq_true, if_false, List.countP_append, List.countP_singleton]
      omega
    | true =>
      simp only [if_true, List.countP_nil]
      rcases Nat.eq_zero_or_pos (patches es x) with first | patched
      · omega
      · obtain ⟨d, hd, sends⟩ :=
          v.decided split' patch (authorized _ _ _ split' patch) patched
        have one : 0 < (sincePatch es x).countP (sendsToCoder ledger x) :=
          List.countP_pos_iff.mpr ⟨d, hd, sends⟩
        omega

lemma countP_sendsToCoder_le (ledger es : List Event) (x : String) :
    es.countP (sendsToCoder ledger x) ≤ repairs es x + es.countP (isCoderRetry ledger x) := by
  induction es with
  | nil => simp [repairs]
  | cons e es ih =>
    have either : sendsToCoder ledger x e = true → recoveryOf x RecoveryAction.consumesRepair e = true ∨
        isCoderRetry ledger x e = true := by
      simp [sendsToCoder]
    simp only [repairs, List.countP_cons] at ih ⊢
    cases sends : sendsToCoder ledger x e with
    | false =>
      simp only [Bool.false_eq_true, if_false]
      omega
    | true =>
      rcases either sends with repair | retry
      · simp only [repair, if_true]
        omega
      · simp only [retry, if_true]
        omega

/-- Repair authorization: when every replacement patch was authorized, two consecutive patches of an
experiment have a decision between them that sends it back to the coder, and the patches stay within
one plus the repair budget plus the coder retries. -/
theorem repair_authorization {es x} (v : ValidLedger es) (authorized : PatchesAuthorized es x) :
    GapsDecided es x ∧ PatchesBounded es x := by
  constructor
  · rintro pre first mid second post rfl isFirst isSecond silent
    have split : pre ++ first :: (mid ++ second :: post) =
        (pre ++ first :: mid) ++ second :: post := by simp
    have patched : 0 < patches (pre ++ first :: mid) x := by
      refine List.countP_pos_iff.mpr ⟨first, by simp, isFirst⟩
    obtain ⟨e, he, sends⟩ :=
      v.decided split isSecond (authorized _ _ _ split isSecond) patched
    rw [sincePatch, Log.since_at isFirst silent] at he
    exact ⟨e, he, sends⟩
  · intro contract hc
    obtain ⟨r, hr⟩ := v.replay
    have paid := v.patches_paid (List.append_nil es).symm authorized
    have sends := countP_sendsToCoder_le es es x
    have limit := (v.counters hr hc x).repairLimit
    unfold coderRetries
    omega

open Scenario in
/-- A run that replaces a patch after a gate rejection, as a repair decision asks for. -/
def authorizedRun : List Event := record (proposal 2 "exp" ++
  [ (some 6, patch "exp" 1 "a"), (some 7, gateRejected "exp" 1 "a"),
    (some 8, recovery "exp" 8 1 1 .traeRepair), (some 9, patch "exp" 2 "b") ])

theorem repair_authorization_run : patches authorizedRun "exp" = 2 ∧
    GapsDecided authorizedRun "exp" ∧ PatchesBounded authorizedRun "exp" := by
  have v : ValidLedger authorizedRun := .of_check (by decide +kernel)
  exact ⟨by decide, repair_authorization v (by decide +kernel)⟩

open Scenario in
/-- A run that replaces three rejected patches without a single recovery decision. -/
def undecidedRun : List Event := record (proposal 2 "exp" ++
  [ (some 6, patch "exp" 1 "a"), (some 7, gateRejected "exp" 1 "a"),
    (some 8, patch "exp" 2 "b"), (some 9, gateRejected "exp" 2 "b"),
    (some 10, patch "exp" 3 "c"), (some 11, gateRejected "exp" 3 "c"),
    (some 12, patch "exp" 4 "d") ])

theorem patches_without_decision : ValidLedger undecidedRun ∧
    ¬ GapsDecided undecidedRun "exp" ∧ ¬ PatchesBounded undecidedRun "exp" := by
  refine ⟨.of_check (by decide +kernel), ?_, ?_⟩
  · intro decided
    have gap := decided (undecidedRun.take 6) (undecidedRun.get ⟨6, by decide⟩)
      [undecidedRun.get ⟨7, by decide⟩] (undecidedRun.get ⟨8, by decide⟩) (undecidedRun.drop 9)
      rfl (by decide) (by decide) (by decide)
    revert gap
    decide +kernel
  · intro bounded
    have few := bounded (Scenario.contract 2) rfl
    revert few
    decide +kernel

end TacoRank
