import TacoRank.Coding.Artifacts
import TacoRank.Orchestrator.Abandonment
import TacoRank.Orchestrator.Handlers
import TacoRank.Orchestrator.Live

/-!
# Attempts of patches

`for_initial` numbers the first patch of an experiment by the retries of the coder, `for_repair` a
replacement by the repairs. In every run the attempt of a patch is one more than the number of repairs, and
one more again when the coder was retried (`LaneLedger.attempt`). So the numbers of two patches are the same
exactly when the later one answers the next repair at once and the earlier one needed a retry
(`attempts_distinct_iff`), and then the later patch meets the files of the earlier one.
-/

namespace TacoRank
open Lib Lib.Result
open Evaluation (EvaluationError)
open Coding (CandidateFiles WriteError writeCandidate emptyDisk)
open Memory (matchesId)

/-! ### The identity of a candidate -/

/-- A decision that grants the coder a retry. -/
def grantsCoderRetry (events : List Event) (experimentId : String) (event : Event) : Bool :=
  match event.payload with
  | .recoveryDecided decision =>
    decision.experimentId = experimentId ∧ decision.action = .retrySameCommit ∧
      (eventById events decision.failureEventId).bind (·.payload.failureStage) = some .coding
  | _ => false

/-- `LedgerCandidateIdentityResolver.for_initial`: the attempt of the first patch. -/
def forInitial (events : List Event) (experimentId : String) : Except EvaluationError Nat := do
  ensure (∀ event ∈ events, ¬ (event.payload.type = .patchCreated ∧ event.payload.experiment = some experimentId))
    (.contractError "initial coding identity cannot follow a sealed patch")
  return 1 + events.countP (grantsCoderRetry events experimentId)

/-- `LedgerCandidateIdentityResolver.for_repair`: the attempt of a replacement. -/
def forRepair (decision : RecoveryDecision) : Nat := decision.repairAttempt + 1

/-- The coder keeps the attempt that `for_initial` gives to its first patch. -/
def KeepsIdentity (x : String) (es : List Event) : Prop :=
  ∀ pre e post, es = pre ++ e :: post → e.key.stage = .patchCreated →
    ∀ found ∈ EventKind.patchCreated.ofExperiment x e, forInitial pre x = .ok found.2.attempt

/-- The patches of an experiment. -/
def patchesOf (x : String) (es : List Event) : List (Event × PatchCandidate) :=
  es.filterMap (EventKind.patchCreated.ofExperiment x)

/-- The patches of an experiment have different attempts. -/
def AttemptsDistinct (x : String) (es : List Event) : Prop :=
  (patchesOf x es).Pairwise fun patch later => patch.2.attempt ≠ later.2.attempt

/-- When a patch was made on a retry of the coder, the patch that answers the next repair is as well. -/
def RetriesFollowed (x : String) (es : List Event) : Prop :=
  ∀ pre e mid e' post, es = pre ++ e :: (mid ++ e' :: post) →
    (EventKind.patchCreated.ofExperiment x e).isSome → (EventKind.patchCreated.ofExperiment x e').isSome →
    codes (trace x mid) = 1 → retried (trace x pre) = true → retried (trace x (pre ++ e :: mid)) = true

section Attempts
variable {h : Harness} {x : String} {es pre mid post : List Event} {e e' : Event}
  {candidate candidate' : PatchCandidate}

/-- The number of the patch that may follow. -/
def attemptAfter (t : List Event) : Nat := codes t + 1 + (retried t).toNat

/-- The decisions of a trace. -/
def decisions (t : List Event) : List Event := t.filter fun e => ofTypes [.recoveryDecided] e.payload

/-- What only decisions satisfy is counted among them. -/
lemma countP_decisions {p : Event → Bool} (t : List Event)
    (decides : ∀ e, p e = true → e.payload.type = .recoveryDecided) : t.countP p = (decisions t).countP p := by
  rw [decisions, List.countP_filter]
  apply List.countP_congr
  intro e _
  cases selected : p e with
  | false => simp
  | true => simp [ofTypes, decides e selected]

/-- The newest decision is the last one. -/
lemma newest_decision (t : List Event) : newest (ofTypes [.recoveryDecided]) t = (decisions t).getLast? := by
  induction t using List.reverseRecOn with
  | nil => rfl
  | append_singleton t e ih =>
    rw [newest_snoc, decisions, List.filter_append, ih]
    by_cases selected : ofTypes [.recoveryDecided] e.payload = true
    · have one : [e].filter (fun e => ofTypes [.recoveryDecided] e.payload) = [e] := List.filter_eq_self.mpr (by simpa)
      rw [if_pos selected, one, List.getLast?_concat]
    · have none : [e].filter (fun e => ofTypes [.recoveryDecided] e.payload) = [] := List.filter_eq_nil_iff.mpr (by simpa using selected)
      rw [if_neg selected, none, List.append_nil]
      rfl

lemma grantsCoderRetry_type (grants : grantsCoderRetry es x e = true) : e.payload.type = .recoveryDecided := by
  unfold grantsCoderRetry at grants
  split at grants
  · rename_i payload
    rw [payload]
    rfl
  · cases grants

lemma repairs_type (repairs : e.payload.repairs = true) : e.payload.type = .recoveryDecided := by
  cases p : e.payload <;> rw [p] at repairs <;> first | rfl | cases repairs

/-- The retries of the coder are those of the trace. -/
lemma coderRetries_trace : es.countP (grantsCoderRetry es x) = (trace x es).countP (grantsCoderRetry es x) := by
  unfold trace Log.lane
  rw [List.countP_filter]
  apply List.countP_congr
  intro e _
  unfold grantsCoderRetry
  cases p : e.payload with
  | recoveryDecided d =>
    simp [Event.owner, EventPayload.owner, EventPayload.experiment, p]
    exact fun owner _ _ => owner
  | _ => simp

/-- A granted retry is one of the decisions. -/
lemma retried_mem {t : List Event} (again : retried t = true) : ∃ e ∈ t, retried [e] = true := by
  unfold retried at again
  cases found : newest (ofTypes [.recoveryDecided]) t with
  | none =>
    rw [found] at again
    cases again
  | some e =>
    obtain ⟨mem, selected⟩ := newest_mem found
    have last : newest (ofTypes [.recoveryDecided]) [e] = some e := by
      rw [← List.nil_append [e], newest_snoc, if_pos selected]
    refine ⟨e, mem, ?_⟩
    rw [found] at again
    rw [retried, last]
    exact again

/-- The first patch has the number that the resolver gives. -/
lemma FirstPatch.attempt (first : FirstPatch (trace x pre)) (v : ValidLedger pre)
    (resolved : forInitial pre x = .ok candidate.attempt) : candidate.attempt = attemptAfter (trace x pre) := by
  simp only [forInitial, check_bind_eq_ok, pure_eq_ok] at resolved
  rw [← resolved.2, coderRetries_trace, attemptAfter, codes, retried, newest_decision,
    countP_decisions _ fun _ => grantsCoderRetry_type, countP_decisions _ fun _ => repairs_type]
  rcases first.granted with none | ⟨s, d, f, only, payload, action, mem, cites, stage⟩
  · have none : decisions (trace x pre) = [] := none
    rw [none]
    rfl
  · have only : decisions (trace x pre) = [s] := only
    have own : d.experimentId = x := by
      have listed : s ∈ trace x pre := List.mem_of_mem_filter (only ▸ List.mem_singleton_self s)
      have owner := (mem_trace.mp listed).2
      simpa [Event.owner, EventPayload.owner, EventPayload.experiment, payload] using owner
    have found : eventById pre d.failureEventId = some f := by
      rw [cites]
      exact v.findEvent (mem_trace.mp mem).1
    have grants : grantsCoderRetry pre x s = true := by
      simp [grantsCoderRetry, payload, own, action, found, stage]
    have idle : s.payload.repairs = false := by
      simp [payload, EventPayload.repairs, action, RecoveryAction.isCodeRecovery]
    rw [only, List.countP_singleton, List.countP_singleton, if_pos grants, if_neg (by simp [idle])]
    simp [payload, action]

/-- A patch belongs to its experiment. -/
lemma patch_own {found : Event × PatchCandidate} (patch : EventKind.patchCreated.ofExperiment x e = some found) :
    e.owner = some x ∧ e.payload = .patchCreated found.2 := by
  obtain ⟨_, read, owner⟩ := EventKind.ofExperiment_ok.mp patch
  have payload : e.payload = .patchCreated found.2 := EventKind.patchCreated.read_eq read
  refine ⟨?_, payload⟩
  have owned : found.2.experimentId = x := owner
  simp [Event.owner, EventPayload.owner, EventPayload.experiment, payload, owned]

/-- The patches of a run are numbered by the repairs before them. -/
lemma LaneLedger.attempt {found : Event × PatchCandidate} (v : LaneLedger h x (pre ++ e :: post))
    (identity : KeepsIdentity x (pre ++ e :: post))
    (patch : EventKind.patchCreated.ofExperiment x e = some found) :
    found.2.attempt = attemptAfter (trace x pre) := by
  obtain ⟨own, payload⟩ := patch_own patch
  have rule := v.rule own
  simp only [Rule, payload] at rule
  split at rule
  · rename_i initial
    exact rule.attempt v.front.valid (identity pre e post rfl initial found patch)
  · exact rule.attempt

/-- Between two patches a repair is decided. -/
lemma LaneLedger.called {found found' : Event × PatchCandidate}
    (v : LaneLedger h x (pre ++ e :: (mid ++ e' :: post)))
    (patch : EventKind.patchCreated.ofExperiment x e = some found)
    (patch' : EventKind.patchCreated.ofExperiment x e' = some found') : 0 < codes (trace x mid) := by
  obtain ⟨own, payload⟩ := patch_own patch
  obtain ⟨own', payload'⟩ := patch_own patch'
  have split : pre ++ e :: (mid ++ e' :: post) = (pre ++ e :: mid) ++ e' :: post := by simp
  rw [split] at v
  have rule := v.rule own'
  simp only [Rule, payload', trace_split own] at rule
  split at rule
  · have unpatched := rule.unpatched e (by simp)
    simp [payload, EventPayload.type] at unpatched
  · obtain ⟨s, newest, type⟩ := rule.called
    have whole : trace x pre ++ e :: trace x mid = (trace x pre ++ [e]) ++ trace x mid := by simp
    rw [whole, newest_append, newest_snoc, payload] at newest
    cases last : TacoRank.newest patchOrRepair (trace x mid) with
    | none =>
      rw [last] at newest
      cases newest
      simp [payload, EventPayload.type] at type
    | some s' =>
      rw [last] at newest
      cases newest
      obtain ⟨mem, selected⟩ := newest_mem last
      refine List.countP_pos_iff.mpr ⟨s, mem, ?_⟩
      simpa [patchOrRepair, ofTypes, type] using selected

lemma codes_patch {found : Event × PatchCandidate} (patch : EventKind.patchCreated.ofExperiment x e = some found) :
    codes (trace x (pre ++ e :: mid)) = codes (trace x pre) + codes (trace x mid) := by
  obtain ⟨own, payload⟩ := patch_own patch
  simp [trace_split own, codes, List.countP_append, payload, EventPayload.repairs]

/-- Two patches of a run have the same attempt when the later one answers the next repair at once and the
earlier one was made on a retry. -/
lemma LaneLedger.same_attempt {found found' : Event × PatchCandidate}
    (v : LaneLedger h x (pre ++ e :: (mid ++ e' :: post)))
    (identity : KeepsIdentity x (pre ++ e :: (mid ++ e' :: post)))
    (patch : EventKind.patchCreated.ofExperiment x e = some found)
    (patch' : EventKind.patchCreated.ofExperiment x e' = some found') :
    found.2.attempt = found'.2.attempt ↔ codes (trace x mid) = 1 ∧ retried (trace x pre) = true ∧
      retried (trace x (pre ++ e :: mid)) = false := by
  have between := v.called patch patch'
  have first := v.attempt identity patch
  have split : pre ++ e :: (mid ++ e' :: post) = (pre ++ e :: mid) ++ e' :: post := by simp
  rw [split] at v identity
  have last := v.attempt identity patch'
  rw [first, last, attemptAfter, attemptAfter, codes_patch patch]
  cases retried (trace x pre) <;> cases retried (trace x (pre ++ e :: mid)) <;>
    simp only [Bool.toNat_false, Bool.toNat_true, reduceCtorEq, and_false, and_true, iff_false] <;> omega

/-- The patches of a run have different attempts exactly when the retries are followed. -/
lemma LaneLedger.attemptsDistinct_iff (v : LaneLedger h x es) (identity : KeepsIdentity x es) :
    AttemptsDistinct x es ↔ RetriesFollowed x es := by
  rw [AttemptsDistinct, patchesOf, List.pairwise_filterMap, Log.pairwise_iff_split]
  constructor
  · rintro distinct pre e mid e' post rfl patch patch' one again
    obtain ⟨found, patch⟩ := Option.isSome_iff_exists.mp patch
    obtain ⟨found', patch'⟩ := Option.isSome_iff_exists.mp patch'
    by_contra once
    refine distinct pre e mid e' post rfl found patch found' patch' ?_
    exact (v.same_attempt identity patch patch').mpr ⟨one, again, by simpa using once⟩
  · rintro followed pre e mid e' post rfl found patch found' patch' same
    obtain ⟨one, again, once⟩ := (v.same_attempt identity patch patch').mp same
    have twice := followed pre e mid e' post rfl (by simp [patch]) (by simp [patch']) one again
    rw [once] at twice
    cases twice

/-- The files of the patches of an experiment are written in the order of the patches. -/
def writePatches (runId x : String) (produced : Event → CandidateFiles) (es : List Event) :
    Except WriteError Execution.Disk :=
  (patchesOf x es).foldlM (fun disk patch => writeCandidate runId x patch.2.attempt (produced patch.1) disk)
    emptyDisk

/-- The patches of an experiment are numbered apart, and whatever the coder keeps of them is written. -/
structure NumberedApart (runId x : String) (es : List Event) : Prop where
  attempts : AttemptsDistinct x es
  files : ∀ produced, ∃ disk, writePatches runId x produced es = .ok disk

/-- Patches with different attempts keep their files. -/
lemma AttemptsDistinct.numberedApart {runId : String} (distinct : AttemptsDistinct x es)
    (run : matchesId runId = true) (experiment : matchesId x = true) : NumberedApart runId x es := by
  refine ⟨distinct, fun produced => ?_⟩
  have apart : ((patchesOf x es).map fun patch => (patch.2.attempt, produced patch.1)).Pairwise
      fun patch later => patch.1 ≠ later.1 := List.pairwise_map.mpr distinct
  obtain ⟨disk, wrote⟩ := Coding.writeCandidates_ok run experiment _ apart
  rw [List.foldlM_map] at wrote
  exact ⟨disk, wrote⟩

end Attempts

section Runs
open Scenario

/-- The check of a patch. -/
def patchVerdict (attempt : Nat) (accepted : Bool) : Answer :=
  .check
    { experimentId := "", attempt, patchCommitSha := "a", diffSha256 := "a", accepted
      receiptId := if accepted then some "receipt-a" else none
      validateReceipt := by cases accepted <;> decide }

/-- The patch of an attempt. -/
def producedPatch (attempt : Nat) : Answer :=
  .patch
    { experimentId := "", attempt, experimentSpecEventId := 0, contextId := "coder"
      patchCommitSha := "a", diffSha256 := "a" }

lemma debug_adjustments : ([] : List (String × RuntimeValue)).length =
    if RecoveryAction.traeRepair = .adjustApprovedRuntimeSetting then 1 else 0 := rfl

lemma retry_adjustments : ([] : List (String × RuntimeValue)).length =
    if RecoveryAction.retrySameCommit = .adjustApprovedRuntimeSetting then 1 else 0 := rfl

/-- The gate rejects a patch, and the repair is accepted. -/
def rejectedPatch (attempt : Nat) : List Answer :=
  [ producedPatch attempt, patchVerdict attempt false,
    .recovery { action := .traeRepair, reasonCode := "SELF_DEBUG", validateActionAdjustment := debug_adjustments },
    producedPatch attempt, patchVerdict 2 true ]

/-- The coder fails once before it makes the patch. -/
def retriedPatch : List Answer :=
  [ .raised (.adapter (unavailable "coder")),
    .recovery { action := .retrySameCommit, reasonCode := "OWNER_RETRY", validateActionAdjustment := retry_adjustments } ] ++
  rejectedPatch 2

/-- The world after the answers. -/
def patchedWorld (answers : List Answer) : World Event Submission Answer :=
  (scenarioHarness.runOneExperiment 3 (spec "exp") 5 (scenarioWorld answers)).2

lemma patchedWorld_run (answers : List Answer) :
    LaneRun scenarioHarness 3 (spec "exp") 5 (scenarioWorld answers) (patchedWorld answers) :=
  .sequential rfl

instance (x : String) (es : List Event) : Decidable (KeepsIdentity x es) :=
  decidable_of_iff (∀ i : Fin es.length, (es.get i).key.stage = .patchCreated →
      ∀ found ∈ EventKind.patchCreated.ofExperiment x (es.get i),
        forInitial (es.take i) x = .ok found.2.attempt)
    (Log.forall_split (P := fun pre e => e.key.stage = .patchCreated →
      ∀ found ∈ EventKind.patchCreated.ofExperiment x e, forInitial pre x = .ok found.2.attempt)).symm

/-- One file of one byte, different after every event. -/
def diffOf (e : Event) : CandidateFiles where
  files := [(["patch.diff"], [UInt8.ofNat e.eventId])]
  names := by
    intro file mem
    rw [List.mem_singleton.mp mem]
    refine ⟨List.cons_ne_nil _ _, fun part listed => ?_⟩
    rw [List.mem_singleton.mp listed]
    exact Coding.fileName_of_id rfl
  apart := List.pairwise_singleton _ _

end Runs
end TacoRank
