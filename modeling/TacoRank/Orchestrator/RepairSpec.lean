import TacoRank.Orchestrator.RecoverySpec

/-!
# Specifications of repairs

`_execute_code_repair` calls the repair worker for the decision at the end of the trace, at most
twice, and seals the patch that it returns. The attempt of the patch is one more than the number of
repairs, and one more again if the worker was retried. Repairs keep every assertion that the events
outside the execution attempts keep.
-/

namespace TacoRank
open Lib Lib.Result

/-- The place of the failure of an adapter in an execution attempt; other stages have none. -/
def FailureStage.place : FailureStage → Nat
  | .execution => 2
  | .outputGate => 3
  | .evaluation => 5
  | _ => 0

/-- The place of an event in an execution attempt; the events of patches and recoveries have none. -/
def EventPayload.place : EventPayload → Nat
  | .executionStarted _ => 1
  | .executionFinished _ => 2
  | .adapterFailed result => result.failureStage.place
  | .outputChecked _ => 4
  | .evaluationCompleted _ => 6
  | .experimentDecided _ => 7
  | _ => 0

/-- An assertion that the events outside the execution attempts keep. -/
def Kept (P : List Event → Prop) : Prop :=
  ∀ t e, e.payload.place = 0 → P t → P (t ++ [e])

/-- The patch that was sealed last, with the check of it. -/
structure Sealed (checked : Harness.CheckedPatch) (t : List Event) : Prop where
  patch : ∃ e, newest (ofTypes [.patchCreated]) t = some e ∧
    e.payload = .patchCreated checked.patch
  recorded : checked.event ∈ t
  check : checked.event.payload = .patchChecked checked.check

/-- A patch may be sealed as the answer to a decision. -/
structure Sealing (contextId : String) (attempt : Nat) (t : List Event) : Prop where
  base : Base t
  called : ∃ s, newest patchOrRepair t = some s ∧ s.payload.type = .recoveryDecided
  attempt : attempt = codes t + 1 + (retried t).toNat
  unused : ∀ e ∈ t, ∀ c, e.payload = .patchCreated c → c.contextId ≠ contextId
  licensed : Licensed t

/-- Where a repair or a check leaves the trace. -/
structure Settled (t : List Event) : Prop where
  base : Base t
  calm : Calm t
  licensed : Licensed t

/-- The trace ends with a decision that calls for a patch. -/
structure Called (x : String) (r : Harness.Recovery) (t : List Event) : Prop where
  base : Base t
  last : ∃ pre, t = pre ++ [r.event]
  payload : r.event.payload = .recoveryDecided r.decision
  owner : r.decision.experimentId = x
  code : r.decision.action.isCodeRecovery = true
  counted : r.decision.repairAttempt = codes t
  below : CodingBelow (codes t) t
  unused : ∀ e ∈ t, ∀ c, e.payload = .patchCreated c → c.contextId ≠ r.context.contextId

section Sealing
variable {h : Harness} {x : String} {P : List Event → Prop}
  {K : RecoveryAction → List Event → Prop} {t : List Event} {e : Event}

lemma Kept.and {Q : List Event → Prop} (hp : Kept P) (hq : Kept Q) : Kept fun t => P t ∧ Q t :=
  fun t e side ⟨p, q⟩ => ⟨hp t e side p, hq t e side q⟩

lemma newest_other {p : EventPayload → Bool} (other : p e.payload = false) :
    newest p (t ++ [e]) = newest p t := by
  rw [newest_snoc, other]
  rfl

lemma newest_own {p : EventPayload → Bool} (own : p e.payload = true) :
    newest p (t ++ [e]) = some e := by
  rw [newest_snoc, own]
  rfl

lemma Licensed.other (licensed : Licensed t) (other : e.payload.type ≠ .executionStarted) :
    Licensed (t ++ [e]) := by
  intro s found
  rw [newest_snoc] at found
  split at found
  · cases found
    exact other
  · exact licensed s found

/-- Events of most types keep what a repair leaves. -/
lemma Settled.plain (settled : Settled t)
    (type : e.payload.type ∉
      [.adapterFailed, .recoveryDecided, .experimentDecided, .executionStarted]) :
    Settled (t ++ [e]) := by
  refine ⟨settled.base.plain (by simp at type ⊢; tauto), .snoc ?_, settled.licensed.other ?_⟩
  · cases p : e.payload with
    | recoveryDecided => simp [p, EventPayload.type] at type
    | _ => rfl
  · simp at type
    tauto

/-- The end of `_execute_code_repair`. -/
lemma sealRepair_spec {decision : RecoveryDecision} {contextId : String}
    {decisionEventId proposal : EventId} {candidate : PatchCandidate} (kept : Kept P)
    (owner : candidate.experimentId = x) :
    LaneSpec h x
      (On x fun t => Sealing contextId (decision.repairAttempt + 1) t ∧ P t)
      (h.sealRepair decision contextId decisionEventId proposal candidate)
      (fun checked => On x fun t => Sealed checked t ∧ Settled t ∧ P t) (Left h x K) := by
  unfold Harness.sealRepair
  refine Meets.bind (Q := fun e => On x fun t => (newest (ofTypes [.patchCreated]) t = some e ∧
    e.payload = .patchCreated { candidate with
      attempt := decision.repairAttempt + 1, experimentSpecEventId := proposal, contextId }) ∧
    Settled t ∧ P t) ?_ fun patchEvent => ?_
  · refine append_own (congrArg some owner) ?_ ?_ ?_
    · rintro es e _ ⟨sealing, hp⟩ _ records _ _
      have stage : e.key.stage ≠ .patchCreated := by
        rw [records.key]
        simp only
        split <;> exact Stage.noConfusion
      refine ⟨?_, ⟨newest_own (by rw [records.payload]; rfl), records.payload⟩, ⟨?_, ?_, ?_⟩,
        kept _ e (by rw [records.payload]; rfl) hp⟩
      · unfold Rule
        rw [records.payload]
        simp only [if_neg stage]
        exact ⟨sealing.called, sealing.attempt⟩
      · exact sealing.base.plain (by simp [records.payload, EventPayload.type])
      · exact .snoc (by rw [records.payload]; rfl)
      · exact sealing.licensed.other (by simp [records.payload, EventPayload.type])
    · rintro es e _ ⟨sealing, _⟩ mem records
      exact absurd rfl (sealing.unused e mem _ records.payload)
    · rintro now es error v ⟨sealing, _⟩ failed
      refine .base sealing.base.toUnclosed (.inl (append_rejects v.valid ?_ failed))
      simp [EventPayload.type]
  refine Meets.bind (Q := fun check es => check.experimentId = x ∧
    On x (fun t => (newest (ofTypes [.patchCreated]) t = some patchEvent ∧
      patchEvent.payload = .patchCreated { candidate with
        attempt := decision.repairAttempt + 1, experimentSpecEventId := proposal, contextId }) ∧
      Settled t ∧ P t) es) ?_ fun check => ?_
  · refine (patchGate_spec Steady.on).weaken (fun _ _ hp => hp) ?_ ?_
    · rintro check es _ ⟨same, hp⟩
      exact ⟨same.trans owner, hp⟩
    · rintro error es _ ⟨_, settled, _⟩
      exact .base settled.base.toUnclosed (.inr settled.calm)
  refine Meets.assuming fun checked => ?_
  refine Meets.bind (Q := fun e => On x fun t => Sealed ⟨{ candidate with
    attempt := decision.repairAttempt + 1, experimentSpecEventId := proposal, contextId },
    check, e⟩ t ∧ Settled t ∧ P t) ?_ fun event => Meets.ret fun _ _ hp => hp
  refine append_own (congrArg some checked) ?_ ?_ ?_
  · rintro es e _ ⟨⟨found, payload⟩, settled, hp⟩ _ records _ _
    refine ⟨by simp [Rule, records.payload], ⟨⟨patchEvent, ?_, payload⟩, by simp, records.payload⟩,
      ?_, kept _ e (by rw [records.payload]; rfl) hp⟩
    · rw [newest_other (by rw [records.payload]; rfl)]
      exact found
    · exact settled.plain (by simp [records.payload, EventPayload.type])
  · rintro es e _ ⟨sealed, settled, hp⟩ mem records
    exact ⟨⟨⟨patchEvent, sealed⟩, mem, records.payload⟩, settled, hp⟩
  · rintro now es error v ⟨_, settled, _⟩ _
    exact .base settled.base.toUnclosed (.inr settled.calm)

/-- The repair of a decision, as it is called first. -/
lemma Called.sealing {r : Harness.Recovery} (called : Called x r t) :
    Sealing r.context.contextId (r.decision.repairAttempt + 1) t := by
  obtain ⟨pre, rfl⟩ := called.last
  have own : patchOrRepair r.event.payload = true := by
    simp [patchOrRepair, called.payload, EventPayload.repairs, called.code]
  refine ⟨called.base, ⟨_, newest_own own, by rw [called.payload]; rfl⟩, ?_, called.unused, ?_⟩
  · have first : retried (pre ++ [r.event]) = false := by
      unfold retried
      rw [newest_own (by rw [called.payload]; rfl), Option.any_some, called.payload]
      have code := called.code
      cases action : r.decision.action <;> simp [action, RecoveryAction.isCodeRecovery] at code ⊢
    rw [called.counted, first]
    rfl
  · intro s found
    rw [newest_own (by rw [called.payload]; rfl)] at found
    cases found
    simp [called.payload, EventPayload.type]

/-- A failed repair worker is recorded: its attempt is larger than those of all earlier failures of
the coder. -/
lemma repairFailure_spec {r : Harness.Recovery} {error : RouterError} {t0 : List Event}
    (called : Called x r t0) :
    LaneSpec h x (On x (· = t0))
      (h.recordAdapterFailure x (r.decision.repairAttempt + 1) .coding error
        (some r.event.eventId))
      (fun f => On x fun t => (f ∉ t0 ∧
        (∃ result, f.payload = .adapterFailed result ∧ result.failureStage = .coding) ∧
        Base (t0 ++ [f])) ∧ t = t0 ++ [f])
      (Left h x K) := by
  have counted := called.counted
  refine append_own rfl ?_ ?_ ?_
  · rintro es f v rfl _ records _ fresh
    refine ⟨by simp [Rule, records.payload], ⟨fun mem => fresh f mem records,
      ⟨_, records.payload, rfl⟩, ?_⟩, rfl⟩
    refine called.base.failed records.payload fun _ => ?_
    simp only [Harness.adapterFailure]
    omega
  · rintro es f v rfl mem records
    have low := called.below f mem _ records.payload rfl
    simp only [Harness.adapterFailure] at low
    omega
  · rintro now es error v rfl failed
    refine .base called.base.toUnclosed (.inl (append_rejects v.valid ?_ failed))
    simp [EventPayload.type]

/-- The decision on a failed repair worker is new, and it is not one on an earlier failure. -/
lemma RecoveredFrom.fresh {t0 t : List Event} {f : Event} {r : Harness.Recovery}
    (from_ : RecoveredFrom x (t0 ++ [f]) f r t) (new : f ∉ t0) :
    ∃ c, c.payload = .contextCreated r.context.toContextDocument ∧ t = t0 ++ [f, c, r.event] := by
  obtain ⟨c, context, split | ⟨_, _, pre, post, split, mem⟩⟩ := from_.shape
  · exact ⟨c, context, by simpa using split⟩
  · rcases split_snoc split with ⟨_, _, rfl⟩ | ⟨post', same, _⟩
    · cases mem
    · exact absurd (by simp [same]) new

/-- The repair of a decision, as it is called again after a retry was granted. -/
lemma Called.resealing {r retry : Harness.Recovery} {t0 : List Event} {f c : Event}
    {result : AdapterFailureResult} (called : Called x r t0)
    (failed : f.payload = .adapterFailed result)
    (context : ∃ document, c.payload = .contextCreated document)
    (payload : retry.event.payload = .recoveryDecided retry.decision)
    (action : retry.decision.action = .retrySameCommit)
    (base : Base (t0 ++ [f, c, retry.event])) :
    Sealing r.context.contextId (codes t0 + 1 + 1) (t0 ++ [f, c, retry.event]) := by
  obtain ⟨document, context⟩ := context
  have steps : t0 ++ [f, c, retry.event] = ((t0 ++ [f]) ++ [c]) ++ [retry.event] := by simp
  have sealing := called.sealing
  obtain ⟨s, found, type⟩ := sealing.called
  rw [steps] at base ⊢
  refine ⟨base, ⟨s, ?_, type⟩, ?_, ?_, ?_⟩
  · rw [newest_other (by simp [patchOrRepair, payload, EventPayload.repairs, action,
        RecoveryAction.isCodeRecovery, ofTypes, EventPayload.type]),
      newest_other (by rw [context]; rfl), newest_other (by rw [failed]; rfl)]
    exact found
  · have again : retried (((t0 ++ [f]) ++ [c]) ++ [retry.event]) = true := by
      unfold retried
      rw [newest_own (by rw [payload]; rfl), Option.any_some, payload]
      simp [action]
    rw [again, codes_snoc, codes_snoc, codes_snoc, failed, context, payload]
    simp [EventPayload.repairs, action, RecoveryAction.isCodeRecovery]
  · intro e mem candidate created
    simp only [List.append_assoc, List.mem_append, List.mem_cons, List.not_mem_nil, or_false] at mem
    rcases mem with old | rfl | rfl | rfl
    · exact called.unused e old candidate created
    · simp [failed] at created
    · simp [context] at created
    · simp [payload] at created
  · intro s found
    rw [newest_own (by rw [payload]; rfl)] at found
    cases found
    simp [payload, EventPayload.type]

/-- `_execute_code_repair`. -/
lemma executeCodeRepair_spec {r : Harness.Recovery} {proposal : EventId} (fresh : h.FreshContexts) (kept : Kept P)
    (site : ∀ action t, P t → K action t) :
    LaneSpec h x (On x fun t => Called x r t ∧ P t) (h.executeCodeRepair r proposal)
      (fun checked => On x fun t => Sealed checked t ∧ Settled t ∧ P t) (Left h x K) := by
  refine fix_trace fun t0 ready => ?_
  obtain ⟨called, hp⟩ := ready
  unfold Harness.executeCodeRepair
  simp only [called.code, Bool.true_eq_false, if_false, called.owner]
  obtain ⟨pre, last⟩ := called.last
  have expects : Expects x .coding t0 := by
    rw [last]
    exact .repair called.payload called.owner called.code
  refine catching_spec fresh (codingWorker_spec Steady.on) expects (by simp [last]) (fun _ => rfl) ?_ ?_
  · intro candidate
    refine Meets.assuming fun owner => ?_
    refine (sealRepair_spec kept owner).pre ?_
    rintro es _ rfl
    exact ⟨called.sealing, hp⟩
  · intro error
    refine (repairFailure_spec called).bind fun f => ?_
    refine Meets.assuming fun recorded => ?_
    obtain ⟨new, ⟨result, failed, stage⟩, base⟩ := recorded
    have calm : Calm (t0 ++ [f]) := .snoc (by rw [failed]; rfl)
    refine Meets.bind (Q := fun retry => On x fun t => RecoveredFrom x (t0 ++ [f]) f retry t ∧
      (retry.decision.action.closes = false → Base t)) ?_ fun retry => ?_
    · refine (recover_spec fresh (by simp) ?_).weaken (fun _ _ hp => hp) ?_
        fun error es _ left => left.left base.toUnclosed calm
      · simp [failed, EventPayload.type]
      · intro retry es v from_
        refine ⟨from_, fun stays => from_.base v base (by simp) ?_⟩
        intro closes
        rw [stays] at closes
        cases closes
    refine fix_trace fun t1 answered => ?_
    obtain ⟨from_, base1⟩ := answered
    obtain ⟨c, context, rfl⟩ := from_.fresh new
    have kept2 : P (t0 ++ [f, c, retry.event]) := by
      rw [show t0 ++ [f, c, retry.event] = ((t0 ++ [f]) ++ [c]) ++ [retry.event] by simp]
      refine kept _ _ (by rw [from_.payload]; rfl) (kept _ _ (by rw [context]; rfl) ?_)
      refine kept _ _ ?_ hp
      simp [EventPayload.place, failed, stage, FailureStage.place]
    split
    -- the decided action is signalled upward
    · refine Meets.raise fun es _ same => ?_
      have base2 := base.context context
      have split' : trace x es = ((t0 ++ [f]) ++ [c]) ++ [retry.event] := by
        rw [show trace x es = _ from same]
        simp
      refine .broken ?_ (.signal split' from_.payload base2.uncontained rfl ?_)
      swap
      · rw [show trace x es = _ from same]
        exact site _ _ kept2
      rw [split']
      intro e mem d payload
      rcases List.mem_append.mp mem with old | last
      · exact base2.undecided e old d payload
      · rw [List.mem_singleton.mp last, from_.payload] at payload
        cases payload
    -- the repair is reissued under the number of the retry
    · rename_i granted
      have action : retry.decision.action = .retrySameCommit := by simpa using granted
      have base2 : Base (t0 ++ [f, c, retry.event]) := base1 (by rw [action]; rfl)
      have calm2 : Calm (t0 ++ [f, c, retry.event]) := by
        rw [show t0 ++ [f, c, retry.event] = (t0 ++ [f, c]) ++ [retry.event] by simp]
        refine .snoc ?_
        rw [from_.payload, EventPayload.repairs, action]
        rfl
      have sealing := called.resealing failed ⟨_, context⟩ from_.payload action base2
      refine Meets.bind (Q := fun candidate es => candidate.experimentId = x ∧
        On x (· = t0 ++ [f, c, retry.event]) es) ?_ fun candidate => ?_
      · refine (codingWorker_spec Steady.on).weaken (fun _ _ hp => hp) (fun _ _ _ q => q) ?_
        intro error es _ same
        exact .base (same ▸ base2.toUnclosed) (.inr (same ▸ calm2))
      refine Meets.assuming fun owner => ?_
      refine (sealRepair_spec kept owner).pre ?_
      rintro es _ same
      have number : retry.context.repairAttempt = codes t0 + 1 := by
        rw [from_.number, codes_snoc, failed]
        rfl
      refine ⟨?_, ?_⟩
      · rw [show trace x es = _ from same, number]
        exact sealing
      · rw [show trace x es = _ from same]
        exact kept2

end Sealing

/-! ### The loops -/

/-- What a recovery leaves for what follows it. -/
structure Answered (x : String) (r : Harness.Recovery) (t : List Event) : Prop where
  base : Base t
  payload : r.event.payload = .recoveryDecided r.decision
  owner : r.decision.experimentId = x
  called : r.decision.action.isCodeRecovery = true → Called x r t
  calm : r.decision.action.isCodeRecovery = false → Calm t

/-- The decision on a failure lies behind it. -/
def Follows (failure decision : Event) (t : List Event) : Prop :=
  ∃ pre post, t = pre ++ failure :: post ∧ decision ∈ post

/-- How a repair loop leaves the trace. -/
structure Repaired (P : List Event → Prop) (outcome : Harness.RepairOutcome) (t : List Event) :
    Prop where
  base : Base t
  calm : Calm t
  kept : P t
  accepted : ∀ checked, outcome = .accepted checked → Sealed checked t ∧ Licensed t

section Loops
variable {h : Harness} {x : String} {P : List Event → Prop}
  {K : RecoveryAction → List Event → Prop} {proposal : EventId} {fuel : Nat}

lemma RecoveredFrom.follows {t0 t : List Event} {failure : Event} {r : Harness.Recovery}
    (from_ : RecoveredFrom x t0 failure r t) (mem : failure ∈ t0) : Follows failure r.event t := by
  obtain ⟨c, _, split | ⟨split, _, pre, post, same, inside⟩⟩ := from_.shape
  · obtain ⟨pre, post, rfl⟩ := List.append_of_mem mem
    exact ⟨pre, post ++ [c, r.event], by simp [split], by simp⟩
  · exact ⟨pre, post ++ [c], by simp [split, same], by simp [inside]⟩

lemma RecoveredFrom.answered {t0 t : List Event} {failure : Event} {r : Harness.Recovery}
    (from_ : RecoveredFrom x t0 failure r t) (base0 : Base t0) (base : Base t) :
    Answered x r t := by
  obtain ⟨c, context, shape⟩ := from_.shape
  refine ⟨base, from_.payload, from_.owner, fun code => ?_, fun other => ?_⟩
  · rcases shape with split | ⟨_, other, _⟩
    · have split' : t = (t0 ++ [c]) ++ [r.event] := by
        rw [split]
        simp
      have count : codes t = codes t0 + 1 := by
        rw [split', codes_snoc, codes_snoc, context, from_.payload, EventPayload.repairs, code]
        rfl
      refine ⟨base, ⟨t0 ++ [c], split'⟩, from_.payload, from_.owner, code, from_.counted code, ?_, ?_⟩
      · rw [count, split]
        intro e mem result failed stage
        simp only [List.mem_append, List.mem_cons, List.not_mem_nil, or_false] at mem
        rcases mem with old | rfl | rfl
        · exact base0.coding e old result failed stage
        · simp [context] at failed
        · simp [from_.payload] at failed
      · rw [split]
        intro e mem candidate created
        simp only [List.mem_append, List.mem_cons, List.not_mem_nil, or_false] at mem
        rcases mem with old | rfl | rfl
        · exact from_.unused e old candidate created
        · simp [context] at created
        · simp [from_.payload] at created
    · rw [other] at code
      cases code
  · rcases shape with split | ⟨split, _⟩
    · rw [split, show t0 ++ [c, r.event] = (t0 ++ [c]) ++ [r.event] by simp]
      refine .snoc ?_
      rw [from_.payload]
      exact other
    · rw [split]
      exact .context context

/-- `_recover`, on a failure of anything but the coder. -/
lemma answer_spec {failure : Event} (fresh : h.FreshContexts)
    (kept : Kept P) (type : failure.payload.type ≠ .executionStarted)
    (other : failure.payload.failureStage ≠ some .coding) :
    LaneSpec h x (On x fun t => failure ∈ t ∧ Base t ∧ Calm t ∧ P t)
      (h.recover failure x)
      (fun r => On x fun t => Answered x r t ∧ Follows failure r.event t ∧ P t) (Left h x K) := by
  refine fix_trace fun t0 ⟨mem, base, calm, hp⟩ => ?_
  refine (recover_spec fresh mem type).weaken (fun _ _ hp => hp) ?_
    fun error es _ left => left.left base.toUnclosed calm
  intro r es v from_
  have after := from_.base v base mem fun _ failed => other failed.1
  refine ⟨from_.answered base after, from_.follows mem, ?_⟩
  obtain ⟨c, context, split | ⟨split, _⟩⟩ := from_.shape
  · rw [split, show t0 ++ [c, r.event] = (t0 ++ [c]) ++ [r.event] by simp]
    exact kept _ _ (by rw [from_.payload]; rfl) (kept _ _ (by rw [context]; rfl) hp)
  · rw [split]
    exact kept _ _ (by rw [context]; rfl) hp

/-- `_recover`, on the rejection of a sealed patch. -/
lemma answerCheck_spec {checked : Harness.CheckedPatch} (fresh : h.FreshContexts) (kept : Kept P) :
    LaneSpec h x (On x fun t => Sealed checked t ∧ Settled t ∧ P t)
      (h.recover checked.event x) (fun r => On x fun t => Answered x r t ∧ P t) (Left h x K) := by
  refine Meets.given (fun es _ hp => Sealed.check hp.1) fun check => ?_
  refine (answer_spec fresh kept ?_ ?_).weaken ?_ ?_ fun _ _ _ left => left
  · simp [check, EventPayload.type]
  · simp [check, EventPayload.failureStage]
  · rintro es _ ⟨sealed, settled, hp⟩
    exact ⟨sealed.recorded, settled.base, settled.calm, hp⟩
  · rintro r es _ ⟨answered, _, hp⟩
    exact ⟨answered, hp⟩

/-- A repair loop keeps what repairs keep. -/
lemma repairLoop_spec {checkBudget : Bool} {r : Harness.Recovery} (fresh : h.FreshContexts) (kept : Kept P) (site : ∀ action t, P t → K action t) :
    LaneSpec h x (On x fun t => Answered x r t ∧ P t)
      (h.repairLoop fuel checkBudget x proposal r) (fun outcome => On x (Repaired P outcome))
      (Left h x K) := by
  refine Meets.loop (J := fun r => On x fun t => Answered x r t ∧ P t) (fun r => ?_) fuel r
  simp only
  cases code : r.decision.action.isCodeRecovery with
  | false =>
    refine Meets.ret fun es _ ⟨answered, hp⟩ => ⟨answered.base, answered.calm code, hp, ?_⟩
    intro checked same
    cases same
  | true =>
    refine Meets.bind ((executeCodeRepair_spec fresh kept site).pre ?_) fun checked => ?_
    · exact fun es _ ⟨answered, hp⟩ => ⟨answered.called code, hp⟩
    have ended (exhausted : Bool) : LaneSpec h x
        (On x fun t => Sealed checked t ∧ Settled t ∧ P t)
        (if exhausted = true then pure (Sum.inr .exhausted)
          else if checked.check.accepted = true then pure (Sum.inr (.accepted checked))
          else h.recover checked.event x >>= fun recovery => pure (Sum.inl recovery))
        (Continues (fun r => On x fun t => Answered x r t ∧ P t)
          fun outcome => On x (Repaired P outcome)) (Left h x K) := by
      split
      · refine Meets.ret fun es _ ⟨_, settled, hp⟩ => ⟨settled.base, settled.calm, hp, ?_⟩
        intro checked same
        cases same
      split
      · refine Meets.ret fun es _ ⟨sealed, settled, hp⟩ => ⟨settled.base, settled.calm, hp, ?_⟩
        intro checked' same
        cases same
        exact ⟨sealed, settled.licensed⟩
      · exact (answerCheck_spec fresh kept).bind fun r => Meets.ret fun _ _ hp => hp
    cases checkBudget with
    | true =>
      refine Meets.bind ((stopIfRuntimeBudgetExhausted_spec Steady.on).weaken (fun _ _ hp => hp)
        (fun _ _ _ hp => hp) ?_) ended
      exact fun error es _ ⟨control, _, settled, _⟩ => .base settled.base.toUnclosed (.inl control)
    | false => exact Meets.bind (Meets.ret fun _ _ hp => hp) ended

end Loops
end TacoRank
