import TacoRank.Orchestrator.ExecutionSpec

/-!
# Specification of an experiment lane

The lane of a proposal: the first patch, its gate check, the repairs that the gate asks for, and the
fidelity loop. Until the loop begins the trace holds no event of an execution attempt. The terminal
decision of `_abandon_experiment` is never accepted: it cites no evaluation, and the output of a smoke
request has not been verified where the experiment is abandoned.
-/

namespace TacoRank
open Lib Lib.Result

/-- Nothing has been executed. -/
def Unplaced (t : List Event) : Prop := ∀ e ∈ t, e.payload.place = 0

/-- The trace of an experiment before its first patch. -/
structure Drafting (t : List Event) : Prop where
  unclosed : Unclosed t
  uncalled : ∀ e ∈ t, e.payload.repairs = false
  unpatched : Unpatched t
  unplaced : Unplaced t

/-- The first patch may follow. -/
structure Drafted (t : List Event) : Prop where
  base : Base t
  calm : Calm t
  first : FirstPatch t
  unplaced : Unplaced t

/-- A patch is the newest one. -/
def Patched (patch : PatchCandidate) (t : List Event) : Prop :=
  ∃ e, newest (ofTypes [.patchCreated]) t = some e ∧ e.payload = .patchCreated patch

/-- The world in which the lane of a prepared proposal begins: nothing else has been recorded for its
experiment, and the other lanes leave the experiment alone. -/
structure LaneWorld (x : String) (w : World Event Submission Answer) : Prop where
  valid : ValidLedger w.log
  proposed : ∀ e ∈ trace x w.log, e.payload.type = .experimentProposed
  others : ∀ turn ∈ w.script, ∀ s ∈ turn.interference, s.payload.owner ≠ some x

lemma LaneWorld.admits {h : Harness} {x : String} {w : World Event Submission Answer}
    (world : LaneWorld x w) : (laneRely h x).Admits w :=
  ⟨world.valid.laneLedger world.proposed, world.others⟩

section Lane
variable {h : Harness} {x : String} {fuel : Nat} {spec : ExperimentSpec} {proposal : EventId}
  {t0 t : List Event} {e : Event}

lemma Unplaced.kept : Kept Unplaced := by
  intro t e place unplaced e' mem
  rcases List.mem_append.mp mem with old | new
  · exact unplaced e' old
  · rw [List.mem_singleton.mp new]
    exact place

/-- What has not been executed has not been evaluated. -/
lemma Unplaced.signals {action : RecoveryAction} (unplaced : Unplaced t) : Signals action t := by
  rintro _ ⟨e, res, found, payload, _⟩
  have place := unplaced e (newest_mem found).1
  rw [payload] at place
  cases place

lemma Unplaced.licensed (unplaced : Unplaced t) : Licensed t := by
  intro s found started
  have place := unplaced s (newest_mem found).1
  rw [EventPayload.place_started started] at place
  cases place

lemma Unplaced.ready {checked : Harness.CheckedPatch} {queue : List Fidelity}
    (unplaced : Unplaced t) (sealed : Sealed checked t) (settled : Settled t) :
    Ready x { checked, stageQueue := queue } t := by
  refine ⟨sealed, settled, fun e mem => ⟨fun ranked => ?_, fun q started => ?_⟩,
    fun template => absurd rfl template, fun q template => ?_, fun fidelity _ e mem d decided => ?_⟩
  · rw [unplaced e mem] at ranked
    cases ranked
  · have place := unplaced e mem
    rw [started] at place
    cases place
  · cases template
  · have place := unplaced e mem
    rw [decided] at place
    cases place

/-- The end of a lane that closes nothing. -/
lemma Done.open_ {es : List Event} (open_ : Unclosed (trace x es)) : Done x .state es :=
  .undecided open_.undecided open_.uncontained

/-! ### The first patch -/

/-- Events that call for no patch keep the trace before the first one. -/
lemma Drafting.snoc (drafting : Drafting t)
    (type : e.payload.type ∉ [.patchCreated, .experimentDecided])
    (uncalled : e.payload.repairs = false) (place : e.payload.place = 0)
    (recovery : ∀ d, ¬ Contained t e d) : Drafting (t ++ [e]) := by
  refine ⟨drafting.unclosed.snoc recovery fun d decided => ?_, fun e' mem => ?_, fun e' mem => ?_,
    Unplaced.kept t e place drafting.unplaced⟩
  · simp [decided, EventPayload.type] at type
  · rcases List.mem_append.mp mem with old | new
    · exact drafting.uncalled e' old
    · rw [List.mem_singleton.mp new]
      exact uncalled
  · rcases List.mem_append.mp mem with old | new
    · exact drafting.unpatched e' old
    · rw [List.mem_singleton.mp new]
      simp at type
      exact type.1

lemma Drafting.calm (drafting : Drafting t) : Calm t := by
  intro e last
  exact drafting.uncalled e (List.mem_of_getLast? last)

lemma Drafting.uncontained (drafting : Drafting t) {d : RecoveryDecision} :
    ¬ Contained t e d := by
  intro contained
  obtain ⟨f, _, _, _, c, mem, _, repairs⟩ := contained.failure
  rw [drafting.uncalled c mem] at repairs
  cases repairs

/-- What the recovery of a failed coder adds to the trace. -/
structure CoderRecovered (x : String) (t0 : List Event) (attempt : Nat) (r : Harness.Recovery) (f c : Event)
    (t : List Event) : Prop where
  unclosed : Unclosed t
  split : t = t0 ++ [f, c, r.event]
  failed : ∃ result, f.payload = .adapterFailed result ∧ result.failureStage = .coding ∧
    result.attempt = attempt
  attempt : f.key.attempt = attempt
  context : c.payload = .contextCreated r.context.toContextDocument
  payload : r.event.payload = .recoveryDecided r.decision
  owner : r.decision.experimentId = x
  cites : r.decision.failureEventId = f.eventId

/-- A failure of the coder is recorded and recovered. -/
lemma coderFailure_spec {β : Type} {error : RouterError} {n : Nat} {cause : Option EventId}
    {g : Harness.Recovery → Lane β} {T : β → List Event → Prop}
    (fresh : h.FreshContexts) (drafting : Drafting t0)
    (new : ∀ e ∈ t0, ∀ result, e.payload = .adapterFailed result → e.key.attempt ≠ max 1 n)
    (rest : ∀ r, LaneSpec h x (On x fun t => ∃ f c, CoderRecovered x t0 (max 1 n) r f c t) (g r)
      T (Left h x Signals)) :
    LaneSpec h x (On x (· = t0))
      (h.recordAdapterFailure x n .coding error cause >>= fun failure => h.recover failure x >>= g)
      T (Left h x Signals) := by
  refine Meets.bind (Q := fun f => On x fun t => (f ∉ t0 ∧
    (∃ result, f.payload = .adapterFailed result ∧ result.failureStage = .coding ∧
      result.attempt = max 1 n) ∧ f.key.attempt = max 1 n) ∧ t = t0 ++ [f]) ?_ fun f => ?_
  · refine append_own rfl ?_ ?_ ?_
    · rintro es f v rfl _ records _ unrecorded
      exact ⟨by simp [Rule, records.payload], ⟨fun mem => unrecorded f mem records,
        ⟨_, records.payload, rfl, rfl⟩, by rw [records.key]; rfl⟩, rfl⟩
    · rintro es f v rfl mem records
      exact absurd (by rw [records.key]; rfl) (new f mem _ records.payload)
    · rintro now es error v rfl _
      exact .base drafting.unclosed (.inr drafting.calm)
  refine Meets.assuming fun recorded => ?_
  obtain ⟨absent, ⟨result, payload, stage, number⟩, attempt⟩ := recorded
  have drafting1 : Drafting (t0 ++ [f]) := by
    refine drafting.snoc ?_ ?_ ?_ fun d contained => ?_
    · simp [payload, EventPayload.type]
    · rw [payload]
      rfl
    · simp [payload, EventPayload.place, stage, FailureStage.place]
    · exact drafting.uncontained contained
  refine Meets.bind ((recover_spec fresh (by simp) ?_).weaken (fun _ _ hp => hp) ?_
    fun error es _ left => left.left drafting1.unclosed drafting1.calm) rest
  · simp [payload, EventPayload.type]
  · intro r es v from_
    obtain ⟨c, context, split⟩ := from_.fresh absent
    refine ⟨f, c, from_.unclosed v drafting1.unclosed (by simp) fun _ failed => ?_, split,
      ⟨result, payload, stage, number⟩, attempt, context, from_.payload, from_.owner,
      from_.cites⟩
    obtain ⟨_, c', mem, _, repairs⟩ := failed
    rw [drafting1.uncalled c' mem] at repairs
    cases repairs

lemma Drafting.proposed (proposed : ∀ e ∈ t, e.payload.type = .experimentProposed) :
    Drafting t := by
  have only : ∀ e ∈ t, ∃ spec, e.payload = .experimentProposed spec := by
    intro e mem
    have type := proposed e mem
    cases payload : e.payload with
    | experimentProposed spec => exact ⟨spec, rfl⟩
    | _ => simp [payload, EventPayload.type] at type
  refine ⟨⟨?_, fun e mem d decided => ?_⟩, fun e mem => ?_, fun e mem created => ?_, fun e mem => ?_⟩
  · rintro pre e post d rfl contained
    obtain ⟨spec, payload⟩ := only e (by simp)
    rw [contained.payload] at payload
    cases payload
  · obtain ⟨spec, payload⟩ := only e mem
    rw [decided] at payload
    cases payload
  · obtain ⟨spec, payload⟩ := only e mem
    rw [payload]
    rfl
  · have type := proposed e mem
    rw [created] at type
    cases type
  · obtain ⟨spec, payload⟩ := only e mem
    rw [payload]
    rfl

/-- The context of the coder is recorded. -/
lemma coderContext_spec {β : Type} {key : EventKey} {g : Event → Lane β} {T : β → List Event → Prop}
    (proposed : ∀ e ∈ t0, e.payload.type = .experimentProposed)
    (rest : ∀ c document, c.payload = .contextCreated document →
      LaneSpec h spec.experimentId (On spec.experimentId (· = t0 ++ [c])) (g c) T
        (Left h spec.experimentId Signals)) :
    LaneSpec h spec.experimentId (On spec.experimentId (· = t0))
      (h.coderContext spec >>= fun context =>
        h.append (.contextCreated context) key (some proposal) {} >>= g) T
      (Left h spec.experimentId Signals) := by
  have drafting := Drafting.proposed proposed
  refine Meets.bind (Q := fun context => On spec.experimentId fun t =>
    (context.role = .coder ∧ context.experimentId = some spec.experimentId) ∧ t = t0) ?_
    fun context => Meets.assuming fun written => ?_
  · refine Meets.bind events_spec fun ledger => ?_
    refine Meets.bind (Q := fun _ => On spec.experimentId (· = t0))
      (Meets.ofExcept (fun _ _ _ hp _ => hp.2) ?_) fun context => Meets.ret fun _ _ same => ?_
    · rintro error es _ ⟨_, same⟩ _
      have same : trace spec.experimentId es = t0 := same
      exact .base (same ▸ drafting.unclosed) (.inr (same ▸ drafting.calm))
    · exact ⟨⟨rfl, rfl⟩, same⟩
  · obtain ⟨role, owner⟩ := written
    have own : (EventPayload.contextCreated context).owner = some spec.experimentId := owner
    refine Meets.bind (Q := fun (c : Event) => On spec.experimentId fun t =>
      c.payload = .contextCreated context ∧ t = t0 ++ [c]) ?_
      fun c => Meets.assuming fun payload => rest c context payload
    refine append_own (P := (· = t0)) own ?_ ?_ ?_
    · rintro es c _ rfl _ records _ _
      refine ⟨?_, records.payload, rfl⟩
      unfold Rule
      rw [records.payload]
      intro recovery
      rw [role] at recovery
      cases recovery
    · rintro es c _ rfl mem records
      have type := proposed c mem
      rw [records.payload] at type
      cases type
    · rintro now es error v rfl _
      exact .base drafting.unclosed (.inr drafting.calm)

/-- How the first patch ends. -/
def FirstPatchEnds (x : String) (result : Option (PatchCandidate × EventId)) (es : List Event) :
    Prop :=
  (result = none → Done x .state es) ∧ ∀ patch cause, result = some (patch, cause) →
    patch.experimentId = x ∧ Drafted (trace x es)

/-- The first patch of an experiment. -/
lemma initialPatch_spec (fresh : h.FreshContexts) :
    LaneSpec h spec.experimentId
      (On spec.experimentId fun t => ∀ e ∈ t, e.payload.type = .experimentProposed)
      (h.initialPatch spec proposal) (FirstPatchEnds spec.experimentId)
      (Left h spec.experimentId Signals) := by
  refine fix_trace fun t0 proposed => ?_
  refine coderContext_spec proposed fun c document context => ?_
  have drafting : Drafting (t0 ++ [c]) := by
    refine (Drafting.proposed proposed).snoc ?_ ?_ ?_ fun d => (Drafting.proposed proposed).uncontained
    · simp [context, EventPayload.type]
    · rw [context]
      rfl
    · rw [context]
      rfl
  have unfailed : ∀ e ∈ t0 ++ [c], ∀ result, e.payload ≠ .adapterFailed result := by
    intro e mem result failed
    rcases List.mem_append.mp mem with old | new
    · have type := proposed e old
      rw [failed] at type
      cases type
    · rw [List.mem_singleton.mp new, context] at failed
      cases failed
  have unrecovered : (t0 ++ [c]).filter (fun e => ofTypes [.recoveryDecided] e.payload) = [] := by
    rw [List.filter_eq_nil_iff]
    intro e mem
    rcases List.mem_append.mp mem with old | new
    · simp [ofTypes, proposed e old]
    · rw [List.mem_singleton.mp new, context]
      simp [ofTypes, EventPayload.type]
  have ends : ∀ {es : List Event}, Done spec.experimentId .state es →
      FirstPatchEnds spec.experimentId none es := fun done => ⟨fun _ => done, fun _ _ none => by cases none⟩
  refine catching_spec fresh (codingWorker_spec Steady.on) ((Expects.proposed proposed).context context)
    (by simp) (fun _ => rfl) ?_ ?_
  · intro patch
    refine Meets.ret ?_
    rintro es _ ⟨owner, same⟩
    refine ⟨(fun none => by cases none), ?_⟩
    rintro patch' cause ⟨⟩
    rw [show trace spec.experimentId es = _ from same]
    refine ⟨owner, ⟨drafting.unclosed, fun e mem result failed => ?_⟩, drafting.calm,
      ⟨drafting.unpatched, .inl unrecovered⟩, drafting.unplaced⟩
    exact absurd failed (unfailed e mem result)
  · intro error
    refine coderFailure_spec fresh drafting ?_ fun r => ?_
    · exact fun e mem result failed => absurd failed (unfailed e mem result)
    split
    · refine Meets.ret ?_
      rintro es _ ⟨f, c', recovered⟩
      exact ends (.open_ recovered.unclosed)
    rename_i retry
    have retry : r.decision.action = .retrySameCommit := by simpa using retry
    refine fix_trace ?_
    rintro t1 ⟨f, c', recovered⟩
    obtain ⟨result, failed, stage, number⟩ := recovered.failed
    have uncalled : r.event.payload.repairs = false := by
      rw [recovered.payload, EventPayload.repairs, retry]
      rfl
    have drafting1 : Drafting t1 := by
      rw [recovered.split, show (t0 ++ [c]) ++ [f, c', r.event] =
        (((t0 ++ [c]) ++ [f]) ++ [c']) ++ [r.event] by simp]
      have step1 := drafting.snoc (e := f) (by simp [failed, EventPayload.type]) (by rw [failed]; rfl)
        (by simp [failed, EventPayload.place, stage, FailureStage.place]) fun d => drafting.uncontained
      have step2 := step1.snoc (e := c') (by simp [recovered.context, EventPayload.type])
        (by rw [recovered.context]; rfl) (by rw [recovered.context]; rfl) fun d => step1.uncontained
      exact step2.snoc (by simp [recovered.payload, EventPayload.type]) uncalled
        (by rw [recovered.payload]; rfl) fun d => step2.uncontained
    have failures : ∀ e ∈ t1, ∀ result, e.payload = .adapterFailed result → e = f := by
      intro e mem result' failed'
      rw [recovered.split] at mem
      rcases List.mem_append.mp mem with old | new
      · exact absurd failed' (unfailed e old result')
      · simp only [List.mem_cons, List.not_mem_nil, or_false] at new
        rcases new with rfl | rfl | rfl
        · rfl
        · rw [recovered.context] at failed'
          cases failed'
        · rw [recovered.payload] at failed'
          cases failed'
    have expects : Expects spec.experimentId .coding t1 := by
      rw [recovered.split, show (t0 ++ [c]) ++ [f, c', r.event] = (t0 ++ [c, f, c']) ++ [r.event] by simp]
      exact .retry recovered.payload recovered.owner retry recovered.cites (by simp)
        (by rw [failed]; exact congrArg some stage) (by simp)
    refine catching_spec fresh (codingWorker_spec Steady.on) expects (by simp [recovered.split])
      (fun _ => rfl) ?_ ?_
    · intro patch
      refine Meets.ret ?_
      rintro es _ ⟨owner, same⟩
      refine ⟨(fun none => by cases none), ?_⟩
      rintro patch' cause ⟨⟩
      rw [show trace spec.experimentId es = _ from same]
      refine ⟨owner, ⟨drafting1.unclosed, fun e mem result' failed' _ => ?_⟩, drafting1.calm,
        ⟨drafting1.unpatched, .inr ⟨r.event, r.decision, f, ?_, recovered.payload, retry, ?_,
          recovered.cites, ?_⟩⟩, drafting1.unplaced⟩
      · rw [failures e mem result' failed', failed] at failed'
        cases failed'
        rw [number]
        exact Nat.le_add_left 1 _
      · rw [recovered.split, List.filter_append, unrecovered]
        simp [ofTypes, failed, recovered.context, recovered.payload, EventPayload.type]
      · simp [recovered.split]
      · rw [failed]
        exact congrArg some stage
    · intro retryError
      refine coderFailure_spec fresh drafting1 ?_ fun r' => ?_
      · intro e mem result' failed'
        rw [failures e mem result' failed', recovered.attempt]
        decide
      · refine Meets.ret ?_
        rintro es _ ⟨f', c'', recovered'⟩
        exact ends (.open_ recovered'.unclosed)


/-! ### The gate check -/

/-- The trace between the first patch and its gate check. -/
structure Unchecked (patch : PatchCandidate) (t : List Event) : Prop where
  patched : Patched patch t
  settled : Settled t
  unplaced : Unplaced t

/-- What the recovery of a failed gate leaves. -/
structure GateRecovered (x : String) (patch : PatchCandidate) (r : Harness.Recovery) (t : List Event) :
    Prop where
  answered : Answered x r t
  patched : Patched patch t
  unplaced : Unplaced t
  recorded : r.event ∈ t
  retried : r.decision.action = .retrySameCommit → Expects x .patchGate t

/-- How the gate check ends. -/
def CheckEnds (x : String) (result : Option Harness.CheckedPatch) (es : List Event) : Prop :=
  (result = none → Done x .state es) ∧ ∀ checked, result = some checked →
    On x (fun t => Sealed checked t ∧ Settled t ∧ Unplaced t) es

lemma CheckEnds.done {es : List Event} (done : Done x .state es) : CheckEnds x none es :=
  ⟨fun _ => done, fun _ none => (Option.some_ne_none _ none.symm).elim⟩

lemma CheckEnds.checked {es : List Event} {checked : Harness.CheckedPatch}
    (sealed : On x (fun t => Sealed checked t ∧ Settled t ∧ Unplaced t) es) :
    CheckEnds x (some checked) es :=
  ⟨fun none => (Option.some_ne_none _ none).elim, fun _ same => Option.some.inj same ▸ sealed⟩

lemma Patched.snoc {patch : PatchCandidate} (patched : Patched patch t)
    (other : e.payload.type ≠ .patchCreated) : Patched patch (t ++ [e]) := by
  obtain ⟨p, found, payload⟩ := patched
  refine ⟨p, ?_, payload⟩
  rw [newest_other (by simp [ofTypes, other])]
  exact found

lemma Unchecked.snoc {patch : PatchCandidate} (unchecked : Unchecked patch t)
    (base : Base (t ++ [e])) (calm : e.payload.repairs = false) (place : e.payload.place = 0)
    (other : e.payload.type ≠ .patchCreated) : Unchecked patch (t ++ [e]) := by
  have unplaced := Unplaced.kept t e place unchecked.unplaced
  exact ⟨unchecked.patched.snoc other, ⟨base, .snoc calm, unplaced.licensed⟩, unplaced⟩

/-- A failure of the gate is recorded and recovered. -/
lemma gateFailure_spec {β : Type} {patch : PatchCandidate} {error : RouterError} {n : Nat}
    {cause : Option EventId} {g : Harness.Recovery → Lane β} {T : β → List Event → Prop}
    (fresh : h.FreshContexts) (unchecked : Unchecked patch t0) (expects : Expects x .patchGate t0)
    (rest : ∀ r, LaneSpec h x (On x (GateRecovered x patch r)) (g r) T (Left h x Signals)) :
    LaneSpec h x (On x (· = t0))
      (h.recordAdapterFailure x n .patchGate error cause >>= fun failure =>
        h.recover failure x >>= g) T (Left h x Signals) := by
  refine Meets.bind (Q := fun f => On x fun t => (∃ result, f.payload = .adapterFailed result ∧
    result.failureStage = .patchGate) ∧ f ∈ t ∧ Unchecked patch t ∧ (t = t0 ++ [f] ∨ t = t0)) ?_ fun f => ?_
  · refine append_own rfl ?_ ?_ ?_
    · rintro es f v rfl _ records _ _
      refine ⟨by simp [Rule, records.payload], ⟨_, records.payload, rfl⟩, by simp,
        unchecked.snoc (unchecked.settled.base.failed records.payload ?_) ?_ ?_ ?_, .inl rfl⟩
      · rintro ⟨⟩
      · rw [records.payload]
        rfl
      · rw [records.payload]
        rfl
      · simp [records.payload, EventPayload.type]
    · rintro es f v rfl mem records
      exact ⟨⟨_, records.payload, rfl⟩, mem, unchecked, .inr rfl⟩
    · rintro now es error v rfl _
      exact .base unchecked.settled.base.toUnclosed (.inr unchecked.settled.calm)
  refine fix_trace fun t1 recorded => ?_
  obtain ⟨⟨result, payload, stage⟩, mem, unchecked1, shape⟩ := recorded
  have base1 := unchecked1.settled.base
  refine Meets.bind ((recover_spec fresh mem (by simp [payload, EventPayload.type])).weaken
    (fun _ _ hp => hp) ?_ fun error es _ left => left.left base1.toUnclosed unchecked1.settled.calm)
    rest
  intro r es v from_
  have base2 := from_.base v base1 mem fun _ failed => by
    have coding := failed.1
    simp [payload, EventPayload.failureStage, stage] at coding
  have gate : f.payload.failureStage = some .patchGate := by
    rw [payload]
    exact congrArg some stage
  refine ⟨from_.answered base1 base2, ?_, from_.kept Unplaced.kept unchecked1.unplaced, ?_,
    from_.expects v.ordered shape gate rfl expects⟩
  swap
  · obtain ⟨pre, post, split, behind⟩ := from_.follows mem
    rw [split]
    exact List.mem_append_right _ (List.mem_cons_of_mem _ behind)
  obtain ⟨c, context, split | ⟨split, _⟩⟩ := from_.shape
  · rw [split, show t1 ++ [c, r.event] = (t1 ++ [c]) ++ [r.event] by simp]
    exact (unchecked1.patched.snoc (by simp [context, EventPayload.type])).snoc
      (by simp [from_.payload, EventPayload.type])
  · rw [split]
    exact unchecked1.patched.snoc (by simp [context, EventPayload.type])

lemma GateRecovered.unchecked {patch : PatchCandidate} {r : Harness.Recovery}
    (recovered : GateRecovered x patch r t) (stays : r.decision.action.isCodeRecovery = false) :
    Unchecked patch t :=
  ⟨recovered.patched, ⟨recovered.answered.base, recovered.answered.calm stays,
    recovered.unplaced.licensed⟩, recovered.unplaced⟩

/-- The first gate check of a patch is recorded. -/
lemma appendCheck_spec {patch : PatchCandidate} {check : PatchCheckResult} {cause : EventId}
    (owner : check.experimentId = spec.experimentId) (unchecked : Unchecked patch t0) :
    LaneSpec h spec.experimentId (On spec.experimentId (· = t0))
      (h.appendCheck spec patch check cause) (CheckEnds spec.experimentId)
      (Left h spec.experimentId Signals) := by
  refine Meets.bind (Q := fun e => On spec.experimentId fun t =>
    Sealed ⟨patch, check, e⟩ t ∧ Settled t ∧ Unplaced t) ?_
    fun e => Meets.ret fun _ _ sealed => .checked sealed
  refine append_own (congrArg some owner) ?_ ?_ ?_
  · rintro es e _ rfl _ records _ _
    have unchecked1 := unchecked.snoc (e := e)
      (unchecked.settled.base.plain (by simp [records.payload, EventPayload.type]))
      (by rw [records.payload]; rfl) (by rw [records.payload]; rfl)
      (by simp [records.payload, EventPayload.type])
    exact ⟨by simp [Rule, records.payload], ⟨unchecked1.patched, by simp, records.payload⟩,
      unchecked1.settled, unchecked1.unplaced⟩
  · rintro es e _ rfl mem records
    exact ⟨⟨unchecked.patched, mem, records.payload⟩, unchecked.settled, unchecked.unplaced⟩
  · rintro now es error v rfl _
    exact .base unchecked.settled.base.toUnclosed (.inr unchecked.settled.calm)

/-- The repair that the recovery of a failed gate calls for. -/
lemma gateRepair_spec (patch : PatchCandidate) {r : Harness.Recovery} (fresh : h.FreshContexts)
    (code : r.decision.action.isCodeRecovery = true) :
    LaneSpec h x (On x (GateRecovered x patch r))
      (h.executeCodeRepair r proposal >>= fun checked => pure (some checked)) (CheckEnds x)
      (Left h x Signals) := by
  refine Meets.bind ((executeCodeRepair_spec (P := Unplaced) fresh Unplaced.kept
    fun _ _ unplaced => unplaced.signals).pre ?_) fun checked => Meets.ret fun _ _ sealed => .checked sealed
  intro es _ recovered
  exact ⟨recovered.answered.called code, recovered.unplaced⟩

/-- The first gate check. -/
lemma initialCheck_spec {patch : PatchCandidate} {patchEvent : Event} (fresh : h.FreshContexts)
    (owner : patch.experimentId = spec.experimentId) (unchecked : Unchecked patch t0)
    (expects : Expects spec.experimentId .patchGate t0) (recorded : patchEvent ∈ t0) :
    LaneSpec h spec.experimentId (On spec.experimentId (· = t0))
      (h.initialCheck spec proposal patch patchEvent) (CheckEnds spec.experimentId)
      (Left h spec.experimentId Signals) := by
  refine catching_spec fresh (patchGate_spec Steady.on) expects recorded (fun _ => rfl) ?_ ?_
  · intro check
    refine Meets.assuming fun same => ?_
    exact appendCheck_spec (same.trans owner) unchecked
  intro error
  refine gateFailure_spec fresh unchecked expects fun r => fix_trace fun t1 recovered => ?_
  have ended : ∀ {es : List Event}, trace spec.experimentId es = t1 →
      CheckEnds spec.experimentId none es :=
    fun same => .done (.open_ (same ▸ recovered.answered.base.toUnclosed))
  split
  · rename_i retry
    have unchecked1 := recovered.unchecked (by rw [retry]; rfl)
    refine catching_spec fresh (patchGate_spec Steady.on) (recovered.retried retry) recovered.recorded
      (fun _ => rfl) ?_ ?_
    · intro check
      refine Meets.assuming fun same => ?_
      exact appendCheck_spec (same.trans owner) unchecked1
    intro retryError
    refine gateFailure_spec fresh unchecked1 (recovered.retried retry) fun r' => ?_
    split
    · exact gateRepair_spec patch fresh ‹_›
    · refine Meets.ret fun es _ recovered' => .done (.open_ recovered'.answered.base.toUnclosed)
  split
  · refine (gateRepair_spec patch fresh ‹_›).pre ?_
    rintro es _ rfl
    exact recovered
  · rename_i stays
    refine Meets.bind (Q := fun _ => On spec.experimentId (· = t1)) ?_
      fun _ => Meets.ret fun es _ same => ended same
    refine (stop_spec (P := On spec.experimentId (· = t1)) Steady.on).weaken (fun _ _ hp => hp)
      (fun _ _ _ hp => hp) ?_
    rintro error es _ ⟨control, same⟩
    exact .base (same ▸ recovered.answered.base.toUnclosed) (.inl control)

/-- `while not patch_check.accepted`. -/
lemma gateLoop_spec {checked : Harness.CheckedPatch} (fresh : h.FreshContexts) :
    LaneSpec h spec.experimentId
      (On spec.experimentId fun t => Sealed checked t ∧ Settled t ∧ Unplaced t)
      (h.gateLoop fuel spec proposal checked) (CheckEnds spec.experimentId)
      (Left h spec.experimentId Signals) := by
  refine Meets.loop (J := fun checked => On spec.experimentId fun t =>
    Sealed checked t ∧ Settled t ∧ Unplaced t) (fun checked => ?_) fuel checked
  split
  · exact Meets.ret fun _ _ sealed => .checked sealed
  refine (answerCheck_spec fresh Unplaced.kept).bind fun r => ?_
  split
  · exact Meets.ret fun es _ hp => .done (.open_ hp.1.base.toUnclosed)
  rename_i code
  rw [Bool.not_eq_false] at code
  refine Meets.bind ((executeCodeRepair_spec (P := Unplaced) fresh Unplaced.kept
    fun _ _ unplaced => unplaced.signals).pre fun _ _ hp => ⟨hp.1.called code, hp.2⟩) fun repaired => ?_
  refine Meets.bind (Q := fun _ => On spec.experimentId fun t =>
    Sealed repaired t ∧ Settled t ∧ Unplaced t) ?_ fun exhausted => ?_
  · refine (stopIfRuntimeBudgetExhausted_spec (P := On spec.experimentId fun t =>
      Sealed repaired t ∧ Settled t ∧ Unplaced t) Steady.on).weaken (fun _ _ hp => hp)
      (fun _ _ _ hp => hp) ?_
    rintro error es _ ⟨control, _, settled, _⟩
    exact .base settled.base.toUnclosed (.inl control)
  split
  · exact Meets.ret fun es _ hp => .done (.open_ hp.2.1.base.toUnclosed)
  · exact Meets.ret fun _ _ hp => hp


/-! ### The lane -/

/-- `_run_one_experiment` up to the point where it returns. -/
lemma developExperiment_spec (fresh : h.FreshContexts) :
    LaneSpec h spec.experimentId
      (On spec.experimentId fun t => ∀ e ∈ t, e.payload.type = .experimentProposed)
      (h.developExperiment fuel spec proposal) (Done spec.experimentId)
      (Left h spec.experimentId Signals) := by
  refine (initialPatch_spec fresh).bind fun result => ?_
  cases result with
  | none => exact Meets.ret fun es _ ends => ends.1 rfl
  | some first =>
    obtain ⟨candidate, cause⟩ := first
    refine Meets.given (fun es _ ends => (ends.2 candidate cause rfl).1) fun owner => ?_
    refine Meets.pre (P := On spec.experimentId Drafted) ?_ fun es _ ends => (ends.2 candidate cause rfl).2
    refine Meets.bind (Q := fun e => On spec.experimentId
      fun t => Unchecked { candidate with experimentSpecEventId := proposal } t ∧
        Expects spec.experimentId .patchGate t ∧ e ∈ t) ?_ fun patchEvent => ?_
    · refine append_own (congrArg some owner) ?_ ?_ ?_
      · rintro es e _ drafted _ records _ _
        have unplaced := Unplaced.kept _ e (by rw [records.payload]; rfl) drafted.unplaced
        refine ⟨?_, ⟨⟨e, newest_own (by rw [records.payload]; rfl), records.payload⟩,
          ⟨drafted.base.plain ?_, .snoc ?_, unplaced.licensed⟩, unplaced⟩,
          .patch records.payload owner, by simp⟩
        · unfold Rule
          rw [records.payload]
          simp only [if_pos (congrArg EventKey.stage records.key)]
          exact drafted.first
        · simp [records.payload, EventPayload.type]
        · rw [records.payload]
          rfl
      · rintro es e _ drafted mem records
        exact absurd (by rw [records.payload]; rfl) (drafted.first.unpatched e mem)
      · rintro now es error v drafted _
        exact .base drafted.base.toUnclosed (.inr drafted.calm)
    have owned : ({ candidate with experimentSpecEventId := proposal } : PatchCandidate).experimentId =
      spec.experimentId := owner
    refine fix_trace fun t1 parts => ?_
    obtain ⟨unchecked, expects, recorded⟩ := parts
    refine Meets.bind (Q := fun _ => On spec.experimentId (· = t1)) ?_ fun exhausted => ?_
    · refine (stopIfRuntimeBudgetExhausted_spec (P := On spec.experimentId (· = t1))
        Steady.on).weaken (fun _ _ hp => hp) (fun _ _ _ hp => hp) ?_
      rintro error es _ ⟨control, same⟩
      exact .base (same ▸ unchecked.settled.base.toUnclosed) (.inl control)
    split
    · refine Meets.ret fun es _ same => ?_
      exact .open_ (same ▸ unchecked.settled.base.toUnclosed)
    refine (initialCheck_spec fresh owned unchecked expects recorded).bind fun checked => ?_
    cases checked with
    | none => exact Meets.ret fun es _ ends => ends.1 rfl
    | some checked =>
      refine Meets.bind ((gateLoop_spec fresh).pre fun es _ ends => ends.2 checked rfl)
        fun result => ?_
      cases result with
      | none => exact Meets.ret fun es _ ends => ends.1 rfl
      | some checked' =>
        refine (fidelityLoop_spec fresh).pre fun es _ ends => ?_
        obtain ⟨sealed, settled, unplaced⟩ := ends.2 checked' rfl
        exact unplaced.ready sealed settled

/-- The terminal decision of `_abandon_experiment` is not accepted. -/
lemma abandonDecision_rejected {es : List Event} {fidelity : Fidelity} {reasonCode : String}
    (v : ValidLedger es) (unverified : fidelity = .smoke → Unverified (trace spec.experimentId es))
    (ok : Accepted es e)
    (payload : e.payload = .experimentDecided (Harness.abandonDecision spec fidelity reasonCode)) :
    False := by
  obtain ⟨r, hr⟩ := v.replay
  have started : es ≠ [] := by
    rintro rfl
    have type := ok.2
    rw [payload] at type
    cases type
  have legal := ok.2
  rw [payload] at legal
  obtain ⟨_, n, node, evidence, _⟩ := (validateTransition_decided hr started).mp legal
  cases evidence with
  | smoke fidelity status =>
    obtain ⟨s, found, type⟩ := unverified fidelity
    obtain ⟨s', found', type'⟩ := (v.nodeTrace hr node).verified status
    rw [show trace (Harness.abandonDecision spec _ reasonCode).experimentId es =
      trace spec.experimentId es from rfl, found] at found'
    cases found'
    exact type' type
  | evaluated _ _ _ cited => cases cited

section Abandon
variable {es : List Event} {attempt : Nat} {fidelity : Fidelity} {cause : EventId}
  {reasonCode : String}

/-- Where an experiment is abandoned, all decisions on it are promotions. -/
lemma Done.promotes {d : ExperimentDecision}
    (done : Done x (.abandon attempt fidelity cause reasonCode) es) (mem : e ∈ es)
    (payload : e.payload = .experimentDecided d) (owner : d.experimentId = x) :
    d.decision = .promote := by
  cases done with
  | abandon undecided =>
    refine undecided e (mem_trace.mpr ⟨mem, ?_⟩) d payload
    rw [Event.owner, payload]
    exact congrArg some owner

lemma Done.hasTerminalDecision (done : Done x (.abandon attempt fidelity cause reasonCode) es) :
    TacoRank.hasTerminalDecision es x = false := by
  by_contra terminal
  rw [Bool.not_eq_false] at terminal
  obtain ⟨e, mem, decided⟩ := List.any_eq_true.mp terminal
  split at decided
  · rename_i d payload
    simp only [Bool.and_eq_true, decide_eq_true_eq] at decided
    rw [done.promotes mem payload decided.1] at decided
    cases decided.2
  · cases decided

/-- The terminal decision is rejected by the control plane. -/
lemma Done.rejects {s : Submission} (v : LaneLedger h spec.experimentId es)
    (done : Done spec.experimentId (.abandon attempt fidelity cause reasonCode) es)
    (payload : s.payload = .experimentDecided (Harness.abandonDecision spec fidelity reasonCode)) :
    ∃ error, EventStore.append es s = .error error ∧
      (RouterError.python error).controlPlane = true := by
  cases result : EventStore.append es s with
  | ok r =>
    obtain ⟨recorded, es'⟩ := r
    cases EventStore.append_inv result with
    | again mem same =>
      have promote := done.promotes mem (same.2.2.trans payload) rfl
      cases promote
    | recorded _ _ accepted =>
      cases done with
      | abandon _ _ _ unverified =>
        exact (abandonDecision_rejected v.valid unverified accepted payload).elim
  | error error =>
    refine ⟨error, rfl, append_controlPlane v.valid ?_ ?_ error result⟩
    · intro spec' proposed
      rw [payload] at proposed
      cases proposed
    · rintro ⟨d, _, _, decided, _, _, _, _, promote, _⟩
      rw [payload] at decided
      cases decided
      cases promote

/-- `_abandon_experiment` fails and records nothing. -/
lemma abandonExperiment_eq {w : World Event Submission Answer}
    (v : LaneLedger h spec.experimentId w.log)
    (done : Done spec.experimentId (.abandon attempt fidelity cause reasonCode) w.log) :
    ∃ error, error.controlPlane = true ∧
      h.abandonExperiment spec attempt fidelity cause reasonCode w = (.error (.raised error), w) := by
  obtain ⟨error, failed, control⟩ := done.rejects (s := ⟨h.config.runId, ⟨spec.experimentId,
    .decisionAbandoned, attempt⟩, .experimentDecided (Harness.abandonDecision spec fidelity reasonCode),
    some cause, {}, w.now⟩) v rfl
  refine ⟨_, control, ?_⟩
  unfold Harness.abandonExperiment
  show Program.bind Harness.events _ w = _
  simp only [Program.bind, Harness.events, Program.inspect, id, done.hasTerminalDecision]
  show Program.bind (h.append _ _ _ _) _ w = _
  simp only [Program.bind, Harness.append, Program.transact, failed]
  rfl

/-- `_abandon_experiment` always fails. -/
lemma abandonExperiment_spec {Q : Unit → List Event → Prop} :
    LaneSpec h spec.experimentId
      (Done spec.experimentId (.abandon attempt fidelity cause reasonCode))
      (h.abandonExperiment spec attempt fidelity cause reasonCode) Q
      (Left h spec.experimentId Signals) := by
  refine Meets.bind (Q := fun ledger es => ledger = es ∧
    Done spec.experimentId (.abandon attempt fidelity cause reasonCode) es) events_spec fun ledger => ?_
  have undecided : ∀ es, LaneLedger h spec.experimentId es →
      ledger = es ∧ Done spec.experimentId (.abandon attempt fidelity cause reasonCode) es →
        TacoRank.hasTerminalDecision ledger spec.experimentId = false := by
    rintro es _ ⟨rfl, done⟩
    exact done.hasTerminalDecision
  refine Meets.given undecided fun open_ => ?_
  rw [if_neg (by simp [open_])]
  refine Meets.bind (Q := fun _ _ => False) ?_ fun _ => Meets.ret fun _ _ none => none.elim
  refine append_spec ?_ ?_ ?_
  · rintro es e v ⟨_, done⟩ accepted records _ _
    cases done with
    | abandon _ _ _ unverified => exact (abandonDecision_rejected v.valid unverified accepted records.payload).elim
  · rintro es e v ⟨_, done⟩ mem records
    have promote := done.promotes mem records.payload rfl
    cases promote
  · rintro now es error v ⟨_, done⟩ failed
    obtain ⟨error', failed', control⟩ := done.rejects (s := ⟨h.config.runId, _, _, _, _, now⟩) v rfl
    rw [failed] at failed'
    cases failed'
    cases done with
    | abandon undecided uncontained => exact .plain undecided uncontained (.inl control)

end Abandon

/-- `_run_one_experiment` of a prepared proposal. -/
lemma runExperiment_spec (fresh : h.FreshContexts) :
    LaneSpec h spec.experimentId
      (On spec.experimentId fun t => ∀ e ∈ t, e.payload.type = .experimentProposed)
      (h.runExperiment fuel spec proposal) (fun _ => Done spec.experimentId .state)
      (Left h spec.experimentId Signals) := by
  refine (developExperiment_spec fresh).bind fun exit => ?_
  cases exit with
  | state => exact Meets.ret fun _ _ done => done
  | abandon attempt fidelity cause reasonCode => exact abandonExperiment_spec

end Lane
end TacoRank
