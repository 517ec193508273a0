import TacoRank.Orchestrator.EvaluationSpec

/-!
# Specification of the rounds

A round of the fidelity loop: its request, the execution, the check of the output and the evaluation.
The request follows its seed without a call in between, so the seed is that of the ledger it is
recorded on, unless the request was rebuilt.
-/

namespace TacoRank
open Lib Lib.Result

/-- An event is the newest execution result or recovery decision. -/
def Checking (e : Event) (t : List Event) : Prop :=
  newest (ofTypes [.executionFinished, .recoveryDecided]) t = some e

/-- The request of the next round: its seed is that of the ledger, or the request is rebuilt. -/
structure NextRequest (h : Harness) (x : String) (s : Harness.LoopState) (attempt : Nat)
    (fidelity : Fidelity) (request : RunRequest) (es : List Event) : Prop where
  owner : request.experimentId = x
  attempt : request.attempt = attempt
  fidelity : request.fidelity = fidelity
  seed : s.nextRequestTemplate ≠ none ∨
    h.executionSeed es x request.fidelity request.patchCommitSha = .ok request.seed

/-- The round of a request at the head of the loop. -/
def Harness.LoopState.begin (s : Harness.LoopState) (queue : List Fidelity) (request : RunRequest)
    (fidelity : Fidelity) : Harness.Round :=
  { state := { s with
      stageQueue := queue
      executionAttempt := s.executionAttempt + 1
      nextRequestTemplate := none
      nextExecutionCause := none }
    request
    fidelity }

/-- A round has begun with the last event. -/
structure Begun (x : String) (round : Harness.Round) (t0 : List Event) (e : Event) (t : List Event) :
    Prop where
  runs : round.Runs x
  split : t = t0 ++ [e]
  payload : e.payload = .executionStarted round.request
  running : Running round 1 t

section Rounds
variable {h : Harness} {x : String} {fuel : Nat} {spec : ExperimentSpec} {proposal : EventId}
  {round : Harness.Round} {k : Nat} {t0 t : List Event}

/-! ### Outputs -/

/-- The exits of the stages before an evaluation. -/
lemma Done.stageAbandoned {es : List Event} (base : Base (trace x es)) (calm : Calm (trace x es))
    (unverified : Unverified (trace x es)) :
    Done x (Harness.stageAbandoned proposal round) es :=
  .abandon base.undecided base.uncontained calm fun _ => unverified

/-- The promotion of a verified smoke output. -/
lemma smokeDecided_spec {cause : Option EventId} {delta : ResourceDelta}
    (runs : round.Runs spec.experimentId) (running : Running round 4 t0)
    (smoke : round.fidelity = .smoke) :
    LaneSpec h spec.experimentId (On spec.experimentId (· = t0))
      (h.append (.experimentDecided (Harness.smokeDecision spec round.state.stageQueue))
        ⟨spec.experimentId, .decisionSmoke, round.request.attempt⟩ cause delta)
      (fun _ => On spec.experimentId (Ready spec.experimentId round.state))
      (Left h spec.experimentId Signals) := by
  refine append_own rfl ?_ ?_ ?_
  · rintro es e v rfl ok records _ _
    refine ⟨?_, ?_⟩
    · unfold Rule
      rw [records.payload]
      intro _
      obtain ⟨s, newest, payload⟩ := running.inRound.undecided (by decide)
      exact ⟨s, round.request, newest, payload, by rw [runs.fidelity, smoke]; rfl⟩
    · obtain ⟨r, hr⟩ := v.valid.replay
      have started : es ≠ [] := by
        rintro rfl
        obtain ⟨t1, s, t2, split, _⟩ := running.inRound.split
        simp at split
      have legal := ok.2
      rw [records.payload] at legal
      obtain ⟨_, n, _, _, promotion⟩ := (validateTransition_decided hr started).mp legal
      show Ready _ { round.state with stageQueue := round.state.stageQueue } _
      refine running.promoted runs records.payload rfl (by rw [records.key]) promotion smoke.symm
        fun next head => ?_
      simp [Harness.smokeDecision, List.headD_eq_head?_getD, head]
  · rintro es e _ rfl mem records
    refine (running.inRound.fresh mem (by rw [records.key]) ?_ ?_).elim
    · simp [records.payload, EventPayload.type]
    · simp [records.payload, EventPayload.place]
  · rintro now es error v rfl _
    exact .base running.base.toUnclosed (.inr running.calm)

/-- An output check is recorded and followed. -/
lemma outputChecked_spec {output : OutputCheckResult} {checking : Event} (fresh : h.FreshContexts) (runs : round.Runs spec.experimentId)
    (running : Running round k t0) (last : k ≤ 3) (checks : Checking checking t0)
    (owner : output.experimentId = spec.experimentId) :
    LaneSpec h spec.experimentId (On spec.experimentId (· = t0))
      (h.outputChecked fuel spec proposal round output checking.eventId)
      (GoesOn spec.experimentId) (Left h spec.experimentId Signals) := by
  unfold Harness.outputChecked
  refine Meets.bind (Q := fun e => On spec.experimentId fun t => (t = t0 ++ [e] ∧
    e.payload = .outputChecked output ∧ e.key.attempt = round.request.attempt) ∧
    Running round 4 t) ?_ fun outputEvent => fix_trace fun t1 recorded => ?_
  · refine append_own (congrArg some owner) ?_ ?_ ?_
    · rintro es e _ rfl _ records caused _
      have type : e.payload.type ≠ .executionStarted := by simp [records.payload, EventPayload.type]
      have attempt : e.key.attempt = round.request.attempt := by rw [records.key]
      refine ⟨?_, ⟨rfl, records.payload, attempt⟩, ?_, ?_, ?_, .snoc ?_⟩
      · unfold Rule
        rw [records.payload]
        exact ⟨checking, checks, caused⟩
      · refine running.inRound.snoc (by omega) (by decide) ?_ type fun _ => attempt
        simp [records.payload, EventPayload.place]
      · exact running.sealed.snoc (by simp [records.payload, EventPayload.type])
      · exact running.base.plain (by simp [records.payload, EventPayload.type])
      · rw [records.payload]
        rfl
    · rintro es e _ rfl mem records
      refine (running.inRound.fresh mem (by rw [records.key]) ?_ ?_).elim
      · simp [records.payload, EventPayload.type]
      · simp only [records.payload, EventPayload.place]
        omega
    · rintro now es error v rfl _
      exact .base running.base.toUnclosed (.inr running.calm)
  obtain ⟨⟨split, payload, attempt⟩, running1⟩ := recorded
  split
  · rename_i rejected
    have silent : Unverified t1 := by
      obtain ⟨s, found, type⟩ := running.inRound.unverified last
      refine ⟨s, ?_, type⟩
      rw [split, newest_other (by rw [payload]; exact rejected)]
      exact found
    refine Meets.bind (answerInRound_spec fresh running1 (by decide) (by simp [split])
      (by simp [payload, EventPayload.place]) attempt (by simp [payload, EventPayload.type])
      (by simp [payload, EventPayload.failureStage])) fun r => ?_
    refine fix_trace fun t2 answered => ?_
    refine (repairRound_spec (P := fun t => InRound round 4 t ∧ Unverified t) fresh runs
      ((InRound.kept (by decide)).and .unverified) (fun t hp => hp.1.mono (by decide)) ?_
      (fun _ => rfl) rfl rfl ?_).pre ?_
    · exact fun action t hp _ => (hp.1.pending (by decide)).notNoOp
    · exact fun es base calm hp => .stageAbandoned base calm hp.2
    · rintro es _ rfl
      exact ⟨answered.answered, answered.inRound, answered.kept _ .unverified silent⟩
  split
  · rename_i smoke
    exact (smokeDecided_spec runs running1 smoke).bind fun _ => Meets.ret fun _ _ ready => ready
  · rename_i accepted smoke
    have expects : Expects spec.experimentId .evaluation t1 := by
      rw [split]
      exact .verified payload owner (by simpa using accepted)
    refine evaluationStage_spec fresh runs running1 expects smoke ?_
    unfold Answering
    rw [split]
    exact newest_own (by rw [payload]; rfl)

/-- The output gate of a successful execution. -/
lemma outputStage_spec {result : RunResult} {finished : Event} (fresh : h.FreshContexts) (runs : round.Runs spec.experimentId)
    (running : Running round 2 t0) (expects : Expects spec.experimentId .outputGate t0)
    (checks : Checking finished t0) (owner : result.experimentId = spec.experimentId) :
    LaneSpec h spec.experimentId (On spec.experimentId (· = t0))
      (h.outputStage fuel spec proposal round finished result)
      (GoesOn spec.experimentId) (Left h spec.experimentId Signals) := by
  have repairs : ∀ {t1 t2 : List Event} {failure : Event} {r : Harness.Recovery},
      AnsweredIn spec.experimentId round 3 failure r t1 t2 →
      LaneSpec h spec.experimentId (On spec.experimentId (· = t2))
        (h.repairOnce round proposal r (Harness.stageAbandoned proposal round)
          (Harness.stageAbandoned proposal round))
        (GoesOn spec.experimentId) (Left h spec.experimentId Signals) := by
    intro t1 t2 failure r answered
    refine (repairOnce_spec fresh runs (InRound.kept (k := 3) (by decide))
      (fun t inRound => inRound.mono (by decide)) ?_ ?_).pre ?_
    · exact fun action t inRound _ => (inRound.pending (by decide)).notNoOp
    · rintro exit (rfl | rfl) es base calm inRound
      · exact .stageAbandoned base calm (inRound.unverified (le_refl 3))
      · exact .stageAbandoned base calm (inRound.unverified (le_refl 3))
    · rintro es _ rfl
      exact ⟨answered.answered, answered.inRound⟩
  refine catching_spec fresh (outputGate_spec Steady.on) expects (newest_mem checks).1 (fun _ => rfl) ?_ ?_
  · intro output
    refine Meets.assuming fun same => ?_
    exact outputChecked_spec fresh runs running (by decide) checks (same.trans owner)
  · intro error
    refine (roundFailure_spec runs running (by decide) (by decide)).bind fun failure => ?_
    refine fix_trace fun t1 failed => ?_
    refine (failed.recover_spec fresh (by decide) (by decide)).bind fun r => ?_
    refine fix_trace fun t2 answered => ?_
    split
    · rename_i retry
      have running2 := answered.running (by rw [retry]; rfl)
      obtain ⟨pre, end_⟩ := answered.last t0 (failed.new (by decide))
      have checks2 : Checking r.event t2 := by
        unfold Checking
        rw [end_]
        exact newest_own (by rw [answered.answered.payload]; rfl)
      refine catching_spec fresh (outputGate_spec Steady.on) (answered.expects failed rfl expects retry)
        answered.recorded (fun _ => rfl) ?_ ?_
      · intro output
        refine Meets.assuming fun same => ?_
        exact outputChecked_spec fresh runs running2 (by decide) checks2 (same.trans owner)
      · intro retryError
        refine (roundFailure_spec runs running2 (by decide) (by decide)).bind fun failure' => ?_
        refine fix_trace fun t3 failed' => ?_
        refine (failed'.recover_spec fresh (by decide) (by decide)).bind fun r' => ?_
        exact fix_trace fun t4 answered' => repairs answered'
    · exact repairs answered

/-- The recovery of an execution that did not succeed. -/
lemma executionUnsuccessful_spec {finished : Event} (fresh : h.FreshContexts) (runs : round.Runs spec.experimentId)
    (running : Running round 2 t0) (mem : finished ∈ t0)
    (payload : ∃ result, finished.payload = .executionFinished result)
    (attempt : finished.key.attempt = round.request.attempt) :
    LaneSpec h spec.experimentId (On spec.experimentId (· = t0))
      (h.executionUnsuccessful fuel spec proposal round finished)
      (GoesOn spec.experimentId) (Left h spec.experimentId Signals) := by
  obtain ⟨result, payload⟩ := payload
  refine Meets.bind (answerInRound_spec fresh running (by decide) mem
    (by simp [payload, EventPayload.place]) attempt (by simp [payload, EventPayload.type])
    (by simp [payload, EventPayload.failureStage])) fun r => ?_
  refine fix_trace fun t1 answered => ?_
  split
  · exact resume_spec runs (by decide) answered (by simp [*, RecoveryAction.isCodeRecovery])
  · exact resume_spec runs (by decide) answered (by simp [*, RecoveryAction.isCodeRecovery])
  refine (repairRound_spec (P := InRound round 2) fresh runs (InRound.kept (by decide))
    (fun t inRound => inRound.mono (by decide)) ?_ (fun _ => rfl) rfl rfl ?_).pre ?_
  · exact fun action t inRound _ => (inRound.pending (by decide)).notNoOp
  · exact fun es base _ _ => .undecided base.undecided base.uncontained
  · rintro es _ rfl
    exact ⟨answered.answered, answered.inRound⟩


/-! ### Requests -/

/-- The request at the head of the loop. -/
lemma nextRequest_spec {s : Harness.LoopState} {queue : List Fidelity} {fidelity : Fidelity}
    (ready : Ready spec.experimentId s t0) :
    LaneSpec h spec.experimentId (On spec.experimentId (· = t0))
      (h.nextRequest spec
        { s with stageQueue := queue, executionAttempt := s.executionAttempt + 1 } fidelity)
      (fun request es =>
        NextRequest h spec.experimentId s (s.executionAttempt + 1) fidelity request es ∧
          On spec.experimentId (· = t0) es)
      (Left h spec.experimentId Signals) := by
  unfold Harness.nextRequest
  dsimp only
  cases template : s.nextRequestTemplate with
  | some request =>
    refine Meets.ret fun es _ same => ⟨⟨ready.owner request template, rfl, rfl, .inl ?_⟩, same⟩
    rw [template]
    exact Option.some_ne_none _
  | none =>
    refine Meets.bind events_spec fun ledger => ?_
    refine Meets.bind (Q := fun seed es => h.executionSeed es spec.experimentId fidelity
      s.checked.check.patchCommitSha = .ok seed ∧ On spec.experimentId (· = t0) es) ?_ fun seed => ?_
    · refine Meets.ofExcept ?_ ?_
      · rintro seed es _ ⟨rfl, same⟩ found
        exact ⟨found, same⟩
      · rintro error es _ ⟨rfl, same⟩ _
        have same : trace spec.experimentId ledger = t0 := same
        exact .base (same ▸ ready.settled.base.toUnclosed) (.inr (same ▸ ready.settled.calm))
    · refine Meets.ret fun es _ hp => ⟨⟨rfl, rfl, rfl, .inr ?_⟩, hp.2⟩
      exact hp.1

/-- The start of a round. -/
lemma startRound_spec {s : Harness.LoopState} {fidelity : Fidelity} {queue : List Fidelity}
    {request : RunRequest} {cause : Option EventId} {delta : ResourceDelta}
    (ready : Ready x s t0) (head : s.stageQueue = fidelity :: queue) :
    LaneSpec h x
      (fun es => NextRequest h x s (s.executionAttempt + 1) fidelity request es ∧ On x (· = t0) es)
      (h.append (.executionStarted request)
        ⟨x, .executionStarted fidelity, s.executionAttempt + 1⟩ cause delta)
      (fun e => On x (Begun x (s.begin queue request fidelity) t0 e)) (Left h x Signals) := by
  have base := ready.settled.base
  refine append_spec ?_ ?_ ?_
  · rintro es e v ⟨next, same⟩ ok records _ _
    have same : trace x es = t0 := same
    have own : e.owner = some x := by
      rw [Event.owner, records.payload]
      exact congrArg some next.owner
    have above := ready.above fidelity (by rw [head]; rfl)
    have before : Before request.attempt t0 := by
      rw [next.attempt]
      exact ready.before
    have later : Before (request.attempt + 1) t0 := fun e' mem =>
      ⟨fun ranked => Nat.lt_succ_of_lt ((before e' mem).1 ranked),
        fun q started => Nat.lt_succ_of_lt ((before e' mem).2 q started)⟩
    refine ⟨fun _ => ?_, ?_⟩
    · unfold Rule
      rw [records.payload]
      refine ⟨same ▸ ready.settled.licensed, ?_, ?_, ?_⟩
      · rw [same]
        exact next.seed.imp (fun template => ready.rebuilt template) id
      · intro e' mem q started
        rw [same] at mem
        exact (before e' mem).2 q started
      · rw [same, next.fidelity]
        exact above
    · show Begun _ _ _ _ _
      rw [trace_own own, same]
      refine ⟨⟨next.owner, next.fidelity, next.attempt, ?_, rfl⟩, rfl, records.payload,
        ⟨⟨⟨t0, e, [], rfl, records.payload, before, fun e' none => ?_⟩, later.snoc ?_ ?_,
          above.snoc ?_⟩, ready.sealed.snoc ?_, base.plain ?_, .snoc ?_⟩⟩
      · show 0 < request.attempt
        rw [next.attempt]
        exact Nat.succ_pos _
      · cases none
      · intro _
        rw [records.key, next.attempt]
        exact Nat.lt_succ_self _
      · intro q started
        rw [records.payload] at started
        cases started
        exact Nat.lt_succ_self _
      · simp [records.payload, EventPayload.type]
      · simp [records.payload, EventPayload.type]
      · simp [records.payload, EventPayload.type]
      · rw [records.payload]
        rfl
  · rintro es e v ⟨next, same⟩ mem records
    have inside : e ∈ t0 := by
      rw [← show trace x es = t0 from same]
      refine mem_trace.mpr ⟨mem, ?_⟩
      rw [Event.owner, records.payload]
      exact congrArg some next.owner
    have early := (ready.before e inside).2 request records.payload
    rw [next.attempt] at early
    exact absurd early (lt_irrefl _)
  · rintro now es error v ⟨_, same⟩ _
    have same : trace x es = t0 := same
    exact .base (same ▸ base.toUnclosed) (.inr (same ▸ ready.settled.calm))

/-- The result of an execution is recorded. -/
lemma appendFinished_spec {result : RunResult} {stage : Stage} {started : Event}
    {delta : ResourceDelta} (begun : Begun x round t0 started t)
    (owner : result.experimentId = x) :
    LaneSpec h x (On x (· = t))
      (h.append (.executionFinished result) ⟨x, stage, round.state.executionAttempt⟩
        (some started.eventId) delta)
      (fun e => On x fun t' => (e ∈ t' ∧ (∃ r, e.payload = .executionFinished r) ∧
        e.key.attempt = round.request.attempt ∧ Checking e t' ∧
        (result.outcome = .success → Expects x .outputGate t')) ∧ Running round 2 t')
      (Left h x Signals) := by
  have running := begun.running
  refine append_own (congrArg some owner) ?_ ?_ ?_
  · rintro es e _ rfl _ records caused _
    have type : e.payload.type ≠ .executionStarted := by simp [records.payload, EventPayload.type]
    have attempt : e.key.attempt = round.request.attempt := by
      rw [records.key]
      exact begun.runs.attempt.symm
    refine ⟨?_, ⟨by simp, ⟨_, records.payload⟩, attempt, ?_, .output records.payload owner⟩, ?_, ?_, ?_,
      .snoc ?_⟩
    · unfold Rule
      rw [records.payload, begun.split]
      exact ⟨started, newest_own (by rw [begun.payload]; rfl), caused⟩
    · exact newest_own (by rw [records.payload]; rfl)
    · refine running.inRound.snoc (by decide) (by decide) ?_ type fun _ => attempt
      simp [records.payload, EventPayload.place]
    · exact running.sealed.snoc (by simp [records.payload, EventPayload.type])
    · exact running.base.plain (by simp [records.payload, EventPayload.type])
    · rw [records.payload]
      rfl
  · rintro es e _ rfl mem records
    refine (running.inRound.fresh mem ?_ ?_ ?_).elim
    · rw [records.key]
      exact begun.runs.attempt.symm
    · simp [records.payload, EventPayload.type]
    · simp [records.payload, EventPayload.place]
  · rintro now es error v rfl _
    exact .base running.base.toUnclosed (.inr running.calm)

/-- One round of the fidelity loop. -/
lemma fidelityRound_spec {s : Harness.LoopState} (fresh : h.FreshContexts) :
    LaneSpec h spec.experimentId (On spec.experimentId (Ready spec.experimentId s))
      (h.fidelityRound fuel spec proposal s) (GoesOn spec.experimentId)
      (Left h spec.experimentId Signals) := by
  refine fix_trace fun t0 ready => ?_
  unfold Harness.fidelityRound
  split
  · refine Meets.ret fun es _ same => ?_
    exact .undecided (same ▸ ready.settled.base.undecided) (same ▸ ready.settled.base.uncontained)
  rename_i fidelity queue head
  refine (nextRequest_spec ready).bind fun request => ?_
  refine (startRound_spec ready head).bind fun started => ?_
  refine fix_trace fun t1 begun => ?_
  have running := begun.running
  have expects : Expects spec.experimentId .execution t1 := by
    rw [begun.split]
    exact .execution begun.payload begun.runs.owner
  refine catching_spec fresh (runner_spec Steady.on) expects (by simp [begun.split]) (fun _ => rfl) ?_ ?_
  · intro result
    refine Meets.assuming fun owner => ?_
    refine Meets.bind (appendFinished_spec begun (owner.trans begun.runs.owner)) fun finished => ?_
    refine fix_trace fun t2 recorded => ?_
    obtain ⟨⟨mem, payload, attempt, checks, expects2⟩, running2⟩ := recorded
    refine Meets.bind (Q := fun _ => On spec.experimentId (· = t2)) ?_ fun exhausted => ?_
    · refine (stopIfRuntimeBudgetExhausted_spec (P := On spec.experimentId (· = t2))
        Steady.on).weaken (fun _ _ hp => hp) (fun _ _ _ hp => hp) ?_
      rintro error es _ ⟨control, same⟩
      exact .base (same ▸ running2.base.toUnclosed) (.inl control)
    split
    · refine Meets.ret fun es _ same => ?_
      exact .undecided (same ▸ running2.base.undecided) (same ▸ running2.base.uncontained)
    split
    · exact executionUnsuccessful_spec fresh begun.runs running2 mem payload attempt
    · rename_i success
      exact outputStage_spec fresh begun.runs running2 (expects2 (by simpa using success)) checks
        (owner.trans begun.runs.owner)
  · intro error
    exact executionFailed_spec fresh begun.runs running

/-- The fidelity loop. -/
lemma fidelityLoop_spec {s : Harness.LoopState} {rounds : Nat} (fresh : h.FreshContexts) :
    LaneSpec h spec.experimentId (On spec.experimentId (Ready spec.experimentId s))
      (Program.loop (h.fidelityRound fuel spec proposal) rounds s) (Done spec.experimentId)
      (Left h spec.experimentId Signals) :=
  Meets.loop (J := fun s => On spec.experimentId (Ready spec.experimentId s))
    (fun _ => fidelityRound_spec fresh) rounds s

end Rounds
end TacoRank
