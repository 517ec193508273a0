import TacoRank.Orchestrator.Rejections

/-!
# Final selection

`final.selected` names the experiment and the commit that go into the submission and cites the
evaluation that reproduced the best score. `SoundSelection` says what the selection rests on:
`FINAL_SELECTED` compares it with the best of the projection, which nothing changes any more, and
traces the cited evaluation to the parity evidence of the baseline or to a `clean_reproduce` execution
of the selected commit.
-/

namespace TacoRank
open Lib Lib.Result

/-- Where the evidence of a selection comes from: the parity check of the baseline, or an evaluation
of a clean reproduction of the selected commit. -/
inductive Reproduction (pre : List Event) (sel : FinalSelected) (event : Event)
    (res : EvaluationResult) : Prop where
  | parity {payload}
    (verified : event.payload = .baselineVerified payload)
    (evaluation : payload.evaluation = res)
    (experiment : sel.experimentId = "baseline")
    (commit : payload.commitSha = sel.commitSha) : Reproduction pre sel event res
  | clean {before after c s f o check q run out}
    (split : pre = before ++ event :: after)
    (completed : event.payload = .evaluationCompleted res)
    (provenance : EvaluationProvenance before res c s f o check q run out)
    (command : q.commandId = "clean_reproduce")
    (commit : q.patchCommitSha = sel.commitSha) : Reproduction pre sel event res

/-- The facts behind a selection, against a projected state. -/
structure SoundSelection (pre : List Event) (s : RunState) (sel : FinalSelected) : Prop where
  experiment : s.bestExperimentId = some sel.experimentId
  commit : s.bestCommitSha = some sel.commitSha
  evidence : ∃ event res, event ∈ pre ∧ event.eventId = sel.reproductionEvaluationEventId ∧
    res.experimentId = sel.experimentId ∧ res.trustedPublicFull = true ∧
    s.bestPrimaryScore = some res.metricSet.primaryScore ∧ Reproduction pre sel event res

/-! ### The selection -/

/-- The facts checked for `final.selected`. -/
structure SelectionLegal (es : List Event) (s : RunState) (sel : FinalSelected) : Prop where
  status : s.status = .stopped
  experiment : some sel.experimentId = s.bestExperimentId
  commit : some sel.commitSha = s.bestCommitSha
  reproduction : ∃ event res,
    eventWithId EventPayload.reproduction es sel.reproductionEvaluationEventId =
      some (event, res) ∧
    res.experimentId = sel.experimentId ∧ res.trustedPublicFull = true ∧
    some res.metricSet.primaryScore = s.bestPrimaryScore ∧
    validateReproductionOrigin es sel event res = .ok ()

/-- Inversion of the `FINAL_SELECTED` branch. -/
lemma validateFinalSelected_ok {es s sel} : validateFinalSelected es s sel = .ok () ↔
    SelectionLegal es s sel := by
  simp only [validateFinalSelected, bind_eq_ok, require_ok, requireSome_ok, and_true]
  constructor
  · rintro ⟨_, status, _, experiment, _, commit, found, cited, _, ⟨owner, trusted, score⟩, origin⟩
    exact ⟨status, experiment, commit, found.1, found.2, cited, owner, trusted, score, origin⟩
  · rintro ⟨status, experiment, commit, event, res, cited, owner, trusted, score, origin⟩
    exact ⟨(), status, (), experiment, (), commit, (event, res), cited, (), ⟨owner, trusted, score⟩,
      origin⟩

/-- The payload of a reproduction. -/
lemma EventPayload.reproduction_eq {p : EventPayload} {res : EvaluationResult}
    (h : p.reproduction = some res) :
    (∃ payload, p = .baselineVerified payload ∧ payload.evaluation = res) ∨
      p = .evaluationCompleted res := by
  cases p with
  | baselineVerified payload => exact .inl ⟨payload, rfl, Option.some.inj h⟩
  | evaluationCompleted res' =>
    cases h
    exact .inr rfl
  | _ => cases h

/-- The origin of the cited evidence. -/
lemma ValidLedger.reproduction {pre event sel res} (v : ValidLedger pre) (mem : event ∈ pre)
    (read : event.payload.reproduction = some res)
    (origin : validateReproductionOrigin pre sel event res = .ok ()) :
    Reproduction pre sel event res := by
  unfold validateReproductionOrigin at origin
  rcases EventPayload.reproduction_eq read with ⟨payload, verified, evaluation⟩ | completed
  · simp only [verified, require_ok] at origin
    exact .parity verified evaluation origin.1 origin.2
  · simp only [completed, bind_eq_ok, require_ok, evaluationRequest_ok] at origin
    obtain ⟨q, scored, commit, command⟩ := origin
    obtain ⟨before, after, rfl⟩ := List.append_of_mem mem
    rw [v.eventsBefore] at scored
    obtain ⟨r, n, q', hr, node, legal⟩ := v.evaluation_inv completed
    cases scored.unique legal.request
    obtain ⟨c, s, f, o, check, run, out, provenance⟩ := legal.provenance v.front hr node
    exact .clean rfl completed provenance command commit

/-- A selection is sound against the state it was checked in. -/
lemma SelectionLegal.sound {pre s sel} (legal : SelectionLegal pre s sel) (v : ValidLedger pre) :
    SoundSelection pre s sel := by
  obtain ⟨event, res, cited, owner, trusted, score, origin⟩ := legal.reproduction
  obtain ⟨mem, id, read⟩ := eventWithId_spec cited
  exact ⟨legal.experiment.symm, legal.commit.symm, event, res, mem, id, owner, trusted, score.symm,
    v.reproduction mem read origin⟩

/-! ### After the selection -/

/-- The best of the projection. -/
def RunState.best (s : RunState) : Option String × Option String × Option ℚ :=
  (s.bestExperimentId, s.bestCommitSha, s.bestPrimaryScore)

/-- Only the baseline and best updates move the best. -/
lemma best_frame {r r' : Reducer} {e : Event} (step : r.step e = .ok r')
    (baseline : e.payload.type ≠ .baselineVerified) (update : e.payload.type ≠ .bestUpdated) :
    r'.state.best = r.state.best := by
  have frame := (Reducer.step_inv step).frame
  unfold RunState.best
  rw [frame.bestId baseline update, frame.bestScore baseline update,
    (Reducer.step_write step).bestCommit baseline update]

/-- The run has been handed over: nothing but the submission check can follow. -/
def HandedOver (status : RunStatus) : Prop :=
  status = .finalizing ∨ status = .finalized ∨ status = .failed

/-- The best does not move after the run was handed over. -/
lemma best_final {es e r r'} (hr : replay es = .ok r) (ok : Accepted es e)
    (step : r.step e = .ok r') (handed : HandedOver r.state.status) :
    HandedOver r'.state.status ∧ r'.state.best = r.state.best := by
  have later : e.payload.type = .submissionChecked := by
    cases (validateTransition_ok hr).mp ok.2 with
    | first start =>
      subst start
      cases hr
      rcases handed with h | h | h <;> cases h
    | later _ _ status _ =>
      rcases handed with h | h | h
      · exact status.finalizing h
      · exact absurd h status.live.1
      · exact absurd h status.live.2
  refine ⟨?_, best_frame step (by simp [later]) (by simp [later])⟩
  rw [(Reducer.step_inv step).frame.status]
  cases p : e.payload with
  | submissionChecked payload =>
    unfold HandedOver RunStatus.after
    dsimp only
    split
    · exact .inr (.inl rfl)
    · exact .inr (.inr rfl)
  | _ =>
    rw [p] at later
    cases later

/-- The best at the end of a run is the one at its selection. -/
lemma ValidLedger.best_selected {pre e post sel r r'} (v : ValidLedger (pre ++ e :: post))
    (payload : e.payload = .finalSelected sel) (hr : TacoRank.replay pre = .ok r)
    (hr' : TacoRank.replay (pre ++ e :: post) = .ok r') : r'.state.best = r.state.best := by
  have split : pre ++ e :: post = pre ++ [e] ++ post := by simp
  rw [split] at v hr'
  obtain ⟨r1, step⟩ := v.front.accepted.step hr
  have hr1 : TacoRank.replay (pre ++ [e]) = .ok r1 := by
    rw [replay_snoc, hr]
    exact step
  have start : HandedOver r1.state.status ∧ r1.state.best = r.state.best := by
    refine ⟨?_, best_frame step (by simp [payload, EventPayload.type])
      (by simp [payload, EventPayload.type])⟩
    rw [(Reducer.step_inv step).frame.status, payload]
    exact .inl rfl
  have whole := v.extend (I := fun es => ∀ r', TacoRank.replay es = .ok r' →
    HandedOver r'.state.status ∧ r'.state.best = r.state.best) ?_ ?_
  · exact (whole r' hr').2
  · intro r2 hr2
    rw [hr1] at hr2
    cases hr2
    exact start
  · intro mid e' _ ok ih r2 hr2
    obtain ⟨r0, hr0, step⟩ := replay_snoc_inv hr2
    obtain ⟨handed, best⟩ := ih r0 hr0
    obtain ⟨handed', best'⟩ := best_final hr0 ok step handed
    exact ⟨handed', best'.trans best⟩

/-! ### Without a best update -/

/-- The payload of a verified baseline. -/
lemma EventPayload.baseline_eq {p : EventPayload} {payload : BaselineVerified}
    (h : p.baseline = some payload) : p = .baselineVerified payload := by
  cases p <;> cases h
  rfl

/-- Without a best update, the best is the verified baseline. -/
def BaselineBest (es : List Event) (r : Reducer) : Prop :=
  (∀ e ∈ es, e.payload.type ≠ .bestUpdated) → ∀ e ∈ es, ∀ payload,
    e.payload = .baselineVerified payload →
      r.state.best = (some payload.experimentId, some payload.commitSha,
        some payload.metricSet.primaryScore)

lemma ValidLedger.baselineBest {es r} (v : ValidLedger es) (hr : TacoRank.replay es = .ok r) :
    BaselineBest es r := by
  refine v.run_induct (I := BaselineBest) ?_ ?_ hr
  · intro _ e mem
    cases mem
  intro es e r r' v hr ok step ih none
  have silent : ∀ e' ∈ es, e'.payload.type ≠ .bestUpdated :=
    fun e' mem => none e' (List.mem_append_left [e] mem)
  have update : e.payload.type ≠ .bestUpdated := none e (by simp)
  by_cases baseline : e.payload.type = .baselineVerified
  · obtain ⟨_, branch⟩ := ok.branch hr (by simp [baseline])
    cases p : e.payload with
    | baselineVerified payload =>
      rw [p] at branch
      simp only [validateBranch, validateBaselineVerified, bind_eq_ok, require_ok] at branch
      obtain ⟨_, _, _, absent, _⟩ := branch
      obtain ⟨_, noScore, _⟩ := (v.incumbent hr).early absent
      have best : r'.state.best = (some payload.experimentId, some payload.commitSha,
          some payload.metricSet.primaryScore) := by
        simp only [Reducer.step, Reducer.branch, p, pure_eq_ok] at step
        subst step
        simp [RunState.baselineVerified, Reducer.observe, noScore, RunState.best]
      -- the baseline is verified once, so an earlier one is excluded
      intro e' mem payload' verified
      rcases List.mem_append.mp mem with old | new
      · have recorded : (e', payload') ∈ eventsOf EventPayload.baseline es :=
          List.mem_filterMap.mpr ⟨e', old, by rw [verified]; rfl⟩
        rw [absent] at recorded
        cases recorded
      · rw [List.mem_singleton.mp new, p] at verified
        cases verified
        exact best
    | _ =>
      rw [p] at baseline
      cases baseline
  · intro e' mem payload verified
    rw [best_frame step baseline update]
    rcases List.mem_append.mp mem with old | new
    · exact ih silent e' old payload verified
    · rw [List.mem_singleton.mp new] at verified
      simp [verified, EventPayload.type] at baseline

/-! ### The law -/

/-- A selection deviates from the best of a state: in the experiment, in the commit, or in the score
of the evidence it cites. -/
def Deviates (es : List Event) (s : RunState) (sel : FinalSelected) : Prop :=
  s.bestExperimentId ≠ some sel.experimentId ∨ s.bestCommitSha ≠ some sel.commitSha ∨
    ∀ event res,
      eventWithId EventPayload.reproduction es sel.reproductionEvaluationEventId =
        some (event, res) →
      s.bestPrimaryScore ≠ some res.metricSet.primaryScore

/-- Final selection: a selection of a valid ledger is sound against the projection of the whole
ledger; without a best update it selects the verified baseline; and a selection that deviates from the
best is rejected. -/
theorem final_selection {es s} (v : ValidLedger es) (projected : project es = .ok s) :
    (∀ pre e post sel, es = pre ++ e :: post → e.payload = .finalSelected sel →
      SoundSelection pre s sel ∧
      ((∀ e' ∈ es, e'.payload.type ≠ .bestUpdated) → ∃ e' ∈ pre, ∃ payload,
        e'.payload = .baselineVerified payload ∧ sel.experimentId = payload.experimentId ∧
        sel.commitSha = payload.commitSha ∧
        s.bestPrimaryScore = some payload.metricSet.primaryScore)) ∧
    ∀ sel, Deviates es s sel →
      ∃ message, validateTransition es (.finalSelected sel) = .error (.transitionError message) := by
  obtain ⟨r, hr, rfl⟩ := project_ok.mp projected
  refine ⟨?_, ?_⟩
  · rintro pre e post sel rfl payload
    obtain ⟨r0, hr0⟩ := v.front.replay
    obtain ⟨_, branch⟩ := v.accepted.branch hr0 (by simp [payload, EventPayload.type])
    rw [payload] at branch
    have legal := validateFinalSelected_ok.mp branch
    have sound := legal.sound v.front
    have same := v.best_selected payload hr0 hr
    simp only [RunState.best, Prod.mk.injEq] at same
    obtain ⟨sameId, sameCommit, sameScore⟩ := same
    refine ⟨⟨?_, ?_, ?_⟩, ?_⟩
    · simpa [sameId] using sound.experiment
    · simpa [sameCommit] using sound.commit
    · simpa [sameScore] using sound.evidence
    · intro none
      have status : r0.state.status = .stopped := by simpa using legal.status
      have recorded : eventsOf EventPayload.baseline pre ≠ [] := by
        intro absent
        have early := ((v.front.incumbent hr0).early absent).1
        rw [status] at early
        cases early
      obtain ⟨found, mem⟩ := List.exists_mem_of_ne_nil _ recorded
      obtain ⟨e', mem', read⟩ := List.mem_filterMap.mp mem
      obtain ⟨payload', parity, _⟩ := Option.map_eq_some_iff.mp read
      have verified := EventPayload.baseline_eq parity
      have unmoved := v.front.baselineBest hr0
        (fun e' mem => none e' (List.mem_append_left _ mem)) e' mem' payload' verified
      simp only [RunState.best, Prod.mk.injEq] at unmoved
      obtain ⟨id, commit, score⟩ := unmoved
      have experiment := sound.experiment
      have selected := sound.commit
      rw [RunState.aggregate_bestExperimentId, id] at experiment
      rw [RunState.aggregate_bestCommitSha, commit] at selected
      refine ⟨e', mem', payload', verified, (Option.some.inj experiment).symm,
        (Option.some.inj selected).symm, ?_⟩
      rw [RunState.aggregate_bestPrimaryScore, sameScore, score]
  · intro sel deviates
    have schema : EventPayload.SchemaValid (.finalSelected sel) := by
      intro spec payload
      cases payload
    have listed : ¬ PromotesToFinal es (.finalSelected sel) := by
      rintro ⟨d, _, _, payload, _⟩
      cases payload
    cases outcome : validateTransition es (.finalSelected sel) with
    | error err =>
      obtain ⟨message, rfl⟩ := validateTransition_guarded v schema listed err outcome
      exact ⟨message, rfl⟩
    | ok u =>
      cases (validateTransition_ok hr).mp outcome with
      | first _ type => cases type
      | later _ _ _ branch =>
        have legal := validateFinalSelected_ok.mp branch
        obtain ⟨event, res, cited, _, _, score, _⟩ := legal.reproduction
        rcases deviates with experiment | commit | other
        · exact absurd legal.experiment.symm experiment
        · exact absurd legal.commit.symm commit
        · exact absurd score.symm (other event res cited)

open Scenario in
/-- A run that is carried through to its submission. -/
def finalizedRun : List Event := record (proposal 2 "exp" ++
  [ (some 6, patch "exp" 1 "a"), (some 7, gatePassed "exp" 1 "a"),
    (some 8, .executionStarted (request "exp" 1 "a" 0)), (some 9, finished "exp" 1 "a"),
    (some 10, outputPassed "exp" 1), (some 11, evaluation "exp" 1 0 1 (3 / 5)),
    (some 12, confirm "exp" 12), (some 13, .executionStarted (request "exp" 2 "a" 1)),
    (some 14, finished "exp" 2 "a"), (some 15, outputPassed "exp" 2),
    (some 16, confirmation "exp" 2 1 2 (3 / 5) 12), (some 17, accept "exp" 17),
    (some 18, best "exp" "a" (3 / 5) 18),
    (some 19, .runStopped "experiment_budget" "all experiments are used up"),
    (some 20, .executionStarted
      { request "exp" 3 "a" 0 with commandId := "clean_reproduce" }),
    (some 21, finished "exp" 3 "a"), (some 22, outputPassed "exp" 3),
    (some 23, evaluation "exp" 3 0 3 (3 / 5)),
    (some 24, .executionStarted
      { request "exp" 4 "a" 0 with commandId := "candidate_final_infer" }),
    (some 25, finished "exp" 4 "a"), (some 26, outputPassed "exp" 4),
    (some 27, .executionStarted
      { request "exp" 5 "a" 0 with commandId := "submission_check" }),
    (some 28, finished "exp" 5 "a"),
    (some 29, .finalSelected
      { experimentId := "exp", commitSha := "a", reproductionEvaluationEventId := 24 }),
    (some 30, .submissionChecked
      { accepted := true, submissionArtifact := prediction 4 }) ])

theorem final_selection_run : ∃ s, project finalizedRun = .ok s ∧
    SoundSelection (finalizedRun.take 29) s
      { experimentId := "exp", commitSha := "a", reproductionEvaluationEventId := 24 } := by
  have v : ValidLedger finalizedRun := .of_check (by decide +kernel)
  obtain ⟨s, projected⟩ := v.project
  have split : finalizedRun = finalizedRun.take 29 ++ finalizedRun.get ⟨29, by decide⟩ ::
      finalizedRun.drop 30 := by rfl
  exact ⟨s, projected, ((final_selection v projected).1 _ _ _ _ split rfl).1⟩

end TacoRank
