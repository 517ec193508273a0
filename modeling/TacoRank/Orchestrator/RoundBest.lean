import TacoRank.Orchestrator.Abandonment
import TacoRank.Orchestrator.ConvergenceCounters
import TacoRank.Orchestrator.Handlers
import TacoRank.Reporting.Timing

/-!
# The best update of a parallel round

`run_parallel_round` awaits its lanes together. A lane decides against an incumbent that may be stale and then
raises the best score only if it is exceeded, without an await in between. Whatever the interleaving, the
round ends with the greatest of the best score at its start and the scores of its best-eligible acceptances
(`round_best`).
-/

namespace TacoRank
open Lib Lib.Result

/-! ### The score of a best update -/

section Scores
variable {pre post es : List Event} {e t : Event} {x : String}

/-- Nothing is recorded of an experiment between its end and the stop of the run. -/
lemma ValidLedger.ended_silent {r : Reducer} (v : ValidLedger (pre ++ t :: post))
    (hr : TacoRank.replay (pre ++ t :: post) = .ok r) (live : Live r.state.status) (closes : Closes x t) :
    (∃ m, r.state.experiments.get? x = some m ∧ m.status.terminal = true) ∧
      ∀ g ∈ post, g.payload.experiment ≠ some x := by
  induction post using List.reverseRecOn generalizing r with
  | nil =>
    obtain ⟨r0, hr0, step⟩ := replay_snoc_inv hr
    exact ⟨(node_step hr0 v.accepted step x).closed closes, by simp⟩
  | append_singleton post g ih =>
    rw [← List.cons_append, ← List.append_assoc] at v hr
    obtain ⟨r0, hr0, step⟩ := replay_snoc_inv hr
    obtain ⟨front, ok⟩ := v.snoc_inv
    obtain ⟨⟨m, node, ended⟩, silent⟩ := ih front hr0 (live_back hr0 ok step live)
    have nodeStep := node_step hr0 ok step x
    rw [node] at nodeStep
    rcases nodeStep.ended ended with ⟨kept, other⟩ | ⟨_, stopped, _⟩
    · refine ⟨⟨m, kept, ended⟩, fun g' mem => ?_⟩
      rcases List.mem_append.mp mem with old | new
      · exact silent g' old
      · rw [List.mem_singleton.mp new]
        exact other
    · have before := live_back hr0 ok step live
      rw [stopped] at before
      cases before

lemma newestEvaluation_append (silent : ∀ g ∈ post, g.payload.experiment ≠ some x) :
    newestEvaluation (es ++ post) x = newestEvaluation es x := by
  induction post using List.reverseRecOn with
  | nil => rw [List.append_nil]
  | append_singleton post g ih =>
    rw [← List.append_assoc, newestEvaluation_snoc (EventKind.ofExperiment_frame (silent g (by simp)))]
    exact ih fun g' mem => silent g' (List.mem_append_left _ mem)

/-- A best-eligible acceptance of an experiment, with the score of the evaluation that it cites. -/
structure EligibleScore (es : List Event) (e : Event) (x : String) (q : ℚ) : Prop where
  decides : ∃ d, e.payload = .experimentDecided d ∧ d.experimentId = x ∧ d.decision = .accept ∧
    d.bestEligible = true ∧ ∃ f ∈ es, ∃ result, f.payload = .evaluationCompleted result ∧
      d.evaluationEventId = some f.eventId ∧ result.metricSet.primaryScore = q

/-- A best update records the score that its decision cites. -/
lemma ValidLedger.best_scored {b : BestUpdated} (v : ValidLedger (pre ++ e :: post))
    (payload : e.payload = .bestUpdated b) :
    ∃ D ∈ pre, EligibleScore pre D b.experimentId b.primaryScore := by
  obtain ⟨r, n, hr, node, status, legal⟩ := v.best_inv payload
  obtain ⟨⟨D, d⟩, lookup, _, owner, accept, eligible⟩ := legal.decision
  obtain ⟨mem, _, read⟩ := eventWithId_spec lookup
  have decided := EventPayload.decision_eq read
  dsimp only at owner accept eligible decided
  have live : Live r.state.status := by
    by_contra dead
    rcases dead_type hr v.accepted dead with ⟨_, type⟩ | type
    · rw [payload] at type
      cases type
    · rw [payload] at type
      cases type
  have vpre := v.front
  obtain ⟨a, c, rfl⟩ := List.append_of_mem mem
  obtain ⟨_, _, _, _, evidence⟩ := vpre.decision_inv decided
  cases evidence with
  | smoke fidelity =>
    rw [d.validatePromotion.2 eligible] at fidelity
    cases fidelity
  | @evaluated found _ _ last cited _ best =>
    obtain ⟨f, result⟩ := found
    obtain ⟨evaluated, _⟩ := lastForExperiment_payload last
    have closes : Closes b.experimentId D := by
      refine ⟨?_, ?_⟩
      · rw [decided]
        exact congrArg some owner
      · simp [decided, EventPayload.closes, accept]
    obtain ⟨_, silent⟩ := vpre.ended_silent hr live closes
    have newest : newestEvaluation (a ++ D :: c) b.experimentId = some result := by
      rw [List.append_cons, newestEvaluation_append silent, newestEvaluation_snoc
        (EventKind.ofExperiment_none (by rw [decided]; rfl)), ← owner, newestEvaluation, last]
      rfl
    obtain ⟨m, metrics, _, score⟩ := legal.score
    have measured := congrArg Prod.fst ((vpre.measured hr).present n node)
    rw [newest] at measured
    have same : some m = some result.metricSet := metrics.symm.trans measured
    cases same
    exact ⟨D, by simp, d, decided, owner, accept, eligible, f, by simp [lastForExperiment_mem last], result,
      evaluated, cited, score⟩

end Scores

/-! ### Rounds -/

section Rounds
variable {h : Harness} {fuel : Nat} {lanes : List (ExperimentSpec × EventId)} {es post : List Event}

/-- A lane of a round that has ended: its experiment was proposed before the round, other lanes may have
begun before it, and they may have gone on since. -/
structure LaneEnded (h : Harness) (fuel : Nat) (es post : List Event) (lane : ExperimentSpec × EventId) :
    Prop where
  proposed : ∃ e ∈ es, e.eventId = lane.2 ∧ e.payload = .experimentProposed lane.1
  ran : ∃ w w' result, es <+: w.log ∧ LaneWorld lane.1.experimentId w ∧
    h.runParallelLane fuel lane.1 lane.2 w = (result, w') ∧ result ≠ .error .suspended ∧
      ∃ rest, es ++ post = w'.log ++ rest ∧ trace lane.1.experimentId rest = []

/-- A parallel round whose lanes have all ended, in any interleaving: `es` is the ledger after its
proposals and `post` is what the round appends. Only its lanes decide and raise the best score. -/
structure RoundRun (h : Harness) (fuel : Nat) (lanes : List (ExperimentSpec × EventId))
    (es post : List Event) : Prop where
  active : h.parallelRoundActive = true
  valid : ValidLedger (es ++ post)
  nonempty : lanes ≠ []
  ended : ∀ lane ∈ lanes, LaneEnded h fuel es post lane
  decides : ∀ e ∈ post, ∀ d, e.payload = .experimentDecided d →
    ∃ lane ∈ lanes, lane.1.experimentId = d.experimentId
  updates : ∀ e ∈ post, ∀ b, e.payload = .bestUpdated b →
    ∃ lane ∈ lanes, lane.1.experimentId = b.experimentId
  lessons : LessonsNumbered (es ++ post)

/-- The evaluator gives a best-eligible decision no lesson, or the one that the bridge builds. -/
def BridgeLessons (es post : List Event) : Prop :=
  ∀ e ∈ post, ∀ d, e.payload = .experimentDecided d → d.bestEligible = true → ∀ f ∈ es ++ post, ∀ result,
    f.payload = .evaluationCompleted result → d.evaluationEventId = some f.eventId →
      d.lessonCandidate = none ∨ CarriesLesson result f.eventId d

/-- The score of a best-eligible acceptance of the round. -/
def RoundScore (es post : List Event) (x : String) (q : ℚ) : Prop :=
  ∃ e ∈ post, EligibleScore (es ++ post) e x q

/-- No experiment of the round was decided before it. -/
lemma LaneEnded.undecided {lane : ExperimentSpec × EventId} (ended : LaneEnded h fuel es post lane) {e : Event}
    {d : ExperimentDecision} (mem : e ∈ es) (payload : e.payload = .experimentDecided d) :
    d.experimentId ≠ lane.1.experimentId := by
  intro owner
  obtain ⟨w, _, _, front, world, _⟩ := ended.ran
  have own : e.owner = some lane.1.experimentId := by
    rw [Event.owner, payload, ← owner]
    rfl
  have type := world.proposed e (mem_trace.mpr ⟨front.subset mem, own⟩)
  rw [payload] at type
  cases type

lemma scores_append : scores (es ++ post) = scores es ++ scores post := List.filterMap_append ..

/-- A best-eligible score of the round has been reached when its lane has ended. -/
lemma RoundRun.reached (round : RoundRun h fuel lanes es post) (bridge : BridgeLessons es post)
    (fresh : h.FreshContexts) {x : String} {q : ℚ}
    (score : RoundScore es post x q) : ∃ q' ∈ scores (es ++ post), q ≤ q' := by
  obtain ⟨e, mem, d, payload, owner, _, eligible, f, listed, result, evaluated, cites, rfl⟩ := score
  obtain ⟨lane, inside, own⟩ := round.decides e mem d payload
  obtain ⟨w, w', outcome, _, world, ran, ends, rest, split, silent⟩ := (round.ended lane inside).ran
  have spec' : Spec _ _ (h.runParallelLane fuel lane.1 lane.2) _ _ := runParallelLane_spec fresh
  have met := spec' w world.admits world.proposed
  rw [ran] at met
  have accounted : Accounted h lane.1.experimentId w'.log := by
    cases outcome with
    | ok => exact met.2
    | error halt =>
      cases halt with
      | raised => exact met.2
      | suspended => exact absurd rfl ends
  have owned : e.owner = some lane.1.experimentId := by
    rw [Event.owner, payload, own]
    rfl
  -- the decision stands on the ledger on which its lane ended
  have before : e ∈ w'.log := by
    have whole : e ∈ w'.log ++ rest := split ▸ List.mem_append_right es mem
    refine (List.mem_append.mp whole).resolve_right fun after => ?_
    have traced := mem_trace.mpr ⟨after, owned⟩
    rw [silent] at traced
    cases traced
  have v := round.valid
  have lessons := round.lessons
  obtain ⟨a, b, log⟩ := List.append_of_mem before
  have whole : es ++ post = a ++ e :: (b ++ rest) := by rw [split, log, List.append_assoc, List.cons_append]
  have known : f ∈ a := ((whole ▸ v : ValidLedger _).eligible_inv payload eligible (whole ▸ listed) evaluated
    cites).1
  have lesson := bridge e mem d payload eligible f listed result evaluated cites
  rw [split] at v lessons
  rw [log] at accounted
  have covers := accounted.covers (log ▸ v.front) payload own.symm eligible (List.mem_append_left _ known)
    evaluated cites (log ▸ Log.Valid.take lessons) fun candidate carried =>
      lesson.resolve_left (by simp [carried])
  rw [split, log]
  rcases covers with ⟨q', reached, below⟩ | ⟨g, raised, u, update, _, _, same⟩
  · exact ⟨q', scores_append ▸ List.mem_append_left _ (scores_append ▸ List.mem_append_left _ reached), below⟩
  · refine ⟨u.primaryScore, scores_append ▸ List.mem_append_left _ ?_, same.ge⟩
    exact List.mem_filterMap.mpr ⟨g, raised, by rw [update]⟩

/-- The baseline was verified before the round. -/
lemma RoundRun.founded (round : RoundRun h fuel lanes es post) : eventsOf EventPayload.baseline es ≠ [] := by
  intro absent
  obtain ⟨lane, inside⟩ := List.exists_mem_of_ne_nil _ round.nonempty
  obtain ⟨e, mem, _, payload⟩ := (round.ended lane inside).proposed
  have v := round.valid.front
  obtain ⟨r, hr⟩ := v.replay
  obtain ⟨n, node⟩ := v.node_of_event (x := lane.1.experimentId) hr mem (by rw [payload]; rfl)
  rw [((v.incumbent hr).early absent).2.2] at node
  cases node

/-- What sets the best pointer during the round is the best update of one of its acceptances. -/
lemma RoundRun.bestEvent (round : RoundRun h fuel lanes es post) {e : Event} (mem : e ∈ bestEvents post) :
    ∃ b, e.payload = .bestUpdated b ∧ RoundScore es post b.experimentId b.primaryScore := by
  obtain ⟨listed, writes⟩ := List.mem_filter.mp mem
  obtain ⟨a, c, rfl⟩ := List.append_of_mem listed
  have v : ValidLedger ((es ++ a) ++ e :: c) := by
    rw [List.append_assoc]
    exact round.valid
  cases payload : e.payload with
  | bestUpdated b =>
    refine ⟨b, rfl, ?_⟩
    obtain ⟨D, before, score⟩ := v.best_scored payload
    obtain ⟨d, decided, owner, accept, eligible, f, known, rest⟩ := score.decides
    obtain ⟨lane, inside, own⟩ := round.updates e listed b payload
    refine ⟨D, ?_, d, decided, owner, accept, eligible, f, ?_, rest⟩
    · rcases List.mem_append.mp before with old | new
      · exact absurd (owner.trans own.symm) ((round.ended lane inside).undecided old decided)
      · exact List.mem_append_left _ new
    · rw [← List.append_assoc]
      exact List.mem_append_left _ known
  | baselineVerified b =>
    obtain ⟨r, hr⟩ := v.front.replay
    obtain ⟨_, branch⟩ := v.accepted.branch hr (by simp [payload, EventPayload.type])
    rw [payload] at branch
    simp only [validateBranch, validateBaselineVerified, bind_eq_ok, require_ok] at branch
    obtain ⟨_, _, _, absent, _⟩ := branch
    rw [eventsOf, List.filterMap_append, List.append_eq_nil_iff] at absent
    exact absurd absent.1 round.founded
  | _ =>
    rw [payload] at writes
    cases writes

/-- What a round leaves as the best: the greatest of the best score at its start and the scores of its
best-eligible acceptances, with an experiment that attains it. -/
structure BestOfRound (es post : List Event) (s s' : RunState) : Prop where
  score : ∃ best, s'.bestPrimaryScore = some best ∧
    IsGreatest {q | s.bestPrimaryScore = some q ∨ ∃ x, RoundScore es post x q} best
  experiment : s'.best = s.best ∨ ∃ x q, RoundScore es post x q ∧ s'.bestExperimentId = some x ∧
    s'.bestPrimaryScore = some q

/-- After all lanes of a parallel round have ended, in whatever interleaving, no best-eligible acceptance
of the round is lost and none is overwritten by a worse one. -/
theorem round_best (round : RoundRun h fuel lanes es post) (bridge : BridgeLessons es post)
    (fresh : h.FreshContexts) {s s' : RunState} (start : project es = .ok s)
    (ends : project (es ++ post) = .ok s') : BestOfRound es post s s' := by
  obtain ⟨r, hr, rfl⟩ := project_ok.mp start
  obtain ⟨r', hr', rfl⟩ := project_ok.mp ends
  have before := round.valid.front.incumbent hr
  have after := round.valid.incumbent hr'
  -- the pointer is that of the last best update of the round, if there is one
  have pointer : r'.state.best = r.state.best ∨ ∃ x q, RoundScore es post x q ∧
      r'.state.bestExperimentId = some x ∧ r'.state.bestPrimaryScore = some q := by
    have folds : r'.state.best = (bestEvents post).foldl Event.writeBest r.state.best := by
      rw [replay_best hr', replay_best hr, List.foldl_append, @foldl_writeBest post]
    rcases List.eq_nil_or_concat (bestEvents post) with none | ⟨front, e, split⟩
    · rw [none] at folds
      exact .inl folds
    · obtain ⟨b, payload, score⟩ := round.bestEvent (e := e) (by simp [split])
      refine .inr ⟨_, _, score, ?_⟩
      rw [split, List.concat_eq_append, List.foldl_append, List.foldl_cons, List.foldl_nil, Event.writeBest,
        payload] at folds
      simp only [RunState.best, Prod.mk.injEq] at folds
      exact ⟨folds.1, folds.2.2⟩
  obtain ⟨best, found⟩ : ∃ best, r'.state.bestPrimaryScore = some best := by
    refine Option.ne_none_iff_exists'.mp fun none => round.founded ?_
    have unscored := after.unscored none
    rw [scores_append, List.append_eq_nil_iff] at unscored
    refine List.filterMap_eq_nil_iff.mpr fun e mem => ?_
    have silent := List.filterMap_eq_nil_iff.mp unscored.1 e mem
    cases payload : e.payload <;> simp [payload, EventPayload.baseline] at silent ⊢
  have greatest := after.greatest best found
  have upper : ∀ q, r.state.bestPrimaryScore = some q → q ≤ best := by
    intro q score
    refine greatest.2 ?_
    show q ∈ scores (es ++ post)
    rw [scores_append]
    exact List.mem_append_left _ (before.greatest q score).1
  refine ⟨⟨best, by rw [RunState.aggregate_bestPrimaryScore, found], ?_, ?_⟩, ?_⟩
  · show (r.state.aggregate es).bestPrimaryScore = some best ∨ ∃ x, RoundScore es post x best
    rw [RunState.aggregate_bestPrimaryScore]
    rcases pointer with same | ⟨x, q, score, _, raised⟩
    · simp only [RunState.best, Prod.mk.injEq] at same
      exact .inl (same.2.2.symm.trans found)
    · rw [found] at raised
      cases raised
      exact .inr ⟨x, score⟩
  · rintro q (score | ⟨x, score⟩)
    · exact upper q (by rwa [RunState.aggregate_bestPrimaryScore] at score)
    · obtain ⟨q', reached, below⟩ := round.reached bridge fresh score
      exact below.trans (greatest.2 reached)
  · simpa [RunState.best] using pointer

end Rounds

section Runs
open Scenario

/-- The harness in a parallel round. -/
def roundHarness : Harness := { scenarioHarness with parallelRoundActive := true }

lemma roundHarness_fresh : roundHarness.FreshContexts := scenarioHarness_fresh

/-- The ledger after the proposals of a round of two. -/
def roundStart : List Event :=
  record ((proposal 2 "exp").take 5 ++ [(some 4, .experimentProposed (spec "other"))])

/-- The submission that an event records. -/
def Event.submission (e : Event) : Submission :=
  ⟨e.runId, e.key, e.payload, e.causationEventId, e.resourceDelta, e.timestamp⟩

lemma roundAcceptance_promotion : (ExperimentDecisionKind.accept = .promote ↔
    (none : Option Fidelity).isSome = true) ∧ (true = true → Fidelity.full = .full) := by
  decide

/-- The best-eligible acceptance of the first experiment. -/
def roundAcceptance : ExperimentDecision where
  experimentId := "exp"
  evaluationEventId := some 19
  decision := .accept
  reasonCode := "ACCEPTED"
  fidelityCompleted := .full
  parentEligible := true
  bestEligible := true
  nextFidelity := none
  validatePromotion := roundAcceptance_promotion

/-- The coder context of the second experiment, which its lane records while the first one waits. -/
def otherContext : Submission where
  runId := ""
  key := ⟨"other", .coderContext, 1⟩
  payload := .contextCreated { contextId := "coder", role := .coder, experimentId := some "other" }
  causationEventId := some 6

/-- The answers after the first patch: two seeds confirm the first experiment. -/
def roundAnswers : List Answer :=
  [checkAnswer 1 "a"] ++ scoredAnswers 1 "a" ++ [.decision (confirmationDecision 14 13)] ++
    (scoredAnswers 2 "a").take 2 ++
    [ .evaluation { metricSet := metrics (3 / 5), trust := confirmed, seedEvidenceEventIds := [14] },
      .decision roundAcceptance ]

/-- The world of the first lane. -/
def firstWorld : World Event Submission Answer :=
  { log := roundStart
    script := { interference := [otherContext], answer := patchAnswer 1 "a" } ::
      roundAnswers.map fun answer => { answer } }

/-- The lane of the first experiment. -/
def firstLane : Except (Halt RouterError) Unit × World Event Submission Answer :=
  roundHarness.runParallelLane 5 (spec "exp") 5 firstWorld

/-- The world of the second lane: the first lane ends before its coder fails. -/
def secondWorld : World Event Submission Answer :=
  { log := firstLane.2.log.take 7
    script :=
      [ { interference := (firstLane.2.log.drop 8).map Event.submission
          answer := .raised (.adapter (unavailable "coder")) },
        { answer := .recovery
            { action := .abandon, reasonCode := "ABANDON", validateActionAdjustment := abandon_adjustments } } ] }

/-- The lane of the second experiment. -/
def secondLane : Except (Halt RouterError) Unit × World Event Submission Answer :=
  roundHarness.runParallelLane 5 (spec "other") 6 secondWorld

/-- What the round appends. -/
def roundEvents : List Event := secondLane.2.log.drop 6

lemma firstLane_eq : roundHarness.runParallelLane 5 (spec "exp") 5 firstWorld = (.ok (), firstLane.2) := by
  have ends : firstLane.1 = .ok () := by decide +kernel
  have whole : firstLane = (firstLane.1, firstLane.2) := (Prod.eta _).symm
  rw [ends] at whole
  exact whole

lemma secondLane_eq : roundHarness.runParallelLane 5 (spec "other") 6 secondWorld =
    (.ok (), secondLane.2) := by
  have ends : secondLane.1 = .ok () := by decide +kernel
  have whole : secondLane = (secondLane.1, secondLane.2) := (Prod.eta _).symm
  rw [ends] at whole
  exact whole

lemma firstLane_ended : LaneEnded roundHarness 5 roundStart roundEvents (spec "exp", 5) := by
  refine ⟨⟨roundStart.get ⟨4, by decide⟩, List.get_mem .., rfl, rfl⟩, firstWorld, firstLane.2, .ok (),
    List.prefix_rfl, ⟨.of_check ?_, ?_, ?_⟩, firstLane_eq, by simp, secondLane.2.log.drop 21, ?_, ?_⟩
  · show Log.checkFrom Accepted [] roundStart = true
    decide +kernel
  · show ∀ e ∈ trace "exp" roundStart, e.payload.type = .experimentProposed
    decide +kernel
  · show ∀ turn ∈ firstWorld.script, ∀ s ∈ turn.interference, s.payload.owner ≠ some "exp"
    decide +kernel
  · decide +kernel
  · show trace "exp" (secondLane.2.log.drop 21) = []
    decide +kernel

lemma secondLane_ended : LaneEnded roundHarness 5 roundStart roundEvents (spec "other", 6) := by
  refine ⟨⟨roundStart.get ⟨5, by decide⟩, List.get_mem .., rfl, rfl⟩, secondWorld, secondLane.2, .ok (),
    ⟨(firstLane.2.log.take 7).drop 6, ?_⟩, ⟨.of_check ?_, ?_, ?_⟩, secondLane_eq, by simp, [], ?_, rfl⟩
  · show roundStart ++ (firstLane.2.log.take 7).drop 6 = firstLane.2.log.take 7
    decide +kernel
  · show Log.checkFrom Accepted [] (firstLane.2.log.take 7) = true
    decide +kernel
  · show ∀ e ∈ trace "other" (firstLane.2.log.take 7), e.payload.type = .experimentProposed
    decide +kernel
  · show ∀ turn ∈ secondWorld.script, ∀ s ∈ turn.interference, s.payload.owner ≠ some "other"
    decide +kernel
  · decide +kernel

lemma roundRun : RoundRun roundHarness 5 [(spec "exp", 5), (spec "other", 6)] roundStart roundEvents := by
  have own : ∀ e ∈ roundEvents, ∀ x ∈ e.payload.experimentIds, x ∈ ["exp", "other"] := by decide +kernel
  have lane : ∀ x ∈ ["exp", "other"],
      ∃ lane ∈ [(spec "exp", 5), (spec "other", 6)], lane.1.experimentId = x := by decide
  have numbered : LessonsNumbered roundStart := .of_checkFrom .nil (by decide +kernel)
  refine ⟨rfl, .of_check (by decide +kernel), by simp, ?_, ?_, ?_, .of_checkFrom numbered (by decide +kernel)⟩
  · rintro _ (_ | ⟨_, _ | ⟨_, ⟨⟩⟩⟩)
    · exact firstLane_ended
    · exact secondLane_ended
  · intro e mem d payload
    exact lane _ (own e mem _ (by simp [payload, EventPayload.experimentIds, EventPayload.experiment]))
  · intro e mem b payload
    exact lane _ (own e mem _ (by simp [payload, EventPayload.experimentIds]))

theorem round_best_two : ∃ s s', project roundStart = .ok s ∧
    project (roundStart ++ roundEvents) = .ok s' ∧ BestOfRound roundStart roundEvents s s' := by
  have plain : ∀ e ∈ roundEvents, ∀ d ∈ e.payload.decision, d.lessonCandidate = none := by decide +kernel
  obtain ⟨r, hr⟩ := roundRun.valid.front.replay
  obtain ⟨r', hr'⟩ := roundRun.valid.replay
  have start := project_ok.mpr ⟨r, hr, rfl⟩
  have ends := project_ok.mpr ⟨r', hr', rfl⟩
  refine ⟨_, _, start, ends, round_best roundRun ?_ roundHarness_fresh start ends⟩
  intro e mem d payload _ _ _ _ _ _
  exact .inl (plain e mem d (by rw [payload]; rfl))

end Runs
end TacoRank
