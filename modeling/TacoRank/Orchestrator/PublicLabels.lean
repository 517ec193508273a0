import TacoRank.Context.Builder
import TacoRank.Orchestrator.RunStep
import TacoRank.Orchestrator.Scenario

/-!
# Public labels

Every evaluation at full fidelity spends one query of the public labels. The schema binds the
population of an evaluation to its fidelity, the state machine binds both to the request and the
query index to the counter of the projection, so the indices count the full evaluations of the whole
run, whichever experiment or phase they belong to.
-/

namespace TacoRank
open Lib Lib.Result

/-- Whether an evaluation scores the public population at full fidelity. -/
def EvaluationResult.publicFull (result : EvaluationResult) : Bool :=
  result.population = .publicValidation ∧ result.fidelity = .full

/-- The public query indices of the full public evaluations, in ledger order. -/
def publicIndices (es : List Event) : List (Option Nat) :=
  ((eventsOf EventPayload.evaluation es).filter (·.2.publicFull)).map (·.2.publicQueryIndex)

/-- The populations on which an evaluation may be recorded. -/
def EvaluationResult.Routed (result : EvaluationResult) : Prop :=
  result.population = .internalProxy ∧ result.fidelity = .proxy ∨
    result.population = .publicValidation ∧ result.fidelity = .full

/-- An accepted evaluation is a proxy evaluation or a full public one with the next index. -/
lemma EvaluationLegal.routed {es s res n q} (legal : EvaluationLegal es s res n q) : res.Routed := by
  obtain ⟨publicRoute, _, proxyRoute, _⟩ := res.validateEvaluationRoute
  have population := legal.population
  by_cases proxy : q.fidelity = .proxy
  · rw [if_pos proxy] at population
    exact .inl ⟨population, proxyRoute population⟩
  · rw [if_neg proxy] at population
    exact .inr ⟨population, (publicRoute population).1⟩

/-- The public labels spent by a ledger are the counters of its projection. -/
structure LabelsSpent (es : List Event) (state : RunState) : Prop where
  routed : ∀ e ∈ es, ∀ res, e.payload = .evaluationCompleted res → res.Routed
  indices : publicIndices es = (List.range' 1 state.publicValidationQueries).map some
  fulls : state.fullEvaluationsCompleted = state.publicValidationQueries

lemma publicIndices_snoc (es : List Event) (e : Event) : publicIndices (es ++ [e]) =
    publicIndices es ++ match e.payload with
      | .evaluationCompleted res => if res.publicFull then [res.publicQueryIndex] else []
      | _ => [] := by
  rw [publicIndices, publicIndices, eventsOf, List.filterMap_append, List.filter_append,
    List.map_append]
  congr 1
  cases p : e.payload with
  | evaluationCompleted res =>
    by_cases full : res.publicFull = true <;> simp [EventPayload.evaluation, p, full]
  | _ => simp [EventPayload.evaluation, p]

/-- An accepted evaluation spends the next label, or none. -/
lemma EvaluationLegal.labels {es s res n q} (legal : EvaluationLegal es s res n q) :
    res.publicFull = true ∧ res.publicQueryIndex = some (s.publicValidationQueries + 1) ∧
        res.population = .publicValidation ∧ res.fidelity = .full ∨
      res.publicFull = false ∧ res.population ≠ .publicValidation ∧ res.fidelity ≠ .full := by
  have index := legal.queryIndex
  rcases legal.routed with ⟨population, fidelity⟩ | ⟨population, fidelity⟩
  · right
    simp [EvaluationResult.publicFull, population, fidelity]
  · left
    simp [expectedQueryIndex, population] at index
    simp [EvaluationResult.publicFull, population, fidelity, index]

/-- Every accepted event keeps the account. -/
lemma LabelsSpent.step {es r r' e} (h : LabelsSpent es r.state) (hr : replay es = .ok r)
    (ok : Accepted es e) (step : r.step e = .ok r') : LabelsSpent (es ++ [e]) r'.state := by
  have write := Reducer.step_write step
  have queries := write.queries
  have fulls := write.fulls
  have silent (other : ∀ res, e.payload ≠ .evaluationCompleted res)
      (q : e.payload.queries = 0) (f : e.payload.fulls = 0) : LabelsSpent (es ++ [e]) r'.state := by
    rw [q, Nat.add_zero] at queries
    rw [f, Nat.add_zero] at fulls
    refine ⟨?_, ?_, ?_⟩
    · intro e' mem res payload
      rcases List.mem_append.mp mem with old | new
      · exact h.routed e' old res payload
      · rw [List.mem_singleton] at new
        exact absurd (new ▸ payload) (other res)
    · rw [publicIndices_snoc, queries, h.indices]
      cases p : e.payload with
      | evaluationCompleted res => exact absurd p (other res)
      | _ => simp
    · rw [queries, fulls]
      exact h.fulls
  cases p : e.payload with
  | evaluationCompleted res =>
    have branch := (ok.branch hr (by rw [p]; simp [EventPayload.type])).2
    rw [p] at branch
    obtain ⟨n, q, _, legal⟩ := validateEvaluationCompleted_ok.mp branch
    rw [p] at queries fulls
    simp only [EventPayload.queries, EventPayload.fulls] at queries fulls
    refine ⟨?_, ?_, ?_⟩
    · intro e' mem res' payload
      rcases List.mem_append.mp mem with old | new
      · exact h.routed e' old res' payload
      · rw [List.mem_singleton] at new
        rw [new, p] at payload
        cases payload
        exact legal.routed
    · rw [publicIndices_snoc, p, h.indices]
      rcases legal.labels with ⟨full, index, population, _⟩ | ⟨full, population, _⟩
      · rw [if_pos population] at queries
        rw [RunState.aggregate_publicValidationQueries] at index
        simp only [full, if_true, index, queries]
        rw [List.range'_concat, List.map_append]
        simp [Nat.add_comm]
      · rw [if_neg population] at queries
        simp [full, queries]
    · rw [queries, fulls, h.fulls]
      rcases legal.labels with ⟨_, _, population, full⟩ | ⟨_, population, full⟩
      · rw [if_pos population, if_pos full]
      · rw [if_neg population, if_neg full]
  | _ =>
    rw [p] at silent
    exact silent (by simp) rfl rfl

/-- The account of a valid ledger. -/
lemma ValidLedger.labelsSpent {es r} (v : ValidLedger es) (hr : TacoRank.replay es = .ok r) :
    LabelsSpent es r.state := by
  refine v.run_induct (I := fun es r => LabelsSpent es r.state) ?_ ?_ hr
  · exact ⟨by simp, rfl, rfl⟩
  · intro es e r r' _ hr ok step ih
    exact ih.step hr ok step

lemma evaluation_read {payload : EventPayload} {result : EvaluationResult}
    (read : payload.evaluation = some result) : payload = .evaluationCompleted result := by
  cases payload with
  | evaluationCompleted own =>
    cases read
    rfl
  | _ => cases read

/-- A development context sees a valid ledger as a whole. -/
lemma ValidLedger.visible {es : List Event} (v : ValidLedger es) : visibleDevelopmentEvents es = es := by
  obtain ⟨r, hr⟩ := v.replay
  have labels := v.labelsSpent hr
  rw [visibleDevelopmentEvents, List.filter_eq_self]
  intro event mem
  rw [Option.all_eq_true]
  intro result read
  rcases labels.routed event mem result (evaluation_read read) with ⟨population, _⟩ | ⟨population, _⟩ <;> simp [population]

/-- Public-label accounting: every recorded evaluation is a proxy evaluation or a full public one, and
the query indices of the full public ones are `1, 2, …, n` in ledger order, where `n` is both counters
of the final projection. -/
theorem public_labels {es} (v : ValidLedger es) :
    (∀ e ∈ es, ∀ res, e.payload = .evaluationCompleted res →
      res.population = .internalProxy ∧ res.fidelity = .proxy ∨
        res.population = .publicValidation ∧ res.fidelity = .full) ∧
    ∃ s, project es = .ok s ∧ publicIndices es = (List.range' 1 s.publicValidationQueries).map some ∧
      s.fullEvaluationsCompleted = s.publicValidationQueries := by
  obtain ⟨r, hr⟩ := v.replay
  have h := v.labelsSpent hr
  obtain ⟨totals, elapsed, aggregate⟩ := r.state.aggregate_eq es
  refine ⟨h.routed, r.state.aggregate es, project_ok.mpr ⟨r, hr, rfl⟩, ?_, ?_⟩
  · rw [aggregate]
    exact h.indices
  · rw [aggregate]
    exact h.fulls

open Scenario in
/-- A run with two full public evaluations. -/
def confirmedRun : List Event := record (proposal 2 "exp" ++
  [ (some 6, patch "exp" 1 "a"), (some 7, gatePassed "exp" 1 "a"),
    (some 8, .executionStarted (request "exp" 1 "a" 0)), (some 9, finished "exp" 1 "a"),
    (some 10, outputPassed "exp" 1), (some 11, evaluation "exp" 1 0 1 (3 / 5)),
    (some 12, confirm "exp" 12), (some 13, .executionStarted (request "exp" 2 "a" 1)),
    (some 14, finished "exp" 2 "a"), (some 15, outputPassed "exp" 2),
    (some 16, confirmation "exp" 2 1 2 (3 / 5) 12) ])

theorem public_labels_run : publicIndices confirmedRun = [some 1, some 2] ∧
    ∃ s, project confirmedRun = .ok s ∧ s.publicValidationQueries = 2 := by
  have v : ValidLedger confirmedRun := .of_check (by decide +kernel)
  obtain ⟨_, s, projected, indices, _⟩ := public_labels v
  have both : publicIndices confirmedRun = [some 1, some 2] := by decide +kernel
  refine ⟨both, s, projected, ?_⟩
  rw [both] at indices
  simpa using (congrArg List.length indices).symm

end TacoRank
