import TacoRank.Evaluation.Trust
import TacoRank.Lib.Rounding

/-!
# The ladder

Port of `Ladder` in `evaluation/stability.py`. Every acceptance after the first one raises the internal
best by more than the floor of the threshold, so that the means that are submitted bound the number of
acceptances (`ladder_stability`); the reported score is the rounded internal best.
-/

namespace TacoRank.Evaluation
open Lib Lib.Result

/-- `LadderResult`. -/
structure LadderResult (R : Type) where
  accepted : Bool
  reportedScore : R
  candidateMean : R
  standardError : R
  eta : R
  deltaVsBest : Option R
  queryIndex : Nat

/-- `Ladder`. -/
structure Ladder (R : Type) where
  precision : R
  etaFloor : R
  quantize : Bool
  bestTrue : Option R := none
  bestReported : Option R := none
  queries : Nat := 0

section Submissions
variable {R : Type} [Field R] [LinearOrder R] [FloorRing R] [HasSqrt R]

/-- The constructor of `Ladder`. -/
def Ladder.new (validationRows : Int) (etaFloor : R) (quantize : Bool) : Except EvaluationError (Ladder R) := do
  ensure (0 < validationRows) (.valueError "validation_rows must be positive")
  return { precision := 1 / HasSqrt.sqrt (validationRows : R), etaFloor, quantize }

/-- The score that is reported of a mean. -/
def Ladder.report (ladder : Ladder R) (mean : R) : R :=
  if ladder.quantize then roundHalfEven (mean / ladder.precision) * ladder.precision else mean

/-- `Ladder.submit`. -/
def Ladder.submit (ladder : Ladder R) (seedScores : List R) :
    Except EvaluationError (Ladder R × LadderResult R) := do
  let aggregate ← aggregateSeeds seedScores ladder.etaFloor
  let accepted := ladder.bestTrue.elim true fun previous => aggregate.mean > previous + aggregate.eta
  let next : Ladder R := { ladder with
    queries := ladder.queries + 1
    bestTrue := if accepted then some aggregate.mean else ladder.bestTrue
    bestReported := if accepted then some (ladder.report aggregate.mean) else ladder.bestReported }
  let reportedScore ← next.bestReported.elim (.error (.integrityError "assertion failed")) .ok
  return (next, {
    accepted, reportedScore
    candidateMean := aggregate.mean
    standardError := aggregate.standardError
    eta := aggregate.eta
    deltaVsBest := ladder.bestTrue.map fun previous => aggregate.mean - previous
    queryIndex := next.queries })

/-- The submissions to a ladder one after the other, with the results that it returned; one that raises
leaves the ladder as it is. -/
def Ladder.run (ladder : Ladder R) : List (List R) → Ladder R × List (LadderResult R)
  | [] => (ladder, [])
  | seedScores :: rest =>
    match ladder.submit seedScores with
    | .error _ => ladder.run rest
    | .ok (next, result) =>
      let last := next.run rest
      (last.1, result :: last.2)

/-- The results that were accepted. -/
def acceptances (results : List (LadderResult R)) : Nat := results.countP LadderResult.accepted

end Submissions

/-! ### Steps -/

section Steps
set_option linter.unusedSectionVars false
variable {R : Type} [Field R] [LinearOrder R] [IsStrictOrderedRing R] [FloorRing R] [HasSqrt R]
  {ladder next : Ladder R} {seedScores : List R} {submissions : List (List R)} {result : LadderResult R}

/-- A quantizing ladder whose reported score is the rounded internal best. -/
structure Ladder.Reports (ladder : Ladder R) : Prop where
  quantizes : ladder.quantize = true
  precision : 0 < ladder.precision
  reported : ladder.bestReported = ladder.bestTrue.map ladder.report

/-- What a submission does to a ladder. -/
structure Ladder.Submits (ladder : Ladder R) (next : Ladder R) (result : LadderResult R) : Prop where
  precision : next.precision = ladder.precision
  etaFloor : next.etaFloor = ladder.etaFloor
  quantize : next.quantize = ladder.quantize
  reportedScore : next.bestReported = some result.reportedScore
  accepts : result.accepted = true → next.bestTrue = some result.candidateMean ∧
    next.bestReported = some (ladder.report result.candidateMean) ∧
    ∀ best, ladder.bestTrue = some best → best + ladder.etaFloor < result.candidateMean
  rejects : result.accepted = false → next.bestTrue = ladder.bestTrue ∧
    next.bestReported = ladder.bestReported ∧ ladder.bestTrue ≠ none

lemma Ladder.submit_ok (h : ladder.submit seedScores = .ok (next, result)) :
    ladder.Submits next result := by
  simp only [Ladder.submit, bind_eq_ok, pure_eq_ok, Prod.mk.injEq] at h
  obtain ⟨aggregate, aggregated, reported, known, rfl, rfl⟩ := h
  obtain ⟨-, -, floor⟩ := aggregateSeeds_ok aggregated
  have shown : (if (ladder.bestTrue.elim true fun previous => aggregate.mean > previous + aggregate.eta) = true
      then some (ladder.report aggregate.mean) else ladder.bestReported) = some reported := by
    cases held : (if (ladder.bestTrue.elim true fun previous => aggregate.mean > previous + aggregate.eta) = true
      then some (ladder.report aggregate.mean) else ladder.bestReported) with
    | none =>
      rw [held] at known
      cases known
    | some score =>
      rw [held] at known
      exact congrArg some (Except.ok.inj known)
  refine ⟨rfl, rfl, rfl, shown, fun accepted => ?_, fun rejected => ?_⟩
  · dsimp only at accepted ⊢
    rw [if_pos accepted, if_pos accepted]
    refine ⟨rfl, rfl, fun best held => ?_⟩
    rw [held] at accepted
    exact (add_le_add_right floor best).trans_lt (of_decide_eq_true accepted)
  · dsimp only at rejected ⊢
    rw [rejected]
    refine ⟨rfl, rfl, fun first => ?_⟩
    rw [first] at rejected
    cases rejected

lemma Ladder.Reports.submits (reports : ladder.Reports) (submits : ladder.Submits next result) : next.Reports := by
  have same : next.report = ladder.report := by
    funext mean
    rw [Ladder.report, Ladder.report, submits.precision, submits.quantize]
  refine ⟨submits.quantize.trans reports.quantizes, submits.precision ▸ reports.precision, ?_⟩
  cases accepted : result.accepted with
  | true =>
    obtain ⟨best, reported, -⟩ := submits.accepts accepted
    rw [best, reported, same]
    rfl
  | false =>
    obtain ⟨best, reported, -⟩ := submits.rejects accepted
    rw [best, reported, same, reports.reported]

/-- A reported score is at most half the precision away from the internal best. -/
lemma Ladder.Reports.near (reports : ladder.Reports) {best reported : R} (held : ladder.bestTrue = some best)
    (shown : ladder.bestReported = some reported) : |reported - best| ≤ ladder.precision / 2 := by
  have rounded := reports.reported
  rw [held, shown] at rounded
  obtain rfl := Option.some.inj rounded
  have whole : best = best / ladder.precision * ladder.precision := (div_mul_cancel₀ _ reports.precision.ne').symm
  rw [Ladder.report, if_pos reports.quantizes]
  conv_lhs => rw [whole, div_mul_cancel₀ _ reports.precision.ne']
  calc |(roundHalfEven (best / ladder.precision) : R) * ladder.precision - best|
      = |((roundHalfEven (best / ladder.precision) : R) - best / ladder.precision) * ladder.precision| := by
        rw [sub_mul, ← whole]
    _ = |(roundHalfEven (best / ladder.precision) : R) - best / ladder.precision| * ladder.precision := by
        rw [abs_mul, abs_of_pos reports.precision]
    _ ≤ 1 / 2 * ladder.precision :=
        mul_le_mul_of_nonneg_right (abs_roundHalfEven_sub _) reports.precision.le
    _ = ladder.precision / 2 := by ring

/-- A better mean is not reported lower. -/
lemma Ladder.Reports.mono (reports : ladder.Reports) {low high : R} (le : low ≤ high) :
    ladder.report low ≤ ladder.report high := by
  rw [Ladder.report, Ladder.report, if_pos reports.quantizes, if_pos reports.quantizes]
  apply mul_le_mul_of_nonneg_right _ reports.precision.le
  exact_mod_cast roundHalfEven_mono (div_le_div_of_nonneg_right le reports.precision.le)

/-- The ladder of the constructor. -/
lemma Ladder.new_reports [ExactSqrt R] {validationRows : Int} {etaFloor : R}
    (made : Ladder.new validationRows etaFloor true = .ok ladder) :
    ladder.Reports ∧ ladder.etaFloor = etaFloor ∧ ladder.bestTrue = none := by
  rw [Ladder.new, check_bind_eq_ok, ensure_eq_ok, pure_eq_ok] at made
  obtain ⟨some_rows, rfl⟩ := made
  have rows : (0 : R) < (validationRows : R) := Int.cast_pos.mpr some_rows
  have root : HasSqrt.sqrt (validationRows : R) ≠ 0 := by
    intro zero
    have square := ExactSqrt.sqrt_mul_self _ rows.le
    rw [zero, mul_zero] at square
    exact rows.ne square
  have positive : 0 < HasSqrt.sqrt (validationRows : R) := (LawfulSqrt.sqrt_nonneg _).lt_of_ne' root
  exact ⟨⟨rfl, one_div_pos.mpr positive, rfl⟩, rfl, rfl⟩

/-! ### Runs -/

/-- What every submission keeps, a run keeps. -/
lemma Ladder.run_induction {P : Ladder R → Prop} (start : P ladder)
    (step : ∀ (ladder next : Ladder R) result, P ladder → ladder.Submits next result → P next) :
    P (ladder.run submissions).1 := by
  induction submissions generalizing ladder with
  | nil => exact start
  | cons seedScores rest ih =>
    rw [Ladder.run]
    cases submitted : ladder.submit seedScores with
    | error e => exact ih start
    | ok outcome =>
      obtain ⟨next, result⟩ := outcome
      exact ih (step ladder next result start (Ladder.submit_ok submitted))

/-- From an internal best on, every acceptance takes its part of what is left below the largest mean. -/
lemma acceptances_above {best high : R} (positive : 0 ≤ ladder.etaFloor) (held : ladder.bestTrue = some best)
    (below : best ≤ high) (means : ∀ result ∈ (ladder.run submissions).2, result.candidateMean ≤ high) :
    (acceptances (ladder.run submissions).2 : R) * ladder.etaFloor ≤ high - best := by
  induction submissions generalizing ladder best with
  | nil => simpa [Ladder.run, acceptances] using below
  | cons seedScores rest ih =>
    rw [Ladder.run] at means ⊢
    cases submitted : ladder.submit seedScores with
    | error e =>
      rw [submitted] at means
      exact ih positive held below means
    | ok outcome =>
      obtain ⟨next, result⟩ := outcome
      rw [submitted] at means
      obtain ⟨first, others⟩ := List.forall_mem_cons.mp means
      have submits := Ladder.submit_ok submitted
      have floor := submits.etaFloor
      show (acceptances (result :: (next.run rest).2) : R) * _ ≤ _
      cases accepted : result.accepted with
      | true =>
        obtain ⟨now, -, rises⟩ := submits.accepts accepted
        have later := ih (floor ▸ positive) now first others
        have more := rises best held
        have count : acceptances (result :: (next.run rest).2) = acceptances (next.run rest).2 + 1 :=
          List.countP_cons_of_pos accepted
        rw [count]
        rw [floor] at later
        push_cast
        linarith
      | false =>
        obtain ⟨now, -, -⟩ := submits.rejects accepted
        have later := ih (floor ▸ positive) (now.trans held) below others
        have count : acceptances (result :: (next.run rest).2) = acceptances (next.run rest).2 :=
          List.countP_cons_of_neg (by simp [accepted])
        rw [count]
        rwa [floor] at later

/-- From the start on there is one acceptance more. -/
lemma acceptances_from_start {low high : R} (positive : 0 < ladder.etaFloor) (fresh : ladder.bestTrue = none)
    (ordered : low ≤ high)
    (means : ∀ result ∈ (ladder.run submissions).2, low ≤ result.candidateMean ∧ result.candidateMean ≤ high) :
    (acceptances (ladder.run submissions).2 : R) ≤ 1 + (high - low) / ladder.etaFloor := by
  have room : 0 ≤ (high - low) / ladder.etaFloor := div_nonneg (sub_nonneg.mpr ordered) positive.le
  induction submissions generalizing ladder with
  | nil =>
    simp only [Ladder.run, acceptances, List.countP_nil, Nat.cast_zero]
    linarith
  | cons seedScores rest ih =>
    rw [Ladder.run] at means ⊢
    cases submitted : ladder.submit seedScores with
    | error e =>
      rw [submitted] at means
      exact ih positive fresh means room
    | ok outcome =>
      obtain ⟨next, result⟩ := outcome
      rw [submitted] at means
      obtain ⟨first, others⟩ := List.forall_mem_cons.mp means
      have submits := Ladder.submit_ok submitted
      have floor := submits.etaFloor
      have accepted : result.accepted = true := by
        by_contra rejected
        exact (submits.rejects (Bool.eq_false_iff.mpr rejected)).2.2 fresh
      obtain ⟨now, -, -⟩ := submits.accepts accepted
      have later := acceptances_above (floor ▸ positive.le) now first.2 fun r mem => (others r mem).2
      rw [floor] at later
      have count : acceptances (result :: (next.run rest).2) = acceptances (next.run rest).2 + 1 :=
        List.countP_cons_of_pos accepted
      have bound : (acceptances (next.run rest).2 : R) ≤ (high - low) / ladder.etaFloor := by
        rw [le_div_iff₀ positive]
        linarith [first.1]
      show (acceptances (result :: (next.run rest).2) : R) ≤ _
      rw [count]
      push_cast
      linarith

/-! ### Stability -/

/-- A submission is stable. -/
structure Ladder.Stable (ladder : Ladder R) (etaFloor : R) (next : Ladder R) (result : LadderResult R) : Prop where
  accepts : result.accepted = true → next.bestTrue = some result.candidateMean ∧
    ∀ best, ladder.bestTrue = some best → best + etaFloor < result.candidateMean
  rejects : result.accepted = false →
    next.bestTrue = ladder.bestTrue ∧ next.bestReported = ladder.bestReported
  reported : next.bestReported = some result.reportedScore
  increases : ∀ score, ladder.bestReported = some score → score ≤ result.reportedScore
  near : ∀ best, next.bestTrue = some best → |result.reportedScore - best| ≤ ladder.precision / 2

end Steps

end TacoRank.Evaluation
