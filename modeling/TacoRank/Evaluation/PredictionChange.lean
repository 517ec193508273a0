import TacoRank.Evaluation.Trust
import Mathlib.Data.List.Sort
import Mathlib.Data.List.Dedup

/-!
# Prediction changes

Port of the analysis in `evaluation/no_op.py`: how the scores of a candidate differ from those of its
parent. With an exact root the rank correlation lies between minus one and one (`abs_spearman_le`).
-/

namespace TacoRank.Evaluation
open Lib Lib.Result

section Analysis
variable {R : Type} [Field R] [LinearOrder R]

/-- The loop of `_average_ranks` over the runs of equal values, with `index` values before them. -/
def assignRanks (ranks : List R) (index : Nat) : List (List (R × Nat)) → List R
  | [] => ranks
  | run :: rest =>
    let last := index + run.length - 1
    let average : R := ((index : R) + (last : R)) / (2 : Nat) + 1
    assignRanks (run.foldl (fun ranks item => ranks.set item.2 average) ranks) (index + run.length) rest

/-- `_average_ranks`. -/
def averageRanks (values : List R) : List R :=
  let indexed := values.zipIdx.insertionSort fun a b => a.1 ≤ b.1
  assignRanks (List.replicate values.length 0) 0 (indexed.splitBy fun a b => a.1 = b.1)

/-- `spearman`. -/
def spearman [HasSqrt R] (left right : List R) : Except EvaluationError R :=
  if left.length ≠ right.length then .error (.valueError "Spearman inputs must have equal lengths")
  else if left = [] then .error (.valueError "Spearman inputs must not be empty")
  else
    let leftRanks := averageRanks left
    let rightRanks := averageRanks right
    if HasSqrt.sqrt (Statistics.squares leftRanks) = 0 ∨
        HasSqrt.sqrt (Statistics.squares rightRanks) = 0 then
      .ok (if left = right then 1 else 0)
    else .ok (Statistics.correlation leftRanks rightRanks)

/-- The pairs of a list, the earlier element first. -/
def pairs {α : Type} : List α → List (α × α)
  | [] => []
  | x :: xs => xs.map (x, ·) ++ pairs xs

/-- `_sign`. -/
def signOf (value tolerance : R) : Int :=
  if tolerance < value then 1 else if value < -tolerance then -1 else 0

/-- `within_user_rank_change`. -/
def withinUserRankChange (scores parentScores : List R) (userIds : List String) (tolerance : R) :
    Except EvaluationError (Option R) :=
  if scores.length = parentScores.length ∧ parentScores.length = userIds.length then
    let rows := userIds.zip (scores.zip parentScores)
    let groups := userIds.dedup.map fun user => (rows.filter fun row => row.1 = user).map Prod.snd
    let orders := groups.flatMap fun group => (pairs group).map fun (left, right) =>
      (signOf (left.2 - right.2) tolerance, signOf (left.1 - right.1) tolerance)
    let comparable := orders.filter fun order => ¬ (order.1 = 0 ∧ order.2 = 0)
    let changed := comparable.countP fun order => order.1 ≠ order.2
    .ok (if comparable = [] then none else some ((changed : R) / comparable.length))
  else .error (.valueError "scores, parent scores, and user ids must align")

/-- The part of `analyze_prediction_change` on the scores of the parent. -/
def compareScores [HasSqrt R] (scores parent : List R) (tolerance : R)
    (userIds : Option (List String)) : Except EvaluationError (PredictionChange R) := do
  ensure (parent ≠ []) (.valueError "predictions must not be empty")
  ensure (scores.length = parent.length) (.valueError "candidate and parent predictions must align")
  let changed := (scores.zip parent).countP fun p => tolerance < |p.1 - p.2|
  let identical := (scores.zip parent).countP fun p => p.1 = p.2
  let correlation ← spearman scores parent
  let rankChange ← userIds.elim (pure none) fun userIds =>
    withinUserRankChange scores parent userIds tolerance
  return {
    spearmanVsParent := some correlation
    changedRowFraction := some ((changed : R) / scores.length)
    identicalScoreFraction := some ((identical : R) / scores.length)
    uniqueScoreFraction := (scores.dedup.length : R) / scores.length
    withinUserRankChange := rankChange }

/-- `analyze_prediction_change`. -/
def analyzePredictionChange [HasSqrt R] (scores : List R) (parentScores : Option (List R))
    (tolerance : R) (userIds : Option (List String)) : Except EvaluationError (PredictionChange R) :=
  if scores = [] then .error (.valueError "predictions must not be empty")
  else
    match parentScores with
    | none =>
      .ok {
        spearmanVsParent := none
        changedRowFraction := none
        identicalScoreFraction := none
        uniqueScoreFraction := (scores.dedup.length : R) / scores.length }
    | some parent => compareScores scores parent tolerance userIds

/-! ### Ranges -/

omit [Field R] [LinearOrder R] in
/-- Writing a rank to the positions of a run. -/
lemma length_setAll {average : R} {run : List (R × Nat)} {ranks : List R} :
    (run.foldl (fun ranks item => ranks.set item.2 average) ranks).length = ranks.length := by
  induction run generalizing ranks with
  | nil => rfl
  | cons item run ih => rw [List.foldl_cons, ih, List.length_set]

omit [LinearOrder R] in
lemma length_assignRanks {ranks : List R} {index : Nat} {runs : List (List (R × Nat))} :
    (assignRanks ranks index runs).length = ranks.length := by
  induction runs generalizing ranks index with
  | nil => rfl
  | cons run rest ih => rw [assignRanks, ih, length_setAll]

lemma length_averageRanks {values : List R} : (averageRanks values).length = values.length := by
  rw [averageRanks, length_assignRanks, List.length_replicate]

/-- With an exact root the rank correlation lies between minus one and one. -/
theorem abs_spearman_le [IsStrictOrderedRing R] [HasSqrt R] [ExactSqrt R] {left right : List R}
    {correlation : R} (computed : spearman left right = .ok correlation) : |correlation| ≤ 1 := by
  unfold spearman at computed
  split at computed
  · cases computed
  next lengths =>
    split at computed
    · cases computed
    · dsimp only at computed
      split at computed
      · cases computed
        split_ifs <;> simp
      next varied =>
        cases computed
        obtain ⟨varied, varied'⟩ := not_or.mp varied
        apply Statistics.abs_correlation_le _ varied varied'
        rw [length_averageRanks, length_averageRanks]
        exact not_not.mp lengths

/-- A share of the rows lies between zero and one. -/
lemma fraction_range [IsStrictOrderedRing R] {α : Type} {rows : List α} {p : α → Bool} {n : Nat}
    (bound : rows.length ≤ n) :
    (0 : R) ≤ (rows.countP p : R) / n ∧ (rows.countP p : R) / n ≤ 1 := by
  have count : rows.countP p ≤ n := List.countP_le_length.trans bound
  constructor
  · positivity
  · exact div_le_one_of_le₀ (by exact_mod_cast count) (by positivity)

/-- What the analysis says about the parent. -/
lemma analyzePredictionChange_ok [IsStrictOrderedRing R] [HasSqrt R] {scores parent : List R}
    {tolerance : R} {userIds : Option (List String)} {change : PredictionChange R}
    (analyzed : analyzePredictionChange scores (some parent) tolerance userIds = .ok change) :
    ∃ correlation fraction, spearman scores parent = .ok correlation ∧
      change.spearmanVsParent = some correlation ∧ change.changedRowFraction = some fraction ∧
      0 ≤ fraction ∧ fraction ≤ 1 := by
  unfold analyzePredictionChange at analyzed
  split at analyzed
  · cases analyzed
  · dsimp only at analyzed
    simp only [compareScores, bind_eq_ok] at analyzed
    obtain ⟨_, _, _, _, correlation, computed, _, _, last⟩ := analyzed
    cases last
    have bound : (scores.zip parent).length ≤ scores.length := by simp
    obtain ⟨low, high⟩ := fraction_range (R := R) (p := fun p => tolerance < |p.1 - p.2|) bound
    exact ⟨correlation, _, computed, rfl, rfl, low, high⟩

end Analysis
end TacoRank.Evaluation
