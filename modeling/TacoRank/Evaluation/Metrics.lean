import TacoRank.Evaluation.Decisions
import TacoRank.Lib.Grouping
import TacoRank.Lib.Ranking
import Mathlib.Data.List.Sort
import Mathlib.Data.Prod.Lex
import Mathlib.Algebra.Order.Ring.Rat

/-!
# Metrics

Port of `evaluation/metrics.py`. For the area under the curve the rows are sorted by score, tied rows
share the average of their ranks, and the rank sum of the positive rows is normalized. It is the
share of the pairs of a positive and a negative row that are in order (`auc_mann_whitney`). The evaluation
adds up the areas and the discounted gains of the users; the discounts are a parameter.
-/

namespace TacoRank.Evaluation
open Lib Lib.Result

section Auc
variable {R : Type} [Field R] [LinearOrder R]

/-- `normalize_binary_labels`, on numbers. -/
def normalizeBinaryLabels (labels : List Int) (context : String) :
    Except EvaluationError (List Int) := do
  ensure (∀ value ∈ labels, value = 0 ∨ value = 1)
    (.valueError (context ++ " must be exact numeric binary values"))
  return labels

/-- The rows in the order of `sorted`: by score, then by label. -/
def sortedPairs (pairs : List (R × Int)) : List (R × Int) :=
  pairs.insertionSort fun a b => toLex a ≤ toLex b

/-- The loop of `auc` over the runs of equal scores, with `index` rows before them. -/
def tieRanks (index : Nat) : List (List (R × Int)) → List R
  | [] => []
  | run :: rest =>
    let last := index + run.length - 1
    List.replicate run.length (((index : R) + (last : R)) / (2 : Nat) + 1) ++
      tieRanks (index + run.length) rest

/-- `auc`. -/
def auc (labels : List Int) (scores : List R) : Except EvaluationError R := do
  ensure (labels.length = scores.length)
    (.valueError "labels and scores must have the same length")
  let normalizedLabels ← normalizeBinaryLabels labels "AUC labels"
  let pairs := sortedPairs (scores.zip normalizedLabels)
  let ranks := tieRanks 0 (pairs.splitBy fun a b => a.1 = b.1)
  let positives := (pairs.map Prod.snd).sum
  let negatives := (pairs.length : Int) - positives
  if positives = 0 ∨ negatives = 0 then return 1 / (2 : Nat)
  else
    let positiveRankSum := (((ranks.zip pairs).filter fun row => row.2.2 = 1).map Prod.fst).sum
    return (positiveRankSum - (positives : R) * (positives + 1) / (2 : Nat)) / (positives * negatives)

end Auc

/-! ### The evaluation of all users -/

section Independent
variable {R : Type} [Field R] [LinearOrder R] (discount : Nat → R)

/-- The gains of ranked labels over the discounts of their positions. -/
def discountedGain (labels : List Int) : R :=
  (labels.zipIdx.map fun (label, index) => (((2 : Nat) : R) ^ label.toNat - 1) / discount index).sum

/-- `ndcg_at_k`; the discount of a position is `math.log2(position + 2)`. -/
def ndcgAtK (rankedLabels : List Int) (k : Int) : Except EvaluationError R := do
  ensure (0 < k) (.valueError "k must be positive")
  let labels ← normalizeBinaryLabels rankedLabels "nDCG labels"
  let dcg := discountedGain discount (labels.take k.toNat)
  let ideal := (labels.insertionSort (· ≥ ·)).take k.toNat
  let idcg := discountedGain discount ideal
  return if idcg = 0 then 0 else dcg / idcg

/-- The rows by decreasing score; the sort is stable. -/
def rankRows (rows : List (R × Int)) : List (R × Int) := rows.insertionSort fun a b => b.1 ≤ a.1

/-- The area of ranked rows that have both labels. -/
def rankedAuc (ranked : List (R × Int)) : Except EvaluationError (Option R) :=
  let rankedLabels := ranked.map Prod.snd
  if 0 < rankedLabels.sum ∧ rankedLabels.sum < rankedLabels.length then
    (auc rankedLabels (ranked.map Prod.fst)).map some
  else .ok none

/-- The sums of the loop of `evaluate_independent`. -/
structure Totals (R : Type) where
  weightedAuc : R
  positiveWeight : R
  ndcgValues : List R

/-- The rows of one user in the loop of `evaluate_independent`. -/
def addUser (k : Int) (totals : Totals R) (rows : List (R × Int)) : Except EvaluationError (Totals R) := do
  let ranked := rankRows rows
  let rankedLabels := ranked.map Prod.snd
  let positives := rankedLabels.sum
  let area ← rankedAuc ranked
  let ndcg ← ndcgAtK discount rankedLabels k
  return {
    weightedAuc := area.elim totals.weightedAuc fun area => totals.weightedAuc + positives * area
    positiveWeight := area.elim totals.positiveWeight fun _ => totals.positiveWeight + positives
    ndcgValues := totals.ndcgValues ++ [ndcg] }

/-- `_validate_equal_nonempty` of three lists. -/
def validateEqualNonempty (m n l : Nat) : Except EvaluationError Unit := do
  ensure (m = n ∧ n = l) (.valueError "inputs must have equal lengths")
  ensure (l ≠ 0) (.valueError "evaluation inputs must not be empty")

/-- `evaluate_independent`: the metrics by their names. -/
def evaluateIndependent (userIds : List String) (labels : List Int) (scores : List R) (k : Int) :
    Except EvaluationError (List (String × R)) := do
  validateEqualNonempty userIds.length labels.length scores.length
  let normalizedLabels ← normalizeBinaryLabels labels "labels"
  let grouped := Grouping.group (userIds.zip (scores.zip normalizedLabels))
  let totals ← grouped.values.foldlM (addUser discount k) ⟨0, 0, []⟩
  let gauc := if totals.positiveWeight = 0 then 1 / ((2 : Nat) : R)
    else totals.weightedAuc / totals.positiveWeight
  let ndcg := if totals.ndcgValues = [] then 0 else totals.ndcgValues.sum / totals.ndcgValues.length
  return [("GAUC", gauc), ("nDCG@" ++ toString k, ndcg), ("primary", (gauc + ndcg) / (2 : Nat)),
    ("users", grouped.entries.length), ("rows", labels.length)]

end Independent

/-! ### Rank sums -/

section RankSums
variable {R : Type} [Field R]

/-- Rows with a positive label. -/
def Positive (row : R × Int) : Bool := row.2 = 1

/-- In one run the positive rows have equal ranks. -/
lemma sum_replicate_zip (rank : R) (run : List (R × Int)) :
    ((((List.replicate run.length rank).zip run).filter fun row => row.2.2 = 1).map Prod.fst).sum =
      run.countP Positive * rank := by
  induction run with
  | nil => simp
  | cons row run ih =>
    rw [List.length_cons, List.replicate_succ, List.zip_cons_cons, List.filter_cons,
      List.countP_cons]
    by_cases label : row.2 = 1
    · simp only [label, decide_true, if_true, List.map_cons, List.sum_cons, ih, Positive]
      push_cast
      ring
    · simp only [label, decide_false, Bool.false_eq_true, if_false, ih, Positive, Nat.add_zero]

lemma sum_tieRanks (index : Nat) (runs : List (List (R × Int))) :
    ((((tieRanks index runs).zip runs.flatten).filter fun row => row.2.2 = 1).map Prod.fst).sum =
      Ranking.rankSum Positive index runs := by
  induction runs generalizing index with
  | nil => rfl
  | cons run rest ih =>
    rw [tieRanks, List.flatten_cons, List.zip_append List.length_replicate, List.filter_append,
      List.map_append, List.sum_append, sum_replicate_zip, ih, Ranking.rankSum]
    rfl

end RankSums

/-! ### The rows in order -/

section Sorting
variable {R : Type} [LinearOrder R]

lemma sortedPairs_perm (pairs : List (R × Int)) : (sortedPairs pairs).Perm pairs :=
  List.perm_insertionSort _ _

lemma sortedPairs_pairwise (pairs : List (R × Int)) :
    (sortedPairs pairs).Pairwise fun a b => toLex a ≤ toLex b := by
  have total : Std.Total fun a b : R × Int => toLex a ≤ toLex b := ⟨fun a b => le_total _ _⟩
  have trans : IsTrans (R × Int) fun a b => toLex a ≤ toLex b := ⟨fun a b c => le_trans⟩
  exact List.pairwise_insertionSort _ _

/-- The scores increase. -/
lemma sortedPairs_scores (pairs : List (R × Int)) :
    (sortedPairs pairs).Pairwise fun a b => a.1 ≤ b.1 := by
  refine (sortedPairs_pairwise pairs).imp fun {a b} le => ?_
  rcases Prod.Lex.le_iff.mp le with lt | ⟨same, -⟩
  · exact lt.le
  · exact same.le

end Sorting

/-! ### The statistic -/

section Statistic
variable {R : Type} [Field R] [LinearOrder R]

omit [Field R] [LinearOrder R] in
/-- The sum of binary labels is the number of positive rows. -/
lemma sum_labels {rows : List (R × Int)} (binary : ∀ row ∈ rows, row.2 = 0 ∨ row.2 = 1) :
    (rows.map Prod.snd).sum = rows.countP Positive := by
  induction rows with
  | nil => rfl
  | cons row rows ih =>
    obtain ⟨first, rest⟩ := List.forall_mem_cons.mp binary
    rw [List.map_cons, List.sum_cons, ih rest, List.countP_cons]
    rcases first with label | label
    · simp [Positive, label]
    · simp [Positive, label]
      ring

/-- The rank sum of the positive rows, whichever the order of the rows. -/
lemma positiveRankSum_eq [IsStrictOrderedRing R] (rows : List (R × Int)) :
    let pairs := sortedPairs rows
    let ranks := tieRanks 0 (pairs.splitBy fun a b => a.1 = b.1)
    ((((ranks.zip pairs).filter fun row => row.2.2 = 1).map Prod.fst).sum : R) =
      Ranking.statistic Prod.fst Positive rows +
        (rows.countP Positive : R) * ((rows.countP Positive : R) + 1) / (2 : Nat) := by
  intro pairs ranks
  have whole : (pairs.splitBy fun a b => a.1 = b.1).flatten = pairs := List.flatten_splitBy _ pairs
  have tiers : Ranking.Tiers Prod.fst (pairs.splitBy fun a b => a.1 = b.1) :=
    Ranking.tiers_splitBy (sortedPairs_scores rows)
  have perm : pairs.Perm rows := sortedPairs_perm rows
  have summed := sum_tieRanks 0 (pairs.splitBy fun a b => a.1 = b.1)
  rw [Ranking.rankSum_tiers tiers (List.nil_notMem_splitBy _ pairs), whole,
    perm.countP_eq] at summed
  have order : Ranking.statistic (R := R) Prod.fst Positive pairs =
      Ranking.statistic Prod.fst Positive rows :=
    Ranking.mannWhitney_perm (perm.filter _) (perm.filter _)
  rw [order] at summed
  simpa using summed

/-- `auc` on binary labels, with the statistic in place of the rank sum. -/
lemma auc_eq [IsStrictOrderedRing R] {labels : List Int} {scores : List R}
    (aligned : labels.length = scores.length) (binary : ∀ label ∈ labels, label = 0 ∨ label = 1) :
    let rows := scores.zip labels
    let positives := rows.countP Positive
    let negatives := rows.countP fun row => !Positive row
    auc labels scores =
      .ok (if positives = 0 ∨ negatives = 0 then 1 / (2 : Nat)
        else Ranking.statistic Prod.fst Positive rows / ((positives : R) * (negatives : R))) := by
  intro rows positives negatives
  have labelled : ∀ row ∈ rows, row.2 = 0 ∨ row.2 = 1 := fun row mem =>
    binary row.2 (List.of_mem_zip mem).2
  have perm : (sortedPairs rows).Perm rows := sortedPairs_perm rows
  have total : ((sortedPairs rows).map Prod.snd).sum = (positives : Int) := by
    rw [sum_labels fun row mem => labelled row (perm.mem_iff.mp mem), perm.countP_eq]
  have others : ((sortedPairs rows).length : Int) - positives = negatives := by
    rw [perm.length_eq, List.length_eq_countP_add_countP Positive]
    simp [positives, negatives]
  have ranked := positiveRankSum_eq rows
  have sized : ensure (ε := EvaluationError) (labels.length = scores.length)
      (.valueError "labels and scores must have the same length") = .ok () :=
    ensure_eq_ok.mpr aligned
  have checked : ensure (ε := EvaluationError) (∀ value ∈ labels, value = 0 ∨ value = 1)
      (.valueError ("AUC labels" ++ " must be exact numeric binary values")) = .ok () :=
    ensure_eq_ok.mpr binary
  rw [auc, sized, ok_bind, normalizeBinaryLabels, checked, ok_bind]
  simp only [pure_bind]
  rw [total, others]
  by_cases empty : positives = 0 ∨ negatives = 0
  · have zero : (positives : Int) = 0 ∨ (negatives : Int) = 0 := by exact_mod_cast empty
    rw [if_pos empty, if_pos zero]
    rfl
  · have nonzero : ¬ ((positives : Int) = 0 ∨ (negatives : Int) = 0) := by exact_mod_cast empty
    rw [if_neg empty, if_neg nonzero, ranked]
    simp only [Int.cast_natCast]
    rw [add_sub_cancel_right]
    rfl

/-- The area is the share of the pairs of a positive and a negative row that are in order, a tied
pair counting half, and the order of the rows is irrelevant. -/
theorem auc_mann_whitney [IsStrictOrderedRing R] {labels : List Int} {scores : List R}
    (aligned : labels.length = scores.length) (binary : ∀ label ∈ labels, label = 0 ∨ label = 1)
    (positive : 1 ∈ labels) (negative : 0 ∈ labels) :
    let rows := scores.zip labels
    let positives := rows.filter fun row => row.2 = 1
    let negatives := rows.filter fun row => row.2 = 0
    auc labels scores =
        .ok (Ranking.mannWhitney Prod.fst positives negatives /
          ((positives.length : R) * (negatives.length : R))) ∧
      ∀ (labels' : List Int) (scores' : List R), labels'.length = scores'.length →
        (scores'.zip labels').Perm rows → auc labels' scores' = auc labels scores := by
  intro rows positives negatives
  have labelled : ∀ row ∈ rows, row.2 = 0 ∨ row.2 = 1 := fun row mem =>
    binary row.2 (List.of_mem_zip mem).2
  have rest : rows.filter (fun row => !Positive row) = negatives := by
    refine List.filter_congr fun row mem => ?_
    rcases labelled row mem with label | label
    · simp [Positive, label]
    · simp [Positive, label]
  have occurs : ∀ label ∈ labels, ∃ row ∈ rows, row.2 = label := by
    intro label mem
    rw [← List.map_snd_zip aligned.le] at mem
    obtain ⟨row, inside, same⟩ := List.mem_map.mp mem
    exact ⟨row, inside, same⟩
  have someP : rows.countP Positive ≠ 0 := by
    obtain ⟨row, mem, label⟩ := occurs 1 positive
    exact (List.countP_pos_iff.mpr ⟨row, mem, decide_eq_true label⟩).ne'
  have someN : rows.countP (fun row => !Positive row) ≠ 0 := by
    obtain ⟨row, mem, label⟩ := occurs 0 negative
    refine (List.countP_pos_iff.mpr ⟨row, mem, ?_⟩).ne'
    simp [Positive, label]
  constructor
  · rw [auc_eq aligned binary, if_neg (not_or.mpr ⟨someP, someN⟩), Ranking.statistic, rest,
      List.countP_eq_length_filter, List.countP_eq_length_filter, rest]
    rfl
  · intro labels' scores' aligned' perm
    have binary' : ∀ label ∈ labels', label = 0 ∨ label = 1 := by
      intro label mem
      rw [← List.map_snd_zip aligned'.le] at mem
      obtain ⟨row, inside, rfl⟩ := List.mem_map.mp mem
      exact labelled row (perm.mem_iff.mp inside)
    rw [auc_eq aligned binary, auc_eq aligned' binary', perm.countP_eq, perm.countP_eq,
      Ranking.statistic, Ranking.statistic,
      Ranking.mannWhitney_perm (perm.filter _) (perm.filter _)]

/-- Three and a half of four pairs are in order. -/
theorem auc_mann_whitney_tie :
    auc [1, 0, 0, 1] [2, 2, 1, 3] = (.ok (7 / 8) : Except EvaluationError ℚ) ∧
      auc [0, 1, 1, 0] [1, 3, 2, 2] = (auc [1, 0, 0, 1] [2, 2, 1, 3] : Except EvaluationError ℚ) := by
  have aligned : ([1, 0, 0, 1] : List Int).length = ([2, 2, 1, 3] : List ℚ).length := rfl
  obtain ⟨area, order⟩ := auc_mann_whitney aligned (by decide) (by decide) (by decide)
  refine ⟨area.trans (congrArg _ ?_), order [0, 1, 1, 0] [1, 3, 2, 2] rfl (by decide +kernel)⟩
  decide +kernel

end Statistic
end TacoRank.Evaluation
