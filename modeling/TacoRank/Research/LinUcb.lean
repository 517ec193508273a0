import TacoRank.Lib.Elimination
import TacoRank.Lib.Result
import TacoRank.Lib.Statistics
import TacoRank.Research.GraphView
import TacoRank.Text
import Mathlib.Data.List.MinMax
import Mathlib.Data.Prod.Lex

/-!
# The ranker of legal choices

Port of `research/linucb.py`: a ridge model of the rewards in the history, inverted by elimination with pivots
under an absolute threshold. The inversion never fails, gives the inverse on both sides, and the ranker returns one
of the choices (`linUcb_total`).
-/

namespace TacoRank.Research
open Lib Lib.Result

/-- The errors of the ranker. -/
inductive LinUcbError where
  | valueError (message : String)
  | zeroDivisionError
deriving DecidableEq

section Model
variable {R : Type} [Field R] [LinearOrder R]

/-! ### The inverse -/

/-- `rows[i][j]`. -/
def entry (rows : List (List R)) (i j : Nat) : R := (rows.getD i []).getD j 0

/-- `value / scale`. -/
def divide (value scale : R) : Except LinUcbError R :=
  if scale = 0 then .error .zeroDivisionError else .ok (value / scale)

/-- The inner loop of `_inverse`: the multiple of the pivot's row is taken from another row. -/
def clearRow (column : Nat) (augmented : List (List R)) (row : Nat) : List (List R) :=
  if row = column then augmented
  else
    let factor := entry augmented row column
    if factor ≠ 0 then
      augmented.set row (List.zipWith (fun value pivotValue => value - factor * pivotValue)
        (augmented.getD row []) (augmented.getD column []))
    else augmented

/-- One column of `_inverse`; the threshold is 1e-12. -/
def eliminateColumn (size : Nat) (augmented : List (List R)) (column : Nat) :
    Except LinUcbError (List (List R)) := do
  let rows := List.range' column (size - column)
  let pivot := (rows.argmax fun row => |entry augmented row column|).getD column
  ensure (¬ |entry augmented pivot column| < 1 / ((10 : Nat) : R) ^ 12)
    (.valueError "LinUCB ridge matrix is singular")
  let swapped := (augmented.set column (augmented.getD pivot [])).set pivot (augmented.getD column [])
  let scale := entry swapped column column
  let pivotRow ← (swapped.getD column []).mapM fun value => divide value scale
  return (List.range size).foldl (clearRow column) (swapped.set column pivotRow)

/-- `augmented`, at first: the matrix next to the identity. -/
def augmented (matrix : List (List R)) : List (List R) :=
  matrix.zipIdx.map fun (row, rowIndex) =>
    row ++ (List.range matrix.length).map fun column => if rowIndex = column then 1 else 0

/-- `_inverse`. -/
def inverse (matrix : List (List R)) : Except LinUcbError (List (List R)) := do
  let size := matrix.length
  let reduced ← (List.range size).foldlM (eliminateColumn size) (augmented matrix)
  return reduced.map fun row => row.drop size

/-- `_dot`. -/
def dot (left right : List R) : R := (List.zipWith (· * ·) left right).sum

/-- `_matvec`. -/
def matvec (matrix : List (List R)) (vector : List R) : List R := matrix.map fun row => dot row vector

/-! ### The ridge model -/

/-- `max(-0.1, min(0.1, value))`. -/
def clip (value : R) : R := max (-(1 / ((10 : Nat) : R))) (min (1 / ((10 : Nat) : R)) value)

/-- `_normalized`, of a text. -/
def normalized (text : String) : String := lower (String.ofList (stripChars isPythonSpace text.toList))

/-- The parent advantage in `_features`. -/
def parentAdvantage (parentScore baselineScore : Option R) : R :=
  match parentScore, baselineScore with
  | some parent, some baseline => clip (parent - baseline)
  | _, _ => 0

/-- `_features`. -/
def features (family costTier : String) (parentScore baselineScore : Option R) (families : List String) : List R :=
  [1] ++ (families.map fun item => if family = item then 1 else 0) ++
    (["low", "medium", "high"].map fun item => if costTier = item then 1 else 0) ++
      [parentAdvantage parentScore baselineScore]

/-- The families of the history and of the choices, in order. -/
def knownFamilies (choices : List (PolicyChoice R)) (context : PlannerContext R) : List String :=
  let named := (context.familyHistory.map fun item => str item.family) ++ choices.map fun choice => str choice.family
  ((named.filter (· ≠ "")).dedup).insertionSort fun a b => ¬ b.toList < a.toList

/-- The number of features. -/
def dimension (families : List String) : Nat := 1 + families.length + 3 + 1

/-- `matrix` and `reward_vector`. -/
structure RidgeModel (R : Type) where
  matrix : List (List R)
  rewardVector : List R

/-- The model without rewards. -/
def RidgeModel.initial (ridge : R) (dimension : Nat) : RidgeModel R where
  matrix := (List.range dimension).map fun row =>
    (List.range dimension).map fun column => if row = column then ridge else 0
  rewardVector := List.replicate dimension 0

/-- `by_id.get(...)`: the last summary with this id. The baseline is a model, whose fields are what `as_list`
makes of it, so it is not among the summaries. -/
def summaryById (context : PlannerContext R) (experimentId : String) : Option (PlannerExperimentSummary R) :=
  (context.familyHistory.filter fun item => item.experimentId ≠ "").reverse.find?
    fun item => item.experimentId = experimentId

/-- The features of a summary of the history. -/
def summaryFeatures (context : PlannerContext R) (families : List String) (summary : PlannerExperimentSummary R) :
    List R :=
  let parent := summaryById context (str summary.parentExperimentId)
  features (str summary.family) (summary.actualCost.elim "" CostTier.value)
    (parent.bind PlannerExperimentSummary.primaryScore) context.baseline.primaryScore families

/-- One more reward for its features. -/
def RidgeModel.add (model : RidgeModel R) (reward : R) (features : List R) : RidgeModel R where
  matrix := List.zipWith (fun row feature =>
    List.zipWith (fun value other => value + feature * other) row features) model.matrix features
  rewardVector := List.zipWith (fun total feature => total + clip reward * feature) model.rewardVector features

/-- The loop over the history. -/
def RidgeModel.observe (context : PlannerContext R) (families : List String) (model : RidgeModel R)
    (summary : PlannerExperimentSummary R) : RidgeModel R :=
  match summary.parentDelta with
  | none => model
  | some reward =>
    if summary.integrity = some .clean ∧ summary.outputAccepted = some true then
      model.add reward (summaryFeatures context families summary)
    else model

/-- The ridge model of the verified history. -/
def ridgeModel (ridge : R) (families : List String) (context : PlannerContext R) : RidgeModel R :=
  context.familyHistory.foldl (RidgeModel.observe context families) (.initial ridge (dimension families))

/-! ### The ranker -/

/-- `LinUCBLegalChoiceRanker`. -/
structure LinUcbLegalChoiceRanker (R : Type) [Field R] [LinearOrder R] where
  alpha : R
  ridge : R
  alpha_nonneg : 0 ≤ alpha
  ridge_pos : 0 < ridge

/-- The features of a choice. -/
def choiceFeatures (context : PlannerContext R) (families : List String) (choice : PolicyChoice R) : List R :=
  features (str choice.family) (normalized choice.costTier)
    (choice.parent.bind ExperimentNodeView.primaryScore) context.baseline.primaryScore families

/-- The cost penalty of a choice. -/
def costPenalty (costTier : String) : R :=
  if costTier = "low" then 0
  else if costTier = "medium" then 1 / ((1000 : Nat) : R)
  else if costTier = "high" then ((3 : Nat) : R) / ((1000 : Nat) : R)
  else 1 / ((1000 : Nat) : R)

/-- The score of a choice. -/
def choiceScore [HasSqrt R] (alpha : R) (inverse : List (List R)) (theta features : List R) (costTier : String) : R :=
  let projected := matvec inverse features
  let uncertainty := HasSqrt.sqrt (max 0 (dot features projected))
  dot theta features + alpha * uncertainty - costPenalty (normalized costTier)

/-- `LinUCBLegalChoiceRanker.__call__`. -/
def LinUcbLegalChoiceRanker.call [HasSqrt R] (ranker : LinUcbLegalChoiceRanker R) (choices : List (PolicyChoice R))
    (context : PlannerContext R) : Except LinUcbError (PolicyChoice R) := do
  ensure (choices ≠ []) (.valueError "LinUCB cannot rank an empty legal choice set")
  let families := knownFamilies choices context
  let model := ridgeModel ranker.ridge families context
  let inverse ← inverse model.matrix
  let theta := matvec inverse model.rewardVector
  let scored := choices.zipIdx.map fun (choice, index) =>
    (choiceScore ranker.alpha inverse theta (choiceFeatures context families choice) choice.costTier, -(index : R),
      choice)
  ((scored.argmax fun item => toLex (item.1, item.2.1)).map fun item => item.2.2).elim
    (.error (.valueError "max() iterable argument is empty")) .ok

/-! ### Entries -/

/-- Rows of equal lengths. -/
def Shaped (n m : Nat) (rows : List (List R)) : Prop := rows.length = n ∧ ∀ i < n, (rows.getD i []).length = m

section Entries
variable {n m i j k : Nat} {rows : List (List R)} {row : List R}

omit [Field R] [LinearOrder R] in
lemma getD_set (low : k < rows.length) : (rows.set k row).getD i [] = if i = k then row else rows.getD i [] := by
  rw [List.getD_eq_getElem?_getD, List.getElem?_set, List.getD_eq_getElem?_getD]
  rcases eq_or_ne i k with rfl | differs
  · rw [if_pos rfl, if_pos rfl, if_pos low, Option.getD_some]
  · rw [if_neg differs.symm, if_neg differs]

omit [Field R] [LinearOrder R] in
lemma Shaped.set (h : Shaped n m rows) (low : k < n) (length : row.length = m) : Shaped n m (rows.set k row) := by
  refine ⟨by rw [List.length_set, h.1], fun i small => ?_⟩
  rw [getD_set (h.1 ▸ low)]
  split
  · exact length
  · exact h.2 i small

omit [LinearOrder R] in
lemma entry_set (low : k < rows.length) :
    entry (rows.set k row) i j = if i = k then row.getD j 0 else entry rows i j := by
  rw [entry, getD_set low]
  split <;> rfl

omit [LinearOrder R] in
/-- Rows of equal lengths combined entry by entry. -/
lemma getD_zipWith {f : R → R → R} {left right : List R} (length : left.length = m) (same : right.length = m)
    (small : j < m) : (List.zipWith f left right).getD j 0 = f (left.getD j 0) (right.getD j 0) := by
  have inside : j < left.length := length ▸ small
  have inside' : j < right.length := same ▸ small
  rw [List.getD_eq_getElem?_getD, List.getElem?_zipWith, List.getD_eq_getElem?_getD, List.getD_eq_getElem?_getD,
    List.getElem?_eq_getElem inside, List.getElem?_eq_getElem inside']
  rfl

/-- What one step of the inner loop does. -/
lemma clearRow_entry (h : Shaped n m rows) (low : k < n) {row : Nat} (inside : row < n) :
    Shaped n m (clearRow k rows row) ∧ ∀ i, ∀ j < m, entry (clearRow k rows row) i j =
      if i = row ∧ row ≠ k then entry rows i j - entry rows i k * entry rows k j else entry rows i j := by
  unfold clearRow
  split
  next here => exact ⟨h, fun i j _ => by rw [if_neg (by omega)]⟩
  next other =>
    dsimp only
    split
    next factor =>
      refine ⟨h.set inside ?_, fun i j small => ?_⟩
      · rw [List.length_zipWith, h.2 row inside, h.2 k low, min_self]
      · rw [entry_set (h.1 ▸ inside)]
        rcases eq_or_ne i row with rfl | differs
        · rw [if_pos rfl, if_pos ⟨rfl, other⟩, getD_zipWith (h.2 i inside) (h.2 k low) small]
          rfl
        · rw [if_neg differs, if_neg fun both => differs both.1]
    next factor =>
      refine ⟨h, fun i j _ => ?_⟩
      split
      next both => rw [both.1, not_not.mp factor, zero_mul, sub_zero]
      next => rfl

/-- The inner loop, up to a row. -/
lemma clearRows_entry (h : Shaped n m rows) (low : k < n) (column : k < m) {t : Nat} (bound : t ≤ n) :
    Shaped n m ((List.range t).foldl (clearRow k) rows) ∧
      ∀ i, ∀ j < m, entry ((List.range t).foldl (clearRow k) rows) i j =
        if i < t ∧ i ≠ k then entry rows i j - entry rows i k * entry rows k j else entry rows i j := by
  induction t with
  | zero => exact ⟨h, fun i j _ => by rw [if_neg (by omega)]; rfl⟩
  | succ t ih =>
    obtain ⟨shaped, value⟩ := ih (by omega)
    obtain ⟨shaped', value'⟩ := clearRow_entry shaped low bound
    rw [List.range_succ, List.foldl_append]
    refine ⟨shaped', fun i j small => ?_⟩
    have pivot : entry ((List.range t).foldl (clearRow k) rows) k j = entry rows k j := by
      rw [value k j small, if_neg (by omega)]
    show entry (clearRow k _ t) i j = _
    rw [value' i j small, pivot, value i j small, value i k column]
    rcases lt_trichotomy i t with before | rfl | behind
    · rw [if_neg (by omega)]
      simp only [before, Nat.lt_succ_of_lt before, true_and]
    · simp only [lt_irrefl, Nat.lt_succ_self, true_and, false_and, if_false]
    · rw [if_neg (by omega), if_neg (by omega), if_neg (by omega)]

omit [LinearOrder R] in
/-- The rows are exchanged. -/
lemma exchange_entry {p : Nat} (h : Shaped n m rows) (low : k < n) (high : p < n) :
    let swapped := (rows.set k (rows.getD p [])).set p (rows.getD k [])
    Shaped n m swapped ∧ ∀ i j, entry swapped i j = Elimination.exchange p k (entry rows) i j := by
  intro swapped
  refine ⟨(h.set low (h.2 p high)).set high (h.2 k low), fun i j => ?_⟩
  have first : k < rows.length := h.1 ▸ low
  have second : p < (rows.set k (rows.getD p [])).length := by rw [List.length_set, h.1]; exact high
  rw [entry_set second, entry_set first, Elimination.exchange]
  rcases eq_or_ne i p with rfl | other
  · rw [if_pos rfl, Equiv.swap_apply_right]
    rfl
  · rw [if_neg other]
    rcases eq_or_ne i k with rfl | other'
    · rw [if_pos rfl, Equiv.swap_apply_left]
      rfl
    · rw [if_neg other', Equiv.swap_apply_of_ne_of_ne other' other]

end Entries

/-! ### Elimination -/

section Inverse
variable [IsStrictOrderedRing R] {n k : Nat} {rows : List (List R)} {A : Nat → Nat → R}

omit [LinearOrder R] [IsStrictOrderedRing R] in
lemma getD_map_div (row : List R) (scale : R) (j : Nat) : (row.map (· / scale)).getD j 0 = row.getD j 0 / scale := by
  rw [List.getD_eq_getElem?_getD, List.getElem?_map, List.getD_eq_getElem?_getD]
  cases row[j]? with
  | none => exact (zero_div scale).symm
  | some value => rfl

omit [IsStrictOrderedRing R] in
/-- Division by a number that is not zero. -/
lemma mapM_divide {scale : R} (nonzero : scale ≠ 0) (row : List R) :
    row.mapM (fun value => divide value scale) = .ok (row.map (· / scale)) := by
  induction row with
  | nil => rfl
  | cons value row ih =>
    rw [List.mapM_cons, ih, divide, if_neg nonzero]
    rfl

/-- The row of the pivot is below the rows that are done, and the pivot is above the threshold. -/
lemma pivot_spec (reduced : Elimination.Reduced n A (entry rows) k) (coercive : Elimination.Coercive n A) (low : k < n)
    (small : n < 10 ^ 24) :
    ∃ p, (((List.range' k (n - k)).argmax fun row => |entry rows row k|).getD k) = p ∧ k ≤ p ∧ p < n ∧
      1 / ((10 : Nat) : R) ^ 12 < |entry rows p k| := by
  obtain ⟨i, above, below, large⟩ := reduced.pivot coercive low
  have inside {j : Nat} : j ∈ List.range' k (n - k) ↔ k ≤ j ∧ j < n := by
    rw [List.mem_range'_1]
    omega
  cases found : (List.range' k (n - k)).argmax fun row => |entry rows row k| with
  | none =>
    rw [List.argmax_eq_none] at found
    have listed := inside.mpr ⟨above, below⟩
    rw [found] at listed
    cases listed
  | some p =>
    obtain ⟨first, last⟩ := inside.mp (List.argmax_mem found)
    have most : |entry rows i k| ≤ |entry rows p k| :=
      List.le_of_mem_argmax (f := fun row => |entry rows row k|) (inside.mpr ⟨above, below⟩) found
    refine ⟨p, rfl, first, last, Elimination.above_threshold (n := n) ?_ ?_⟩
    · refine large.trans (mul_le_mul_of_nonneg_left ?_ (Nat.cast_nonneg n))
      rw [← sq_abs (entry rows i k), ← sq_abs (entry rows p k)]
      exact pow_le_pow_left₀ (abs_nonneg _) most 2
    · have bound : (n : R) < ((10 : Nat) : R) ^ 24 := by exact_mod_cast small
      have positive : (0 : R) < ((10 : Nat) : R) ^ 24 := by positivity
      rw [div_pow, one_pow, ← pow_mul, mul_one_div, div_lt_one positive]
      exact bound

/-- A column of a coercive matrix is cleared. -/
lemma eliminateColumn_ok (h : Shaped n (n + n) rows) (reduced : Elimination.Reduced n A (entry rows) k)
    (coercive : Elimination.Coercive n A) (low : k < n) (small : n < 10 ^ 24) :
    ∃ rows', eliminateColumn n rows k = .ok rows' ∧ Shaped n (n + n) rows' ∧
      Elimination.Reduced n A (entry rows') (k + 1) := by
  obtain ⟨p, chosen, first, last, above⟩ := pivot_spec reduced coercive low small
  obtain ⟨shaped, exchanged⟩ := exchange_entry h low last
  let swapped := (rows.set k (rows.getD p [])).set p (rows.getD k [])
  have threshold : (0 : R) ≤ 1 / ((10 : Nat) : R) ^ 12 := by positivity
  have scale : entry swapped k k = entry rows p k := by
    rw [exchanged, Elimination.exchange, Equiv.swap_apply_left]
  have nonzero : entry swapped k k ≠ 0 := by
    rw [scale, ← abs_pos]
    exact threshold.trans_lt above
  have moved : Elimination.Reduced n A (entry swapped) k :=
    (reduced.exchange first last).congr low.le fun i _ j _ => exchanged i j
  let scaled := swapped.set k ((swapped.getD k []).map (· / entry swapped k k))
  have inside : k < swapped.length := shaped.1 ▸ low
  have shaped' : Shaped n (n + n) scaled := shaped.set low (by rw [List.length_map, shaped.2 k low])
  have pivotRow : ∀ j, entry scaled k j = entry swapped k j / entry swapped k k := by
    intro j
    rw [entry_set inside, if_pos rfl, getD_map_div]
    rfl
  have otherRow : ∀ i, i ≠ k → ∀ j, entry scaled i j = entry swapped i j := fun i other j => by
    rw [entry_set inside, if_neg other]
  obtain ⟨shaped'', cleared⟩ := clearRows_entry shaped' low (show k < n + n by omega) le_rfl
  refine ⟨_, ?_, shaped'', (moved.clear low nonzero).congr low fun i bound j width => ?_⟩
  · unfold eliminateColumn
    simp only [chosen]
    exact check_bind_eq_ok.mpr ⟨ensure_eq_ok.mpr (not_lt.mpr above.le),
      bind_eq_ok.mpr ⟨_, mapM_divide nonzero _, rfl⟩⟩
  · rw [cleared i j width, Elimination.clear]
    rcases eq_or_ne i k with rfl | other
    · rw [if_neg (by omega), if_pos rfl, pivotRow]
    · rw [if_pos ⟨bound, other⟩, if_neg other, otherRow i other, otherRow i other, pivotRow]

omit [LinearOrder R] [IsStrictOrderedRing R] in
/-- The matrix next to the identity. -/
lemma augmented_entry {matrix : List (List R)} (h : Shaped n n matrix) :
    Shaped n (n + n) (augmented matrix) ∧
      ∀ i < n, ∀ j < n + n, entry (augmented matrix) i j = Elimination.augment n (entry matrix) i j := by
  have at_row {i : Nat} (small : i < n) : (augmented matrix).getD i [] = matrix.getD i [] ++
      (List.range n).map fun column => if i = column then (1 : R) else 0 := by
    have inside : i < matrix.length := h.1 ▸ small
    rw [augmented, List.getD_eq_getElem?_getD, List.getElem?_map, List.getElem?_zipIdx, List.getD_eq_getElem?_getD,
      List.getElem?_eq_getElem inside, h.1, Nat.zero_add]
    rfl
  refine ⟨⟨by rw [augmented, List.length_map, List.length_zipIdx, h.1], fun i small => ?_⟩, fun i small j width => ?_⟩
  · rw [at_row small, List.length_append, h.2 i small, List.length_map, List.length_range]
  · rw [entry, at_row small, Elimination.augment, List.getD_eq_getElem?_getD]
    rcases Nat.lt_or_ge j n with left | right
    · rw [if_pos left, List.getElem?_append_left (h.2 i small ▸ left), ← List.getD_eq_getElem?_getD]
      rfl
    · rw [if_neg right.not_gt, List.getElem?_append_right (h.2 i small ▸ right), h.2 i small, List.getElem?_map,
        List.getElem?_range (by omega), Option.map_some, Option.getD_some]
      exact if_congr (by omega) rfl rfl

/-- The columns of a coercive matrix are all cleared. -/
lemma eliminate_ok (h : Shaped n (n + n) rows) (reduced : Elimination.Reduced n A (entry rows) 0)
    (coercive : Elimination.Coercive n A) (small : n < 10 ^ 24) {t : Nat} (bound : t ≤ n) :
    ∃ rows', (List.range t).foldlM (eliminateColumn n) rows = .ok rows' ∧ Shaped n (n + n) rows' ∧
      Elimination.Reduced n A (entry rows') t := by
  induction t with
  | zero => exact ⟨rows, rfl, h, reduced⟩
  | succ t ih =>
    obtain ⟨rows', done, shaped, reduced'⟩ := ih (by omega)
    obtain ⟨rows'', next, shaped', reduced''⟩ := eliminateColumn_ok shaped reduced' coercive bound small
    refine ⟨rows'', ?_, shaped', reduced''⟩
    rw [List.range_succ, foldlM_snoc]
    exact bind_eq_ok.mpr ⟨rows', done, next⟩

/-- The inversion of a coercive matrix returns its inverse. -/
theorem inverse_ok {matrix : List (List R)} (h : Shaped n n matrix) (coercive : Elimination.Coercive n (entry matrix))
    (small : n < 10 ^ 24) :
    ∃ M, inverse matrix = .ok M ∧ Shaped n n M ∧
      Elimination.Identity n (Elimination.product n (entry matrix) (entry M)) ∧
      Elimination.Identity n (Elimination.product n (entry M) (entry matrix)) := by
  obtain ⟨shaped, entries⟩ := augmented_entry h
  have start := Elimination.Reduced.start.congr (Nat.zero_le n) entries
  obtain ⟨rows, cleared, shaped', reduced⟩ := eliminate_ok shaped start coercive small le_rfl
  have half {i : Nat} : (rows.map fun row => row.drop n).getD i [] = (rows.getD i []).drop n := by
    rw [List.getD_eq_getElem?_getD, List.getElem?_map, List.getD_eq_getElem?_getD]
    cases rows[i]? with
    | none => exact List.drop_nil.symm
    | some row => rfl
  have right_half : (fun i c => entry rows i (n + c)) = entry (rows.map fun row => row.drop n) := by
    funext i c
    rw [entry, entry, half, List.getD_eq_getElem?_getD (l := (rows.getD i []).drop n), List.getElem?_drop,
      ← List.getD_eq_getElem?_getD]
  obtain ⟨left, right⟩ := reduced.inverse
  rw [right_half] at left right
  have shape : Shaped n n (rows.map fun row => row.drop n) := by
    refine ⟨by rw [List.length_map, shaped'.1], fun i bound => ?_⟩
    rw [half, List.length_drop, shaped'.2 i bound, Nat.add_sub_cancel]
  have computed : inverse matrix = .ok (rows.map fun row => row.drop n) := by
    unfold inverse
    simp only [h.1]
    exact bind_eq_ok.mpr ⟨rows, cleared, rfl⟩
  exact ⟨_, computed, shape, right, left⟩

end Inverse

/-! ### The ridge matrix -/

section Ridge
variable {n : Nat} {context : PlannerContext R} {families : List String}

/-- Every feature vector has the same dimension. -/
lemma length_features (family costTier : String) (parentScore baselineScore : Option R) :
    (features family costTier parentScore baselineScore families).length = dimension families := by
  simp [features, dimension]
  omega

/-- A matrix that is shaped and coercive. -/
def Sound (n : Nat) (matrix : List (List R)) : Prop := Shaped n n matrix ∧ Elimination.Coercive n (entry matrix)

variable [IsStrictOrderedRing R]

lemma initial_sound {ridge : R} (one_le : 1 ≤ ridge) : Sound n (RidgeModel.initial ridge n).matrix := by
  have at_row {i : Nat} (small : i < n) : (RidgeModel.initial ridge n).matrix.getD i [] =
      (List.range n).map fun column => if i = column then ridge else 0 := by
    rw [List.getD_eq_getElem?_getD]
    show (((List.range n).map fun row => _)[i]?).getD [] = _
    rw [List.getElem?_map, List.getElem?_range small]
    rfl
  refine ⟨⟨by simp [RidgeModel.initial], fun i small => by rw [at_row small, List.length_map, List.length_range]⟩, ?_⟩
  intro v
  refine Finset.sum_le_sum fun i listed => ?_
  have low := Finset.mem_range.mp listed
  have applied : Elimination.apply n (entry (RidgeModel.initial ridge n).matrix) v i = ridge * v i := by
    have value : ∀ j ∈ Finset.range n, entry (RidgeModel.initial ridge n).matrix i j * v j =
        if j = i then ridge * v i else 0 := by
      intro j inside
      rw [entry, at_row low, List.getD_eq_getElem?_getD, List.getElem?_map,
        List.getElem?_range (Finset.mem_range.mp inside)]
      rcases eq_or_ne j i with rfl | differs
      · simp
      · simp [differs, differs.symm]
    rw [Elimination.apply, Finset.sum_congr rfl value, Finset.sum_ite_eq', if_pos listed]
  rw [applied, sq]
  have square := mul_self_nonneg (v i)
  nlinarith

/-- One more outer product. -/
lemma Sound.add {model : RidgeModel R} (sound : Sound n model.matrix) (reward : R) {vector : List R}
    (length : vector.length = n) : Sound n (model.add reward vector).matrix := by
  obtain ⟨shaped, coercive⟩ := sound
  have at_row {i : Nat} (small : i < n) : (model.add reward vector).matrix.getD i [] =
      List.zipWith (fun value other => value + vector.getD i 0 * other) (model.matrix.getD i []) vector := by
    have inside : i < model.matrix.length := shaped.1 ▸ small
    have inside' : i < vector.length := length ▸ small
    rw [RidgeModel.add, List.getD_eq_getElem?_getD, List.getElem?_zipWith, List.getD_eq_getElem?_getD,
      List.getD_eq_getElem?_getD, List.getElem?_eq_getElem inside, List.getElem?_eq_getElem inside']
    rfl
  have value {i j : Nat} (low : i < n) (small : j < n) : entry (model.add reward vector).matrix i j =
      entry model.matrix i j + vector.getD i 0 * vector.getD j 0 := by
    rw [entry, at_row low, getD_zipWith (shaped.2 i low) length small, entry]
  refine ⟨⟨?_, fun i small => ?_⟩, fun v => ?_⟩
  · rw [RidgeModel.add, List.length_zipWith, shaped.1, length, min_self]
  · rw [at_row small, List.length_zipWith, shaped.2 i small, length, min_self]
  · let along := ∑ j ∈ Finset.range n, vector.getD j 0 * v j
    have applied : ∀ i ∈ Finset.range n, v i * Elimination.apply n (entry (model.add reward vector).matrix) v i =
        v i * Elimination.apply n (entry model.matrix) v i + vector.getD i 0 * v i * along := by
      intro i listed
      have row : Elimination.apply n (entry (model.add reward vector).matrix) v i =
          Elimination.apply n (entry model.matrix) v i + vector.getD i 0 * along := by
        rw [Elimination.apply, Elimination.apply, Finset.mul_sum, ← Finset.sum_add_distrib]
        refine Finset.sum_congr rfl fun j inside => ?_
        rw [value (Finset.mem_range.mp listed) (Finset.mem_range.mp inside)]
        ring
      rw [row]
      ring
    rw [Finset.sum_congr rfl applied, Finset.sum_add_distrib, ← Finset.sum_mul]
    have square : 0 ≤ along * along := mul_self_nonneg along
    exact (coercive v).trans (le_add_of_nonneg_right square)

/-- The ridge matrix of every history is shaped and coercive. -/
lemma ridgeModel_sound {ridge : R} (one_le : 1 ≤ ridge) :
    Sound (dimension families) (ridgeModel ridge families context).matrix := by
  have step (history : List (PlannerExperimentSummary R)) {model : RidgeModel R}
      (sound : Sound (dimension families) model.matrix) :
      Sound (dimension families) (history.foldl (RidgeModel.observe context families) model).matrix := by
    induction history generalizing model with
    | nil => exact sound
    | cons summary history ih =>
      refine ih ?_
      unfold RidgeModel.observe
      split
      · exact sound
      · split
        · exact sound.add _ (length_features _ _ _ _)
        · exact sound
  exact step context.familyHistory (initial_sound one_le)

end Ridge

/-! ### Totality -/

section Total
variable [IsStrictOrderedRing R] {n : Nat}

omit [LinearOrder R] [IsStrictOrderedRing R] in
/-- The dot product of lists of one length. -/
lemma dot_eq_sum {left right : List R} (length : left.length = n) (same : right.length = n) :
    dot left right = ∑ j ∈ Finset.range n, left.getD j 0 * right.getD j 0 := by
  induction left generalizing right n with
  | nil =>
    rw [← length]
    rfl
  | cons x left ih =>
    obtain ⟨y, right, rfl⟩ := List.exists_cons_of_length_pos (l := right) (by rw [same, ← length]; exact Nat.succ_pos _)
    rw [← length, List.length_cons, Finset.sum_range_succ', dot, List.zipWith_cons_cons, List.sum_cons, add_comm]
    congr 1
    refine ih rfl ?_
    rw [List.length_cons] at length same
    omega

/-- The quadratic form of the inverse is not negative. -/
lemma uncertainty_nonneg {matrix M : List (List R)} (coercive : Elimination.Coercive n (entry matrix))
    (shaped : Shaped n n M) (inverts : Elimination.Identity n (Elimination.product n (entry matrix) (entry M)))
    {vector : List R} (length : vector.length = n) : 0 ≤ dot vector (matvec M vector) := by
  have projected : (matvec M vector).length = n := by rw [matvec, List.length_map, shaped.1]
  rw [dot_eq_sum length projected]
  refine (coercive.inverse_nonneg inverts fun j => vector.getD j 0).trans
    (Finset.sum_congr rfl fun i listed => ?_).le
  have low := Finset.mem_range.mp listed
  have inside : i < M.length := shaped.1 ▸ low
  congr 1
  rw [matvec, List.getD_eq_getElem?_getD, List.getElem?_map, List.getElem?_eq_getElem inside, Option.map_some,
    Option.getD_some]
  have row : M[i] = M.getD i [] := by
    rw [List.getD_eq_getElem?_getD, List.getElem?_eq_getElem inside]
    rfl
  rw [row, dot_eq_sum (shaped.2 i low) length]
  rfl

/-- For every history and every legal choice set the ridge matrix is inverted, on both sides, the quadratic form under
the root is not negative, and the ranker returns one of the choices. -/
theorem linUcb_total [HasSqrt R] (ranker : LinUcbLegalChoiceRanker R) (one_le : 1 ≤ ranker.ridge)
    (context : PlannerContext R) (choices : List (PolicyChoice R)) (filled : choices ≠ [])
    (small : dimension (knownFamilies choices context) < 10 ^ 24) :
    let families := knownFamilies choices context
    let n := dimension families
    let matrix := (ridgeModel ranker.ridge families context).matrix
    ∃ M, inverse matrix = .ok M ∧ Shaped n n M ∧
      Elimination.Identity n (Elimination.product n (entry matrix) (entry M)) ∧
      Elimination.Identity n (Elimination.product n (entry M) (entry matrix)) ∧
      (∀ choice, 0 ≤ dot (choiceFeatures context families choice) (matvec M (choiceFeatures context families choice))) ∧
      ∃ chosen ∈ choices, ranker.call choices context = .ok chosen := by
  intro families n matrix
  obtain ⟨shaped, coercive⟩ : Sound n matrix := ridgeModel_sound one_le
  obtain ⟨M, inverted, shape, right, left⟩ := inverse_ok shaped coercive small
  refine ⟨M, inverted, shape, right, left, fun choice => ?_, ?_⟩
  · exact uncertainty_nonneg coercive shape right (length_features _ _ _ _)
  · let theta := matvec M (ridgeModel ranker.ridge families context).rewardVector
    let scored := choices.zipIdx.map fun (choice, index) =>
      (choiceScore ranker.alpha M theta (choiceFeatures context families choice) choice.costTier, -(index : R), choice)
    cases best : scored.argmax fun item => toLex (item.1, item.2.1) with
    | none =>
      rw [List.argmax_eq_none, List.map_eq_nil_iff, List.zipIdx_eq_nil_iff] at best
      exact absurd best filled
    | some item =>
      obtain ⟨pair, listed, same⟩ := List.mem_map.mp (List.argmax_mem best)
      refine ⟨item.2.2, same ▸ List.fst_mem_of_mem_zipIdx listed, ?_⟩
      refine check_bind_eq_ok.mpr ⟨ensure_eq_ok.mpr filled, bind_eq_ok.mpr ⟨M, inverted, ?_⟩⟩
      show Option.elim (Option.map _ (scored.argmax _)) _ _ = _
      rw [best]
      rfl

end Total

end Model

/-- A clean accepted result of a family, below its parent. -/
def cleanNegative (experimentId family : String) : PlannerExperimentSummary ℚ where
  experimentId
  parentExperimentId := some "exp_0000"
  family := some family
  trustVerdict := some .negative
  stability := none
  integrity := some .clean
  decision := some .reject
  highestCompletedFidelity := some .full
  outputAccepted := some true
  primaryScore := some (58 / 100)
  metricSet := none
  parentDelta := some (-2 / 100)
  childCount := 0
  actualCost := some .medium
  parentEligible := false
  status := "rejected"
  methodCardIds := []

/-- A choice without a parent. -/
def familyChoice (family : String) : PolicyChoice ℚ where
  action := "propose"
  parent := none
  family := some family
  costTier := "medium"
  phase := "depth"
  reasonCode := "TEST"
  reason := "test"

/-- The history has one result, of the family "objective". -/
def objectiveContext : PlannerContext ℚ where
  contractSummary :=
    { allowedFamilies := [], allowedData := [], activeProhibitions := [], predictionChangeNoOpThreshold := 0 }
  baseline := cleanNegative "exp_0000" "baseline"
  eligibleFrontier := []
  familyHistory := [cleanNegative "exp_0001" "objective"]
  methodCards := []
  playbook := { familyOrder := [], methodOrder := .empty }

/-- The ranker with its defaults. -/
def defaultRanker : LinUcbLegalChoiceRanker ℚ where
  alpha := 1 / 4
  ridge := 1
  alpha_nonneg := by decide +kernel
  ridge_pos := by decide +kernel

theorem linUcb_total_history : ∃ chosen ∈ [familyChoice "objective", familyChoice "temporal_history"],
    defaultRanker.call [familyChoice "objective", familyChoice "temporal_history"] objectiveContext = .ok chosen := by
  have small : dimension (knownFamilies [familyChoice "objective", familyChoice "temporal_history"]
      objectiveContext) < 10 ^ 24 := by decide +kernel
  obtain ⟨M, _, _, _, _, _, chosen⟩ := linUcb_total defaultRanker le_rfl objectiveContext
    [familyChoice "objective", familyChoice "temporal_history"] (List.cons_ne_nil _ _) small
  exact chosen

/-- The family that was not tried is preferred. -/
example : (defaultRanker.call [familyChoice "objective", familyChoice "temporal_history"] objectiveContext).map
    PolicyChoice.family = .ok (some "temporal_history") := by decide +kernel

end TacoRank.Research
