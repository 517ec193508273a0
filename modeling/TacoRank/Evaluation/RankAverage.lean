import TacoRank.Evaluation.PredictionChange
import TacoRank.Lib.Ranking
import Mathlib.Algebra.Order.BigOperators.Group.List

/-!
# Rank averages

Port of `rank_average` in `evaluation/final_selection.py`. The loop over the tied values gives every value
its middle position (`normalizedAverageRanks_eq`), which depends on the weak order alone; the laws of the
averages follow (`rank_average_laws`).
-/

namespace TacoRank.Evaluation
open Lib Lib.Result

section Ranks
variable {R : Type} [Field R] [LinearOrder R]

/-- The loop of `_normalized_average_ranks` over the runs of equal values, with `index` values before
them. -/
def assignAverages (ranks : List R) (index : Nat) : List (List (R × Nat)) → List R
  | [] => ranks
  | run :: rest =>
    let last := index + run.length - 1
    let average : R := ((index : R) + (last : R)) / (2 : Nat)
    assignAverages (run.foldl (fun ranks item => ranks.set item.2 average) ranks) (index + run.length) rest

/-- `_normalized_average_ranks`. -/
def normalizedAverageRanks (values : List R) : List R :=
  let indexed := values.zipIdx.insertionSort fun a b => a.1 ≤ b.1
  let ranks := assignAverages (List.replicate values.length 0) 0 (indexed.splitBy fun a b => a.1 = b.1)
  let denominator : Nat := max 1 (values.length - 1)
  ranks.map fun rank => rank / denominator

/-- `rank_average`. -/
def rankAverage (predictions : List (List R)) : Except EvaluationError (List R) := do
  ensure (predictions ≠ []) (.valueError "at least one prediction vector is required")
  let length := (predictions.head?.getD []).length
  ensure (length ≠ 0 ∧ ∀ vector ∈ predictions, vector.length = length)
    (.valueError "prediction vectors must be non-empty and aligned")
  let rankVectors := predictions.map normalizedAverageRanks
  return (List.range length).map fun index =>
    (rankVectors.map fun vector => vector.getD index 0).sum / rankVectors.length

/-! ### The loop -/

/-- The middle position of a value among the values, which counts from zero. -/
def midRank (values : List R) (x : R) : R :=
  values.countP (· < x) + ((values.countP (· = x) : R) - 1) / (2 : Nat)

omit [Field R] [LinearOrder R] in
lemma getElem?_setAll_other {average : R} {run : List (R × Nat)} {ranks : List R} {i : Nat}
    (absent : i ∉ run.map Prod.snd) :
    (run.foldl (fun ranks item => ranks.set item.2 average) ranks)[i]? = ranks[i]? := by
  induction run generalizing ranks with
  | nil => rfl
  | cons item run ih =>
    obtain ⟨here, later⟩ := not_or.mp fun either => absent (List.mem_cons.mpr either)
    rw [List.foldl_cons, ih later, List.getElem?_set_ne (Ne.symm here)]

omit [Field R] [LinearOrder R] in
lemma getElem?_setAll {average : R} {run : List (R × Nat)} {ranks : List R} {i : Nat}
    (mem : i ∈ run.map Prod.snd) (small : i < ranks.length) :
    (run.foldl (fun ranks item => ranks.set item.2 average) ranks)[i]? = some average := by
  induction run generalizing ranks with
  | nil => cases mem
  | cons item run ih =>
    rw [List.foldl_cons]
    by_cases later : i ∈ run.map Prod.snd
    · exact ih later (by rwa [List.length_set])
    · have here : i = item.2 := (List.mem_cons.mp mem).resolve_right later
      rw [getElem?_setAll_other later, here, List.getElem?_set_self (here ▸ small)]

omit [LinearOrder R] in
/-- Positions that do not occur keep their ranks. -/
lemma assignAverages_other {runs : List (List (R × Nat))} {ranks : List R} {index i : Nat}
    (absent : i ∉ runs.flatten.map Prod.snd) : (assignAverages ranks index runs)[i]? = ranks[i]? := by
  induction runs generalizing ranks index with
  | nil => rfl
  | cons run rest ih =>
    rw [List.flatten_cons, List.map_append, List.mem_append, not_or] at absent
    rw [assignAverages, ih absent.2, getElem?_setAll_other absent.1]

/-- A value gets its middle position. -/
lemma assignAverages_value [CharZero R] {runs : List (List (R × Nat))} (tiers : Ranking.Tiers Prod.fst runs)
    (distinct : (runs.flatten.map Prod.snd).Nodup) {ranks : List R} {index i : Nat} {x : R}
    (mem : (x, i) ∈ runs.flatten) (small : i < ranks.length) :
    (assignAverages ranks index runs)[i]? =
      some (index + (runs.flatten.countP fun item => item.1 < x : R) +
        ((runs.flatten.countP fun item => item.1 = x : R) - 1) / 2) := by
  induction runs generalizing ranks index with
  | nil => cases mem
  | cons run rest ih =>
    obtain ⟨front, increasing⟩ := List.pairwise_cons.mp tiers.increasing
    have tail : Ranking.Tiers Prod.fst rest :=
      ⟨fun run' listed => tiers.equal run' (List.mem_cons_of_mem _ listed), increasing⟩
    have below : ∀ a ∈ run, ∀ b ∈ rest.flatten, a.1 < b.1 := by
      intro a left b right
      obtain ⟨run', listed, inside⟩ := List.mem_flatten.mp right
      exact front run' listed a left b inside
    have equal := tiers.equal run List.mem_cons_self
    rw [List.flatten_cons, List.map_append, List.nodup_append] at distinct
    rw [List.flatten_cons, List.countP_append, List.countP_append]
    rw [List.flatten_cons, List.mem_append] at mem
    rw [assignAverages]
    rcases mem with here | later
    · have fresh : i ∉ rest.flatten.map Prod.snd := fun listed =>
        distinct.2.2 i (List.mem_map_of_mem here) i listed rfl
      have position : i ∈ run.map Prod.snd := List.mem_map_of_mem here
      have lower : run.countP (fun item => item.1 < x) = 0 :=
        List.countP_eq_zero.mpr fun a left => by simp [equal a left (x, i) here]
      have lower' : rest.flatten.countP (fun item => item.1 < x) = 0 :=
        List.countP_eq_zero.mpr fun b right => by simpa using (below (x, i) here b right).le
      have tied : run.countP (fun item => item.1 = x) = run.length :=
        List.countP_eq_length.mpr fun a left => by simp [equal a left (x, i) here]
      have tied' : rest.flatten.countP (fun item => item.1 = x) = 0 :=
        List.countP_eq_zero.mpr fun b right => by simpa using (below (x, i) here b right).ne'
      rw [assignAverages_other fresh, getElem?_setAll position small, lower, lower', tied, tied']
      have filled : 0 < run.length := List.length_pos_of_mem here
      have last : ((index + run.length - 1 : Nat) : R) + 1 = index + run.length := by
        rw [← Nat.cast_add_one, Nat.sub_add_cancel (by omega)]
        push_cast
        ring
      have two : (2 : R) ≠ 0 := two_ne_zero
      congr 1
      push_cast
      field_simp
      linear_combination last
    · have lower : run.countP (fun item => item.1 < x) = run.length :=
        List.countP_eq_length.mpr fun a left => by simpa using below a left (x, i) later
      have tied : run.countP (fun item => item.1 = x) = 0 :=
        List.countP_eq_zero.mpr fun a left => by simpa using (below a left (x, i) later).ne
      rw [ih tail distinct.2.1 later (small.trans_le length_setAll.ge), lower, tied]
      congr 1
      push_cast
      ring

omit [LinearOrder R] in
lemma length_assignAverages {runs : List (List (R × Nat))} {ranks : List R} {index : Nat} :
    (assignAverages ranks index runs).length = ranks.length := by
  induction runs generalizing ranks index with
  | nil => rfl
  | cons run rest ih => rw [assignAverages, ih, length_setAll]

/-- The divisor of the middle positions. -/
def spread (size : Nat) : Nat := max 1 (size - 1)

/-- The normalized ranks are the middle positions. -/
theorem normalizedAverageRanks_eq [CharZero R] (values : List R) :
    normalizedAverageRanks values = values.map fun x => midRank values x / (spread values.length : Nat) := by
  let indexed := values.zipIdx.insertionSort fun a b => a.1 ≤ b.1
  have perm : indexed.Perm values.zipIdx := List.perm_insertionSort _ _
  have sorted : indexed.Pairwise fun a b => a.1 ≤ b.1 := by
    have total : Std.Total fun a b : R × Nat => a.1 ≤ b.1 := ⟨fun a b => le_total _ _⟩
    have trans : IsTrans (R × Nat) fun a b => a.1 ≤ b.1 := ⟨fun a b c => le_trans⟩
    exact List.pairwise_insertionSort _ _
  have whole : (indexed.splitBy fun a b => a.1 = b.1).flatten = indexed := List.flatten_splitBy _ indexed
  have distinct : ((indexed.splitBy fun a b => a.1 = b.1).flatten.map Prod.snd).Nodup := by
    rw [whole, (perm.map Prod.snd).nodup_iff, List.zipIdx_map_snd]
    exact List.nodup_range'
  have counted (p : R → Bool) : (indexed.splitBy fun a b => a.1 = b.1).flatten.countP (fun item => p item.1) =
      values.countP p := by
    rw [whole, perm.countP_eq]
    conv_rhs => rw [← List.zipIdx_map_fst 0 values, List.countP_map]
    rfl
  rw [normalizedAverageRanks]
  apply List.ext_getElem?
  intro i
  rw [List.getElem?_map, List.getElem?_map]
  by_cases small : i < values.length
  · have mem : (values[i], i) ∈ (indexed.splitBy fun a b => a.1 = b.1).flatten := by
      rw [whole, perm.mem_iff, List.mem_zipIdx_iff_getElem?]
      exact List.getElem?_eq_getElem small
    have lower := counted fun y => y < values[i]
    have tied := counted fun y => y = values[i]
    rw [assignAverages_value (Ranking.tiers_splitBy sorted) distinct mem (by simpa using small),
      List.getElem?_eq_getElem small, lower, tied]
    simp [midRank, spread]
  · have outside := not_lt.mp small
    rw [List.getElem?_eq_none outside, List.getElem?_eq_none (by simpa [length_assignAverages] using outside)]
    rfl

/-! ### Middle positions -/

section Positions
variable [IsStrictOrderedRing R] {values : List R} {x y : R}

omit [Field R] [IsStrictOrderedRing R] in
/-- The smaller and the tied values are counted together. -/
lemma countP_lt_add_countP_eq (values : List R) (x : R) :
    values.countP (· < x) + values.countP (· = x) = values.countP fun z => z < x ∨ z = x := by
  induction values with
  | nil => rfl
  | cons z values ih =>
    rw [List.countP_cons, List.countP_cons, List.countP_cons, ← ih]
    rcases lt_trichotomy z x with low | same | high
    · simp only [low, low.ne, true_or, decide_true, decide_false, if_true, Bool.false_eq_true, if_false]
      omega
    · simp only [same, lt_irrefl, or_true, decide_true, decide_false, if_true, Bool.false_eq_true, if_false]
      omega
    · simp only [high.not_gt, high.ne', or_false, decide_false, Bool.false_eq_true, if_false]
      omega

omit [Field R] [IsStrictOrderedRing R] in
/-- A value is tied with itself. -/
lemma one_le_countP_eq (mem : x ∈ values) : 1 ≤ values.countP (· = x) :=
  List.countP_pos_iff.mpr ⟨x, mem, decide_eq_true rfl⟩

lemma midRank_nonneg (mem : x ∈ values) : 0 ≤ midRank values x := by
  have tied : (1 : R) ≤ values.countP (· = x) := by exact_mod_cast one_le_countP_eq mem
  have lower : (0 : R) ≤ values.countP (· < x) := Nat.cast_nonneg _
  unfold midRank
  linarith

lemma midRank_le (mem : x ∈ values) : midRank values x ≤ (spread values.length : Nat) := by
  have tied : (1 : R) ≤ values.countP (· = x) := by exact_mod_cast one_le_countP_eq mem
  have room : values.countP (· < x) + values.countP (· = x) ≤ spread values.length + 1 := by
    have all := (countP_lt_add_countP_eq values x).trans_le List.countP_le_length
    unfold spread
    omega
  have room' : (values.countP (· < x) : R) + values.countP (· = x) ≤ (spread values.length : R) + 1 := by
    exact_mod_cast room
  unfold midRank
  linarith

/-- A larger value has a larger middle position. -/
lemma midRank_lt (left : x ∈ values) (right : y ∈ values) (less : x < y) :
    midRank values x < midRank values y := by
  have between : values.countP (· < x) + values.countP (· = x) ≤ values.countP (· < y) := by
    rw [countP_lt_add_countP_eq]
    refine List.countP_mono_left fun z _ h => ?_
    rcases of_decide_eq_true h with low | rfl
    · exact decide_eq_true (low.trans less)
    · exact decide_eq_true less
  have tied : (1 : R) ≤ values.countP (· = x) := by exact_mod_cast one_le_countP_eq left
  have tied' : (1 : R) ≤ values.countP (· = y) := by exact_mod_cast one_le_countP_eq right
  have between' : (values.countP (· < x) : R) + values.countP (· = x) ≤ values.countP (· < y) := by
    exact_mod_cast between
  unfold midRank
  linarith

end Positions

/-! ### The laws -/

/-- The rows of a vector in another order. -/
def reorder (order : List Nat) (vector : List R) : List R := order.map fun i => vector.getD i 0

/-- The normalized middle position of a row. -/
def rankOf (vector : List R) (i : Nat) : R := midRank vector (vector.getD i 0) / (spread vector.length : Nat)

/-- The average of the middle positions of a row. -/
def averageAt (predictions : List (List R)) (i : Nat) : R :=
  (predictions.map fun vector => rankOf vector i).sum / predictions.length

section Laws
variable {predictions : List (List R)} {n : Nat}

lemma rankAverage_ok [CharZero R] (filled : predictions ≠ []) (rows : 0 < n)
    (aligned : ∀ vector ∈ predictions, vector.length = n) :
    rankAverage predictions = .ok ((List.range n).map (averageAt predictions)) := by
  obtain ⟨first, others, rfl⟩ := List.exists_cons_of_ne_nil filled
  have length : first.length = n := aligned first List.mem_cons_self
  have valid : first.length ≠ 0 ∧ ∀ vector ∈ first :: others, vector.length = first.length :=
    ⟨by omega, fun vector listed => (aligned vector listed).trans length.symm⟩
  refine check_bind_eq_ok.mpr ⟨ensure_eq_ok.mpr filled, check_bind_eq_ok.mpr ⟨ensure_eq_ok.mpr valid, ?_⟩⟩
  have value : ∀ i ∈ List.range n,
      (((first :: others).map normalizedAverageRanks).map fun vector => vector.getD i 0).sum /
        ((first :: others).map normalizedAverageRanks).length = averageAt (first :: others) i := by
    intro i small
    rw [averageAt, List.map_map, List.length_map]
    congr 2
    refine List.map_congr_left fun vector listed => ?_
    have inside : i < vector.length := (aligned vector listed).symm ▸ List.mem_range.mp small
    rw [Function.comp_apply, rankOf, normalizedAverageRanks_eq, List.getD_eq_getElem?_getD, List.getElem?_map,
      List.getElem?_eq_getElem inside, List.getD_eq_getElem?_getD, List.getElem?_eq_getElem inside]
    rfl
  rw [pure_eq_ok, List.head?_cons, Option.getD_some, length]
  exact List.map_congr_left value

/-- Vectors without rows are refused. -/
lemma rankAverage_error (filled : predictions ≠ []) (aligned : ∀ vector ∈ predictions, vector.length = 0) :
    rankAverage predictions = .error (.valueError "prediction vectors must be non-empty and aligned") := by
  obtain ⟨first, others, rfl⟩ := List.exists_cons_of_ne_nil filled
  have length : first.length = 0 := aligned first List.mem_cons_self
  unfold rankAverage
  simp [ensure, length]
  rfl

/-! ### Bounds and strict preference -/

omit [LinearOrder R] in
lemma getD_mem {vector : List R} {i : Nat} (small : i < vector.length) : vector.getD i 0 ∈ vector := by
  rw [List.getD_eq_getElem?_getD, List.getElem?_eq_getElem small]
  exact List.getElem_mem small

section Ordered
variable [IsStrictOrderedRing R] {vector : List R} {i j : Nat}

lemma spread_pos (size : Nat) : (0 : R) < (spread size : Nat) := by
  have one : 1 ≤ spread size := le_max_left _ _
  exact_mod_cast one

lemma rankOf_nonneg (small : i < vector.length) : 0 ≤ rankOf vector i :=
  div_nonneg (midRank_nonneg (getD_mem small)) (spread_pos _).le

lemma rankOf_le_one (small : i < vector.length) : rankOf vector i ≤ 1 :=
  (div_le_one (spread_pos _)).mpr (midRank_le (getD_mem small))

lemma rankOf_lt (left : i < vector.length) (right : j < vector.length)
    (preferred : vector.getD j 0 < vector.getD i 0) : rankOf vector j < rankOf vector i :=
  div_lt_div_of_pos_right (midRank_lt (getD_mem right) (getD_mem left) preferred) (spread_pos _)

/-- The averages lie between zero and one. -/
lemma averageAt_bounds (filled : predictions ≠ []) (aligned : ∀ vector ∈ predictions, vector.length = n)
    (small : i < n) : 0 ≤ averageAt predictions i ∧ averageAt predictions i ≤ 1 := by
  have count : (0 : R) < predictions.length := by exact_mod_cast List.length_pos_iff.mpr filled
  rw [averageAt, le_div_iff₀ count, div_le_iff₀ count, zero_mul, one_mul]
  constructor
  · refine List.sum_nonneg fun rank listed => ?_
    obtain ⟨vector, given, rfl⟩ := List.mem_map.mp listed
    exact rankOf_nonneg (aligned vector given ▸ small)
  · have each : ∀ rank ∈ predictions.map fun vector => rankOf vector i, rank ≤ 1 := by
      intro rank listed
      obtain ⟨vector, given, rfl⟩ := List.mem_map.mp listed
      exact rankOf_le_one (aligned vector given ▸ small)
    have total := List.sum_le_card_nsmul _ _ each
    rwa [List.length_map, nsmul_one] at total

/-- A row that every vector prefers has the larger average. -/
lemma averageAt_lt (filled : predictions ≠ []) (aligned : ∀ vector ∈ predictions, vector.length = n)
    (left : i < n) (right : j < n) (preferred : ∀ vector ∈ predictions, vector.getD j 0 < vector.getD i 0) :
    averageAt predictions j < averageAt predictions i := by
  have count : (0 : R) < predictions.length := by exact_mod_cast List.length_pos_iff.mpr filled
  refine div_lt_div_of_pos_right ?_ count
  refine List.sum_lt_sum_of_ne_nil filled _ _ fun vector listed => ?_
  have same := aligned vector listed
  exact rankOf_lt (same ▸ left) (same ▸ right) (preferred vector listed)

end Ordered

/-! ### Rows in another order and other scales -/

lemma midRank_perm {values values' : List R} (perm : values.Perm values') (x : R) :
    midRank values x = midRank values' x := by
  rw [midRank, midRank, perm.countP_eq, perm.countP_eq]

/-- A strictly increasing transform keeps the middle positions. -/
lemma midRank_map {values : List R} {g : R → R} (increasing : StrictMonoOn g {x | x ∈ values}) {x : R}
    (mem : x ∈ values) : midRank (values.map g) (g x) = midRank values x := by
  have lower : values.countP ((fun y => Decidable.decide (y < g x)) ∘ g) = values.countP (· < x) :=
    List.countP_congr fun y listed => by
      rw [Function.comp_apply, decide_eq_true_iff, decide_eq_true_iff, increasing.lt_iff_lt listed mem]
  have tied : values.countP ((fun y => Decidable.decide (y = g x)) ∘ g) = values.countP (· = x) :=
    List.countP_congr fun y listed => by
      rw [Function.comp_apply, decide_eq_true_iff, decide_eq_true_iff, increasing.injOn.eq_iff listed mem]
  rw [midRank, midRank, List.countP_map, List.countP_map, lower, tied]

lemma rankOf_map {vector : List R} {g : R → R} (increasing : StrictMonoOn g {x | x ∈ vector}) {i : Nat}
    (small : i < vector.length) : rankOf (vector.map g) i = rankOf vector i := by
  have value : (vector.map g).getD i 0 = g (vector.getD i 0) := by
    rw [List.getD_eq_getElem?_getD, List.getElem?_map, List.getD_eq_getElem?_getD, List.getElem?_eq_getElem small]
    rfl
  rw [rankOf, rankOf, value, midRank_map increasing (getD_mem small), List.length_map]

omit [LinearOrder R] in
lemma reorder_perm {order : List Nat} {vector : List R} (perm : order.Perm (List.range vector.length)) :
    (reorder order vector).Perm vector := by
  have same : (List.range vector.length).map (fun i => vector.getD i 0) = vector := by
    refine List.ext_getElem (by rw [List.length_map, List.length_range]) fun i _ small => ?_
    rw [List.getElem_map, List.getElem_range, List.getD_eq_getElem?_getD, List.getElem?_eq_getElem small]
    rfl
  have moved := perm.map fun i => vector.getD i 0
  rwa [same] at moved

lemma rankOf_reorder {order : List Nat} {vector : List R} (perm : order.Perm (List.range vector.length))
    {i : Nat} (small : i < vector.length) :
    rankOf (reorder order vector) i = rankOf vector (order.getD i 0) := by
  have inside : i < order.length := by rwa [perm.length_eq, List.length_range]
  have value : (reorder order vector).getD i 0 = vector.getD (order.getD i 0) 0 := by
    rw [reorder, List.getD_eq_getElem?_getD, List.getElem?_map, List.getElem?_eq_getElem inside,
      List.getD_eq_getElem?_getD (l := order), List.getElem?_eq_getElem inside]
    rfl
  rw [rankOf, rankOf, value, midRank_perm (reorder_perm perm), (reorder_perm perm).length_eq]

/-- Rank averaging commutes with every permutation of the rows. -/
lemma averageAt_reorder (aligned : ∀ vector ∈ predictions, vector.length = n) {order : List Nat}
    (perm : order.Perm (List.range n)) {i : Nat} (small : i < n) :
    averageAt (predictions.map (reorder order)) i = averageAt predictions (order.getD i 0) := by
  rw [averageAt, averageAt, List.map_map, List.length_map]
  congr 2
  refine List.map_congr_left fun vector listed => ?_
  have same := aligned vector listed
  exact rankOf_reorder (same ▸ perm) (same ▸ small)

/-- A strictly increasing transform of one vector leaves the averages. -/
lemma averageAt_modify (aligned : ∀ vector ∈ predictions, vector.length = n) {k : Nat} {g : R → R}
    (increasing : StrictMonoOn g {x | x ∈ predictions.getD k []}) {i : Nat} (small : i < n) :
    averageAt (predictions.modify k (List.map g)) i = averageAt predictions i := by
  rw [averageAt, averageAt, List.length_modify]
  congr 2
  induction predictions generalizing k with
  | nil => rw [List.modify_nil]
  | cons vector predictions ih =>
    have tail : ∀ vector ∈ predictions, vector.length = n := fun vector listed =>
      aligned vector (List.mem_cons_of_mem _ listed)
    cases k with
    | zero =>
      have here := rankOf_map increasing (aligned vector List.mem_cons_self ▸ small)
      exact congrArg (· :: _) here
    | succ k => exact congrArg (_ :: ·) (ih tail increasing)

/-- Averages of ranks lie in [0, 1], follow a permutation of the rows, do not depend on the scale of any vector
and respect what all vectors strictly prefer. Vectors without rows are refused. -/
theorem rank_average_laws [IsStrictOrderedRing R] (predictions : List (List R)) (n : Nat)
    (filled : predictions ≠ []) (aligned : ∀ vector ∈ predictions, vector.length = n) :
    (0 < n → ∃ average, rankAverage predictions = .ok average) ∧
    (∀ average, rankAverage predictions = .ok average → average.length = n ∧ ∀ x ∈ average, 0 ≤ x ∧ x ≤ 1) ∧
    (∀ order : List Nat, order.Perm (List.range n) →
      rankAverage (predictions.map (reorder order)) = (rankAverage predictions).map (reorder order)) ∧
    (∀ k g, StrictMonoOn g {x | x ∈ predictions.getD k []} →
      rankAverage (predictions.modify k (List.map g)) = rankAverage predictions) ∧
    ∀ average, rankAverage predictions = .ok average → ∀ i j, i < n → j < n →
      (∀ vector ∈ predictions, vector.getD j 0 < vector.getD i 0) → average.getD j 0 < average.getD i 0 := by
  have filled' (order : List Nat) : predictions.map (reorder order) ≠ [] := by simpa using filled
  have kept (k : Nat) (g : R → R) : predictions.modify k (List.map g) ≠ [] := by
    rwa [ne_eq, ← List.length_eq_zero_iff, List.length_modify, List.length_eq_zero_iff]
  have reordered {order : List Nat} (perm : order.Perm (List.range n)) :
      ∀ vector ∈ predictions.map (reorder order), vector.length = n := by
    intro vector listed
    obtain ⟨given, _, rfl⟩ := List.mem_map.mp listed
    rw [reorder, List.length_map, perm.length_eq, List.length_range]
  have scaled (k : Nat) (g : R → R) : ∀ vector ∈ predictions.modify k (List.map g), vector.length = n := by
    intro vector listed
    obtain ⟨i, small, rfl⟩ := List.mem_iff_getElem.mp listed
    have inside : i < predictions.length := by rwa [List.length_modify] at small
    have given := aligned _ (List.getElem_mem inside)
    rw [List.getElem_modify]
    split
    · rwa [List.length_map]
    · exact given
  rcases Nat.eq_zero_or_pos n with rfl | rows
  · have refused := rankAverage_error filled aligned
    refine ⟨fun rows => absurd rows (lt_irrefl 0), ?_, ?_, ?_, ?_⟩
    · intro average ok
      rw [refused] at ok
      cases ok
    · intro order perm
      rw [refused, rankAverage_error (filled' order) (reordered perm)]
      rfl
    · intro k g _
      rw [refused, rankAverage_error (kept k g) (scaled k g)]
    · intro _ _ i _ small
      exact absurd small (Nat.not_lt_zero i)
  · have ok := rankAverage_ok filled rows aligned
    refine ⟨fun _ => ⟨_, ok⟩, ?_, ?_, ?_, ?_⟩
    · intro average same
      cases ok.symm.trans same
      refine ⟨by rw [List.length_map, List.length_range], fun x listed => ?_⟩
      obtain ⟨i, small, rfl⟩ := List.mem_map.mp listed
      exact averageAt_bounds filled aligned (List.mem_range.mp small)
    · intro order perm
      rw [ok, rankAverage_ok (filled' order) rows (reordered perm)]
      refine congrArg Except.ok (List.ext_getElem ?_ ?_)
      · rw [reorder, List.length_map, List.length_map, perm.length_eq]
      · intro i left right
        have small : i < n := by rwa [List.length_map, List.length_range] at left
        have inside : i < order.length := by rwa [perm.length_eq, List.length_range]
        have moved : order[i] < n := List.mem_range.mp (perm.mem_iff.mp (List.getElem_mem inside))
        rw [List.getElem_map, List.getElem_range, averageAt_reorder aligned perm small,
          List.getD_eq_getElem?_getD, List.getElem?_eq_getElem inside]
        simp only [reorder, List.getElem_map]
        rw [List.getD_eq_getElem?_getD, List.getElem?_map, List.getElem?_range moved]
        rfl
    · intro k g increasing
      rw [ok, rankAverage_ok (kept k g) rows (scaled k g)]
      exact congrArg Except.ok (List.map_congr_left fun i small =>
        averageAt_modify aligned increasing (List.mem_range.mp small))
    · intro average same i j left right preferred
      cases ok.symm.trans same
      rw [List.getD_eq_getElem?_getD, List.getElem?_map, List.getElem?_range right,
        List.getD_eq_getElem?_getD, List.getElem?_map, List.getElem?_range left]
      exact averageAt_lt filled aligned left right preferred

end Laws

end Ranks

theorem rank_average_laws_ties : ∃ average : List ℚ,
    rankAverage [[1 / 2, 1 / 4, 1 / 2], [3, 1, 2]] = .ok average ∧ average.length = 3 ∧
      ∀ x ∈ average, 0 ≤ x ∧ x ≤ 1 := by
  obtain ⟨returns, bounded, -⟩ := rank_average_laws (R := ℚ) [[1 / 2, 1 / 4, 1 / 2], [3, 1, 2]] 3
    (List.cons_ne_nil _ _) (by decide)
  obtain ⟨average, ok⟩ := returns (by decide)
  exact ⟨average, ok, bounded average ok⟩

end TacoRank.Evaluation
