import TacoRank.Evaluation.RankAverage
import TacoRank.Evaluation.Metrics
import TacoRank.Lib.TieLoop

/-!
# Tie groups

Four functions of the evaluation rank values with the same two nested loops over a sorted list: `auc`,
`_average_ranks`, `_normalized_average_ranks` and `positive_rank_diagnostics`. Here the loops have their
indices. Each is one pass over the rows, in which every row is treated once, and all of them give a row its
average rank (`tie_loops_rank`).
-/

namespace TacoRank.Evaluation.Indexed
open Lib Lib.Result

/-- `RankDiagnostic`. -/
structure RankDiagnostic (R : Type) where
  name : String
  positiveRows : Nat
  meanNormalizedRank : R

/-- The rows of one user in `positive_rank_diagnostics`. -/
structure UserRow (R : Type) where
  index : Nat
  score : R
  label : Int
  bucket : String

section Loops
variable {R : Type} [Field R] [LinearOrder R]

/-- `(index + end) / 2.0`. -/
def middle (index last : Nat) : R := ((index : R) + (last : R)) / (2 : Nat)

/-- The tie groups of the sorted pairs of `auc`. -/
def aucRanks (pairs : List (R × Int)) : List R :=
  Ranking.tieLoop (fun row first => row.1 = first.1) pairs
    (Ranking.eachTied (fun index last => middle index last + 1) List.set) 0 (List.replicate pairs.length 0)

/-- `auc`. -/
def auc (labels : List Int) (scores : List R) : Except EvaluationError R := do
  ensure (labels.length = scores.length)
    (.valueError "labels and scores must have the same length")
  let normalizedLabels ← normalizeBinaryLabels labels "AUC labels"
  let pairs := sortedPairs (scores.zip normalizedLabels)
  let ranks := aucRanks pairs
  let positives := (pairs.map Prod.snd).sum
  let negatives := (pairs.length : Int) - positives
  if positives = 0 ∨ negatives = 0 then return 1 / (2 : Nat)
  else
    let positiveRankSum := (((ranks.zip pairs).filter fun row => row.2.2 = 1).map Prod.fst).sum
    return (positiveRankSum - (positives : R) * (positives + 1) / (2 : Nat)) / (positives * negatives)

/-- The values with their places, by increasing value; the sort is stable. -/
def indexed (values : List R) : List (R × Nat) := values.zipIdx.insertionSort fun a b => a.1 ≤ b.1

/-- `ranks[indexed[position][0]] = average`. -/
def place (indexed : List (R × Nat)) (ranks : List R) (position : Nat) (average : R) : List R :=
  indexed[position]?.elim ranks fun item => ranks.set item.2 average

/-- The tie groups of `_average_ranks` and of `_normalized_average_ranks`. -/
def placedRanks (average : Nat → Nat → R) (values : List R) : List R :=
  Ranking.tieLoop (fun item first => item.1 = first.1) (indexed values)
    (Ranking.eachTied average (place (indexed values))) 0 (List.replicate values.length 0)

/-- `_average_ranks`. -/
def averageRanks (values : List R) : List R := placedRanks (fun index last => middle index last + 1) values

/-- `_normalized_average_ranks`. -/
def normalizedAverageRanks (values : List R) : List R :=
  let denominator : Nat := max 1 (values.length - 1)
  (placedRanks middle values).map fun rank => rank / denominator

/-- The rows of a user by decreasing score; the sort is stable. -/
def descending (rows : List (UserRow R)) : List (UserRow R) := rows.insertionSort fun a b => -a.score ≤ -b.score

/-- The normalized rank of a tie group among `size` rows. -/
def normalized (size : Nat) (index last : Nat) : R :=
  if size = 1 then 1 else 1 - middle index last / (size - 1 : Nat)

/-- `by_bucket[bucket].append(normalized)` for a row with a positive label. -/
def record (descending : List (UserRow R)) (byBucket : Dict String (List R)) (position : Nat) (normalized : R) :
    Dict String (List R) :=
  descending[position]?.elim byBucket fun row =>
    if row.label = 1 then Grouping.insert byBucket (row.bucket, normalized) else byBucket

/-- The tie groups of one user in `positive_rank_diagnostics`. -/
def userRanks (byBucket : Dict String (List R)) (rows : List (UserRow R)) : Dict String (List R) :=
  Ranking.tieLoop (fun row first => row.score = first.score) (descending rows)
    (Ranking.eachTied (normalized rows.length) (record (descending rows))) 0 byBucket

/-- `positive_rank_diagnostics`. -/
def positiveRankDiagnostics (userIds : List String) (labels : List Int) (scores : List R)
    (bucketValues : List String) : Except EvaluationError (List (RankDiagnostic R)) := do
  ensure ((userIds.length = labels.length ∧ labels.length = scores.length ∧
      scores.length = bucketValues.length) ∧ scores ≠ [])
    (.valueError "rank diagnostic inputs must align and be non-empty")
  let normalizedLabels ← normalizeBinaryLabels labels "labels"
  let rows := (userIds.zip (normalizedLabels.zip (scores.zip bucketValues))).zipIdx.map
    fun ((userId, label, score, bucket), index) => (userId, { index, score, label, bucket : UserRow R })
  let byBucket := (Grouping.group rows).values.foldl userRanks .empty
  return byBucket.entries.map fun (name, values) =>
    { name, positiveRows := values.length, meanNormalizedRank := values.sum / values.length }

/-! ### Average ranks -/

/-- The average rank of a value: the smaller values, and the middle of the tied ones. -/
def rankAmong (values : List R) (x : R) : R :=
  values.countP (· < x) + ((values.countP (· = x) : R) + 1) / (2 : Nat)

/-- Every row once, in order, with its rank. -/
def onePass {α σ : Type} (write : σ → Nat → R → σ) (rank : α → R) (rows : List α) (state : σ) : σ :=
  rows.zipIdx.foldl (fun state row => write state row.2 (rank row.1)) state

section Pass
variable {α σ : Type} (key : α → R) {average : Nat → Nat → R} {write : σ → Nat → R → σ} {rank : α → R}
  {rows : List α}

omit [Field R] in
/-- A tie loop over sorted rows is one pass. -/
lemma tieLoop_onePass (sorted : rows.Pairwise fun a b => key a ≤ key b)
    (ranked : ∀ row ∈ rows, average (Ranking.lower key rows row)
      (Ranking.lower key rows row + Ranking.level key rows row - 1) = rank row) (state : σ) :
    Ranking.tieLoop (fun row first => key row = key first) rows (Ranking.eachTied average write) 0 state =
      onePass write rank rows state := by
  rw [Ranking.tieLoop_pass key average write sorted, onePass]
  refine List.foldl_ext _ _ _ fun state row listed => ?_
  have mem : row.1 ∈ rows := List.fst_mem_of_mem_zipIdx listed
  rw [Ranking.treat, Nat.zero_add, ranked row.1 mem]

omit [Field R] in
/-- A row is on its own level. -/
lemma level_pos {row : α} (mem : row ∈ rows) : 0 < Ranking.level key rows row :=
  List.countP_pos_iff.mpr ⟨row, mem, decide_eq_true rfl⟩

omit [LinearOrder R] in
/-- The middle of a tie group. -/
lemma middle_eq [CharZero R] {low level : Nat} (filled : 0 < level) :
    middle (R := R) low (low + level - 1) = low + ((level : R) + 1) / (2 : Nat) - 1 := by
  have last : ((low + level - 1 : Nat) : R) + 1 = low + level := by
    rw [← Nat.cast_add_one, Nat.sub_add_cancel (by omega)]
    push_cast
    rfl
  have two : (2 : R) ≠ 0 := two_ne_zero
  rw [middle]
  push_cast
  field_simp
  linear_combination last

/-- The middle of the tie group of a row, from the values of all rows. -/
lemma middle_rank [CharZero R] {values : List R} (same : (rows.map key).Perm values) {row : α} (mem : row ∈ rows) :
    middle (Ranking.lower key rows row) (Ranking.lower key rows row + Ranking.level key rows row - 1) =
      rankAmong values (key row) - 1 := by
  rw [middle_eq (level_pos _ mem), rankAmong, ← same.countP_eq, ← same.countP_eq, List.countP_map, List.countP_map]
  rfl

end Pass

/-! ### Writing the ranks -/

omit [Field R] [LinearOrder R] in
lemma foldl_set_zipIdx {α : Type} (f : α → R) (rows : List α) (before : List R) {ranks : List R}
    (length : ranks.length = rows.length) :
    (rows.zipIdx before.length).foldl (fun ranks row => ranks.set row.2 (f row.1)) (before ++ ranks) =
      before ++ rows.map f := by
  induction rows generalizing before ranks with
  | nil =>
    rw [List.length_nil, List.length_eq_zero_iff] at length
    rw [length]
    rfl
  | cons row rows ih =>
    obtain ⟨rank, ranks, rfl⟩ := List.exists_cons_of_length_eq_add_one length
    have shorter : ranks.length = rows.length := Nat.succ.inj length
    have next := ih (before ++ [f row]) shorter
    rw [List.length_append, List.append_assoc, List.append_assoc] at next
    rw [List.zipIdx_cons, List.foldl_cons, List.set_append_right _ _ le_rfl, Nat.sub_self, List.set_cons_zero]
    exact next

omit [Field R] [LinearOrder R] in
/-- What is set is not set again at another place. -/
lemma getElem?_setEach_other {f : R × Nat → R} {items : List (R × Nat)} {ranks : List R} {i : Nat}
    (absent : i ∉ items.map Prod.snd) :
    (items.foldl (fun ranks item => ranks.set item.2 (f item)) ranks)[i]? = ranks[i]? := by
  induction items generalizing ranks with
  | nil => rfl
  | cons item items ih =>
    obtain ⟨here, later⟩ := not_or.mp fun either => absent (List.mem_cons.mpr either)
    rw [List.foldl_cons, ih later, List.getElem?_set_ne (Ne.symm here)]

omit [Field R] [LinearOrder R] in
lemma getElem?_setEach {f : R × Nat → R} {items : List (R × Nat)} (distinct : (items.map Prod.snd).Nodup)
    {ranks : List R} {x : R} {i : Nat} (mem : (x, i) ∈ items) (small : i < ranks.length) :
    (items.foldl (fun ranks item => ranks.set item.2 (f item)) ranks)[i]? = some (f (x, i)) := by
  induction items generalizing ranks with
  | nil => cases mem
  | cons item items ih =>
    obtain ⟨fresh, distinct'⟩ := List.nodup_cons.mp distinct
    rw [List.foldl_cons]
    rcases List.mem_cons.mp mem with rfl | later
    · rw [getElem?_setEach_other fresh, List.getElem?_set_self small]
    · exact ih distinct' later (by rwa [List.length_set])

omit [Field R] in
lemma indexed_perm (values : List R) : (indexed values).Perm values.zipIdx := List.perm_insertionSort _ _

omit [Field R] in
lemma indexed_sorted (values : List R) : (indexed values).Pairwise fun a b => a.1 ≤ b.1 := by
  have total : Std.Total fun a b : R × Nat => a.1 ≤ b.1 := ⟨fun a b => le_total _ _⟩
  have trans : IsTrans (R × Nat) fun a b => a.1 ≤ b.1 := ⟨fun a b c => le_trans⟩
  exact List.pairwise_insertionSort _ _

/-- The ranks of a pass reach the places of their values. -/
lemma onePass_place (f : R → R) (values : List R) :
    onePass (place (indexed values)) (fun item => f item.1) (indexed values) (List.replicate values.length 0) =
      values.map f := by
  have placed : onePass (place (indexed values)) (fun item => f item.1) (indexed values)
      (List.replicate values.length 0) =
      (indexed values).foldl (fun ranks item => ranks.set item.2 (f item.1)) (List.replicate values.length 0) := by
    conv_rhs => rw [← List.zipIdx_map_fst 0 (indexed values), List.foldl_map]
    refine List.foldl_ext _ _ _ fun ranks row listed => ?_
    rw [place, List.mem_zipIdx_iff_getElem?.mp listed]
    rfl
  have distinct : ((indexed values).map Prod.snd).Nodup := by
    rw [((indexed_perm values).map Prod.snd).nodup_iff, List.zipIdx_map_snd]
    exact List.nodup_range'
  rw [placed]
  apply List.ext_getElem?
  intro i
  by_cases small : i < values.length
  · have mem : (values[i], i) ∈ indexed values := by
      rw [(indexed_perm values).mem_iff, List.mem_zipIdx_iff_getElem?]
      exact List.getElem?_eq_getElem small
    rw [getElem?_setEach (f := fun item => f item.1) distinct mem (by rwa [List.length_replicate]), List.getElem?_map,
      List.getElem?_eq_getElem small]
    rfl
  · have outside := not_lt.mp small
    have absent : i ∉ (indexed values).map Prod.snd := by
      rw [((indexed_perm values).map Prod.snd).mem_iff, List.zipIdx_map_snd, List.mem_range'_1]
      omega
    rw [getElem?_setEach_other absent, List.getElem?_eq_none (by rwa [List.length_replicate]),
      List.getElem?_eq_none (by rwa [List.length_map])]

omit [LinearOrder R] in
/-- The pass that writes at the positions themselves. -/
lemma onePass_set {α : Type} (rank : α → R) (rows : List α) :
    onePass List.set rank rows (List.replicate rows.length 0) = rows.map rank :=
  foldl_set_zipIdx rank rows [] List.length_replicate

/-! ### The functions -/

section Ranks
variable [CharZero R]

lemma aucRanks_pass (rows : List (R × Int)) :
    let pairs := sortedPairs rows
    aucRanks pairs = onePass List.set (fun row => rankAmong (rows.map Prod.fst) row.1) pairs
      (List.replicate pairs.length 0) := by
  intro pairs
  refine tieLoop_onePass Prod.fst (sortedPairs_scores rows) (fun row mem => ?_) _
  rw [middle_rank _ ((sortedPairs_perm rows).map Prod.fst) mem]
  ring

lemma placedRanks_pass (average : Nat → Nat → R) (f : R → R) (values : List R)
    (shift : ∀ index last, average index last = f (middle index last + 1)) :
    placedRanks average values = onePass (place (indexed values)) (fun item => f (rankAmong values item.1))
      (indexed values) (List.replicate values.length 0) := by
  have same : ((indexed values).map Prod.fst).Perm values := by
    have perm := (indexed_perm values).map Prod.fst
    rwa [List.zipIdx_map_fst] at perm
  refine tieLoop_onePass Prod.fst (indexed_sorted values) (fun item mem => ?_) _
  rw [shift, middle_rank _ same mem, sub_add_cancel]

end Ranks

section Descending
variable [IsStrictOrderedRing R]

omit [Field R] [LinearOrder R] [IsStrictOrderedRing R] in
/-- The lower, the tied and the higher values are all values. -/
lemma lower_level_higher [LinearOrder R] (values : List R) (x : R) :
    values.countP (· < x) + values.countP (· = x) + values.countP (x < ·) = values.length := by
  induction values with
  | nil => rfl
  | cons y values ih =>
    rw [List.countP_cons, List.countP_cons, List.countP_cons, List.length_cons, ← ih]
    rcases lt_trichotomy y x with low | same | high
    · simp only [low, low.ne, low.not_gt, decide_true, decide_false, if_true, Bool.false_eq_true, if_false]
      omega
    · simp only [same, lt_irrefl, decide_true, decide_false, if_true, Bool.false_eq_true, if_false]
      omega
    · simp only [high, high.ne', high.not_gt, decide_true, decide_false, if_true, Bool.false_eq_true, if_false]
      omega

/-- From the top the middle of a tie group is the rank from the bottom. -/
lemma normalized_rank {rows : List (UserRow R)} {row : UserRow R} (mem : row ∈ rows) :
    let key : UserRow R → R := fun row => -row.score
    normalized rows.length (Ranking.lower key rows row)
        (Ranking.lower key rows row + Ranking.level key rows row - 1) =
      if rows.length = 1 then 1
      else (rankAmong (rows.map UserRow.score) row.score - 1) / (rows.length - 1 : Nat) := by
  intro key
  have higher : Ranking.lower key rows row = (rows.map UserRow.score).countP (row.score < ·) := by
    rw [List.countP_map]
    exact List.countP_congr fun other _ => by simp [key]
  have tied : Ranking.level key rows row = (rows.map UserRow.score).countP (· = row.score) := by
    rw [List.countP_map]
    exact List.countP_congr fun other _ => by simp [key]
  have total := lower_level_higher (rows.map UserRow.score) row.score
  rw [← higher, ← tied, List.length_map] at total
  have filled : 0 < rows.length := List.length_pos_of_mem mem
  rw [normalized]
  split
  · rfl
  next several =>
    have room : ((rows.length - 1 : Nat) : R) ≠ 0 := by
      rw [Nat.cast_ne_zero]
      omega
    have count : ((rows.length - 1 : Nat) : R) + 1 = (rows.map UserRow.score).countP (· < row.score) +
        Ranking.level key rows row + Ranking.lower key rows row := by
      rw [← Nat.cast_add_one, Nat.sub_add_cancel filled, ← total]
      push_cast
      rfl
    have two : (2 : R) ≠ 0 := two_ne_zero
    rw [middle_eq (level_pos _ mem), rankAmong, ← tied, one_sub_div room]
    congr 1
    push_cast
    field_simp
    linear_combination (2 : R) * count

lemma userRanks_pass (byBucket : Dict String (List R)) (rows : List (UserRow R)) :
    userRanks byBucket rows = onePass (record (descending rows))
      (fun row => if rows.length = 1 then 1
        else (rankAmong (rows.map UserRow.score) row.score - 1) / (rows.length - 1 : Nat))
      (descending rows) byBucket := by
  have perm : (descending rows).Perm rows := List.perm_insertionSort _ _
  have sorted : (descending rows).Pairwise fun a b => -a.score ≤ -b.score := by
    have total : Std.Total fun a b : UserRow R => -a.score ≤ -b.score := ⟨fun a b => le_total _ _⟩
    have trans : IsTrans (UserRow R) fun a b => -a.score ≤ -b.score := ⟨fun a b c => le_trans⟩
    exact List.pairwise_insertionSort _ _
  have ties : (fun row first : UserRow R => Decidable.decide (row.score = first.score)) =
      fun row first => Decidable.decide (-row.score = -first.score) := by
    funext row first
    simp only [neg_inj]
  rw [userRanks, ties]
  refine tieLoop_onePass (fun row : UserRow R => -row.score) sorted (fun row mem => ?_) _
  have ranked := normalized_rank mem
  rw [perm.length_eq] at ranked
  rw [ranked]
  simp only [rankAmong, (perm.map UserRow.score).countP_eq]

end Descending

/-! ### The loops over runs -/

section Runs
variable {items run : List (R × Nat)} {runs : List (List (R × Nat))}

omit [Field R] [LinearOrder R] in
/-- One tie group writes one rank to the places of its run. -/
lemma eachTied_place {pre rest : List (R × Nat)} (filled : run ≠ []) (average : Nat → Nat → R) (ranks : List R) :
    Ranking.eachTied average (place (pre ++ (run ++ rest))) ranks pre.length (pre.length + run.length - 1) =
      run.foldl (fun ranks item => ranks.set item.2 (average pre.length (pre.length + run.length - 1))) ranks := by
  have positive : 0 < run.length := List.length_pos_iff.mpr filled
  have size : pre.length + run.length - 1 + 1 - pre.length = run.length := by omega
  rw [Ranking.eachTied, size]
  generalize average pre.length (pre.length + run.length - 1) = rank
  rw [← List.zipIdx_map_snd pre.length run, List.foldl_map]
  conv_rhs => rw [← List.zipIdx_map_fst pre.length run, List.foldl_map]
  refine List.foldl_ext _ _ _ fun ranks row listed => ?_
  obtain ⟨low, high, value⟩ := List.mem_zipIdx listed
  have here : (pre ++ (run ++ rest))[row.2]? = some row.1 := by
    rw [List.getElem?_append_right low, List.getElem?_append_left (by omega), List.getElem?_eq_getElem, value]
  rw [place, here]
  rfl

omit [LinearOrder R] in
lemma runLoop_assignRanks (filled : [] ∉ runs) (pre : List (R × Nat)) (ranks : List R) :
    Ranking.runLoop (Ranking.eachTied (fun index last => middle index last + 1) (place (pre ++ runs.flatten)))
      pre.length ranks runs = assignRanks ranks pre.length runs := by
  induction runs generalizing pre ranks with
  | nil => rfl
  | cons run rest ih =>
    obtain ⟨nonempty, filled'⟩ := not_or.mp fun either => filled (List.mem_cons.mpr either)
    have next := ih filled' (pre ++ run)
    simp only [List.append_assoc, List.length_append] at next
    rw [Ranking.runLoop, List.flatten_cons, eachTied_place (Ne.symm nonempty), next]
    rfl

omit [LinearOrder R] in
lemma runLoop_assignAverages (filled : [] ∉ runs) (pre : List (R × Nat)) (ranks : List R) :
    Ranking.runLoop (Ranking.eachTied middle (place (pre ++ runs.flatten))) pre.length ranks runs =
      assignAverages ranks pre.length runs := by
  induction runs generalizing pre ranks with
  | nil => rfl
  | cons run rest ih =>
    obtain ⟨nonempty, filled'⟩ := not_or.mp fun either => filled (List.mem_cons.mpr either)
    have next := ih filled' (pre ++ run)
    simp only [List.append_assoc, List.length_append] at next
    rw [Ranking.runLoop, List.flatten_cons, eachTied_place (Ne.symm nonempty), next]
    rfl

/-- `_average_ranks` treats the runs of equal values. -/
theorem averageRanks_runs (values : List R) : averageRanks values = Evaluation.averageRanks values := by
  have looped := runLoop_assignRanks
    (List.nil_notMem_splitBy (fun a b => a.1 = b.1) (indexed values)) [] (List.replicate values.length 0)
  rw [List.flatten_splitBy] at looped
  exact (Ranking.tieLoop_eq (indexed_sorted values) _ _).trans looped

/-- `_normalized_average_ranks` treats the runs of equal values. -/
theorem normalizedAverageRanks_runs (values : List R) :
    normalizedAverageRanks values = Evaluation.normalizedAverageRanks values := by
  have looped := runLoop_assignAverages
    (List.nil_notMem_splitBy (fun a b => a.1 = b.1) (indexed values)) [] (List.replicate values.length 0)
  rw [List.flatten_splitBy] at looped
  have placed : placedRanks middle values = _ :=
    (Ranking.tieLoop_eq (indexed_sorted values) _ _).trans looped
  rw [normalizedAverageRanks, placed]
  rfl

/-- The ranks of the runs of the sorted pairs. -/
lemma tieRanks_eq [CharZero R] {runs : List (List (R × Int))} (tiers : Ranking.Tiers Prod.fst runs)
    (index : Nat) : tieRanks index runs = runs.flatten.map fun row =>
      (index : R) + Ranking.lower Prod.fst runs.flatten row +
        ((Ranking.level Prod.fst runs.flatten row : R) + 1) / (2 : Nat) := by
  induction runs generalizing index with
  | nil => rfl
  | cons run rest ih =>
    rw [tieRanks, ih tiers.tail, List.flatten_cons, List.map_append]
    congr 1
    · symm
      rw [List.eq_replicate_iff]
      refine ⟨List.length_map _, fun rank listed => ?_⟩
      obtain ⟨row, mem, rfl⟩ := List.mem_map.mp listed
      have filled : 0 < run.length := List.length_pos_of_mem mem
      have half : middle (R := R) index (index + run.length - 1) = _ := middle_eq filled
      rw [middle] at half
      rw [← List.flatten_cons, tiers.lower_head mem, tiers.level_head mem]
      rw [half]
      push_cast
      ring
    · refine List.map_congr_left fun row mem => ?_
      rw [← List.flatten_cons, tiers.lower_tail mem, tiers.level_tail mem]
      push_cast
      ring

/-- `auc` treats the runs of tied pairs. -/
theorem auc_runs [CharZero R] (labels : List Int) (scores : List R) : auc labels scores = Evaluation.auc labels scores := by
  have ranks (rows : List (R × Int)) : aucRanks (sortedPairs rows) =
      tieRanks 0 ((sortedPairs rows).splitBy fun a b => a.1 = b.1) := by
    rw [tieRanks_eq (Ranking.tiers_splitBy (sortedPairs_scores rows)), List.flatten_splitBy, aucRanks_pass, onePass_set]
    refine List.map_congr_left fun row mem => ?_
    rw [rankAmong, ← ((sortedPairs_perm rows).map Prod.fst).countP_eq,
      ← ((sortedPairs_perm rows).map Prod.fst).countP_eq, List.countP_map, List.countP_map, Nat.cast_zero, zero_add]
    rfl
  unfold auc Evaluation.auc
  simp only [ranks]

end Runs

/-- The four pairs of loops are passes over their rows in which every row is treated once, and a value gets the number
of the smaller values and the middle of the tied ones: as it is, from zero and over the largest one, or for the positive
rows of a user from zero and over the largest one, where a single row is at the top. -/
theorem tie_loops_rank [IsStrictOrderedRing R] :
    (∀ rows : List (R × Int),
      let pairs := sortedPairs rows
      let rank := fun row : R × Int => rankAmong (rows.map Prod.fst) row.1
      aucRanks pairs = onePass List.set rank pairs (List.replicate pairs.length 0) ∧
        aucRanks pairs = pairs.map rank) ∧
    (∀ values : List R,
      averageRanks values = onePass (place (indexed values)) (fun item => rankAmong values item.1) (indexed values)
          (List.replicate values.length 0) ∧
        averageRanks values = values.map (rankAmong values)) ∧
    (∀ values : List R,
      placedRanks middle values = onePass (place (indexed values)) (fun item => rankAmong values item.1 - 1)
          (indexed values) (List.replicate values.length 0) ∧
        normalizedAverageRanks values =
          values.map fun x => (rankAmong values x - 1) / (max 1 (values.length - 1) : Nat)) ∧
    ∀ (byBucket : Dict String (List R)) (rows : List (UserRow R)),
      userRanks byBucket rows = onePass (record (descending rows))
        (fun row => if rows.length = 1 then 1
          else (rankAmong (rows.map UserRow.score) row.score - 1) / (rows.length - 1 : Nat))
        (descending rows) byBucket := by
  refine ⟨fun rows => ?_, fun values => ?_, fun values => ?_, userRanks_pass⟩
  · exact ⟨aucRanks_pass rows, (aucRanks_pass rows).trans (onePass_set _ _)⟩
  · have pass := placedRanks_pass (fun index last => middle index last + 1) id values fun _ _ => rfl
    exact ⟨pass, pass.trans (onePass_place (rankAmong values) values)⟩
  · have pass := placedRanks_pass middle (· - 1) values fun _ _ => (add_sub_cancel_right _ _).symm
    refine ⟨pass, ?_⟩
    rw [normalizedAverageRanks, pass, onePass_place (fun x => rankAmong values x - 1) values, List.map_map]
    rfl

end Loops

theorem tie_loops_rank_ties : averageRanks ([3, 1, 3] : List ℚ) = [5 / 2, 1, 5 / 2] :=
  ((tie_loops_rank (R := ℚ)).2.1 [3, 1, 3]).2.trans (by decide +kernel)

end TacoRank.Evaluation.Indexed
