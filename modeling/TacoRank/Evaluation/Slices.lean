import TacoRank.Evaluation.Metrics
import Mathlib.Algebra.Order.BigOperators.Group.List

/-!
# Slices and attribution

Port of the per-user metrics of `evaluation/slices.py`. Slices of users recombine to the metrics of all
rows (`slices_reconstruct`), and the delta of the primary metric is the sum of its contributions by user
(`delta_vector_sum`).
-/

namespace TacoRank.Evaluation
open Lib Lib.Result

/-- `UserMetric`. -/
structure UserMetric (R : Type) where
  userId : String
  impressions : Nat
  positives : Int
  auc : Option R
  ndcg : R

/-- `UserSlice`. -/
structure UserSlice (R : Type) where
  name : String
  users : Nat
  gaucPositiveWeight : Int
  gauc : R
  ndcg : R
  primary : R

/-- The errors of `delta_vector`. -/
inductive DeltaError where
  | evaluation (error : EvaluationError)
  | keyError (userId : String)
  | assertionError
deriving DecidableEq

section Users
variable {R : Type} [Field R] [LinearOrder R] (discount : Nat → R)

/-- The rows of one user in the loop of `user_metrics`. -/
def userMetric (k : Int) (userId : String) (rows : List (R × Int)) :
    Except EvaluationError (UserMetric R) := do
  let ranked := rankRows rows
  let labs := ranked.map Prod.snd
  let positives := labs.sum
  let userAuc ← rankedAuc ranked
  let ndcg ← ndcgAtK discount labs k
  return { userId, impressions := ranked.length, positives, auc := userAuc, ndcg }

/-- `user_metrics`. -/
def userMetrics (userIds : List String) (labels : List Int) (scores : List R) (k : Int) :
    Except EvaluationError (List (UserMetric R)) := do
  ensure (userIds.length = labels.length ∧ labels.length = scores.length ∧ scores ≠ [])
    (.valueError "user IDs, labels and scores must align and be non-empty")
  let normalizedLabels ← normalizeBinaryLabels labels "labels"
  let grouped := Grouping.group (userIds.zip (scores.zip normalizedLabels))
  grouped.entries.mapM fun (userId, rows) => userMetric discount k userId rows

/-- The positives of the users with an area. -/
def definedWeight (values : List (UserMetric R)) : Int :=
  (values.map fun value => value.auc.elim 0 fun _ => value.positives).sum

/-- The areas of the users that have one, by their positives. -/
def definedAuc (values : List (UserMetric R)) : R :=
  (values.map fun value => value.auc.elim 0 fun area => value.positives * area).sum

/-- One slice in the loop of `slice_users`. -/
def userSlice (name : String) (values : List (UserMetric R)) : UserSlice R :=
  let gaucWeight := definedWeight values
  let gauc := if gaucWeight = 0 then 1 / ((2 : Nat) : R) else definedAuc values / gaucWeight
  let ndcg := (values.map UserMetric.ndcg).sum / values.length
  { name, users := values.length, gaucPositiveWeight := gaucWeight, gauc, ndcg,
    primary := (gauc + ndcg) / (2 : Nat) }

/-- The values of `slice_users`, which have their names. -/
def sliceUsers (metrics : List (UserMetric R)) (bucket : UserMetric R → String) : List (UserSlice R) :=
  (Grouping.group (metrics.map fun metric => (bucket metric, metric))).entries.map fun (name, values) =>
    userSlice name values

/-- `impression_bucket`. -/
def impressionBucket (metric : UserMetric R) : String :=
  if metric.impressions ≤ 2 then "le2"
  else if metric.impressions ≤ 5 then "3_5"
  else if metric.impressions ≤ 12 then "6_12"
  else "gt12"

/-- `positive_bucket`. -/
def positiveBucket (metric : UserMetric R) : String :=
  if metric.positives = 0 then "zero"
  else if metric.positives = 1 then "one"
  else if metric.positives = 2 then "two"
  else "three_plus"

/-- `reconstruct_from_user_slices`: the metrics by their names. -/
def reconstructFromUserSlices (slices : List (UserSlice R)) : Except EvaluationError (List (String × R)) := do
  ensure (slices ≠ []) (.valueError "at least one slice is required")
  let users := (slices.map UserSlice.users).sum
  let gaucWeight := (slices.map UserSlice.gaucPositiveWeight).sum
  let gauc := if gaucWeight = 0 then 1 / ((2 : Nat) : R)
    else (slices.map fun value => value.gauc * (value.gaucPositiveWeight : R)).sum / gaucWeight
  let ndcg := (slices.map fun value => value.ndcg * (value.users : R)).sum / users
  return [("GAUC", gauc), ("nDCG@5", ndcg), ("primary", (gauc + ndcg) / (2 : Nat))]

/-- One user in the loop of `delta_vector`. -/
def deltaOf (parent : List (UserMetric R)) (totalUsers : Nat) (totalPositiveWeight : Int)
    (metric : UserMetric R) : Except DeltaError (String × R) := do
  -- the last of the metrics of a user counts
  let previous ← (parent.reverse.find? fun other => other.userId = metric.userId).elim
    (.error (.keyError metric.userId)) .ok
  let ndcgDelta := (metric.ndcg - previous.ndcg) / totalUsers
  match metric.auc with
  | some area =>
    if totalPositiveWeight = 0 then return (metric.userId, (0 + ndcgDelta) / (2 : Nat))
    else do
      let before ← previous.auc.elim (.error .assertionError) .ok
      return (metric.userId,
        (metric.positives * (area - before) / totalPositiveWeight + ndcgDelta) / (2 : Nat))
  | none => return (metric.userId, (0 + ndcgDelta) / (2 : Nat))

/-- `delta_vector`. -/
def deltaVector (userIds : List String) (labels : List Int) (candidateScores parentScores : List R)
    (k : Int) : Except DeltaError (List String × List R) := do
  let candidate ← (userMetrics discount userIds labels candidateScores k).mapError .evaluation
  let parent ← (userMetrics discount userIds labels parentScores k).mapError .evaluation
  let entries ← candidate.mapM (deltaOf parent candidate.length (definedWeight candidate))
  return (entries.map Prod.fst, entries.map Prod.snd)

end Users
/-! ### The evaluation, user by user -/

section Evaluation
set_option linter.unusedSectionVars false
variable {R : Type} [Field R] [LinearOrder R] {discount : Nat → R} {k : Int}
  {userIds : List String} {labels : List Int} {scores : List R} {metrics : List (UserMetric R)}

/-- The sums with one user more. -/
def Totals.add (totals : Totals R) (metric : UserMetric R) : Totals R where
  weightedAuc := metric.auc.elim totals.weightedAuc fun area => totals.weightedAuc + metric.positives * area
  positiveWeight := metric.auc.elim totals.positiveWeight fun _ => totals.positiveWeight + metric.positives
  ndcgValues := totals.ndcgValues ++ [metric.ndcg]

/-- Both loops do the same with the rows of a user. -/
lemma addUser_eq_ok {totals next : Totals R} {rows : List (R × Int)} (userId : String) :
    addUser discount k totals rows = .ok next ↔
      ∃ metric, userMetric discount k userId rows = .ok metric ∧ next = totals.add metric := by
  simp only [addUser, userMetric, bind_eq_ok, pure_eq_ok]
  constructor
  · rintro ⟨area, computed, ndcg, gained, rfl⟩
    exact ⟨_, ⟨area, computed, ndcg, gained, rfl⟩, rfl⟩
  · rintro ⟨metric, ⟨area, computed, ndcg, gained, rfl⟩, rfl⟩
    exact ⟨area, computed, ndcg, gained, rfl⟩

lemma foldlM_addUser {entries : List (String × List (R × Int))} {totals last : Totals R} :
    (entries.map Prod.snd).foldlM (addUser discount k) totals = .ok last ↔
      ∃ metrics, entries.mapM (fun entry => userMetric discount k entry.1 entry.2) = .ok metrics ∧
        last = metrics.foldl Totals.add totals := by
  induction entries generalizing totals with
  | nil =>
    simp only [List.map_nil, List.foldlM_nil, List.mapM_nil, pure_eq_ok]
    constructor
    · rintro rfl
      exact ⟨[], rfl, rfl⟩
    · rintro ⟨_, rfl, rfl⟩
      rfl
  | cons entry entries ih =>
    simp only [List.map_cons, List.foldlM_cons, List.mapM_cons, bind_eq_ok, addUser_eq_ok entry.1, ih,
      pure_eq_ok]
    constructor
    · rintro ⟨_, ⟨metric, first, rfl⟩, metrics, rest, rfl⟩
      exact ⟨metric :: metrics, ⟨metric, first, metrics, rest, rfl⟩, rfl⟩
    · rintro ⟨_, ⟨metric, first, metrics, rest, rfl⟩, rfl⟩
      exact ⟨_, ⟨metric, first, rfl⟩, metrics, rest, rfl⟩

/-- The sums are those over the metrics of the users. -/
lemma foldl_add {totals : Totals R} :
    metrics.foldl Totals.add totals =
      ⟨totals.weightedAuc + definedAuc metrics, totals.positiveWeight + (definedWeight metrics : R),
        totals.ndcgValues ++ metrics.map UserMetric.ndcg⟩ := by
  induction metrics generalizing totals with
  | nil => simp [definedAuc, definedWeight]
  | cons metric metrics ih =>
    rw [List.foldl_cons, ih]
    cases area : metric.auc with
    | none => simp [Totals.add, definedAuc, definedWeight, area]
    | some value => simp [Totals.add, definedAuc, definedWeight, area, add_assoc]

/-- GAUC of the metrics of the users. -/
def gaucOf (metrics : List (UserMetric R)) : R :=
  if (definedWeight metrics : R) = 0 then 1 / ((2 : Nat) : R) else definedAuc metrics / definedWeight metrics

/-- nDCG of the metrics of the users. -/
def ndcgOf (metrics : List (UserMetric R)) : R :=
  if metrics = [] then 0 else (metrics.map UserMetric.ndcg).sum / metrics.length

/-- The primary metric of the metrics of the users. -/
def primaryOf (metrics : List (UserMetric R)) : R := (gaucOf metrics + ndcgOf metrics) / (2 : Nat)

/-- What the evaluation returns of the metrics of the users. -/
def report (k : Int) (metrics : List (UserMetric R)) (rows : Nat) : List (String × R) :=
  [("GAUC", gaucOf metrics), ("nDCG@" ++ toString k, ndcgOf metrics), ("primary", primaryOf metrics),
    ("users", metrics.length), ("rows", rows)]

/-- What the metrics of the users are computed from. -/
lemma userMetrics_eq_ok :
    userMetrics discount userIds labels scores k = .ok metrics ↔
      (userIds.length = labels.length ∧ labels.length = scores.length ∧ scores ≠ []) ∧
        (∀ value ∈ labels, value = 0 ∨ value = 1) ∧
        (Grouping.group (userIds.zip (scores.zip labels))).entries.mapM
          (fun entry => userMetric discount k entry.1 entry.2) = .ok metrics := by
  rw [userMetrics, check_bind_eq_ok, ensure_eq_ok, normalizeBinaryLabels]
  simp only [bind_eq_ok, ensure_eq_ok, pure_eq_ok]
  constructor
  · rintro ⟨aligned, _, ⟨_, binary, rfl⟩, metrics⟩
    exact ⟨aligned, binary, metrics⟩
  · rintro ⟨aligned, binary, metrics⟩
    exact ⟨aligned, labels, ⟨(), binary, rfl⟩, metrics⟩

/-- The evaluation of all rows adds up the metrics of the users. -/
theorem evaluateIndependent_eq_ok {out : List (String × R)} :
    evaluateIndependent discount userIds labels scores k = .ok out ↔
      ∃ metrics, userMetrics discount userIds labels scores k = .ok metrics ∧
        out = report k metrics labels.length := by
  rw [evaluateIndependent, check_bind_eq_ok, validateEqualNonempty, check_bind_eq_ok, ensure_eq_ok,
    ensure_eq_ok, normalizeBinaryLabels]
  simp only [userMetrics_eq_ok, bind_eq_ok, ensure_eq_ok, pure_eq_ok, Dict.values, foldlM_addUser]
  constructor
  · rintro ⟨⟨aligned, filled⟩, _, ⟨_, binary, rfl⟩, _, ⟨metrics, computed, rfl⟩, rfl⟩
    refine ⟨metrics, ⟨⟨aligned.1, aligned.2, List.ne_nil_of_length_pos (Nat.pos_of_ne_zero filled)⟩, binary,
      computed⟩, ?_⟩
    have users := (mapM_eq_ok.mp computed).length_eq
    rw [foldl_add]
    simp [report, gaucOf, ndcgOf, primaryOf, users]
  · rintro ⟨metrics, ⟨aligned, binary, computed⟩, rfl⟩
    have users := (mapM_eq_ok.mp computed).length_eq
    have filled : scores.length ≠ 0 := fun empty => aligned.2.2 (List.length_eq_zero_iff.mp empty)
    refine ⟨⟨⟨aligned.1, aligned.2.1⟩, filled⟩, labels, ⟨(), binary, rfl⟩, _, ⟨metrics, computed, rfl⟩, ?_⟩
    rw [foldl_add]
    simp [report, gaucOf, ndcgOf, primaryOf, users]

/-- A user with an area has positive rows. -/
lemma userMetric_positive {userId : String} {rows : List (R × Int)} {metric : UserMetric R}
    (computed : userMetric discount k userId rows = .ok metric) (area : metric.auc.isSome = true) :
    0 < metric.positives := by
  simp only [userMetric, bind_eq_ok, pure_eq_ok] at computed
  obtain ⟨found, ranked, ndcg, -, rfl⟩ := computed
  unfold rankedAuc at ranked
  dsimp only at ranked
  split_ifs at ranked with both
  · exact both.1
  · cases ranked
    cases area

lemma userMetrics_positive (computed : userMetrics discount userIds labels scores k = .ok metrics) :
    ∀ metric ∈ metrics, metric.auc.isSome = true → 0 < metric.positives := by
  obtain ⟨-, -, traversed⟩ := userMetrics_eq_ok.mp computed
  exact forall_left_of_forall₂ (List.Forall₂.flip ((mapM_eq_ok.mp traversed).imp
    fun _ _ found => userMetric_positive found))

lemma userMetrics_ne_nil (computed : userMetrics discount userIds labels scores k = .ok metrics) :
    metrics ≠ [] := by
  obtain ⟨aligned, -, traversed⟩ := userMetrics_eq_ok.mp computed
  rintro rfl
  have none_left := (mapM_eq_ok.mp traversed).length_eq
  rw [List.length_nil, List.length_eq_zero_iff, Grouping.entries_group, List.map_eq_nil_iff] at none_left
  have rows : userIds.zip (scores.zip labels) = [] := by
    have absent : ∀ p ∈ userIds.zip (scores.zip labels), False := by
      intro p mem
      have key := Grouping.mem_keys.mpr (List.mem_map_of_mem (f := Prod.fst) mem)
      rw [none_left] at key
      cases key
    exact List.eq_nil_iff_forall_not_mem.mpr absent
  have short := congrArg List.length rows
  rw [List.length_zip, List.length_zip, aligned.1, aligned.2.1, Nat.min_self, Nat.min_self] at short
  exact aligned.2.2 (List.length_eq_zero_iff.mp short)

/-! ### Slices -/

/-- Without weight there are no areas. -/
lemma definedAuc_eq_zero (positive : ∀ metric ∈ metrics, metric.auc.isSome = true → 0 < metric.positives)
    (weightless : definedWeight metrics = 0) : definedAuc metrics = 0 := by
  have weights : ∀ w ∈ metrics.map (fun value => value.auc.elim 0 fun _ => value.positives), 0 ≤ w := by
    intro w mem
    obtain ⟨metric, listed, rfl⟩ := List.mem_map.mp mem
    cases area : metric.auc with
    | none => exact le_rfl
    | some _ => exact (positive metric listed (area ▸ rfl)).le
  have each : ∀ w ∈ metrics.map (fun value => value.auc.elim 0 fun _ => value.positives), w = 0 :=
    fun w => List.all_zero_of_le_zero_le_of_sum_eq_zero weights weightless
  apply List.sum_eq_zero
  intro x mem
  obtain ⟨metric, listed, rfl⟩ := List.mem_map.mp mem
  have zero := each _ (List.mem_map_of_mem listed)
  cases area : metric.auc with
  | none => rfl
  | some value =>
    rw [area] at zero
    exact absurd zero (positive metric listed (area ▸ rfl)).ne'

variable [IsStrictOrderedRing R]

/-- A slice gives back the weighted areas of its users. -/
lemma userSlice_gauc {name : String}
    (positive : ∀ metric ∈ metrics, metric.auc.isSome = true → 0 < metric.positives) :
    (userSlice name metrics).gauc * ((userSlice name metrics).gaucPositiveWeight : R) = definedAuc metrics := by
  show (if definedWeight metrics = 0 then _ else _) * (definedWeight metrics : R) = _
  split_ifs with weightless
  · rw [definedAuc_eq_zero positive weightless, weightless, Int.cast_zero, mul_zero]
  · exact div_mul_cancel₀ _ (Int.cast_ne_zero.mpr weightless)

/-- A slice gives back the gains of its users. -/
lemma userSlice_ndcg {name : String} (filled : metrics ≠ []) :
    (userSlice name metrics).ndcg * ((userSlice name metrics).users : R) =
      (metrics.map UserMetric.ndcg).sum := by
  have size : (metrics.length : R) ≠ 0 := by
    exact_mod_cast fun empty => filled (List.length_eq_zero_iff.mp empty)
  exact div_mul_cancel₀ _ size

/-- The slices of users with positive weights recombine to the metrics of all of them. -/
lemma reconstruct_sliceUsers (bucket : UserMetric R → String) (filled : metrics ≠ [])
    (positive : ∀ metric ∈ metrics, metric.auc.isSome = true → 0 < metric.positives) :
    reconstructFromUserSlices (sliceUsers metrics bucket) =
      .ok [("GAUC", gaucOf metrics), ("nDCG@5", ndcgOf metrics), ("primary", primaryOf metrics)] := by
  let pairs := metrics.map fun metric => (bucket metric, metric)
  have whole {M : Type} [AddCommMonoid M] (f : UserMetric R → M) :
      ((Grouping.group pairs).values.map fun values => (values.map f).sum).sum = (metrics.map f).sum := by
    rw [Grouping.sum_group, List.map_map]
    rfl
  have members : ∀ entry ∈ (Grouping.group pairs).entries, entry.2 ≠ [] ∧
      ∀ metric ∈ entry.2, metric ∈ metrics := by
    intro entry mem
    rw [Grouping.entries_group, List.mem_map] at mem
    obtain ⟨name, listed, rfl⟩ := mem
    refine ⟨Grouping.items_ne_nil listed, fun metric inside => ?_⟩
    obtain ⟨pair, chosen, rfl⟩ := List.mem_map.mp inside
    obtain ⟨original, held, rfl⟩ := List.mem_map.mp (List.mem_filter.mp chosen).1
    exact held
  have bySlice {M : Type} (f : UserSlice R → M) (g : List (UserMetric R) → M)
      (same : ∀ entry ∈ (Grouping.group pairs).entries, f (userSlice entry.1 entry.2) = g entry.2) :
      (sliceUsers metrics bucket).map f = (Grouping.group pairs).values.map g := by
    rw [sliceUsers, List.map_map, Dict.values, List.map_map]
    exact List.map_congr_left same
  have weights := bySlice UserSlice.gaucPositiveWeight definedWeight fun _ _ => rfl
  have counts := bySlice UserSlice.users (fun values => (values.map fun _ => 1).sum) fun entry _ => by
    simp [userSlice]
  have areas := bySlice (fun value => value.gauc * (value.gaucPositiveWeight : R)) definedAuc fun entry mem =>
    userSlice_gauc fun metric inside => positive metric ((members entry mem).2 metric inside)
  have gains := bySlice (fun value => value.ndcg * (value.users : R))
    (fun values => (values.map UserMetric.ndcg).sum) fun entry mem => userSlice_ndcg (members entry mem).1
  have weight : ((Grouping.group pairs).values.map definedWeight).sum = definedWeight metrics := whole _
  have area : ((Grouping.group pairs).values.map definedAuc).sum = definedAuc metrics := whole _
  have users : ((sliceUsers metrics bucket).map UserSlice.users).sum = metrics.length := by
    rw [counts, whole]
    simp
  have some_slices : sliceUsers metrics bucket ≠ [] := by
    intro empty
    rw [empty] at users
    exact filled (List.length_eq_zero_iff.mp users.symm)
  rw [reconstructFromUserSlices, check_bind_eq_ok, ensure_eq_ok, pure_eq_ok]
  refine ⟨some_slices, ?_⟩
  rw [users, weights, areas, gains, whole, weight, area]
  simp only [gaucOf, ndcgOf, primaryOf, Int.cast_eq_zero, if_neg filled]

/-- For every assignment of the users to slices, what the slices recombine to is the evaluation of all
rows. -/
theorem slices_reconstruct (bucket : UserMetric R → String) :
    (∀ metrics, userMetrics discount userIds labels scores k = .ok metrics →
      ∃ gauc ndcg primary users rows,
        evaluateIndependent discount userIds labels scores k =
          .ok [("GAUC", gauc), ("nDCG@" ++ toString k, ndcg), ("primary", primary), ("users", users),
            ("rows", rows)] ∧
        reconstructFromUserSlices (sliceUsers metrics bucket) =
          .ok [("GAUC", gauc), ("nDCG@5", ndcg), ("primary", primary)]) ∧
      ∀ out, evaluateIndependent discount userIds labels scores k = .ok out →
        ∃ metrics, userMetrics discount userIds labels scores k = .ok metrics := by
  constructor
  · intro metrics computed
    exact ⟨_, _, _, _, _, evaluateIndependent_eq_ok.mpr ⟨metrics, computed, rfl⟩,
      reconstruct_sliceUsers bucket (userMetrics_ne_nil computed) (userMetrics_positive computed)⟩
  · intro out evaluated
    obtain ⟨metrics, computed, -⟩ := evaluateIndependent_eq_ok.mp evaluated
    exact ⟨metrics, computed⟩

/-- A user with an area and one without. -/
theorem slices_reconstruct_two_users : ∃ metrics gauc ndcg primary users rows,
    evaluateIndependent (fun n => (n : ℚ) + 1) ["u", "v", "u"] [1, 0, 0] [3, 1, 4] 5 =
        .ok [("GAUC", gauc), ("nDCG@" ++ toString (5 : Int), ndcg), ("primary", primary), ("users", users),
          ("rows", rows)] ∧
      reconstructFromUserSlices (sliceUsers metrics positiveBucket) =
        .ok [("GAUC", gauc), ("nDCG@5", ndcg), ("primary", primary)] := by
  have run : (userMetrics (fun n => (n : ℚ) + 1) ["u", "v", "u"] [1, 0, 0] [3, 1, 4] 5).toOption.isSome = true := by
    decide +kernel
  cases computed : userMetrics (fun n => (n : ℚ) + 1) ["u", "v", "u"] [1, 0, 0] [3, 1, 4] 5 with
  | error e =>
    rw [computed] at run
    cases run
  | ok metrics =>
    obtain ⟨gauc, ndcg, primary, users, rows, equal⟩ := (slices_reconstruct positiveBucket).1 metrics computed
    exact ⟨metrics, gauc, ndcg, primary, users, rows, equal⟩

/-! ### Attribution -/

omit [IsStrictOrderedRing R] in
/-- What the labels of a user decide. -/
lemma userMetric_labels {userId : String} {rows : List (R × Int)} {metric : UserMetric R}
    (computed : userMetric discount k userId rows = .ok metric) :
    metric.userId = userId ∧ metric.positives = (rows.map Prod.snd).sum ∧
      (metric.auc.isSome = true ↔
        0 < (rows.map Prod.snd).sum ∧ (rows.map Prod.snd).sum < (rows.map Prod.snd).length) := by
  have perm : ((rankRows rows).map Prod.snd).Perm (rows.map Prod.snd) :=
    (List.perm_insertionSort _ rows).map Prod.snd
  simp only [userMetric, bind_eq_ok, pure_eq_ok] at computed
  obtain ⟨area, ranked, ndcg, -, rfl⟩ := computed
  refine ⟨rfl, perm.sum_eq, ?_⟩
  unfold rankedAuc at ranked
  dsimp only at ranked
  rw [perm.sum_eq, perm.length_eq] at ranked
  split_ifs at ranked with both
  · cases found : auc ((rankRows rows).map Prod.snd) ((rankRows rows).map Prod.fst) with
    | error e =>
      rw [found] at ranked
      cases ranked
    | ok value =>
      rw [found] at ranked
      cases ranked
      exact iff_of_true rfl both
  · cases ranked
    exact iff_of_false Bool.false_ne_true both

/-- The metrics of the users under two score vectors: the same users, positives and defined areas. -/
def SamePopulation (candidate parent : List (UserMetric R)) : Prop :=
  List.Forall₂ (fun c p => c.userId = p.userId ∧ c.positives = p.positives ∧ c.auc.isSome = p.auc.isSome)
    candidate parent

omit [IsStrictOrderedRing R] in
lemma userMetrics_samePopulation {candidateScores parentScores : List R}
    {candidate parent : List (UserMetric R)}
    (computed : userMetrics discount userIds labels candidateScores k = .ok candidate)
    (computed' : userMetrics discount userIds labels parentScores k = .ok parent) :
    SamePopulation candidate parent ∧ (parent.map UserMetric.userId).Nodup := by
  obtain ⟨aligned, -, traversed⟩ := userMetrics_eq_ok.mp computed
  obtain ⟨aligned', -, traversed'⟩ := userMetrics_eq_ok.mp computed'
  have users {scores : List R} (aligned : userIds.length = labels.length ∧ labels.length = scores.length ∧
      scores ≠ []) : (userIds.zip (scores.zip labels)).map (fun p => (p.1, p.2.2)) = userIds.zip labels := by
    have second : (scores.zip labels).map Prod.snd = labels := List.map_snd_zip aligned.2.1.le
    conv_rhs => rw [← second, List.zip_map_right]
    rfl
  have keys : Grouping.keys (userIds.zip (candidateScores.zip labels)) =
      Grouping.keys (userIds.zip (parentScores.zip labels)) := by
    apply Grouping.keys_congr
    rw [List.map_fst_zip (by simp [aligned.1, aligned.2.1]), List.map_fst_zip (by simp [aligned'.1, aligned'.2.1])]
  have rows (userId : String) : (Grouping.items (userIds.zip (candidateScores.zip labels)) userId).map Prod.snd =
      (Grouping.items (userIds.zip (parentScores.zip labels)) userId).map Prod.snd := by
    rw [← Grouping.items_map, ← Grouping.items_map, users aligned, users aligned']
  rw [mapM_eq_ok, Grouping.entries_group, List.forall₂_map_left_iff] at traversed traversed'
  rw [keys] at traversed
  have ids : (Grouping.keys (userIds.zip (parentScores.zip labels))) = parent.map UserMetric.userId := by
    have same := map_eq_map_of_forall₂ (f := id) (traversed'.imp fun _ _ found => (userMetric_labels found).1.symm)
    rwa [List.map_id] at same
  refine ⟨?_, ids ▸ Grouping.nodup_keys⟩
  have both := List.Forall₂.flip traversed
  refine forall₂_trans both traversed' fun c userId p found found' => ?_
  obtain ⟨user, positives, defined⟩ := userMetric_labels found
  obtain ⟨user', positives', defined'⟩ := userMetric_labels found'
  rw [rows userId] at positives defined
  exact ⟨user.trans user'.symm, positives.trans positives'.symm,
    Bool.eq_iff_iff.mpr (defined.trans defined'.symm)⟩

/-- The contribution of a user to the delta, by the number of users and the weight of the areas. -/
def contribution (users weight : R) (candidate parent : UserMetric R) : R :=
  (candidate.auc.elim 0 (fun area =>
      parent.auc.elim 0 fun before => candidate.positives * (area - before) / weight) +
    (candidate.ndcg - parent.ndcg) / users) / (2 : Nat)

omit [IsStrictOrderedRing R] in
/-- The loop body of `delta_vector` on a user of both evaluations. -/
lemma deltaOf_eq {parent : List (UserMetric R)} {users : Nat} {weight : Int} {c p : UserMetric R}
    (distinct : (parent.map UserMetric.userId).Nodup) (mem : p ∈ parent) (user : c.userId = p.userId)
    (defined : c.auc.isSome = p.auc.isSome) :
    deltaOf parent users weight c = .ok (c.userId, contribution users weight c p) := by
  have found : parent.reverse.find? (fun other => other.userId = c.userId) = some p := by
    obtain ⟨before, after, rfl⟩ := List.append_of_mem mem
    rw [List.find?_eq_some_iff_append]
    refine ⟨by simpa using user.symm, after.reverse, before.reverse, by simp, ?_⟩
    intro other listed
    rw [List.map_append, List.map_cons, List.nodup_append, List.nodup_cons] at distinct
    have differ : other.userId ≠ p.userId := fun same =>
      distinct.2.1.1 (same ▸ List.mem_map_of_mem (List.mem_reverse.mp listed))
    simpa [user] using differ
  rw [deltaOf, found, Option.elim_some, ok_bind]
  dsimp only
  cases area : c.auc with
  | none =>
    rw [contribution, area]
    rfl
  | some value =>
    rw [area] at defined
    obtain ⟨before, known⟩ := Option.isSome_iff_exists.mp defined.symm
    rw [contribution, area, known]
    dsimp only [Option.elim_some]
    by_cases weightless : weight = 0
    · rw [if_pos weightless, weightless, Int.cast_zero, div_zero]
      rfl
    · rw [if_neg weightless]
      rfl

omit [IsStrictOrderedRing R] in
/-- The contributions of aligned users add up to the differences of the sums. -/
lemma sum_contributions (users weight : R) {candidate parent : List (UserMetric R)} {deltas : List R}
    (population : SamePopulation candidate parent)
    (each : List.Forall₂ (fun pair delta => delta = contribution users weight pair.1 pair.2)
      (candidate.zip parent) deltas) :
    deltas.sum = ((definedAuc candidate - definedAuc parent) / weight +
      ((candidate.map UserMetric.ndcg).sum - (parent.map UserMetric.ndcg).sum) / users) / (2 : Nat) := by
  induction population generalizing deltas with
  | nil =>
    cases each
    simp [definedAuc]
  | @cons c p candidate parent aligned _ ih =>
    obtain ⟨-, positives, defined⟩ := aligned
    rw [List.zip_cons_cons] at each
    cases each with
    | cons first rest =>
      rw [List.sum_cons, ih rest, first]
      cases area : c.auc with
      | none =>
        rw [area] at defined
        have unknown : p.auc = none := Option.isNone_iff_eq_none.mp (by simpa using defined.symm)
        simp only [contribution, definedAuc, List.map_cons, List.sum_cons, area, unknown, Option.elim_none]
        ring
      | some value =>
        rw [area] at defined
        obtain ⟨before, known⟩ := Option.isSome_iff_exists.mp defined.symm
        simp only [contribution, definedAuc, List.map_cons, List.sum_cons, area, known, Option.elim_some,
          positives]
        ring

omit [IsStrictOrderedRing R] in
lemma SamePopulation.weight {candidate parent : List (UserMetric R)}
    (population : SamePopulation candidate parent) : definedWeight candidate = definedWeight parent := by
  refine congrArg List.sum (map_eq_map_of_forall₂ (population.imp fun c p aligned => ?_))
  obtain ⟨-, positives, defined⟩ := aligned
  cases area : c.auc with
  | none =>
    rw [area] at defined
    rw [Option.isNone_iff_eq_none.mp (by simpa using defined.symm : p.auc.isNone = true)]
    rfl
  | some value =>
    rw [area] at defined
    obtain ⟨before, known⟩ := Option.isSome_iff_exists.mp defined.symm
    rw [known]
    exact positives

omit [IsStrictOrderedRing R] in
/-- The loop of `delta_vector` over the users of both evaluations. -/
lemma mapM_deltaOf {users : Nat} {weight : Int} {candidate parent : List (UserMetric R)}
    (population : SamePopulation candidate parent) (distinct : (parent.map UserMetric.userId).Nodup) :
    candidate.mapM (deltaOf parent users weight) =
      .ok ((candidate.zip parent).map fun pair => (pair.1.userId, contribution users weight pair.1 pair.2)) := by
  have lengths := population.length_eq
  have traversed : ((candidate.zip parent).map Prod.fst).mapM (deltaOf parent users weight) =
      .ok ((candidate.zip parent).map fun pair =>
        (pair.1.userId, contribution users weight pair.1 pair.2)) := by
    apply mapM_map_ok
    rintro ⟨c, p⟩ mem
    have aligned := (List.forall₂_iff_zip.mp population).2 mem
    exact deltaOf_eq distinct (List.of_mem_zip mem).2 aligned.1 aligned.2.2
  rwa [List.map_fst_zip lengths.le] at traversed

omit [IsStrictOrderedRing R] in
/-- The components of the delta vector add up to the difference of the primary scores. -/
theorem delta_vector_sum {candidateScores parentScores : List R} :
    (∀ users deltas,
      deltaVector discount userIds labels candidateScores parentScores k = .ok (users, deltas) →
        ∃ gauc ndcg primary gauc' ndcg' primary' population,
          evaluateIndependent discount userIds labels candidateScores k =
            .ok ([("GAUC", gauc), ("nDCG@" ++ toString k, ndcg), ("primary", primary)] ++ population) ∧
          evaluateIndependent discount userIds labels parentScores k =
            .ok ([("GAUC", gauc'), ("nDCG@" ++ toString k, ndcg'), ("primary", primary')] ++ population) ∧
          users.length = deltas.length ∧ deltas.sum = primary - primary') ∧
      ∀ out out', evaluateIndependent discount userIds labels candidateScores k = .ok out →
        evaluateIndependent discount userIds labels parentScores k = .ok out' →
          ∃ users deltas,
            deltaVector discount userIds labels candidateScores parentScores k = .ok (users, deltas) := by
  have both {candidate parent : List (UserMetric R)}
      (computed : userMetrics discount userIds labels candidateScores k = .ok candidate)
      (computed' : userMetrics discount userIds labels parentScores k = .ok parent) :
      deltaVector discount userIds labels candidateScores parentScores k =
        .ok ((candidate.zip parent).map (fun pair => pair.1.userId),
          (candidate.zip parent).map fun pair =>
            contribution candidate.length (definedWeight candidate) pair.1 pair.2) := by
    obtain ⟨population, distinct⟩ := userMetrics_samePopulation computed computed'
    rw [deltaVector, computed, computed']
    simp only [Except.mapError, ok_bind]
    rw [mapM_deltaOf population distinct, ok_bind, List.map_map, List.map_map]
    rfl
  constructor
  · intro users deltas returned
    have parts := returned
    rw [deltaVector] at parts
    simp only [bind_eq_ok, mapError_ok] at parts
    obtain ⟨candidate, computed, parent, computed', -, -, -⟩ := parts
    obtain ⟨population, distinct⟩ := userMetrics_samePopulation computed computed'
    rw [both computed computed'] at returned
    obtain ⟨rfl, rfl⟩ := Prod.mk.inj (Except.ok.inj returned)
    have lengths := population.length_eq
    refine ⟨_, _, _, _, _, _, [("users", candidate.length), ("rows", labels.length)],
      evaluateIndependent_eq_ok.mpr ⟨candidate, computed, rfl⟩,
      evaluateIndependent_eq_ok.mpr ⟨parent, computed', by rw [report, lengths]; rfl⟩, by simp, ?_⟩
    have summed := sum_contributions (candidate.length : R) (definedWeight candidate) population
      (List.forall₂_map_right_iff.mpr (List.forall₂_same.mpr fun _ _ => rfl))
    rw [summed]
    have filled := userMetrics_ne_nil computed
    have filled' := userMetrics_ne_nil computed'
    simp only [primaryOf, gaucOf, ndcgOf, if_neg filled, if_neg filled', ← population.weight, ← lengths]
    by_cases weightless : (definedWeight candidate : R) = 0
    · rw [if_pos weightless, if_pos weightless, weightless, div_zero]
      ring
    · rw [if_neg weightless, if_neg weightless]
      ring
  · intro out out' evaluated evaluated'
    obtain ⟨candidate, computed, -⟩ := evaluateIndependent_eq_ok.mp evaluated
    obtain ⟨parent, computed', -⟩ := evaluateIndependent_eq_ok.mp evaluated'
    exact ⟨_, _, both computed computed'⟩

end Evaluation
end TacoRank.Evaluation
