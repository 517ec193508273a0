import TacoRank.Evaluation.PredictionChange
import TacoRank.Evaluation.Slices

/-!
# No-ops

With tolerance zero `within_user_rank_change` finds no change exactly when the rows of every user have the
same weak order under both score vectors, and then the two evaluations agree (`no_rank_change_iff`). The
evaluation breaks ties by the positions of the rows, which are those of the other vector.
-/

namespace TacoRank.Evaluation
open Lib Lib.Result

section Order
set_option linter.unusedSectionVars false
variable {R : Type} [Field R] [LinearOrder R]

/-- Both vectors order the rows of every user in the same way. -/
def SameOrder (userIds : List String) (scores parentScores : List R) : Prop :=
  ∀ (i j : Nat) (user : String) (a b x y : R), userIds[i]? = some user → userIds[j]? = some user →
    scores[i]? = some a → scores[j]? = some b → parentScores[i]? = some x → parentScores[j]? = some y →
      (a < b ↔ x < y)

/-- The same, on the pairs of scores of one user. -/
def Agree (rows : List (R × R)) : Prop := ∀ a ∈ rows, ∀ b ∈ rows, a.1 < b.1 ↔ a.2 < b.2

variable {userIds : List String} {scores parentScores : List R}

lemma zip_getElem? {i : Nat} {user : String} {a x : R} :
    (userIds.zip (scores.zip parentScores))[i]? = some (user, a, x) ↔
      userIds[i]? = some user ∧ scores[i]? = some a ∧ parentScores[i]? = some x := by
  simp only [List.getElem?_zip_eq_some]

lemma sameOrder_iff :
    SameOrder userIds scores parentScores ↔
      ∀ user, Agree (Grouping.items (userIds.zip (scores.zip parentScores)) user) := by
  have member {user : String} {a : R × R} :
      a ∈ Grouping.items (userIds.zip (scores.zip parentScores)) user ↔
        ∃ i : Nat, userIds[i]? = some user ∧ scores[i]? = some a.1 ∧ parentScores[i]? = some a.2 := by
    rw [Grouping.items, List.mem_map]
    constructor
    · rintro ⟨⟨_, x, y⟩, chosen, rfl⟩
      obtain ⟨listed, same⟩ := List.mem_filter.mp chosen
      obtain rfl := of_decide_eq_true same
      obtain ⟨i, held⟩ := List.mem_iff_getElem?.mp listed
      exact ⟨i, zip_getElem?.mp held⟩
    · rintro ⟨i, held⟩
      have listed := List.mem_iff_getElem?.mpr ⟨i, zip_getElem?.mpr held⟩
      exact ⟨(user, a), List.mem_filter.mpr ⟨listed, decide_eq_true rfl⟩, rfl⟩
  constructor
  · intro same user a left b right
    obtain ⟨i, user_i, score_i, parent_i⟩ := member.mp left
    obtain ⟨j, user_j, score_j, parent_j⟩ := member.mp right
    exact same i j user _ _ _ _ user_i user_j score_i score_j parent_i parent_j
  · intro agree i j user a b x y user_i user_j score_i score_j parent_i parent_j
    exact agree user (a, x) (member.mpr ⟨i, user_i, score_i, parent_i⟩) (b, y)
      (member.mpr ⟨j, user_j, score_j, parent_j⟩)

/-! ### The detector -/

lemma mem_pairs {α : Type} {P : α → α → Prop} {l : List α} :
    (∀ p ∈ pairs l, P p.1 p.2) ↔ l.Pairwise P := by
  induction l with
  | nil => simp [pairs]
  | cons x xs ih =>
    rw [pairs, List.pairwise_cons, ← ih]
    simp [or_imp, forall_and]

variable [IsStrictOrderedRing R]

lemma signOf_zero (a b : R) : signOf (a - b) 0 = if b < a then 1 else if a < b then -1 else 0 := by
  simp only [signOf, sub_pos, neg_zero, sub_neg]

/-- The signs agree when the order does. -/
lemma signs_agree (a b x y : R) :
    signOf (x - y) 0 = signOf (a - b) 0 ↔ (a < b ↔ x < y) ∧ (b < a ↔ y < x) := by
  rw [signOf_zero, signOf_zero]
  rcases lt_trichotomy x y with lower | same | higher
  · rcases lt_trichotomy a b with low | eq | high
    · simp [lower, low, lower.not_gt, low.not_gt]
    · simp [lower, eq, lower.not_gt]
    · simp [lower, high, lower.not_gt, high.not_gt]
  · rcases lt_trichotomy a b with low | eq | high
    · simp [same, low, low.not_gt]
    · simp [same, eq]
    · simp [same, high, high.not_gt]
  · rcases lt_trichotomy a b with low | eq | high
    · simp [higher, low, higher.not_gt, low.not_gt]
    · simp [higher, eq, higher.not_gt]
    · simp [higher, high, higher.not_gt, high.not_gt]

/-- No pair of rows changes its sign when the rows agree. -/
lemma agree_iff_pairs {rows : List (R × R)} :
    Agree rows ↔ ∀ p ∈ pairs rows, signOf (p.1.2 - p.2.2) 0 = signOf (p.1.1 - p.2.1) 0 := by
  rw [mem_pairs (P := fun a b : R × R => signOf (a.2 - b.2) 0 = signOf (a.1 - b.1) 0)]
  simp only [signs_agree]
  constructor
  · intro agree
    exact List.pairwise_of_forall_mem_list fun a left b right =>
      ⟨agree a left b right, agree b right a left⟩
  · intro pairwise a left b right
    have symmetric : Std.Symm fun a b : R × R => (a.1 < b.1 ↔ a.2 < b.2) ∧ (b.1 < a.1 ↔ b.2 < a.2) :=
      ⟨fun _ _ h => ⟨h.2, h.1⟩⟩
    by_cases same : a = b
    · rw [same]
      simp
    · exact (pairwise.forall left right same).1

/-- The detector reports no change. -/
def ReportsNoChange (change : Option R) : Prop := change = none ∨ change = some 0

/-- With tolerance zero the detector reports no change exactly when both orders are the same. -/
lemma withinUserRankChange_zero (lengths : scores.length = parentScores.length)
    (lengths' : parentScores.length = userIds.length) :
    ∃ change, withinUserRankChange scores parentScores userIds 0 = .ok change ∧
      (ReportsNoChange change ↔ SameOrder userIds scores parentScores) := by
  let rows := userIds.zip (scores.zip parentScores)
  let orders := (userIds.dedup.map fun user => (rows.filter fun row => row.1 = user).map Prod.snd).flatMap
    fun group => (pairs group).map fun p => (signOf (p.1.2 - p.2.2) 0, signOf (p.1.1 - p.2.1) 0)
  let comparable := orders.filter fun order => ¬ (order.1 = 0 ∧ order.2 = 0)
  have same : (∀ order ∈ orders, order.1 = order.2) ↔ SameOrder userIds scores parentScores := by
    rw [sameOrder_iff]
    constructor
    · intro equal user
      rw [agree_iff_pairs]
      intro p mem
      by_cases known : user ∈ userIds
      · apply equal (signOf (p.1.2 - p.2.2) 0, signOf (p.1.1 - p.2.1) 0)
        refine List.mem_flatMap.mpr ⟨Grouping.items rows user, ?_, List.mem_map_of_mem mem⟩
        exact List.mem_map_of_mem (List.mem_dedup.mpr known)
      · have none_left : Grouping.items rows user = [] := by
          apply Grouping.items_eq_nil
          rw [Grouping.mem_keys, List.map_fst_zip (by simp [lengths, lengths'])]
          exact known
        rw [none_left] at mem
        cases mem
    · intro agree order mem
      obtain ⟨group, listed, inside⟩ := List.mem_flatMap.mp mem
      obtain ⟨user, -, rfl⟩ := List.mem_map.mp listed
      obtain ⟨p, chosen, rfl⟩ := List.mem_map.mp inside
      exact agree_iff_pairs.mp (agree user) p chosen
  have equal : (∀ order ∈ orders, order.1 = order.2) ↔
      comparable.countP (fun order => order.1 ≠ order.2) = 0 := by
    rw [List.countP_eq_zero]
    constructor
    · intro all order mem
      simpa using all order (List.mem_filter.mp mem).1
    · intro none_changed order mem
      by_cases silent : order.1 = 0 ∧ order.2 = 0
      · exact silent.1.trans silent.2.symm
      · simpa using none_changed order (List.mem_filter.mpr ⟨mem, decide_eq_true silent⟩)
  refine ⟨if comparable = [] then none
    else some ((comparable.countP fun order => order.1 ≠ order.2 : R) / comparable.length), ?_, ?_⟩
  · rw [withinUserRankChange, if_pos ⟨lengths, lengths'⟩]
  · rw [← same, equal, ReportsNoChange]
    split_ifs with empty
    · rw [empty]
      simp
    · have size : (comparable.length : R) ≠ 0 := by
        exact_mod_cast fun zero => empty (List.length_eq_zero_iff.mp zero)
      simp [div_eq_zero_iff, size]

/-! ### The evaluation -/

omit [Field R] [IsStrictOrderedRing R] in
/-- Scores in the same order rank the rows in the same way. -/
lemma rankRows_agree {rows : List (R × R × Int)} (agree : Agree (rows.map fun row => (row.1, row.2.1))) :
    ∃ ranked : List (R × R × Int), (∀ row ∈ ranked, row ∈ rows) ∧
      rankRows (rows.map fun row => (row.1, row.2.2)) = ranked.map (fun row => (row.1, row.2.2)) ∧
      rankRows (rows.map fun row => (row.2.1, row.2.2)) = ranked.map fun row => (row.2.1, row.2.2) := by
  have order : ∀ a ∈ rows, ∀ b ∈ rows, b.1 ≤ a.1 ↔ b.2.1 ≤ a.2.1 := by
    intro a left b right
    rw [← not_lt, ← not_lt]
    exact not_congr (agree _ (List.mem_map_of_mem left) _ (List.mem_map_of_mem right))
  let byScore (a b : R × R × Int) : Prop := b.1 ≤ a.1
  let byLabel (a b : R × Int) : Prop := b.1 ≤ a.1
  refine ⟨rows.insertionSort byScore, fun row mem => (List.mem_insertionSort byScore).mp mem, ?_, ?_⟩
  · exact (List.map_insertionSort byScore byLabel _ rows fun _ _ _ _ => Iff.rfl).symm
  · exact (List.map_insertionSort byScore byLabel _ rows order).symm

/-- Scores in the same order have the same area. -/
lemma auc_agree {rows : List (R × R × Int)} (agree : Agree (rows.map fun row => (row.1, row.2.1)))
    (binary : ∀ row ∈ rows, row.2.2 = 0 ∨ row.2.2 = 1) :
    auc (rows.map fun row => row.2.2) (rows.map fun row => row.1) =
      auc (rows.map fun row => row.2.2) (rows.map fun row => row.2.1) := by
  have labels : ∀ label ∈ rows.map (fun row => row.2.2), label = 0 ∨ label = 1 := by
    intro label mem
    obtain ⟨row, listed, rfl⟩ := List.mem_map.mp mem
    exact binary row listed
  have order : ∀ a ∈ rows, ∀ b ∈ rows, a.1 < b.1 ↔ a.2.1 < b.2.1 := fun a left b right =>
    agree _ (List.mem_map_of_mem left) _ (List.mem_map_of_mem right)
  have members (p : R × R × Int → Bool) : ∀ a ∈ rows.filter p ++ rows.filter (fun row => !p row), a ∈ rows := by
    intro a mem
    rcases List.mem_append.mp mem with chosen | chosen
    · exact (List.mem_filter.mp chosen).1
    · exact (List.mem_filter.mp chosen).1
  rw [auc_eq (by simp) labels, auc_eq (by simp) labels, List.zip_map', List.zip_map']
  simp only [List.countP_map, Ranking.statistic, List.filter_map, Ranking.mannWhitney_map]
  let p (row : R × R × Int) : Bool := Positive (row.1, row.2.2)
  have same : Ranking.mannWhitney (R := R) (fun row : R × R × Int => row.1) (rows.filter p)
        (rows.filter fun row => !p row) =
      Ranking.mannWhitney (fun row => row.2.1) (rows.filter p) (rows.filter fun row => !p row) :=
    Ranking.mannWhitney_congr fun a left b right => order a (members p a left) b (members p b right)
  exact congrArg (fun statistic => Except.ok (ε := EvaluationError)
    (if rows.countP p = 0 ∨ rows.countP (fun row => !p row) = 0 then 1 / ((2 : Nat) : R)
      else statistic / ((rows.countP p : R) * (rows.countP (fun row => !p row) : R)))) same

/-- Both loops do the same with rows in the same order. -/
lemma addUser_agree {discount : Nat → R} {k : Int} {totals : Totals R} {rows : List (R × R × Int)}
    (agree : Agree (rows.map fun row => (row.1, row.2.1)))
    (binary : ∀ row ∈ rows, row.2.2 = 0 ∨ row.2.2 = 1) :
    addUser discount k totals (rows.map fun row => (row.1, row.2.2)) =
      addUser discount k totals (rows.map fun row => (row.2.1, row.2.2)) := by
  obtain ⟨ranked, members, first, second⟩ := rankRows_agree agree
  have agree' : Agree (ranked.map fun row => (row.1, row.2.1)) := by
    intro a left b right
    obtain ⟨row, mem, rfl⟩ := List.mem_map.mp left
    obtain ⟨row', mem', rfl⟩ := List.mem_map.mp right
    exact agree _ (List.mem_map_of_mem (members row mem)) _ (List.mem_map_of_mem (members row' mem'))
  have areas := auc_agree agree' fun row mem => binary row (members row mem)
  have labels : (ranked.map fun row => (row.1, row.2.2)).map Prod.snd = ranked.map fun row => row.2.2 := by
    rw [List.map_map]
    rfl
  have labels' : (ranked.map fun row => (row.2.1, row.2.2)).map Prod.snd = ranked.map fun row => row.2.2 := by
    rw [List.map_map]
    rfl
  have scores : (ranked.map fun row => (row.1, row.2.2)).map Prod.fst = ranked.map fun row => row.1 := by
    rw [List.map_map]
    rfl
  have scores' : (ranked.map fun row => (row.2.1, row.2.2)).map Prod.fst = ranked.map fun row => row.2.1 := by
    rw [List.map_map]
    rfl
  rw [addUser, addUser, first, second, rankedAuc, rankedAuc, labels, labels', scores, scores', areas]

/-- The rows of the users under two vectors that agree. -/
lemma groups_agree (discount : Nat → R) (k : Int) (totals : Totals R) {labels : List Int}
    (aligned : userIds.length = labels.length ∧ labels.length = parentScores.length)
    (lengths : scores.length = parentScores.length) (binary : ∀ value ∈ labels, value = 0 ∨ value = 1)
    (same : SameOrder userIds scores parentScores) :
    (Grouping.group (userIds.zip (scores.zip labels))).values.foldlM (addUser discount k) totals =
        (Grouping.group (userIds.zip (parentScores.zip labels))).values.foldlM (addUser discount k) totals ∧
      (Grouping.group (userIds.zip (scores.zip labels))).entries.length =
        (Grouping.group (userIds.zip (parentScores.zip labels))).entries.length := by
  let rows := userIds.zip (scores.zip (parentScores.zip labels))
  have candidate : userIds.zip (scores.zip labels) = rows.map fun p => (p.1, p.2.1, p.2.2.2) := by
    have second : (parentScores.zip labels).map Prod.snd = labels := List.map_snd_zip aligned.2.le
    conv_lhs => rw [← second, List.zip_map_right, List.zip_map_right]
    rfl
  have parent : userIds.zip (parentScores.zip labels) = rows.map fun p => (p.1, p.2.2.1, p.2.2.2) := by
    have second : (scores.zip (parentScores.zip labels)).map Prod.snd = parentScores.zip labels :=
      List.map_snd_zip (by simp [lengths, aligned.2])
    conv_lhs => rw [← second, List.zip_map_right]
    rfl
  have both : userIds.zip (scores.zip parentScores) = rows.map fun p => (p.1, p.2.1, p.2.2.1) := by
    have first : (parentScores.zip labels).map Prod.fst = parentScores := List.map_fst_zip aligned.2.ge
    conv_lhs => rw [← first, List.zip_map_right, List.zip_map_right]
    rfl
  have agree := sameOrder_iff.mp same
  simp only [both] at agree
  have keys (f : R × R × Int → R × Int) :
      Grouping.keys (rows.map fun p => (p.1, f p.2)) = Grouping.keys rows := by
    apply Grouping.keys_congr
    rw [List.map_map]
    rfl
  rw [candidate, parent, Grouping.values_group, Grouping.values_group, Grouping.entries_group,
    Grouping.entries_group, keys fun row => (row.1, row.2.2), keys fun row => (row.2.1, row.2.2)]
  rw [List.foldlM_map, List.foldlM_map]
  refine ⟨foldlM_congr fun totals user _ => ?_, by simp⟩
  rw [Grouping.items_map (f := fun row : R × R × Int => (row.1, row.2.2)),
    Grouping.items_map (f := fun row : R × R × Int => (row.2.1, row.2.2))]
  apply addUser_agree
  · rw [← Grouping.items_map (f := fun row : R × R × Int => (row.1, row.2.1))]
    exact agree user
  · intro row mem
    obtain ⟨p, chosen, rfl⟩ := List.mem_map.mp mem
    have label := (List.of_mem_zip (List.of_mem_zip (List.of_mem_zip (List.mem_filter.mp chosen).1).2).2).2
    exact binary _ label

/-- Vectors with the same orders have the same evaluation. -/
lemma evaluateIndependent_sameOrder {discount : Nat → R} {k : Int} {labels : List Int}
    (lengths : scores.length = parentScores.length) (same : SameOrder userIds scores parentScores) :
    evaluateIndependent discount userIds labels scores k =
      evaluateIndependent discount userIds labels parentScores k := by
  rw [evaluateIndependent, evaluateIndependent, lengths]
  by_cases aligned : userIds.length = labels.length ∧ labels.length = parentScores.length
  · by_cases binary : ∀ value ∈ labels, value = 0 ∨ value = 1
    · have normalized : normalizeBinaryLabels labels "labels" = .ok labels := by
        rw [normalizeBinaryLabels, check_bind_eq_ok, ensure_eq_ok]
        exact ⟨binary, rfl⟩
      obtain ⟨sums, users⟩ := groups_agree discount k ⟨0, 0, []⟩ aligned lengths binary same
      simp only [normalized, ok_bind, sums, users]
    · have refused : normalizeBinaryLabels labels "labels" =
          .error (.valueError ("labels" ++ " must be exact numeric binary values")) := by
        rw [normalizeBinaryLabels, ensure, if_neg binary]
        rfl
      rw [refused]
      rfl
  · have refused : validateEqualNonempty userIds.length labels.length parentScores.length =
        .error (.valueError "inputs must have equal lengths") := by
      rw [validateEqualNonempty, ensure, if_neg aligned]
      rfl
    rw [refused]
    rfl

/-- The detector reports no change exactly when the rows of every user have the same weak order, and then
the evaluations are equal for all labels and cutoffs. -/
theorem no_rank_change_iff (lengths : scores.length = parentScores.length)
    (lengths' : parentScores.length = userIds.length) :
    ∃ change, withinUserRankChange scores parentScores userIds 0 = .ok change ∧
      (ReportsNoChange change ↔ SameOrder userIds scores parentScores) ∧
      (ReportsNoChange change → ∀ (discount : Nat → R) (labels : List Int) (k : Int),
        evaluateIndependent discount userIds labels scores k =
          evaluateIndependent discount userIds labels parentScores k) := by
  obtain ⟨change, computed, same⟩ := withinUserRankChange_zero lengths lengths'
  exact ⟨change, computed, same, fun silent discount labels k =>
    evaluateIndependent_sameOrder lengths (same.mp silent)⟩

end Order

/-- Doubled scores are no change. -/
theorem no_rank_change_doubled : ∃ change,
    withinUserRankChange [1, 1, 3] [2, 2, 6] ["u", "u", "v"] (0 : ℚ) = .ok change ∧
      (ReportsNoChange change ↔ SameOrder ["u", "u", "v"] [1, 1, 3] ([2, 2, 6] : List ℚ)) ∧
      (ReportsNoChange change → ∀ (discount : Nat → ℚ) (labels : List Int) (k : Int),
        evaluateIndependent discount ["u", "u", "v"] labels [1, 1, 3] k =
          evaluateIndependent discount ["u", "u", "v"] labels [2, 2, 6] k) :=
  no_rank_change_iff rfl rfl

end TacoRank.Evaluation
