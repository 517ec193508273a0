import TacoRank.Evaluation.Decisions
import TacoRank.Lib.Grouping
import TacoRank.Lib.Rounding
import Mathlib.Data.List.Sort
import Mathlib.Data.Prod.Lex

/-!
# Proxy populations

Port of `evaluation/proxy.py`: the validation rows are split by a hash of their user, and the internal
proxy keeps a number of rows of every user of a window. No user is divided by the split, and the proxy is a
subsequence of the window with as many rows of every user as the cap allows (`proxy_populations`). The hash
is a parameter.
-/

namespace TacoRank.Evaluation
open Lib Lib.Result

section Populations
variable (hashInt : List String → Nat)

/-! ### The split of the validation rows -/

/-- The state of the loop of `split_validation_indices`. -/
structure Arms where
  cache : Dict String Bool := .empty
  valA : List Nat := []
  valB : List Nat := []

/-- One row in the loop of `split_validation_indices`. -/
def assignRow (salt : String) (threshold : Int) (arms : Arms) (row : String × Nat) : Arms :=
  let cache := if arms.cache.get? row.1 = none then
      arms.cache.set row.1 (((hashInt [salt, row.1] % 10000 : Nat) : Int) < threshold)
    else arms.cache
  if cache.get? row.1 = some true then { arms with cache, valA := arms.valA ++ [row.2] }
  else { arms with cache, valB := arms.valB ++ [row.2] }

/-- The loop of `split_validation_indices` over the ids of the users. -/
def splitByThreshold (userIds : List String) (threshold : Int) (salt : String) : List Nat × List Nat :=
  let arms := userIds.zipIdx.foldl (assignRow hashInt salt threshold) {}
  (arms.valA, arms.valB)

/-- `split_validation_indices`. -/
def splitValidationIndices {R : Type} [Field R] [LinearOrder R] [FloorRing R] (userIds : List String)
    (valARatio : R) (salt : String := "ladder-2026") : Except EvaluationError (List Nat × List Nat) := do
  ensure (0 < valARatio ∧ valARatio < 1) (.valueError "val_a_ratio must be between zero and one")
  let threshold := roundHalfEven (valARatio * ((10000 : Nat) : R))
  return splitByThreshold hashInt userIds threshold salt

/-! ### The internal proxy -/

variable {α : Type} (date : α → Except EvaluationError Int) (user : α → Except EvaluationError String)

/-- One row in the first loop of `build_internal_proxy`; the user of a row outside of the window is not
read. -/
def groupRow (holdoutStart holdoutEnd : Int) (grouped : Dict String (List (Nat × α))) (row : α × Nat) :
    Except EvaluationError (Dict String (List (Nat × α))) :=
  (date row.1).bind fun day =>
    if holdoutStart ≤ day ∧ day ≤ holdoutEnd then
      (user row.1).map fun userId => Grouping.insert grouped (userId, (row.2, row.1))
    else .ok grouped

/-- The candidates of a user that are kept: those with the smallest hashes. -/
def capUser (cap : Nat) (salt : String) (userId : String) (candidates : List (Nat × α)) : List (Nat × α) :=
  let key (candidate : Nat × α) : Nat := hashInt [salt, userId, toString candidate.1]
  (candidates.insertionSort fun a b => toLex (key a, a.1) ≤ toLex (key b, b.1)).take cap

/-- `build_internal_proxy`, on rows of which `date` and `user` read the columns. -/
def buildInternalProxy (rows : List α) (holdoutStart holdoutEnd : Int) (impressionsPerUser : Int := 5)
    (salt : String := "internal-proxy-2026") : Except EvaluationError (List α) := do
  ensure (0 < impressionsPerUser) (.valueError "impressions_per_user must be positive")
  let grouped ← rows.zipIdx.foldlM (groupRow date user holdoutStart holdoutEnd) .empty
  let selected := grouped.entries.flatMap fun (userId, candidates) =>
    capUser hashInt impressionsPerUser.toNat salt userId candidates
  return (selected.insertionSort fun a b => a.1 ≤ b.1).map Prod.snd

end Populations

/-! ### No user is divided -/

section Split
variable {hashInt : List String → Nat} {salt : String} {threshold : Int} {userIds : List String}

/-- Two lists of indices that divide the rows by user. -/
structure DividesUsers (userIds : List String) (arms : List Nat × List Nat) : Prop where
  increasing : arms.1.Pairwise (· < ·) ∧ arms.2.Pairwise (· < ·)
  disjoint : ∀ i ∈ arms.1, i ∉ arms.2
  cover : ∀ i, i < userIds.length ↔ i ∈ arms.1 ∨ i ∈ arms.2
  whole : ∀ (i j : Nat) (userId : String), userIds[i]? = some userId → userIds[j]? = some userId →
    (i ∈ arms.1 ↔ j ∈ arms.1) ∧ (i ∈ arms.2 ↔ j ∈ arms.2)

/-- The arm of a user. -/
def armOf (hashInt : List String → Nat) (salt : String) (threshold : Int) (userId : String) : Bool :=
  ((hashInt [salt, userId] % 10000 : Nat) : Int) < threshold

/-- The cache holds the arms. -/
lemma assignRow_eq {arms : Arms} (row : String × Nat)
    (cached : ∀ userId b, arms.cache.get? userId = some b → b = armOf hashInt salt threshold userId) :
    (∀ userId b, (assignRow hashInt salt threshold arms row).cache.get? userId = some b →
        b = armOf hashInt salt threshold userId) ∧
      (assignRow hashInt salt threshold arms row).valA =
        arms.valA ++ (if armOf hashInt salt threshold row.1 = true then [row.2] else []) ∧
      (assignRow hashInt salt threshold arms row).valB =
        arms.valB ++ (if armOf hashInt salt threshold row.1 = true then [] else [row.2]) := by
  let cache := if arms.cache.get? row.1 = none then
      arms.cache.set row.1 (armOf hashInt salt threshold row.1) else arms.cache
  have held : ∀ userId b, cache.get? userId = some b → b = armOf hashInt salt threshold userId := by
    intro userId b
    by_cases absent : arms.cache.get? row.1 = none
    · simp only [cache, if_pos absent, Dict.get?_set]
      split_ifs with same
      · rintro ⟨⟩
        rw [same]
      · exact cached userId b
    · simp only [cache, if_neg absent]
      exact cached userId b
  have known : cache.get? row.1 = some (armOf hashInt salt threshold row.1) := by
    by_cases absent : arms.cache.get? row.1 = none
    · simp only [cache, if_pos absent, Dict.get?_set_self]
    · obtain ⟨b, found⟩ := Option.ne_none_iff_exists'.mp absent
      simp only [cache, if_neg absent]
      rw [found, cached _ _ found]
  have step : assignRow hashInt salt threshold arms row =
      if cache.get? row.1 = some true then { arms with cache := cache, valA := arms.valA ++ [row.2] }
      else { arms with cache := cache, valB := arms.valB ++ [row.2] } := rfl
  rw [step, known]
  cases arm : armOf hashInt salt threshold row.1 with
  | true => simpa using held
  | false => simpa using held

/-- The arms take the rows of their users. -/
lemma foldl_assignRow (rows : List (String × Nat)) (arms : Arms)
    (cached : ∀ userId b, arms.cache.get? userId = some b → b = armOf hashInt salt threshold userId) :
    (rows.foldl (assignRow hashInt salt threshold) arms).valA =
        arms.valA ++ (rows.filter fun row => armOf hashInt salt threshold row.1).map Prod.snd ∧
      (rows.foldl (assignRow hashInt salt threshold) arms).valB =
        arms.valB ++ (rows.filter fun row => !armOf hashInt salt threshold row.1).map Prod.snd := by
  induction rows generalizing arms with
  | nil => simp
  | cons row rows ih =>
    obtain ⟨cached', stepA, stepB⟩ := assignRow_eq row cached
    rw [List.foldl_cons, (ih _ cached').1, (ih _ cached').2, stepA, stepB]
    cases arm : armOf hashInt salt threshold row.1 <;> simp [arm]

lemma splitByThreshold_eq :
    splitByThreshold hashInt userIds threshold salt =
      ((userIds.zipIdx.filter fun row => armOf hashInt salt threshold row.1).map Prod.snd,
        (userIds.zipIdx.filter fun row => !armOf hashInt salt threshold row.1).map Prod.snd) := by
  have empty : ∀ userId b, ({} : Arms).cache.get? userId = some b → b = armOf hashInt salt threshold userId := by
    simp
  obtain ⟨first, second⟩ := foldl_assignRow userIds.zipIdx {} empty
  exact Prod.ext first second

/-- An index among the selected rows. -/
lemma mem_indices {p : String → Bool} {i : Nat} :
    i ∈ (userIds.zipIdx.filter fun row => p row.1).map Prod.snd ↔
      ∃ userId, userIds[i]? = some userId ∧ p userId = true := by
  simp [List.mem_zipIdx_iff_getElem?]

/-- A selection of the rows has increasing indices. -/
lemma indices_pairwise {p : String × Nat → Bool} :
    ((userIds.zipIdx.filter p).map Prod.snd).Pairwise (· < ·) := by
  have all : (userIds.zipIdx.map Prod.snd).Pairwise (· < ·) := by
    rw [List.zipIdx_map_snd, ← List.range_eq_range']
    exact List.pairwise_lt_range
  exact all.sublist (List.filter_sublist.map Prod.snd)

lemma splitByThreshold_divides : DividesUsers userIds (splitByThreshold hashInt userIds threshold salt) := by
  have memberA (i : Nat) : i ∈ (splitByThreshold hashInt userIds threshold salt).1 ↔
      ∃ userId, userIds[i]? = some userId ∧ armOf hashInt salt threshold userId = true := by
    rw [splitByThreshold_eq]
    exact mem_indices
  have memberB (i : Nat) : i ∈ (splitByThreshold hashInt userIds threshold salt).2 ↔
      ∃ userId, userIds[i]? = some userId ∧ (!armOf hashInt salt threshold userId) = true := by
    rw [splitByThreshold_eq]
    exact mem_indices (p := fun userId => !armOf hashInt salt threshold userId)
  refine ⟨?_, ?_, ?_, ?_⟩
  · rw [splitByThreshold_eq]
    exact ⟨indices_pairwise, indices_pairwise⟩
  · intro i first second
    obtain ⟨userId, at_, arm⟩ := (memberA i).mp first
    obtain ⟨userId', at', arm'⟩ := (memberB i).mp second
    rw [at_] at at'
    rw [← Option.some.inj at', arm] at arm'
    cases arm'
  · intro i
    rw [memberA, memberB]
    constructor
    · intro small
      cases arm : armOf hashInt salt threshold userIds[i] with
      | true => exact .inl ⟨_, List.getElem?_eq_getElem small, arm⟩
      | false => exact .inr ⟨_, List.getElem?_eq_getElem small, by simp [arm]⟩
    · rintro (⟨userId, at_, -⟩ | ⟨userId, at_, -⟩)
      · exact (List.getElem?_eq_some_iff.mp at_).1
      · exact (List.getElem?_eq_some_iff.mp at_).1
  · intro i j userId at_i at_j
    rw [memberA, memberA, memberB, memberB, at_i, at_j]
    exact ⟨Iff.rfl, Iff.rfl⟩

end Split

/-! ### The cap -/

section Cap
variable {hashInt : List String → Nat} {α : Type} {date : α → Except EvaluationError Int}
  {user : α → Except EvaluationError String} {holdoutStart holdoutEnd : Int} {cap : Nat} {salt : String}

/-- The row lies in the window. -/
def inWindow (date : α → Except EvaluationError Int) (holdoutStart holdoutEnd : Int) (row : α) : Bool :=
  match date row with
  | .ok day => holdoutStart ≤ day ∧ day ≤ holdoutEnd
  | .error _ => false

/-- The row is one of the user. -/
def ofUser (user : α → Except EvaluationError String) (userId : String) (row : α) : Bool :=
  match user row with
  | .ok found => found = userId
  | .error _ => false

/-- The rows of the window by user, with their indices. -/
lemma foldlM_groupRow {rows : List (α × Nat)} {start grouped : Dict String (List (Nat × α))}
    (h : rows.foldlM (groupRow date user holdoutStart holdoutEnd) start = .ok grouped) :
    ∃ pairs : List (String × (Nat × α)), grouped = pairs.foldl Grouping.insert start ∧
      pairs.map Prod.snd =
        (rows.filter fun row => inWindow date holdoutStart holdoutEnd row.1).map Prod.swap ∧
      ∀ p ∈ pairs, user p.2.2 = .ok p.1 := by
  induction rows generalizing start with
  | nil =>
    cases h
    exact ⟨[], rfl, rfl, by simp⟩
  | cons row rows ih =>
    obtain ⟨next, stepped, rest⟩ := bind_eq_ok.mp h
    obtain ⟨day, dated, placed⟩ := bind_eq_ok.mp stepped
    obtain ⟨pairs, rfl, listed, users⟩ := ih rest
    by_cases inside : holdoutStart ≤ day ∧ day ≤ holdoutEnd
    · rw [if_pos inside] at placed
      cases read : user row.1 with
      | error e =>
        rw [read] at placed
        cases placed
      | ok userId =>
        rw [read] at placed
        cases placed
        refine ⟨(userId, (row.2, row.1)) :: pairs, rfl, ?_, List.forall_mem_cons.mpr ⟨read, users⟩⟩
        rw [List.map_cons, listed, List.filter_cons_of_pos (by simp [inWindow, dated, inside])]
        rfl
    · rw [if_neg inside] at placed
      cases placed
      refine ⟨pairs, rfl, ?_, users⟩
      rw [listed, List.filter_cons_of_neg (by simp [inWindow, dated, inside])]

lemma capUser_subperm {userId : String} {candidates : List (Nat × α)} :
    (capUser hashInt cap salt userId candidates).Subperm candidates :=
  (List.take_sublist ..).subperm.trans (List.perm_insertionSort _ _).subperm

lemma length_capUser {userId : String} {candidates : List (Nat × α)} :
    (capUser hashInt cap salt userId candidates).length = min cap candidates.length := by
  rw [capUser, List.length_take, List.length_insertionSort]

/-- The proxy is a subsequence of the window with as many rows of every user as the cap allows. -/
structure CapsUsers (user : α → Except EvaluationError String) (cap : Nat) (window selected : List α) : Prop where
  subsequence : selected.Sublist window
  capped : ∀ userId, selected.countP (ofUser user userId) = min cap (window.countP (ofUser user userId))

lemma buildInternalProxy_caps {rows selected : List α} {impressionsPerUser : Int}
    (h : buildInternalProxy hashInt date user rows holdoutStart holdoutEnd impressionsPerUser salt =
      .ok selected) :
    CapsUsers user impressionsPerUser.toNat (rows.filter (inWindow date holdoutStart holdoutEnd)) selected := by
  rw [buildInternalProxy, check_bind_eq_ok, bind_eq_ok] at h
  obtain ⟨-, grouped, read, made⟩ := h
  obtain ⟨pairs, same, listed, users⟩ := foldlM_groupRow read
  have grouping : grouped = Grouping.group pairs := same
  subst grouping
  obtain rfl := pure_eq_ok.mp made
  let choose (userId : String) (candidates : List (Nat × α)) : List (Nat × α) :=
    capUser hashInt impressionsPerUser.toNat salt userId candidates
  let chosen := (Grouping.group pairs).entries.flatMap fun entry => choose entry.1 entry.2
  let sorted := chosen.insertionSort fun a b => a.1 ≤ b.1
  show CapsUsers _ _ _ (sorted.map Prod.snd)
  have perm : sorted.Perm chosen := List.perm_insertionSort _ _
  have chooses : ∀ userId candidates, (choose userId candidates).Subperm candidates := fun _ _ => capUser_subperm
  have within : sorted.Subperm (pairs.map Prod.snd) :=
    perm.subperm.trans (Grouping.flatMap_choose_subperm chooses)
  have rowsOf {p : α → Bool} : (rows.zipIdx.filter fun row => p row.1).map Prod.fst = rows.filter p := by
    conv_rhs => rw [← List.zipIdx_map_fst 0 rows, List.filter_map]
    rfl
  have window : (pairs.map Prod.snd).map Prod.snd = rows.filter (inWindow date holdoutStart holdoutEnd) := by
    rw [listed, List.map_map, ← rowsOf]
    rfl
  have ordered : (pairs.map Prod.snd).Pairwise fun a b => a.1 < b.1 := by
    rw [listed, List.pairwise_map]
    have all : (rows.zipIdx.map Prod.snd).Pairwise (· < ·) := by
      rw [List.zipIdx_map_snd, ← List.range_eq_range']
      exact List.pairwise_lt_range
    exact (List.pairwise_map.mp all).sublist List.filter_sublist
  constructor
  · -- the sorted choice is the sublist of the window that it permutes
    obtain ⟨kept, permuted, sub⟩ := within
    have increasing := ordered.sublist sub
    have total : Std.Total fun a b : Nat × α => a.1 ≤ b.1 := ⟨fun a b => le_total _ _⟩
    have trans : IsTrans (Nat × α) fun a b => a.1 ≤ b.1 := ⟨fun a b c => le_trans⟩
    have same : kept = sorted := by
      refine permuted.eq_of_pairwise (fun a b left right le ge => ?_) (increasing.imp fun less => less.le)
        (List.pairwise_insertionSort _ _)
      have distinct : (kept.map Prod.fst).Nodup := (List.pairwise_map.mpr increasing).imp fun less => less.ne
      exact List.inj_on_of_nodup_map distinct left (permuted.mem_iff.mpr right) (le_antisymm le ge)
    rw [← window, ← same]
    exact sub.map Prod.snd
  · intro userId
    have own : ∀ a ∈ Grouping.items pairs userId, ofUser user userId a.2 = true := by
      intro a mem
      obtain ⟨p, listed, rfl⟩ := List.mem_map.mp mem
      obtain ⟨held, key⟩ := List.mem_filter.mp listed
      simp [ofUser, users p held, of_decide_eq_true key]
    have others : ∀ j, j ≠ userId → ∀ a ∈ Grouping.items pairs j, ofUser user userId a.2 = false := by
      intro j differ a mem
      obtain ⟨p, listed, rfl⟩ := List.mem_map.mp mem
      obtain ⟨held, key⟩ := List.mem_filter.mp listed
      simp [ofUser, users p held, of_decide_eq_true key, differ]
    have counted := Grouping.countP_choose chooses own others
    have total : (Grouping.items pairs userId).length =
        (pairs.map Prod.snd).countP fun a => ofUser user userId a.2 := by
      rw [Grouping.items, List.length_map, ← List.countP_eq_length_filter, List.countP_map]
      apply List.countP_congr
      intro p mem
      simp [ofUser, users p mem]
    rw [List.countP_map, perm.countP_eq, ← window, List.countP_map]
    refine counted.trans ?_
    rw [length_capUser, total]
    rfl

/-- Rows that can be read are grouped. -/
lemma foldlM_groupRow_ok (rows : List (α × Nat)) (dated : ∀ row ∈ rows, ∃ day, date row.1 = .ok day)
    (users : ∀ row ∈ rows, inWindow date holdoutStart holdoutEnd row.1 = true → ∃ userId, user row.1 = .ok userId)
    (start : Dict String (List (Nat × α))) :
    ∃ grouped, rows.foldlM (groupRow date user holdoutStart holdoutEnd) start = .ok grouped := by
  induction rows generalizing start with
  | nil => exact ⟨start, rfl⟩
  | cons row rows ih =>
    obtain ⟨⟨day, known⟩, dated⟩ := List.forall_mem_cons.mp dated
    obtain ⟨first, users⟩ := List.forall_mem_cons.mp users
    have placed : ∃ next, groupRow date user holdoutStart holdoutEnd start row = .ok next := by
      have step : groupRow date user holdoutStart holdoutEnd start row =
          if holdoutStart ≤ day ∧ day ≤ holdoutEnd then
            (user row.1).map fun userId => Grouping.insert start (userId, (row.2, row.1))
          else .ok start := by
        rw [groupRow, known]
        rfl
      rw [step]
      by_cases inside : holdoutStart ≤ day ∧ day ≤ holdoutEnd
      · obtain ⟨userId, read⟩ := first (by simp [inWindow, known, inside])
        rw [if_pos inside, read]
        exact ⟨_, rfl⟩
      · rw [if_neg inside]
        exact ⟨_, rfl⟩
    obtain ⟨next, step⟩ := placed
    obtain ⟨grouped, rest⟩ := ih dated users next
    exact ⟨grouped, bind_eq_ok.mpr ⟨next, step, rest⟩⟩

/-- The proxy of rows that can be read exists. -/
lemma buildInternalProxy_ok {rows : List α} {impressionsPerUser : Int} (positive : 0 < impressionsPerUser)
    (dated : ∀ row ∈ rows, ∃ day, date row = .ok day)
    (users : ∀ row ∈ rows, inWindow date holdoutStart holdoutEnd row = true → ∃ userId, user row = .ok userId) :
    ∃ selected, buildInternalProxy hashInt date user rows holdoutStart holdoutEnd impressionsPerUser salt =
      .ok selected := by
  obtain ⟨grouped, read⟩ := foldlM_groupRow_ok rows.zipIdx
    (fun row mem => dated row.1 (List.fst_mem_of_mem_zipIdx mem))
    (fun row mem => users row.1 (List.fst_mem_of_mem_zipIdx mem)) .empty
  rw [buildInternalProxy]
  exact ⟨_, check_bind_eq_ok.mpr ⟨ensure_eq_ok.mpr positive, bind_eq_ok.mpr ⟨grouped, read, rfl⟩⟩⟩

end Cap

/-! ### Populations -/

/-- The split divides the rows by user, for every threshold of the hash, and the proxy takes as many rows of
every user as the cap allows. -/
theorem proxy_populations (hashInt : List String → Nat) (userIds : List String) (salt : String) :
    (∀ threshold, DividesUsers userIds (splitByThreshold hashInt userIds threshold salt)) ∧
    (∀ valARatio : ℚ, 0 < valARatio → valARatio < 1 →
      ∃ arms, splitValidationIndices hashInt userIds valARatio salt = .ok arms ∧ DividesUsers userIds arms) ∧
    ∀ {α : Type} (date : α → Except EvaluationError Int) (user : α → Except EvaluationError String)
      (rows : List α) (holdoutStart holdoutEnd impressionsPerUser : Int) (salt : String),
      0 < impressionsPerUser → (∀ row ∈ rows, ∃ day, date row = .ok day) →
      (∀ row ∈ rows, inWindow date holdoutStart holdoutEnd row = true → ∃ userId, user row = .ok userId) →
        ∃ selected,
          buildInternalProxy hashInt date user rows holdoutStart holdoutEnd impressionsPerUser salt =
            .ok selected ∧
          CapsUsers user impressionsPerUser.toNat (rows.filter (inWindow date holdoutStart holdoutEnd))
            selected := by
  refine ⟨fun _ => splitByThreshold_divides, fun valARatio low high => ?_,
    fun _ _ _ _ _ _ _ positive dated users => ?_⟩
  · rw [splitValidationIndices]
    exact ⟨_, check_bind_eq_ok.mpr ⟨ensure_eq_ok.mpr ⟨low, high⟩, rfl⟩, splitByThreshold_divides⟩
  · obtain ⟨selected, made⟩ := buildInternalProxy_ok positive dated users
    exact ⟨selected, made, buildInternalProxy_caps made⟩

end TacoRank.Evaluation
