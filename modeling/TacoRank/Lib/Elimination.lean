import Mathlib.Algebra.BigOperators.Field
import Mathlib.Algebra.Order.BigOperators.Group.Finset
import Mathlib.Algebra.Order.BigOperators.Ring.Finset
import Mathlib.Algebra.Order.Field.Basic
import Mathlib.LinearAlgebra.Matrix.NonsingularInverse
import Mathlib.Tactic.Linarith
import Mathlib.Tactic.FieldSimp

/-!
# Elimination

The columns of a square matrix next to the identity are cleared one after the other, with an exchange of rows
before each. When all are cleared, the right half is the inverse of the matrix (`Reduced.inverse`). For a
coercive matrix the column to be cleared has a large entry below the rows that are done (`Reduced.pivot`), so
that an absolute threshold for the pivot rejects none.
-/

namespace Lib.Elimination
open Finset
variable {R : Type} [Field R]

/-- The matrix with the identity to its right. -/
def augment (n : Nat) (A : Nat → Nat → R) (i j : Nat) : R :=
  if j < n then A i j else if j = n + i then 1 else 0

/-- Two rows exchanged. -/
def exchange (p k : Nat) (E : Nat → Nat → R) (i : Nat) : Nat → R := E (Equiv.swap k p i)

/-- The row of the pivot scaled, and its multiples taken from the others. -/
def clear (k : Nat) (E : Nat → Nat → R) (i j : Nat) : R :=
  if i = k then E k j / E k k else E i j - E i k * (E k j / E k k)

/-- A row applied to a vector. -/
def apply (n : Nat) (A : Nat → Nat → R) (v : Nat → R) (i : Nat) : R := ∑ j ∈ range n, A i j * v j

/-- Row operations have cleared the first columns: the right half takes the matrix to the left half, and a vector in the
kernel of the rows that are done has the same norm under both. -/
structure Reduced (n : Nat) (A E : Nat → Nat → R) (k : Nat) : Prop where
  unit : ∀ c < k, ∀ i < n, E i c = if i = c then 1 else 0
  image : ∀ i < n, ∀ j < n, ∑ c ∈ range n, E i (n + c) * A c j = E i j
  norm : ∀ v : Nat → R, (∀ c < k, apply n E v c = 0) →
    ∑ i ∈ range n, apply n A v i ^ 2 = ∑ i ∈ range n, apply n E v i ^ 2

variable {n k p : Nat} {A E E' : Nat → Nat → R}

/-- Nothing is cleared at first. -/
lemma Reduced.start : Reduced n A (augment n A) 0 := by
  have left {i j : Nat} (small : j < n) : augment n A i j = A i j := if_pos small
  have right {i c : Nat} : augment n A i (n + c) = if c = i then 1 else 0 := by
    rw [augment, if_neg (by omega)]
    simp only [Nat.add_left_cancel_iff]
  refine ⟨fun c small => absurd small (Nat.not_lt_zero c), fun i low j small => ?_, fun v _ => ?_⟩
  · rw [left small, sum_eq_single_of_mem i (mem_range.mpr low), right, if_pos rfl, one_mul]
    intro c _ differs
    rw [right, if_neg differs, zero_mul]
  · refine sum_congr rfl fun i _ => congrArg (· ^ 2) (sum_congr rfl fun j small => ?_)
    rw [left (mem_range.mp small)]

/-- Only the entries of the augmented matrix count. -/
lemma Reduced.congr (h : Reduced n A E k) (low : k ≤ n) (same : ∀ i < n, ∀ j < n + n, E' i j = E i j) :
    Reduced n A E' k := by
  have applied (v : Nat → R) {i : Nat} (small : i < n) : apply n E' v i = apply n E v i :=
    sum_congr rfl fun j listed => by
      rw [same i small j (by have := mem_range.mp listed; omega)]
  refine ⟨fun c small i inside => ?_, fun i inside j small => ?_, fun v zero => ?_⟩
  · rw [same i inside c (by omega), h.unit c small i inside]
  · rw [same i inside j (by omega), ← h.image i inside j small]
    refine sum_congr rfl fun c listed => ?_
    rw [same i inside (n + c) (by have := mem_range.mp listed; omega)]
  · rw [h.norm v fun c small => (applied v (small.trans_le low)).symm.trans (zero c small)]
    exact sum_congr rfl fun i listed => congrArg (· ^ 2) (applied v (mem_range.mp listed)).symm

/-- Rows that are not done may be exchanged. -/
lemma Reduced.exchange (h : Reduced n A E k) (low : k ≤ p) (high : p < n) :
    Reduced n A (exchange p k E) k := by
  have fixed {c : Nat} (small : c < k) : Equiv.swap k p c = c :=
    Equiv.swap_apply_of_ne_of_ne (by omega) (by omega)
  have inside {i : Nat} (small : i < n) : Equiv.swap k p i < n := by
    rcases eq_or_ne i k with rfl | other
    · rwa [Equiv.swap_apply_left]
    · rcases eq_or_ne i p with rfl | other'
      · rw [Equiv.swap_apply_right]
        omega
      · rwa [Equiv.swap_apply_of_ne_of_ne other other']
  refine ⟨fun c small i bound => ?_, fun i bound j small => h.image _ (inside bound) j small, fun v zero => ?_⟩
  · have moved : Equiv.swap k p i = c ↔ i = c := by
      conv_lhs => rw [← fixed small, (Equiv.swap k p).apply_eq_iff_eq]
    rw [Elimination.exchange, h.unit c small _ (inside bound)]
    simp only [moved]
  · have kernel : ∀ c < k, apply n E v c = 0 := fun c small => by
      have here := zero c small
      rwa [apply, Elimination.exchange, fixed small] at here
    rw [h.norm v kernel]
    refine (sum_equiv (Equiv.swap k p) (fun i => ?_) fun i _ => rfl).symm
    rw [mem_range, mem_range]
    refine ⟨inside, fun bound => ?_⟩
    have back := inside bound
    rwa [Equiv.swap_apply_self] at back

/-- One more column is cleared. -/
lemma Reduced.clear (h : Reduced n A E k) (low : k < n) (pivot : E k k ≠ 0) : Reduced n A (clear k E) (k + 1) := by
  have zero {c : Nat} (small : c < k) : E k c = 0 := by
    rw [h.unit c small k low, if_neg small.ne']
  have applied (v : Nat → R) (i : Nat) : apply n (Elimination.clear k E) v i =
      if i = k then apply n E v k / E k k else apply n E v i - E i k * (apply n E v k / E k k) := by
    unfold apply Elimination.clear
    split
    · rw [sum_div]
      exact sum_congr rfl fun j _ => by ring
    · rw [sum_div, mul_sum, ← sum_sub_distrib]
      exact sum_congr rfl fun j _ => by ring
  refine ⟨fun c small i inside => ?_, fun i inside j small => ?_, fun v kernel => ?_⟩
  · rcases Nat.lt_succ_iff_lt_or_eq.mp small with before | rfl
    · rw [Elimination.clear, zero before, zero_div, mul_zero, sub_zero, h.unit c before i inside]
      split
      next same => rw [if_neg (by omega)]
      next => rfl
    · rw [Elimination.clear, div_self pivot, mul_one, sub_self]
  · unfold Elimination.clear
    split
    · rw [← h.image k low j small, sum_div]
      exact sum_congr rfl fun c _ => by ring
    · rw [← h.image k low j small, ← h.image i inside j small, sum_div, mul_sum, ← sum_sub_distrib]
      exact sum_congr rfl fun c _ => by ring
  · have done : apply n E v k = 0 := by
      have last := kernel k (Nat.lt_succ_self k)
      rw [applied, if_pos rfl, div_eq_zero_iff] at last
      exact last.resolve_right pivot
    have same (i : Nat) : apply n (Elimination.clear k E) v i = apply n E v i := by
      rw [applied, done, zero_div, mul_zero, sub_zero]
      split
      next here => rw [here, done]
      next => rfl
    simp only [same]
    exact h.norm v fun c small => (same c).symm.trans (kernel c (Nat.lt_succ_of_lt small))

/-! ### Coercive matrices -/

section Ordered
variable [LinearOrder R] [IsStrictOrderedRing R]

/-- The quadratic form is at least the square of the norm. -/
def Coercive (n : Nat) (A : Nat → Nat → R) : Prop :=
  ∀ v : Nat → R, ∑ i ∈ range n, v i ^ 2 ≤ ∑ i ∈ range n, v i * apply n A v i

omit [LinearOrder R] [IsStrictOrderedRing R] in
/-- What the next column says about a vector that the rows that are done do not see. -/
lemma Reduced.column (h : Reduced n A E k) (low : k < n) :
    ∃ v : Nat → R, v k = 1 ∧ ∀ c < n, apply n E v c = if c < k then 0 else E c k := by
  refine ⟨fun j => if j = k then 1 else if j < k then - E j k else 0, if_pos rfl, fun c small => ?_⟩
  have term : ∀ j ∈ range n, E c j * (if j = k then 1 else if j < k then - E j k else 0) =
      (if j = k then E c k else 0) + if j = c then (if c < k then - E c k else 0) else 0 := by
    intro j listed
    rcases lt_trichotomy j k with before | rfl | behind
    · rw [if_neg before.ne, if_pos before, if_neg before.ne, zero_add, h.unit j before c small]
      rcases eq_or_ne c j with rfl | differs
      · rw [if_pos rfl, if_pos rfl, if_pos before, one_mul]
      · rw [if_neg differs, if_neg differs.symm, zero_mul]
    · rw [if_pos rfl, if_pos rfl, mul_one]
      rcases eq_or_ne j c with rfl | differs
      · rw [if_pos rfl, if_neg (lt_irrefl _), add_zero]
      · rw [if_neg differs, add_zero]
    · rw [if_neg behind.ne', if_neg behind.not_gt, if_neg behind.ne', mul_zero, zero_add]
      rcases eq_or_ne j c with rfl | differs
      · rw [if_pos rfl, if_neg behind.not_gt]
      · rw [if_neg differs]
  rw [apply, sum_congr rfl term, sum_add_distrib, sum_ite_eq', sum_ite_eq', if_pos (mem_range.mpr low),
    if_pos (mem_range.mpr small)]
  split
  · rw [add_neg_cancel]
  · rw [add_zero]

/-- A coercive matrix does not shrink a vector. -/
lemma Coercive.norm_le (coercive : Coercive n A) (v : Nat → R) :
    ∑ i ∈ range n, v i ^ 2 ≤ ∑ i ∈ range n, apply n A v i ^ 2 := by
  have length : 0 ≤ ∑ i ∈ range n, v i ^ 2 := sum_nonneg fun i _ => sq_nonneg _
  have form := coercive v
  have schwarz := sum_mul_sq_le_sq_mul_sq (range n) v (apply n A v)
  rcases length.eq_or_lt with zero | positive
  · rw [← zero]
    exact sum_nonneg fun i _ => sq_nonneg _
  · refine le_of_mul_le_mul_left (le_trans ?_ schwarz) positive
    rw [← sq]
    exact pow_le_pow_left₀ length form 2

/-- The next column has a large entry in a row that is not done. -/
theorem Reduced.pivot (h : Reduced n A E k) (coercive : Coercive n A) (low : k < n) :
    ∃ i, k ≤ i ∧ i < n ∧ 1 ≤ (n : R) * E i k ^ 2 := by
  obtain ⟨v, one, seen⟩ := h.column low
  have kernel : ∀ c < k, apply n E v c = 0 := fun c small => by
    rw [seen c (small.trans low), if_pos small]
  have long : 1 ≤ ∑ i ∈ range n, v i ^ 2 := by
    have single := single_le_sum (f := fun i => v i ^ 2) (fun i _ => sq_nonneg (v i)) (mem_range.mpr low)
    simpa only [one, one_pow] using single
  have total : 1 ≤ ∑ i ∈ Ico k n, E i k ^ 2 := by
    refine (long.trans (coercive.norm_le v)).trans ?_
    rw [h.norm v kernel, range_eq_Ico, ← sum_Ico_consecutive _ (Nat.zero_le k) low.le]
    have done : ∑ i ∈ Ico 0 k, apply n E v i ^ 2 = 0 :=
      sum_eq_zero fun i listed => by rw [kernel i (mem_Ico.mp listed).2, sq, zero_mul]
    rw [done, zero_add]
    refine (sum_congr rfl fun i listed => ?_).le
    rw [seen i (mem_Ico.mp listed).2, if_neg (mem_Ico.mp listed).1.not_gt]
  have filled : (Ico k n).Nonempty := nonempty_Ico.mpr low
  have sizes : ∑ _i ∈ Ico k n, (1 : R) ≤ ∑ i ∈ Ico k n, (n : R) * E i k ^ 2 := by
    rw [sum_const, Nat.card_Ico, nsmul_one, ← mul_sum]
    have count : ((n - k : Nat) : R) ≤ n := Nat.cast_le.mpr (Nat.sub_le n k)
    exact count.trans (le_mul_of_one_le_right (Nat.cast_nonneg n) total)
  obtain ⟨i, listed, large⟩ := exists_le_of_sum_le filled sizes
  exact ⟨i, (mem_Ico.mp listed).1, (mem_Ico.mp listed).2, large⟩

/-- An entry whose square is at least the inverse of the dimension is above the threshold. -/
lemma above_threshold {x ε : R} (large : 1 ≤ (n : R) * x ^ 2) (bound : (n : R) * ε ^ 2 < 1) :
    ε < |x| := by
  by_contra small
  have squares : x ^ 2 ≤ ε ^ 2 := by
    rw [← sq_abs]
    exact pow_le_pow_left₀ (abs_nonneg x) (not_lt.mp small) 2
  have scaled := mul_le_mul_of_nonneg_left squares (Nat.cast_nonneg (α := R) n)
  linarith

end Ordered

/-! ### The inverse -/

/-- The product of two matrices. -/
def product (n : Nat) (A B : Nat → Nat → R) (i j : Nat) : R := ∑ c ∈ range n, A i c * B c j

/-- The identity, up to the dimension. -/
def Identity (n : Nat) (A : Nat → Nat → R) : Prop := ∀ i < n, ∀ j < n, A i j = if i = j then 1 else 0

/-- One-sided inverses of square matrices are two-sided. -/
lemma Identity.comm {A B : Nat → Nat → R} (h : Identity n (product n B A)) : Identity n (product n A B) := by
  let left : Matrix (Fin n) (Fin n) R := .of fun i j => B i j
  let right : Matrix (Fin n) (Fin n) R := .of fun i j => A i j
  have entries (X Y : Nat → Nat → R) (i j : Fin n) :
      (Matrix.of (fun i j : Fin n => X i j) * Matrix.of (fun i j : Fin n => Y i j)) i j = product n X Y i j := by
    rw [Matrix.mul_apply, product, ← Fin.sum_univ_eq_sum_range (fun c => X i c * Y c j)]
    rfl
  have one : left * right = 1 := by
    ext i j
    rw [entries, h i i.isLt j j.isLt, Matrix.one_apply]
    simp only [Fin.ext_iff]
  have other := mul_eq_one_comm.mp one
  intro i low j small
  have here := congrFun (congrFun other ⟨i, low⟩) ⟨j, small⟩
  rw [entries, Matrix.one_apply] at here
  simpa only [Fin.ext_iff] using here

/-- When all columns are cleared the right half is the inverse. -/
theorem Reduced.inverse (h : Reduced n A E n) :
    Identity n (product n (fun i c => E i (n + c)) A) ∧ Identity n (product n A fun i c => E i (n + c)) := by
  have left : Identity n (product n (fun i c => E i (n + c)) A) := fun i low j small => by
    rw [product, h.image i low j small, h.unit j small i low]
  exact ⟨left, left.comm⟩

/-- The inverse of a coercive matrix is positive. -/
theorem Coercive.inverse_nonneg [LinearOrder R] [IsStrictOrderedRing R] {B : Nat → Nat → R} (coercive : Coercive n A)
    (h : Identity n (product n A B)) (x : Nat → R) : 0 ≤ ∑ i ∈ range n, x i * apply n B x i := by
  have back : ∀ i ∈ range n, apply n A (apply n B x) i = x i := by
    intro i listed
    have low := mem_range.mp listed
    have swapped : apply n A (apply n B x) i = ∑ j ∈ range n, product n A B i j * x j := by
      simp only [apply, product, mul_sum, sum_mul]
      rw [sum_comm]
      exact sum_congr rfl fun j _ => sum_congr rfl fun c _ => by ring
    rw [swapped, sum_eq_single_of_mem i listed, h i low i low, if_pos rfl, one_mul]
    intro j small differs
    rw [h i low j (mem_range.mp small), if_neg differs.symm, zero_mul]
  have form := coercive (apply n B x)
  have length : 0 ≤ ∑ i ∈ range n, apply n B x i ^ 2 := sum_nonneg fun i _ => sq_nonneg _
  refine length.trans (form.trans (sum_congr rfl fun i listed => ?_).le)
  rw [back i listed, mul_comm]

end Lib.Elimination
