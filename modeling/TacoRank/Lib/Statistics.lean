import Mathlib.Algebra.BigOperators.Group.List.Basic
import Mathlib.Algebra.BigOperators.Fin
import Mathlib.Algebra.Order.BigOperators.Ring.Finset
import Mathlib.Algebra.Order.Chebyshev
import Mathlib.Algebra.Order.Field.Rat
import Mathlib.Data.Nat.Sqrt
import Mathlib.Analysis.Real.Sqrt

/-!
# Statistics

Mean, standard deviation and standard error of a sample over the numbers of an ordered field with a
square root. The root is a parameter, `HasSqrt`: the numbers of a program have a rounded one,
`binarySqrt`, and the reals the exact one.
-/

namespace Lib

/-- A square root. -/
class HasSqrt (R : Type) where
  sqrt : R → R

/-- A root is not negative. -/
class LawfulSqrt (R : Type) [Zero R] [LE R] [HasSqrt R] : Prop where
  sqrt_nonneg : ∀ x : R, 0 ≤ HasSqrt.sqrt x

/-- A root is exact. -/
class ExactSqrt (R : Type) [Mul R] [Zero R] [LE R] [HasSqrt R] : Prop extends LawfulSqrt R where
  sqrt_mul_self : ∀ x : R, 0 ≤ x → HasSqrt.sqrt x * HasSqrt.sqrt x = x

/-- The root of a floating-point number: 53 significant bits, rounded to nearest, ties to even. -/
def binarySqrt (x : ℚ) : ℚ :=
  if x ≤ 0 then 0
  else
    let scale := 55 + Nat.log2 x.den / 2
    let scaled := x * 4 ^ scale
    let root := Nat.sqrt scaled.floor.toNat
    let unit := 2 ^ (Nat.log2 root - 52)
    let below := root / unit
    let rest := 2 * (root % unit)
    let up := unit < rest ∨ rest = unit ∧ ((root : ℚ) ^ 2 ≠ scaled ∨ below % 2 = 1)
    (if up then below + 1 else below) * unit / 2 ^ scale

instance : HasSqrt ℚ := ⟨binarySqrt⟩

instance : LawfulSqrt ℚ where
  sqrt_nonneg x := by
    show 0 ≤ binarySqrt x
    unfold binarySqrt
    split_ifs
    · exact le_rfl
    · positivity

noncomputable instance : HasSqrt ℝ := ⟨Real.sqrt⟩

instance : ExactSqrt ℝ where
  sqrt_nonneg := Real.sqrt_nonneg
  sqrt_mul_self _ := Real.mul_self_sqrt

namespace Statistics
variable {R : Type} [Field R]

/-- The mean of a sample. -/
def mean (xs : List R) : R := xs.sum / xs.length

/-- The sum of the squared deviations from the mean. -/
def squares (xs : List R) : R := (xs.map fun x => (x - mean xs) ^ 2).sum

/-- The sum of the products of the deviations from the means. -/
def products (xs ys : List R) : R :=
  ((xs.zip ys).map fun p => (p.1 - mean xs) * (p.2 - mean ys)).sum

/-- The standard deviation of a sample of at least two. -/
def stdev [HasSqrt R] (xs : List R) : R := HasSqrt.sqrt (squares xs / (xs.length - 1))

/-- The correlation of two samples of one size that are not constant. -/
def correlation [HasSqrt R] (xs ys : List R) : R :=
  products xs ys / (HasSqrt.sqrt (squares xs) * HasSqrt.sqrt (squares ys))

variable [LinearOrder R] [IsStrictOrderedRing R]

lemma squares_nonneg (xs : List R) : 0 ≤ squares xs := by
  apply List.sum_nonneg
  intro x mem
  obtain ⟨y, _, rfl⟩ := List.mem_map.mp mem
  exact sq_nonneg _

/-- The inequality of Cauchy and Schwarz for the deviations of two samples. -/
lemma products_sq_le {xs ys : List R} (length : xs.length = ys.length) :
    products xs ys ^ 2 ≤ squares xs * squares ys := by
  have left : squares xs = ((xs.zip ys).map fun p => (p.1 - mean xs) ^ 2).sum := by
    have first : (xs.zip ys).map Prod.fst = xs := List.map_fst_zip (by omega)
    calc squares xs = (((xs.zip ys).map Prod.fst).map fun x => (x - mean xs) ^ 2).sum := by
          rw [first, squares]
      _ = _ := by
          rw [List.map_map]
          rfl
  have right : squares ys = ((xs.zip ys).map fun p => (p.2 - mean ys) ^ 2).sum := by
    have second : (xs.zip ys).map Prod.snd = ys := List.map_snd_zip (by omega)
    calc squares ys = (((xs.zip ys).map Prod.snd).map fun y => (y - mean ys) ^ 2).sum := by
          rw [second, squares]
      _ = _ := by
          rw [List.map_map]
          rfl
  rw [left, right, products, ← Fin.sum_univ_fun_getElem, ← Fin.sum_univ_fun_getElem,
    ← Fin.sum_univ_fun_getElem]
  exact Finset.sum_mul_sq_le_sq_mul_sq _ _ _

/-- The deviations from the mean cancel. -/
lemma sum_deviations {xs : List R} (nonempty : xs ≠ []) : (xs.map fun x => x - mean xs).sum = 0 := by
  have count : (xs.length : R) ≠ 0 := Nat.cast_ne_zero.mpr (List.length_pos_iff.mpr nonempty).ne'
  have split : ∀ (ys : List R) (c : R), (ys.map fun y => y - c).sum = ys.sum - ys.length * c := by
    intro ys c
    induction ys with
    | nil => simp
    | cons y ys ih =>
      simp only [List.map_cons, List.sum_cons, List.length_cons, ih]
      push_cast
      ring
  rw [split, mean, mul_div_cancel₀ _ count, sub_self]

/-- The square of a sum is at most its number of terms times the sum of their squares. -/
lemma sq_sum_le (xs : List R) : xs.sum ^ 2 ≤ xs.length * (xs.map fun x => x ^ 2).sum := by
  have bound := sq_sum_le_card_mul_sum_sq (s := Finset.univ) (f := fun i : Fin xs.length => xs[i])
  rw [Finset.card_univ, Fintype.card_fin] at bound
  have sum : ∑ i : Fin xs.length, xs[i] = xs.sum := Fin.sum_univ_getElem xs
  rw [← sum, ← Fin.sum_univ_fun_getElem]
  exact bound

/-- One element deviates from the mean by no more than the whole sample allows. -/
theorem deviation_sq_le {xs : List R} {x : R} (mem : x ∈ xs) :
    xs.length * (x - mean xs) ^ 2 ≤ (xs.length - 1) * squares xs := by
  obtain ⟨l, r, split⟩ := List.append_of_mem mem
  have balance := sum_deviations (List.ne_nil_of_mem mem)
  -- the deviation of `x` is made up by the other elements
  have others := sq_sum_le ((l ++ r).map fun y => y - mean xs)
  have apart : (x - mean xs) + ((l ++ r).map fun y => y - mean xs).sum = 0 := by
    calc (x - mean xs) + ((l ++ r).map fun y => y - mean xs).sum
        = ((l ++ x :: r).map fun y => y - mean xs).sum := by
          simp only [List.map_append, List.map_cons, List.sum_append, List.sum_cons]
          ring
      _ = 0 := by rw [← split, balance]
  have total : squares xs = (x - mean xs) ^ 2 +
      (((l ++ r).map fun y => y - mean xs).map fun d => d ^ 2).sum := by
    calc squares xs = ((l ++ x :: r).map fun y => (y - mean xs) ^ 2).sum := by rw [squares, ← split]
      _ = _ := by
          simp only [List.map_append, List.map_cons, List.sum_append, List.sum_cons, List.map_map,
            Function.comp_def]
          ring
  have count : (xs.length : R) = ((l ++ r).map fun y => y - mean xs).length + 1 := by
    rw [split]
    simp only [List.length_append, List.length_cons, List.length_map]
    push_cast
    ring
  rw [eq_neg_of_add_eq_zero_right apart, neg_sq] at others
  rw [count, total]
  linarith

/-- In a sample of two or three, no element lies more than two standard errors from the mean. -/
theorem abs_deviation_le [HasSqrt R] [ExactSqrt R] {xs : List R} {x : R} (mem : x ∈ xs)
    (two : 2 ≤ xs.length) (three : xs.length ≤ 3) :
    |x - mean xs| ≤ 2 * (stdev xs / HasSqrt.sqrt (xs.length : R)) := by
  have low : (2 : R) ≤ xs.length := by exact_mod_cast two
  have high : (xs.length : R) ≤ 3 := by exact_mod_cast three
  have positive : (0 : R) < xs.length := by linarith
  have freedom : (0 : R) < xs.length - 1 := by linarith
  have variance : stdev xs ^ 2 = squares xs / (xs.length - 1) := by
    rw [pow_two, stdev, ExactSqrt.sqrt_mul_self _ (div_nonneg (squares_nonneg xs) freedom.le)]
  have root : HasSqrt.sqrt (xs.length : R) ^ 2 = xs.length := by
    rw [pow_two, ExactSqrt.sqrt_mul_self _ positive.le]
  have margin : (2 * (stdev xs / HasSqrt.sqrt (xs.length : R))) ^ 2 =
      4 * squares xs / ((xs.length - 1) * xs.length) := by
    rw [mul_pow, div_pow, variance, root, div_div]
    ring
  have nonneg : 0 ≤ stdev xs / HasSqrt.sqrt (xs.length : R) :=
    div_nonneg (LawfulSqrt.sqrt_nonneg _) (LawfulSqrt.sqrt_nonneg _)
  apply abs_le_of_sq_le_sq
  · rw [margin, le_div_iff₀ (mul_pos freedom positive)]
    have spread : ((xs.length : R) - 1) ^ 2 ≤ 4 := by nlinarith
    calc (x - mean xs) ^ 2 * ((xs.length - 1) * xs.length)
        = (xs.length - 1) * (xs.length * (x - mean xs) ^ 2) := by ring
      _ ≤ (xs.length - 1) * ((xs.length - 1) * squares xs) :=
          mul_le_mul_of_nonneg_left (deviation_sq_le mem) freedom.le
      _ = ((xs.length : R) - 1) ^ 2 * squares xs := by ring
      _ ≤ 4 * squares xs := mul_le_mul_of_nonneg_right spread (squares_nonneg xs)
  · linarith

/-- A correlation lies between minus one and one. -/
theorem abs_correlation_le [HasSqrt R] [ExactSqrt R] {xs ys : List R}
    (length : xs.length = ys.length) (varied : HasSqrt.sqrt (squares xs) ≠ 0)
    (varied' : HasSqrt.sqrt (squares ys) ≠ 0) : |correlation xs ys| ≤ 1 := by
  have positive : 0 < HasSqrt.sqrt (squares xs) * HasSqrt.sqrt (squares ys) :=
    mul_pos (lt_of_le_of_ne (LawfulSqrt.sqrt_nonneg _) varied.symm)
      (lt_of_le_of_ne (LawfulSqrt.sqrt_nonneg _) varied'.symm)
  have square : (HasSqrt.sqrt (squares xs) * HasSqrt.sqrt (squares ys)) ^ 2 =
      squares xs * squares ys := by
    rw [mul_pow, pow_two, pow_two, ExactSqrt.sqrt_mul_self _ (squares_nonneg xs),
      ExactSqrt.sqrt_mul_self _ (squares_nonneg ys)]
  have bound : |products xs ys| ≤ HasSqrt.sqrt (squares xs) * HasSqrt.sqrt (squares ys) := by
    apply abs_le_of_sq_le_sq
    · rw [square]
      exact products_sq_le length
    · exact positive.le
  rw [correlation, abs_div, abs_of_pos positive]
  exact (div_le_one positive).mpr bound

end Statistics
end Lib
