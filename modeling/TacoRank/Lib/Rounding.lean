import Mathlib.Algebra.Order.Floor.Ring
import Mathlib.Algebra.Order.Archimedean.Basic
import Mathlib.Tactic.Linarith

/-!
# Rounding

The nearest integer, where of two the even one is taken. It is at most one half away
(`abs_roundHalfEven_sub`), and larger numbers do not have smaller roundings (`roundHalfEven_mono`).
-/

namespace Lib
variable {R : Type} [Field R] [LinearOrder R] [FloorRing R]

/-- The nearest integer, of two the even one. -/
def roundHalfEven (x : R) : Int :=
  if 1 / ((2 : Nat) : R) < Int.fract x ∨ Int.fract x = 1 / ((2 : Nat) : R) ∧ ⌊x⌋ % 2 = 1 then ⌊x⌋ + 1
  else ⌊x⌋

lemma roundHalfEven_mem (x : R) : ⌊x⌋ ≤ roundHalfEven x ∧ roundHalfEven x ≤ ⌊x⌋ + 1 := by
  unfold roundHalfEven
  split_ifs
  · omega
  · omega

variable [IsStrictOrderedRing R]

/-- The rounding is at most one half away. -/
theorem abs_roundHalfEven_sub (x : R) : |(roundHalfEven x : R) - x| ≤ 1 / 2 := by
  have parts : (⌊x⌋ : R) + Int.fract x = x := Int.floor_add_fract x
  have low := Int.fract_nonneg x
  have high := Int.fract_lt_one x
  unfold roundHalfEven
  rw [abs_le, Nat.cast_ofNat]
  split_ifs with up
  · have half : 1 / 2 ≤ Int.fract x := up.elim le_of_lt fun tie => tie.1.ge
    push_cast
    constructor
    · linarith
    · linarith
  · have half : Int.fract x ≤ 1 / 2 := not_lt.mp fun above => up (.inl above)
    constructor
    · linarith
    · linarith

/-- A larger number does not have a smaller rounding. -/
theorem roundHalfEven_mono {x y : R} (le : x ≤ y) : roundHalfEven x ≤ roundHalfEven y := by
  rcases (Int.floor_mono le).lt_or_eq with less | same
  · have first := (roundHalfEven_mem x).2
    have second := (roundHalfEven_mem y).1
    omega
  · have fract : Int.fract x ≤ Int.fract y := by
      rw [Int.fract, Int.fract, same]
      exact sub_le_sub_right le _
    have rises : (1 / ((2 : Nat) : R) < Int.fract x ∨ Int.fract x = 1 / ((2 : Nat) : R) ∧ ⌊x⌋ % 2 = 1) →
        1 / ((2 : Nat) : R) < Int.fract y ∨ Int.fract y = 1 / ((2 : Nat) : R) ∧ ⌊y⌋ % 2 = 1 := by
      rintro (above | ⟨tie, odd⟩)
      · exact .inl (above.trans_le fract)
      · rcases (tie.symm.le.trans fract).lt_or_eq with above | tie'
        · exact .inl above
        · exact .inr ⟨tie'.symm, same ▸ odd⟩
    unfold roundHalfEven
    split_ifs with up up'
    · omega
    · exact absurd (rises up) up'
    · omega
    · omega

end Lib
