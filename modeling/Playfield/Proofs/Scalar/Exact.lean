import Mathlib
import Playfield.Scalar.Rational

/-!
# Exact Numbers

What the operations on scalars come to where nothing is rounded.

The operations on scalars are written for numbers that need not be comparable with themselves,
and out of the order alone. On the rationals they are the operations that go by the same names
elsewhere, and all that is known of those can be used.

## Theorems

* `Rational.natCast_eq`: The whole numbers.
* `Rational.least_eq_min`, `Rational.most_eq_max`: The smaller and the larger of two numbers.
* `Rational.abs_eq_abs`, `Rational.sign_eq_sign`: The size of a number and its side of zero.
* `Rational.abs_sign_le_one`, `Rational.sign_sign`: A side of zero as a number.
-/

namespace Playfield

namespace Rational

theorem natCast_eq (n : Nat) : (Scalar.ofNat n : Rat) = n := ofNat_eq n

theorem least_eq_min (x y : Rat) : Scalar.least x y = min x y := by
  rw [Scalar.least, if_pos (isNumber x), min_def]
  split
  · next hlt => exact (if_neg (not_le.2 hlt)).symm
  · next hle => exact (if_pos (not_lt.1 hle)).symm

theorem most_eq_max (x y : Rat) : Scalar.most x y = max x y := by
  rw [Scalar.most, if_pos (isNumber x), max_def]
  split
  · next hlt => exact (if_pos hlt.le).symm
  · next hle =>
    split
    · next hxy => exact le_antisymm hxy (not_lt.1 hle)
    · rfl

theorem abs_eq_abs (x : Rat) : Scalar.abs x = |x| := by
  change (if x < 0 then -x else x) = |x|
  split
  · next hneg => exact (abs_of_neg hneg).symm
  · next hnonneg => exact (abs_of_nonneg (not_lt.1 hnonneg)).symm

theorem sign_eq_sign (x : Rat) : Scalar.sign x = (SignType.sign x : Rat) := by
  simp only [Scalar.sign, isNumber, if_true, ofNat_eq, Nat.cast_zero, Nat.cast_one]
  obtain hneg | rfl | hpos := lt_trichotomy x 0
  · rw [if_neg hneg.not_gt, if_pos hneg, sign_neg hneg]
    rfl
  · simp
  · rw [if_pos hpos, sign_pos hpos]
    rfl

theorem abs_sign_le_one (x : Rat) : |(SignType.sign x : Rat)| ≤ 1 := by
  cases SignType.sign x <;> simp

theorem sign_sign (x : Rat) : SignType.sign (SignType.sign x : Rat) = SignType.sign x := by
  cases SignType.sign x <;> simp

end Rational

end Playfield
