import Playfield.Scalar.Basic

/-!
# Rationals

Exact numbers as scalars.

No program runs on these. They are the reading of a definition under which
nothing is rounded, so that a law of arithmetic can be stated of the definition
that runs on doubles. Square roots, angles and decimals are left open: what is
said about rationals is said for any choice of them.

## Theorems

* `Rational.same_iff`: Being the same is equality.
* `Rational.isNumber`: There are no non-numbers.
* `Rational.ofNat_eq`: The whole numbers among the scalars are the usual ones.
-/

namespace Playfield

instance : Scalar Rat where
  decidableLT := inferInstance
  decidableLE := inferInstance
  isFinite _ := true
  abs x := if x < 0 then -x else x
  round x := if x < 0 then -((-x + 1 / 2).floor : Rat) else ((x + 1 / 2).floor : Rat)

namespace Rational

theorem same_iff (x y : Rat) : Scalar.same x y = true ↔ x = y := by
  rw [Scalar.same, Bool.and_eq_true, decide_eq_true_eq, decide_eq_true_eq]
  exact ⟨fun h => Rat.le_antisymm h.1 h.2, fun h => h ▸ ⟨Rat.le_refl, Rat.le_refl⟩⟩

theorem isNumber (x : Rat) : Scalar.isNumber x = true := decide_eq_true Rat.le_refl

theorem ofNat_eq (n : Nat) : @OfNat.ofNat Rat n Scalar.instOfNat = (n : Rat) := by
  change Rat.ofScientific n false 0 = n
  rw [Rat.ofScientific_false_def, Nat.pow_zero, Nat.mul_one]

end Rational

end Playfield
