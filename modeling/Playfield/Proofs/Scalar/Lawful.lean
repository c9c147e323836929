import Mathlib
import Playfield.Proofs.Decimal.Normal
import Playfield.Scalar.Basic

/-!
# Numbers and Their Decimals

What a document relies on when it holds a number as a decimal.

A save is about numbers of some type of scalars, and a document about decimals.
These five laws are all that has to be known of the scalars to tell which numbers
come back from a document: a number has a decimal if it is finite, the decimal is
normal and reads back to the number, a decimal reads to a finite number if it is in
range, and a whole number is read as it is.

## Main definitions

* `Numeral.Lawful`: The laws.

## Theorems

* `Numeral.toDecimal?_eq_none_iff`: A number without a decimal is not finite.
* `Numeral.isOutOfRange_of_toDecimal?`: The decimal of a number is in range.
* `Numeral.isFinite_ofInt`, `Numeral.isFinite_ofNat`: Whole numbers are finite.
-/

namespace Playfield

namespace Numeral

/-- Numbers and decimals stand for each other. -/
class Lawful (R : Type) [Scalar R] [Numeral R] : Prop where
  isSome_toDecimal? : ∀ (tie : Decimal.Tie) (x : R),
    (toDecimal? tie x).isSome = Scalar.isFinite x
  ofDecimal_of_toDecimal? : ∀ {tie : Decimal.Tie} {x : R} {d : Decimal},
    toDecimal? tie x = some d → ofDecimal d = x
  isNormal_of_toDecimal? : ∀ {tie : Decimal.Tie} {x : R} {d : Decimal},
    toDecimal? tie x = some d → d.IsNormal
  isFinite_ofDecimal : ∀ d : Decimal, Scalar.isFinite (ofDecimal d : R) = !d.isOutOfRange
  ofDecimal_ofInt : ∀ n : Nat, (ofDecimal (Decimal.ofInt n) : R) = Scalar.ofNat n

variable {R : Type} [Scalar R] [Numeral R] [Lawful R] {tie : Decimal.Tie} {x : R} {d : Decimal}

theorem toDecimal?_eq_none_iff : toDecimal? tie x = none ↔ Scalar.isFinite x = false := by
  rw [← Lawful.isSome_toDecimal? tie x, Option.isSome_eq_false_iff, Option.isNone_iff_eq_none]

theorem isFinite_of_toDecimal? (h : toDecimal? tie x = some d) : Scalar.isFinite x = true := by
  rw [← Lawful.isSome_toDecimal? tie x, h]
  rfl

theorem isOutOfRange_of_toDecimal? (h : toDecimal? tie x = some d) : d.isOutOfRange = false := by
  have hfin := isFinite_of_toDecimal? h
  rw [← Lawful.ofDecimal_of_toDecimal? h, Lawful.isFinite_ofDecimal] at hfin
  rwa [Bool.not_eq_true'] at hfin

/-- The integers of a document are finite. -/
theorem isFinite_ofInt {n : Int} (h : Decimal.isWordSized n = true) :
    Scalar.isFinite (ofDecimal (Decimal.ofInt n) : R) = true := by
  rw [Lawful.isFinite_ofDecimal, Decimal.isOutOfRange_ofInt h]
  rfl

/-- So are the whole numbers that stand for what is missing. -/
theorem isFinite_ofNat {n : Nat} (h : n < 2 ^ 64) :
    Scalar.isFinite (Scalar.ofNat n : R) = true := by
  have hword : Decimal.isWordSized n = true := by
    rw [Decimal.isWordSized, Bool.and_eq_true, decide_eq_true_eq, decide_eq_true_eq, Nat.pow_eq,
      Nat.pow_eq]
    omega
  rw [← Lawful.ofDecimal_ofInt]
  exact isFinite_ofInt hword

theorem isFinite_zero : Scalar.isFinite (0 : R) = true := isFinite_ofNat (Nat.two_pow_pos 64)

end Numeral

end Playfield
