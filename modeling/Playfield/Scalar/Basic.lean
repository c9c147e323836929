import Playfield.Decimal.Literal

/-!
# Scalars

The numbers that positions, times and amounts are made of.

A running game computes with doubles, and its laws are laws of arithmetic: a
turret never fires twice within a cooldown, a camera move takes the same path
however it is cut into ticks. Such a law is true of numbers without rounding
and only nearly true of doubles. So nothing here computes with doubles by name.
Every definition is over a type `R` of scalars, and the same definition runs on
doubles and is reasoned about on the rationals.

What is asked of `R` is cut into three, because the rationals have the first
and not the others. `Scalar` is arithmetic and order. `Planar` is what turns
and distances need and no rational number has: square roots, sines, angles.
`Numeral` ties a scalar to the decimals that are its text. A law about
rationals holds for every choice of the last two.

There is no equality among the operations. Two scalars count as equal when each
is at most the other (`same`), which on doubles identifies the two zeros and
separates a non-number from itself, and on a linear order is equality.

## Main definitions

* `Scalar`: Arithmetic, order, and which numbers are finite.
* `Planar`: Square roots and angles in degrees.
* `Numeral`: The decimals from and to which a number is read and written.
* `Scalar.same`, `Scalar.isNumber`: Equality by order, and self-equality.
* `Scalar.least`, `Scalar.most`, `Scalar.clamp`: Bounds that let a non-number go.
* `Scalar.sign`: Which side of zero a number is on.

## Theorems

* `Scalar.clamp_of_inside`: A number within the bounds is kept.
-/

namespace Playfield

/-- Arithmetic and order. No law is assumed: doubles have few. -/
class Scalar (R : Type) extends Add R, Sub R, Mul R, Div R, Neg R, LT R, LE R,
    OfScientific R where
  decidableLT : DecidableLT R
  decidableLE : DecidableLE R
  isFinite : R → Bool
  abs : R → R
  /-- The nearest whole number, a half going away from zero. -/
  round : R → R

/-- Distances and angles in the plane; angles are in degrees. -/
class Planar (R : Type) where
  sqrt : R → R
  cosine : R → R
  sine : R → R
  /-- The angle of the direction `(x, y)`, given as `bearing y x`. -/
  bearing : R → R → R

/-- The text form of a number. -/
class Numeral (R : Type) where
  /-- The number nearest to a decimal, or an infinity. -/
  ofDecimal : Decimal → R
  /-- The shortest decimal that reads back to a number, if it is finite. -/
  toDecimal? : Decimal.Tie → R → Option Decimal
  infinity : R

namespace Scalar

variable {R : Type} [Scalar R]

instance : DecidableLT R := Scalar.decidableLT

instance : DecidableLE R := Scalar.decidableLE

instance (priority := low) instOfNat {n : Nat} : OfNat R n :=
  ⟨OfScientific.ofScientific n false 0⟩

/-- The whole number `n`. -/
def ofNat (n : Nat) : R := OfScientific.ofScientific n false 0

/-- Equality as the order sees it. -/
def same (x y : R) : Bool := decide (x ≤ y) && decide (y ≤ x)

/-- Whether a number is comparable with itself. -/
def isNumber (x : R) : Bool := decide (x ≤ x)

/-- The smaller of two numbers. A non-number gives way to the other one, and of
    two that are the same the first is taken. -/
def least (x y : R) : R := if isNumber x then (if y < x then y else x) else y

/-- The larger of two numbers, under the same rules. -/
def most (x y : R) : R := if isNumber x then (if x < y then y else x) else y

/-- The number moved into the bounds. A non-number stays. -/
def clamp (x low high : R) : R :=
  let x := if x < low then low else x
  if high < x then high else x

/-- One, zero or minus one with the number's side of zero. A non-number stays. -/
def sign (x : R) : R :=
  if 0 < x then 1 else if x < 0 then -1 else if isNumber x then 0 else x

theorem clamp_of_inside (x low high : R) (hl : ¬ x < low) (hh : ¬ high < x) :
    clamp x low high = x := by
  simp [clamp, hl, hh]

end Scalar

namespace Numeral

variable {R : Type} [Scalar R] [Numeral R]

/-- The name of a number that is not finite. -/
def nonFiniteName (x : R) : String :=
  if Scalar.isNumber x then (if 0 < x then "inf" else "-inf") else "NaN"

/-- The text of a number in a layout. -/
def write (l : Decimal.Layout) (x : R) : String :=
  match toDecimal? l.tie x with
  | some d => String.ofList (d.write l)
  | none => nonFiniteName x

/-- The text of a number as a player sees it: `3`, not `3.0`, and zero without
    a sign. -/
def display (x : R) : String :=
  match toDecimal? Decimal.Layout.plain.tie x with
  | some d => String.ofList ({ d with negative := d.negative && !d.isZero }.write .plain)
  | none => nonFiniteName x

/-- Reads a freely typed number. A non-number is no number. -/
def readFree? (text : List Char) : Option R :=
  match Decimal.readFree text with
  | some (.finite d) => some (ofDecimal d)
  | some (.infinite negative) => some (if negative then -infinity else infinity)
  | some .notNumber | none => none

end Numeral

end Playfield
