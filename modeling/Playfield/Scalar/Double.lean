import Playfield.Scalar.Basic

/-!
# Doubles

Double-precision numbers as scalars, and the decimals that stand for them.

The decimal of a double is the one with the fewest digits that reads back to
it, and among those the nearest; of two that are equally near the layout takes
its choice. It is found by trying: a double lies between two neighbours on the
grid of decimals with `n` digits, so for each `n` only those two can be the
nearest, and each is kept if it reads back. Seventeen digits are always enough.
Nothing below leans on that: were no short decimal found, the exact value of the
double, which is a finite decimal, would be written out. What has been found is
read again before it is given away, so that a decimal that stands for a double
always reads back to it.

## Main definitions

* `Double.magnitude`: A finite double as `m · 2 ^ q`.
* `Double.ratio`: A finite double as a fraction.
* `Double.ofDecimal`: The double nearest to a decimal.
* `Double.toDecimal?`: The shortest decimal that reads back.
* `Double.fixed`: A double with a set number of places.

## Theorems

* `Double.ofDecimal_of_toDecimal?`: The decimal of a double reads back to it.
-/

namespace Playfield

namespace Double

/-- Whether the sign bit is set. -/
def isNegative (x : Float) : Bool := x.toBits >>> 63 == 1

/-- The numbers `m` and `q` of a finite double `± m · 2 ^ q`. -/
def magnitude (x : Float) : Nat × Int :=
  let bits := x.toBits.toNat
  let fraction := bits % Nat.pow 2 52
  let exponent : Nat := bits / Nat.pow 2 52 % Nat.pow 2 11
  if exponent = 0 then (fraction, -1074)
  else (fraction + Nat.pow 2 52, (exponent : Int) - 1075)

/-- The size of a finite double as a fraction. -/
def ratio (x : Float) : Nat × Nat :=
  let (m, q) := magnitude x
  if 0 ≤ q then (m * Nat.pow 2 q.toNat, 1) else (m, Nat.pow 2 (-q).toNat)

/-- The double nearest to a decimal; one that is too large gives an infinity. -/
def ofDecimal (d : Decimal) : Float :=
  let x := Float.ofScientific d.digits (decide (d.exponent < 0)) d.exponent.natAbs
  if d.negative then -x else x

/-- The exact value of a finite double, which is a finite decimal. -/
def exact (x : Float) : Decimal :=
  let (m, q) := magnitude x
  let d : Decimal :=
    if 0 ≤ q then ⟨isNegative x, m * Nat.pow 2 q.toNat, 0⟩
    else ⟨isNegative x, m * Nat.pow 5 (-q).toNat, q⟩
  d.normalize

/-- The exponent of the seventeenth digit of `num / den`, or one less. The
    fraction lies above `2 ^ (log2 num - log2 den - 1)`, which bounds the
    exponent of its first digit from below. -/
def lastPlace (num den : Nat) : Int :=
  ((num.log2 : Int) - den.log2 - 1) * 30103 / 100000 - 16

/-- The whole part of `num / den / 10 ^ place`. -/
def scaled (num den : Nat) (place : Int) : Nat :=
  if 0 ≤ place then num / (den * Nat.pow 10 place.toNat)
  else num * Nat.pow 10 (-place).toNat / den

/-- Of the two neighbours `n · 10 ^ place` and `(n + 1) · 10 ^ place` of `x`,
    those that read back to it, the nearer first. -/
def neighbours (tie : Decimal.Tie) (x : Float) (num den n : Nat) (place : Int) : List Decimal :=
  let negative := isNegative x
  let below : Decimal := ⟨negative, n, place⟩
  let above : Decimal := ⟨negative, n + 1, place⟩
  -- the middle of the two, doubled, against the value, doubled
  let middle := 2 * n + 1
  let (m, v) :=
    if 0 ≤ place then (middle * Nat.pow 10 place.toNat * den, 2 * num)
    else (middle * den, 2 * num * Nat.pow 10 (-place).toNat)
  let belowFirst := v < m || (v == m && tie == .even && n % 2 == 0)
  let pair := if belowFirst then [below, above] else [above, below]
  (pair.map Decimal.normalize).filter (fun d => ofDecimal d = x)

/-- The nearest decimal that reads back on the coarsest grid that has one. The
    grids have their last place at `place + k` for each `k` up to the count. -/
def shortestFrom (tie : Decimal.Tie) (x : Float) (num den : Nat) (place : Int) (n : Nat) :
    Nat → Option Decimal
  | 0 => (neighbours tie x num den n place).head?
  | k + 1 =>
    let coarse := place + (k + 1 : Nat)
    match (neighbours tie x num den (n / Nat.pow 10 (k + 1)) coarse).head? with
    | some d => some d
    | none => shortestFrom tie x num den place n k

/-- The shortest decimal that reads back to a finite double, or its exact value. -/
def shortest (tie : Decimal.Tie) (x : Float) : Decimal :=
  let (num, den) := ratio x
  if num = 0 then ⟨isNegative x, 0, 0⟩
  else
    let place := lastPlace num den
    (shortestFrom tie x num den place (scaled num den place) 17).getD (exact x)

/-- The shortest decimal that reads back, of a finite double only. -/
def toDecimal? (tie : Decimal.Tie) (x : Float) : Option Decimal :=
  if x.isFinite && ofDecimal (shortest tie x) = x then some (shortest tie x) else none

theorem ofDecimal_of_toDecimal? (tie : Decimal.Tie) (x : Float) (d : Decimal)
    (h : toDecimal? tie x = some d) :
    ofDecimal d = x := by
  unfold toDecimal? at h
  split at h
  · next hx =>
    rw [Bool.and_eq_true, decide_eq_true_eq] at hx
    cases h
    exact hx.2
  · cases h

/-- A double with a set number of places, its exact value rounded half to even. -/
def fixed (places : Nat) (x : Float) : String :=
  if x.isFinite then
    let (num, den) := ratio x
    String.ofList (Decimal.fixed places (isNegative x) num den)
  else if x.isNaN then "NaN"
  else if isNegative x then "-inf"
  else "inf"

/-- A degree in radians. -/
def degree : Float := 3.14159265358979323846264338327950288 / 180.0

/-- A radian in degrees. -/
def radian : Float := 57.2957795130823208767981548141051703

end Double

instance : Scalar Float where
  decidableLT := inferInstance
  decidableLE := inferInstance
  isFinite := Float.isFinite
  abs := Float.abs
  round := Float.round

instance : Planar Float where
  sqrt := Float.sqrt
  cosine d := Float.cos (d * Double.degree)
  sine d := Float.sin (d * Double.degree)
  bearing y x := Float.atan2 y x * Double.radian

instance : Numeral Float where
  ofDecimal := Double.ofDecimal
  toDecimal? := Double.toDecimal?
  infinity := 1.0 / 0.0

end Playfield
