/-!
# Decimal Numbers

A finite decimal `± digits · 10 ^ exponent`, and the ways it is written.

A decimal is what stands between a number of the running game and its text.
Which decimal stands for a number is decided elsewhere (the fewest digits that
read back to it, see `Playfield.Scalar.Double`); this module only decides how a
decimal is laid out once it is chosen. Keeping the two apart is what lets one
search for digits serve a saved document, a diagnostic line and a number shown
to the player, each with its own layout. The search is only told which of two
equally near decimals the layout wants.

Several decimals have the same value: `25 · 10 ^ 0` and `250 · 10 ^ -1`.
`normalize` picks the one whose digits do not end in a zero, so that two
normalized decimals are equal exactly when they denote the same signed number.
The sign of a zero is kept, since a document may hold `-0.0`.

## Main definitions

* `Decimal`: A sign, a natural number of digits and a power of ten.
* `Decimal.normalize`: The form without trailing zeros.
* `Decimal.Tie`: Which of two equally near decimals is taken.
* `Decimal.Layout`: Where positional text gives way to an exponent.
* `Decimal.write`: The text of a decimal in a layout.
* `Decimal.fixed`: A fraction written with a set number of places.
-/

namespace Playfield

/-- A finite decimal number, `± digits · 10 ^ exponent`. -/
structure Decimal where
  negative : Bool
  digits : Nat
  exponent : Int
  deriving DecidableEq, Inhabited

namespace Decimal

/-- The integer `n`. -/
def ofInt (n : Int) : Decimal := ⟨decide (n < 0), n.natAbs, 0⟩

/-- Moves trailing zeros of the digits into the exponent, at most as many as
    the first argument says. -/
def strip : Nat → Nat → Int → Nat × Int
  | 0, d, e => (d, e)
  | n + 1, d, e => if d % 10 = 0 then strip n (d / 10) (e + 1) else (d, e)

/-- The number of decimal digits of `n`, at least one. -/
def digitCount (n : Nat) : Nat := (Nat.toDigits 10 n).length

/-- The same number with no trailing zero in its digits; a zero has exponent
    zero and keeps its sign. -/
def normalize (d : Decimal) : Decimal :=
  if d.digits = 0 then ⟨d.negative, 0, 0⟩
  else
    let r := strip (digitCount d.digits) d.digits d.exponent
    ⟨d.negative, r.1, r.2⟩

/-- Whether the number is zero, of either sign. -/
def isZero (d : Decimal) : Bool := d.digits == 0

/-- The number of digits left of the point when the decimal is written out:
    unless it is zero, the value lies in `[10 ^ (order - 1), 10 ^ order)`. -/
def order (d : Decimal) : Int := (digitCount d.digits : Int) + d.exponent

/-- A minus sign or nothing. -/
def signText (negative : Bool) : List Char := if negative then ['-'] else []

/-- Positional digits without a sign. A number without a fraction is written
    as a whole number. -/
def positional (d : Decimal) : List Char :=
  let ds := Nat.toDigits 10 d.digits
  if d.isZero then ['0']
  else if 0 ≤ d.exponent then ds ++ List.replicate d.exponent.toNat '0'
  else if 0 < d.order then
    ds.take d.order.toNat ++ '.' :: ds.drop d.order.toNat
  else
    '0' :: '.' :: (List.replicate (-d.order).toNat '0' ++ ds)

/-- One digit, a point and the other digits if there are any, and behind an
    `e` the power of ten. A power that is not negative has a sign only if `plus`
    is set. -/
def exponential (plus : Bool) (d : Decimal) : List Char :=
  let sign := if plus && decide (1 ≤ d.order) then ['+'] else []
  let power := sign ++ (toString (d.order - 1)).toList
  match Nat.toDigits 10 d.digits with
  | [] => []
  | [c] => c :: 'e' :: power
  | c :: cs => c :: '.' :: (cs ++ 'e' :: power)

/-- Which of two decimals is taken that are equally near to a number: the one
    with the even last digit, or the one farther from zero. -/
inductive Tie where
  | even
  | away
  deriving DecidableEq

/-- How numbers are laid out: the lowest and the highest order that are written
    positionally, without a limit if there is none, whether a whole number shows
    its point, whether a power of ten shows its plus sign, and which way the last
    digit goes if the number lies in the middle. -/
structure Layout where
  lowest : Option Int
  highest : Option Int
  point : Bool
  plus : Bool
  tie : Tie

namespace Layout

/-- Numbers shown to a player: positional, and `3`, not `3.0`. -/
def plain : Layout := ⟨none, none, false, false, .away⟩

/-- Numbers in a document: positional from `0.00001` up to `10 ^ 16`, and
    always with a point or an exponent, which has its sign. A middle goes to the
    even digit here, and away from zero in the other layouts. -/
def document : Layout := ⟨some (-4), some 16, true, true, .even⟩

/-- Numbers in a diagnostic: as in a document, but positional only from
    `0.0001`, and without a plus sign. -/
def diagnostic : Layout := ⟨some (-3), some 16, true, false, .away⟩

/-- Whether numbers of this order are written positionally. -/
def isPositional (l : Layout) (order : Int) : Bool :=
  l.lowest.all (fun low => decide (low ≤ order)) &&
    l.highest.all (fun high => decide (order ≤ high))

end Layout

/-- The text of a decimal in a layout. -/
def write (l : Layout) (d : Decimal) : List Char :=
  signText d.negative ++
    if d.isZero || l.isPositional d.order then
      d.positional ++ if l.point && (d.isZero || decide (0 ≤ d.exponent)) then ['.', '0'] else []
    else d.exponential l.plus

/-- Rounds `num / den` to the nearest natural number, a tie to the even one. -/
def roundQuotient (num den : Nat) : Nat :=
  let q := num / den
  let r := num % den
  if 2 * r < den then q
  else if den < 2 * r then q + 1
  else q + q % 2

/-- The fraction `num / den` under a sign, rounded to `places` places, a tie to
    the even digit. The sign stands even if every digit is a zero. -/
def fixed (places : Nat) (negative : Bool) (num den : Nat) : List Char :=
  let ds := Nat.toDigits 10 (roundQuotient (num * Nat.pow 10 places) den)
  let ds := List.replicate (places + 1 - ds.length) '0' ++ ds
  let whole := ds.length - places
  signText negative ++ ds.take whole ++
    if places = 0 then [] else '.' :: ds.drop whole

end Decimal

end Playfield
