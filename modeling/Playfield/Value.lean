import Playfield.Json.Codec
import Playfield.Text.Quoted

/-!
# Values

The dynamically typed scalars that variables hold.

An author writes `3`, `"3"` and `true` and expects them to compare sensibly. The
rules are these. Numbers, numeric text and truth values compare as numbers when
both sides are such. A missing value is equal to nothing but another missing
value. Everything else compares as the text it is shown as.

Arithmetic is stricter than comparison: only a stored number is computed with,
because the result is stored back.

## Main definitions

* `Value`: Nothing, a truth value, a number or a text.
* `Value.ofText`: Typed text as a value.
* `Value.toNumber?`, `Value.storedNumber?`: The two numeric readings.
* `Value.display`: The text of a value.
* `Comparison.holds`: Comparison of two values.
* `Arithmetic.apply`: What an arithmetic operation makes of a number.
* `Value.codec`: Values in documents.

## Theorems

* `Comparison.holdsOrdering_ne`: Of two texts, unequal is not equal.
-/

namespace Playfield

/-- A dynamically typed scalar. -/
inductive Value (R : Type) where
  | null
  | bool (b : Bool)
  | number (x : R)
  | text (s : String)
  deriving DecidableEq

/-- Variables by name. -/
abbrev Variables (R : Type) : Type := Dictionary (Value R)

namespace Value

variable {R : Type} [Scalar R] [Numeral R]

/-- The number that a text denotes, blanks at its ends aside. -/
def parseNumber? (s : String) : Option R := Numeral.readFree? (Text.trim s.toList)

/-- Typed text: a number if it denotes one. -/
def ofText (s : String) : Value R :=
  match parseNumber? s with
  | some x => .number x
  | none => .text s

/-- Text that denotes a number becomes one. -/
def coerced : Value R → Value R
  | .text s => ofText s
  | v => v

/-- The number that a value counts as in a comparison. -/
def toNumber? : Value R → Option R
  | .number x => some x
  | .text s => parseNumber? s
  | .bool b => some (if b then 1 else 0)
  | .null => none

/-- The number that a value is. -/
def storedNumber? : Value R → Option R
  | .number x => some x
  | _ => none

/-- The truth value that a value is or names, in any case of its letters. -/
def toBool? : Value R → Option Bool
  | .bool b => some b
  | .text s =>
    let name := String.ofList (s.toList.map Char.toLower)
    if name = "true" then some true else if name = "false" then some false else none
  | _ => none

/-- Whether a value is missing. -/
def isNull : Value R → Bool
  | .null => true
  | _ => false

/-- The text of a value. -/
def display : Value R → String
  | .null => "null"
  | .bool b => if b then "true" else "false"
  | .number x => Numeral.display x
  | .text s => s

/-- Reads a value that has been kept. -/
def ofJson (j : Json) : Except ReadError (Value R) :=
  match j.fault?, j with
  | some f, _ => .error (.broken f)
  | none, .null => .ok .null
  | none, .bool b => .ok (.bool b)
  | none, .text s => .ok (.text s)
  | none, .int n => .ok (.number (Numeral.ofDecimal (Decimal.ofInt n)))
  | none, .real d => .ok (.number (Numeral.ofDecimal d))
  | none, _ => .error .mismatch

/-- Values in documents. -/
def codec : Codec (Value R) where
  write
    | .null => .null
    | .bool b => .bool b
    | .number x => Codec.ofNumber x
    | .text s => .text s
  read _ := ofJson

end Value

/-- The comparisons that conditions make. -/
inductive Comparison where
  | eq
  | ne
  | gt
  | lt
  | ge
  | le
  deriving DecidableEq

namespace Comparison

variable {R : Type} [Scalar R] [Numeral R]

/-- Comparison of two numbers. A non-number is unequal to everything. -/
def holdsNumber (op : Comparison) (x y : R) : Bool :=
  match op with
  | .eq => Scalar.same x y
  | .ne => !Scalar.same x y
  | .gt => decide (y < x)
  | .lt => decide (x < y)
  | .ge => decide (y ≤ x)
  | .le => decide (x ≤ y)

/-- Comparison of two things whose order is known. -/
def holdsOrdering (op : Comparison) (o : Ordering) : Bool :=
  match op with
  | .eq => o == .eq
  | .ne => o != .eq
  | .gt => o == .gt
  | .lt => o == .lt
  | .ge => o != .lt
  | .le => o != .gt

theorem holdsOrdering_ne (o : Ordering) : holdsOrdering .ne o = !holdsOrdering .eq o := by
  cases o <;> rfl

/-- Comparison of two values. -/
def holds (op : Comparison) (a b : Value R) : Bool :=
  match a.toNumber?, b.toNumber? with
  | some x, some y => op.holdsNumber x y
  | _, _ =>
    match a.isNull, b.isNull with
    | true, true => op.holdsOrdering .eq
    | true, false | false, true => op == .ne
    | false, false => op.holdsOrdering (compare a.display b.display)

/-- The signs of the comparisons, in their order. -/
def table : List (String × Comparison) :=
  [("==", .eq), ("!=", .ne), (">", .gt), ("<", .lt), (">=", .ge), ("<=", .le)]

/-- The sign of a comparison. -/
def name : Comparison → String
  | .eq => "=="
  | .ne => "!="
  | .gt => ">"
  | .lt => "<"
  | .ge => ">="
  | .le => "<="

/-- Comparisons in documents. -/
def codec : Codec Comparison := .named table name

end Comparison

/-- What an action does to a number. -/
inductive Arithmetic where
  | set
  | add
  | sub
  | mul
  | div
  deriving DecidableEq

namespace Arithmetic

/-- The result of the operation on the current number. -/
def apply {R : Type} [Scalar R] (op : Arithmetic) (current operand : R) : R :=
  match op with
  | .set => operand
  | .add => current + operand
  | .sub => current - operand
  | .mul => current * operand
  | .div => current / operand

/-- The signs of the operations, in their order. -/
def table : List (String × Arithmetic) :=
  [("=", .set), ("+", .add), ("-", .sub), ("*", .mul), ("/", .div)]

/-- The sign of an operation. -/
def name : Arithmetic → String
  | .set => "="
  | .add => "+"
  | .sub => "-"
  | .mul => "*"
  | .div => "/"

/-- Operations in documents. -/
def codec : Codec Arithmetic := .named table name

end Arithmetic

end Playfield
