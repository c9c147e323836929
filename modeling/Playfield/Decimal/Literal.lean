import Playfield.Decimal.Basic

/-!
# Number Literals

Reading a number from text, under two rules.

The two rules agree on the pieces of a literal and disagree on which of them
may be missing. A *document* number needs a digit before the point, no zero in
front of other digits, and a digit after the point if there is one. A *free*
number, as an author types it into a text field, may start with a plus, may
leave out the digits on one side of the point, and may also name an infinity
or a non-number. So `Parts.span` cuts a literal into its pieces once, and each
rule decides what it is given to cut.

A free number is the whole of a text, so its rule is a condition on the pieces.
A document number stands in front of more text, and where it ends is found out
one character at a time. So its rule is a machine: a phase says which pieces
have been met, and whether the number could end there.

A document number is one of two kinds, and the kinds are not interchangeable:
an integer without point or exponent that fits in 64 bits can stand where a
count is asked for, and `5.0` cannot. `-0` is not an integer, because an
integer has no negative zero.

## Main definitions

* `Decimal.Parts`: The pieces of a literal.
* `Decimal.Parts.span`: The pieces at the beginning of a text.
* `Decimal.Free`: What a freely typed number denotes.
* `Decimal.readFree`: Reads a freely typed number.
* `Decimal.Phase`: How far a document number has been read.
* `Decimal.Written`: What a document number denotes.
* `Decimal.ofWritten`: Reads a document number.

## Theorems

* `Decimal.Phase.start?_eq_some_iff`: A document number begins with a minus or a
  digit.
-/

namespace Playfield

namespace Decimal

/-- The characters `0` to `9`. -/
def isDigit (c : Char) : Bool := '0' ≤ c && c ≤ '9'

/-- The number that a list of digits denotes. -/
def ofDigits (cs : List Char) : Nat :=
  cs.foldl (fun n c => 10 * n + (c.toNat - '0'.toNat)) 0

/-- The leading digits of a text and what follows them. -/
def spanDigits (cs : List Char) : List Char × List Char :=
  (cs.takeWhile isDigit, cs.dropWhile isDigit)

/-- The sign in front of a text, if there is one, and what follows it. -/
def spanSign : List Char → Option Bool × List Char
  | '-' :: cs => (some true, cs)
  | '+' :: cs => (some false, cs)
  | cs => (none, cs)

/-- The pieces of a literal. `sign` and `powerSign` are `true` for a minus.
    `fraction` and `power` are there if a point or an `e` is, however many
    digits follow. -/
structure Parts where
  sign : Option Bool
  whole : List Char
  fraction : Option (List Char)
  powerSign : Option Bool
  power : Option (List Char)

namespace Parts

/-- Cuts the pieces of a literal off a text. Any digits may be missing. -/
def span (cs : List Char) : Parts × List Char :=
  let (sign, cs) := spanSign cs
  let (whole, cs) := spanDigits cs
  let (fraction, cs) := match cs with
    | '.' :: cs => let (f, cs) := spanDigits cs; (some f, cs)
    | cs => (none, cs)
  match cs with
  | [] => (⟨sign, whole, fraction, none, none⟩, [])
  | c :: cs =>
    if c = 'e' ∨ c = 'E' then
      let (powerSign, cs) := spanSign cs
      let (power, cs) := spanDigits cs
      (⟨sign, whole, fraction, powerSign, some power⟩, cs)
    else (⟨sign, whole, fraction, none, none⟩, c :: cs)

/-- The decimal that the pieces denote, a missing digit counting as none. -/
def toDecimal (p : Parts) : Decimal :=
  let f := p.fraction.getD []
  let e : Int := ofDigits (p.power.getD [])
  let e := if p.powerSign.getD false then -e else e
  normalize ⟨p.sign.getD false, ofDigits (p.whole ++ f), e - f.length⟩

/-- There is a digit before or after the point, and one in the power. -/
def isFree (p : Parts) : Bool :=
  !(p.whole ++ p.fraction.getD []).isEmpty && p.power.all (!·.isEmpty)

end Parts

/-- What a freely typed number denotes. -/
inductive Free where
  | finite (d : Decimal)
  | infinite (negative : Bool)
  | notNumber
  deriving DecidableEq

/-- Reads a freely typed number: signed digits with or without a point and a
    power, or one of the names `inf`, `infinity` and `nan` in any case. -/
def readFree (cs : List Char) : Option Free :=
  let (sign, rest) := spanSign cs
  let name := String.ofList (rest.map Char.toLower)
  if name = "inf" ∨ name = "infinity" then some (.infinite (sign.getD false))
  else if name = "nan" then some .notNumber
  else
    match Parts.span cs with
    | (p, []) => if p.isFree then some (.finite p.toDecimal) else none
    | (_, _ :: _) => none

/-- How far a document number has been read: what its last character was. -/
inductive Phase where
  | sign
  /-- A zero that nothing but a point or a power may follow. -/
  | zero
  | whole
  | point
  | fraction
  | mark
  | powerSign
  | power
  deriving DecidableEq

namespace Phase

/-- The phase after the first character. -/
def start? (c : Char) : Option Phase :=
  if c = '-' then some .sign
  else if c = '0' then some .zero
  else if isDigit c then some .whole
  else none

theorem start?_eq_some_iff (c : Char) :
    (start? c).isSome ↔ c = '-' ∨ isDigit c = true := by
  unfold start?
  split
  · simp [*]
  · split
    · next h => subst h; simp [isDigit]
    · split <;> simp [*]

/-- The phase after one more character, if the number goes on with it. -/
def next? (p : Phase) (c : Char) : Option Phase :=
  match p with
  | .sign => if c = '0' then some .zero else if isDigit c then some .whole else none
  | .zero => if c = '.' then some .point else if c = 'e' ∨ c = 'E' then some .mark else none
  | .whole =>
    if isDigit c then some .whole
    else if c = '.' then some .point
    else if c = 'e' ∨ c = 'E' then some .mark
    else none
  | .point => if isDigit c then some .fraction else none
  | .fraction =>
    if isDigit c then some .fraction else if c = 'e' ∨ c = 'E' then some .mark else none
  | .mark =>
    if c = '+' ∨ c = '-' then some .powerSign else if isDigit c then some .power else none
  | .powerSign => if isDigit c then some .power else none
  | .power => if isDigit c then some .power else none

/-- Whether the number is complete where the text ends. -/
def isComplete : Phase → Bool
  | .zero | .whole | .fraction | .power => true
  | .sign | .point | .mark | .powerSign => false

/-- Whether the number is complete in front of a character with which it does not
    go on. A zero is not complete in front of a digit. -/
def endsBefore (p : Phase) (c : Char) : Bool :=
  p.isComplete && !(p == .zero && isDigit c)

end Phase

/-- What a document number denotes. -/
inductive Written where
  | int (n : Int)
  | real (d : Decimal)
  | outOfRange
  deriving DecidableEq

/-- Whether the number is too large for a document: as far from zero as
    `2 ^ 1024 - 2 ^ 970`, from where on rounding to a double gives an infinity.
    Numbers of a far higher or lower order are told without computing a power. -/
def isOutOfRange (d : Decimal) : Bool :=
  if d.isZero || d.order < 300 then false
  else if 310 < d.order then true
  else
    let limit := Nat.pow 2 1024 - Nat.pow 2 970
    if 0 ≤ d.exponent then decide (limit ≤ d.digits * Nat.pow 10 d.exponent.toNat)
    else decide (limit * Nat.pow 10 (-d.exponent).toNat ≤ d.digits)

/-- The integers that are read as such: those of 64 bits, signed or not. -/
def isWordSized (n : Int) : Bool :=
  decide (-(Nat.pow 2 63 : Int) ≤ n) && decide (n < Nat.pow 2 64)

/-- The number that the pieces of a document number denote. -/
def Parts.toWritten (p : Parts) : Written :=
  let n : Int := ofDigits p.whole
  let n := if p.sign.getD false then -n else n
  if p.fraction.isNone && p.power.isNone && isWordSized n && !(p.sign.getD false && n == 0) then
    .int n
  else if p.toDecimal.isOutOfRange then .outOfRange
  else .real p.toDecimal

/-- Reads the document number at the beginning of a text. -/
def ofWritten (cs : List Char) : Written := (Parts.span cs).1.toWritten

end Decimal

end Playfield
