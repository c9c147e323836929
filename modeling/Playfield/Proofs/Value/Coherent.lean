import Mathlib
import Playfield.Proofs.Double.Decimals
import Playfield.Proofs.Double.Division
import Playfield.Value

/-!
# Comparisons of Values

The six comparisons of values agree with each other.

Two values are compared as numbers, as texts or as things that may be missing, and which of
these it is depends on both. So no law of the comparisons follows from a law of numbers or of
texts alone. But whichever it is, there is one finding for the two values: how the first stands
to the second, or that they do not stand to each other at all. Each comparison only reads that
finding, and if there is none, to be unequal is all that holds. The finding for the values in
the other order is the reversed one.

There is a finding unless exactly one of the values is missing, or both count as numbers and
one of the numbers is none. A text never counts as such a number: the names of non-numbers are
not read, and a decimal that is too large for a double is an infinity.

## Main definitions

* `Value.IsNonNumber`: A stored number that is none.
* `Double.standing?`: How two numbers stand to each other.
* `Value.standing?`: How two values stand to each other.
* `Comparison.reads`: What a comparison makes of that.
* `Comparison.flip`: The comparison that holds the other way around.
* `Comparison.verdicts`: How many of less, equal and greater hold.

## Theorems

* `Double.isNumber_ofDecimal`: What is read is a number.
* `Comparison.holds_eq`: A comparison reads how two values stand to each other.
* `Value.standing?_swap`: In the other order they stand the other way.
* `Value.isSome_standing?_iff`: When they stand to each other.
* `Comparison.holds_coherent`: The laws of the comparisons.
-/

namespace Playfield

namespace Double

open Float.Model Float.Model.UnpackedFloat

theorem roundWithAccuracy_ne (s : Sign) (m : Nat) (e : Int) (a : Accuracy) :
    roundWithAccuracy Format.binary64 s m e a ≠ .notANumber := by
  unfold roundWithAccuracy
  dsimp only
  split <;> nofun

theorem ofScientific_ne (m : Nat) (e : Int) :
    UnpackedFloat.ofScientific Format.binary64 m e ≠ .notANumber := by
  unfold UnpackedFloat.ofScientific
  split
  · nofun
  split
  · nofun
  split
  · nofun
  -- The digits are multiplied or divided, and the result is rounded.
  split <;> exact roundWithAccuracy_ne _ _ _ _

/-- A number is packed as a number. -/
theorem unpack_pack_ne {u : UnpackedFloat} (hu : u ≠ .notANumber) :
    (Float.Model.pack u).unpack ≠ .notANumber := by
  cases u with
  | notANumber => exact absurd rfl hu
  | zero s =>
      rw [unpack_pack_zero]
      nofun
  | infinity s =>
      rw [unpack_pack_infinity]
      nofun
  | finite s m q hm =>
      rcases le_or_gt q 971 with hq | hq
      · intro hnone
        have hfin := isFinite_pack_finite s m q hm
        rw [decide_eq_true hq, Float.Model.isFinite, hnone] at hfin
        cases hfin
      · rw [pack_of_large s hm hq, unpack_pack_infinity]
        nofun

theorem isNumber_neg {x : Float} (hx : Scalar.isNumber x = true) : Scalar.isNumber (-x) = true := by
  rw [isNumber_iff] at hx ⊢
  rw [neg_toModel]
  refine unpack_pack_ne ?_
  generalize x.toModel.unpack = u at hx
  cases u with
  | notANumber => exact absurd rfl hx
  | zero s => nofun
  | infinity s => nofun
  | finite s m q hm => nofun

theorem isNumber_ofScientific (m : Nat) (s : Bool) (e : Nat) :
    Scalar.isNumber (Float.ofScientific m s e) = true := by
  by_cases h : m < 2 ^ 53 ∧ e ≤ 22
  · -- A decimal as short as that is far below the limit, so it is read as a finite number.
    rcases nearest_of_scientific m s e with ⟨u, hmodel, hnear⟩
    have hlt : (m : Rat) * 10 ^ (if s then -(e : Int) else e) < Decimal.limit := by
      have hm : (m : Rat) ≤ 10 ^ (16 : Int) := by
        have hnat : m ≤ 10 ^ 16 := by omega
        exact_mod_cast hnat
      have he : (10 : Rat) ^ (if s then -(e : Int) else e) ≤ 10 ^ (22 : Int) :=
        zpow_le_zpow_right₀ (by norm_num) (by split <;> omega)
      calc (m : Rat) * 10 ^ (if s then -(e : Int) else e)
          ≤ 10 ^ (16 : Int) * 10 ^ (22 : Int) := by gcongr
        _ = ((10 ^ 38 : Nat) : Rat) := by norm_num
        _ ≤ ((10 ^ 299 : Nat) : Rat) := by
          exact_mod_cast Nat.pow_le_pow_right (by norm_num) (by norm_num)
        _ < Decimal.limit := Decimal.ten_pow_lt_limit
    refine isNumber_of_isFinite ?_
    rw [Float.isFinite, hmodel, hnear.finite, decide_eq_true hlt]
  · rw [isNumber_iff, Float.ofScientific, dif_neg h]
    exact unpack_pack_ne (ofScientific_ne _ _)

/-- What is read is a number, if not a finite one. -/
theorem isNumber_ofDecimal (d : Decimal) : Scalar.isNumber (ofDecimal d) = true := by
  have hnumber := isNumber_ofScientific d.digits (decide (d.exponent < 0)) d.exponent.natAbs
  unfold ofDecimal
  dsimp only
  split
  · exact isNumber_neg hnumber
  · exact hnumber

/-- How two numbers stand to each other, unless one of them is none. -/
def standing? (x y : Float) : Option Ordering :=
  if x ≤ y then (if y ≤ x then some .eq else some .lt) else if y ≤ x then some .gt else none

theorem standing?_swap (x y : Float) : standing? y x = (standing? x y).map Ordering.swap := by
  unfold standing?
  by_cases hxy : x ≤ y <;> by_cases hyx : y ≤ x <;> simp [hxy, hyx]

theorem isSome_standing?_iff (x y : Float) :
    (standing? x y).isSome = true ↔ Scalar.isNumber x = true ∧ Scalar.isNumber y = true := by
  unfold standing?
  rw [Scalar.isNumber, Scalar.isNumber, decide_eq_true_iff, decide_eq_true_iff]
  constructor
  · -- Whichever way the two stand, each of them is in order with something.
    intro h
    split at h
    · next hxy => exact ⟨le_self_left hxy, le_self_right hxy⟩
    split at h
    · next hyx => exact ⟨le_self_right hyx, le_self_left hyx⟩
    · cases h
  · rintro ⟨hx, hy⟩
    split
    · split <;> rfl
    · next hxy =>
      have hyx : y ≤ x := le_of_not_lt hy hx fun hlt => hxy (le_of_lt hlt)
      rw [if_pos hyx]
      rfl

theorem lt_iff_le_not_ge (x y : Float) : x < y ↔ x ≤ y ∧ ¬ y ≤ x := by
  rw [lt_iff, le_iff, le_iff]
  constructor
  · rintro ⟨hx, hy, hlt⟩
    exact ⟨⟨hx, hy, hlt.le⟩, fun h => absurd h.2.2 (not_le.2 hlt)⟩
  · rintro ⟨⟨hx, hy, -⟩, hnot⟩
    exact ⟨hx, hy, lt_of_not_ge fun hle => hnot ⟨hy, hx, hle⟩⟩

end Double

namespace Comparison

/-- What a comparison makes of how two things stand to each other. If they do not, they are
    unequal and nothing else. -/
def reads (op : Comparison) : Option Ordering → Bool
  | some o => op.holdsOrdering o
  | none => op == .ne

theorem holdsNumber_eq (op : Comparison) (x y : Float) :
    op.holdsNumber x y = op.reads (Double.standing? x y) := by
  unfold Double.standing?
  by_cases hxy : x ≤ y <;> by_cases hyx : y ≤ x <;> cases op <;>
    simp [holdsNumber, reads, holdsOrdering, Scalar.same, Double.lt_iff_le_not_ge, hxy, hyx]

end Comparison

namespace Value

/-- A stored number that is none. -/
def IsNonNumber (v : Value Float) : Prop := ∃ x, v = .number x ∧ Scalar.isNumber x = false

/-- Only a stored number counts as a number and is none. -/
theorem isNumber_of_toNumber? {v : Value Float} {x : Float} (h : v.toNumber? = some x)
    (hv : ¬ v.IsNonNumber) : Scalar.isNumber x = true := by
  cases v with
  | null => cases h
  | bool b =>
      cases h
      cases b <;> decide
  | number y =>
      have hxy : y = x := Option.some.inj h
      subst hxy
      by_contra hx
      exact hv ⟨y, rfl, Bool.eq_false_iff.2 hx⟩
  | text s =>
      simp only [toNumber?, parseNumber?, Numeral.readFree?] at h
      split at h
      · next d hd =>
        cases h
        exact Double.isNumber_ofDecimal d
      · next negative hd =>
        cases h
        cases negative <;> decide
      · cases h
      · cases h

/-- How two values stand to each other as they are shown. A missing value is equal to another
    one and does not stand to anything else. -/
def shownStanding? (a b : Value Float) : Option Ordering :=
  match a.isNull, b.isNull with
  | true, true => some .eq
  | true, false | false, true => none
  | false, false => some (compare a.display b.display)

/-- How two values stand to each other: as numbers if both count as such, and otherwise as
    they are shown. -/
def standing? (a b : Value Float) : Option Ordering :=
  match a.toNumber?, b.toNumber? with
  | some x, some y => Double.standing? x y
  | _, _ => shownStanding? a b

theorem shownStanding?_swap (a b : Value Float) :
    shownStanding? b a = (shownStanding? a b).map Ordering.swap := by
  unfold shownStanding?
  cases a.isNull <;> cases b.isNull
  case false.false => exact congrArg some Std.OrientedOrd.eq_swap
  all_goals rfl

/-- In the other order two values stand the other way. -/
theorem standing?_swap (a b : Value Float) : standing? b a = (standing? a b).map Ordering.swap := by
  unfold standing?
  cases a.toNumber? with
  | none => cases b.toNumber? <;> exact shownStanding?_swap a b
  | some x =>
      cases b.toNumber? with
      | none => exact shownStanding?_swap a b
      | some y => exact Double.standing?_swap x y

theorem isSome_shownStanding?_iff (a b : Value Float) :
    (shownStanding? a b).isSome = true ↔ a.isNull = b.isNull := by
  unfold shownStanding?
  cases a.isNull <;> cases b.isNull <;> simp

theorem isNull_of_toNumber? {v : Value Float} {x : Float} (h : v.toNumber? = some x) :
    v.isNull = false := by
  cases v with
  | null => cases h
  | _ => rfl

/-- Two values stand to each other unless exactly one is missing, or both count as numbers and
    one of the numbers is none. -/
theorem isSome_standing?_iff (a b : Value Float) :
    (standing? a b).isSome = true ↔ a.isNull = b.isNull ∧
      ∀ x y, a.toNumber? = some x → b.toNumber? = some y →
        Scalar.isNumber x = true ∧ Scalar.isNumber y = true := by
  cases ha : a.toNumber? with
  | none => simp [standing?, ha, isSome_shownStanding?_iff]
  | some x =>
      cases hb : b.toNumber? with
      | none => simp [standing?, ha, hb, isSome_shownStanding?_iff]
      | some y =>
          -- What counts as a number is not missing.
          have hnull : a.isNull = b.isNull :=
            (isNull_of_toNumber? ha).trans (isNull_of_toNumber? hb).symm
          simp [standing?, ha, hb, hnull, Double.isSome_standing?_iff]

end Value

namespace Comparison

theorem reads_shownStanding? (op : Comparison) (a b : Value Float) :
    (match a.isNull, b.isNull with
      | true, true => op.holdsOrdering .eq
      | true, false | false, true => op == .ne
      | false, false => op.holdsOrdering (compare a.display b.display)) =
    op.reads (Value.shownStanding? a b) := by
  unfold Value.shownStanding?
  cases a.isNull <;> cases b.isNull <;> rfl

/-- A comparison reads how two values stand to each other. -/
theorem holds_eq (op : Comparison) (a b : Value Float) :
    op.holds a b = op.reads (Value.standing? a b) := by
  unfold holds Value.standing?
  cases a.toNumber? with
  | none => exact reads_shownStanding? op a b
  | some x =>
      cases b.toNumber? with
      | none => exact reads_shownStanding? op a b
      | some y => exact holdsNumber_eq op x y

/-- The comparison that holds the other way around. -/
def flip : Comparison → Comparison
  | .gt => .lt
  | .lt => .gt
  | .ge => .le
  | .le => .ge
  | op => op

theorem reads_flip (op : Comparison) (o : Option Ordering) :
    op.flip.reads (o.map Ordering.swap) = op.reads o := by
  rcases o with _ | o
  · cases op <;> rfl
  · cases op <;> cases o <;> rfl

theorem holds_flip (op : Comparison) (a b : Value Float) : op.flip.holds b a = op.holds a b := by
  rw [holds_eq, holds_eq, Value.standing?_swap, reads_flip]

theorem reads_ne (o : Option Ordering) : reads .ne o = !reads .eq o := by
  rcases o with _ | o
  · rfl
  · exact holdsOrdering_ne o

theorem reads_ge (o : Option Ordering) : reads .ge o = (reads .gt o || reads .eq o) := by
  rcases o with _ | o
  · rfl
  · cases o <;> rfl

theorem reads_le (o : Option Ordering) : reads .le o = (reads .lt o || reads .eq o) := by
  rcases o with _ | o
  · rfl
  · cases o <;> rfl

/-- The number of those among less, equal and greater that hold. -/
def verdicts (a b : Value Float) : Nat := [lt, eq, gt].countP (holds · a b)

theorem verdicts_eq (a b : Value Float) :
    verdicts a b = if (Value.standing? a b).isSome then 1 else 0 := by
  simp only [verdicts, holds_eq]
  rcases Value.standing? a b with _ | o
  · rfl
  · cases o <;> rfl

/-- Whatever two values are, the comparisons of them agree. To be unequal is not to be equal.
    Greater is less the other way around, and so for the weak comparisons; equal and unequal
    are the same both ways. At least is greater or equal, and at most is less or equal. No two
    of less, equal and greater hold at once, and one of them does if both values are missing,
    or if neither is missing and none is a non-number. -/
theorem holds_coherent (a b : Value Float) :
    ne.holds a b = !eq.holds a b ∧
    (gt.holds a b = lt.holds b a ∧ ge.holds a b = le.holds b a) ∧
    (eq.holds a b = eq.holds b a ∧ ne.holds a b = ne.holds b a) ∧
    (ge.holds a b = (gt.holds a b || eq.holds a b) ∧
      le.holds a b = (lt.holds a b || eq.holds a b)) ∧
    verdicts a b ≤ 1 ∧
    ((a.isNull = true ∧ b.isNull = true ∨
        (a.isNull = false ∧ b.isNull = false) ∧ ¬ a.IsNonNumber ∧ ¬ b.IsNonNumber) →
      verdicts a b = 1) := by
  refine ⟨?_, ⟨holds_flip lt b a, holds_flip le b a⟩, ⟨holds_flip eq b a, holds_flip ne b a⟩,
    ⟨?_, ?_⟩, ?_, fun h => ?_⟩
  · rw [holds_eq, holds_eq, reads_ne]
  · rw [holds_eq, holds_eq, holds_eq, reads_ge]
  · rw [holds_eq, holds_eq, holds_eq, reads_le]
  · rw [verdicts_eq]
    split <;> omega
  · rw [verdicts_eq, if_pos ((Value.isSome_standing?_iff a b).2 ?_)]
    rcases h with ⟨ha, hb⟩ | ⟨⟨ha, hb⟩, hna, hnb⟩
    · -- What is missing does not count as a number.
      refine ⟨ha.trans hb.symm, fun x y hx _ => ?_⟩
      rw [Value.isNull_of_toNumber? hx] at ha
      cases ha
    · exact ⟨ha.trans hb.symm, fun x y hx hy =>
        ⟨Value.isNumber_of_toNumber? hx hna, Value.isNumber_of_toNumber? hy hnb⟩⟩

/-- An infinity and a text that is too large for any other number are equal. -/
theorem holds_coherent_infinite :
    let a : Value Float := .number (1 / 0)
    let b : Value Float := .text " 1e999 "
    (a.isNull = false ∧ b.isNull = false) ∧ ¬ a.IsNonNumber ∧ ¬ b.IsNonNumber ∧
      verdicts a b = 1 ∧ eq.holds a b = true := by
  intro a b
  have hna : ¬ a.IsNonNumber := by
    rintro ⟨x, hx, hnone⟩
    rw [← Value.number.inj hx] at hnone
    exact absurd hnone (by decide)
  have hnb : ¬ b.IsNonNumber := fun ⟨_, hx, _⟩ => nomatch hx
  exact ⟨⟨rfl, rfl⟩, hna, hnb, (holds_coherent a b).2.2.2.2.2 (Or.inr ⟨⟨rfl, rfl⟩, hna, hnb⟩),
    by decide +kernel⟩

end Comparison

end Playfield
