import Mathlib
import Playfield.Proofs.Double.Order

/-!
# Quotients of Doubles

When a quotient is a number, and what clamping makes of it.

Of doubles a quotient need not be a number, even if dividend and divisor are: nothing divided
by nothing is none, and an infinity divided by an infinity is none either. Both need a divisor
that is no finite number other than zero. By such a number everything can be divided, and a
dividend that is no number remains the only way to get none.

Clamping compares. What is a number is moved between the bounds, infinities included, and what
is no number compares with nothing and stays.

## Theorems

* `Double.isNumber_div_iff`: A quotient by a positive number is a number if the dividend is.
* `Double.clamp_of_number`: A number is moved between the bounds.
* `Double.clamp_of_not_number`: What is no number stays.
* `Double.clamp_mem_iff`: So between the bounds is what was a number.
-/

namespace Playfield

namespace Double

open Float.Model Float.Model.UnpackedFloat

variable {x y low high : Float}

theorem isNumber_iff (x : Float) : Scalar.isNumber x = true ↔ x.toModel.unpack ≠ .notANumber := by
  rw [Scalar.isNumber, decide_eq_true_iff, le_iff]
  exact ⟨fun h => h.1, fun h => ⟨h, h, le_rfl⟩⟩

theorem isNumber_of_isFinite (hx : x.isFinite = true) : Scalar.isNumber x = true := by
  have hfin : x.toModel.unpack.isFinite = true := hx
  rw [isNumber_iff]
  intro hnone
  rw [hnone] at hfin
  cases hfin

theorem unpack_div (x y : Float) : (x / y).toModel.unpack =
    (Float.Model.pack (UnpackedFloat.div Format.binary64 x.toModel.unpack
      y.toModel.unpack)).unpack := rfl

/-- A number that is not zero is a mantissa at a place. -/
theorem exists_finite_of_pos (hy : 0 < y) (hfinite : y.isFinite = true) :
    ∃ s m q hm, y.toModel.unpack = .finite s m q hm := by
  have hfin : y.toModel.unpack.isFinite = true := hfinite
  have hpos := (lt_iff 0 y).1 hy
  generalize y.toModel.unpack = u at hfin hpos
  cases u with
  | notANumber => cases hfin
  | infinity s => cases hfin
  | zero s => exact absurd hpos.2.2 (lt_irrefl _)
  | finite s m q hm => exact ⟨s, m, q, hm, rfl⟩

/-- Everything but what is no number can be divided by a mantissa at a place. -/
theorem unpack_pack_div_ne {u : UnpackedFloat} (hu : u ≠ .notANumber) (s : Sign) {m : Nat}
    (q : Int) (hm : 0 < m) : (Float.Model.pack
      (UnpackedFloat.div Format.binary64 u (.finite s m q hm))).unpack ≠ .notANumber := by
  cases u with
  | notANumber => exact absurd rfl hu
  | zero t =>
      simp only [UnpackedFloat.div]
      rw [unpack_pack_zero]
      nofun
  | infinity t =>
      simp only [UnpackedFloat.div]
      rw [unpack_pack_infinity]
      nofun
  | finite t n r hn =>
      -- Two mantissas are divided, and the result is rounded.
      rcases (truncation_divCore r q hn hm).exists_rounds (t / s) with ⟨k, p, hrounds, heq⟩
      simp only [UnpackedFloat.div]
      rw [heq]
      exact (hrounds.reaches_pack_carried _).number

/-- A quotient by a positive number is a number exactly if the dividend is. -/
theorem isNumber_div_iff (hy : 0 < y) (hfinite : y.isFinite = true) :
    Scalar.isNumber (x / y) = true ↔ Scalar.isNumber x = true := by
  rcases exists_finite_of_pos hy hfinite with ⟨s, m, q, hm, hunpack⟩
  rw [isNumber_iff, isNumber_iff, unpack_div, hunpack]
  refine ⟨fun h hx => h ?_, fun hx => unpack_pack_div_ne hx s q hm⟩
  rw [hx, UnpackedFloat.div]
  rfl

/-- A number is moved between the bounds. -/
theorem clamp_of_number (hx : Scalar.isNumber x = true) (h : low ≤ high) :
    low ≤ Scalar.clamp x low high ∧ Scalar.clamp x low high ≤ high := by
  have hlow : low ≤ if x < low then low else x := by
    split
    · exact le_self_left h
    · next hlt => exact le_of_not_lt (le_self_left h) (of_decide_eq_true hx) hlt
  unfold Scalar.clamp
  dsimp only
  generalize (if x < low then low else x) = z at hlow
  split
  · exact ⟨h, le_self_right h⟩
  · next hlt => exact ⟨hlow, le_of_not_lt (le_self_right hlow) (le_self_right h) hlt⟩

/-- What is no number compares with nothing, and stays. -/
theorem clamp_of_not_number (hx : Scalar.isNumber x = false) : Scalar.clamp x low high = x := by
  have hnone : ¬ x.toModel.unpack ≠ .notANumber := by
    rw [← isNumber_iff, hx]
    exact Bool.false_ne_true
  refine Scalar.clamp_of_inside x low high ?_ ?_
  · exact fun hlt => hnone ((lt_iff x low).1 hlt).1
  · exact fun hlt => hnone ((lt_iff high x).1 hlt).2.1

/-- Between the bounds is then exactly what has been a number. -/
theorem clamp_mem_iff (h : low ≤ high) :
    low ≤ Scalar.clamp x low high ∧ Scalar.clamp x low high ≤ high ↔ Scalar.isNumber x = true := by
  refine ⟨fun hbetween => ?_, fun hx => clamp_of_number hx h⟩
  cases hx : Scalar.isNumber x with
  | true => rfl
  | false =>
      rw [clamp_of_not_number hx] at hbetween
      exact hx.symm.trans (decide_eq_true (le_self_left hbetween.2))

theorem isNumber_clamp_iff (h : low ≤ high) :
    Scalar.isNumber (Scalar.clamp x low high) = true ↔ Scalar.isNumber x = true := by
  cases hx : Scalar.isNumber x with
  | true => exact iff_of_true (decide_eq_true (le_self_left (clamp_of_number hx h).2)) rfl
  | false => rw [clamp_of_not_number hx, hx]

end Double

end Playfield
