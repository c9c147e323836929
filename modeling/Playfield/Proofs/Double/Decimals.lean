import Mathlib
import Playfield.Proofs.Double.Reading
import Playfield.Proofs.Scalar.Lawful

/-!
# Doubles and Their Decimals

Every finite double has a decimal that reads back to it, and no other number has.

The search for a short decimal is not followed here. Whatever it finds has been
read back, and where it finds nothing the exact value is written out. So all that
has to be known is that the exact value of a double reads back to it.

## Theorems

* `Double.size_exact`: The exact value is the value.
* `Double.ofDecimal_exact`: It reads back.
* `Double.isSome_toDecimal?`: A double has a decimal if it is finite.
-/

namespace Playfield

namespace Double

open Decimal

theorem size_exact (x : Float) : (exact x).size = (magnitude x).1 * 2 ^ (magnitude x).2 := by
  unfold exact
  generalize magnitude x = mq
  rcases mq with ⟨m, q⟩
  dsimp only
  rw [size_normalize]
  split
  · next h =>
    unfold size
    dsimp only
    rw [zpow_zero, mul_one, Nat.pow_eq, Nat.cast_mul, Nat.cast_pow, ← zpow_natCast,
      Int.toNat_of_nonneg h, Nat.cast_ofNat]
  · next h =>
    have hten : (10 : Rat) ^ q = 2 ^ q * 5 ^ q := by
      rw [← mul_zpow]
      norm_num
    -- A binary fraction is a decimal one: each two below is a five above and a ten below.
    have hfive : (5 : Rat) ^ (-q).toNat * 5 ^ q = 1 := by
      rw [← zpow_natCast, ← zpow_add₀ (by norm_num), Int.toNat_of_nonneg (by omega),
        neg_add_cancel, zpow_zero]
    unfold size
    dsimp only
    rw [hten, Nat.pow_eq]
    push_cast
    calc (m : Rat) * 5 ^ (-q).toNat * (2 ^ q * 5 ^ q)
        = m * 2 ^ q * (5 ^ (-q).toNat * 5 ^ q) := by ring
      _ = m * 2 ^ q := by rw [hfive, mul_one]

theorem negative_exact (x : Float) : (exact x).negative = isNegative x := by
  unfold exact
  dsimp only
  rw [negative_normalize]
  split <;> rfl

theorem isNormal_exact (x : Float) : (exact x).IsNormal := isNormal_normalize _

theorem ofDecimal_of_size {x : Float} (hx : x.isFinite) {d : Decimal}
    (hsize : d.size = (magnitude x).1 * 2 ^ (magnitude x).2)
    (hsign : d.negative = isNegative x) : ofDecimal d = x := by
  have hmodel : (ofDecimal d).toModel = x.toModel := by
    -- A size that is that of a double is read exactly, and zero keeps its sign.
    rcases toModel_cases x hx with ⟨h0, hzero⟩ | ⟨hc, hfinite⟩
    · rw [h0, Nat.cast_zero, zero_mul] at hsize
      rw [ofDecimal_of_zero hsize, hsign, hzero]
    · rw [ofDecimal_of_canonical hc hsize, hsign, hfinite]
  exact congrArg Float.ofModel hmodel

/-- The exact value of a finite double reads back to it. -/
theorem ofDecimal_exact {x : Float} (hx : x.isFinite) : ofDecimal (exact x) = x :=
  ofDecimal_of_size hx (size_exact x) (negative_exact x)

theorem magnitude_eq_zero_of_ratio {x : Float} (h : (ratio x).1 = 0) : (magnitude x).1 = 0 := by
  unfold ratio at h
  generalize magnitude x = mq at h ⊢
  rcases mq with ⟨m, q⟩
  dsimp only at h ⊢
  split at h
  · rw [Nat.pow_eq, Nat.mul_eq_zero] at h
    exact h.resolve_right (Nat.two_pow_pos _).ne'
  · exact h

theorem ofDecimal_of_mem_neighbours {tie : Tie} {x : Float} {num den n : Nat} {place : Int}
    {d : Decimal} (h : d ∈ neighbours tie x num den n place) : ofDecimal d = x ∧ d.IsNormal := by
  unfold neighbours at h
  dsimp only at h
  rw [List.mem_filter, decide_eq_true_eq, List.mem_map] at h
  rcases h with ⟨⟨e, -, rfl⟩, hread⟩
  exact ⟨hread, isNormal_normalize e⟩

theorem ofDecimal_of_shortestFrom {tie : Tie} {x : Float} {num den n : Nat} {place : Int} {k : Nat}
    {d : Decimal} (h : shortestFrom tie x num den place n k = some d) :
    ofDecimal d = x ∧ d.IsNormal := by
  -- On the grids that are left: whichever grid it comes from, what is found has been read back.
  induction k with
  | zero => exact ofDecimal_of_mem_neighbours (List.mem_of_mem_head? h)
  | succ k ih =>
      rw [shortestFrom] at h
      split at h
      · next found hfound =>
        cases h
        exact ofDecimal_of_mem_neighbours (List.mem_of_mem_head? hfound)
      · exact ih h

theorem ofDecimal_shortest (tie : Tie) {x : Float} (hx : x.isFinite) :
    ofDecimal (shortest tie x) = x ∧ (shortest tie x).IsNormal := by
  unfold shortest
  dsimp only
  split
  · next h =>
    have hsize : (⟨isNegative x, 0, 0⟩ : Decimal).size = (magnitude x).1 * 2 ^ (magnitude x).2 := by
      rw [magnitude_eq_zero_of_ratio h]
      simp [size]
    exact ⟨ofDecimal_of_size hx hsize rfl, Or.inl ⟨rfl, rfl⟩⟩
  · cases hfound : shortestFrom tie x (ratio x).1 (ratio x).2 (lastPlace (ratio x).1 (ratio x).2)
      (scaled (ratio x).1 (ratio x).2 (lastPlace (ratio x).1 (ratio x).2)) 17 with
    | none => exact ⟨ofDecimal_exact hx, isNormal_exact x⟩
    | some d => exact ofDecimal_of_shortestFrom hfound

theorem isSome_toDecimal? (tie : Tie) (x : Float) :
    (toDecimal? tie x).isSome = x.isFinite := by
  unfold toDecimal?
  by_cases hx : x.isFinite = true
  · rw [hx, (ofDecimal_shortest tie hx).1, decide_eq_true rfl]
    rfl
  · rw [Bool.not_eq_true] at hx
    rw [hx, Bool.false_and]
    rfl

theorem isNormal_of_toDecimal? {tie : Tie} {x : Float} {d : Decimal}
    (h : toDecimal? tie x = some d) : d.IsNormal := by
  unfold toDecimal? at h
  split at h
  · next hx =>
    rw [Bool.and_eq_true] at hx
    cases h
    exact (ofDecimal_shortest tie hx.1).2
  · cases h

end Double

instance : Numeral.Lawful Float where
  isSome_toDecimal? := Double.isSome_toDecimal?
  ofDecimal_of_toDecimal? := Double.ofDecimal_of_toDecimal? _ _ _
  isNormal_of_toDecimal? := Double.isNormal_of_toDecimal?
  isFinite_ofDecimal d := by
    have hread : Scalar.isFinite (Numeral.ofDecimal d : Float) = decide (d.size < Decimal.limit) :=
      Double.isFinite_ofDecimal d
    rw [hread, Decimal.isOutOfRange_eq, ← decide_not]
    exact decide_eq_decide.2 not_le.symm
  ofDecimal_ofInt n := by
    have hsign : decide ((n : Int) < 0) = false := decide_eq_false (by omega)
    change Double.ofDecimal (Decimal.ofInt n) = Float.ofScientific n false 0
    unfold Double.ofDecimal Decimal.ofInt
    rw [hsign]
    rfl

end Playfield
