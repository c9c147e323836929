import Mathlib
import Playfield.Decimal.Literal

/-!
# Normal Decimals

Decimals whose digits do not end in a zero.

Many decimals denote one number, and a text can spell out any of them: the zeros
between the digits and the point are written like other digits. What is read is
made normal, so a decimal comes back as it was exactly if it was normal before.

## Main definitions

* `Decimal.size`: The number that a decimal denotes, without its sign.
* `Decimal.IsNormal`: No trailing zero, and no exponent at a zero.
* `Decimal.limit`: The least size that is out of range.

## Theorems

* `Decimal.isNormal_normalize`: Normalizing makes a decimal normal.
* `Decimal.size_normalize`: It does not change the number.
* `Decimal.normalize_shift`: Zeros behind the digits of a normal decimal go away.
* `Decimal.isOutOfRange_eq`: A decimal is out of range from the limit on.
* `Decimal.isOutOfRange_ofInt`: The integers of a document are in range.
-/

namespace Playfield

namespace Decimal

/-- The number that a decimal denotes, without its sign. -/
def size (d : Decimal) : Rat := d.digits * 10 ^ d.exponent

/-- The digits do not end in a zero, and a zero has no exponent. -/
def IsNormal (d : Decimal) : Prop :=
  (d.digits = 0 ∧ d.exponent = 0) ∨ d.digits % 10 ≠ 0

theorem digitCount_pos (n : Nat) : 0 < digitCount n := Nat.length_toDigits_pos

theorem lt_ten_pow_digitCount (n : Nat) : n < 10 ^ digitCount n :=
  (Nat.length_toDigits_le_iff (by norm_num) (digitCount_pos n)).1 le_rfl

theorem ten_pow_le_of_lt_digitCount {n k : Nat} (hn : 0 < n) (h : k < digitCount n) :
    10 ^ k ≤ n := by
  rcases Nat.eq_zero_or_pos k with rfl | hk
  · exact hn
  · by_contra hc
    have hle := (Nat.length_toDigits_le_iff (by norm_num) hk).2 (not_le.1 hc)
    exact absurd h (not_lt.2 hle)

/-- Stripping is undone by writing the zeros again. -/
theorem strip_spec (n d : Nat) (e : Int) :
    ∃ k : Nat, k ≤ n ∧ (strip n d e).2 = e + k ∧ d = (strip n d e).1 * 10 ^ k ∧
      (k < n → (strip n d e).1 % 10 ≠ 0) := by
  induction n generalizing d e with
  | zero => exact ⟨0, le_rfl, by simp [strip], by simp [strip], fun h => absurd h (lt_irrefl 0)⟩
  | succ n ih =>
      rw [strip]
      split
      · next h =>
        rcases ih (d / 10) (e + 1) with ⟨k, hk, hexp, hdig, hlast⟩
        refine ⟨k + 1, by omega, by rw [hexp]; push_cast; ring, ?_, fun hlt => hlast (by omega)⟩
        rw [pow_succ, ← mul_assoc, ← hdig]
        omega
      · next h => exact ⟨0, by omega, by simp, by simp, fun _ => h⟩

theorem strip_digitCount_ne {d : Nat} (h : d ≠ 0) (e : Int) :
    (strip (digitCount d) d e).1 % 10 ≠ 0 := by
  rcases strip_spec (digitCount d) d e with ⟨k, hk, -, hdig, hlast⟩
  rcases Nat.lt_or_eq_of_le hk with hlt | heq
  · exact hlast hlt
  · -- A number is smaller than a one with as many zeros as it has digits.
    exfalso
    have hlt := lt_ten_pow_digitCount d
    rw [heq] at hdig
    have hpos : 0 < (strip (digitCount d) d e).1 := by
      rcases Nat.eq_zero_or_pos (strip (digitCount d) d e).1 with h0 | h0
      · rw [h0, zero_mul] at hdig
        exact absurd hdig h
      · exact h0
    have hle : 10 ^ digitCount d ≤ (strip (digitCount d) d e).1 * 10 ^ digitCount d :=
      Nat.le_mul_of_pos_left _ hpos
    omega

theorem isNormal_normalize (d : Decimal) : d.normalize.IsNormal := by
  unfold normalize
  split
  · exact Or.inl ⟨rfl, rfl⟩
  · next h => exact Or.inr (strip_digitCount_ne h d.exponent)

theorem negative_normalize (d : Decimal) : d.normalize.negative = d.negative := by
  unfold normalize
  split <;> rfl

theorem size_normalize (d : Decimal) : d.normalize.size = d.size := by
  unfold normalize
  split
  · next h =>
    unfold size
    rw [h]
    simp
  · next h =>
    rcases strip_spec (digitCount d.digits) d.digits d.exponent with ⟨k, -, hexp, hdig, -⟩
    unfold size
    dsimp only
    rw [hexp, zpow_add₀ (by norm_num), zpow_natCast]
    nth_rewrite 3 [hdig]
    push_cast
    ring

theorem strip_shift {n d : Nat} (e : Int) (h : d % 10 ≠ 0) {k : Nat} (hk : k ≤ n) :
    strip n (d * 10 ^ k) e = (d, e + k) := by
  induction n generalizing k e with
  | zero =>
      obtain rfl : k = 0 := by omega
      simp [strip]
  | succ n ih =>
      rw [strip]
      cases k with
      | zero => rw [pow_zero, mul_one, if_neg h]; simp
      | succ k =>
          have hdvd : d * 10 ^ (k + 1) = d * 10 ^ k * 10 := by rw [pow_succ, mul_assoc]
          rw [hdvd, if_pos (Nat.mul_mod_left _ _), Nat.mul_div_cancel _ (by norm_num),
            ih (e + 1) (by omega)]
          push_cast
          rw [add_assoc, add_comm (1 : Int)]

/-- Zeros behind the digits go away again. -/
theorem normalize_shift {d : Decimal} (h : d.IsNormal) (k : Nat) :
    normalize ⟨d.negative, d.digits * 10 ^ k, d.exponent - k⟩ = d := by
  rcases d with ⟨negative, digits, exponent⟩
  rcases h with ⟨rfl, rfl⟩ | h
  · rw [normalize, if_pos (by simp)]
  · have h0 : digits * 10 ^ k ≠ 0 := by
      have : digits ≠ 0 := by
        intro hz
        simp [hz] at h
      positivity
    -- There are as many digits as stripping needs: a number with `k` zeros has more than `k`.
    have hk : k ≤ digitCount (digits * 10 ^ k) := by
      by_contra hc
      have hlt := lt_ten_pow_digitCount (digits * 10 ^ k)
      have hpow : 10 ^ digitCount (digits * 10 ^ k) ≤ 10 ^ k :=
        Nat.pow_le_pow_right (by norm_num) (by omega)
      have hge : 10 ^ k ≤ digits * 10 ^ k := Nat.le_mul_of_pos_left _ (by
        rcases Nat.eq_zero_or_pos digits with rfl | hp
        · simp at h0
        · exact hp)
      omega
    rw [normalize, if_neg h0]
    dsimp only
    rw [strip_shift _ h hk]
    dsimp only
    congr 1
    omega

theorem normalize_of_isNormal {d : Decimal} (h : d.IsNormal) : d.normalize = d := by
  have := normalize_shift h 0
  simpa using this

theorem size_lt (d : Decimal) : d.size < 10 ^ d.order := by
  have hdig : (d.digits : Rat) < 10 ^ digitCount d.digits := by
    exact_mod_cast lt_ten_pow_digitCount d.digits
  have hp : (0 : Rat) < 10 ^ d.exponent := by positivity
  unfold size order
  rw [zpow_add₀ (by norm_num), zpow_natCast]
  exact mul_lt_mul_of_pos_right hdig hp

theorem le_size {d : Decimal} (h : 0 < d.digits) : 10 ^ (d.order - 1) ≤ d.size := by
  have hcount := digitCount_pos d.digits
  have hdig : (10 : Rat) ^ (digitCount d.digits - 1) ≤ d.digits := by
    exact_mod_cast ten_pow_le_of_lt_digitCount h (by omega)
  have hp : (0 : Rat) ≤ 10 ^ d.exponent := by positivity
  have hexp : d.order - 1 = ((digitCount d.digits - 1 : Nat) : Int) + d.exponent := by
    unfold order
    omega
  rw [hexp, zpow_add₀ (by norm_num), zpow_natCast]
  exact mul_le_mul_of_nonneg_right hdig hp

/-- The least size that is out of range. -/
def limit : Nat := (2 ^ 54 - 1) * 2 ^ 970

theorem limit_eq_sub : limit = Nat.pow 2 1024 - Nat.pow 2 970 := by decide +kernel

theorem ten_pow_lt_limit : ((10 ^ 299 : Nat) : Rat) < limit := by
  have h : 10 ^ 299 < limit := by decide +kernel
  exact_mod_cast h

theorem limit_lt_ten_pow : (limit : Rat) < ((10 ^ 310 : Nat) : Rat) := by
  have h : limit < 10 ^ 310 := by decide +kernel
  exact_mod_cast h

theorem limit_le_size_iff (d : Decimal) : (limit : Rat) ≤ d.size ↔
    if 0 ≤ d.exponent then limit ≤ d.digits * 10 ^ d.exponent.toNat
    else limit * 10 ^ (-d.exponent).toNat ≤ d.digits := by
  unfold size
  split
  · next h =>
    rw [← Int.toNat_of_nonneg h, zpow_natCast, Int.toNat_natCast]
    exact_mod_cast Iff.rfl
  · next h =>
    have hexp : d.exponent = -((-d.exponent).toNat : Int) := by omega
    have hp : (0 : Rat) < 10 ^ (-d.exponent).toNat := by positivity
    nth_rewrite 1 [hexp]
    rw [zpow_neg, zpow_natCast, ← div_eq_mul_inv, le_div_iff₀ hp]
    exact_mod_cast Iff.rfl

/-- A decimal is out of range from the limit on. -/
theorem isOutOfRange_eq (d : Decimal) : d.isOutOfRange = decide ((limit : Rat) ≤ d.size) := by
  unfold isOutOfRange
  split
  · next h =>
    have hlt : d.size < limit := by
      rw [Bool.or_eq_true, decide_eq_true_eq] at h
      rcases h with h | h
      · have h0 : d.digits = 0 := by simpa [isZero] using h
        unfold size
        rw [h0, Nat.cast_zero, zero_mul]
        exact lt_trans (by positivity) ten_pow_lt_limit
      · -- The order alone decides: the number is far below the limit.
        have hpow : (10 : Rat) ^ d.order ≤ 10 ^ (299 : Int) :=
          zpow_le_zpow_right₀ (by norm_num) (by omega)
        have hcast : (10 : Rat) ^ (299 : Int) = ((10 ^ 299 : Nat) : Rat) := by
          rw [Nat.cast_pow]
          exact zpow_natCast 10 299
        exact ((size_lt d).trans_le (hpow.trans hcast.le)).trans ten_pow_lt_limit
    exact (decide_eq_false (not_le.2 hlt)).symm
  next h =>
  rw [Bool.or_eq_true, not_or] at h
  have hpos : 0 < d.digits := by
    have hz := h.1
    rw [isZero, beq_iff_eq] at hz
    omega
  split
  · -- The order decides again: the number is far above the limit.
    next hbig =>
    have hpow : (10 : Rat) ^ (310 : Int) ≤ 10 ^ (d.order - 1) :=
      zpow_le_zpow_right₀ (by norm_num) (by omega)
    have hcast : ((10 ^ 310 : Nat) : Rat) = (10 : Rat) ^ (310 : Int) := by
      rw [Nat.cast_pow]
      exact (zpow_natCast 10 310).symm
    have hle : (limit : Rat) ≤ d.size :=
      (limit_lt_ten_pow.le.trans (hcast.le.trans hpow)).trans (le_size hpos)
    exact (decide_eq_true hle).symm
  · -- Between the two the number is compared with the limit itself.
    have hiff := limit_le_size_iff d
    dsimp only
    rw [← limit_eq_sub]
    split
    · next he =>
      rw [if_pos he] at hiff
      exact decide_eq_decide.2 hiff.symm
    · next he =>
      rw [if_neg he] at hiff
      exact decide_eq_decide.2 hiff.symm

/-- The integers of a document are in range. -/
theorem isOutOfRange_ofInt {n : Int} (h : isWordSized n = true) :
    (ofInt n).isOutOfRange = false := by
  rw [isWordSized, Bool.and_eq_true, decide_eq_true_eq, decide_eq_true_eq, Nat.pow_eq,
    Nat.pow_eq] at h
  have hword : n.natAbs < 10 ^ 299 := by
    have h64 : n.natAbs ≤ 2 ^ 64 := by omega
    exact h64.trans_lt (by decide +kernel)
  have hsize : (ofInt n).size = ((n.natAbs : Nat) : Rat) := by
    unfold size ofInt
    rw [zpow_zero, mul_one]
  rw [isOutOfRange_eq, hsize, decide_eq_false_iff_not, not_le]
  exact lt_trans (by exact_mod_cast hword) ten_pow_lt_limit

end Decimal

end Playfield
