import Mathlib
import Playfield.Proofs.Double.Rounding

/-!
# Reading Doubles

The double that a decimal is read as is the one nearest to it.

Decimals are read in two ways. Where the digits and the power of ten are doubles
themselves, one multiplication or division of doubles does; otherwise the digits
are multiplied or divided as whole numbers. Both ways round once, at the end, and
what is rounded is the decimal itself. So `Nearest` holds of the result.

## Main definitions

* `Double.quotientPlace`: Where the digits of a quotient are cut off.
* `Double.Stands`: A double with all its digits that is a given number.
* `Double.IsPowerOfTen`: What the table of powers of ten holds.

## Theorems

* `Double.truncation_divCore`: A quotient is cut off late enough.
* `Double.nearest_ofScientific`: Reading by way of whole numbers.
* `Double.nearest_of_small`: Reading by way of two doubles.
* `Double.isFinite_ofDecimal`: A decimal is read as a finite double below the limit.
* `Double.ofDecimal_of_canonical`: A decimal that is a double is read as that double.
-/

namespace Playfield

namespace Double

open Float.Model Float.Model.UnpackedFloat Decimal

/-- The digits of a quotient in front of the point, and where the rest lies. -/
theorem describes_quotient (m d : Nat) (hd : 0 < d) :
    Describes (.ofMantissaAndAccuracy (m / d) (accuracyOfFraction (m % d) d)) ((m : Rat) / d) := by
  have hdq : (0 : Rat) < d := by exact_mod_cast hd
  -- The whole part is the mantissa, and the rest decides the two bits behind it.
  have hsplit : (m : Rat) / d = (m / d : Nat) + ((m % d : Nat) : Rat) / d := by
    have hm : (m : Rat) = d * (m / d : Nat) + (m % d : Nat) := by
      exact_mod_cast (Nat.div_add_mod m d).symm
    nth_rewrite 1 [hm]
    rw [add_div, mul_div_cancel_left₀ _ hdq.ne']
  have hlt : m % d < d := Nat.mod_lt m hd
  rw [hsplit]
  generalize m / d = q
  generalize m % d = r at hlt
  have hrq : (r : Rat) / d < 1 := (div_lt_one hdq).2 (by exact_mod_cast hlt)
  unfold accuracyOfFraction
  by_cases hr : r = 0
  · rw [if_pos hr, hr]
    simp [ExtendedMantissa.ofMantissaAndAccuracy, Describes]
  · have hrpos : (0 : Rat) < (r : Rat) / d := by
      have : (0 : Rat) < r := by exact_mod_cast Nat.pos_of_ne_zero hr
      positivity
    rw [if_neg hr]
    -- Twice the rest against the divisor is the rest against a half.
    rcases lt_trichotomy (2 * r) d with h | h | h
    · have hhalf : (r : Rat) / d < 1 / 2 := by
        have : (2 * r : Rat) < d := by exact_mod_cast h
        rw [div_lt_iff₀ hdq]
        linarith
      rw [Nat.compare_eq_lt.2 h]
      exact ⟨by dsimp only [ExtendedMantissa.ofMantissaAndAccuracy]; linarith,
        by dsimp only [ExtendedMantissa.ofMantissaAndAccuracy]; linarith⟩
    · have hhalf : (r : Rat) / d = 1 / 2 := by
        have : (2 * r : Rat) = d := by exact_mod_cast h
        rw [div_eq_iff hdq.ne']
        linarith
      rw [Nat.compare_eq_eq.2 h, hhalf]
      rfl
    · have hhalf : 1 / 2 < (r : Rat) / d := by
        have : (d : Rat) < 2 * r := by exact_mod_cast h
        rw [lt_div_iff₀ hdq]
        linarith
      rw [Nat.compare_eq_gt.2 h]
      exact ⟨by dsimp only [ExtendedMantissa.ofMantissaAndAccuracy]; linarith,
        by dsimp only [ExtendedMantissa.ofMantissaAndAccuracy]; linarith⟩

/-- The place at which the digits of a quotient are cut off. -/
def quotientPlace (m₁ : Nat) (e₁ : Int) (m₂ : Nat) (e₂ : Int) : Int :=
  min (e₁ - e₂) (max (totalExponent m₁ e₁ - totalExponent m₂ e₂ - 53) (-1074))

theorem divCore_eq (m₁ : Nat) (e₁ : Int) (m₂ : Nat) (e₂ : Int) :
    divCore Format.binary64 m₁ e₁ m₂ e₂ =
      (m₁ * 2 ^ (e₁ - e₂ - quotientPlace m₁ e₁ m₂ e₂).toNat / m₂, quotientPlace m₁ e₁ m₂ e₂,
        accuracyOfFraction (m₁ * 2 ^ (e₁ - e₂ - quotientPlace m₁ e₁ m₂ e₂).toNat % m₂) m₂) := by
  unfold divCore
  rw [targetExponent_binary64]
  dsimp only
  rw [Nat.shiftLeft_eq]
  rfl

theorem quotientPlace_le (m₁ : Nat) (e₁ : Int) (m₂ : Nat) (e₂ : Int) :
    quotientPlace m₁ e₁ m₂ e₂ ≤ e₁ - e₂ := min_le_left _ _

theorem quotient_fine {m₁ m₂ : Nat} (e₁ e₂ : Int) (h₁ : 0 < m₁) (h₂ : 0 < m₂) :
    quotientPlace m₁ e₁ m₂ e₂ ≤ -1074 ∨
      52 ≤ (m₁ * 2 ^ (e₁ - e₂ - quotientPlace m₁ e₁ m₂ e₂).toNat / m₂).log2 := by
  rcases le_or_gt (quotientPlace m₁ e₁ m₂ e₂) (-1074) with hp | hp
  · exact Or.inl hp
  · right
    generalize hk : (e₁ - e₂ - quotientPlace m₁ e₁ m₂ e₂).toNat = k
    -- The dividend is shifted until the quotient has 53 digits.
    have hshift : 53 + m₂.log2 ≤ m₁.log2 + k := by
      unfold quotientPlace totalExponent at hp hk
      omega
    have hm₁ : 2 ^ m₁.log2 ≤ m₁ := Nat.log2_self_le h₁.ne'
    have hm₂ : m₂ < 2 ^ (m₂.log2 + 1) := Nat.lt_log2_self
    have hquot : 2 ^ 52 ≤ m₁ * 2 ^ k / m₂ := by
      refine (Nat.le_div_iff_mul_le h₂).2 ?_
      calc 2 ^ 52 * m₂ ≤ 2 ^ 52 * 2 ^ (m₂.log2 + 1) := Nat.mul_le_mul_left _ hm₂.le
        _ = 2 ^ (53 + m₂.log2) := by rw [← pow_add]; congr 1; omega
        _ ≤ 2 ^ (m₁.log2 + k) := Nat.pow_le_pow_right (by norm_num) hshift
        _ = 2 ^ m₁.log2 * 2 ^ k := pow_add _ _ _
        _ ≤ m₁ * 2 ^ k := Nat.mul_le_mul_right _ hm₁
    exact (Nat.le_log2 (by omega)).2 hquot

theorem truncation_divCore {m₁ m₂ : Nat} (e₁ e₂ : Int) (h₁ : 0 < m₁) (h₂ : 0 < m₂) :
    Truncation ((m₁ * 2 ^ e₁) / (m₂ * 2 ^ e₂)) (divCore Format.binary64 m₁ e₁ m₂ e₂).1
      (divCore Format.binary64 m₁ e₁ m₂ e₂).2.1 (divCore Format.binary64 m₁ e₁ m₂ e₂).2.2 := by
  have hfine := quotient_fine e₁ e₂ h₁ h₂
  have hle := quotientPlace_le m₁ e₁ m₂ e₂
  rw [divCore_eq]
  dsimp only
  generalize quotientPlace m₁ e₁ m₂ e₂ = t at hfine hle ⊢
  refine ⟨?_, by omega⟩
  -- In units of the place, the quotient is that of two whole numbers.
  have hx : (m₁ * 2 ^ e₁ : Rat) / (m₂ * 2 ^ e₂) / 2 ^ t =
      ((m₁ * 2 ^ (e₁ - e₂ - t).toNat : Nat) : Rat) / m₂ := by
    have hpow : (2 : Rat) ^ e₁ = 2 ^ (e₁ - e₂ - t).toNat * (2 ^ e₂ * 2 ^ t) := by
      rw [← zpow_natCast, ← zpow_add₀ (by norm_num), ← zpow_add₀ (by norm_num)]
      congr 1
      omega
    have hm₂ : (0 : Rat) < m₂ := by exact_mod_cast h₂
    rw [hpow]
    push_cast
    field_simp
  rw [hx]
  exact describes_quotient _ _ h₂

theorem truncation_exact {m : Nat} {e : Int} (h : 52 ≤ m.log2 ∨ e ≤ -1074) :
    Truncation (m * 2 ^ e) m e .exact := by
  refine ⟨?_, by omega⟩
  rw [mul_div_assoc, div_self (by positivity), mul_one]
  rfl

theorem nearest_infinity {s : Sign} {v : Rat} (h : (2 : Rat) ^ (1024 : Int) ≤ v) :
    Nearest s v (.infinity s) := by
  have hpos : (0 : Rat) < 2 ^ (1024 : Int) := by positivity
  refine ⟨?_, ?_, ?_⟩
  · rintro rfl
    exact absurd h (not_le.2 hpos)
  · intro n q hc hv
    have hhigh := hc.highest
    have hlt : v < 2 ^ (((53 : Nat) : Int) + q) := hv ▸ natCast_mul_lt q hc.lt
    -- No double is that large.
    have hexp := exponent_lt_of_zpow_lt (h.trans_lt hlt)
    omega
  · have hbig : ¬ v < limit := not_lt.2 (limit_bounds.2.le.trans h)
    rw [decide_eq_false hbig]
    cases s <;> rfl

theorem nearest_zero {s : Sign} {v : Rat} (h : v < (2 : Rat) ^ (-1074 : Int)) :
    Nearest s v (.zero s) := by
  have hone : (2 : Rat) ^ (-1074 : Int) ≤ 2 ^ (1023 : Int) :=
    zpow_le_zpow_right₀ (by norm_num) (by norm_num)
  refine ⟨fun _ => rfl, ?_, ?_⟩
  · intro n q hc hv
    have hlow := hc.lowest
    have hge : (2 : Rat) ^ (((0 : Nat) : Int) + q) ≤ v := hv ▸ le_natCast_mul q hc.pos
    -- No double but zero is that small.
    have hexp := exponent_lt_of_zpow_lt (hge.trans_lt h)
    omega
  · have hsmall : v < limit := (h.trans_le hone).trans limit_bounds.1
    rw [decide_eq_true hsmall]
    cases s <;> rfl

theorem ten_zpow_le_two_zpow {e : Int} (h : e ≤ 0) : (10 : Rat) ^ e ≤ 2 ^ e := by
  obtain ⟨n, rfl⟩ : ∃ n : Nat, e = -n := ⟨(-e).toNat, by omega⟩
  rw [zpow_neg, zpow_neg, zpow_natCast, zpow_natCast]
  exact inv_anti₀ (by positivity) (pow_le_pow_left₀ (by norm_num) (by norm_num) n)

theorem two_zpow_le_ten_zpow {e : Int} (h : 0 ≤ e) : (2 : Rat) ^ e ≤ 10 ^ e := by
  obtain ⟨n, rfl⟩ : ∃ n : Nat, e = n := ⟨e.toNat, by omega⟩
  rw [zpow_natCast, zpow_natCast]
  exact pow_le_pow_left₀ (by norm_num) (by norm_num) n

/-- A power of ten that is far too large. -/
theorem nearest_of_large {m : Nat} {e : Int} (hm : 0 < m) (he : 2048 < e) :
    Nearest .positive (m * 10 ^ e) (.infinity .positive) := by
  have hmq : (1 : Rat) ≤ m := by exact_mod_cast hm
  have hpow : (2 : Rat) ^ (1024 : Int) ≤ 2 ^ e := zpow_le_zpow_right₀ (by norm_num) (by omega)
  have hten : (2 : Rat) ^ e ≤ 10 ^ e := two_zpow_le_ten_zpow (by omega)
  have hmul : (10 : Rat) ^ e ≤ m * 10 ^ e := le_mul_of_one_le_left (by positivity) hmq
  exact nearest_infinity ((hpow.trans hten).trans hmul)

/-- One that is far too small, even for all the digits in front of it. -/
theorem nearest_of_tiny {m : Nat} {e : Int} (he : e < -(2048 + m.log2)) :
    Nearest .positive (m * 10 ^ e) (.zero .positive) := by
  have hten : (10 : Rat) ^ e ≤ 2 ^ e := ten_zpow_le_two_zpow (by omega)
  have hpow : (2 : Rat) ^ (((m.log2 + 1 : Nat) : Int) + e) ≤ 2 ^ (-1074 : Int) :=
    zpow_le_zpow_right₀ (by norm_num) (by push_cast; omega)
  have hlt : (m : Rat) * 2 ^ e < 2 ^ (((m.log2 + 1 : Nat) : Int) + e) :=
    natCast_mul_lt e Nat.lt_log2_self
  have hmul : (m : Rat) * 10 ^ e ≤ m * 2 ^ e := mul_le_mul_of_nonneg_left hten (by positivity)
  exact nearest_zero ((hmul.trans_lt hlt).trans_le hpow)

/-- A whole number is rounded with zeros behind it, so that it has digits enough. -/
theorem nearest_of_nonneg {m : Nat} {e : Int} (hm : 0 < m) (he : 0 ≤ e) :
    Nearest .positive (m * 10 ^ e) (roundWithAccuracy Format.binary64 .positive
      (m <<< 53 * 10 ^ e.toNat) (-53) .exact) := by
  have hlog : 52 ≤ (m <<< 53 * 10 ^ e.toNat).log2 := by
    have hten : 0 < 10 ^ e.toNat := Nat.pow_pos (by norm_num)
    have hge : 2 ^ 53 ≤ m <<< 53 * 10 ^ e.toNat := by
      rw [Nat.shiftLeft_eq]
      calc 2 ^ 53 = 1 * 2 ^ 53 * 1 := by norm_num
        _ ≤ m * 2 ^ 53 * 10 ^ e.toNat := by gcongr <;> omega
    exact (Nat.le_log2 (by omega)).2 (by omega)
  have hv : (m : Rat) * (10 : Rat) ^ e =
      ((m <<< 53 * 10 ^ e.toNat : Nat) : Rat) * 2 ^ (-53 : Int) := by
    have hpow : (10 : Rat) ^ e = 10 ^ e.toNat := by
      rw [← zpow_natCast, Int.toNat_of_nonneg he]
    rw [hpow, Nat.shiftLeft_eq, zpow_neg]
    push_cast
    field_simp
  rw [hv]
  exact (truncation_exact (Or.inl hlog)).nearest .positive

/-- A number with places behind the point is a quotient of whole numbers. -/
theorem natCast_mul_zpow_of_neg (m : Nat) {e : Int} (he : e < 0) : (m : Rat) * (10 : Rat) ^ e =
    (m * 2 ^ (0 : Int)) / ((10 ^ (-e).toNat : Nat) * 2 ^ (0 : Int)) := by
  have hpow : (10 : Rat) ^ e = (10 ^ (-e).toNat)⁻¹ := by
    rw [← zpow_natCast, ← zpow_neg]
    congr 1
    omega
  rw [hpow, zpow_zero, mul_one, mul_one, div_eq_mul_inv]
  push_cast
  rfl

/-- Reading by way of whole numbers of any size. -/
theorem nearest_ofScientific (m : Nat) (e : Int) :
    Nearest .positive (m * 10 ^ e) (UnpackedFloat.ofScientific Format.binary64 m e) := by
  unfold UnpackedFloat.ofScientific
  split
  · next hm =>
    rw [hm, Nat.cast_zero, zero_mul]
    exact nearest_zero (by positivity)
  next hm =>
  have hm0 : 0 < m := Nat.pos_of_ne_zero hm
  split
  · next hbig => exact nearest_of_large hm0 (by simpa using hbig)
  split
  · next hsmall => exact nearest_of_tiny (by simpa using hsmall)
  split
  · next hnonneg => exact nearest_of_nonneg hm0 hnonneg
  · next hneg =>
    rw [natCast_mul_zpow_of_neg m (by omega)]
    exact (truncation_divCore 0 0 hm0 (Nat.pow_pos (by norm_num))).nearest .positive

/-- A double that is a positive number and uses all digits of its mantissa. -/
def Stands (x : Float) (v : Rat) : Prop :=
  ∃ n : Nat, ∃ q : Int, ∃ h : 0 < n,
    2 ^ 52 ≤ n ∧ v = n * 2 ^ q ∧ x.toModel.unpack = .finite .positive n q h

theorem nearest_mul {x y : Float} {v w : Rat} (hx : Stands x v) (hy : Stands y w) :
    ∃ u, (x * y).toModel = .pack u ∧ Nearest .positive (v * w) u := by
  rcases hx with ⟨m, p, hm, hmlead, rfl, hxu⟩
  rcases hy with ⟨n, q, hn, hnlead, rfl, hyu⟩
  have hmul : (x * y).toModel =
      .pack (UnpackedFloat.mul Format.binary64 x.toModel.unpack y.toModel.unpack) := rfl
  -- The product of two such mantissas has digits enough to be rounded once.
  have hlog : 52 ≤ (m * n).log2 :=
    (Nat.le_log2 (Nat.mul_pos hm hn).ne').2 (hmlead.trans (Nat.le_mul_of_pos_right m hn))
  have hv : (m : Rat) * 2 ^ p * (n * 2 ^ q) = ((m * n : Nat) : Rat) * 2 ^ (p + q) := by
    rw [zpow_add₀ (by norm_num)]
    push_cast
    ring
  rw [hmul, hxu, hyu, hv]
  exact ⟨_, rfl, (truncation_exact (Or.inl hlog)).nearest .positive⟩

theorem nearest_div {x y : Float} {v w : Rat} (hx : Stands x v) (hy : Stands y w) :
    ∃ u, (x / y).toModel = .pack u ∧ Nearest .positive (v / w) u := by
  rcases hx with ⟨m, p, hm, -, rfl, hxu⟩
  rcases hy with ⟨n, q, hn, -, rfl, hyu⟩
  have hdiv : (x / y).toModel =
      .pack (UnpackedFloat.div Format.binary64 x.toModel.unpack y.toModel.unpack) := rfl
  rw [hdiv, hxu, hyu]
  exact ⟨_, rfl, (truncation_divCore p q hm hn).nearest .positive⟩

/-- What a table of powers of ten has to hold at a place. -/
def IsPowerOfTen (x : Float) (e : Nat) : Prop :=
  x.isFinite = true ∧ isNegative x = false ∧ 2 ^ 52 ≤ (magnitude x).1 ∧
    -52 ≤ (magnitude x).2 ∧
    (magnitude x).1 * 2 ^ ((magnitude x).2 + 52).toNat = 10 ^ e * 2 ^ 52

instance (x : Float) (e : Nat) : Decidable (IsPowerOfTen x e) :=
  inferInstanceAs (Decidable (_ ∧ _ ∧ _ ∧ _ ∧ _))

theorem isPowerOfTen_table (e : Fin 23) :
    IsPowerOfTen (Float.exactlyRepresentablePowersOfTen[e.val]) e := by
  revert e
  decide +kernel

theorem stands_powerOfTen {x : Float} {e : Nat} (h : IsPowerOfTen x e) : Stands x (10 ^ e) := by
  rcases h with ⟨hfin, hsign, hlead, hlow, hval⟩
  rcases toModel_cases x hfin with ⟨h0, _⟩ | ⟨hc, hmodel⟩
  · omega
  · rw [hsign] at hmodel
    have hunpack : x.toModel.unpack =
        .finite .positive (magnitude x).1 (magnitude x).2 hc.pos := by
      rw [hmodel]
      exact unpack_pack hc _
    refine ⟨(magnitude x).1, (magnitude x).2, hc.pos, hlead, ?_, hunpack⟩
    generalize (magnitude x).1 = n at hval
    generalize (magnitude x).2 = q at hval hlow
    -- The equation between whole numbers that has been checked, divided by a power of two.
    have hq : ((n * 2 ^ (q + 52).toNat : Nat) : Rat) = ((10 ^ e * 2 ^ 52 : Nat) : Rat) :=
      congrArg _ hval
    have hpow : (2 : Rat) ^ (q + 52).toNat = 2 ^ q * 2 ^ 52 := by
      rw [← zpow_natCast, Int.toNat_of_nonneg (by omega), zpow_add₀ (by norm_num)]
      rfl
    push_cast at hq
    rw [hpow, ← mul_assoc] at hq
    exact (mul_right_cancel₀ (by norm_num) hq).symm

theorem round_natCast {m : Nat} (h0 : 0 < m) (h : m < 2 ^ 53) :
    UnpackedFloat.round Format.binary64 .positive m 0 =
      roundWithAccuracy Format.binary64 .positive (m * 2 ^ (52 - m.log2))
        (-((52 - m.log2 : Nat) : Int)) .exact := by
  have hlog : m.log2 < 53 := (Nat.log2_lt h0.ne').2 h
  have hshift : (0 - max (totalExponent m 0 - 53) (-1074)).toNat = 52 - m.log2 := by
    unfold totalExponent
    omega
  unfold UnpackedFloat.round decreaseExponent
  rw [targetExponent_binary64]
  dsimp only
  rw [hshift, Nat.shiftLeft_eq, Int.zero_sub]

/-- A whole number with room in a mantissa. Zeros are put behind its digits until there are 53. -/
theorem canonical_natCast {m : Nat} (h0 : 0 < m) (h : m < 2 ^ 53) :
    Canonical (m * 2 ^ (52 - m.log2)) (-((52 - m.log2 : Nat) : Int)) ∧
      2 ^ 52 ≤ m * 2 ^ (52 - m.log2) ∧
      (m : Rat) = ((m * 2 ^ (52 - m.log2) : Nat) : Rat) * 2 ^ (-((52 - m.log2 : Nat) : Int)) := by
  have hlog : m.log2 < 53 := (Nat.log2_lt h0.ne').2 h
  have hlow : 2 ^ 52 ≤ m * 2 ^ (52 - m.log2) := by
    calc 2 ^ 52 = 2 ^ m.log2 * 2 ^ (52 - m.log2) := by rw [← pow_add]; congr 1; omega
      _ ≤ m * 2 ^ (52 - m.log2) := Nat.mul_le_mul_right _ (Nat.log2_self_le h0.ne')
  have hhigh : m * 2 ^ (52 - m.log2) < 2 ^ 53 := by
    calc m * 2 ^ (52 - m.log2) < 2 ^ (m.log2 + 1) * 2 ^ (52 - m.log2) :=
          Nat.mul_lt_mul_of_pos_right Nat.lt_log2_self (Nat.two_pow_pos _)
      _ = 2 ^ 53 := by rw [← pow_add]; congr 1; omega
  refine ⟨⟨by omega, hhigh, by omega, by omega, Or.inl hlow⟩, hlow, ?_⟩
  rw [zpow_neg, zpow_natCast]
  push_cast
  field_simp

theorem stands_toFloat {m : Nat} (h0 : 0 < m) (h : m < 2 ^ 53) : Stands m.toUInt64.toFloat m := by
  have hm : m.toUInt64.toNat = m := by
    rw [Nat.toUInt64_eq, UInt64.toNat_ofNat']
    omega
  have hmodel : m.toUInt64.toFloat.toModel =
      .pack (UnpackedFloat.ofNat Format.binary64 m.toUInt64.toNat) := rfl
  have hround : UnpackedFloat.ofNat Format.binary64 m =
      UnpackedFloat.round Format.binary64 .positive m 0 := by
    have hgt : compare (m : Int) 0 = .gt := Int.compare_eq_gt.2 (by omega)
    unfold UnpackedFloat.ofNat UnpackedFloat.ofInt UnpackedFloat.normalize
    rw [hgt]
    rfl
  -- With all 53 digits the mantissa is exact, and rounding changes nothing.
  obtain ⟨hc, hlow, hval⟩ := canonical_natCast h0 h
  have hexact := (truncation_exact (e := -((52 - m.log2 : Nat) : Int))
    (Or.inl ((Nat.le_log2 hc.pos.ne').2 hlow))).nearest .positive
  refine ⟨_, _, hc.pos, hlow, hval, ?_⟩
  rw [hmodel, hm, hround, round_natCast h0 h, hexact.exact _ _ hc rfl, unpack_pack hc]

/-- Reading by way of two doubles, where both are exact. -/
theorem nearest_of_small {m e : Nat} (s : Bool) (hm : m < 2 ^ 53) (he : e ≤ 22) :
    ∃ u, (Float.ofScientific m s e).toModel = .pack u ∧
      Nearest .positive (m * 10 ^ (if s then -(e : Int) else e)) u := by
  have hpow := stands_powerOfTen (isPowerOfTen_table ⟨e, by omega⟩)
  have hlt : e < 23 := Nat.lt_succ_of_le he
  -- Both operands are doubles exactly, so the one operation rounds once.
  have htable : Float.ofScientific m s e =
      if s then m.toUInt64.toFloat / Float.exactlyRepresentablePowersOfTen[e]
      else m.toUInt64.toFloat * Float.exactlyRepresentablePowersOfTen[e] := by
    unfold Float.ofScientific
    rw [dif_pos ⟨hm, he⟩]
    rfl
  rw [htable]
  dsimp only at hpow
  generalize Float.exactlyRepresentablePowersOfTen[e] = y at hpow ⊢
  rcases Nat.eq_zero_or_pos m with rfl | h0
  · rcases hpow with ⟨n, q, hn, -, -, hu⟩
    -- Zero is no double with a leading digit, so it is taken by itself.
    have hzero : (Nat.toUInt64 0).toFloat.toModel.unpack = .zero .positive := rfl
    refine ⟨.zero .positive, ?_, ?_⟩
    · cases s
      · have hmul : ((Nat.toUInt64 0).toFloat * y).toModel = .pack (UnpackedFloat.mul
            Format.binary64 (Nat.toUInt64 0).toFloat.toModel.unpack y.toModel.unpack) := rfl
        rw [if_neg (by simp), hmul, hzero, hu]
        rfl
      · have hdiv : ((Nat.toUInt64 0).toFloat / y).toModel = .pack (UnpackedFloat.div
            Format.binary64 (Nat.toUInt64 0).toFloat.toModel.unpack y.toModel.unpack) := rfl
        rw [if_pos rfl, hdiv, hzero, hu]
        rfl
    · rw [Nat.cast_zero, zero_mul]
      exact nearest_zero (by positivity)
  · cases s
    · have hmul := nearest_mul (stands_toFloat h0 hm) hpow
      simpa using hmul
    · have hdiv := nearest_div (stands_toFloat h0 hm) hpow
      simpa [div_eq_mul_inv] using hdiv

/-- What is read is the nearest double. -/
theorem nearest_of_scientific (m : Nat) (s : Bool) (e : Nat) :
    ∃ u, (Float.ofScientific m s e).toModel = .pack u ∧
      Nearest .positive (m * 10 ^ (if s then -(e : Int) else e)) u := by
  by_cases h : m < 2 ^ 53 ∧ e ≤ 22
  · exact nearest_of_small s h.1 h.2
  · have hmodel : (Float.ofScientific m s e).toModel = .pack (UnpackedFloat.ofScientific
        Format.binary64 m (if s then Int.negOfNat e else Int.ofNat e)) := by
      unfold Float.ofScientific
      rw [dif_neg h]
      rfl
    have hexp : (if s then -(e : Int) else e) = if s then Int.negOfNat e else Int.ofNat e := by
      rw [Int.negOfNat_eq]
      rfl
    rw [hexp]
    exact ⟨_, hmodel, nearest_ofScientific _ _⟩

/-- A whole number that is a double is read as itself. -/
theorem stands_ofNat {n m : Nat} {q : Int} (h : Canonical m q) (hlead : 2 ^ 52 ≤ m)
    (hv : (n : Rat) = m * 2 ^ q) : Stands (Scalar.ofNat n : Float) n := by
  rcases nearest_of_scientific n false 0 with ⟨u, hmodel, hnear⟩
  have hu := hnear.exact m q h (by simpa using hv)
  refine ⟨m, q, h.pos, hlead, hv, ?_⟩
  change (Float.ofScientific n false 0).toModel.unpack = _
  rw [hmodel, hu, unpack_pack h]

theorem nearest_ofDecimal (d : Decimal) :
    ∃ u, Nearest .positive (d.size) u ∧
      ofDecimal d = if d.negative then -Float.ofModel (.pack u) else Float.ofModel (.pack u) := by
  obtain ⟨u, hmodel, hnear⟩ :=
    nearest_of_scientific d.digits (decide (d.exponent < 0)) d.exponent.natAbs
  have hexp : (if decide (d.exponent < 0) = true then -(d.exponent.natAbs : Int)
      else (d.exponent.natAbs : Int)) = d.exponent := by
    split
    · next h =>
      have := of_decide_eq_true h
      omega
    · next h =>
      rw [decide_eq_true_eq] at h
      omega
  rw [hexp] at hnear
  refine ⟨u, hnear, ?_⟩
  rw [ofDecimal, ← hmodel]

/-- A decimal is read as a finite double unless it reaches the limit. -/
theorem isFinite_ofDecimal (d : Decimal) : (ofDecimal d).isFinite = decide (d.size < limit) := by
  rcases nearest_ofDecimal d with ⟨u, hnear, heq⟩
  have hfin : (Float.ofModel (.pack u)).isFinite = decide (d.size < limit) := hnear.finite
  rw [heq]
  split
  · rw [isFinite_neg, hfin]
  · exact hfin

theorem ofDecimal_of_canonical {d : Decimal} {m : Nat} {q : Int} (h : Canonical m q)
    (hv : d.size = m * 2 ^ q) :
    (ofDecimal d).toModel = .pack (.finite (signOf d.negative) m q h.pos) := by
  rcases nearest_ofDecimal d with ⟨u, hnear, heq⟩
  rw [heq, hnear.exact m q h hv]
  cases d.negative
  · rfl
  · rw [if_pos rfl, neg_toModel, unpack_pack h]
    rfl

theorem ofDecimal_of_zero {d : Decimal} (hv : d.size = 0) :
    (ofDecimal d).toModel = .pack (.zero (signOf d.negative)) := by
  rcases nearest_ofDecimal d with ⟨u, hnear, heq⟩
  rw [heq, hnear.zero hv]
  cases d.negative
  · rfl
  · rw [if_pos rfl, neg_toModel, unpack_pack_zero]
    rfl

end Double

end Playfield
