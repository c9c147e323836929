import Mathlib
import Playfield.Proofs.Decimal.Normal
import Playfield.Proofs.Double.Packing

/-!
# Rounding to Doubles

What rounding does to a number that has no room in a double.

A number is rounded in two steps. Its digits are cut off at the place of the last
digit that a double of its size has, and two bits remember whether what is cut
off is less than a half of that place, a half, more, or nothing (`Describes`).
Then the mantissa goes up or stays. If that gives it a digit too many, the number
is the first of the next binade and is carried there (`carried`).

Two questions are asked of the result here: which number it is if the number is a
double already, and whether it is finite. `Nearest` holds the two answers. The
number that decides the second is `Decimal.limit`, half a place above the largest
double.

## Main definitions

* `Double.Describes`: Where a number lies above its mantissa.
* `Double.Truncation`: A number with its digits cut off at a place.
* `Double.Nearest`: What is known of the double that is nearest to a number.

## Theorems

* `Double.describes_shiftRight`: A shift moves the point and forgets nothing.
* `Double.Truncation.exists_rounded`: The result of rounding, by its mantissa.
* `Double.Truncation.nearest`: The result of rounding is the nearest double.
-/

namespace Playfield

namespace Double

open Float.Model Float.Model.UnpackedFloat Decimal

/-- The mantissa and the two bits behind it tell where a number lies. -/
def Describes (em : ExtendedMantissa) (x : Rat) : Prop :=
  match em.roundBit, em.stickyBit with
  | false, false => x = em.mantissa
  | false, true => em.mantissa < x ∧ x < em.mantissa + 1 / 2
  | true, false => x = em.mantissa + 1 / 2
  | true, true => em.mantissa + 1 / 2 < x ∧ x < em.mantissa + 1

theorem describes_bounds {em : ExtendedMantissa} {x : Rat} (h : Describes em x) :
    (em.mantissa : Rat) ≤ x ∧ x < em.mantissa + 1 := by
  rcases em with ⟨m, r, s⟩
  cases r <;> cases s <;> simp only [Describes] at h ⊢ <;> constructor <;> linarith

theorem describes_shiftRightOne {em : ExtendedMantissa} {x : Rat} (h : Describes em x) :
    Describes em.shiftRightOne (x / 2) := by
  rcases em with ⟨m, r, s⟩
  -- The bit that leaves the mantissa becomes the round bit.
  rcases Nat.even_or_odd' m with ⟨k, rfl | rfl⟩
  · have hd : 2 * k / 2 = k := by omega
    have hm : 2 * k % 2 = 0 := by omega
    cases r <;> cases s <;>
      simp only [Describes, ExtendedMantissa.shiftRightOne, hd, hm] at h ⊢ <;> push_cast at h ⊢
    · simp only [Bool.or_self]
      linarith
    · simp
      constructor <;> linarith
    · simp
      constructor <;> linarith
    · simp
      constructor <;> linarith
  · have hd : (2 * k + 1) / 2 = k := by omega
    have hm : (2 * k + 1) % 2 = 1 := by omega
    cases r <;> cases s <;>
      simp only [Describes, ExtendedMantissa.shiftRightOne, hd, hm] at h ⊢ <;> push_cast at h ⊢
    · simp
      linarith
    · simp
      constructor <;> linarith
    · simp
      constructor <;> linarith
    · simp
      constructor <;> linarith

theorem describes_shiftRight {em : ExtendedMantissa} {x : Rat} (h : Describes em x) (n : Nat) :
    Describes (em >>> n) (x / 2 ^ n) := by
  -- One place at a time.
  induction n with
  | zero => simpa [HShiftRight.hShiftRight, Nat.repeat] using h
  | succ n ih =>
      have hs : em >>> (n + 1) = (em >>> n).shiftRightOne := rfl
      rw [hs, pow_succ, ← div_div]
      exact describes_shiftRightOne ih

theorem roundedMantissa_natCast {em : ExtendedMantissa} {n : Nat} (h : Describes em n) :
    em.roundedMantissa = n := by
  rcases em with ⟨m, r, s⟩
  cases r <;> cases s <;>
    simp only [Describes, ExtendedMantissa.roundedMantissa, ExtendedMantissa.accuracy,
      Accuracy.roundToNearestEven] at h ⊢
  · exact_mod_cast h.symm
  · have h1 : m < n := by exact_mod_cast h.1
    have h2 : (n : Rat) < m + 1 := by linarith [h.2]
    have h3 : n < m + 1 := by exact_mod_cast h2
    omega
  · have h1 : (2 * n : Rat) = 2 * m + 1 := by linarith
    have h2 : 2 * n = 2 * m + 1 := by exact_mod_cast h1
    omega
  · have h1 : (m : Rat) < n := by linarith [h.1]
    have h2 : m < n := by exact_mod_cast h1
    have h3 : n < m + 1 := by exact_mod_cast h.2
    omega

theorem roundedMantissa_bounds (em : ExtendedMantissa) :
    em.mantissa ≤ em.roundedMantissa ∧ em.roundedMantissa ≤ em.mantissa + 1 := by
  rcases em with ⟨m, r, s⟩
  cases r <;> cases s <;>
    simp only [ExtendedMantissa.roundedMantissa, ExtendedMantissa.accuracy,
      Accuracy.roundToNearestEven] <;> omega

theorem roundedMantissa_le {em : ExtendedMantissa} {x : Rat} {n : Nat} (h : Describes em x)
    (hx : x < n + 1 / 2) : em.roundedMantissa ≤ n := by
  have hb := roundedMantissa_bounds em
  -- The mantissa is not above, and if it is below there is room for rounding up.
  have hm : em.mantissa ≤ n := by
    have h1 : (em.mantissa : Rat) < n + 1 := by linarith [(describes_bounds h).1]
    have h2 : em.mantissa < n + 1 := by exact_mod_cast h1
    omega
  rcases Nat.lt_or_ge em.mantissa n with hlt | hge
  · omega
  have heq : em.mantissa = n := by omega
  rcases em with ⟨m, r, s⟩
  simp only at heq
  subst heq
  -- Half a unit above the mantissa would be too far.
  cases r <;> cases s <;>
    simp only [Describes, ExtendedMantissa.roundedMantissa, ExtendedMantissa.accuracy,
      Accuracy.roundToNearestEven] at h ⊢
  · omega
  · omega
  · linarith
  · linarith [h.1]

theorem le_roundedMantissa {em : ExtendedMantissa} {x : Rat} {n : Nat} (h : Describes em x)
    (hn : n % 2 = 1) (hx : n + 1 / 2 ≤ x) : n + 1 ≤ em.roundedMantissa := by
  have hb := roundedMantissa_bounds em
  -- The mantissa is not below. If it is the same, it is odd and a tie goes away from it.
  have hm : n ≤ em.mantissa := by
    have h1 : (n : Rat) < em.mantissa + 1 := by linarith [(describes_bounds h).2]
    have h2 : n < em.mantissa + 1 := by exact_mod_cast h1
    omega
  rcases Nat.lt_or_ge n em.mantissa with hlt | hge
  · omega
  have heq : em.mantissa = n := by omega
  rcases em with ⟨m, r, s⟩
  simp only at heq
  subst heq
  cases r <;> cases s <;>
    simp only [Describes, ExtendedMantissa.roundedMantissa, ExtendedMantissa.accuracy,
      Accuracy.roundToNearestEven] at h ⊢
  · linarith
  · linarith [h.2]
  · omega
  · omega

/-- The exponent of a double whose first digit has a place. -/
theorem targetExponent_binary64 (t : Int) :
    Format.binary64.targetExponent t = max (t - 53) (-1074) := by
  simp [Format.targetExponent, Format.mantissaBits, Format.minExponent]

theorem shiftToExponent_eq (m : Nat) (e : Int) (a : Accuracy) {t : Int} (h : e ≤ t) :
    shiftToExponent m e a t =
      (ExtendedMantissa.ofMantissaAndAccuracy m a >>> (t - e).toNat, t) := by
  simp only [shiftToExponent]
  congr 1
  omega

theorem shiftToTargetExponent_small {n : Nat} {t : Int} (hn : n < 2 ^ 53) (ht : -1074 ≤ t) :
    shiftToTargetExponent Format.binary64 n t .exact = (⟨n, false, false⟩, t) := by
  have hl : n.log2 < 53 := by
    by_cases h0 : n = 0
    · simp [h0]
    · exact (Nat.log2_lt h0).2 hn
  have hle : max ((n.log2 : Int) + 1 + t - 53) (-1074) - t ≤ 0 := by omega
  simp only [shiftToTargetExponent, targetExponent_binary64, totalExponent, shiftToExponent]
  rw [Int.toNat_eq_zero.2 hle]
  simp [ExtendedMantissa.ofMantissaAndAccuracy, HShiftRight.hShiftRight, Nat.repeat]

theorem shiftToTargetExponent_carry {t : Int} (ht : -1074 ≤ t) :
    shiftToTargetExponent Format.binary64 (2 ^ 53) t .exact =
      (⟨2 ^ 52, false, false⟩, t + 1) := by
  have hl : max (((2 ^ 53 : Nat).log2 : Int) + 1 + t - 53) (-1074) = t + 1 := by
    rw [Nat.log2_two_pow]
    omega
  simp only [shiftToTargetExponent, targetExponent_binary64, totalExponent, hl]
  rw [shiftToExponent_eq _ _ _ (by omega), show (t + 1 - t).toNat = 1 by omega]
  rfl

/-- A mantissa of at most 53 bits at an exponent, with a carry into the next binade. -/
def carried (s : Sign) (n : Nat) (t : Int) : UnpackedFloat :=
  if h : n = 0 then .zero s
  else if n < 2 ^ 53 then .finite s n t (Nat.pos_of_ne_zero h)
  else .finite s (2 ^ 52) (t + 1) (by decide)

/-- A number with its digits cut off at a place. -/
structure Truncation (v : Rat) (m : Nat) (e : Int) (a : Accuracy) : Prop where
  describes : Describes (.ofMantissaAndAccuracy m a) (v / 2 ^ e)
  /-- Nothing is cut off that a double has room for. -/
  fine : e ≤ max (m.log2 + 1 + e - 53) (-1074)

namespace Truncation

variable {v : Rat} {m : Nat} {e : Int} {a : Accuracy}

theorem mantissa_le (h : Truncation v m e a) : (m : Rat) * 2 ^ e ≤ v ∧ v < (m + 1) * 2 ^ e := by
  have hp : (0 : Rat) < 2 ^ e := by positivity
  have hb := describes_bounds h.describes
  have hm : (ExtendedMantissa.ofMantissaAndAccuracy m a).mantissa = m := by
    cases a with
    | exact => rfl
    | inexact o => cases o <;> rfl
  rw [hm] at hb
  exact ⟨(le_div_iff₀ hp).1 hb.1, (div_lt_iff₀ hp).1 hb.2⟩

theorem lt_two_zpow (h : Truncation v m e a) : v < 2 ^ ((m.log2 : Int) + 1 + e) := by
  have hm : m + 1 ≤ 2 ^ (m.log2 + 1) := Nat.lt_log2_self
  have hq : ((m : Rat) + 1) ≤ 2 ^ (m.log2 + 1) := by exact_mod_cast hm
  have hp : (0 : Rat) < 2 ^ e := by positivity
  have hcast : ((m.log2 : Int) + 1) = ((m.log2 + 1 : Nat) : Int) := by push_cast; rfl
  rw [zpow_add₀ (by norm_num), hcast, zpow_natCast]
  nlinarith [h.mantissa_le.2]

theorem two_zpow_le (h : Truncation v m e a) (hm : 0 < m) :
    (2 : Rat) ^ ((m.log2 : Int) + e) ≤ v := by
  have hl : 2 ^ m.log2 ≤ m := Nat.log2_self_le (by omega)
  have hq : (2 : Rat) ^ m.log2 ≤ m := by exact_mod_cast hl
  have hp : (0 : Rat) < 2 ^ e := by positivity
  rw [zpow_add₀ (by norm_num), zpow_natCast]
  nlinarith [h.mantissa_le.1]

/-- The exponent of the double nearest to the number, a carry aside. -/
def place (m : Nat) (e : Int) : Int := max ((m.log2 : Int) + 1 + e - 53) (-1074)

theorem roundWithAccuracy_eq (s : Sign) (hfine : e ≤ place m e)
    (hle : (ExtendedMantissa.ofMantissaAndAccuracy m a >>>
      (place m e - e).toNat).roundedMantissa ≤ 2 ^ 53) :
    roundWithAccuracy Format.binary64 s m e a =
      carried s (ExtendedMantissa.ofMantissaAndAccuracy m a >>>
        (place m e - e).toNat).roundedMantissa (place m e) := by
  have ht : -1074 ≤ place m e := le_max_right _ _
  -- Rounding may carry into one more digit. Then the digits are shifted once more, and this
  -- time nothing is cut off.
  have hfirst : shiftToTargetExponent Format.binary64 m e a =
      (ExtendedMantissa.ofMantissaAndAccuracy m a >>> (place m e - e).toNat, place m e) := by
    simp only [shiftToTargetExponent, targetExponent_binary64, totalExponent]
    exact shiftToExponent_eq m e a hfine
  rw [roundWithAccuracy, hfirst]
  dsimp only
  generalize (ExtendedMantissa.ofMantissaAndAccuracy m a >>> (place m e - e).toNat) = em at hle ⊢
  rcases Nat.lt_or_ge em.roundedMantissa (2 ^ 53) with hlt | hge
  · rw [shiftToTargetExponent_small hlt ht]
    simp only [carried, hlt, if_true]
  · rw [show em.roundedMantissa = 2 ^ 53 by omega, shiftToTargetExponent_carry ht]
    rfl

theorem describes_place (h : Truncation v m e a) :
    Describes (ExtendedMantissa.ofMantissaAndAccuracy m a >>> (place m e - e).toNat)
      (v / 2 ^ place m e) := by
  have hfine : e ≤ place m e := h.fine
  have hd := describes_shiftRight h.describes (place m e - e).toNat
  rwa [div_div, ← zpow_natCast, ← zpow_add₀ (by norm_num),
    show e + ((place m e - e).toNat : Int) = place m e by omega] at hd

/-- At most 53 digits of the number stand above its place. -/
theorem lt_place (h : Truncation v m e a) : v < 2 ^ ((53 : Int) + place m e) := by
  refine h.lt_two_zpow.trans_le (zpow_le_zpow_right₀ (by norm_num) ?_)
  unfold place
  omega

/-- Exactly 53 digits do, unless the place is the last one. -/
theorem place_le (h : Truncation v m e a) (hp : -1074 < place m e) :
    (2 : Rat) ^ ((52 : Int) + place m e) ≤ v := by
  have hfine : e ≤ place m e := h.fine
  have hm : 0 < m := by
    -- A number without a mantissa is below the last place.
    rcases Nat.eq_zero_or_pos m with rfl | hm
    · unfold place at hfine hp
      rw [Nat.log2_zero] at hfine hp
      omega
    · exact hm
  -- Above the last place, the place is 52 digits behind the first one.
  have hexp : (52 : Int) + place m e = m.log2 + e := by
    unfold place at hp ⊢
    omega
  rw [hexp]
  exact h.two_zpow_le hm

theorem exists_rounded (h : Truncation v m e a) (s : Sign) :
    ∃ em, Describes em (v / 2 ^ place m e) ∧ em.roundedMantissa ≤ 2 ^ 53 ∧
      roundWithAccuracy Format.binary64 s m e a = carried s em.roundedMantissa (place m e) := by
  have hd := h.describes_place
  have hle : (ExtendedMantissa.ofMantissaAndAccuracy m a >>>
      (place m e - e).toNat).roundedMantissa ≤ 2 ^ 53 := by
    -- The number has at most 53 digits above its place.
    refine roundedMantissa_le hd ?_
    have hlt := h.lt_place
    rw [zpow_add₀ (by norm_num)] at hlt
    have hp : (0 : Rat) < 2 ^ place m e := by positivity
    have hx : v / 2 ^ place m e < 2 ^ (53 : Int) := (div_lt_iff₀ hp).2 hlt
    have hn : ((2 ^ 53 : Nat) : Rat) = 2 ^ (53 : Int) := by norm_num
    linarith
  exact ⟨_, hd, hle, roundWithAccuracy_eq s h.fine hle⟩

end Truncation

theorem natCast_mul_lt {n k : Nat} (q : Int) (h : n < 2 ^ k) :
    (n : Rat) * 2 ^ q < 2 ^ ((k : Int) + q) := by
  have hn : (n : Rat) < 2 ^ k := by exact_mod_cast h
  have hq : (0 : Rat) < 2 ^ q := by positivity
  rw [zpow_add₀ (by norm_num), zpow_natCast]
  nlinarith

theorem le_natCast_mul {n k : Nat} (q : Int) (h : 2 ^ k ≤ n) :
    (2 : Rat) ^ ((k : Int) + q) ≤ n * 2 ^ q := by
  have hn : (2 : Rat) ^ k ≤ n := by exact_mod_cast h
  have hq : (0 : Rat) < 2 ^ q := by positivity
  rw [zpow_add₀ (by norm_num), zpow_natCast]
  nlinarith

theorem exponent_lt_of_zpow_lt {i j : Int} (h : (2 : Rat) ^ i < 2 ^ j) : i < j :=
  (zpow_lt_zpow_iff_right₀ (by norm_num)).1 h

namespace Truncation

variable {v : Rat} {m : Nat} {e : Int} {a : Accuracy}

/-- A number is cut off at the place of its own last digit if it is a double. -/
theorem place_eq_of_canonical (h : Truncation v m e a) {n : Nat} {q : Int} (hc : Canonical n q)
    (hv : v = n * 2 ^ q) : place m e = q := by
  have hfine := h.fine
  have hlow := hc.lowest
  have hup := h.lt_two_zpow
  have hlt : v < 2 ^ (((53 : Nat) : Int) + q) := hv ▸ natCast_mul_lt q hc.lt
  unfold place
  -- The first digit of the number stands where its mantissa says, or the place is the last one.
  rcases hc.leading with hlead | hleast
  · have hge : (2 : Rat) ^ (((52 : Nat) : Int) + q) ≤ v := hv ▸ le_natCast_mul q hlead
    have h1 := exponent_lt_of_zpow_lt (hge.trans_lt hup)
    rcases Nat.eq_zero_or_pos m with rfl | hm
    · rw [Nat.log2_zero] at hfine h1 ⊢
      omega
    · have h2 := exponent_lt_of_zpow_lt ((h.two_zpow_le hm).trans_lt hlt)
      omega
  · rcases Nat.eq_zero_or_pos m with rfl | hm
    · rw [Nat.log2_zero] at hfine ⊢
      omega
    · have h2 := exponent_lt_of_zpow_lt ((h.two_zpow_le hm).trans_lt hlt)
      omega

end Truncation

/-- What is known of the double that is nearest to a number of a sign. -/
structure Nearest (s : Sign) (v : Rat) (u : UnpackedFloat) : Prop where
  zero : v = 0 → u = .zero s
  exact : ∀ m q, ∀ h : Canonical m q, v = m * 2 ^ q → u = .finite s m q h.pos
  finite : (Float.Model.pack u).isFinite = decide (v < limit)

theorem isFinite_pack_carried (s : Sign) {n : Nat} {t : Int} (hn : n ≤ 2 ^ 53) :
    (Float.Model.pack (carried s n t)).isFinite = true ↔
      n = 0 ∨ t ≤ 970 ∨ (t = 971 ∧ n < 2 ^ 53) := by
  unfold carried
  split
  · next h0 =>
    have hz : (Float.Model.pack (.zero s)).isFinite = true := by cases s <;> rfl
    exact ⟨fun _ => Or.inl h0, fun _ => hz⟩
  · next h0 =>
    split
    · next hlt =>
      rw [isFinite_pack_finite, decide_eq_true_eq]
      omega
    · next hge =>
      rw [isFinite_pack_finite, decide_eq_true_eq]
      omega

theorem limit_eq : (limit : Rat) = ((2 ^ 53 - 1 : Nat) + 1 / 2) * 2 ^ (971 : Int) := by
  have hz : (2 : Rat) ^ (971 : Int) = 2 * 2 ^ (970 : Nat) := by
    rw [← zpow_natCast, ← zpow_one_add₀ (by norm_num)]
    norm_num
  rw [limit, hz, Nat.cast_mul, Nat.cast_pow]
  generalize ((2 : Nat) : Rat) ^ (970 : Nat) = x
  norm_num
  ring

theorem limit_bounds : (2 : Rat) ^ (1023 : Int) < limit ∧ (limit : Rat) < 2 ^ (1024 : Int) := by
  have hlow : (2 : Rat) ^ (1023 : Int) = 2 ^ 52 * 2 ^ (971 : Int) := by
    rw [← zpow_natCast, ← zpow_add₀ (by norm_num)]
    norm_num
  have hhigh : (2 : Rat) ^ (1024 : Int) = 2 ^ 53 * 2 ^ (971 : Int) := by
    rw [← zpow_natCast, ← zpow_add₀ (by norm_num)]
    norm_num
  have hp : (0 : Rat) < 2 ^ (971 : Int) := by positivity
  rw [limit_eq, hlow, hhigh]
  generalize (2 : Rat) ^ (971 : Int) = x at hp ⊢
  constructor
  · norm_num
    linarith
  · norm_num
    linarith

/-- What has been rounded is finite exactly below the limit. -/
theorem Truncation.isFinite_rounded {v : Rat} {m : Nat} {e : Int} {a : Accuracy}
    (h : Truncation v m e a) (s : Sign) {em : ExtendedMantissa}
    (hd : Describes em (v / 2 ^ place m e)) (hle : em.roundedMantissa ≤ 2 ^ 53) :
    (Float.Model.pack (carried s em.roundedMantissa (place m e))).isFinite =
      decide (v < limit) := by
  rw [Bool.eq_iff_iff, isFinite_pack_carried s hle, decide_eq_true_eq]
  have hlt := h.lt_place
  have hp' : (0 : Rat) < 2 ^ place m e := by positivity
  -- The place against that of the largest doubles.
  rcases lt_trichotomy (place m e) 971 with hp | hp | hp
  · -- There are doubles above numbers of this size.
    have hsmall : v < limit :=
      (hlt.trans_le (zpow_le_zpow_right₀ (by norm_num) (by omega))).trans limit_bounds.1
    exact ⟨fun _ => hsmall, fun _ => Or.inr (Or.inl (by omega))⟩
  · -- The largest mantissa is odd, so half a place above it is rounded up.
    rw [hp] at hd hp'
    rcases lt_or_ge v limit with hv | hv
    · have hx : v / 2 ^ (971 : Int) < ((2 ^ 53 - 1 : Nat) : Rat) + 1 / 2 :=
        (div_lt_iff₀ hp').2 (limit_eq ▸ hv)
      have hr := roundedMantissa_le hd hx
      exact ⟨fun _ => hv, fun _ => Or.inr (Or.inr ⟨hp, by omega⟩)⟩
    · have hx : ((2 ^ 53 - 1 : Nat) : Rat) + 1 / 2 ≤ v / 2 ^ (971 : Int) :=
        (le_div_iff₀ hp').2 (limit_eq ▸ hv)
      have hr := le_roundedMantissa hd (by norm_num) hx
      exact ⟨fun hc => by omega, fun hc => absurd hv (not_le.2 hc)⟩
  · -- Above the place of the largest doubles everything overflows, and nothing is rounded to zero.
    have hge := h.place_le (by omega)
    have hbig : (limit : Rat) ≤ v :=
      limit_bounds.2.le.trans ((zpow_le_zpow_right₀ (by norm_num) (by omega)).trans hge)
    have hx : ((1 : Nat) : Rat) + 1 / 2 ≤ v / 2 ^ place m e := by
      rw [zpow_add₀ (by norm_num)] at hge
      refine (le_div_iff₀ hp').2 ?_
      norm_num at hge ⊢
      linarith
    have hr := le_roundedMantissa hd (by norm_num) hx
    exact ⟨fun hc => by omega, fun hc => absurd hbig (not_le.2 hc)⟩

theorem Truncation.nearest {v : Rat} {m : Nat} {e : Int} {a : Accuracy} (h : Truncation v m e a)
    (s : Sign) : Nearest s v (roundWithAccuracy Format.binary64 s m e a) := by
  rcases h.exists_rounded s with ⟨em, hd, hle, heq⟩
  rw [heq]
  refine ⟨?_, ?_, h.isFinite_rounded s hd hle⟩
  · rintro rfl
    have hr : em.roundedMantissa = 0 := by
      rw [zero_div] at hd
      exact roundedMantissa_natCast (by exact_mod_cast hd)
    rw [hr]
    rfl
  · -- A double is cut off at its own place, and there it is its mantissa.
    intro n q hc hv
    have hplace := h.place_eq_of_canonical hc hv
    have hr : em.roundedMantissa = n := by
      rw [hplace, hv, mul_div_assoc, div_self (by positivity), mul_one] at hd
      exact roundedMantissa_natCast hd
    have hpos := hc.pos
    rw [hr, hplace, carried, dif_neg (by omega), if_pos hc.lt]

end Double

end Playfield
