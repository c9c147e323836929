import Mathlib
import Playfield.Proofs.Double.Reading

/-!
# The Order of Doubles

Doubles in order, and what rounding does to the order.

A double that is a number stands somewhere on the line of rational numbers (`level`).
An infinity stands nowhere on it, but it may be put at the first power of two that has
no room among the doubles: it then lies beyond all finite ones, and what overflows
reaches it. Doubles are compared by their fields, and since these are canonical the
comparison is that of the levels (`compare_eq_cmp`).

Sums and differences are rounded, and rounding keeps the order: of two numbers the
larger one is not rounded below the smaller one (`IsRounded.mono`). On the same place
this is so because mantissas are rounded in order. On different places a power of two
lies between the numbers, and neither is rounded across it. That is all that the order
of sums and differences needs: it is not needed how near the result is.

## Main definitions

* `Double.IsPacked`: Numbers as they come out of a word.
* `Double.level`: Where a number stands.
* `Double.Rounds`: A number that is not negative is rounded at a place.
* `Double.IsRounded`: A double is what a number is rounded to.

## Theorems

* `Double.compare_eq_cmp`: Comparing doubles is comparing levels.
* `Double.roundedMantissa_mono`, `Double.Rounds.mono`, `Double.IsRounded.mono`: Rounding
  keeps the order.
* `Double.isRounded_sum`, `Double.isRounded_difference`: Sums and differences are rounded.
* `Double.le_sub_of_le`, `Double.not_le_sub_self`, `Double.le_add`: Sums, differences and
  the order.
-/

namespace Playfield

namespace Double

open Float.Model Float.Model.UnpackedFloat

/-- Numbers as they come out of a word. -/
def IsPacked : UnpackedFloat → Prop
  | .finite _ m q _ => Canonical m q
  | _ => True

/-- The first power of two that has no room. -/
@[irreducible]
def beyond : Rat := 2 ^ (1024 : Int)

theorem beyond_pos : 0 < beyond := by
  unfold beyond
  positivity

/-- A number with the sign in front. -/
def signed : Sign → Rat → Rat
  | .positive, v => v
  | .negative, v => -v

/-- Where a number stands. An infinity stands beyond all others, and what is no number
    stands nowhere. -/
def level : UnpackedFloat → Rat
  | .finite s m q _ => signed s (m * 2 ^ q)
  | .infinity s => signed s beyond
  | .zero _ | .notANumber => 0

theorem isPacked_unpack (x : Float) : IsPacked x.toModel.unpack := by
  by_cases hx : x.isFinite = true
  · rcases toModel_cases x hx with ⟨_, hzero⟩ | ⟨h, hfinite⟩
    · rw [hzero, unpack_pack_zero]
      trivial
    · rw [hfinite, unpack_pack h]
      exact h
  · -- Only finite numbers have something to show.
    have hfin : x.isFinite = x.toModel.unpack.isFinite := rfl
    rw [hfin] at hx
    generalize x.toModel.unpack = u at hx
    cases u with
    | finite s m q h => exact absurd rfl hx
    | zero s => trivial
    | infinity s => trivial
    | notANumber => trivial

section Compare

variable {m n : Nat} {q r : Int}

theorem Canonical.size_pos (h : Canonical m q) : (0 : Rat) < m * 2 ^ q := by
  have hm : (0 : Rat) < m := by exact_mod_cast h.pos
  positivity

theorem Canonical.size_lt (h : Canonical m q) : (m : Rat) * 2 ^ q < beyond := by
  have hq := h.highest
  unfold beyond
  refine (natCast_mul_lt q h.lt).trans_le (zpow_le_zpow_right₀ (by norm_num) ?_)
  push_cast
  omega

/-- Of two canonical numbers the one with the larger exponent is larger. -/
theorem Canonical.lt_of_exponent_lt (h : Canonical m q) (h' : Canonical n r) (hqr : q < r) :
    (m : Rat) * 2 ^ q < n * 2 ^ r := by
  have hlow := h.lowest
  -- Its exponent is not the least one, so its mantissa has all digits.
  have hlead : 2 ^ 52 ≤ n := h'.leading.resolve_right (by omega)
  have hpow : (2 : Rat) ^ (((53 : Nat) : Int) + q) ≤ 2 ^ (((52 : Nat) : Int) + r) :=
    zpow_le_zpow_right₀ (by norm_num) (by push_cast; omega)
  exact ((natCast_mul_lt q h.lt).trans_le hpow).trans_le (le_natCast_mul r hlead)

theorem Canonical.compare_eq (h : Canonical m q) (h' : Canonical n r) :
    (compare q r).then (compare m n) = cmp ((m : Rat) * 2 ^ q) (n * 2 ^ r) := by
  rcases lt_trichotomy q r with hqr | rfl | hqr
  · rw [compare_lt_iff_lt.2 hqr, (cmp_eq_lt_iff _ _).2 (h.lt_of_exponent_lt h' hqr)]
    rfl
  · -- On the same exponent the mantissas decide.
    have hp : (0 : Rat) < 2 ^ q := by positivity
    rw [compare_eq_iff_eq.2 rfl, cmp_mul_pos_right hp, Nat.strictMono_cast.cmp_map_eq,
      cmp_eq_compare]
    rfl
  · rw [compare_gt_iff_gt.2 hqr, (cmp_eq_gt_iff _ _).2 (h'.lt_of_exponent_lt h hqr)]
    rfl

/-- Comparing doubles is comparing levels, if both are numbers. -/
theorem compare_eq_cmp {u v : UnpackedFloat} (hu : IsPacked u) (hv : IsPacked v)
    (hun : u ≠ .notANumber) (hvn : v ≠ .notANumber) :
    u.compare v = some (cmp (level u) (level v)) := by
  have hbig := beyond_pos
  have hless (h : level u < level v) : some Ordering.lt = some (cmp (level u) (level v)) := by
    rw [(cmp_eq_lt_iff _ _).2 h]
  have hmore (h : level v < level u) : some Ordering.gt = some (cmp (level u) (level v)) := by
    rw [(cmp_eq_gt_iff _ _).2 h]
  have hsame (h : level u = level v) : some Ordering.eq = some (cmp (level u) (level v)) := by
    rw [(cmp_eq_eq_iff _ _).2 h]
  -- Infinities, negative numbers, zero and positive numbers lie apart from each other.
  cases u with
  | notANumber => exact absurd rfl hun
  | zero s =>
      cases v with
      | notANumber => exact absurd rfl hvn
      | zero t => exact hsame rfl
      | infinity t =>
          cases t with
          | negative => exact hmore (neg_lt_zero.2 hbig)
          | positive => exact hless hbig
      | finite t n r hn =>
          have hpos := Canonical.size_pos hv
          cases t with
          | negative => exact hmore (neg_lt_zero.2 hpos)
          | positive => exact hless hpos
  | infinity s =>
      cases v with
      | notANumber => exact absurd rfl hvn
      | zero t =>
          cases s with
          | negative => exact hless (neg_lt_zero.2 hbig)
          | positive => exact hmore hbig
      | infinity t =>
          cases s <;> cases t <;> simp only [level, signed] at hless hmore
          · exact hsame rfl
          · exact hless (by linarith)
          · exact hmore (by linarith)
          · exact hsame rfl
      | finite t n r hn =>
          have hpos := Canonical.size_pos hv
          have hlt := Canonical.size_lt hv
          cases s <;> cases t <;> simp only [level, signed] at hless hmore
          · exact hless (by linarith)
          · exact hless (by linarith)
          · exact hmore (by linarith)
          · exact hmore (by linarith)
  | finite s m q hm =>
      have hpos := Canonical.size_pos hu
      have hlt := Canonical.size_lt hu
      cases v with
      | notANumber => exact absurd rfl hvn
      | zero t =>
          cases s with
          | negative => exact hless (neg_lt_zero.2 hpos)
          | positive => exact hmore hpos
      | infinity t =>
          cases s <;> cases t <;> simp only [level, signed] at hless hmore
          · exact hmore (by linarith)
          · exact hless (by linarith)
          · exact hmore (by linarith)
          · exact hless (by linarith)
      | finite t n r hn =>
          have hpos' := Canonical.size_pos hv
          have hcompare := Canonical.compare_eq hu hv
          -- On one side of zero the comparison is that of the sizes, turned around below it.
          cases s <;> cases t <;> simp only [level, signed] at hless hmore ⊢
          · have hneg : StrictAnti fun v : Rat => -v := fun _ _ h => neg_lt_neg h
            rw [hneg.cmp_map_eq, ← cmp_swap, ← hcompare]
            rfl
          · exact hless (by linarith)
          · exact hmore (by linarith)
          · rw [← hcompare]
            rfl

end Compare

theorem isLE_cmp (v w : Rat) : (cmp v w).isLE = true ↔ v ≤ w := by
  rw [Ordering.isLE_iff_ne_gt, cmp_eq_gt_iff, not_lt]

/-- Two doubles are compared by their levels, or one of them is no number. -/
theorem compare_unpack (x y : Float) :
    (x.toModel.unpack ≠ .notANumber ∧ y.toModel.unpack ≠ .notANumber ∧
      x.toModel.unpack.compare y.toModel.unpack =
        some (cmp (level x.toModel.unpack) (level y.toModel.unpack))) ∨
    ¬ (x.toModel.unpack ≠ .notANumber ∧ y.toModel.unpack ≠ .notANumber) ∧
      x.toModel.unpack.compare y.toModel.unpack = none := by
  have hx := isPacked_unpack x
  have hy := isPacked_unpack y
  generalize x.toModel.unpack = u at hx ⊢
  generalize y.toModel.unpack = v at hy ⊢
  by_cases hu : u = .notANumber
  · subst hu
    exact Or.inr ⟨fun h => h.1 rfl, rfl⟩
  by_cases hv : v = .notANumber
  · subst hv
    exact Or.inr ⟨fun h => h.2 rfl, by cases u <;> rfl⟩
  exact Or.inl ⟨hu, hv, compare_eq_cmp hx hy hu hv⟩

/-- The order of doubles is that of their levels, for numbers. -/
theorem le_iff (x y : Float) : x ≤ y ↔ x.toModel.unpack ≠ .notANumber ∧
    y.toModel.unpack ≠ .notANumber ∧ level x.toModel.unpack ≤ level y.toModel.unpack := by
  have hle : x ≤ y ↔ (x.toModel.unpack.compare y.toModel.unpack).any (·.isLE) = true :=
    decide_eq_true_iff
  rw [hle]
  rcases compare_unpack x y with ⟨hx, hy, hcmp⟩ | ⟨hnone, hcmp⟩
  · rw [hcmp, Option.any_some, isLE_cmp]
    exact ⟨fun h => ⟨hx, hy, h⟩, fun h => h.2.2⟩
  · rw [hcmp]
    exact ⟨fun h => absurd h Bool.false_ne_true, fun h => absurd ⟨h.1, h.2.1⟩ hnone⟩

theorem lt_iff (x y : Float) : x < y ↔ x.toModel.unpack ≠ .notANumber ∧
    y.toModel.unpack ≠ .notANumber ∧ level x.toModel.unpack < level y.toModel.unpack := by
  have hlt : x < y ↔ (x.toModel.unpack.compare y.toModel.unpack == some .lt) = true :=
    decide_eq_true_iff
  rw [hlt]
  rcases compare_unpack x y with ⟨hx, hy, hcmp⟩ | ⟨hnone, hcmp⟩
  · rw [hcmp, beq_iff_eq, Option.some.injEq, cmp_eq_lt_iff]
    exact ⟨fun h => ⟨hx, hy, h⟩, fun h => h.2.2⟩
  · rw [hcmp]
    exact ⟨fun h => absurd h Bool.false_ne_true, fun h => absurd ⟨h.1, h.2.1⟩ hnone⟩

theorem le_of_lt {x y : Float} (h : x < y) : x ≤ y := by
  rw [lt_iff] at h
  exact (le_iff x y).2 ⟨h.1, h.2.1, h.2.2.le⟩

theorem le_trans {x y z : Float} (h : x ≤ y) (h' : y ≤ z) : x ≤ z := by
  rw [le_iff] at h h' ⊢
  exact ⟨h.1, h'.2.1, h.2.2.trans h'.2.2⟩

theorem le_self_left {x y : Float} (h : x ≤ y) : x ≤ x := by
  rw [le_iff] at h ⊢
  exact ⟨h.1, h.1, le_rfl⟩

theorem le_self_right {x y : Float} (h : x ≤ y) : y ≤ y := by
  rw [le_iff] at h ⊢
  exact ⟨h.2.1, h.2.1, le_rfl⟩

/-- Two numbers are in order one way or the other. -/
theorem le_of_not_lt {x y : Float} (hx : x ≤ x) (hy : y ≤ y) (h : ¬ y < x) : x ≤ y := by
  rw [le_iff] at hx hy
  rw [lt_iff, not_and, not_and, not_lt] at h
  exact (le_iff x y).2 ⟨hx.1, hy.1, h hy.1 hx.1⟩

section Rounding

variable {v w : Rat} {m n : Nat} {t q : Int}

/-- Mantissas are rounded in order. -/
theorem roundedMantissa_mono {em em' : ExtendedMantissa} (h : Describes em v)
    (h' : Describes em' w) (hvw : v ≤ w) : em.roundedMantissa ≤ em'.roundedMantissa := by
  have hb := describes_bounds h
  have hb' := describes_bounds h'
  have hr := roundedMantissa_bounds em
  have hr' := roundedMantissa_bounds em'
  have hm : em.mantissa ≤ em'.mantissa := by
    have hlt : (em.mantissa : Rat) < em'.mantissa + 1 := by linarith
    have hnat : em.mantissa < em'.mantissa + 1 := by exact_mod_cast hlt
    omega
  rcases Nat.lt_or_ge em.mantissa em'.mantissa with hlt | hge
  · omega
  -- The two lie above the same mantissa, so the bits behind it decide.
  have heq : em.mantissa = em'.mantissa := by omega
  rcases em with ⟨k, r, s⟩
  rcases em' with ⟨k', r', s'⟩
  simp only at heq
  subst heq
  cases r <;> cases s <;> cases r' <;> cases s' <;>
    simp only [Describes, ExtendedMantissa.roundedMantissa, ExtendedMantissa.accuracy,
      Accuracy.roundToNearestEven] at h h' ⊢ <;> grind

/-- A number that is not negative is rounded to a mantissa at a place. -/
structure Rounds (v : Rat) (n : Nat) (t : Int) : Prop where
  describes : ∃ em, Describes em (v / 2 ^ t) ∧ em.roundedMantissa = n
  lowest : -1074 ≤ t
  lt : v < 2 ^ ((53 : Int) + t)
  le : -1074 < t → (2 : Rat) ^ ((52 : Int) + t) ≤ v

theorem Rounds.le_mantissa (h : Rounds v n t) : n ≤ 2 ^ 53 := by
  rcases h.describes with ⟨em, hd, rfl⟩
  have hp : (0 : Rat) < 2 ^ t := by positivity
  have hlt := h.lt
  rw [zpow_add₀ (by norm_num)] at hlt
  refine roundedMantissa_le hd ?_
  have hx : v / 2 ^ t < 2 ^ (53 : Int) := (div_lt_iff₀ hp).2 hlt
  have hn : ((2 ^ 53 : Nat) : Rat) = 2 ^ (53 : Int) := by norm_num
  linarith

/-- Above the least place the mantissa has all its digits. -/
theorem Rounds.leading (h : Rounds v n t) (ht : -1074 < t) : 2 ^ 52 ≤ n := by
  rcases h.describes with ⟨em, hd, rfl⟩
  have hp : (0 : Rat) < 2 ^ t := by positivity
  have hle := h.le ht
  rw [zpow_add₀ (by norm_num)] at hle
  have hx : (2 : Rat) ^ (52 : Int) ≤ v / 2 ^ t := (le_div_iff₀ hp).2 hle
  have hm : ((2 ^ 52 : Nat) : Rat) < em.mantissa + 1 := by
    have hn : ((2 ^ 52 : Nat) : Rat) = 2 ^ (52 : Int) := by norm_num
    linarith [(describes_bounds hd).2]
  have hnat : 2 ^ 52 < em.mantissa + 1 := by exact_mod_cast hm
  have hr := roundedMantissa_bounds em
  omega

/-- Rounding keeps the order. -/
theorem Rounds.mono (h : Rounds v m t) (h' : Rounds w n q) (hvw : v ≤ w) :
    (m : Rat) * 2 ^ t ≤ n * 2 ^ q := by
  rcases lt_trichotomy t q with htq | rfl | htq
  · -- A power of two lies between the two places, and neither number is rounded across it.
    have hm : (m : Rat) ≤ 2 ^ (53 : Int) := by exact_mod_cast h.le_mantissa
    have hlow := h.lowest
    have hn : (2 : Rat) ^ (52 : Int) ≤ n := by exact_mod_cast h'.leading (by omega)
    calc (m : Rat) * 2 ^ t ≤ 2 ^ (53 : Int) * 2 ^ t := by gcongr
      _ = 2 ^ ((53 : Int) + t) := (zpow_add₀ (by norm_num) _ _).symm
      _ ≤ 2 ^ ((52 : Int) + q) := zpow_le_zpow_right₀ (by norm_num) (by omega)
      _ = 2 ^ (52 : Int) * 2 ^ q := zpow_add₀ (by norm_num) _ _
      _ ≤ n * 2 ^ q := by gcongr
  · rcases h.describes with ⟨em, hd, rfl⟩
    rcases h'.describes with ⟨em', hd', rfl⟩
    have hdiv : v / 2 ^ t ≤ w / 2 ^ t := by gcongr
    have hle : (em.roundedMantissa : Rat) ≤ em'.roundedMantissa := by
      exact_mod_cast roundedMantissa_mono hd hd' hdiv
    gcongr
  · -- The larger number cannot have the lower place.
    have hlow := h'.lowest
    have hge := h.le (by omega)
    have hpow : (2 : Rat) ^ ((53 : Int) + q) ≤ 2 ^ ((52 : Int) + t) :=
      zpow_le_zpow_right₀ (by norm_num) (by omega)
    exact absurd hvw (not_le.2 ((h'.lt.trans_le hpow).trans_le hge))

theorem rounds_zero : Rounds 0 0 (-1074) where
  describes := ⟨⟨0, false, false⟩, by simp [Describes], rfl⟩
  lowest := le_rfl
  lt := by positivity
  le := fun h => absurd h (lt_irrefl _)

/-- A double is rounded to itself. -/
theorem Canonical.rounds (h : Canonical m q) : Rounds (m * 2 ^ q) m q where
  describes := by
    refine ⟨⟨m, false, false⟩, ?_, rfl⟩
    rw [mul_div_assoc, div_self (by positivity), mul_one]
    rfl
  lowest := h.lowest
  lt := natCast_mul_lt q h.lt
  le := fun hq => le_natCast_mul q (h.leading.resolve_right (by omega))

theorem Truncation.exists_rounds {e : Int} {a : Accuracy} (h : Truncation v m e a) (s : Sign) :
    ∃ n t, Rounds v n t ∧ roundWithAccuracy Format.binary64 s m e a = carried s n t := by
  rcases h.exists_rounded s with ⟨em, hd, _, heq⟩
  exact ⟨_, _, ⟨⟨em, hd, rfl⟩, le_max_right _ _, h.lt_place, h.place_le⟩, heq⟩

/-- What is rounded is shifted until it has digits enough. -/
theorem exists_truncation_round (s : Sign) (hm : 0 < m) (e : Int) :
    ∃ m' e', UnpackedFloat.round Format.binary64 s m e =
        roundWithAccuracy Format.binary64 s m' e' .exact ∧
      Truncation (m * 2 ^ e) m' e' .exact := by
  have htarget : Format.binary64.targetExponent (totalExponent m e) =
      max ((m.log2 : Int) + 1 + e - 53) (-1074) := targetExponent_binary64 _
  generalize hk : (e - max ((m.log2 : Int) + 1 + e - 53) (-1074)).toNat = k
  refine ⟨m <<< k, e - k, ?_, ?_⟩
  · rw [UnpackedFloat.round, htarget, decreaseExponent, hk]
  · have hv : (m : Rat) * 2 ^ e = ((m <<< k : Nat) : Rat) * 2 ^ (e - (k : Int)) := by
      rw [Nat.shiftLeft_eq, Nat.cast_mul, Nat.cast_pow, mul_assoc, Nat.cast_ofNat, ← zpow_natCast,
        ← zpow_add₀ (by norm_num)]
      congr 2
      omega
    rw [hv]
    refine truncation_exact ?_
    by_cases hleast : e - (k : Int) ≤ -1074
    · exact Or.inr hleast
    · left
      have hlog : 2 ^ m.log2 ≤ m := Nat.log2_self_le hm.ne'
      have hpos : 0 < m <<< k := by
        rw [Nat.shiftLeft_eq]
        positivity
      refine (Nat.le_log2 hpos.ne').2 ?_
      rw [Nat.shiftLeft_eq]
      calc 2 ^ 52 ≤ 2 ^ (m.log2 + k) := Nat.pow_le_pow_right (by norm_num) (by omega)
        _ = 2 ^ m.log2 * 2 ^ k := pow_add _ _ _
        _ ≤ m * 2 ^ k := Nat.mul_le_mul_right _ hlog

theorem pack_of_large (s : Sign) (hm : 0 < m) (hq : 971 < q) :
    Float.Model.pack (.finite s m q hm) = Float.Model.pack (.infinity s) := by
  have hpack : UnpackedFloat.pack Format.binary64 (.finite s m q hm) =
      UnpackedFloat.pack Format.binary64 (.infinity s) := by
    have hge : 2 ^ 11 ≤ (q + 1075).toNat + 1 := by
      norm_num
      omega
    unfold UnpackedFloat.pack
    simp only [biased_eq]
    rw [if_pos hge]
  simp only [Float.Model.pack, hpack]

theorem unpack_pack_infinity (s : Sign) :
    (Float.Model.pack (.infinity s)).unpack = .infinity s := by
  cases s <;> rfl

theorem signed_zero (s : Sign) : signed s 0 = 0 := by
  cases s <;> simp [signed]

/-- A number of a sign and a size, or an infinity if there is no room for it. -/
structure Reaches (s : Sign) (v : Rat) (u : UnpackedFloat) : Prop where
  number : u ≠ .notANumber
  level : level u = signed s (min v beyond)

theorem reaches_pack_finite (s : Sign) (hm : 0 < m) (hlt : m < 2 ^ 53) (hlow : -1074 ≤ q)
    (hlead : 2 ^ 52 ≤ m ∨ q = -1074) :
    Reaches s (m * 2 ^ q) (Float.Model.pack (.finite s m q hm)).unpack := by
  by_cases hq : q ≤ 971
  · have hc : Canonical m q := ⟨hm, hlt, hlow, hq, hlead⟩
    rw [unpack_pack hc]
    exact ⟨nofun, by rw [min_eq_left hc.size_lt.le]; rfl⟩
  · -- Mantissas of that many digits are beyond all doubles.
    have hpow : beyond ≤ 2 ^ (((52 : Nat) : Int) + q) := by
      unfold beyond
      exact zpow_le_zpow_right₀ (by norm_num) (by push_cast; omega)
    have hge : beyond ≤ m * 2 ^ q :=
      hpow.trans (le_natCast_mul q (hlead.resolve_right (by omega)))
    rw [pack_of_large s hm (by omega), unpack_pack_infinity]
    exact ⟨nofun, by rw [min_eq_right hge]; rfl⟩

theorem Rounds.reaches_pack_carried (h : Rounds v n t) (s : Sign) :
    Reaches s (n * 2 ^ t) (Float.Model.pack (carried s n t)).unpack := by
  have hle := h.le_mantissa
  have hlow := h.lowest
  unfold carried
  split
  · next h0 =>
    rw [h0, unpack_pack_zero, Nat.cast_zero, zero_mul]
    exact ⟨nofun, by rw [min_eq_left beyond_pos.le, signed_zero]; rfl⟩
  split
  · next h0 hlt =>
    refine reaches_pack_finite s _ hlt hlow ?_
    rcases hlow.lt_or_eq with ht | ht
    · exact Or.inl (h.leading ht)
    · exact Or.inr ht.symm
  · next h0 hge =>
    -- A carry makes the mantissa one digit shorter and moves the place.
    have hn : n = 2 ^ 53 := by omega
    have hcarry : (n : Rat) * 2 ^ t = ((2 ^ 52 : Nat) : Rat) * 2 ^ (t + 1) := by
      rw [hn, zpow_add_one₀ (by norm_num)]
      push_cast
      ring
    rw [hcarry]
    exact reaches_pack_finite s _ (by norm_num) (by omega) (Or.inl le_rfl)

theorem Rounds.eq_zero (h : Rounds 0 n t) : (n : Rat) * 2 ^ t = 0 := by
  have hle := h.mono rounds_zero le_rfl
  rw [Nat.cast_zero, zero_mul] at hle
  exact le_antisymm hle (by positivity)

/-- A double is what a number of a sign and a size is rounded to. -/
def IsRounded (x : Rat) (u : UnpackedFloat) : Prop :=
  ∃ s v n t, 0 ≤ v ∧ x = signed s v ∧ Rounds v n t ∧ Reaches s (n * 2 ^ t) u

/-- Of two numbers the larger one is not rounded below the smaller one. -/
theorem IsRounded.mono {x y : Rat} {u u' : UnpackedFloat} (h : IsRounded x u)
    (h' : IsRounded y u') (hxy : x ≤ y) : level u ≤ level u' := by
  rcases h with ⟨s, v, m, t, hv, rfl, hr, hu⟩
  rcases h' with ⟨s', w, n, q, hw, rfl, hr', hu'⟩
  have hm : (0 : Rat) ≤ min ((m : Rat) * 2 ^ t) beyond := le_min (by positivity) beyond_pos.le
  have hn : (0 : Rat) ≤ min ((n : Rat) * 2 ^ q) beyond := le_min (by positivity) beyond_pos.le
  rw [hu.level, hu'.level]
  cases s <;> cases s' <;> simp only [signed] at hxy ⊢
  · -- Below zero the order of the sizes is turned around.
    exact neg_le_neg (min_le_min_right _ (hr'.mono hr (by linarith)))
  · linarith
  · -- Both numbers are zero.
    have hv0 : v = 0 := by linarith
    have hw0 : w = 0 := by linarith
    subst hv0 hw0
    rw [hr.eq_zero, hr'.eq_zero, min_eq_left beyond_pos.le, neg_zero]
  · exact min_le_min_right _ (hr.mono hr' hxy)

/-- A finite double is what its own level is rounded to. -/
theorem isRounded_self {u : UnpackedFloat} (hu : IsPacked u) (hfinite : u.isFinite = true) :
    IsRounded (level u) u := by
  cases u with
  | notANumber => cases hfinite
  | infinity s => cases hfinite
  | zero s =>
      refine ⟨s, 0, 0, -1074, le_rfl, (signed_zero s).symm, rounds_zero, nofun, ?_⟩
      rw [Nat.cast_zero, zero_mul, min_eq_left beyond_pos.le, signed_zero]
      rfl
  | finite s m q hm =>
      refine ⟨s, m * 2 ^ q, m, q, by positivity, rfl, Canonical.rounds hu, nofun, ?_⟩
      rw [min_eq_left (Canonical.size_lt hu).le]
      rfl

theorem isRounded_round (s : Sign) (hm : 0 < m) (e : Int) :
    IsRounded (signed s (m * 2 ^ e))
      (Float.Model.pack (UnpackedFloat.round Format.binary64 s m e)).unpack := by
  rcases exists_truncation_round s hm e with ⟨m', e', hround, htrunc⟩
  rcases htrunc.exists_rounds s with ⟨n, t, hr, hcarried⟩
  rw [hround, hcarried]
  exact ⟨s, m * 2 ^ e, n, t, by positivity, rfl, hr, hr.reaches_pack_carried s⟩

theorem isRounded_normalize (k : Int) (e : Int) :
    IsRounded (k * 2 ^ e)
      (Float.Model.pack (UnpackedFloat.normalize Format.binary64 k e .positive)).unpack := by
  unfold UnpackedFloat.normalize
  rcases lt_trichotomy k 0 with hk | rfl | hk
  · have hneg : 0 < (-k).toNat := by omega
    have hcast : (k : Rat) = -((-k).toNat : Rat) := by
      have hnat : ((-k).toNat : Int) = -k := Int.toNat_of_nonneg (by omega)
      rw [← Int.cast_natCast, hnat]
      push_cast
      ring
    rw [compare_lt_iff_lt.2 hk, hcast, neg_mul]
    exact isRounded_round .negative hneg e
  · rw [compare_eq_iff_eq.2 rfl, Int.cast_zero, zero_mul]
    dsimp only
    rw [unpack_pack_zero]
    exact isRounded_self (u := .zero .positive) trivial rfl
  · have hcast : (k : Rat) = (k.toNat : Rat) := by
      have hnat : (k.toNat : Int) = k := Int.toNat_of_nonneg hk.le
      rw [← Int.cast_natCast, hnat]
    rw [compare_gt_iff_gt.2 hk, hcast]
    exact isRounded_round .positive (by omega) e

end Rounding

section Sums

variable {u v : UnpackedFloat}

theorem level_neg (u : UnpackedFloat) : level u.neg = -level u := by
  cases u with
  | finite s m q hm => cases s <;> simp [UnpackedFloat.neg, level, signed]
  | infinity s => cases s <;> simp [UnpackedFloat.neg, level, signed]
  | zero s => simp [UnpackedFloat.neg, level]
  | notANumber => simp [UnpackedFloat.neg, level]

theorem isPacked_neg (hu : IsPacked u) : IsPacked u.neg := by
  cases u <;> exact hu

/-- A difference is a sum. -/
theorem sub_eq_add (spec : Format) (u v : UnpackedFloat) :
    UnpackedFloat.sub spec u v = UnpackedFloat.add spec u v.neg := by
  cases u <;> cases v <;> try rfl
  next s m q hm t n r hn =>
    -- The mantissa of the second number changes its sign.
    have happly (k : Int) : (-t).apply k = -t.apply k := by
      cases t with
      | negative => exact (Int.neg_neg k).symm
      | positive => rfl
    simp only [UnpackedFloat.sub, UnpackedFloat.add, UnpackedFloat.neg, happly, Int.sub_eq_add_neg]

theorem signed_eq (s : Sign) (m : Nat) (q : Int) :
    signed s (m * 2 ^ q) = (s.apply m : Int) * 2 ^ q := by
  cases s <;> simp [signed, Sign.apply]

theorem apply_shiftLeft (s : Sign) (m : Nat) {e t : Int} (h : t ≤ e) :
    ((s.apply (m <<< (e - t).toNat : Nat) : Int) : Rat) * 2 ^ t = signed s (m * 2 ^ e) := by
  have hpow : (2 : Rat) ^ e = 2 ^ (e - t).toNat * 2 ^ t := by
    rw [← zpow_natCast, ← zpow_add₀ (by norm_num)]
    congr 1
    omega
  rw [← signed_eq, Nat.shiftLeft_eq, hpow]
  push_cast
  rw [mul_assoc]

/-- The sum of two finite doubles is rounded. -/
theorem isRounded_add (hu : IsPacked u) (hv : IsPacked v) (hfu : u.isFinite = true)
    (hfv : v.isFinite = true) : IsRounded (level u + level v)
      (Float.Model.pack (UnpackedFloat.add Format.binary64 u v)).unpack := by
  cases u with
  | notANumber => cases hfu
  | infinity s => cases hfu
  | zero s =>
      cases v with
      | notANumber => cases hfv
      | infinity t => cases hfv
      | zero t =>
          have hzero (r : Sign) : IsRounded 0 (Float.Model.pack (.zero r)).unpack := by
            rw [unpack_pack_zero]
            exact isRounded_self (u := .zero r) trivial rfl
          simp only [UnpackedFloat.add, level, add_zero]
          split <;> exact hzero _
      | finite t n r hn =>
          simp only [UnpackedFloat.add, level, zero_add]
          rw [unpack_pack hv]
          exact isRounded_self hv rfl
  | finite s m q hm =>
      cases v with
      | notANumber => cases hfv
      | infinity t => cases hfv
      | zero t =>
          simp only [UnpackedFloat.add, level, add_zero]
          rw [unpack_pack hu]
          exact isRounded_self hu rfl
      | finite t n r hn =>
          -- On the lower place of the two the sum is a whole number.
          have hsum : level (.finite s m q hm) + level (.finite t n r hn) =
              ((s.apply (m <<< (q - min q r).toNat : Nat) +
                t.apply (n <<< (r - min q r).toNat : Nat) : Int) : Rat) * 2 ^ min q r := by
            rw [Int.cast_add, add_mul, apply_shiftLeft s m (min_le_left q r),
              apply_shiftLeft t n (min_le_right q r)]
            rfl
          rw [hsum]
          exact isRounded_normalize _ _

end Sums

theorem level_lt_beyond {u : UnpackedFloat} (hu : IsPacked u) (hfinite : u.isFinite = true) :
    level u < beyond := by
  have hbig := beyond_pos
  cases u with
  | notANumber => cases hfinite
  | infinity s => cases hfinite
  | zero s => exact hbig
  | finite s m q hm =>
      have hpos := Canonical.size_pos hu
      have hlt := Canonical.size_lt hu
      cases s <;> simp only [level, signed] <;> linarith

/-- What is not negative and not finite is the infinity. -/
theorem unpack_of_not_finite {x : Float} (h : 0 ≤ x) (hx : ¬ x.isFinite = true) :
    x.toModel.unpack = .infinity .positive := by
  have hfin : x.isFinite = x.toModel.unpack.isFinite := rfl
  rw [le_iff] at h
  rw [hfin] at hx
  rcases h with ⟨_, hnumber, hle⟩
  generalize x.toModel.unpack = u at hx hnumber hle
  cases u with
  | notANumber => exact absurd rfl hnumber
  | zero s => exact absurd rfl hx
  | finite s m q hm => exact absurd rfl hx
  | infinity s =>
      cases s with
      | positive => rfl
      | negative => exact absurd hle (not_le.2 (neg_lt_zero.2 beyond_pos))

theorem isFinite_of_le {x y : Float} (h : 0 ≤ x) (hxy : x ≤ y) (hy : y.isFinite = true) :
    x.isFinite = true := by
  by_contra hx
  rw [le_iff, unpack_of_not_finite h hx] at hxy
  exact absurd hxy.2.2 (not_le.2 (level_lt_beyond (isPacked_unpack y) hy))

theorem unpack_add (x y : Float) : (x + y).toModel.unpack =
    (Float.Model.pack (UnpackedFloat.add Format.binary64 x.toModel.unpack
      y.toModel.unpack)).unpack := rfl

theorem unpack_sub (x y : Float) : (x - y).toModel.unpack =
    (Float.Model.pack (UnpackedFloat.add Format.binary64 x.toModel.unpack
      y.toModel.unpack.neg)).unpack := by
  rw [← sub_eq_add]
  rfl

theorem isFinite_unpack_neg {x : Float} (hx : x.isFinite = true) :
    x.toModel.unpack.neg.isFinite = true := by
  have hfin : x.toModel.unpack.isFinite = true := hx
  generalize x.toModel.unpack = u at hfin
  cases u <;> exact hfin

theorem isRounded_sum {x y : Float} (hx : x.isFinite = true) (hy : y.isFinite = true) :
    IsRounded (level x.toModel.unpack + level y.toModel.unpack) (x + y).toModel.unpack :=
  isRounded_add (isPacked_unpack x) (isPacked_unpack y) hx hy

theorem isRounded_difference {x y : Float} (hx : x.isFinite = true) (hy : y.isFinite = true) :
    IsRounded (level x.toModel.unpack - level y.toModel.unpack) (x - y).toModel.unpack := by
  rw [unpack_sub, sub_eq_add_neg, ← level_neg]
  exact isRounded_add (isPacked_unpack x) (isPacked_neg (isPacked_unpack y)) hx
    (isFinite_unpack_neg hy)

theorem IsRounded.number {x : Rat} {u : UnpackedFloat} (h : IsRounded x u) : u ≠ .notANumber := by
  rcases h with ⟨_, _, _, _, _, _, _, hu⟩
  exact hu.number

/-- An infinity takes no notice of what is added to it. -/
theorem pack_infinity_add {u : UnpackedFloat} (hu : u.isFinite = true) :
    (Float.Model.pack (UnpackedFloat.add Format.binary64 (.infinity .positive) u)).unpack =
      .infinity .positive := by
  cases u with
  | notANumber => cases hu
  | infinity s => cases hu
  | zero s => exact unpack_pack_infinity .positive
  | finite s m q hm => exact unpack_pack_infinity .positive

/-- The distance of an infinity from itself is no number. -/
theorem unpack_infinity_sub_self {c d : Float} (hc : c.toModel.unpack = .infinity .positive)
    (hd : d.toModel.unpack = .infinity .positive) : (c - d).toModel.unpack = .notANumber := by
  rw [unpack_sub, hc, hd]
  rfl

/-- Time that passes does not turn back. -/
theorem le_add {c d : Float} (hc : 0 ≤ c) (hd : 0 ≤ d) (hfinite : d.isFinite = true) :
    c ≤ c + d := by
  by_cases hcf : c.isFinite = true
  · have hself := isRounded_self (isPacked_unpack c) hcf
    have hsum := isRounded_sum hcf hfinite
    have hlevel : (0 : Rat) ≤ level d.toModel.unpack := ((le_iff 0 d).1 hd).2.2
    exact (le_iff _ _).2 ⟨hself.number, hsum.number, hself.mono hsum (by linarith)⟩
  · -- Nothing is added to the infinity.
    have hinf := unpack_of_not_finite hc hcf
    rw [le_iff, unpack_add, hinf, pack_infinity_add hfinite]
    exact ⟨nofun, nofun, le_rfl⟩

/-- What is later than a time that is long ago is at least as long after an earlier
    one. -/
theorem le_sub_of_le {x t a b : Float} (ha : 0 ≤ a) (hab : a ≤ b) (hbt : b ≤ t)
    (h : x ≤ t - b) : x ≤ t - a := by
  have hb : 0 ≤ b := le_trans ha hab
  have hnumber := (le_iff x (t - b)).1 h
  by_cases htf : t.isFinite = true
  · have hbf := isFinite_of_le hb hbt htf
    have haf := isFinite_of_le ha hab hbf
    have hlevel := ((le_iff a b).1 hab).2.2
    have hdiff := isRounded_difference htf haf
    have hmono := (isRounded_difference htf hbf).mono hdiff (by linarith)
    exact (le_iff _ _).2 ⟨hnumber.1, hdiff.number, hnumber.2.2.trans hmono⟩
  · have ht := unpack_of_not_finite (le_trans hb hbt) htf
    by_cases hbf : b.isFinite = true
    · -- An infinite time is infinitely long after both.
      have haf := isFinite_of_le ha hab hbf
      have heq : (t - b).toModel.unpack = (t - a).toModel.unpack := by
        rw [unpack_sub, unpack_sub, ht, pack_infinity_add (isFinite_unpack_neg hbf),
          pack_infinity_add (isFinite_unpack_neg haf)]
      rw [le_iff, ← heq]
      exact hnumber
    · exact absurd (unpack_infinity_sub_self ht (unpack_of_not_finite hb hbf)) hnumber.2.1

/-- What is now is not a positive number of seconds ago. -/
theorem not_le_sub_self {x t : Float} (hx : 0 < x) (ht : 0 ≤ t) : ¬ x ≤ t - t := by
  intro h
  have hlt : 0 < level x.toModel.unpack := ((lt_iff 0 x).1 hx).2.2
  have hle := (le_iff x (t - t)).1 h
  by_cases htf : t.isFinite = true
  · have hzero : IsRounded 0 (.zero .positive) :=
      isRounded_self (u := .zero .positive) trivial rfl
    have hdiff := isRounded_difference htf htf
    have hmono : level (t - t).toModel.unpack ≤ 0 := hdiff.mono hzero (by linarith)
    linarith [hle.2.2]
  · have hinf := unpack_of_not_finite ht htf
    exact absurd (unpack_infinity_sub_self hinf hinf) hle.2.1

end Double

end Playfield
