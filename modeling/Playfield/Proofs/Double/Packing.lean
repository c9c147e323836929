import Mathlib
import Playfield.Scalar.Double

/-!
# The Words of Doubles

How a double stands in its 64 bits, and what can be read from them.

A finite double is a zero or `± m · 2 ^ q`, and of the many ways to write a
number like that only one is packed into a word: the one whose mantissa has all
its 53 digits, or as many as there are above the least exponent. `Canonical` is
that form. Packing a canonical number and unpacking it gives the number back, and
every word unpacks to a canonical number or to none.

## Main definitions

* `Double.Canonical`: Mantissas and exponents as they are packed.
* `Double.signOf`: The sign that a flag stands for.

## Theorems

* `Double.unpack_pack`: A canonical number survives its word.
* `Double.isFinite_pack_finite`: Which numbers have room in a word.
* `Double.toModel_cases`: A finite double is what is packed for its sign and its
  magnitude.
* `Double.isFinite_neg`: A change of sign keeps a double finite.
-/

namespace Playfield

namespace Double

open Float.Model Float.Model.UnpackedFloat

/-- The mantissas and exponents of the finite doubles that are not zero. -/
structure Canonical (m : Nat) (q : Int) : Prop where
  pos : 0 < m
  lt : m < 2 ^ 53
  lowest : -1074 ≤ q
  highest : q ≤ 971
  /-- A mantissa uses all its digits unless the exponent is the least one. -/
  leading : 2 ^ 52 ≤ m ∨ q = -1074

theorem finite_congr {s : Sign} {m n : Nat} {e f : Int} (hm : 0 < m) (hn : 0 < n) (h : m = n)
    (he : e = f) : UnpackedFloat.finite s m e hm = .finite s n f hn := by
  subst h he
  rfl

theorem log2_eq_of_leading {m : Nat} (hl : 2 ^ 52 ≤ m) (hm : m < 2 ^ 53) : m.log2 = 52 :=
  (Nat.log2_eq_iff (by omega)).2 ⟨hl, hm⟩

/-- The leading digit of a mantissa, which is not packed. -/
theorem toNat_leading (b : BitVec 52) : (1#1 ++ b).toNat = 2 ^ 52 + b.toNat := by
  rw [BitVec.toNat_append, ← Nat.shiftLeft_add_eq_or_of_lt b.isLt]
  rfl

theorem unpackSign_packComponents {spec : Format} {s : Sign} {e : BitVec spec.exponentBits}
    {m : BitVec spec.mantissaBitsWithoutImplicit} :
    Sign.ofBitVec (unpackSign (packComponents spec s e m)) = s := by
  -- The sign is the one bit in front.
  have h : unpackSign (packComponents spec s e m) = s.toBitVec := by
    ext i hi
    have h0 : i = 0 := by omega
    subst h0
    simp [unpackSign, packComponents, BitVec.getLsbD_append, BitVec.getElem_append]
  rw [h]
  cases s <;> rfl

theorem isFinite_unpack_packComponents (s : Sign) (e : BitVec 11) (m : BitVec 52) :
    (UnpackedFloat.unpack Format.binary64 (packComponents Format.binary64 s e m)).isFinite =
      decide (e ≠ -1#11) := by
  unfold UnpackedFloat.unpack
  simp only [unpackExponent_packComponents, unpackMantissa_packComponents]
  -- The highest exponent is that of the infinities and of what is no number.
  by_cases he : e = -1#11
  · rw [if_pos he, decide_eq_false (not_not.2 he)]
    split <;> rfl
  · rw [if_neg he, decide_eq_true he]
    split
    · split <;> rfl
    · rfl

theorem biased_eq (q : Int) :
    q + (Format.binary64.exponentBias : Int) + ((52 : Nat) : Int) = q + 1075 := by
  have hbias : Format.binary64.exponentBias = 1023 := by decide
  rw [hbias]
  omega

theorem ofNat_ne_of_lt {e : Nat} (h : e < 2047) : BitVec.ofNat 11 e ≠ -1#11 := by
  intro hc
  have := congrArg BitVec.toNat hc
  norm_num at this
  omega

theorem isFinite_pack_finite (s : Sign) (m : Nat) (e : Int) (hm : 0 < m) :
    (Float.Model.pack (.finite s m e hm)).isFinite = decide (e ≤ 971) := by
  have hb : (Float.Model.pack (.finite s m e hm)).isFinite =
      (UnpackedFloat.unpack Format.binary64
        (UnpackedFloat.pack Format.binary64 (.finite s m e hm))).isFinite := rfl
  rw [hb]
  unfold UnpackedFloat.pack
  simp only [biased_eq]
  -- An exponent that does not fit is packed as an infinity.
  by_cases he : e ≤ 971
  · have hlt : ¬ 2 ^ 11 ≤ (e + 1075).toNat + 1 := by
      norm_num
      omega
    rw [if_neg hlt, decide_eq_true he]
    split
    · rw [isFinite_unpack_packComponents, decide_eq_true (ofNat_ne_of_lt (by omega))]
    · rw [isFinite_unpack_packComponents]
      rfl
  · have hge : 2 ^ 11 ≤ (e + 1075).toNat + 1 := by
      norm_num
      omega
    rw [if_pos hge, decide_eq_false he, packedInfinity, isFinite_unpack_packComponents]
    rfl

theorem pack_of_leading {m : Nat} {q : Int} (h : Canonical m q) (hlead : 2 ^ 52 ≤ m) (s : Sign) :
    UnpackedFloat.pack Format.binary64 (.finite s m q h.pos) =
      packComponents Format.binary64 s (BitVec.ofNat 11 (q + 1075).toNat) (BitVec.ofNat 52 m) := by
  have hhi := h.highest
  have hlt : ¬ 2 ^ 11 ≤ (q + 1075).toNat + 1 := by omega
  have hlog : m.log2 + 1 = Format.binary64.mantissaBits := by
    rw [log2_eq_of_leading hlead h.lt]
    rfl
  unfold UnpackedFloat.pack
  simp only [biased_eq]
  rw [if_neg hlt, if_pos hlog]

theorem pack_of_not_leading {m : Nat} {q : Int} (h : Canonical m q) (hlead : ¬ 2 ^ 52 ≤ m)
    (s : Sign) : UnpackedFloat.pack Format.binary64 (.finite s m q h.pos) =
      packComponents Format.binary64 s 0#11 (BitVec.ofNat 52 m) := by
  have hhi := h.highest
  have hpos := h.pos
  have hlt : ¬ 2 ^ 11 ≤ (q + 1075).toNat + 1 := by omega
  have hlog : m.log2 + 1 ≠ Format.binary64.mantissaBits := by
    have hm : m.log2 < 52 := (Nat.log2_lt (by omega)).2 (by omega)
    have hmb : Format.binary64.mantissaBits = 53 := rfl
    omega
  unfold UnpackedFloat.pack
  simp only [biased_eq]
  rw [if_neg hlt, if_neg hlog]

theorem unpack_pack {m : Nat} {q : Int} (h : Canonical m q) (s : Sign) :
    (Float.Model.pack (.finite s m q h.pos)).unpack = .finite s m q h.pos := by
  have hb : (Float.Model.pack (.finite s m q h.pos)).unpack =
      UnpackedFloat.unpack Format.binary64
        (UnpackedFloat.pack Format.binary64 (.finite s m q h.pos)) := rfl
  have hlo := h.lowest
  have hhi := h.highest
  have hm := h.lt
  rw [hb]
  -- With a leading digit the exponent is packed; without one it is the least one.
  by_cases hlead : 2 ^ 52 ≤ m
  · have hz : BitVec.ofNat 11 (q + 1075).toNat ≠ 0#11 := by
      intro hc
      have := congrArg BitVec.toNat hc
      norm_num at this
      omega
    rw [pack_of_leading h hlead]
    unfold UnpackedFloat.unpack
    simp only [unpackExponent_packComponents, unpackMantissa_packComponents,
      unpackSign_packComponents]
    rw [if_neg (ofNat_ne_of_lt (by omega)), if_neg hz]
    refine finite_congr _ _ ?_ ?_
    · rw [toNat_leading, BitVec.toNat_ofNat]
      omega
    · simp only [Format.exponentBias]
      norm_num
      omega
  · have hq : q = -1074 := h.leading.resolve_left hlead
    have hpos := h.pos
    have hne : BitVec.ofNat 52 m ≠ 0#52 := by
      intro hc
      have := congrArg BitVec.toNat hc
      norm_num at this
      omega
    rw [pack_of_not_leading h hlead]
    unfold UnpackedFloat.unpack
    simp only [unpackExponent_packComponents, unpackMantissa_packComponents,
      unpackSign_packComponents]
    rw [if_neg (by decide), if_pos trivial, dif_neg hne]
    refine finite_congr _ _ ?_ ?_
    · rw [BitVec.toNat_ofNat]
      omega
    · simp only [Format.exponentBias]
      norm_num
      omega

theorem unpack_pack_zero (s : Sign) : (Float.Model.pack (.zero s)).unpack = .zero s := by
  cases s <;> rfl

/-- The sign that a flag stands for. -/
def signOf (negative : Bool) : Sign := if negative then .negative else .positive

theorem toNat_unpackMantissa (b : BitVec Format.binary64.numBits) :
    (unpackMantissa b).toNat = b.toNat % 2 ^ 52 := by
  rw [unpackMantissa, BitVec.toNat_cast, BitVec.extractLsb_toNat]
  rfl

theorem toNat_unpackExponent (b : BitVec Format.binary64.numBits) :
    (unpackExponent b).toNat = b.toNat / 2 ^ 52 % 2 ^ 11 := by
  rw [unpackExponent, BitVec.toNat_cast, BitVec.extractLsb_toNat, Nat.shiftRight_eq_div_pow]
  rfl

theorem toNat_unpackSign (b : BitVec Format.binary64.numBits) :
    (unpackSign b).toNat = b.toNat / 2 ^ 63 := by
  have hb : b.toNat < 2 ^ 64 := b.isLt
  rw [unpackSign, BitVec.toNat_cast, BitVec.extractLsb_toNat, Nat.shiftRight_eq_div_pow]
  norm_num
  omega

theorem toNat_packComponents (s : Sign) (e : BitVec 11) (m : BitVec 52) :
    (packComponents Format.binary64 s e m).toNat =
      (s.toBitVec.toNat * 2 ^ 11 + e.toNat) * 2 ^ 52 + m.toNat := by
  have he := Nat.shiftLeft_add_eq_or_of_lt e.isLt s.toBitVec.toNat
  have hm := Nat.shiftLeft_add_eq_or_of_lt m.isLt (s.toBitVec.toNat * 2 ^ 11 + e.toNat)
  rw [Nat.shiftLeft_eq] at he hm
  rw [packComponents, BitVec.toNat_append, BitVec.toNat_append, Nat.shiftLeft_eq, Nat.shiftLeft_eq,
    ← he, ← hm]

/-- A word is put together from its three parts. -/
theorem packComponents_unpack (b : BitVec Format.binary64.numBits) :
    packComponents Format.binary64 (Sign.ofBitVec (unpackSign b)) (unpackExponent b)
      (unpackMantissa b) = b := by
  have hs : (Sign.ofBitVec (unpackSign b)).toBitVec = unpackSign b := by
    generalize unpackSign b = c
    revert c
    decide
  -- As numbers, the parts are quotients and rests of the word.
  apply BitVec.eq_of_toNat_eq
  rw [toNat_packComponents, hs, toNat_unpackSign, toNat_unpackExponent, toNat_unpackMantissa]
  have hb : b.toNat < 2 ^ 64 := b.isLt
  omega

theorem ofBitVec_unpackSign (x : Float) :
    Sign.ofBitVec (@unpackSign Format.binary64 x.toBits.toBitVec) = signOf (isNegative x) := by
  have hx : x.toBits.toNat < 2 ^ 64 := x.toBits.toBitVec.isLt
  have hs : isNegative x = decide (x.toBits.toNat / 2 ^ 63 = 1) := by
    rw [isNegative, beq_eq_decide]
    congr 1
    rw [← UInt64.toNat_inj, UInt64.toNat_shiftRight, Nat.shiftRight_eq_div_pow]
    rfl
  have hu : (@unpackSign Format.binary64 x.toBits.toBitVec).toNat = x.toBits.toNat / 2 ^ 63 :=
    toNat_unpackSign x.toBits.toBitVec
  rw [hs]
  -- One bit is one of two.
  generalize @unpackSign Format.binary64 x.toBits.toBitVec = b at hu
  by_cases h : x.toBits.toNat / 2 ^ 63 = 1
  · have hb : b = 1#1 := BitVec.eq_of_toNat_eq (hu.trans h)
    rw [decide_eq_true h, hb]
    rfl
  · have hb : b = 0#1 := BitVec.eq_of_toNat_eq (hu.trans (by norm_num; omega))
    rw [decide_eq_false h, hb]
    rfl

theorem toModel_eq_pack {x : Float} {u : UnpackedFloat}
    (h : UnpackedFloat.pack Format.binary64 u = x.toBits.toBitVec) :
    x.toModel = .pack u := by
  rcases x with ⟨⟨bits, valid⟩⟩
  have hb : bits = UInt64.ofBitVec (UnpackedFloat.pack Format.binary64 u) := by
    rw [h]
    rfl
  subst hb
  rfl

/-- A finite double is what is packed for its sign and its magnitude. -/
theorem toModel_cases (x : Float) (hx : x.isFinite) :
    ((magnitude x).1 = 0 ∧ x.toModel = .pack (.zero (signOf (isNegative x)))) ∨
      ∃ h : Canonical (magnitude x).1 (magnitude x).2,
        x.toModel =
          .pack (.finite (signOf (isNegative x)) (magnitude x).1 (magnitude x).2 h.pos) := by
  have hword := packComponents_unpack x.toBits.toBitVec
  have hm : (@unpackMantissa Format.binary64 x.toBits.toBitVec).toNat = x.toBits.toNat % 2 ^ 52 :=
    toNat_unpackMantissa x.toBits.toBitVec
  have he : (@unpackExponent Format.binary64 x.toBits.toBitVec).toNat =
      x.toBits.toNat / 2 ^ 52 % 2 ^ 11 := toNat_unpackExponent x.toBits.toBitVec
  have hfin : (UnpackedFloat.unpack Format.binary64 x.toBits.toBitVec).isFinite = true := hx
  rw [← hword, isFinite_unpack_packComponents, decide_eq_true_eq] at hfin
  have hmag : magnitude x = if x.toBits.toNat / 2 ^ 52 % 2 ^ 11 = 0
      then (x.toBits.toNat % 2 ^ 52, -1074)
      else (x.toBits.toNat % 2 ^ 52 + 2 ^ 52,
        ((x.toBits.toNat / 2 ^ 52 % 2 ^ 11 : Nat) : Int) - 1075) := rfl
  -- From here on mantissa and exponent are any two words, as long as they make a finite double.
  rw [hmag, ← hm, ← he]
  rw [ofBitVec_unpackSign] at hword
  generalize @unpackMantissa Format.binary64 x.toBits.toBitVec = m at *
  generalize @unpackExponent Format.binary64 x.toBits.toBitVec = e at *
  have hmlt : m.toNat < 2 ^ 52 := m.isLt
  have hmant : BitVec.ofNat 52 m.toNat = m := BitVec.eq_of_toNat_eq (Nat.mod_eq_of_lt hmlt)
  -- Zero and the doubles below the leading digit have no exponent.
  by_cases he0 : e.toNat = 0
  · have hezero : e = 0#11 := BitVec.eq_of_toNat_eq he0
    rw [if_pos he0]
    rw [hezero] at hword
    by_cases hm0 : m.toNat = 0
    · have hmzero : m = 0#52 := BitVec.eq_of_toNat_eq hm0
      rw [hmzero] at hword
      exact Or.inl ⟨hm0, toModel_eq_pack hword⟩
    · have hc : Canonical m.toNat (-1074) :=
        ⟨by omega, by omega, by norm_num, by norm_num, Or.inr rfl⟩
      refine Or.inr ⟨hc, toModel_eq_pack ?_⟩
      dsimp only
      rw [pack_of_not_leading hc (by omega), hmant, hword]
  · have helt : e.toNat < 2047 := by
      have hlt : e.toNat < 2 ^ 11 := e.isLt
      have hne : e.toNat ≠ 2047 := fun h => hfin (BitVec.eq_of_toNat_eq h)
      omega
    have hc : Canonical (m.toNat + 2 ^ 52) ((e.toNat : Int) - 1075) :=
      ⟨by omega, by omega, by omega, by omega, Or.inl (by omega)⟩
    rw [if_neg he0]
    refine Or.inr ⟨hc, toModel_eq_pack ?_⟩
    -- What is packed again are the same exponent and, without its leading digit, the same mantissa.
    have hexp : BitVec.ofNat 11 ((e.toNat : Int) - 1075 + 1075).toNat = e := by
      apply BitVec.eq_of_toNat_eq
      rw [BitVec.toNat_ofNat]
      omega
    have hlow : BitVec.ofNat 52 (m.toNat + 2 ^ 52) = m := by
      apply BitVec.eq_of_toNat_eq
      rw [BitVec.toNat_ofNat]
      omega
    dsimp only
    rw [pack_of_leading hc (by omega), hexp, hlow, hword]

theorem neg_toModel (x : Float) : (-x).toModel = .pack x.toModel.unpack.neg := rfl

theorem isFinite_neg (x : Float) : (-x).isFinite = x.isFinite := by
  have hneg : (-x).isFinite = (Float.Model.pack x.toModel.unpack.neg).unpack.isFinite := rfl
  have hfin : x.isFinite = x.toModel.unpack.isFinite := rfl
  rw [hneg]
  by_cases hx : x.isFinite = true
  · rcases toModel_cases x hx with ⟨_, hzero⟩ | ⟨h, hfinite⟩
    · rw [hx, hzero, unpack_pack_zero, UnpackedFloat.neg, unpack_pack_zero]
      rfl
    · rw [hx, hfinite, unpack_pack h, UnpackedFloat.neg, unpack_pack h]
      rfl
  · rw [Bool.not_eq_true] at hx
    rw [hx]
    rw [hfin] at hx
    -- What is left are the infinities and the one value that is no number.
    generalize x.toModel.unpack = u at hx ⊢
    cases u with
    | infinity s => cases s <;> rfl
    | notANumber => rfl
    | zero s => cases hx
    | finite s m q h => cases hx

end Double

end Playfield
