import Mathlib
import Playfield.Proofs.Camera.Draws
import Playfield.Proofs.Double.Order
import Playfield.Proofs.Scalar.Exact

/-!
# How Far a Shake Goes

That no draw loses anything, and that no shake goes further than its intensity.

A draw adds a constant to a word and mixes the sum. Both can be undone, so different words are
followed by different ones, however many draws there are. How many draws some calls make depends
on the shakes that they order and on time, but never on the words. So of two cameras to which the
same is done each has a word of its own if each has been given a seed of its own.

Of the 64 bits of a word a draw uses 53, and it divides by the number of words of that length, so
it lies from zero up to one. A double has room for as many bits, and nothing is rounded. A
coordinate of the displacement is the intensity times a number between minus one and one. The
intensity is the one that was ordered last, and a picture is displaced only at the end of a tick:
whatever else is done to a camera leaves the displacement as it is or takes it away.

## Main definitions

* `CameraCall.intensity?`, `Camera.ordered`: The intensity that calls order.
* `Point.IsWithin`: No coordinate goes further than an intensity.

## Theorems

* `Jitter.next_bijective`, `Jitter.next_iterate_injective`: Draws lose nothing.
* `Jitter.fraction_mem`, `Camera.abs_swing_le`: How far a draw goes.
* `Jitter.level_fraction`, `Jitter.double_fraction_mem`: Doubles draw the same numbers.
* `Camera.length_drawn_congr`, `Camera.jitter_run_injective`: Other seeds, other words.
* `Camera.intensity_run`: The intensity is the one that was ordered last.
* `Camera.offset_update_within`, `Camera.offset_call`: What displaces the picture, and how far.
* `Camera.jitter_stays_within`: Draws lose nothing, and a shake stays within its intensity.
-/

namespace Playfield

namespace Jitter

/-- Different words are followed by different ones. -/
theorem next_injective : Function.Injective next :=
  mix_injective.comp fun _ _ => (UInt64.add_left_inj _).1

/-- Every word follows exactly one word. -/
theorem next_bijective : Function.Bijective next := Finite.injective_iff_bijective.1 next_injective

theorem next_iterate_injective (n : Nat) : Function.Injective next^[n] := next_injective.iterate n

/-- The upper bits of a word make a number of 53 bits. -/
theorem toNat_upper_lt (word : UInt64) : (word >>> 11).toNat < 2 ^ 53 := by
  have hshift : (word >>> 11).toNat = word.toNat / 2 ^ 11 := by
    rw [UInt64.toNat_shiftRight, Nat.shiftRight_eq_div_pow]
    rfl
  have hword := word.toNat_lt
  omega

theorem fraction_eq (word : UInt64) : (fraction word : Rat) = (word >>> 11).toNat / 2 ^ 53 := by
  have hscale : ((Nat.pow 2 53 : Nat) : Rat) = 2 ^ 53 := Nat.cast_pow 2 53
  rw [fraction, Rational.natCast_eq, Rational.natCast_eq, hscale]

/-- A draw lies from zero up to one. -/
theorem fraction_mem (word : UInt64) :
    (0 : Rat) ≤ fraction word ∧ (fraction word : Rat) < 1 := by
  have hupper : ((word >>> 11).toNat : Rat) < 2 ^ 53 := by exact_mod_cast toNat_upper_lt word
  rw [fraction_eq]
  exact ⟨by positivity, (div_lt_one (by positivity)).2 hupper⟩

/-- A draw as a double is the draw itself: nothing is rounded. -/
theorem level_fraction (word : UInt64) :
    (fraction word : Float).toModel.unpack ≠ .notANumber ∧
      Double.level (fraction word : Float).toModel.unpack = (fraction word : Rat) := by
  have hscale : Double.Stands (Scalar.ofNat (Nat.pow 2 53) : Float) (2 ^ 53 : Nat) :=
    Double.stands_ofNat (m := 2 ^ 52) (q := 1) (by constructor <;> decide) le_rfl (by norm_num)
  rw [fraction_eq, fraction]
  have hupper := toNat_upper_lt word
  generalize (word >>> 11).toNat = n at hupper
  obtain rfl | h0 := n.eq_zero_or_pos
  · have hzero : (Scalar.ofNat 0 / Scalar.ofNat (Nat.pow 2 53) : Float).toModel.unpack =
        .zero .positive := rfl
    rw [hzero, Nat.cast_zero, zero_div]
    exact ⟨nofun, rfl⟩
  · -- The quotient has the same mantissa, so it is a double.
    obtain ⟨hc, hlead, hv⟩ := Double.canonical_natCast h0 hupper
    obtain ⟨u, hmodel, hnear⟩ := Double.nearest_div (Double.stands_ofNat hc hlead hv) hscale
    have hquotient : Double.Canonical (n * 2 ^ (52 - n.log2)) (-((52 - n.log2 : Nat) : Int) - 53) :=
      ⟨hc.pos, hc.lt, by omega, by omega, .inl hlead⟩
    have hvalue : (n : Rat) / (2 ^ 53 : Nat) = ((n * 2 ^ (52 - n.log2) : Nat) : Rat) *
        2 ^ (-((52 - n.log2 : Nat) : Int) - 53) := by
      rw [zpow_sub₀ (by norm_num), ← mul_div_assoc, ← hv]
      norm_num
    rw [hmodel, hnear.exact _ _ hquotient hvalue, Double.unpack_pack hquotient]
    refine ⟨nofun, ?_⟩
    rw [Double.level, Double.signed.eq_def, ← hvalue, Nat.cast_pow, Nat.cast_ofNat]

/-- A draw as a double lies from zero up to one as well. -/
theorem double_fraction_mem (word : UInt64) :
    (0 : Float) ≤ fraction word ∧ (fraction word : Float) < 1 := by
  have hzero : (0 : Float).toModel.unpack = .zero .positive := rfl
  have hone : (1 : Float).toModel.unpack = .finite .positive (2 ^ 52) (-52) (by decide) := rfl
  have hmem := fraction_mem word
  have hlevel := level_fraction word
  rw [Double.le_iff, Double.lt_iff, hlevel.2, hzero, hone]
  refine ⟨⟨nofun, hlevel.1, hmem.1⟩, hlevel.1, nofun, hmem.2.trans_le ?_⟩
  norm_num [Double.level, Double.signed]

end Jitter

namespace CameraCall

variable {R : Type} [Scalar R]

/-- The intensity that a call orders: that of a shake, or none with a view that is set up anew. -/
def intensity? : CameraCall R → Option R
  | .startShake intensity _ => some intensity
  | .reset _ | .restore _ => some 0
  | _ => none

end CameraCall

/-- No coordinate goes further than an intensity. -/
def Point.IsWithin (p : Point Rat) (intensity : Rat) : Prop :=
  |p.x| ≤ |intensity| ∧ |p.y| ≤ |intensity|

namespace Camera

section Shakes

variable {R : Type} [Scalar R]

/-- The intensity that calls have ordered last. -/
def ordered (calls : List (CameraCall R)) : R :=
  (calls.filterMap (·.intensity?)).getLast?.getD 0

theorem ordered_concat (calls : List (CameraCall R)) (k : CameraCall R) :
    ordered (calls ++ [k]) = k.intensity?.getD (ordered calls) := by
  unfold ordered
  cases h : k.intensity? <;> simp [h]

variable (c : Camera R)

theorem shake_update (dt : R) (viewport : Size R) (smoothing : R)
    (centerOf : String → Option (Point R)) :
    (c.update dt viewport smoothing centerOf).shake =
      if c.isShaking then { c.shake with remaining := c.shake.remaining - dt } else c.shake := by
  obtain ⟨d, hshake, -, heq⟩ := c.exists_advanceShake dt viewport smoothing centerOf
  rw [heq, advanceShake, isShaking_congr hshake]
  cases c.isShaking
  · exact hshake
  · simp [hshake]

theorem intensity_call (k : CameraCall R) :
    (c.call k).shake.intensity = k.intensity?.getD c.shake.intensity := by
  cases k
  case update dt viewport smoothing centerOf =>
    rw [call, shake_update]
    cases c.isShaking <;> rfl
  all_goals rfl

/-- The intensity of a shake is the one that was ordered last. -/
theorem intensity_run (center : Point R) (seed : UInt64) (calls : List (CameraCall R)) :
    ((initial center seed).run calls).shake.intensity = ordered calls := by
  induction calls using List.reverseRecOn with
  | nil => rfl
  | append_singleton calls k ih => rw [run_concat, intensity_call, ih, ordered_concat]

/-- Only the end of a tick displaces a picture. -/
theorem offset_call (k : CameraCall R) : (c.call k).offset = c.offset ∨
    (c.call k).offset = .zero ∨ ∃ dt viewport smoothing centerOf,
      k = .update dt viewport smoothing centerOf := by
  cases k
  case update dt viewport smoothing centerOf => exact .inr (.inr ⟨_, _, _, _, rfl⟩)
  case reset => exact .inr (.inl rfl)
  case restore => exact .inr (.inl rfl)
  all_goals exact .inl rfl

variable {c d : Camera R}

/-- Neither how a shake goes on nor how many words are drawn depends on the words. -/
theorem shake_call_congr (h : d.shake = c.shake) (k : CameraCall R) :
    (d.call k).shake = (c.call k).shake ∧ (d.draws k).length = (c.draws k).length := by
  cases k
  case update dt viewport smoothing centerOf =>
    rw [call, call, shake_update, shake_update, draws, draws, isShaking_congr h, h]
    refine ⟨rfl, ?_⟩
    cases c.isShaking <;> simp
  case reset => exact ⟨rfl, rfl⟩
  case restore => exact ⟨rfl, rfl⟩
  case startShake => exact ⟨rfl, rfl⟩
  all_goals exact ⟨h, rfl⟩

theorem length_drawn_congr (h : d.shake = c.shake) (calls : List (CameraCall R)) :
    (d.drawn calls).length = (c.drawn calls).length := by
  induction calls generalizing c d with
  | nil => rfl
  | cons k ks ih =>
      have hcall := shake_call_congr h k
      rw [drawn, drawn, List.length_append, List.length_append, hcall.2, ih hcall.1]

/-- Cameras with other seeds have other words, if the same is done to them. -/
theorem jitter_run_injective (center : Point R) (calls : List (CameraCall R)) :
    Function.Injective fun seed => ((initial center seed).run calls).jitter := by
  intro seed other h
  have hlength : ((initial center seed).drawn calls).length =
      ((initial center other).drawn calls).length :=
    length_drawn_congr (Eq.refl (Shake.mk 0 0)) calls
  dsimp only at h
  rw [(drawn_eq_iterate _ calls).2, (drawn_eq_iterate _ calls).2, hlength] at h
  exact Jitter.next_iterate_injective _ h

end Shakes

theorem abs_swing_le (word : UInt64) : |(swing word : Rat)| ≤ 1 := by
  have hmem := Jitter.fraction_mem word
  rw [swing, Rational.ofNat_eq, Rational.ofNat_eq, abs_le]
  push_cast
  constructor <;> linarith

theorem isWithin_zero (intensity : Rat) : Point.IsWithin .zero intensity := by
  simp [Point.IsWithin, Rational.ofNat_eq]

theorem isWithin_swing (first second : UInt64) (intensity : Rat) :
    (Point.scale ⟨swing first, swing second⟩ intensity).IsWithin intensity := by
  constructor
  · exact (abs_mul _ _).trans_le (mul_le_of_le_one_left (abs_nonneg _) (abs_swing_le first))
  · exact (abs_mul _ _).trans_le (mul_le_of_le_one_left (abs_nonneg _) (abs_swing_le second))

/-- At the end of a tick the displacement is within the intensity, and there is none if the time of
    the shake was over. -/
theorem offset_update_within (c : Camera Rat) (dt : Rat) (viewport : Size Rat) (smoothing : Rat)
    (centerOf : String → Option (Point Rat)) :
    (c.update dt viewport smoothing centerOf).offset.IsWithin c.shake.intensity ∧
      (c.shake.remaining ≤ 0 → (c.update dt viewport smoothing centerOf).offset = .zero) := by
  rw [offset_update, draws]
  cases hshaking : c.isShaking with
  | true =>
      refine ⟨isWithin_swing _ _ _, fun hover => absurd hover (not_le.2 ?_)⟩
      simpa [isShaking, Rational.ofNat_eq] using hshaking
  | false => exact ⟨isWithin_zero _, fun _ => rfl⟩

/-- No draw loses anything: every word follows exactly one word, and after the same calls cameras
    with other seeds have other words. A draw lies from zero up to one, so at the end of every tick
    the displacement is within the intensity that was ordered last, whatever has been done to the
    camera before, and there is none if the time of the shake was over. Nothing else displaces the
    picture. -/
theorem jitter_stays_within :
    Function.Bijective Jitter.next ∧ (∀ n, Function.Injective Jitter.next^[n]) ∧
    (∀ (center : Point Rat) calls,
      Function.Injective fun seed => ((initial center seed).run calls).jitter) ∧
    (∀ word, ((0 : Rat) ≤ Jitter.fraction word ∧ (Jitter.fraction word : Rat) < 1) ∧
      (0 : Float) ≤ Jitter.fraction word ∧ (Jitter.fraction word : Float) < 1) ∧
    ∀ (center : Point Rat) seed calls,
      let c := (initial center seed).run calls
      (∀ dt viewport smoothing centerOf,
        let d := c.call (.update dt viewport smoothing centerOf)
        d.offset.IsWithin (ordered calls) ∧ (c.shake.remaining ≤ 0 → d.offset = .zero)) ∧
      ∀ k, (c.call k).offset = c.offset ∨ (c.call k).offset = .zero ∨
        ∃ dt viewport smoothing centerOf, k = .update dt viewport smoothing centerOf := by
  refine ⟨Jitter.next_bijective, Jitter.next_iterate_injective, jitter_run_injective,
    fun word => ⟨Jitter.fraction_mem word, Jitter.double_fraction_mem word⟩, ?_⟩
  intro center seed calls c
  refine ⟨fun dt viewport smoothing centerOf => ?_, c.offset_call⟩
  rw [← intensity_run center seed calls]
  exact c.offset_update_within dt viewport smoothing centerOf

end Camera

end Playfield
