import Mathlib
import Playfield.Proofs.Camera.Calls

/-!
# The Words of a Shake

Which words the jitter of a camera is made of.

A generator of random words has a state that advances by one constant with each draw, and what
it gives out is the mixed state. The state itself is never mixed, so it runs through all words
before one comes back. The jitter does not keep that state. It keeps the word that it has given
out, and the next draw starts from there.

The two cannot be told apart by the first word, and after that hardly ever agree. Mixing loses
nothing, so two mixed words are the same only if the unmixed ones are; and a word of the jitter
is the one that the generator gives out only if the word before is the generator's state, mixed
or not. So the two agree as long as mixing changes no state. No seed has only such states in
front of it.

## Main definitions

* `Jitter.advance`, `Jitter.output`: The state of a generator and what it gives out.
* `Camera.draws`, `Camera.drawn`: The words that calls draw.
* `Camera.shaken`: Calls that draw as many words as one likes.

## Theorems

* `Jitter.mix_injective`: Mixing loses nothing.
* `Jitter.next_eq_output_iff`: When a word is what the generator gives out.
* `Jitter.forall_next_eq_output_iff`: How long the two agree.
* `Jitter.exists_next_ne_output`: They do not agree for ever.
* `Camera.drawn_eq_iterate`: The words that are drawn follow each other.
* `Camera.jitter_departs`: The jitter departs from the generator.
-/

namespace Playfield

namespace Jitter

/-- The state of a generator after one draw more. -/
def advance (state : UInt64) : UInt64 := state + 0x9e3779b97f4a7c15

/-- What a generator gives out at a draw, counted from one. -/
def output (seed : UInt64) (n : Nat) : UInt64 := mix (advance^[n] seed)

/-- A word can be told from what is left when it is laid over itself. -/
theorem xor_shiftRight_injective (k : UInt64) (hk : 0 < k.toNat % 64) :
    Function.Injective fun z : UInt64 => z ^^^ (z >>> k) := by
  intro z w h
  -- The bits in which two such words differ would be the same further down.
  have hshift : z ^^^ w = (z ^^^ w) >>> k := by
    rw [UInt64.shiftRight_xor, ← UInt64.xor_eq_zero_iff]
    calc z ^^^ w ^^^ (z >>> k ^^^ w >>> k) = (z ^^^ z >>> k) ^^^ (w ^^^ w >>> k) := by ac_rfl
      _ = 0 := UInt64.xor_eq_zero_iff.2 h
  have hzero : z ^^^ w = 0 := by
    generalize z ^^^ w = d at hshift
    have hnat : d.toNat = d.toNat / 2 ^ (k.toNat % 64) := by
      rw [← Nat.shiftRight_eq_div_pow, ← UInt64.toNat_shiftRight, ← hshift]
    have htwo : 1 < 2 ^ (k.toNat % 64) := Nat.one_lt_two_pow hk.ne'
    have hself : d.toNat = 0 := by
      by_contra hne
      exact absurd hnat (Nat.div_lt_self (Nat.pos_of_ne_zero hne) htwo).ne'
    exact UInt64.toNat_inj.1 hself
  exact UInt64.xor_eq_zero_iff.1 hzero

theorem mul_injective {a b : UInt64} (h : a * b = 1) :
    Function.Injective fun z : UInt64 => z * a := by
  intro z w hzw
  have hmul : z * a * b = w * a * b := congrArg (· * b) hzw
  rwa [UInt64.mul_assoc, UInt64.mul_assoc, h, UInt64.mul_one, UInt64.mul_one] at hmul

/-- Mixing loses nothing. -/
theorem mix_injective : Function.Injective mix := by
  have h₁ := xor_shiftRight_injective 30 (by decide)
  have h₂ := mul_injective (a := 0xbf58476d1ce4e5b9) (b := 0x96de1b173f119089) (by decide)
  have h₃ := xor_shiftRight_injective 27 (by decide)
  have h₄ := mul_injective (a := 0x94d049bb133111eb) (b := 0x319642b2d24d8ec3) (by decide)
  have h₅ := xor_shiftRight_injective 31 (by decide)
  exact h₅.comp (h₄.comp (h₃.comp (h₂.comp h₁)))

/-- A word is what the generator gives out if the word before is the generator's state. -/
theorem next_eq_output_iff (seed : UInt64) (n : Nat) :
    next^[n + 1] seed = output seed (n + 1) ↔ next^[n] seed = advance^[n] seed := by
  have hword : next^[n + 1] seed = mix (advance (next^[n] seed)) :=
    Function.iterate_succ_apply' next n seed
  have hout : output seed (n + 1) = mix (advance (advance^[n] seed)) :=
    congrArg mix (Function.iterate_succ_apply' advance n seed)
  rw [hword, hout, mix_injective.eq_iff, advance, advance, UInt64.add_left_inj]

/-- The words are what the generator gives out as long as mixing does not change its state. -/
theorem forall_next_eq_output_iff (seed : UInt64) (n : Nat) :
    (∀ m < n, next^[m + 1] seed = output seed (m + 1)) ↔
      ∀ m, 0 < m → m < n → mix (advance^[m] seed) = advance^[m] seed := by
  constructor
  · intro h m hm hmn
    obtain ⟨k, rfl⟩ := Nat.exists_eq_add_one_of_ne_zero hm.ne'
    -- The word is the mixed state, and for the next word it has to be the state.
    have hmixed : next^[k + 1] seed = mix (advance^[k + 1] seed) := h k (by omega)
    rw [← hmixed]
    exact (next_eq_output_iff seed (k + 1)).1 (h (k + 1) hmn)
  · intro h m hmn
    induction m with
    | zero => exact (next_eq_output_iff seed 0).2 (Eq.refl seed)
    | succ m ih =>
        rw [next_eq_output_iff, ih (by omega)]
        exact h (m + 1) (by omega) hmn

theorem advance_iterate (seed : UInt64) (n : Nat) :
    advance^[n] seed = seed + UInt64.ofNat n * 0x9e3779b97f4a7c15 := by
  induction n with
  | zero => simp
  | succ n ih =>
      rw [Function.iterate_succ_apply', ih, advance, UInt64.ofNat_add, UInt64.add_mul,
        UInt64.add_assoc]
      rfl

/-- The state of a generator becomes every word. -/
theorem exists_advance_iterate (seed word : UInt64) : ∃ n, 0 < n ∧ advance^[n] seed = word := by
  -- The constant is odd, so it can be divided by.
  have hunit : (0xf1de83e19937733d : UInt64) * 0x9e3779b97f4a7c15 = 1 := by decide
  refine ⟨((word - seed) * 0xf1de83e19937733d).toNat + 2 ^ 64, by omega, ?_⟩
  have hlap : UInt64.ofNat (2 ^ 64) = 0 := rfl
  rw [advance_iterate, UInt64.ofNat_add, hlap, UInt64.ofNat_toNat, UInt64.add_zero,
    UInt64.mul_assoc, hunit, UInt64.mul_one, UInt64.add_comm, UInt64.sub_add_cancel]

/-- No seed gives the same words for ever. -/
theorem exists_next_ne_output (seed : UInt64) : ∃ n, next^[n + 1] seed ≠ output seed (n + 1) := by
  obtain ⟨n, hn, hone⟩ := exists_advance_iterate seed 1
  by_contra h
  push Not at h
  -- When the state is one, mixing changes it.
  have hfixed := (forall_next_eq_output_iff seed (n + 1)).1 (fun m _ => h m) n hn (by omega)
  rw [hone] at hfixed
  exact absurd hfixed (by decide)

end Jitter

namespace Camera

section Runs

variable {R : Type} [Scalar R] (c : Camera R)

/-- The words that a call draws: two if a tick ends while the picture is being displaced. -/
def draws : CameraCall R → List UInt64
  | .update _ _ _ _ =>
    if c.isShaking then [Jitter.next c.jitter, Jitter.next (Jitter.next c.jitter)] else []
  | _ => []

/-- The words that calls draw, one call after the other. -/
def drawn : Camera R → List (CameraCall R) → List UInt64
  | _, [] => []
  | c, k :: ks => c.draws k ++ (c.call k).drawn ks

theorem shake_move (dt smoothing : R) (centerOf : String → Option (Point R)) :
    (c.move dt smoothing centerOf).shake = c.shake ∧
      (c.move dt smoothing centerOf).jitter = c.jitter := by
  unfold move
  dsimp only
  split
  · exact ⟨rfl, rfl⟩
  · split <;> exact ⟨rfl, rfl⟩
  · exact ⟨rfl, rfl⟩

theorem shake_applyBounds (viewport : Size R) :
    (c.applyBounds viewport).shake = c.shake ∧ (c.applyBounds viewport).jitter = c.jitter := by
  unfold applyBounds
  split <;> exact ⟨rfl, rfl⟩

theorem isShaking_congr {c d : Camera R} (h : d.shake = c.shake) : d.isShaking = c.isShaking := by
  rw [isShaking, isShaking, h]

/-- Until the shake goes on at the end of a tick, it is what it was before. -/
theorem exists_advanceShake (dt : R) (viewport : Size R) (smoothing : R)
    (centerOf : String → Option (Point R)) :
    ∃ d : Camera R, d.shake = c.shake ∧ d.jitter = c.jitter ∧
      c.update dt viewport smoothing centerOf = d.advanceShake dt := by
  have hmove := c.shake_move dt smoothing centerOf
  have hbounds := (c.move dt smoothing centerOf).shake_applyBounds viewport
  exact ⟨((c.move dt smoothing centerOf).applyBounds viewport).refreshMoving,
    hbounds.1.trans hmove.1, hbounds.2.trans hmove.2, rfl⟩

/-- The displacement of the picture is made from the words that are drawn. -/
theorem offset_update (dt : R) (viewport : Size R) (smoothing : R)
    (centerOf : String → Option (Point R)) :
    (c.update dt viewport smoothing centerOf).offset =
      match c.draws (.update dt viewport smoothing centerOf) with
      | [first, second] => Point.scale ⟨swing first, swing second⟩ c.shake.intensity
      | _ => .zero := by
  obtain ⟨d, hshake, hjitter, heq⟩ := c.exists_advanceShake dt viewport smoothing centerOf
  rw [heq, advanceShake, draws, isShaking_congr hshake, hjitter, hshake]
  cases c.isShaking <;> rfl

/-- The words that a call draws follow each other, and the jitter keeps the last one. -/
theorem draws_eq_iterate (k : CameraCall R) :
    c.draws k = List.iterate Jitter.next (Jitter.next c.jitter) (c.draws k).length ∧
      (c.call k).jitter = Jitter.next^[(c.draws k).length] c.jitter := by
  cases k
  case update dt viewport smoothing centerOf =>
    obtain ⟨d, hshake, hjitter, heq⟩ := c.exists_advanceShake dt viewport smoothing centerOf
    rw [call, heq, advanceShake, draws, isShaking_congr hshake, hjitter]
    cases c.isShaking
    · exact ⟨rfl, rfl⟩
    · exact ⟨rfl, rfl⟩
  -- The others draw nothing.
  all_goals exact ⟨rfl, rfl⟩

/-- The words that calls draw follow each other, wherever one call ends and another begins. -/
theorem drawn_eq_iterate (calls : List (CameraCall R)) :
    c.drawn calls = List.iterate Jitter.next (Jitter.next c.jitter) (c.drawn calls).length ∧
      (c.run calls).jitter = Jitter.next^[(c.drawn calls).length] c.jitter := by
  induction calls generalizing c with
  | nil => exact ⟨rfl, rfl⟩
  | cons k ks ih =>
      have hcall := c.draws_eq_iterate k
      have hrest := ih (c.call k)
      have hword : Jitter.next (c.call k).jitter =
          Jitter.next^[(c.draws k).length] (Jitter.next c.jitter) := by
        rw [hcall.2, ← Function.iterate_succ_apply' Jitter.next, Function.iterate_succ_apply]
      constructor
      · rw [drawn, List.length_append, List.iterate_add, ← hword, ← hcall.1, ← hrest.1]
      · rw [drawn, List.length_append, Nat.add_comm, Function.iterate_add_apply, ← hcall.2]
        exact hrest.2

theorem getElem_drawn (calls : List (CameraCall R)) (n : Nat) (h : n < (c.drawn calls).length) :
    (c.drawn calls)[n] = Jitter.next^[n + 1] c.jitter := by
  rw [List.getElem_of_eq (c.drawn_eq_iterate calls).1, List.getElem_iterate,
    Function.iterate_succ_apply]

end Runs

/-- A shake that lasts, and the ends of some ticks without length. -/
def shaken (ticks : Nat) : List (CameraCall Float) :=
  .startShake 1 1 :: List.replicate ticks (.update 0 ⟨800, 600⟩ 0 fun _ => none)

theorem length_drawn_ticks {c : Camera Float} (h : c.shake = ⟨1, 1⟩) (ticks : Nat) :
    (c.drawn (List.replicate ticks (.update 0 ⟨800, 600⟩ 0 fun _ => none))).length = 2 * ticks := by
  induction ticks generalizing c with
  | zero => rfl
  | succ ticks ih =>
      have hshaking : c.isShaking = true := by
        rw [isShaking, h]
        decide
      -- A tick without length takes nothing from the time of the shake.
      have hlasts : (c.update 0 ⟨800, 600⟩ 0 fun _ => none).shake = ⟨1, 1⟩ := by
        obtain ⟨d, hshake, -, heq⟩ := c.exists_advanceShake 0 ⟨800, 600⟩ 0 fun _ => none
        rw [heq, advanceShake, if_pos ((isShaking_congr hshake).trans hshaking), hshake, h]
        exact congrArg (Shake.mk 1) (by decide : (1 : Float) - 0 = 1)
      rw [List.replicate_succ, drawn, List.length_append, draws, if_pos hshaking]
      have hrest := ih hlasts
      simp only [call, List.length_cons, List.length_nil, hrest]
      omega

theorem length_drawn_shaken (c : Camera Float) (ticks : Nat) :
    (c.drawn (shaken ticks)).length = 2 * ticks :=
  length_drawn_ticks (c := c.startShake 1 1) rfl ticks

/-- The words that a camera draws follow each other: the next one is mixed from the one before,
    and the displacement of the picture is made from them. For every seed the first word is the
    one that a generator with that seed gives out, and the others are as long as mixing does not
    change the state of the generator. There is a call that draws another word. -/
theorem jitter_departs (center : Point Float) (seed : UInt64) :
    let c : Camera Float := initial center seed
    (∀ calls n, ∀ h : n < (c.drawn calls).length,
      (c.drawn calls)[n] = Jitter.next^[n + 1] seed) ∧
    (∀ calls dt viewport smoothing centerOf,
      let k := CameraCall.update dt viewport smoothing centerOf
      ((c.run calls).call k).offset =
        match (c.run calls).draws k with
        | [first, second] => Point.scale ⟨swing first, swing second⟩ (c.run calls).shake.intensity
        | _ => .zero) ∧
    (∀ calls, (∀ n, ∀ h : n < (c.drawn calls).length,
        (c.drawn calls)[n] = Jitter.output seed (n + 1)) ↔
      ∀ n, 0 < n → n < (c.drawn calls).length →
        Jitter.mix (Jitter.advance^[n] seed) = Jitter.advance^[n] seed) ∧
    ∃ calls n, ∃ h : n < (c.drawn calls).length,
      (c.drawn calls)[n] ≠ Jitter.output seed (n + 1) := by
  intro c
  refine ⟨c.getElem_drawn, ?_, ?_, ?_⟩
  · intro calls dt viewport smoothing centerOf k
    exact (c.run calls).offset_update dt viewport smoothing centerOf
  · intro calls
    rw [← Jitter.forall_next_eq_output_iff]
    refine forall_congr' fun n => forall_congr' fun h => ?_
    rw [getElem_drawn]
    rfl
  · obtain ⟨n, hn⟩ := Jitter.exists_next_ne_output seed
    have hlength : n < (c.drawn (shaken (n + 1))).length := by
      rw [length_drawn_shaken]
      omega
    refine ⟨shaken (n + 1), n, hlength, ?_⟩
    rw [getElem_drawn]
    exact hn

/-- The second word is not what the generator gives out. -/
theorem not_drawn_eq_output :
    ¬ ∀ (center : Point Float) (seed : UInt64) (calls : List (CameraCall Float)) (n : Nat)
      (h : n < ((initial center seed : Camera Float).drawn calls).length),
      ((initial center seed : Camera Float).drawn calls)[n] = Jitter.output seed (n + 1) := by
  intro h
  have hsecond := h .zero 0 (shaken 1) 1 (by rw [length_drawn_shaken]; omega)
  rw [getElem_drawn] at hsecond
  revert hsecond
  decide

end Camera

end Playfield
