import Mathlib
import Playfield.Proofs.Roster.Turrets
import Playfield.Proofs.Scalar.Exact

/-!
# Movers Keep Their Speed

How fast an object goes that is steered by keys, if nothing is rounded.

The keys set a goal for each axis, and the velocity is brought towards it. The rule for that is
not what one would take it for: where there is a goal, the velocity that is left has the sign of
the goal and is not longer than the goal, whatever it was before. So an object that is going left
turns at once when it is steered to the right. But it is never faster than what the keys ask for
(`abs_approach_le_goal`), and that is all that is needed to bound it. Without a goal the velocity
dies away: it gets shorter, or stays, and keeps its side of zero until it is nothing
(`fades_approach`).

An axis is without a goal if none of its keys is held. The vertical one is so too while keys of
both axes are held and the mover does not go diagonally. The keys of one axis never cancel each
other out, since the second of them wins.

Each axis is followed on its own, and of the history nothing matters but the velocity that it has
left. So the bound is an invariant of single steps, for any keys and any lengths of the steps.

## Main definitions

* `Fades`: A number comes nearer to zero and does not get to the other side.
* `Mover.steersX`, `Mover.steersY`: A key of an axis is held.
* `Roster.KeepsSpeed`: How a mover goes.

## Theorems

* `abs_approach_le`, `fades_approach`: A step of a velocity.
* `Mover.abs_aim_le`, `Mover.aim_x_eq_zero`, `Mover.aim_y_eq_zero`: What the keys ask for.
* `Mover.bounded_accelerate`: A step keeps a velocity within the speed.
* `Instance.get_step_mover`: A step of a mover.
* `Roster.mover_keepsSpeed`: Movers keep their speed.
-/

namespace Playfield

/-- A number comes nearer to zero, or stays, and does not get to the other side of it. -/
structure Fades (v w : Rat) : Prop where
  smaller : |w| ≤ |v|
  sameSide : w = 0 ∨ SignType.sign w = SignType.sign v

section Velocities

variable {v goal speed : Rat} (acceleration deceleration : Rat)

theorem approach_zero (v : Rat) : approach v 0 acceleration deceleration =
    SignType.sign v * max (|v| - deceleration) 0 := by
  have hsame : Scalar.same (0 : Rat) 0 = true := (Rational.same_iff 0 0).2 rfl
  rw [approach, Rational.ofNat_eq, Nat.cast_zero, if_pos hsame, Rational.sign_eq_sign,
    Rational.most_eq_max, Rational.abs_eq_abs]

theorem approach_of_ne_zero (v : Rat) (h : goal ≠ 0) :
    approach v goal acceleration deceleration =
      min |goal| |v + SignType.sign goal * acceleration| * SignType.sign goal := by
  have hsame : ¬ Scalar.same goal 0 = true := fun hs => h ((Rational.same_iff goal 0).1 hs)
  rw [approach, Rational.ofNat_eq, Nat.cast_zero, if_neg hsame]
  dsimp only
  rw [Rational.sign_eq_sign, Rational.least_eq_min, Rational.abs_eq_abs, Rational.abs_eq_abs]

/-- Where there is a goal, it is not overshot. -/
theorem abs_approach_le_goal (v : Rat) (h : goal ≠ 0) :
    |approach v goal acceleration deceleration| ≤ |goal| := by
  have hshort : |min |goal| (|v + SignType.sign goal * acceleration|)| ≤ |goal| := by
    rw [abs_of_nonneg (le_min (abs_nonneg _) (abs_nonneg _))]
    exact min_le_left _ _
  rw [approach_of_ne_zero acceleration deceleration v h, abs_mul]
  exact (mul_le_of_le_one_right (abs_nonneg _) (Rational.abs_sign_le_one goal)).trans hshort

/-- A velocity to the right becomes one to the left at once. -/
example : approach (100 : Rat) (-100) 40 30 = -60 := by decide +kernel

variable {deceleration}

/-- Where there is none, the velocity fades. -/
theorem fades_approach (hd : 0 ≤ deceleration) (h : goal = 0) :
    Fades v (approach v goal acceleration deceleration) := by
  have hrest : 0 ≤ max (|v| - deceleration) 0 := le_max_right _ _
  have hshort : max (|v| - deceleration) 0 ≤ |v| := max_le (sub_le_self _ hd) (abs_nonneg v)
  rw [h, approach_zero]
  generalize max (|v| - deceleration) 0 = rest at hrest hshort
  constructor
  · rw [abs_mul, abs_of_nonneg hrest]
    exact (mul_le_of_le_one_left hrest (Rational.abs_sign_le_one v)).trans hshort
  · obtain rfl | hpos := hrest.eq_or_lt
    · exact .inl (mul_zero _)
    · refine .inr ?_
      rw [sign_mul, sign_pos hpos, mul_one, Rational.sign_sign]

theorem abs_approach_le (hd : 0 ≤ deceleration) (hv : |v| ≤ speed) (hgoal : |goal| ≤ speed) :
    |approach v goal acceleration deceleration| ≤ speed := by
  by_cases h : goal = 0
  · exact (fades_approach acceleration hd h).smaller.trans hv
  · exact (abs_approach_le_goal acceleration deceleration v h).trans hgoal

end Velocities

namespace Mover

section Keys

variable {R : Type} (m : Mover R) (i : Input R)

/-- One of the keys is held that move to the left and to the right. -/
def steersX : Bool := i.isKeyDown m.controls.keys.left || i.isKeyDown m.controls.keys.right

/-- One of the keys is held that move up and down. -/
def steersY : Bool := i.isKeyDown m.controls.keys.up || i.isKeyDown m.controls.keys.down

/-- What the keys ask for, told by the axes of which a key is held. -/
theorem aim_eq [Scalar R] : m.aim i =
    let x : R := side (i.isKeyDown m.controls.keys.left) (i.isKeyDown m.controls.keys.right)
    let y : R := side (i.isKeyDown m.controls.keys.up) (i.isKeyDown m.controls.keys.down)
    if (m.steersX i && m.steersY i) = true then
      if m.diagonals then Point.scale (Point.scale ⟨x, y⟩ m.speed) diagonalFactor
      else Point.scale ⟨x, 0⟩ m.speed
    else Point.scale ⟨x, y⟩ m.speed := rfl

end Keys

theorem side_of_none {first second : Bool} (h : (first || second) = false) :
    (side first second : Rat) = 0 := by
  rw [Bool.or_eq_false_iff] at h
  rw [side, h.1, h.2]
  exact Rational.ofNat_eq 0

theorem abs_side_le_one (first second : Bool) : |(side first second : Rat)| ≤ 1 := by
  unfold side
  simp only [Rational.ofNat_eq]
  split
  · simp
  · split <;> simp

theorem abs_diagonalFactor_le_one : |(diagonalFactor : Rat)| ≤ 1 := by
  decide +kernel

variable {m : Mover Rat} {i : Input Rat}

/-- No axis is asked to go faster than the speed of the mover. -/
theorem abs_aim_le (hspeed : 0 ≤ m.speed) (i : Input Rat) :
    |(m.aim i).x| ≤ m.speed ∧ |(m.aim i).y| ≤ m.speed := by
  -- A goal is the speed, in one direction or none, and shortened or not.
  have hscaled {x k : Rat} (hx : |x| ≤ 1) (hk : |k| ≤ 1) : |x * m.speed * k| ≤ m.speed := by
    rw [abs_mul, abs_mul, abs_of_nonneg hspeed]
    have hside : |x| * m.speed ≤ m.speed := mul_le_of_le_one_left hspeed hx
    exact (mul_le_of_le_one_right (mul_nonneg (abs_nonneg x) hspeed) hk).trans hside
  have hunit {x : Rat} (hx : |x| ≤ 1) : |x * m.speed| ≤ m.speed := by
    simpa using hscaled hx (k := 1) (by simp)
  rw [aim_eq]
  dsimp only
  split
  · split
    · exact ⟨hscaled (abs_side_le_one _ _) abs_diagonalFactor_le_one,
        hscaled (abs_side_le_one _ _) abs_diagonalFactor_le_one⟩
    · exact ⟨hunit (abs_side_le_one _ _), hunit (by simp [Rational.ofNat_eq])⟩
  · exact ⟨hunit (abs_side_le_one _ _), hunit (abs_side_le_one _ _)⟩

/-- Without a key of the horizontal axis there is no goal on it. -/
theorem aim_x_eq_zero (h : m.steersX i = false) : (m.aim i).x = 0 := by
  rw [aim_eq, h, Bool.false_and, if_neg Bool.false_ne_true, Point.scale_x, side_of_none h,
    zero_mul]

/-- Without a key of the vertical axis there is no goal on it, and there is none while a key of
    the other axis is held as well, unless the mover goes diagonally. -/
theorem aim_y_eq_zero (h : m.steersY i = false ∨ m.diagonals = false ∧ m.steersX i = true) :
    (m.aim i).y = 0 := by
  rw [aim_eq]
  cases hy : m.steersY i with
  | false =>
      rw [Bool.and_false, if_neg Bool.false_ne_true, Point.scale_y, side_of_none hy, zero_mul]
  | true =>
      have hstraight : m.diagonals = false ∧ m.steersX i = true := h.resolve_left (by simp [hy])
      rw [hstraight.2, Bool.and_true, if_pos rfl, hstraight.1, if_neg Bool.false_ne_true,
        Point.scale_y, Rational.ofNat_eq, Nat.cast_zero, zero_mul]

/-- A velocity does not exceed a speed on either axis. -/
structure Bounded (speed : Rat) (v : Point Rat) : Prop where
  x : |v.x| ≤ speed
  y : |v.y| ≤ speed

/-- A step keeps a velocity within the speed of the mover. -/
theorem bounded_accelerate (hspeed : 0 ≤ m.speed) (hdeceleration : 0 ≤ m.deceleration)
    (i : Input Rat) {dt : Rat} (hdt : 0 ≤ dt) {v : Point Rat} (hv : Bounded m.speed v) :
    Bounded m.speed (m.accelerate i dt v) := by
  have hd : 0 ≤ m.deceleration * dt := mul_nonneg hdeceleration hdt
  have haim := m.abs_aim_le hspeed i
  exact ⟨abs_approach_le _ hd hv.x haim.1, abs_approach_le _ hd hv.y haim.2⟩

end Mover

section Steps

variable {R : Type} [Scalar R] [Planar R] (scene : Scene R) (input : Input R) (dt : R)
  {m : Mover R} {v : Point R}

theorem Stepped.act_mover (s : Stepped R) (h : s.subject.states.get .mover = some (.mover v)) :
    s.act scene input dt (.mover m) = s.drive m input dt v := by
  simp only [act, Behavior.kind, h]

/-- A mover remembers the velocity to which it has come. -/
theorem Instance.get_step_mover {i : Instance R} (hi : i.HasOnly (.mover m))
    (hstate : i.states.get .mover = some (.mover v)) :
    (i.step scene input dt).subject.states.get .mover =
      some (.mover (m.accelerate input dt v)) := by
  obtain ⟨s, hturn, hstep⟩ := hi.exists_turn scene input dt
  exact hstep.trans (by rw [Stepped.act_mover scene input dt s (hturn.trans hstate)]; rfl)

end Steps

namespace Mover

/-- The velocity of a mover after the first steps of a sequence. -/
def velocity {R : Type} [Scalar R] (m : Mover R) (beats : Nat → Beat R) : Nat → Point R
  | 0 => .zero
  | n + 1 => m.accelerate (beats n).input (beats n).dt (m.velocity beats n)

variable {m : Mover Rat} {beats : Nat → Beat Rat}

theorem bounded_velocity (hspeed : 0 ≤ m.speed) (hdeceleration : 0 ≤ m.deceleration)
    (hdt : ∀ n, 0 ≤ (beats n).dt) (n : Nat) : Bounded m.speed (m.velocity beats n) := by
  induction n with
  | zero => constructor <;> simpa [velocity, Rational.ofNat_eq] using hspeed
  | succ n ih => exact bounded_accelerate hspeed hdeceleration _ (hdt n) ih

end Mover

theorem Instance.mover_after {R : Type} [Scalar R] [Planar R] {beats : Nat → Beat R}
    {i : Instance R} {m : Mover R} (hi : i.HasOnly (.mover m))
    (hfresh : i.states.get .mover = some (.mover .zero)) (n : Nat) :
    (i.after beats n).HasOnly (.mover m) ∧
      (i.after beats n).states.get .mover = some (.mover (m.velocity beats n)) := by
  induction n with
  | zero => exact ⟨hi, hfresh⟩
  | succ n ih => exact ⟨ih.1.of_differsIn (differsIn_step _ _ _ _), get_step_mover _ _ _ ih.1 ih.2⟩

namespace Roster

variable [Planar Rat]

/-- How a mover goes that stands at a place of a roster. Its velocities are those that it
    remembers after each number of steps. -/
structure KeepsSpeed (r : Roster Rat) (supply : Supply) (beats : Nat → Beat Rat) (k : Nat)
    (m : Mover Rat) (velocity : Nat → Point Rat) : Prop where
  remembered : ∀ n, ∃ i, (r.after beats supply n).1.live[k]? = some i ∧
    i.states.get .mover = some (.mover (velocity n))
  bounded : ∀ n, Mover.Bounded m.speed (velocity n)
  idleX : ∀ n, m.steersX (beats n).input = false → Fades (velocity n).x (velocity (n + 1)).x
  idleY : ∀ n, m.steersY (beats n).input = false → Fades (velocity n).y (velocity (n + 1)).y
  /-- Without diagonals the horizontal axis goes before the vertical one. -/
  straight : m.diagonals = false → ∀ n, m.steersX (beats n).input = true →
    m.steersY (beats n).input = true →
      (m.aim (beats n).input).y = 0 ∧ Fades (velocity n).y (velocity (n + 1)).y

/-- Movers keep their speed. -/
theorem mover_keepsSpeed {r : Roster Rat} (supply : Supply) {beats : Nat → Beat Rat} {k : Nat}
    {m : Mover Rat} {i : Instance Rat} (hk : r.live[k]? = some i) (hi : i.HasOnly (.mover m))
    (hfresh : i.states.get .mover = some (.mover .zero)) (hspeed : 0 ≤ m.speed)
    (hdeceleration : 0 ≤ m.deceleration) (hdt : ∀ n, 0 ≤ (beats n).dt) :
    ∃ velocity, r.KeepsSpeed supply beats k m velocity := by
  have hfading : ∀ n, 0 ≤ m.deceleration * (beats n).dt :=
    fun n => mul_nonneg hdeceleration (hdt n)
  refine ⟨m.velocity beats, ?_⟩
  constructor
  case remembered =>
    intro n
    refine ⟨i.after beats n, ?_, (Instance.mover_after hi hfresh n).2⟩
    rw [live_after, List.getElem?_map, hk]
    rfl
  case bounded => exact m.bounded_velocity hspeed hdeceleration hdt
  case idleX =>
    intro n hn
    exact fades_approach _ (hfading n) (m.aim_x_eq_zero hn)
  case idleY =>
    intro n hn
    exact fades_approach _ (hfading n) (m.aim_y_eq_zero (.inl hn))
  case straight =>
    intro hstraight n hx hy
    have hgoal := m.aim_y_eq_zero (.inr ⟨hstraight, hx⟩)
    exact ⟨hgoal, fades_approach _ (hfading n) hgoal⟩

end Roster

/-- A scene with a mover that goes along one axis at a time, and looks where the pointer is. -/
def Scene.yard : Scene Rat :=
  ⟨"yard", "Yard", [],
    [⟨"hero", "Hero", .zero, ⟨20, 20⟩, 1, 0, .empty, "", true, .empty, [],
      [.facePointer 1 0, .mover ⟨100, 400, 300, false, .wasd⟩], .sprite ⟨none, [], none⟩⟩], []⟩

/-- An input with some keys held. -/
def Input.holding (keys : List String) : Input Rat :=
  keys.foldl (fun i key => i.apply (.keyDown key)) .initial

/-- It is steered to the right, and then back to the left and up at once. -/
theorem Roster.mover_keepsSpeed_yard :
    letI := Rational.upright
    let m : Mover Rat := ⟨100, 400, 300, false, .wasd⟩
    let beats : Nat → Beat Rat := fun n =>
      ⟨.yard, .holding (if n = 0 then ["d"] else ["a", "w"]), if n = 0 then 1 / 2 else 1 / 10⟩
    ∃ i, (ofScene Scene.yard).live[0]? = some i ∧ i.HasOnly (.mover m) ∧
      i.states.get .mover = some (.mover .zero) ∧ 0 ≤ m.speed ∧ 0 ≤ m.deceleration ∧
      (∀ n, 0 ≤ (beats n).dt) ∧
      ∀ supply, ∃ velocity, (ofScene Scene.yard).KeepsSpeed supply beats 0 m velocity := by
  let _ : Planar Rat := Rational.upright
  have hdt : ∀ n : Nat, (0 : Rat) ≤ if n = 0 then 1 / 2 else 1 / 10 := by
    intro n
    split <;> norm_num
  exact ⟨_, rfl, by decide +kernel, by decide +kernel, by decide +kernel, by decide +kernel, hdt,
    fun supply => mover_keepsSpeed supply rfl (by decide +kernel) (by decide +kernel)
      (by decide +kernel) (by decide +kernel) hdt⟩

end Playfield
