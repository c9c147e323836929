import Mathlib
import Playfield.Proofs.Double.Order
import Playfield.Proofs.Session.Load
import Playfield.Proofs.Session.Reconcile

/-!
# Cameras Within Bounds

What a bounded camera shows lies within the bounds.

The bounds are laid on the camera at the end of a tick, after everything that can move
it, zoom it or change the bounds: the actions of the tick come before, and then a glide
or a followed object. What follows, the moving flag and the shake, leaves the view
alone. So it does not matter what has been done to the camera, and not even whether its
position was a number.

That is the point of the two steps in which a coordinate is confined. The upper bound is
applied first, and a coordinate that is no number gives way to it; then the lower bound,
and it meets a number. In the other order nothing would change for numbers, but the upper
bound would be the one that is kept where there is not room for both.

## Main definitions

* `Camera.IsConfined`: The view lies within the bounds wherever there is room for it.

## Theorems

* `Double.le_most`, `Double.most_le`, `Double.least_le`: Doubles between bounds.
* `Camera.confined_between`: A coordinate that is confined.
* `Camera.isConfined_update`: The end of a tick confines a camera.
* `Session.tick_confines`: A camera is confined after a tick, whatever the tick has done.
-/

namespace Playfield

namespace Double

variable {x y z : Float}

theorem isNumber_of_le (h : x ≤ y) : Scalar.isNumber y = true := decide_eq_true (le_self_right h)

theorem least_le (x : Float) (h : y ≤ y) : Scalar.least x y ≤ y := by
  unfold Scalar.least
  split
  · next hx =>
    split
    · exact h
    · next hlt => exact le_of_not_lt (of_decide_eq_true hx) h hlt
  · exact h

theorem le_most (h : x ≤ x) (y : Float) : x ≤ Scalar.most x y := by
  unfold Scalar.most
  rw [if_pos (isNumber_of_le h)]
  split
  · next hlt => exact le_of_lt hlt
  · exact h

theorem most_le (hx : x ≤ z) (hy : y ≤ z) : Scalar.most x y ≤ z := by
  unfold Scalar.most
  split
  · split
    · exact hy
    · exact hx
  · exact hy

end Double

namespace Camera

/-- A view that reaches from a coordinate as far as `half` to both sides lies between
    two bounds, if there is room for it. -/
def Between {R : Type} [Scalar R] (low high half x : R) : Prop :=
  low + half ≤ high - half → low + half ≤ x ∧ x ≤ high - half

/-- The view lies within the bounds of the camera, in each direction in which there is
    room for it. -/
def IsConfined {R : Type} [Scalar R] (c : Camera R) (viewport : Size R) : Prop :=
  ∀ b, c.view.bounds = some b →
    let half := (c.viewSize viewport).scale 0.5
    Between b.low.x b.high.x half.x c.view.position.x ∧
      Between b.low.y b.high.y half.y c.view.position.y

/-- A coordinate that is confined lies between its bounds, even if it has not been a
    number before. -/
theorem confined_between (low high half x : Float) :
    Between low high half (confined low high half x) := by
  intro hroom
  have hleast := Double.least_le x (Double.le_self_right hroom)
  exact ⟨Double.le_most (Double.le_self_left hroom) _, Double.most_le hroom hleast⟩

theorem isConfined_applyBounds (c : Camera Float) (viewport : Size Float) :
    (c.applyBounds viewport).IsConfined viewport := by
  unfold applyBounds
  cases hbounds : c.view.bounds with
  | none =>
      intro b hb
      rw [hbounds] at hb
      cases hb
  | some bounds =>
      intro b hb
      have hsame : bounds = b := Option.some.inj (hbounds.symm.trans hb)
      subst hsame
      exact ⟨confined_between _ _ _ _, confined_between _ _ _ _⟩

/-- The moving flag and the shake are no part of what is confined. -/
theorem IsConfined.congr {c d : Camera Float} {viewport : Size Float} (h : c.IsConfined viewport)
    (hzoom : d.view.zoom = c.view.zoom) (hbounds : d.view.bounds = c.view.bounds)
    (hposition : d.view.position = c.view.position) : d.IsConfined viewport := by
  intro b hb
  rw [hbounds] at hb
  have hsize : d.viewSize viewport = c.viewSize viewport := by rw [viewSize, viewSize, hzoom]
  rw [hsize, hposition]
  exact h b hb

/-- The end of a tick confines a camera, wherever it is moved to before. -/
theorem isConfined_update (c : Camera Float) (dt : Float) (viewport : Size Float)
    (smoothing : Float) (centerOf : String → Option (Point Float)) :
    (c.update dt viewport smoothing centerOf).IsConfined viewport := by
  have hconfined := isConfined_applyBounds (c.move dt smoothing centerOf) viewport
  unfold update advanceShake
  split
  · exact hconfined.congr rfl rfl rfl
  · exact hconfined.congr rfl rfl rfl

end Camera

namespace Session

variable {B : Type}

/-- Unless a save is loaded, the camera is moved last. -/
theorem conclude_eq_moveCamera {R : Type} [Scalar R] [Numeral R] (s : Session R B) (dt : R)
    (h : ∀ slot, (conclude dt s).2 ≠ .loaded slot) :
    ∃ t : Session R B, (conclude dt s).1 = (moveCamera dt t).rotateInput := by
  rcases request_cases s with ⟨slot, hl, hload⟩ | ⟨hl, ⟨id, scene, hs, hscene⟩ | hs⟩
  · exact absurd (by rw [conclude_of_loaded _ hl hload]) (h slot)
  · rw [conclude_of_changed _ hl hs hscene]
    exact ⟨_, rfl⟩
  · rw [conclude_of_advanced _ hl hs]
    exact ⟨_, rfl⟩

/-- A tick that is neither held up nor too late, and that comes to an end, has been played. -/
theorem tick_eq_conclude_of_outcome {R : Type} [Scalar R] [Numeral R] [Planar R]
    [AudioOutput R B] [DecidableEq R] {s : Session R B} {dt : R} (hpaused : (s.tick dt).2 ≠ .paused)
    (hclosed : (s.tick dt).2 ≠ .closed) (hover : ¬ s.Overflows dt) :
    s.tick dt = conclude (elapsedTime dt) (s.passed dt) := by
  refine tick_eq_conclude (idles_eq_false_iff.2 ?_)
  cases hc : s.closed with
  | true => exact absurd (by rw [tick_closed s dt hc]) hclosed
  | false =>
      cases hp : s.popup with
      | none => exact ⟨rfl, rfl, hover⟩
      | some popup => exact absurd (by rw [tick_popup s dt hc (by rw [hp]; rfl)]) hpaused

variable [AudioOutput Float B]

/-- A tick that goes on in its scene or enters another one leaves the camera within its
    bounds wherever there is room for the view, whatever session it is a tick of: so
    whatever has been called before, and whatever the actions of the tick do to position,
    zoom and bounds. -/
theorem tick_confines (s : Session Float B) (dt : Float)
    (h : (s.tick dt).2 = .advanced ∨ ∃ id, (s.tick dt).2 = .sceneChanged id) :
    (s.tick dt).1.camera.IsConfined (s.tick dt).1.config.viewport := by
  have houtcome : (s.tick dt).2 ≠ .paused ∧ (s.tick dt).2 ≠ .closed ∧
      (s.tick dt).2 ≠ .overflowed ∧ ∀ slot, (s.tick dt).2 ≠ .loaded slot := by
    rcases h with h | ⟨id, h⟩ <;> rw [h] <;> exact ⟨nofun, nofun, nofun, nofun⟩
  have htick := tick_eq_conclude_of_outcome houtcome.1 houtcome.2.1 houtcome.2.2.1
  rw [htick] at houtcome ⊢
  obtain ⟨t, ht⟩ := conclude_eq_moveCamera (s.passed dt) (elapsedTime dt) houtcome.2.2.2
  rw [ht]
  exact Camera.isConfined_update _ _ _ _ _

/-- A session whose camera is put on a place that is none, then confined, and then
    zoomed. -/
def straying : Session Float (SilentOutput Float) :=
  .ofActions [⟨"1", .camera (.moveTo ⟨0 / 0, -500⟩)⟩,
    ⟨"2", .camera (.confine ⟨⟨0, 0⟩, ⟨2000, 1000⟩⟩)⟩, ⟨"3", .camera (.zoom 2 .set)⟩]

theorem tick_confines_straying :
    let c := (straying.tick 0).1.camera
    let half := (c.viewSize (straying.tick 0).1.config.viewport).scale 0.5
    (straying.tick 0).2 = .advanced ∧ half = ⟨200, 150⟩ ∧ (0 + 200 : Float) ≤ 2000 - 200 ∧
      (0 + half.x ≤ c.view.position.x ∧ c.view.position.x ≤ 2000 - half.x) ∧
        0 + half.y ≤ c.view.position.y ∧ c.view.position.y ≤ 1000 - half.y := by
  have h := tick_confines straying 0 (Or.inl rfl) ⟨⟨0, 0⟩, ⟨2000, 1000⟩⟩ rfl
  exact ⟨rfl, by decide +kernel, by decide +kernel, h.1 (by decide +kernel),
    h.2 (by decide +kernel)⟩

end Session

end Playfield
