import Mathlib
import Playfield.Camera.Codec
import Playfield.Proofs.Object.Finite

/-!
# Finite Views

The views that come back from a save.

Bounds and glide of a view are written as `null` where there are none. So a view
without bounds and one whose bounds could not be written must not look alike, and
they do not: bounds are a record, and what is not finite in them is a `null` inside
of it.

## Main definitions

* `View.IsFinite`: All numbers of a view are finite.

## Theorems

* `Box.holds_codec`, `Glide.holds_codec`: Bounds and glides come back if they are finite.
* `View.holds_codec`: So do views.
-/

namespace Playfield

variable {R : Type} [Scalar R]

/-- Both corners are finite. -/
structure Box.IsFinite (b : Box R) : Prop where
  low : b.low.IsFinite
  high : b.high.IsFinite

/-- All numbers of a glide are finite. -/
structure Glide.IsFinite (g : Glide R) : Prop where
  start : g.start.IsFinite
  goal : g.goal.IsFinite
  duration : Scalar.isFinite g.duration = true
  elapsed : Scalar.isFinite g.elapsed = true

/-- All numbers of a view are finite. -/
structure View.IsFinite (v : View R) : Prop where
  position : v.position.IsFinite
  zoom : Scalar.isFinite v.zoom = true
  bounds : ∀ b ∈ v.bounds, b.IsFinite
  glide : ∀ g ∈ v.glide, g.IsFinite
  lastPosition : v.lastPosition.IsFinite

variable [Numeral R] [Numeral.Lawful R]

theorem Box.holds_codec (k : Nat) : (Box.codec : Codec (Box R)).Holds (k + 1) Box.IsFinite := by
  refine Codec.holds_record (by decide : ["minX", "minY", "maxX", "maxY"].Nodup) (fun _ => rfl) ?_
  refine .field (.required (Codec.holds_number k)) (fun _ h => h.high.y) ?_
  refine .field (.required (Codec.holds_number k)) (fun _ h => h.high.x) ?_
  refine .field (.required (Codec.holds_number k)) (fun _ h => h.low.y) ?_
  refine .field (.required (Codec.holds_number k)) (fun _ h => h.low.x) ?_
  refine .start ?_
  intro x hx y hy x' hx' y' hy'
  exact ⟨⟨hx, hy⟩, ⟨hx', hy'⟩⟩

theorem Glide.holds_codec (k : Nat) :
    (Glide.codec : Codec (Glide R)).Holds (k + 1) Glide.IsFinite := by
  refine Codec.holds_record (by decide : ["startX", "startY", "targetX", "targetY", "duration",
    "elapsed"].Nodup) (fun _ => rfl) ?_
  refine .field (.required (Codec.holds_number k)) (fun _ h => h.elapsed) ?_
  refine .field (.required (Codec.holds_number k)) (fun _ h => h.duration) ?_
  refine .field (.required (Codec.holds_number k)) (fun _ h => h.goal.y) ?_
  refine .field (.required (Codec.holds_number k)) (fun _ h => h.goal.x) ?_
  refine .field (.required (Codec.holds_number k)) (fun _ h => h.start.y) ?_
  refine .field (.required (Codec.holds_number k)) (fun _ h => h.start.x) ?_
  refine .start ?_
  intro x hx y hy x' hx' y' hy' duration hduration elapsed helapsed
  exact ⟨⟨hx, hy⟩, ⟨hx', hy'⟩, hduration, helapsed⟩

/-- Views come back if they are finite. -/
theorem View.holds_codec (k : Nat) :
    (View.codec : Codec (View R)).Holds (k + 2) View.IsFinite := by
  refine Codec.holds_record (by decide : ["x", "y", "zoom", "bounds", "lerp", "lastX", "lastY",
    "isMoving", "follow"].Nodup) (fun _ => rfl) ?_
  refine .free .optionalText ?_
  refine .free (.defaulting (Codec.holds_bool _) trivial) ?_
  refine .field (.defaulting (Codec.holds_number _) Numeral.isFinite_zero)
    (fun _ h => h.lastPosition.y) ?_
  refine .field (.defaulting (Codec.holds_number _) Numeral.isFinite_zero)
    (fun _ h => h.lastPosition.x) ?_
  refine .field (.nullable (Glide.holds_codec k) fun _ => ⟨_, rfl⟩) (fun _ h => h.glide) ?_
  refine .field (.nullable (Box.holds_codec k) fun _ => ⟨_, rfl⟩) (fun _ h => h.bounds) ?_
  refine .field (.required (Codec.holds_number _)) (fun _ h => h.zoom) ?_
  refine .field (.required (Codec.holds_number _)) (fun _ h => h.position.y) ?_
  refine .field (.required (Codec.holds_number _)) (fun _ h => h.position.x) ?_
  refine .start ?_
  intro x hx y hy zoom hzoom bounds hbounds glide hglide x' hx' y' hy' moving follow
  exact ⟨⟨hx, hy⟩, hzoom, hbounds, hglide, ⟨hx', hy'⟩⟩

end Playfield
