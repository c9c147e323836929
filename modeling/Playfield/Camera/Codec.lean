import Playfield.Camera.Basic
import Playfield.Object.Codec

/-!
# Views in Documents

How a save holds the view of the camera.

Places stand in a save coordinate by coordinate, without objects of their own.

## Main definitions

* `Box.codec`, `Glide.codec`, `View.codec`: Bounds, glides and views.
-/

namespace Playfield

variable {R : Type} [Scalar R] [Numeral R]

/-- Boxes in documents. -/
def Box.codec : Codec (Box R) :=
  .record (Fields.start (fun x y x' y' => Box.mk ⟨x, y⟩ ⟨x', y'⟩)
    |>.required "minX" .number (·.low.x)
    |>.required "minY" .number (·.low.y)
    |>.required "maxX" .number (·.high.x)
    |>.required "maxY" .number (·.high.y))

/-- Glides in documents. -/
def Glide.codec : Codec (Glide R) :=
  .record (Fields.start (fun x y x' y' => Glide.mk ⟨x, y⟩ ⟨x', y'⟩)
    |>.required "startX" .number (·.start.x)
    |>.required "startY" .number (·.start.y)
    |>.required "targetX" .number (·.goal.x)
    |>.required "targetY" .number (·.goal.y)
    |>.required "duration" .number (·.duration)
    |>.required "elapsed" .number (·.elapsed))

/-- Views in documents. -/
def View.codec : Codec (View R) :=
  .record (Fields.start
      (fun x y zoom bounds glide x' y' moving follow =>
        View.mk ⟨x, y⟩ zoom bounds glide ⟨x', y'⟩ moving follow)
    |>.required "x" .number (·.position.x)
    |>.required "y" .number (·.position.y)
    |>.required "zoom" .number (·.zoom)
    |>.nullable "bounds" Box.codec (·.bounds)
    |>.nullable "lerp" Glide.codec (·.glide)
    |>.defaulting "lastX" .number 0 (·.lastPosition.x)
    |>.defaulting "lastY" .number 0 (·.lastPosition.y)
    |>.defaulting "isMoving" .bool false (·.isMoving)
    |>.optional "follow" .text (·.follow))

end Playfield
