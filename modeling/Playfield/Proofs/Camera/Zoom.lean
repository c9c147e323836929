import Mathlib
import Playfield.Camera.Basic
import Playfield.Scalar.Double

/-!
# The Floor of the Zoom

Every view that a camera gets into has a usable zoom.

Whatever sets a zoom applies the floor, and all else leaves the zoom alone. So the
floor, which is applied once more when a save is loaded, has nothing left to do
for a view that a camera has been in.

Doubles are needed here for two facts about two numbers: the floor is a number
that is not below itself, and one is not below the floor.

## Main definitions

* `View.IsUsable`: The floor has nothing to do for the zoom of a view.

## Theorems

* `View.isUsable_centered`: A fresh view is usable.
* `Camera.isUsable_changeZoom`, `Camera.isUsable_fit`, `Camera.isUsable_restore`: So
  is one whose zoom has been set.
* `Camera.zoom_update`: A tick does not zoom.
-/

namespace Playfield

/-- The floor has nothing to do for the zoom of a view. -/
def View.IsUsable (v : View Float) : Prop := Scalar.most v.zoom Camera.zoomFloor = v.zoom

namespace Camera

theorem most_one_zoomFloor : Scalar.most (1 : Float) zoomFloor = 1 := by decide

theorem most_most_zoomFloor (zoom : Float) :
    Scalar.most (Scalar.most zoom zoomFloor) zoomFloor = Scalar.most zoom zoomFloor := by
  have hfloor : Scalar.most (zoomFloor : Float) zoomFloor = zoomFloor := by decide
  by_cases hnumber : Scalar.isNumber zoom = true
  · by_cases hlow : zoom < zoomFloor
    · have hm : Scalar.most zoom zoomFloor = zoomFloor := by
        rw [Scalar.most, if_pos hnumber, if_pos hlow]
      rw [hm, hfloor]
    · have hm : Scalar.most zoom zoomFloor = zoom := by
        rw [Scalar.most, if_pos hnumber, if_neg hlow]
      rw [hm, hm]
  · have hm : Scalar.most zoom zoomFloor = zoomFloor := by
      rw [Scalar.most, if_neg hnumber]
    rw [hm, hfloor]

theorem most_usableZoom (zoom : Float) :
    Scalar.most (usableZoom zoom) zoomFloor = usableZoom zoom := by
  unfold usableZoom
  split
  · exact most_most_zoomFloor zoom
  · exact most_one_zoomFloor

theorem isUsable_changeZoom (c : Camera Float) (op : ZoomOp) (amount : Float) :
    (c.changeZoom op amount).view.IsUsable :=
  most_usableZoom _

theorem isUsable_fit (c : Camera Float) (area : Box Float) (padding : Float)
    (viewport : Size Float) : (c.fit area padding viewport).view.IsUsable :=
  most_usableZoom _

theorem isUsable_restore (c : Camera Float) (v : View Float) : (c.restore v).view.IsUsable :=
  most_most_zoomFloor v.zoom

theorem zoom_move {R : Type} [Scalar R] (c : Camera R) (dt smoothing : R)
    (centerOf : String → Option (Point R)) :
    (c.move dt smoothing centerOf).view.zoom = c.view.zoom := by
  unfold move
  dsimp only
  split
  · rfl
  · split <;> rfl
  · rfl

theorem zoom_applyBounds {R : Type} [Scalar R] (c : Camera R) (viewport : Size R) :
    (c.applyBounds viewport).view.zoom = c.view.zoom := by
  unfold applyBounds
  split <;> rfl

theorem zoom_advanceShake {R : Type} [Scalar R] (c : Camera R) (dt : R) :
    (c.advanceShake dt).view.zoom = c.view.zoom := by
  unfold advanceShake
  split <;> rfl

/-- A tick does not zoom. -/
theorem zoom_update {R : Type} [Scalar R] (c : Camera R) (dt : R) (viewport : Size R)
    (smoothing : R) (centerOf : String → Option (Point R)) :
    (c.update dt viewport smoothing centerOf).view.zoom = c.view.zoom := by
  unfold update
  rw [zoom_advanceShake]
  exact (zoom_applyBounds _ viewport).trans (zoom_move c dt smoothing centerOf)

end Camera

theorem View.isUsable_centered (center : Point Float) :
    (View.centered center).IsUsable :=
  Camera.most_one_zoomFloor

end Playfield
