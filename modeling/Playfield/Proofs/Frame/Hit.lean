import Mathlib
import Playfield.Frame.Basic

/-!
# Hitting What Is Drawn

A click hits what a player sees at its place.

A frame is painted from the back to the front: layer after layer, and on a layer one
instance after the other, so what is painted last hides what it overlaps. A click is
looked up from the front to the back, and ends at the first instance that is found
there. Both go through layers and instances on their own, and neither knows of the
other. But the last thing in a list is the first one in the reversed list, on the
level of the layers and again on the level of the instances. So they agree, also if a
layer is listed twice or an instance is on a layer that the scene does not have.

## Main definitions

* `Drawable.box`: The rectangle that a drawable covers before it is turned.

## Theorems

* `Session.hitOn_eq_last_drawn`: What is hit on one layer.
* `Session.hitTest_eq_last_drawable`: What is hit is what has been painted last.
-/

namespace Playfield

variable {R B : Type} [Scalar R]

/-- The rectangle that a drawable covers before it is turned. -/
def Drawable.box (d : Drawable R) : Box R := .ofOrigin d.position d.size

namespace Session

variable [Numeral R]

/-- On one layer the last instance that is drawn at a place is hit there. -/
theorem hitOn_eq_last_drawn (s : Session R B) (place : Point R) (index : Nat) (layer : Layer R) :
    s.hitOn place layer =
      (((s.drawn layer).map (s.drawable index layer)).filter (·.box.contains place)).getLast?.map
        (·.id) := by
  -- Drawing asks for the visible ones first and then for the layer, and hitting the other way.
  have hdrawn : s.roster.live.filter (fun i => i.object.layer == layer.name && i.object.visible) =
      s.drawn layer := by
    simp only [drawn, Bool.and_comm]
  unfold hitOn
  rw [List.filter_reverse, hdrawn, ← List.getLast?_filter, List.filter_map, List.getLast?_map,
    Option.map_map]
  rfl

/-- The instance that is hit at a place is the one whose drawable has been painted last
    of those that cover the place, and none is hit where none covers it. -/
theorem hitTest_eq_last_drawable (s : Session R B) (place : Point R) :
    s.hitTest place =
        (s.frame.drawables.filter (·.box.contains place)).getLast?.map (·.id) ∧
      (s.hitTest place = none ↔ ∀ d ∈ s.frame.drawables, d.box.contains place = false) := by
  have hlast : s.hitTest place =
      (s.frame.drawables.filter (·.box.contains place)).getLast?.map (·.id) := by
    -- The indices of the layers do not matter to what is hit on them.
    have hlayers : s.scene.layers.reverse = s.scene.layers.zipIdx.reverse.map Prod.fst := by
      rw [List.map_reverse, List.zipIdx_map_fst]
    unfold hitTest
    rw [hlayers, List.findSome?_map, frame, List.filter_flatMap, List.getLast?_flatMap,
      List.map_findSome?]
    congr 1
    funext l
    exact hitOn_eq_last_drawn s place l.2 l.1
  refine ⟨hlast, ?_⟩
  rw [hlast, Option.map_eq_none_iff, List.getLast?_eq_none_iff, List.filter_eq_nil_iff]
  simp only [Bool.not_eq_true]

end Session

end Playfield
