import Mathlib
import Playfield.Event.Codec
import Playfield.Proofs.Object.Finite

/-!
# Finite Conditions

The conditions that come back from a document.

A condition is one of a closed list of kinds. The fields of its kind stand in one object
with its id, so no kind may have a field that is called like the id or like the tag.
What is left to see is, kind by kind, that the fields that are written are those from
which the kind is made, and that its numbers are the only thing that can be lost.

## Main definitions

* `Condition.Kind.IsFinite`, `Condition.IsFinite`: All numbers of a condition are finite.

## Theorems

* `Condition.cover_variants`: The kinds, one after the other.
* `Condition.holds_codec`: Conditions come back if they are finite.
-/

namespace Playfield

variable {R : Type} [Scalar R]

/-- The numbers of a question about an object are finite. -/
def ObjectTest.IsFinite : ObjectTest R → Prop
  | .variable _ _ v | .property _ _ v => v.IsFinite
  | .health _ x => Scalar.isFinite x = true
  | .underPointer _ | .playing _ _ | .pressed => True

namespace Condition

/-- The numbers of a kind of condition are finite. -/
def Kind.IsFinite : Kind R → Prop
  | .object _ t => t.IsFinite
  | .groupSize _ _ x | .distance _ _ _ x | .timer _ x | .every x => Scalar.isFinite x = true
  | .global _ _ v => v.IsFinite
  | .cameraInside origin size => origin.IsFinite ∧ size.IsFinite
  | _ => True

/-- All numbers of a condition are finite. -/
def IsFinite (c : Condition R) : Prop := c.kind.IsFinite

end Condition

theorem MouseButton.holds_codec (k : Nat) : MouseButton.codec.Holds k fun _ => True := by
  refine Codec.holds_named k fun b => ?_
  cases b <;> decide

theorem Property.holds_codec (k : Nat) : Property.codec.Holds k fun _ => True := by
  refine Codec.holds_named k fun p => ?_
  cases p <;> decide

theorem Comparison.holds_codec (k : Nat) : Comparison.codec.Holds k fun _ => True := by
  refine Codec.holds_named k fun op => ?_
  cases op <;> decide

namespace Condition

variable [Numeral R] [Numeral.Lawful R] (k : Nat)

theorem holds_variableFields : (variableFields : Fields _ (Kind R)).Holds k
    (fun s => s.2.2.2.IsFinite) Kind.IsFinite := by
  refine .field (.required (Value.holds_codec k)) (fun _ h => h) ?_
  refine .free (.required (Comparison.holds_codec k)) ?_
  refine .free (.required (Codec.holds_text k)) ?_
  refine .free (.required (Codec.holds_text k)) ?_
  exact .start fun _ _ _ _ h => h

theorem holds_propertyFields : (propertyFields : Fields _ (Kind R)).Holds k
    (fun s => s.2.2.2.IsFinite) Kind.IsFinite := by
  refine .field (.required (Value.holds_codec k)) (fun _ h => h) ?_
  refine .free (.required (Comparison.holds_codec k)) ?_
  refine .free (.required (Property.holds_codec k)) ?_
  refine .free (.required (Codec.holds_text k)) ?_
  exact .start fun _ _ _ _ h => h

theorem holds_distanceFields : (distanceFields : Fields _ (Kind R)).Holds k
    (fun s => Scalar.isFinite s.2.2.2 = true) Kind.IsFinite := by
  refine .field (.required (Codec.holds_number k)) (fun _ h => h) ?_
  refine .free (.required (Comparison.holds_codec k)) ?_
  refine .free (.required (Codec.holds_text k)) ?_
  refine .free (.required (Codec.holds_text k)) ?_
  exact .start fun _ _ _ _ h => h

theorem holds_cameraFields : (cameraFields : Fields _ (Kind R)).Holds k
    (fun s => s.1.IsFinite ∧ s.2.IsFinite) Kind.IsFinite := by
  refine .field (.required (Codec.holds_number k)) (fun _ h => h.2.height) ?_
  refine .field (.required (Codec.holds_number k)) (fun _ h => h.2.width) ?_
  refine .field (.required (Codec.holds_number k)) (fun _ h => h.1.y) ?_
  refine .field (.required (Codec.holds_number k)) (fun _ h => h.1.x) ?_
  refine .start ?_
  intro x hx y hy width hwidth height hheight
  exact ⟨⟨hx, hy⟩, ⟨hwidth, hheight⟩⟩

/-- No kind has a field that is called like the tag or like the id beside it. -/
theorem cover_variants :
    Variant.Cover (variants : List (Variant (Kind R))) ["type", "id"] k Kind.IsFinite := by
  refine ⟨(by decide : ["key_pressed", "key_released", "mouse_button_pressed",
    "mouse_button_released", "collision", "variable_comparison", "timer_greater_than",
    "every_x_seconds", "mouse_click_object", "compare_global_variable", "scene_start",
    "object_property", "for_each_object", "mouse_over_object", "distance_between_objects",
    "number_of_objects", "animation_is_playing", "save_exists", "compare_health",
    "camera_is_moving", "camera_in_bounds", "object_is_pressed", "is_sound_playing"].Nodup),
    ?_, ?_⟩
  · intro c
    rcases c with _ | _ | _ | _ | ⟨_, _ | _⟩ | _ | _ | _ | _ | _ | _ | _ | _ | _ | _ | _ | _ | _
    all_goals rfl
  simp only [variants, List.forall_mem_cons]
  refine ⟨?keyDown, ?keyReleased, ?buttonDown, ?buttonReleased, ?collision, ?compareVariable,
    ?timer, ?every, ?clicked, ?global, ?sceneStart, ?compareProperty, ?forEach, ?underPointer,
    ?distance, ?groupSize, ?playing, ?saveExists, ?health, ?cameraMoving, ?cameraInside, ?pressed,
    ?soundPlaying, List.forall_mem_nil _⟩
  case keyDown => exact .ofText (by decide : ["key", "type", "id"].Nodup) fun _ => trivial
  case keyReleased => exact .ofText (by decide : ["key", "type", "id"].Nodup) fun _ => trivial
  case buttonDown =>
    exact .ofOne (by decide : ["button", "type", "id"].Nodup)
      (.defaulting (MouseButton.holds_codec k) trivial) (fun _ _ => trivial) fun _ _ => trivial
  case buttonReleased =>
    exact .ofOne (by decide : ["button", "type", "id"].Nodup)
      (.defaulting (MouseButton.holds_codec k) trivial) (fun _ _ => trivial) fun _ _ => trivial
  case collision =>
    exact .ofTwo (by decide : ["objectId1", "objectId2", "type", "id"].Nodup)
      (.required (Codec.holds_text k)) (fun _ _ _ => trivial) fun _ _ _ => trivial
  case compareVariable =>
    exact .of (by decide : ["objectId", "variable", "operator", "value", "type", "id"].Nodup)
      (fun _ h => h) (holds_variableFields k)
  case timer =>
    exact .ofTwo (by decide : ["name", "seconds", "type", "id"].Nodup)
      (.required (Codec.holds_number k)) (fun _ _ h => h) fun _ _ h => h
  case every =>
    exact .ofOne (by decide : ["seconds", "type", "id"].Nodup)
      (.required (Codec.holds_number k)) (fun _ h => h) fun _ h => h
  case clicked => exact .ofText (by decide : ["objectId", "type", "id"].Nodup) fun _ => trivial
  case global =>
    exact .ofThree (by decide : ["variable", "operator", "value", "type", "id"].Nodup)
      (Comparison.holds_codec k) (.required (Value.holds_codec k)) (fun _ _ _ h => h)
      fun _ _ _ h => h
  case sceneStart => exact .ofNothing (by decide : ["type", "id"].Nodup) trivial
  case compareProperty =>
    exact .of (by decide : ["objectId", "property", "operator", "value", "type", "id"].Nodup)
      (fun _ h => h) (holds_propertyFields k)
  case forEach => exact .ofText (by decide : ["objectId", "type", "id"].Nodup) fun _ => trivial
  case underPointer =>
    exact .ofTwo (by decide : ["objectId", "invert", "type", "id"].Nodup)
      (.defaulting (Codec.holds_bool k) trivial) (fun _ _ _ => trivial) fun _ _ _ => trivial
  case distance =>
    exact .of (by decide : ["objectId1", "objectId2", "operator", "distance", "type", "id"].Nodup)
      (fun _ h => h) (holds_distanceFields k)
  case groupSize =>
    exact .ofThree (by decide : ["objectId", "operator", "count", "type", "id"].Nodup)
      (Comparison.holds_codec k) (.required (Codec.holds_number k)) (fun _ _ _ h => h)
      fun _ _ _ h => h
  case playing =>
    exact .ofThree (by decide : ["objectId", "animationName", "invert", "type", "id"].Nodup)
      (Codec.holds_text k) (.defaulting (Codec.holds_bool k) trivial) (fun _ _ _ _ => trivial)
      fun _ _ _ _ => trivial
  case saveExists =>
    exact .ofTwo (by decide : ["slotName", "invert", "type", "id"].Nodup)
      (.defaulting (Codec.holds_bool k) trivial) (fun _ _ _ => trivial) fun _ _ _ => trivial
  case health =>
    exact .ofThree (by decide : ["objectId", "operator", "value", "type", "id"].Nodup)
      (Comparison.holds_codec k) (.required (Codec.holds_number k)) (fun _ _ _ h => h)
      fun _ _ _ h => h
  case cameraMoving => exact .ofNothing (by decide : ["type", "id"].Nodup) trivial
  case cameraInside =>
    exact .of (by decide : ["x", "y", "width", "height", "type", "id"].Nodup)
      (fun _ h => h) (holds_cameraFields k)
  case pressed => exact .ofText (by decide : ["objectId", "type", "id"].Nodup) fun _ => trivial
  case soundPlaying =>
    exact .ofTwo (by decide : ["sound", "invert", "type", "id"].Nodup)
      (.defaulting (Codec.holds_bool k) trivial) (fun _ _ _ => trivial) fun _ _ _ => trivial

/-- Conditions come back if they are finite. -/
theorem holds_codec : (codec : Codec (Condition R)).Holds (k + 1) IsFinite := by
  refine Codec.holds_flattened (by decide : ["id"].Nodup) (by decide : "type" ∉ ["id"])
    (fun _ => rfl) ?_ (fun _ h => h) (cover_variants k)
  exact .free (.required (Codec.holds_text k)) (.start fun _ _ h => h)

end Condition

end Playfield
