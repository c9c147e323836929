import Mathlib
import Playfield.Proofs.Camera.Finite
import Playfield.Proofs.Event.Conditions

/-!
# Finite Actions

The actions that come back from a document.

Actions are told apart like conditions: one object holds the id, the tag and the fields
of the kind, and no kind may have a field that is called like one of the other two. The
fields of a placement are shared by two kinds, and the law of these fields is proved
once, for whatever they stand behind.

## Main definitions

* `Effect.IsFinite`, `CameraCommand.IsFinite`: What is done to objects and to the camera.
* `Action.Kind.IsFinite`, `Action.IsFinite`: All numbers of an action are finite.

## Theorems

* `Action.holds_placementFields`: The fields of a placement, behind others.
* `Action.cover_variants`: The kinds, one after the other.
* `Action.holds_codec`: Actions come back if they are finite.
-/

namespace Playfield

variable {R : Type} [Scalar R]

/-- The numbers of an effect are finite. -/
def Effect.IsFinite : Effect R → Prop
  | .moveBy offset => offset.IsFinite
  | .changeVariable _ _ v | .setProperty _ v => v.IsFinite
  | .place p => p.offset.IsFinite
  | .setSize size => size.IsFinite
  | .moveTo goal speed => goal.IsFinite ∧ Scalar.isFinite speed = true
  | .setRotation x | .setAnimationSpeed _ x | .moveTowards _ x | .moveAhead x | .damage x
  | .setHealth x | .setBar x => Scalar.isFinite x = true
  | .destroy | .setSprite _ | .setVisible _ | .playAnimation _ | .stopAnimation | .fire _ _
  | .setText _ => True

/-- The numbers of a command to the camera are finite. -/
def CameraCommand.IsFinite : CameraCommand R → Prop
  | .moveTo goal => goal.IsFinite
  | .shake intensity duration =>
    Scalar.isFinite intensity = true ∧ Scalar.isFinite duration = true
  | .zoom x _ | .fit _ x => Scalar.isFinite x = true
  | .glide goal duration => goal.IsFinite ∧ Scalar.isFinite duration = true
  | .confine bounds => bounds.IsFinite
  | .follow _ | .release => True

namespace Action

/-- The numbers of a kind of action are finite. -/
def Kind.IsFinite : Kind R → Prop
  | .object _ e => e.IsFinite
  | .create c => c.placement.offset.IsFinite
  | .camera c => c.IsFinite
  | .sound (.volume x) => Scalar.isFinite x = true
  | .setGlobal _ v | .changeGlobal _ _ v => v.IsFinite
  | _ => True

/-- All numbers of an action are finite. -/
def IsFinite (a : Action R) : Prop := a.kind.IsFinite

end Action

theorem PositionType.holds_codec (k : Nat) : PositionType.codec.Holds k fun _ => True := by
  refine Codec.holds_named k fun t => ?_
  cases t <;> decide

theorem ZoomOp.holds_codec (k : Nat) : ZoomOp.codec.Holds k fun _ => True := by
  refine Codec.holds_named k fun op => ?_
  cases op <;> decide

theorem Settable.holds_codec (k : Nat) : Settable.codec.Holds k fun _ => True := by
  refine Codec.holds_named k fun p => ?_
  cases p <;> decide

theorem Arithmetic.holds_codec (k : Nat) : Arithmetic.codec.Holds k fun _ => True := by
  refine Codec.holds_named k fun op => ?_
  cases op <;> decide

namespace Action

variable [Numeral R] [Numeral.Lawful R] (k : Nat)

/-- The fields of a placement come back behind whatever they stand. -/
theorem holds_placementFields {S A : Type} {get : S → Placement R}
    {r : Fields S (PositionType → R → R → Option String → Option String → A)} {P : S → Prop}
    {Q : A → Prop} (hget : ∀ s, P s → (get s).offset.IsFinite)
    (h : r.Holds k P fun f => ∀ t, ∀ x, Scalar.isFinite x = true → ∀ y, Scalar.isFinite y = true →
      ∀ a p, Q (f t x y a p)) :
    (placementFields get r).Holds k P Q := by
  refine .free .nullableText ?_
  refine .free .nullableText ?_
  refine .field (.required (Codec.holds_number k)) (fun s hs => (hget s hs).y) ?_
  refine .field (.required (Codec.holds_number k)) (fun s hs => (hget s hs).x) ?_
  exact .free (.defaulting (PositionType.holds_codec k) trivial) h

theorem holds_placeFields : (placeFields : Fields _ (Kind R)).Holds k
    (fun s => s.2.offset.IsFinite) Kind.IsFinite := by
  refine holds_placementFields k (fun _ h => h) ?_
  refine .free (.required (Codec.holds_text k)) ?_
  refine .start ?_
  intro _ _ x hx y hy _ _
  exact ⟨hx, hy⟩

theorem holds_creationFields : (creationFields : Fields _ (Kind R)).Holds k
    (fun c => c.placement.offset.IsFinite) Kind.IsFinite := by
  refine holds_placementFields k (fun _ h => h) ?_
  refine .free (.defaulting (Codec.holds_text k) trivial) ?_
  refine .free (.defaulting (Codec.holds_text k) trivial) ?_
  refine .free (.required (Codec.holds_text k)) ?_
  refine .start ?_
  intro _ _ _ _ x hx y hy _ _
  exact ⟨hx, hy⟩

theorem holds_variableFields : (variableFields : Fields _ (Kind R)).Holds k
    (fun s => s.2.2.2.IsFinite) Kind.IsFinite := by
  refine .field (.required (Value.holds_codec k)) (fun _ h => h) ?_
  refine .free (.required (Arithmetic.holds_codec k)) ?_
  refine .free (.required (Codec.holds_text k)) ?_
  refine .free (.required (Codec.holds_text k)) ?_
  exact .start fun _ _ _ _ h => h

theorem holds_moveToFields : (moveToFields : Fields _ (Kind R)).Holds k
    (fun s => s.2.1.IsFinite ∧ Scalar.isFinite s.2.2 = true) Kind.IsFinite := by
  refine .field (.required (Codec.holds_number k)) (fun _ h => h.2) ?_
  refine .field (.required (Codec.holds_number k)) (fun _ h => h.1.y) ?_
  refine .field (.required (Codec.holds_number k)) (fun _ h => h.1.x) ?_
  refine .free (.required (Codec.holds_text k)) ?_
  refine .start ?_
  intro _ x hx y hy speed hspeed
  exact ⟨⟨hx, hy⟩, hspeed⟩

theorem holds_boundsFields : (boundsFields : Fields _ (Kind R)).Holds k Box.IsFinite
    Kind.IsFinite := by
  refine .field (.required (Codec.holds_number k)) (fun _ h => h.high.y) ?_
  refine .field (.required (Codec.holds_number k)) (fun _ h => h.high.x) ?_
  refine .field (.required (Codec.holds_number k)) (fun _ h => h.low.y) ?_
  refine .field (.required (Codec.holds_number k)) (fun _ h => h.low.x) ?_
  refine .start ?_
  intro x hx y hy x' hx' y' hy'
  exact ⟨⟨hx, hy⟩, ⟨hx', hy'⟩⟩

/-- No kind has a field that is called like the tag or like the id beside it. -/
theorem cover_variants :
    Variant.Cover (variants : List (Variant (Kind R))) ["type", "id"] (k + 1) Kind.IsFinite := by
  refine ⟨(by decide : ["move_object", "change_variable", "destroy_object",
    "camera_follow_object", "camera_set_position", "camera_shake", "create_object",
    "change_scene", "play_sound", "set_global_variable", "change_global_variable",
    "set_object_position", "set_object_rotation", "set_object_sprite",
    "toggle_object_visibility", "change_camera_zoom", "set_object_size", "show_popup",
    "play_animation", "stop_animation", "move_object_to", "change_animation_speed",
    "move_object_towards_object", "move_object_at_angle", "start_or_reset_timer",
    "save_game_state", "load_game_state", "clear_game_save", "damage_object", "set_health",
    "fire_bullet", "set_text", "set_bar_value", "camera_zoom_to_fit_objects",
    "camera_lerp_to_position", "camera_set_bounds", "camera_clear_bounds",
    "set_object_property", "stop_sound", "play_music", "stop_music", "set_volume"].Nodup), ?_, ?_⟩
  · intro a
    rcases a with ⟨_, e⟩ | _ | c | s | _ | _ | _ | _ | _ | _ | _ | _
    · cases e <;> rfl
    · rfl
    · cases c <;> rfl
    · cases s <;> rfl
    all_goals rfl
  simp only [variants, List.forall_mem_cons]
  refine ⟨?moveBy, ?changeVariable, ?destroy, ?follow, ?moveCamera, ?shake, ?create, ?changeScene,
    ?play, ?setGlobal, ?changeGlobal, ?place, ?setRotation, ?setSprite, ?setVisible, ?zoom,
    ?setSize, ?showPopup, ?playAnimation, ?stopAnimation, ?moveTo, ?setAnimationSpeed,
    ?moveTowards, ?moveAhead, ?startTimer, ?save, ?load, ?clearSave, ?damage, ?setHealth, ?fire,
    ?setText, ?setBar, ?fit, ?glide, ?confine, ?release, ?setProperty, ?stop, ?music, ?stopMusic,
    ?volume, List.forall_mem_nil _⟩
  case moveBy =>
    refine .of (by decide : ["objectId", "dx", "dy", "type", "id"].Nodup) (fun _ h => h) ?_
    refine .field (.required (Codec.holds_number _)) (fun _ h => h.y) ?_
    refine .field (.required (Codec.holds_number _)) (fun _ h => h.x) ?_
    refine .free (.required (Codec.holds_text _)) ?_
    exact .start fun _ _ hx _ hy => ⟨hx, hy⟩
  case changeVariable =>
    exact .of (by decide : ["objectId", "variable", "operation", "value", "type", "id"].Nodup)
      (fun _ h => h) (holds_variableFields (k + 1))
  case destroy => exact .ofText (by decide : ["objectId", "type", "id"].Nodup) fun _ => trivial
  case follow =>
    exact .ofOne (by decide : ["objectId", "type", "id"].Nodup)
      .nullableText (fun _ _ => trivial) fun _ _ => trivial
  case moveCamera =>
    refine .of (by decide : ["x", "y", "type", "id"].Nodup) (fun _ h => h) ?_
    refine .field (.required (Codec.holds_number _)) (fun _ h => h.y) ?_
    refine .field (.required (Codec.holds_number _)) (fun _ h => h.x) ?_
    exact .start fun _ hx _ hy => ⟨hx, hy⟩
  case shake =>
    refine .of (by decide : ["intensity", "duration", "type", "id"].Nodup) (fun _ h => h) ?_
    refine .field (.required (Codec.holds_number _)) (fun _ h => h.2) ?_
    refine .field (.required (Codec.holds_number _)) (fun _ h => h.1) ?_
    exact .start fun _ hintensity _ hduration => ⟨hintensity, hduration⟩
  case create =>
    exact .of (by decide : ["name", "sprite", "layer", "positionType", "x", "y",
        "relativeToObjectId", "relativeToPoint", "type", "id"].Nodup)
      (fun _ h => h) (holds_creationFields (k + 1))
  case changeScene => exact .ofText (by decide : ["sceneId", "type", "id"].Nodup) fun _ => trivial
  case play => exact .ofText (by decide : ["sound", "type", "id"].Nodup) fun _ => trivial
  case setGlobal =>
    exact .ofTwo (by decide : ["variable", "value", "type", "id"].Nodup)
      (.required (Value.holds_codec _)) (fun _ _ h => h) fun _ _ h => h
  case changeGlobal =>
    exact .ofThree (by decide : ["variable", "operation", "value", "type", "id"].Nodup)
      (Arithmetic.holds_codec _) (.required (Value.holds_codec _)) (fun _ _ _ h => h)
      fun _ _ _ h => h
  case place =>
    exact .of (by decide : ["objectId", "positionType", "x", "y", "relativeToObjectId",
        "relativeToPoint", "type", "id"].Nodup)
      (fun _ h => h) (holds_placeFields (k + 1))
  case setRotation =>
    exact .ofTwo (by decide : ["objectId", "rotation", "type", "id"].Nodup)
      (.required (Codec.holds_number _)) (fun _ _ h => h) fun _ _ h => h
  case setSprite =>
    exact .ofTwo (by decide : ["objectId", "sprite", "type", "id"].Nodup)
      (.required (Codec.holds_text _)) (fun _ _ _ => trivial) fun _ _ _ => trivial
  case setVisible =>
    exact .ofTwo (by decide : ["objectId", "visible", "type", "id"].Nodup)
      (.required (Codec.holds_bool _)) (fun _ _ _ => trivial) fun _ _ _ => trivial
  case zoom =>
    refine .of (by decide : ["zoom", "operation", "type", "id"].Nodup) (fun _ h => h) ?_
    refine .free (.defaulting (ZoomOp.holds_codec _) trivial) ?_
    refine .field (.required (Codec.holds_number _)) (fun _ h => h) ?_
    exact .start fun _ h _ => h
  case setSize =>
    refine .of (by decide : ["objectId", "width", "height", "type", "id"].Nodup) (fun _ h => h) ?_
    refine .field (.required (Codec.holds_number _)) (fun _ h => h.height) ?_
    refine .field (.required (Codec.holds_number _)) (fun _ h => h.width) ?_
    refine .free (.required (Codec.holds_text _)) ?_
    exact .start fun _ _ hwidth _ hheight => ⟨hwidth, hheight⟩
  case showPopup =>
    refine .of (by decide : ["title", "content", "buttonText", "type", "id"].Nodup)
      (fun _ h => h) ?_
    refine .free (.defaulting (Codec.holds_text _) trivial) ?_
    refine .free (.defaulting (Codec.holds_text _) trivial) ?_
    refine .free (.defaulting (Codec.holds_text _) trivial) ?_
    exact .start fun _ _ _ => trivial
  case playAnimation =>
    exact .ofTwo (by decide : ["objectId", "animationName", "type", "id"].Nodup)
      (.required (Codec.holds_text _)) (fun _ _ _ => trivial) fun _ _ _ => trivial
  case stopAnimation =>
    exact .ofText (by decide : ["objectId", "type", "id"].Nodup) fun _ => trivial
  case moveTo =>
    exact .of (by decide : ["objectId", "x", "y", "speed", "type", "id"].Nodup)
      (fun _ h => h) (holds_moveToFields (k + 1))
  case setAnimationSpeed =>
    exact .ofThree (by decide : ["objectId", "animationName", "speed", "type", "id"].Nodup)
      (Codec.holds_text _) (.required (Codec.holds_number _)) (fun _ _ _ h => h) fun _ _ _ h => h
  case moveTowards =>
    exact .ofThree (by decide : ["objectId", "targetObjectId", "speed", "type", "id"].Nodup)
      (Codec.holds_text _) (.required (Codec.holds_number _)) (fun _ _ _ h => h) fun _ _ _ h => h
  case moveAhead =>
    exact .ofTwo (by decide : ["objectId", "speed", "type", "id"].Nodup)
      (.required (Codec.holds_number _)) (fun _ _ h => h) fun _ _ h => h
  case startTimer => exact .ofText (by decide : ["name", "type", "id"].Nodup) fun _ => trivial
  case save => exact .ofText (by decide : ["slotName", "type", "id"].Nodup) fun _ => trivial
  case load => exact .ofText (by decide : ["slotName", "type", "id"].Nodup) fun _ => trivial
  case clearSave => exact .ofText (by decide : ["slotName", "type", "id"].Nodup) fun _ => trivial
  case damage =>
    exact .ofTwo (by decide : ["objectId", "amount", "type", "id"].Nodup)
      (.required (Codec.holds_number _)) (fun _ _ h => h) fun _ _ h => h
  case setHealth =>
    exact .ofTwo (by decide : ["objectId", "amount", "type", "id"].Nodup)
      (.required (Codec.holds_number _)) (fun _ _ h => h) fun _ _ h => h
  case fire =>
    exact .ofThree (by decide : ["objectId", "bulletObjectName", "spawnPoint", "type", "id"].Nodup)
      (Codec.holds_text _) (.defaulting (Codec.holds_text _) trivial) (fun _ _ _ _ => trivial)
      fun _ _ _ _ => trivial
  case setText =>
    exact .ofTwo (by decide : ["objectId", "text", "type", "id"].Nodup)
      (.required (Codec.holds_text _)) (fun _ _ _ => trivial) fun _ _ _ => trivial
  case setBar =>
    exact .ofTwo (by decide : ["objectId", "value", "type", "id"].Nodup)
      (.required (Codec.holds_number _)) (fun _ _ h => h) fun _ _ h => h
  case fit =>
    refine .of (by decide : ["objectIds", "padding", "type", "id"].Nodup) (fun _ h => h) ?_
    refine .field (.defaulting (Codec.holds_number _) Numeral.isFinite_zero) (fun _ h => h) ?_
    refine .field (.required (Codec.holds_list (Codec.holds_text k))) (fun _ _ _ _ => trivial) ?_
    exact .start fun _ _ _ h => h
  case glide =>
    refine .of (by decide : ["x", "y", "duration", "type", "id"].Nodup) (fun _ h => h) ?_
    refine .field (.required (Codec.holds_number _)) (fun _ h => h.2) ?_
    refine .field (.required (Codec.holds_number _)) (fun _ h => h.1.y) ?_
    refine .field (.required (Codec.holds_number _)) (fun _ h => h.1.x) ?_
    exact .start fun _ hx _ hy _ hduration => ⟨⟨hx, hy⟩, hduration⟩
  case confine =>
    exact .of (by decide : ["minX", "minY", "maxX", "maxY", "type", "id"].Nodup)
      (fun _ h => h) (holds_boundsFields (k + 1))
  case release => exact .ofNothing (by decide : ["type", "id"].Nodup) trivial
  case setProperty =>
    exact .ofThree (by decide : ["objectId", "property", "value", "type", "id"].Nodup)
      (Settable.holds_codec _) (.required (Value.holds_codec _)) (fun _ _ _ h => h) fun _ _ _ h => h
  case stop => exact .ofText (by decide : ["sound", "type", "id"].Nodup) fun _ => trivial
  case music => exact .ofText (by decide : ["sound", "type", "id"].Nodup) fun _ => trivial
  case stopMusic => exact .ofNothing (by decide : ["type", "id"].Nodup) trivial
  case volume =>
    exact .ofOne (by decide : ["volume", "type", "id"].Nodup)
      (.required (Codec.holds_number _)) (fun _ h => h) fun _ h => h

/-- Actions come back if they are finite. -/
theorem holds_codec : (codec : Codec (Action R)).Holds (k + 2) IsFinite := by
  refine Codec.holds_flattened (by decide : ["id"].Nodup) (by decide : "type" ∉ ["id"])
    (fun _ => rfl) ?_ (fun _ h => h) (cover_variants k)
  exact .free (.required (Codec.holds_text (k + 1))) (.start fun _ _ h => h)

end Action

end Playfield
