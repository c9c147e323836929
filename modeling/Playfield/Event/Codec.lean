import Playfield.Event.Action
import Playfield.Event.Condition

/-!
# Conditions and Actions in Documents

The tags of conditions and actions and the fields behind them.

A condition or an action is an id together with one of many kinds, whose tag and
fields stand beside the id. The lists below are in the order in which a document
may count the kinds instead of naming them.

## Main definitions

* `Condition.variants`, `Action.variants`: The kinds.
* `Condition.codec`, `Action.codec`: Conditions and actions in documents.
-/

namespace Playfield

/-- Buttons in documents. -/
def MouseButton.codec : Codec MouseButton :=
  .named [("left", .left), ("middle", .middle), ("right", .right)] fun
    | .left => "left"
    | .middle => "middle"
    | .right => "right"

/-- Readable fields in documents. -/
def Property.codec : Codec Property :=
  .named [("position.x", .positionX), ("position.y", .positionY), ("rotation", .rotation),
      ("size.width", .width), ("size.height", .height), ("scale", .scale),
      ("visible", .visible)] fun
    | .positionX => "position.x"
    | .positionY => "position.y"
    | .rotation => "rotation"
    | .width => "size.width"
    | .height => "size.height"
    | .scale => "scale"
    | .visible => "visible"

/-- Settable fields in documents. -/
def Settable.codec : Codec Settable :=
  .named [("scale", .scale), ("rotation", .rotation), ("color", .color),
      ("fontSize", .fontSize)] fun
    | .scale => "scale"
    | .rotation => "rotation"
    | .color => "color"
    | .fontSize => "fontSize"

/-- Meanings of a place in documents. -/
def PositionType.codec : Codec PositionType :=
  .named [("absolute", .absolute), ("relative", .relative)] fun
    | .absolute => "absolute"
    | .relative => "relative"

/-- Meanings of a zoom in documents. -/
def ZoomOp.codec : Codec ZoomOp :=
  .named [("=", .set), ("+", .add)] fun
    | .set => "="
    | .add => "+"

variable {R : Type} [Scalar R] [Numeral R]

namespace Condition

/-- The fields of a condition on a variable. -/
def variableFields : Fields (String × String × Comparison × Value R) (Kind R) :=
  Fields.start (fun o n op v => .object o (.variable n op v))
    |>.required "objectId" .text (·.1)
    |>.required "variable" .text (·.2.1)
    |>.required "operator" Comparison.codec (·.2.2.1)
    |>.required "value" Value.codec (·.2.2.2)

/-- The fields of a condition on a field of an object. -/
def propertyFields : Fields (String × Property × Comparison × Value R) (Kind R) :=
  Fields.start (fun o p op v => .object o (.property p op v))
    |>.required "objectId" .text (·.1)
    |>.required "property" Property.codec (·.2.1)
    |>.required "operator" Comparison.codec (·.2.2.1)
    |>.required "value" Value.codec (·.2.2.2)

/-- The fields of a condition on the distance of two objects. -/
def distanceFields : Fields (String × String × Comparison × R) (Kind R) :=
  Fields.start Kind.distance
    |>.required "objectId1" .text (·.1)
    |>.required "objectId2" .text (·.2.1)
    |>.required "operator" Comparison.codec (·.2.2.1)
    |>.required "distance" .number (·.2.2.2)

/-- The fields of a condition on the place of the camera. -/
def cameraFields : Fields (Point R × Size R) (Kind R) :=
  Fields.start (fun x y w h => .cameraInside ⟨x, y⟩ ⟨w, h⟩)
    |>.required "x" .number (·.1.x)
    |>.required "y" .number (·.1.y)
    |>.required "width" .number (·.2.width)
    |>.required "height" .number (·.2.height)

/-- The kinds of conditions. -/
def variants : List (Variant (Kind R)) :=
  [.of "key_pressed" (fun | .keyDown k => some k | _ => none)
      (Fields.start Kind.keyDown |>.required "key" .text (fun s => s)),
    .of "key_released" (fun | .keyReleased k => some k | _ => none)
      (Fields.start Kind.keyReleased |>.required "key" .text (fun s => s)),
    .of "mouse_button_pressed" (fun | .buttonDown b => some b | _ => none)
      (Fields.start Kind.buttonDown |>.defaulting "button" MouseButton.codec .left (fun s => s)),
    .of "mouse_button_released" (fun | .buttonReleased b => some b | _ => none)
      (Fields.start Kind.buttonReleased
        |>.defaulting "button" MouseButton.codec .left (fun s => s)),
    .of "collision" (fun | .collision a b => some (a, b) | _ => none)
      (Fields.start Kind.collision
        |>.required "objectId1" .text (·.1)
        |>.required "objectId2" .text (·.2)),
    .of "variable_comparison"
      (fun | .object o (.variable n op v) => some (o, n, op, v) | _ => none) variableFields,
    .of "timer_greater_than" (fun | .timer n s => some (n, s) | _ => none)
      (Fields.start Kind.timer
        |>.required "name" .text (·.1)
        |>.required "seconds" .number (·.2)),
    .of "every_x_seconds" (fun | .every s => some s | _ => none)
      (Fields.start Kind.every |>.required "seconds" .number (fun s => s)),
    .of "mouse_click_object" (fun | .clicked o => some o | _ => none)
      (Fields.start Kind.clicked |>.required "objectId" .text (fun s => s)),
    .of "compare_global_variable" (fun | .global n op v => some (n, op, v) | _ => none)
      (Fields.start Kind.global
        |>.required "variable" .text (·.1)
        |>.required "operator" Comparison.codec (·.2.1)
        |>.required "value" Value.codec (·.2.2)),
    .of "scene_start" (fun | .sceneStart => some () | _ => none) (Fields.start Kind.sceneStart),
    .of "object_property"
      (fun | .object o (.property p op v) => some (o, p, op, v) | _ => none) propertyFields,
    .of "for_each_object" (fun | .forEach o => some o | _ => none)
      (Fields.start Kind.forEach |>.required "objectId" .text (fun s => s)),
    .of "mouse_over_object" (fun | .object o (.underPointer i) => some (o, i) | _ => none)
      (Fields.start (fun o i => Kind.object o (.underPointer i))
        |>.required "objectId" .text (·.1)
        |>.defaulting "invert" .bool false (·.2)),
    .of "distance_between_objects"
      (fun | .distance a b op d => some (a, b, op, d) | _ => none) distanceFields,
    .of "number_of_objects" (fun | .groupSize o op n => some (o, op, n) | _ => none)
      (Fields.start Kind.groupSize
        |>.required "objectId" .text (·.1)
        |>.required "operator" Comparison.codec (·.2.1)
        |>.required "count" .number (·.2.2)),
    .of "animation_is_playing" (fun | .object o (.playing a i) => some (o, a, i) | _ => none)
      (Fields.start (fun o a i => Kind.object o (.playing a i))
        |>.required "objectId" .text (·.1)
        |>.required "animationName" .text (·.2.1)
        |>.defaulting "invert" .bool false (·.2.2)),
    .of "save_exists" (fun | .saveExists s i => some (s, i) | _ => none)
      (Fields.start Kind.saveExists
        |>.required "slotName" .text (·.1)
        |>.defaulting "invert" .bool false (·.2)),
    .of "compare_health" (fun | .object o (.health op v) => some (o, op, v) | _ => none)
      (Fields.start (fun o op v => Kind.object o (.health op v))
        |>.required "objectId" .text (·.1)
        |>.required "operator" Comparison.codec (·.2.1)
        |>.required "value" .number (·.2.2)),
    .of "camera_is_moving" (fun | .cameraMoving => some () | _ => none)
      (Fields.start Kind.cameraMoving),
    .of "camera_in_bounds" (fun | .cameraInside p s => some (p, s) | _ => none) cameraFields,
    .of "object_is_pressed" (fun | .object o .pressed => some o | _ => none)
      (Fields.start (fun o => Kind.object o .pressed) |>.required "objectId" .text (fun s => s)),
    .of "is_sound_playing" (fun | .soundPlaying s i => some (s, i) | _ => none)
      (Fields.start Kind.soundPlaying
        |>.required "sound" .text (·.1)
        |>.defaulting "invert" .bool false (·.2))]

/-- Conditions in documents. -/
def codec : Codec (Condition R) :=
  .flattened (Fields.start Condition.mk |>.required "id" .text (·.id)) variants (·.kind)

end Condition

namespace Action

/-- The fields of a placement, behind others. -/
def placementFields {S A : Type} (get : S → Placement R)
    (r : Fields S (PositionType → R → R → Option String → Option String → A)) : Fields S A :=
  r.defaulting "positionType" PositionType.codec .absolute (fun s => (get s).type)
    |>.required "x" .number (fun s => (get s).offset.x)
    |>.required "y" .number (fun s => (get s).offset.y)
    |>.nullable "relativeToObjectId" .text (fun s => (get s).anchor)
    |>.nullable "relativeToPoint" .text (fun s => (get s).point)

/-- The fields of an action that puts an object somewhere. -/
def placeFields : Fields (String × Placement R) (Kind R) :=
  placementFields (·.2)
    (Fields.start (fun o t x y a p => Kind.object o (.place ⟨t, ⟨x, y⟩, a, p⟩))
      |>.required "objectId" .text (·.1))

/-- The fields of an action that creates an object. -/
def creationFields : Fields (Creation R) (Kind R) :=
  placementFields (·.placement)
    (Fields.start (fun n s l t x y a p => Kind.create ⟨n, s, l, ⟨t, ⟨x, y⟩, a, p⟩⟩)
      |>.required "name" .text (·.name)
      |>.defaulting "sprite" .text "" (·.sprite)
      |>.defaulting "layer" .text "" (·.layer))

/-- The fields of an action that does arithmetic on a variable of an object. -/
def variableFields : Fields (String × String × Arithmetic × Value R) (Kind R) :=
  Fields.start (fun o n op v => .object o (.changeVariable n op v))
    |>.required "objectId" .text (·.1)
    |>.required "variable" .text (·.2.1)
    |>.required "operation" Arithmetic.codec (·.2.2.1)
    |>.required "value" Value.codec (·.2.2.2)

/-- The fields of an action that moves an object towards a place. -/
def moveToFields : Fields (String × Point R × R) (Kind R) :=
  Fields.start (fun o x y v => .object o (.moveTo ⟨x, y⟩ v))
    |>.required "objectId" .text (·.1)
    |>.required "x" .number (·.2.1.x)
    |>.required "y" .number (·.2.1.y)
    |>.required "speed" .number (·.2.2)

/-- The fields of an action that confines the camera. -/
def boundsFields : Fields (Box R) (Kind R) :=
  Fields.start (fun a b c d => .camera (.confine ⟨⟨a, b⟩, ⟨c, d⟩⟩))
    |>.required "minX" .number (·.low.x)
    |>.required "minY" .number (·.low.y)
    |>.required "maxX" .number (·.high.x)
    |>.required "maxY" .number (·.high.y)

/-- The kinds of actions. -/
def variants : List (Variant (Kind R)) :=
  [.of "move_object" (fun | .object o (.moveBy d) => some (o, d) | _ => none)
      (Fields.start (fun o x y => Kind.object o (.moveBy ⟨x, y⟩))
        |>.required "objectId" .text (·.1)
        |>.required "dx" .number (·.2.x)
        |>.required "dy" .number (·.2.y)),
    .of "change_variable"
      (fun | .object o (.changeVariable n op v) => some (o, n, op, v) | _ => none) variableFields,
    .of "destroy_object" (fun | .object o .destroy => some o | _ => none)
      (Fields.start (fun o => Kind.object o .destroy) |>.required "objectId" .text (fun s => s)),
    .of "camera_follow_object" (fun | .camera (.follow o) => some o | _ => none)
      (Fields.start (fun o => Kind.camera (.follow o)) |>.nullable "objectId" .text (fun s => s)),
    .of "camera_set_position" (fun | .camera (.moveTo p) => some p | _ => none)
      (Fields.start (fun x y => Kind.camera (.moveTo ⟨x, y⟩))
        |>.required "x" .number (·.x)
        |>.required "y" .number (·.y)),
    .of "camera_shake" (fun | .camera (.shake i d) => some (i, d) | _ => none)
      (Fields.start (fun i d => Kind.camera (.shake i d))
        |>.required "intensity" .number (·.1)
        |>.required "duration" .number (·.2)),
    .of "create_object" (fun | .create c => some c | _ => none) creationFields,
    .of "change_scene" (fun | .changeScene s => some s | _ => none)
      (Fields.start Kind.changeScene |>.required "sceneId" .text (fun s => s)),
    .of "play_sound" (fun | .sound (.play s) => some s | _ => none)
      (Fields.start (fun s => Kind.sound (.play s)) |>.required "sound" .text (fun s => s)),
    .of "set_global_variable" (fun | .setGlobal n v => some (n, v) | _ => none)
      (Fields.start Kind.setGlobal
        |>.required "variable" .text (·.1)
        |>.required "value" Value.codec (·.2)),
    .of "change_global_variable" (fun | .changeGlobal n op v => some (n, op, v) | _ => none)
      (Fields.start Kind.changeGlobal
        |>.required "variable" .text (·.1)
        |>.required "operation" Arithmetic.codec (·.2.1)
        |>.required "value" Value.codec (·.2.2)),
    .of "set_object_position" (fun | .object o (.place p) => some (o, p) | _ => none)
      placeFields,
    .of "set_object_rotation" (fun | .object o (.setRotation r) => some (o, r) | _ => none)
      (Fields.start (fun o r => Kind.object o (.setRotation r))
        |>.required "objectId" .text (·.1)
        |>.required "rotation" .number (·.2)),
    .of "set_object_sprite" (fun | .object o (.setSprite s) => some (o, s) | _ => none)
      (Fields.start (fun o s => Kind.object o (.setSprite s))
        |>.required "objectId" .text (·.1)
        |>.required "sprite" .text (·.2)),
    .of "toggle_object_visibility" (fun | .object o (.setVisible b) => some (o, b) | _ => none)
      (Fields.start (fun o b => Kind.object o (.setVisible b))
        |>.required "objectId" .text (·.1)
        |>.required "visible" .bool (·.2)),
    .of "change_camera_zoom" (fun | .camera (.zoom a op) => some (a, op) | _ => none)
      (Fields.start (fun a op => Kind.camera (.zoom a op))
        |>.required "zoom" .number (·.1)
        |>.defaulting "operation" ZoomOp.codec .set (·.2)),
    .of "set_object_size" (fun | .object o (.setSize s) => some (o, s) | _ => none)
      (Fields.start (fun o w h => Kind.object o (.setSize ⟨w, h⟩))
        |>.required "objectId" .text (·.1)
        |>.required "width" .number (·.2.width)
        |>.required "height" .number (·.2.height)),
    .of "show_popup" (fun | .showPopup p => some p | _ => none)
      (Fields.start (fun t c b => Kind.showPopup ⟨t, c, b⟩)
        |>.defaulting "title" .text "" (·.title)
        |>.defaulting "content" .text "" (·.content)
        |>.defaulting "buttonText" .text "" (·.buttonText)),
    .of "play_animation" (fun | .object o (.playAnimation a) => some (o, a) | _ => none)
      (Fields.start (fun o a => Kind.object o (.playAnimation a))
        |>.required "objectId" .text (·.1)
        |>.required "animationName" .text (·.2)),
    .of "stop_animation" (fun | .object o .stopAnimation => some o | _ => none)
      (Fields.start (fun o => Kind.object o .stopAnimation)
        |>.required "objectId" .text (fun s => s)),
    .of "move_object_to" (fun | .object o (.moveTo p v) => some (o, p, v) | _ => none)
      moveToFields,
    .of "change_animation_speed"
      (fun | .object o (.setAnimationSpeed a v) => some (o, a, v) | _ => none)
      (Fields.start (fun o a v => Kind.object o (.setAnimationSpeed a v))
        |>.required "objectId" .text (·.1)
        |>.required "animationName" .text (·.2.1)
        |>.required "speed" .number (·.2.2)),
    .of "move_object_towards_object"
      (fun | .object o (.moveTowards g v) => some (o, g, v) | _ => none)
      (Fields.start (fun o g v => Kind.object o (.moveTowards g v))
        |>.required "objectId" .text (·.1)
        |>.required "targetObjectId" .text (·.2.1)
        |>.required "speed" .number (·.2.2)),
    .of "move_object_at_angle" (fun | .object o (.moveAhead v) => some (o, v) | _ => none)
      (Fields.start (fun o v => Kind.object o (.moveAhead v))
        |>.required "objectId" .text (·.1)
        |>.required "speed" .number (·.2)),
    .of "start_or_reset_timer" (fun | .startTimer n => some n | _ => none)
      (Fields.start Kind.startTimer |>.required "name" .text (fun s => s)),
    .of "save_game_state" (fun | .save s => some s | _ => none)
      (Fields.start Kind.save |>.required "slotName" .text (fun s => s)),
    .of "load_game_state" (fun | .load s => some s | _ => none)
      (Fields.start Kind.load |>.required "slotName" .text (fun s => s)),
    .of "clear_game_save" (fun | .clearSave s => some s | _ => none)
      (Fields.start Kind.clearSave |>.required "slotName" .text (fun s => s)),
    .of "damage_object" (fun | .object o (.damage a) => some (o, a) | _ => none)
      (Fields.start (fun o a => Kind.object o (.damage a))
        |>.required "objectId" .text (·.1)
        |>.required "amount" .number (·.2)),
    .of "set_health" (fun | .object o (.setHealth a) => some (o, a) | _ => none)
      (Fields.start (fun o a => Kind.object o (.setHealth a))
        |>.required "objectId" .text (·.1)
        |>.required "amount" .number (·.2)),
    .of "fire_bullet" (fun | .object o (.fire b p) => some (o, b, p) | _ => none)
      (Fields.start (fun o b p => Kind.object o (.fire b p))
        |>.required "objectId" .text (·.1)
        |>.required "bulletObjectName" .text (·.2.1)
        |>.defaulting "spawnPoint" .text "" (·.2.2)),
    .of "set_text" (fun | .object o (.setText t) => some (o, t) | _ => none)
      (Fields.start (fun o t => Kind.object o (.setText t))
        |>.required "objectId" .text (·.1)
        |>.required "text" .text (·.2)),
    .of "set_bar_value" (fun | .object o (.setBar v) => some (o, v) | _ => none)
      (Fields.start (fun o v => Kind.object o (.setBar v))
        |>.required "objectId" .text (·.1)
        |>.required "value" .number (·.2)),
    .of "camera_zoom_to_fit_objects" (fun | .camera (.fit ids p) => some (ids, p) | _ => none)
      (Fields.start (fun ids p => Kind.camera (.fit ids p))
        |>.required "objectIds" (.list .text) (·.1)
        |>.defaulting "padding" .number 0 (·.2)),
    .of "camera_lerp_to_position" (fun | .camera (.glide p d) => some (p, d) | _ => none)
      (Fields.start (fun x y d => Kind.camera (.glide ⟨x, y⟩ d))
        |>.required "x" .number (·.1.x)
        |>.required "y" .number (·.1.y)
        |>.required "duration" .number (·.2)),
    .of "camera_set_bounds" (fun | .camera (.confine b) => some b | _ => none) boundsFields,
    .of "camera_clear_bounds" (fun | .camera .release => some () | _ => none)
      (Fields.start (Kind.camera .release)),
    .of "set_object_property"
      (fun | .object o (.setProperty p v) => some (o, p, v) | _ => none)
      (Fields.start (fun o p v => Kind.object o (.setProperty p v))
        |>.required "objectId" .text (·.1)
        |>.required "property" Settable.codec (·.2.1)
        |>.required "value" Value.codec (·.2.2)),
    .of "stop_sound" (fun | .sound (.stop s) => some s | _ => none)
      (Fields.start (fun s => Kind.sound (.stop s)) |>.required "sound" .text (fun s => s)),
    .of "play_music" (fun | .sound (.music s) => some s | _ => none)
      (Fields.start (fun s => Kind.sound (.music s)) |>.required "sound" .text (fun s => s)),
    .of "stop_music" (fun | .sound .stopMusic => some () | _ => none)
      (Fields.start (Kind.sound .stopMusic)),
    .of "set_volume" (fun | .sound (.volume v) => some v | _ => none)
      (Fields.start (fun v => Kind.sound (.volume v)) |>.required "volume" .number (fun s => s))]

/-- Actions in documents. -/
def codec : Codec (Action R) :=
  .flattened (Fields.start Action.mk |>.required "id" .text (·.id)) variants (·.kind)

end Action

end Playfield
