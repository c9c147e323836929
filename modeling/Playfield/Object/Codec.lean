import Playfield.Object.Basic

/-!
# Objects in Documents

The fields of an object, their names and what they are if they are missing.

The data of the kind of object stands among the other fields, with the kind
itself under `type`.

## Main definitions

* `Point.codec`, `Size.codec`: Places and extents.
* `Animation.fields`, `Sprite.fields`, `Label.fields`, `Bar.fields`: The kinds.
* `Object.codec`: Objects in documents.
-/

namespace Playfield

variable {R : Type} [Scalar R] [Numeral R]

/-- Places in documents. -/
def Point.codec : Codec (Point R) :=
  .record (Fields.start Point.mk
    |>.required "x" .number (·.x)
    |>.required "y" .number (·.y))

/-- Extents in documents. -/
def Size.codec : Codec (Size R) :=
  .record (Fields.start Size.mk
    |>.required "width" .number (·.width)
    |>.required "height" .number (·.height))

/-- Variables in documents. -/
def Variables.codec : Codec (Variables R) := .dictionary Value.codec

/-- The fields of an animation. -/
def Animation.fields : Fields (Animation R) (Animation R) :=
  Fields.start Animation.mk
    |>.defaulting "id" .text "" (·.id)
    |>.required "name" .text (·.name)
    |>.defaulting "frames" (.list .text) [] (·.frames)
    |>.defaulting "speed" .number 0 (·.speed)
    |>.defaulting "loop" .bool false (·.loops)

/-- The fields of a sprite. -/
def Sprite.fields : Fields (Sprite R) (Sprite R) :=
  Fields.start Sprite.mk
    |>.optional "sprite" .text (·.still)
    |>.defaulting "animations" (.list (.record Animation.fields)) [] (·.animations)
    |>.optional "currentAnimation" .text (·.current)

namespace Align

/-- The name of an anchor. -/
def name : Align → String
  | .left => "left"
  | .center => "center"
  | .right => "right"

/-- Horizontal anchors in documents. -/
def codec : Codec Align :=
  .named [("left", .left), ("center", .center), ("right", .right)] name

end Align

namespace Baseline

/-- The name of an anchor. -/
def name : Baseline → String
  | .top => "top"
  | .middle => "middle"
  | .bottom => "bottom"

/-- Vertical anchors in documents. -/
def codec : Codec Baseline :=
  .named [("top", .top), ("middle", .middle), ("bottom", .bottom)] name

end Baseline

/-- The fields of a text. -/
def Label.fields : Fields (Label R) (Label R) :=
  Fields.start Label.mk
    |>.defaulting "text" .text "" (·.text)
    |>.defaulting "font" .text "Arial" (·.font)
    |>.defaulting "fontSize" .number 16 (·.fontSize)
    |>.defaulting "color" .text "#FFFFFF" (·.color)
    |>.defaulting "align" Align.codec .left (·.align)
    |>.defaulting "baseline" Baseline.codec .top (·.baseline)

/-- Sources of bars in documents. -/
def BarSource.codec : Codec BarSource :=
  .named [("manual", .manual), ("global_variable", .globalVariable),
      ("object_variable", .objectVariable)] fun
    | .manual => "manual"
    | .globalVariable => "global_variable"
    | .objectVariable => "object_variable"

/-- The variable of a bar in documents. -/
def BarReading.codec : Codec BarReading :=
  .record (Fields.start BarReading.mk
    |>.defaulting "source" BarSource.codec .manual (·.source)
    |>.defaulting "variableName" .text "" (·.variableName)
    |>.optional "objectId" .text (·.owner))

/-- The fields of a bar. -/
def Bar.fields : Fields (Bar R) (Bar R) :=
  Fields.start Bar.mk
    |>.defaulting "maxValue" .number 100 (·.most)
    |>.defaulting "currentValue" .number 0 (·.current)
    |>.optional "valueFromVariable" BarReading.codec (·.reading)
    |>.defaulting "foregroundColor" .text "" (·.foregroundColor)
    |>.defaulting "backgroundColor" .text "" (·.backgroundColor)
    |>.defaulting "borderColor" .text "" (·.borderColor)
    |>.defaulting "borderWidth" .number 0 (·.borderWidth)
    |>.defaulting "showLabel" .bool false (·.showsLabel)
    |>.defaulting "labelFont" .text "Arial" (·.labelFont)
    |>.defaulting "labelColor" .text "#FFFFFF" (·.labelColor)
    |>.defaulting "labelSize" .number 16 (·.labelSize)

/-- The kinds of objects. -/
def Appearance.variants : List (Variant (Appearance R)) :=
  [.of "sprite" (fun | .sprite s => some s | _ => none) (Sprite.fields.map .sprite),
    .of "tiled_sprite" (fun | .tiledSprite s => some s | _ => none)
      (Sprite.fields.map .tiledSprite),
    .of "text" (fun | .text t => some t | _ => none) (Label.fields.map .text),
    .of "bar" (fun | .bar b => some b | _ => none) (Bar.fields.map .bar)]

/-- The fields of an object, without those of its kind. -/
def Object.fields : Fields (Object R) (Appearance R → Object R) :=
  Fields.start Object.mk
    |>.required "id" .text (·.id)
    |>.required "name" .text (·.name)
    |>.defaulting "position" Point.codec .zero (·.position)
    |>.defaulting "size" Size.codec ⟨0, 0⟩ (·.size)
    |>.defaulting "scale" .number 1 (·.scale)
    |>.defaulting "rotation" .number 0 (·.rotation)
    |>.defaulting "variables" Variables.codec .empty (·.vars)
    |>.defaulting "layer" .text "" (·.layer)
    |>.defaulting "visible" .bool true (·.visible)
    |>.defaulting "points" (.dictionary Point.codec) .empty (·.points)
    |>.unlessEmpty "collisionMask" (.list Point.codec) (·.collisionMask)
    |>.defaulting "behaviors" (.list Behavior.codec) [] (·.behaviors)

/-- Objects in documents. -/
def Object.codec : Codec (Object R) :=
  .flattened Object.fields Appearance.variants (·.appearance)

end Playfield
