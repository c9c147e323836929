import Playfield.Frame.Basic

/-!
# Frames as Documents

The tree of a frame, for renderers that run elsewhere.

Places are written as pairs.

## Main definitions

* `Frame.toJson`: The tree of a frame.
* `Asset.toJson`: The tree of an asset.
-/

namespace Playfield

/-- The tree of an asset. -/
def Asset.toJson (a : Asset) : Json :=
  .object [("id", .int a.id.toNat), ("kind", .text a.kind.name), ("mime", .text a.mime),
    ("byteLen", .int a.size)]

variable {R : Type} [Scalar R] [Numeral R]

/-- The tree of a place. -/
def Point.toJson (p : Point R) : Json := .list [Codec.ofNumber p.x, Codec.ofNumber p.y]

/-- The tree of an optional text. -/
def optionalText (t : Option String) : Json := (t.map Json.text).getD .null

namespace Paint

/-- The tree of what a drawable looks like. -/
def toJson : Paint R → Json
  | .sprite a => .object [("type", .text "sprite"), ("asset", a.toJson)]
  | .tiledSprite a => .object [("type", .text "tiled_sprite"), ("asset", a.toJson)]
  | .placeholder pending =>
    .object [("type", .text "placeholder"), ("pending", .bool pending)]
  | .text t =>
    .object [("type", .text "text"), ("text", .text t.text), ("font", .text t.font),
      ("fontSize", Codec.ofNumber t.fontSize), ("color", .text t.color),
      ("align", .text t.align.name), ("baseline", .text t.baseline.name)]
  | .bar fill label b =>
    .object [("type", .text "bar"), ("fillRatio", Codec.ofNumber fill),
      ("foregroundColor", .text b.foregroundColor), ("backgroundColor", .text b.backgroundColor),
      ("borderColor", .text b.borderColor), ("borderWidth", Codec.ofNumber b.borderWidth),
      ("label", optionalText label), ("labelFont", .text b.labelFont),
      ("labelColor", .text b.labelColor), ("labelSize", Codec.ofNumber b.labelSize)]

end Paint

/-- The tree of a drawable. -/
def Drawable.toJson (d : Drawable R) : Json :=
  .object [("instanceId", .text d.id), ("layer", .int d.layer), ("position", d.position.toJson),
    ("size", Size.codec.write d.size), ("rotation", Codec.ofNumber d.rotation),
    ("parallax", d.parallax.toJson), ("paint", d.paint.toJson)]

/-- The tree of a lens. -/
def Lens.toJson (l : Lens R) : Json :=
  .object [("viewport", Size.codec.write l.viewport), ("center", l.center.toJson),
    ("zoom", Codec.ofNumber l.zoom), ("shake", l.shake.toJson)]

/-- The tree of a message. -/
def Popup.toJson (p : Popup) : Json :=
  .object [("title", .text p.title), ("content", .text p.content),
    ("buttonText", .text p.buttonText)]

/-- The tree of a frame. -/
def Frame.toJson (f : Frame R) : Json :=
  .object [("camera", f.lens.toJson), ("drawables", .list (f.drawables.map Drawable.toJson)),
    ("popup", (f.popup.map Popup.toJson).getD .null)]

end Playfield
