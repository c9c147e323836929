import Playfield.Session.Basic

/-!
# Frames

What is to be drawn.

A frame is all that a renderer sees of a session: the view, and one drawable for
each visible instance, in the order in which they are painted. The layers of the
scene are painted one after the other, and on a layer the instances in the order
of the roster. An instance on a layer that the scene does not have is not drawn.

A layer follows the camera by its parallax. What follows it fully stands still
in the scene, and what does not follow it at all stands still on the screen.

## Main definitions

* `Lens`: How places of the scene become pixels.
* `Paint`: What a drawable looks like.
* `Drawable`: An instance resolved for drawing.
* `Frame`: A view and its drawables.
* `Session.frame`: The frame of a session.
-/

namespace Playfield

/-- How places of the scene become pixels. -/
structure Lens (R : Type) where
  viewport : Size R
  center : Point R
  zoom : R
  /-- Displaces the center. -/
  shake : Point R

/-- What a drawable looks like. -/
inductive Paint (R : Type) where
  | sprite (a : Asset)
  | tiledSprite (a : Asset)
  /-- A picture that is not there, or not yet. -/
  | placeholder (pending : Bool)
  | text (t : Label R)
  | bar (fill : R) (label : Option String) (b : Bar R)

/-- An instance resolved for drawing. -/
structure Drawable (R : Type) where
  id : String
  layer : Nat
  /-- The top left corner in the scene. -/
  position : Point R
  size : Size R
  /-- Degrees about the center. -/
  rotation : R
  parallax : Point R
  paint : Paint R

/-- A view and its drawables. -/
structure Frame (R : Type) where
  lens : Lens R
  drawables : List (Drawable R)
  popup : Option Popup

variable {R : Type} [Scalar R]

/-- The pixel of a place on a layer. The camera counts as far as the layer follows
    it, from where it is at first. -/
def Lens.worldToScreen (l : Lens R) (parallax place : Point R) : Point R :=
  let home := l.viewport.half
  let eye := home + (l.center + l.shake - home).stretch parallax
  (place - eye).scale l.zoom + home

/-- The label of a bar: the rounded value over the largest one. -/
def Bar.label [Numeral R] (b : Bar R) : String :=
  Numeral.display (Scalar.round b.current) ++ " / " ++ Numeral.display b.most

/-- The frame of an animation at which a cursor stands. A cursor beyond the end
    stands at the last one. -/
def Animation.frameAt? (a : Animation R) (c : Cursor R) : Option String :=
  a.frames[min c.frame.toNat (a.frames.length - 1)]?

/-- The picture that a sprite shows: the frame of its animation while one is
    playing, or else the still one. -/
def Sprite.picture? (s : Sprite R) (c : Cursor R) : Option String :=
  let frame := (s.current.bind s.animation?).bind (·.frameAt? c)
  (frame.or s.still).filter (· != "")

namespace Instance

/-- The picture that an instance shows, if it shows one. Tiled sprites are not
    animated. -/
def picture? (i : Instance R) : Option String :=
  match i.object.appearance with
  | .sprite s => s.picture? i.cursor
  | .tiledSprite s => s.still.filter (· != "")
  | _ => none

end Instance

namespace Session

variable {B : Type}

/-- What a picture looks like, given the drawable of the decoded one. -/
def paintPicture (s : Session R B) (decoded : Asset → Paint R) : Option String → Paint R
  | none => .placeholder false
  | some source =>
    match s.assets.lookupSource source with
    | .ready a => decoded a
    | .pending => .placeholder true
    | .failed => .placeholder false

/-- What an instance looks like. -/
def paint [Numeral R] (s : Session R B) (i : Instance R) : Paint R :=
  match i.object.appearance with
  | .sprite _ => s.paintPicture .sprite i.picture?
  | .tiledSprite _ => s.paintPicture .tiledSprite i.picture?
  | .text t => .text t
  | .bar b => .bar b.fillRatio (if b.showsLabel then some b.label else none) b

variable [Numeral R]

/-- An instance resolved for drawing on a layer. -/
def drawable (s : Session R B) (index : Nat) (layer : Layer R) (i : Instance R) : Drawable R where
  id := i.id
  layer := index
  position := i.object.position
  size := i.object.scaledSize
  rotation := i.object.rotation
  parallax := layer.parallax
  paint := s.paint i

/-- The instances that are drawn on a layer. -/
def drawn (s : Session R B) (layer : Layer R) : List (Instance R) :=
  s.roster.live.filter fun i => i.object.visible && i.object.layer == layer.name

/-- The view of the session. -/
def lens (s : Session R B) : Lens R :=
  ⟨s.config.viewport, s.camera.view.position, s.camera.view.zoom, s.camera.offset⟩

/-- The frame of the session. -/
def frame (s : Session R B) : Frame R where
  lens := s.lens
  drawables := s.scene.layers.zipIdx.flatMap fun l => (s.drawn l.1).map (s.drawable l.2 l.1)
  popup := s.popup

end Session

end Playfield
