import Playfield.Behavior
import Playfield.Plane
import Playfield.Value

/-!
# Objects

What a scene is made of: sprites, tiled sprites, texts and bars.

An object of a document is a template. While a game runs, copies of templates
move and change (see `Playfield.Instance`), and a copy is an object again, so
everything that is asked of an object's place and shape is defined here.

An object lies at its top left corner and turns about its center. A scale of
zero, or one that is not finite, counts as no scale: a document that leaves the
scale out and one that sets it to zero mean the same.

## Main definitions

* `Object`: A template or a copy of one.
* `Object.Appearance`: What kind of thing it is, with the data of the kind.
* `Object.box`, `Object.center`: Where it is.
* `Object.worldPoint`: Where a named point on it is.
* `Bar.fillRatio`: How full a bar is.

## Theorems

* `Bar.fillRatio_of_empty`: A bar that can hold nothing is empty.
-/

namespace Playfield

/-- Pictures shown one after the other. -/
structure Animation (R : Type) where
  id : String
  name : String
  frames : List String
  /-- Frames in a second. -/
  speed : R
  loops : Bool
  deriving DecidableEq

/-- A picture, or an animation of pictures. -/
structure Sprite (R : Type) where
  still : Option String
  animations : List (Animation R)
  current : Option String
  deriving DecidableEq

/-- Where a line of text is anchored horizontally. -/
inductive Align where
  | left
  | center
  | right
  deriving DecidableEq

/-- Where a line of text is anchored vertically. -/
inductive Baseline where
  | top
  | middle
  | bottom
  deriving DecidableEq

/-- A line of text. -/
structure Label (R : Type) where
  text : String
  font : String
  fontSize : R
  color : String
  align : Align
  baseline : Baseline
  deriving DecidableEq

/-- What a bar shows. -/
inductive BarSource where
  | manual
  | globalVariable
  | objectVariable
  deriving DecidableEq

/-- The variable that a bar shows. -/
structure BarReading where
  source : BarSource
  variableName : String
  owner : Option String
  deriving DecidableEq

/-- A bar that fills up. -/
structure Bar (R : Type) where
  most : R
  current : R
  reading : Option BarReading
  foregroundColor : String
  backgroundColor : String
  borderColor : String
  borderWidth : R
  showsLabel : Bool
  labelFont : String
  labelColor : String
  labelSize : R
  deriving DecidableEq

/-- What kind of thing an object is. -/
inductive Appearance (R : Type) where
  | sprite (s : Sprite R)
  | tiledSprite (s : Sprite R)
  | text (t : Label R)
  | bar (b : Bar R)
  deriving DecidableEq

/-- A template, or a copy of one. -/
structure Object (R : Type) where
  id : String
  name : String
  position : Point R
  size : Size R
  scale : R
  /-- Degrees. -/
  rotation : R
  vars : Variables R
  layer : String
  visible : Bool
  points : Dictionary (Point R)
  collisionMask : List (Point R)
  behaviors : List (Behavior R)
  appearance : Appearance R
  deriving DecidableEq

namespace Sprite

variable {R : Type}

/-- The first animation of a name. -/
def animation? (s : Sprite R) (name : String) : Option (Animation R) :=
  s.animations.find? (fun a => a.name == name)

/-- The sprite with its first animation of a name changed, if it has one. -/
def updateAnimation? (s : Sprite R) (name : String) (f : Animation R → Animation R) :
    Option (Sprite R) :=
  let rec go : List (Animation R) → Option (List (Animation R))
    | [] => none
    | a :: as => if a.name == name then some (f a :: as) else (go as).map (a :: ·)
  (go s.animations).map fun as => { s with animations := as }

end Sprite

namespace Bar

variable {R : Type} [Scalar R]

/-- How full a bar is, from nothing to one. A bar that can hold nothing is
    empty. -/
def fillRatio (b : Bar R) : R :=
  if b.most ≤ 0 then 0 else Scalar.clamp (b.current / b.most) 0 1

theorem fillRatio_of_empty (b : Bar R) (h : b.most ≤ 0) : b.fillRatio = 0 := by
  simp [fillRatio, h]

end Bar

namespace Appearance

variable {R : Type}

/-- The picture of a sprite, tiled or not. -/
def sprite? : Appearance R → Option (Sprite R)
  | .sprite s | .tiledSprite s => some s
  | _ => none

/-- The bar. -/
def bar? : Appearance R → Option (Bar R)
  | .bar b => some b
  | _ => none

/-- Changes the picture of a sprite, tiled or not. -/
def updateSprite? (f : Sprite R → Option (Sprite R)) : Appearance R → Option (Appearance R)
  | .sprite s => (f s).map .sprite
  | .tiledSprite s => (f s).map .tiledSprite
  | _ => none

/-- Changes the text. -/
def updateText? (f : Label R → Label R) : Appearance R → Option (Appearance R)
  | .text t => some (.text (f t))
  | _ => none

/-- Changes the bar. -/
def updateBar? (f : Bar R → Bar R) : Appearance R → Option (Appearance R)
  | .bar b => some (.bar (f b))
  | _ => none

end Appearance

namespace Object

variable {R : Type}

/-- The first behavior of a kind. -/
def behavior? (o : Object R) (k : Behavior.Kind) : Option (Behavior R) :=
  o.behaviors.find? (fun b => b.kind == k)

variable [Scalar R]

/-- The scale that counts: one where the scale is zero or not finite. -/
def effectiveScale (o : Object R) : R :=
  if Scalar.same o.scale 0 || !Scalar.isFinite o.scale then 1 else o.scale

/-- The size on screen. -/
def scaledSize (o : Object R) : Size R := o.size.scale o.effectiveScale

/-- The scaled box. -/
def box (o : Object R) : Box R := .ofOrigin o.position o.scaledSize

/-- The middle of the scaled box. -/
def center (o : Object R) : Point R := o.position + o.scaledSize.half

variable [Planar R]

/-- The direction that the object faces. -/
def heading (o : Object R) : Point R := .ofAngle o.rotation

/-- Where a named point of the object is, once the object is scaled and turned
    about its center. A point that it does not have is the center. -/
def worldPoint (o : Object R) (name : String) : Point R :=
  let half := o.size.half
  let offset := ((o.points.get? name).getD half - half).scale o.effectiveScale
  o.center + Point.rotate o.heading offset

end Object

end Playfield
