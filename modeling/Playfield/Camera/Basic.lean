import Playfield.Camera.Jitter
import Playfield.Event.Action

/-!
# Camera

Which part of the scene is on the screen.

The camera is moved by three agents, of which the first that is present acts: a
glide that has been ordered, or else a followed object, or else nobody. Bounds
have the last word, and are laid on what of the scene is visible, not on the
camera's position. If the bounds are too narrow for the view, the upper left
corner is the one that is kept.

What a save holds is the `View`. A shake is not part of it: it moves what is
drawn and leaves the camera where it is.

A zoom below a floor would make the view unbounded, and one that is not finite
would make it nothing; so the floor is applied wherever a zoom is set
(`usableZoom`).

## Main definitions

* `View`: Position, zoom, bounds, glide and followed object.
* `Camera`: A view together with its shake.
* `Camera.changeZoom`, `Camera.fit`, `Camera.glideTo`: What actions do.
* `Camera.beginTick`, `Camera.update`: What a tick does.
* `Camera.screenToWorld`: The place under a pixel.
-/

namespace Playfield

/-- A motion from one place to another that slows down at its end. -/
structure Glide (R : Type) where
  start : Point R
  goal : Point R
  duration : R
  elapsed : R
  deriving DecidableEq

/-- What is visible and how it moves. -/
structure View (R : Type) where
  position : Point R
  zoom : R
  bounds : Option (Box R)
  glide : Option (Glide R)
  /-- The position when the current tick began. -/
  lastPosition : Point R
  isMoving : Bool
  follow : Option String
  deriving DecidableEq

/-- A displacement of the picture that changes from tick to tick. -/
structure Shake (R : Type) where
  intensity : R
  remaining : R
  deriving DecidableEq

/-- A view with its shake. -/
structure Camera (R : Type) where
  view : View R
  shake : Shake R
  /-- The last word of the jitter. -/
  jitter : UInt64
  offset : Point R

variable {R : Type} [Scalar R]

namespace Glide

/-- How far the motion has got, from nothing to one. -/
def progress (g : Glide R) : R :=
  if 0 < g.duration then Scalar.least (g.elapsed / g.duration) 1 else 1

/-- Where the motion has got to. -/
def position (g : Glide R) : Point R :=
  g.start + (g.goal - g.start).scale (g.progress * (2 - g.progress))

/-- The motion is over. -/
def isDone (g : Glide R) : Bool := decide (1 ≤ g.progress)

end Glide

namespace View

/-- An unmoved view of a place. -/
def centered (center : Point R) : View R := ⟨center, 1, none, none, center, false, none⟩

end View

namespace Camera

/-- The smallest zoom. -/
def zoomFloor : R := 0.01

/-- A zoom that a view can have. -/
def usableZoom (zoom : R) : R := if Scalar.isFinite zoom then Scalar.most zoom zoomFloor else 1

/-- A camera on a place. The seed starts the jitter. -/
def initial (center : Point R) (seed : UInt64) : Camera R := ⟨.centered center, ⟨0, 0⟩, seed, .zero⟩

/-- The camera back on a place, without a shake. -/
def reset (c : Camera R) (center : Point R) : Camera R :=
  { c with view := .centered center, shake := ⟨0, 0⟩, offset := .zero }

/-- The picture is being displaced. -/
def isShaking (c : Camera R) : Bool := decide (0 < c.shake.remaining)

/-- Sets the moving flag: a shake, a glide, or another position than when the
    tick began. -/
def refreshMoving (c : Camera R) : Camera R :=
  let v := c.view
  let moving := c.isShaking || v.glide.isSome || !Scalar.same v.position.x v.lastPosition.x ||
    !Scalar.same v.position.y v.lastPosition.y
  { c with view := { v with isMoving := moving } }

/-- The camera with a saved view. The shake is dropped. Motion is judged from
    the place where this tick began, not from the one that was saved. -/
def restore (c : Camera R) (v : View R) : Camera R :=
  refreshMoving { c with
    view := { v with
      zoom := Scalar.most v.zoom zoomFloor
      lastPosition := c.view.lastPosition }
    shake := ⟨0, 0⟩
    offset := .zero }

/-- The extent of the scene that is visible in a viewport. -/
def viewSize (c : Camera R) (viewport : Size R) : Point R := viewport.toPoint.divide c.view.zoom

/-- The place in the scene under a pixel of a viewport. -/
def screenToWorld (c : Camera R) (viewport : Size R) (pixel : Point R) : Point R :=
  (pixel - viewport.half).divide c.view.zoom + c.view.position

/-- The middle of the view lies in a box. -/
def isInside (c : Camera R) (b : Box R) : Bool := b.contains c.view.position

/-- Starts or stops following an object. -/
def follow (c : Camera R) (target : Option String) : Camera R :=
  { c with view := { c.view with follow := target } }

/-- Puts the camera on a place. -/
def moveTo (c : Camera R) (p : Point R) : Camera R :=
  { c with view := { c.view with position := p } }

/-- Starts a shake. -/
def startShake (c : Camera R) (intensity duration : R) : Camera R :=
  { c with shake := ⟨intensity, duration⟩ }

/-- Sets the zoom or changes it by an amount. -/
def changeZoom (c : Camera R) (op : ZoomOp) (amount : R) : Camera R :=
  let zoom := match op with
    | .set => amount
    | .add => c.view.zoom + amount
  { c with view := { c.view with zoom := usableZoom zoom } }

/-- Shows a box as large as it fits into a viewport, with a padding on every
    side. Any glide ends, and nothing is followed any more. -/
def fit (c : Camera R) (area : Box R) (padding : R) (viewport : Size R) : Camera R :=
  let zoom := Scalar.least (viewport.width / (area.width + padding * 2))
    (viewport.height / (area.height + padding * 2))
  { c with view := { c.view with
      zoom := usableZoom zoom
      position := area.center
      glide := none
      follow := none } }

/-- Starts to glide to a place. Nothing is followed any more. -/
def glideTo (c : Camera R) (goal : Point R) (duration : R) : Camera R :=
  { c with view := { c.view with
      glide := some ⟨c.view.position, goal, duration, 0⟩
      follow := none } }

/-- Confines the visible part of the scene to a box, or lifts that. -/
def confine (c : Camera R) (bounds : Option (Box R)) : Camera R :=
  { c with view := { c.view with bounds := bounds } }

/-- Notes where the tick began. -/
def beginTick (c : Camera R) : Camera R :=
  { c with view := { c.view with lastPosition := c.view.position } }

/-- Goes on with a glide, or else goes a part of the way to the followed object,
    which is forgotten if it is gone. -/
def move (c : Camera R) (dt smoothing : R) (centerOf : String → Option (Point R)) : Camera R :=
  let v := c.view
  match v.glide, v.follow with
  | some g, _ =>
    let g := { g with elapsed := g.elapsed + dt }
    { c with view := { v with
        position := g.position
        glide := if g.isDone then none else some g } }
  | none, some id =>
    match centerOf id with
    | some goal =>
      c.moveTo (v.position + (goal - v.position).scale smoothing)
    | none => c.follow none
  | none, none => c

/-- The coordinate that keeps a view of half extent `half` between two bounds.
    The lower bound wins if there is not room for both. -/
def confined (low high half x : R) : R :=
  Scalar.most (low + half) (Scalar.least x (high - half))

/-- Moves the camera to where its bounds allow it to be. -/
def applyBounds (c : Camera R) (viewport : Size R) : Camera R :=
  match c.view.bounds with
  | none => c
  | some b =>
    let half := (c.viewSize viewport).scale 0.5
    let p := c.view.position
    c.moveTo ⟨confined b.low.x b.high.x half.x p.x, confined b.low.y b.high.y half.y p.y⟩

/-- A number between minus one and one from a word of the jitter. -/
def swing (word : UInt64) : R := Jitter.fraction word * 2 - 1

/-- Displaces the picture anew while a shake lasts. -/
def advanceShake (c : Camera R) (dt : R) : Camera R :=
  if c.isShaking then
    let first := Jitter.next c.jitter
    let second := Jitter.next first
    { c with
      jitter := second
      offset := Point.scale ⟨swing first, swing second⟩ c.shake.intensity
      shake := { c.shake with remaining := c.shake.remaining - dt } }
  else { c with offset := .zero }

/-- The end of a tick. Whether the camera moves is judged before the shake goes
    on. -/
def update (c : Camera R) (dt : R) (viewport : Size R) (smoothing : R)
    (centerOf : String → Option (Point R)) : Camera R :=
  (((c.move dt smoothing centerOf).applyBounds viewport).refreshMoving).advanceShake dt

end Camera

end Playfield
