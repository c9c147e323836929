import Playfield.Roster

/-!
# Animations

How the pictures of an animated sprite follow each other.

The cursor counts how long a frame has been shown and goes to the next one when
its time is over. It goes on by at most one frame in a tick, and what is left of
the time counts for the next frame. At the end an animation starts again if it
is looped. If not, it is over: the sprite has no current animation any more, and
the cursor stays on the last frame.

The number of a frame is a word, and the next number is counted before it is
compared with the number of frames. Behind the last word there is none. Then the
cursor does not come to a next frame, and nothing comes of the step in which it
should.

Tiled sprites do not move.

## Main definitions

* `Cursor.count?`: The number of the next frame, if it is a word.
* `Cursor.advance?`: The cursor after a tick, and whether the animation is over.
* `Roster.animate?`: Moves the cursors of all sprites.

## Theorems

* `Cursor.advance?_of_unfinished`: While its time lasts, the frame stays.
-/

namespace Playfield

variable {R : Type} [Scalar R]

namespace Animation

/-- The number of frames. -/
def frameCount (a : Animation R) : UInt64 := UInt64.ofNat a.frames.length

/-- How long a frame is shown. -/
def frameTime (a : Animation R) : R := 1 / a.speed

/-- There is something to go on with. -/
def isRunning (a : Animation R) : Bool := !a.frames.isEmpty && !decide (a.speed ≤ 0)

end Animation

namespace Cursor

/-- The number behind another one, if it is a word. -/
def count? (frame : UInt64) : Option UInt64 :=
  let next := frame + 1
  if frame < next then some next else none

/-- The frame that follows, and whether the animation is over. -/
def nextFrame? (a : Animation R) (frame : UInt64) : Option (UInt64 × Bool) :=
  (count? frame).map fun next =>
    if next < a.frameCount then (next, false)
    else if a.loops then (0, false)
    else (a.frameCount - 1, true)

/-- The cursor after a tick, and whether the animation is over. -/
def advance? (a : Animation R) (dt : R) (c : Cursor R) : Option (Cursor R × Bool) :=
  let time := c.time + dt
  if a.frameTime ≤ time then
    (nextFrame? a c.frame).map fun (frame, isOver) => (⟨frame, time - a.frameTime⟩, isOver)
  else some (⟨c.frame, time⟩, false)

theorem advance?_of_unfinished (a : Animation R) (dt : R) (c : Cursor R)
    (h : ¬ a.frameTime ≤ c.time + dt) :
    c.advance? a dt = some (⟨c.frame, c.time + dt⟩, false) := by
  simp [advance?, h]

end Cursor

/-- The current animation of a sprite. -/
def Sprite.currentAnimation? (s : Sprite R) : Option (Animation R) := s.current.bind s.animation?

namespace Instance

/-- The instance with its animation moved on. -/
def animate? (dt : R) (i : Instance R) : Option (Instance R) :=
  match i.object.appearance with
  | .sprite s =>
    match s.currentAnimation? with
    | none => some i
    | some a =>
      if a.isRunning then
        (i.cursor.advance? a dt).map fun (cursor, isOver) =>
          let s := if isOver then { s with current := none } else s
          { i with object := { i.object with appearance := .sprite s }, cursor := cursor }
      else some i
  | _ => some i

end Instance

/-- Moves the cursors of all sprites. -/
def Roster.animate? (r : Roster R) (dt : R) : Option (Roster R) :=
  (r.live.mapM (Instance.animate? dt)).map fun live => { r with live := live }

end Playfield
