import Playfield.Dictionary
import Playfield.Plane

/-!
# Input

Which keys and buttons are down, and where the pointer is.

The host reports presses and releases as they happen; the game asks once in a
tick. Between the two stands a pair of sets for keys and one for buttons: what
is down now, and what was down when the last tick ended. Something counts as
released while it is in the second set and not in the first, so a release is
seen for exactly one tick, and a press that is over before the tick is never
seen.

The pointer is in world coordinates. Finding them takes the camera, so the
session does it, and pointer moves are not among the events.

## Main definitions

* `InputEvent`: What the host reports.
* `Input`: What is down, what was, the pointer, and the clicked object.
* `Input.apply`: The effect of an event.
* `Input.rotate`: The end of a tick.
-/

namespace Playfield

/-- The buttons of a pointer. -/
inductive MouseButton where
  | left
  | middle
  | right
  deriving DecidableEq

/-- What the host reports. -/
inductive InputEvent where
  | keyDown (key : String)
  | keyUp (key : String)
  | buttonDown (button : MouseButton)
  | buttonUp (button : MouseButton)
  | focusLost

/-- Which of the buttons are down. -/
structure Buttons where
  left : Bool
  middle : Bool
  right : Bool
  deriving DecidableEq

namespace Buttons

/-- No button. -/
def none : Buttons := ⟨false, false, false⟩

/-- Whether a button is among them. -/
def has (s : Buttons) : MouseButton → Bool
  | .left => s.left
  | .middle => s.middle
  | .right => s.right

/-- The buttons with one of them down or up. -/
def set (s : Buttons) (b : MouseButton) (down : Bool) : Buttons :=
  match b with
  | .left => { s with left := down }
  | .middle => { s with middle := down }
  | .right => { s with right := down }

theorem has_set (s : Buttons) (b c : MouseButton) (down : Bool) :
    (s.set b down).has c = if b = c then down else s.has c := by
  cases b <;> cases c <;> rfl

end Buttons

/-- The state of keys, buttons and pointer. -/
structure Input (R : Type) where
  keys : Names
  keysBefore : Names
  buttons : Buttons
  buttonsBefore : Buttons
  pointer : Point R
  clicked : Option String

namespace Input

variable {R : Type}

/-- Nothing is down, and the pointer is at the origin. -/
def initial [Scalar R] : Input R := ⟨.empty, .empty, .none, .none, .zero, none⟩

/-- The effect of an event. -/
def apply (i : Input R) : InputEvent → Input R
  | .keyDown k => { i with keys := i.keys.add k }
  | .keyUp k => { i with keys := i.keys.erase k }
  | .buttonDown b => { i with buttons := i.buttons.set b true }
  | .buttonUp b => { i with buttons := i.buttons.set b false }
  | .focusLost => { i with keys := .empty, buttons := .none }

/-- A key is down. -/
def isKeyDown (i : Input R) (k : String) : Bool := i.keys.contains k

/-- A key was down when the last tick ended and is not any more. -/
def keyReleased (i : Input R) (k : String) : Bool :=
  !i.keys.contains k && i.keysBefore.contains k

/-- A button is down. -/
def isButtonDown (i : Input R) (b : MouseButton) : Bool := i.buttons.has b

/-- A button was down when the last tick ended and is not any more. -/
def buttonReleased (i : Input R) (b : MouseButton) : Bool :=
  !i.buttons.has b && i.buttonsBefore.has b

/-- Ends a tick: what is down now becomes what was, and the click is spent. -/
def rotate (i : Input R) : Input R :=
  { i with keysBefore := i.keys, buttonsBefore := i.buttons, clicked := none }

end Input

end Playfield
