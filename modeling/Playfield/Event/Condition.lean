import Playfield.Input
import Playfield.Value

/-!
# Conditions

What an event waits for.

The vocabulary is closed. Most conditions are about one object that is named by
its id, and of these the greater part look at nothing but the object itself and
the pointer; they are tests of an object (`ObjectTest`). The others ask about
keys, groups of objects, times, variables, saves, the camera or sounds.

Every condition has an id of its own, by which a repeating condition remembers
when it last held.

## Main definitions

* `ObjectTest`: A question about one object.
* `Condition.Kind`: What is asked.
* `Condition`: A question with an id.
* `Condition.Kind.references`: The ids that a condition names.
-/

namespace Playfield

/-- The fields of an object that a condition can read. -/
inductive Property where
  | positionX
  | positionY
  | rotation
  | width
  | height
  | scale
  | visible
  deriving DecidableEq

/-- A question about one object. -/
inductive ObjectTest (R : Type) where
  | variable (name : String) (op : Comparison) (value : Value R)
  | property (p : Property) (op : Comparison) (value : Value R)
  | underPointer (invert : Bool)
  | playing (animation : String) (invert : Bool)
  | health (op : Comparison) (value : R)
  | pressed
  deriving DecidableEq

namespace Condition

/-- What a condition asks. -/
inductive Kind (R : Type) where
  | keyDown (key : String)
  | keyReleased (key : String)
  | buttonDown (button : MouseButton)
  | buttonReleased (button : MouseButton)
  | object (id : String) (test : ObjectTest R)
  | clicked (id : String)
  | forEach (id : String)
  | groupSize (id : String) (op : Comparison) (size : R)
  | collision (id₁ id₂ : String)
  | distance (id₁ id₂ : String) (op : Comparison) (distance : R)
  | timer (name : String) (seconds : R)
  | every (seconds : R)
  | global (variableName : String) (op : Comparison) (value : Value R)
  | sceneStart
  | saveExists (slot : String) (invert : Bool)
  | cameraMoving
  | cameraInside (origin : Point R) (size : Size R)
  | soundPlaying (sound : String) (invert : Bool)
  deriving DecidableEq

/-- The ids that a condition names. -/
def Kind.references {R : Type} : Kind R → List String
  | .collision a b | .distance a b _ _ => [a, b]
  | .object id _ | .clicked id | .forEach id | .groupSize id _ _ => [id]
  | _ => []

end Condition

/-- A question with an id. -/
structure Condition (R : Type) where
  id : String
  kind : Condition.Kind R
  deriving DecidableEq

end Playfield
