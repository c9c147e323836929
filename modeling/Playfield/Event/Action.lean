import Playfield.Plane
import Playfield.Value

/-!
# Actions

What an event does.

The vocabulary is closed. Nearly half of the actions are done to one object that
is named by its id; they are effects on a target. The rest create objects, steer
the camera, start and stop sounds, or are about the game as a whole: variables,
scenes, messages, timers and saves.

## Main definitions

* `Placement`: Where something is put, absolutely or relative to an object.
* `Effect`: What is done to one object.
* `CameraCommand`, `SoundCommand`: What is done to camera and sounds.
* `Action.Kind`: What is done.
* `Action`: What is done, with an id.
* `Action.Kind.references`: The ids that an action names.
-/

namespace Playfield

/-- How a place is meant. -/
inductive PositionType where
  | absolute
  | relative
  deriving DecidableEq

/-- Where something is put: at a place of the scene, or at an offset from an
    object's center or from a named point on it. -/
structure Placement (R : Type) where
  type : PositionType
  offset : Point R
  anchor : Option String
  point : Option String
  deriving DecidableEq

/-- The fields of an object that an action can set. -/
inductive Settable where
  | scale
  | rotation
  | color
  | fontSize
  deriving DecidableEq

/-- What is done to one object. -/
inductive Effect (R : Type) where
  | moveBy (offset : Point R)
  | changeVariable (name : String) (op : Arithmetic) (value : Value R)
  | destroy
  | place (p : Placement R)
  | setRotation (degrees : R)
  | setSprite (source : String)
  | setVisible (visible : Bool)
  | setSize (size : Size R)
  | playAnimation (name : String)
  | stopAnimation
  | moveTo (goal : Point R) (speed : R)
  | setAnimationSpeed (name : String) (speed : R)
  | moveTowards (goal : String) (speed : R)
  | moveAhead (speed : R)
  | damage (amount : R)
  | setHealth (amount : R)
  | fire (bullet spawnPoint : String)
  | setText (text : String)
  | setBar (value : R)
  | setProperty (p : Settable) (value : Value R)
  deriving DecidableEq

/-- A new object: a copy of the template of a name. A picture and a layer are
    set if they are not empty. -/
structure Creation (R : Type) where
  name : String
  sprite : String
  layer : String
  placement : Placement R
  deriving DecidableEq

/-- How a zoom is meant. -/
inductive ZoomOp where
  | set
  | add
  deriving DecidableEq

/-- What is done to the camera. -/
inductive CameraCommand (R : Type) where
  | follow (target : Option String)
  | moveTo (goal : Point R)
  | shake (intensity duration : R)
  | zoom (amount : R) (op : ZoomOp)
  | fit (ids : List String) (padding : R)
  | glide (goal : Point R) (duration : R)
  | confine (bounds : Box R)
  | release
  deriving DecidableEq

/-- What is done to sounds. -/
inductive SoundCommand (R : Type) where
  | play (sound : String)
  | stop (sound : String)
  | music (sound : String)
  | stopMusic
  | volume (v : R)
  deriving DecidableEq

/-- A message that has to be dismissed before the game goes on. -/
structure Popup where
  title : String
  content : String
  buttonText : String
  deriving DecidableEq

namespace Action

/-- What an action does. -/
inductive Kind (R : Type) where
  | object (target : String) (effect : Effect R)
  | create (c : Creation R)
  | camera (c : CameraCommand R)
  | sound (c : SoundCommand R)
  | setGlobal (variableName : String) (value : Value R)
  | changeGlobal (variableName : String) (op : Arithmetic) (value : Value R)
  | changeScene (scene : String)
  | showPopup (p : Popup)
  | startTimer (name : String)
  | save (slot : String)
  | load (slot : String)
  | clearSave (slot : String)
  deriving DecidableEq

/-- The ids that an effect names besides its target. -/
def effectReferences {R : Type} : Effect R → List String
  | .moveTowards goal _ => [goal]
  | .place p => p.anchor.toList
  | _ => []

/-- The ids that an action names. -/
def Kind.references {R : Type} : Kind R → List String
  | .object target e => target :: effectReferences e
  | .create c => c.placement.anchor.toList
  | .camera (.follow target) => target.toList
  | .camera (.fit ids _) => ids
  | _ => []

end Action

/-- What is done, with an id. -/
structure Action (R : Type) where
  id : String
  kind : Action.Kind R
  deriving DecidableEq

end Playfield
