import Playfield.Camera.Codec
import Playfield.Instance.Codec
import Playfield.Session.Basic

/-!
# Saves

What a slot holds, and how a session is written to it and read from it.

A save holds what a player would miss: the scene, the instances, the variables,
the view and the timers. It does not hold what waits for the end of a tick, nor
what conditions remember. Timers are saved by how long they have been running,
because the clock of the session that loads them is another one.

A document cannot hold every number. A session that would not be read back as it
was is not saved: the text is read again before it is put into its slot, and
compared with what was written.

## Main definitions

* `SaveState`: What a slot holds.
* `SaveState.codec`: Saves as documents.
* `SaveError`: Why a slot cannot be written or read.
* `Session.snapshot`: The save of a session.
* `Session.save`, `Session.load`, `Session.clearSave`: Slots.
-/

namespace Playfield

/-- What a slot holds. -/
structure SaveState (R : Type) where
  /-- Milliseconds. -/
  timestamp : UInt64
  scene : String
  instances : List (Instance R)
  globals : Variables R
  view : View R
  /-- How long each timer has been running. -/
  timers : Dictionary R
  deriving DecidableEq

/-- Saves in documents. -/
def SaveState.codec {R : Type} [Scalar R] [Numeral R] : Codec (SaveState R) :=
  .record (Fields.start SaveState.mk
    |>.required "timestamp" .count (·.timestamp)
    |>.required "currentSceneId" .text (·.scene)
    |>.required "instances" (.list Instance.codec) (·.instances)
    |>.defaulting "globalVariables" Variables.codec .empty (·.globals)
    |>.required "camera" View.codec (·.view)
    |>.defaulting "timers" (.dictionary .number) .empty (·.timers))

/-- Why a slot cannot be written or read. -/
inductive SaveError where
  | store (e : SlotError)
  | document (e : Codec.DocumentError)
  | missing (slot : String)
  | unknownScene (scene : String)
  | unrepresentable (slot : String)
  deriving DecidableEq

/-- The line that reports an error. What is wrong with a document is not told. -/
def SaveError.message? : SaveError → Option String
  | .store e => e.message?
  | .document _ => none
  | .missing slot => some ("no save in slot " ++ Text.quoted slot)
  | .unknownScene scene => some ("save refers to unknown scene " ++ Text.quoted scene)
  | .unrepresentable slot =>
    some ("state for slot " ++ Text.quoted slot ++ " does not survive a save and load")

namespace Session

variable {R B : Type} [Scalar R]

/-- The key of a slot. -/
def slotKey (s : Session R B) (slot : String) : String := s.config.savePrefix ++ slot

/-- The save of the session. -/
def snapshot (s : Session R B) (timestamp : UInt64) : SaveState R where
  timestamp := timestamp
  scene := s.scene.id
  instances := s.roster.live
  globals := s.globals
  view := s.camera.view
  timers := s.timers.mapValues fun start => s.clock - start

/-- The session with a save loaded into a scene. -/
def restore (s : Session R B) (save : SaveState R) (scene : Scene R) : Session R B :=
  { s with
    scene := scene
    roster := .ofLive (save.instances.map (·.ensureStates))
    globals := save.globals
    camera := s.camera.restore save.view
    timers := save.timers.mapValues fun elapsed => s.clock - elapsed
    memory := .fresh s.clock
    pendingScene := none
    pendingLoad := none }

/-- Whether a slot is used. -/
def saveExists (s : Session R B) (slot : String) : Bool := s.slots.contains (s.slotKey slot)

/-- Empties a slot. -/
def clearSave (s : Session R B) (slot : String) : Session R B × Except SaveError Unit :=
  match s.slots.remove (s.slotKey slot) with
  | (slots, .ok ()) => ({ s with slots := slots }, .ok ())
  | (slots, .error e) => ({ s with slots := slots }, .error (.store e))

variable [Numeral R]

/-- The text of a save, if it is read back as the same save. -/
def encode [DecidableEq R] (slot : String) (save : SaveState R) : Except SaveError String :=
  let text := (SaveState.codec.write save).compact
  match SaveState.codec.parse text with
  | .error e => .error (.document e)
  | .ok reread => if reread = save then .ok text else .error (.unrepresentable slot)

/-- Saves the session in a slot. -/
def save [DecidableEq R] (s : Session R B) (slot : String) :
    Session R B × Except SaveError Unit :=
  let (time, supply) := s.supply.now
  let s := { s with supply := supply }
  match encode slot (s.snapshot time) with
  | .error e => (s, .error e)
  | .ok text =>
    match s.slots.set (s.slotKey slot) text with
    | (slots, .ok ()) => ({ s with slots := slots }, .ok ())
    | (slots, .error e) => ({ s with slots := slots }, .error (.store e))

/-- Loads a slot. -/
def load (s : Session R B) (slot : String) : Session R B × Except SaveError Unit :=
  match s.slots.get (s.slotKey slot) with
  | .error e => (s, .error (.store e))
  | .ok none => (s, .error (.missing slot))
  | .ok (some text) =>
    match SaveState.codec.parse text with
    | .error e => (s, .error (.document e))
    | .ok save =>
      match s.project.scene? save.scene with
      | none => (s, .error (.unknownScene save.scene))
      | some scene => (s.restore save scene, .ok ())

end Session

end Playfield
