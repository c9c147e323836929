import Playfield.Asset.DataUrl
import Playfield.Asset.Registry
import Playfield.Audio.Mixer
import Playfield.Camera.Basic
import Playfield.Project
import Playfield.Roster
import Playfield.Slot.Store
import Playfield.Supply

/-!
# Sessions

A running game.

A session is everything that changes while a game runs, together with the
project that does not. The active scene is a copy of a scene of the project and
is not changed either; its living copy is the roster.

What conditions have to remember belongs to the time since the scene was entered
(`Memory`), and is forgotten as a whole when a scene is entered or a save is
loaded. Two requests wait for the end of a tick: to change the scene, and to load
a save.

A session is generic in its numbers and in its audio output.

## Main definitions

* `Config`: What a host can set.
* `Memory`: What conditions remember.
* `Session`: A running game.
* `Session.start`: The session of a project before it is initialized.
* `Session.enter`: Registers the assets and enters a scene.
* `Session.hitTest`: The instance that is seen at a place.
-/

namespace Playfield

/-- What a host can set. -/
structure Config (R : Type) where
  viewport : Size R
  /-- The part of the way to the followed object that the camera goes in a tick. -/
  smoothing : R
  /-- What the keys of all saves begin with. -/
  savePrefix : String
  /-- Where the jitter of the camera starts. -/
  seed : UInt64
  decodeMode : DecodeMode

/-- The settings of a project as a configuration. -/
def Config.ofSettings {R : Type} [Scalar R] (s : Settings R) : Config R :=
  ⟨s.resolution, 0.1, "gamma_save_", 0x5eed, .background⟩

/-- What conditions remember since the scene was entered. -/
structure Memory (R : Type) where
  /-- The clock when the scene was entered. -/
  since : R
  /-- When the repeating conditions last held, by their ids. -/
  lastHeld : Dictionary R
  /-- The events that have seen the start of the scene. -/
  started : Names

/-- Nothing is remembered at the beginning. -/
def Memory.fresh {R : Type} (clock : R) : Memory R := ⟨clock, .empty, .empty⟩

/-- A running game. -/
structure Session (R B : Type) where
  project : Project R
  config : Config R
  scene : Scene R
  roster : Roster R
  globals : Variables R
  camera : Camera R
  input : Input R
  assets : AssetRegistry
  mixer : Mixer B
  slots : SlotStore
  supply : Supply
  /-- The seconds that have been played. -/
  clock : R
  /-- The clock when each timer was started. -/
  timers : Dictionary R
  memory : Memory R
  popup : Option Popup
  pendingScene : Option String
  pendingLoad : Option String
  /-- The assets of the sounds, by name. -/
  sounds : Dictionary AssetId
  assetsRegistered : Bool
  closed : Bool
  tickCount : Nat

/-- Why a session cannot be started or initialized. -/
inductive SessionError where
  | noScenes
  | unknownScene (id : String)
  deriving DecidableEq

/-- The line that reports an error. -/
def SessionError.message : SessionError → String
  | .noScenes => "project has no scenes"
  | .unknownScene id => "unknown scene " ++ Text.quoted id

namespace Session

variable {R B : Type} [Scalar R]

/-- The session of a project before it is initialized. -/
def start (project : Project R) (config : Config R) (slots : SlotStore) (output : B)
    (supply : Supply) : Except SessionError (Session R B) :=
  match project.scenes with
  | [] => .error .noScenes
  | scene :: _ => .ok
    { project, config, scene
      roster := .empty
      globals := project.globals
      camera := .initial config.viewport.half config.seed
      input := .initial
      assets := .empty config.decodeMode
      mixer := .initial output
      slots, supply
      clock := 0
      timers := .empty
      memory := .fresh 0
      popup := none
      pendingScene := none
      pendingLoad := none
      sounds := .empty
      assetsRegistered := false
      closed := false
      tickCount := 0 }

/-- Requests an asset. -/
def request (kind : AssetKind) (source : String) (s : Session R B) : Session R B :=
  { s with assets := s.assets.request DataUrl.decode kind source }

/-- Requests a sound and notes its asset. -/
def registerSound (s : Session R B) (sound : Sound R) : Session R B :=
  let s := s.request .audio sound.source
  { s with sounds := s.sounds.insert sound.name (.of sound.source) }

/-- Requests the pictures and sounds of the project, once. -/
def registerAssets (s : Session R B) : Session R B :=
  if s.assetsRegistered then s
  else
    let s := s.project.pictures.keys.foldl (fun s p => s.request .image p) s
    let s := s.project.sounds.foldl registerSound s
    { s with assetsRegistered := true }

/-- Enters a scene: fresh instances, a fresh view, nothing remembered and nothing
    requested. Variables and timers stay. -/
def activate (s : Session R B) (scene : Scene R) : Session R B :=
  { s with
    scene := scene
    roster := .ofScene scene
    camera := s.camera.reset s.config.viewport.half
    memory := .fresh s.clock
    pendingScene := none
    pendingLoad := none }

/-- The scene of an id, or the first one. -/
def findScene (s : Session R B) : Option String → Except SessionError (Scene R)
  | some id =>
    match s.project.scene? id with
    | some scene => .ok scene
    | none => .error (.unknownScene id)
  | none =>
    match s.project.scenes with
    | scene :: _ => .ok scene
    | [] => .error .noScenes

/-- Registers the assets and enters a scene. The assets are registered even if
    there is no such scene. -/
def enter (s : Session R B) (id : Option String) : Session R B × Except SessionError Unit :=
  let s := s.registerAssets
  match s.findScene id with
  | .error e => (s, .error e)
  | .ok scene => ({ s.activate scene with closed := false }, .ok ())

/-- Stops all sounds and closes the session. -/
def teardown [AudioOutput R B] (s : Session R B) : Session R B :=
  if s.closed then s else { s with mixer := s.mixer.stopAll, popup := none, closed := true }

/-- Passes on what the host reports. -/
def handleInput (s : Session R B) (e : InputEvent) : Session R B :=
  { s with input := s.input.apply e }

/-- The pointer is over a pixel. -/
def pointerMoved (s : Session R B) (pixel : Point R) : Session R B :=
  { s with input := { s.input with
      pointer := s.camera.screenToWorld s.config.viewport pixel } }

/-- The instance of a layer that is seen at a place: the last one there. -/
def hitOn (s : Session R B) (place : Point R) (layer : Layer R) : Option String :=
  ((s.roster.live.reverse.filter fun i => i.object.layer == layer.name && i.object.visible).find?
    fun i => i.object.box.contains place).map (·.id)

/-- The instance that is seen at a place. The layers are searched from the last one,
    which is in front, to the first. -/
def hitTest (s : Session R B) (place : Point R) : Option String :=
  s.scene.layers.reverse.findSome? (s.hitOn place)

/-- A click on a pixel. It is ignored while a message is open. -/
def click (s : Session R B) (pixel : Point R) : Session R B :=
  if s.popup.isSome then s
  else
    let s := s.pointerMoved pixel
    { s with input := { s.input with clicked := s.hitTest s.input.pointer } }

/-- Closes a message. -/
def dismissPopup (s : Session R B) : Session R B := { s with popup := none }

/-- The clip of a sound, if it has been decoded. -/
def clip? (s : Session R B) (sound : String) : Option Asset :=
  (s.sounds.get? sound).bind fun id => (s.assets.lookup id).asset?

/-- A line that describes the session. -/
def describe [Numeral R] (s : Session R B) : String :=
  "Session \x7b scene: " ++ Text.quoted s.scene.id ++
    ", instances: " ++ toString s.roster.live.length ++
    ", clock: " ++ Numeral.write .diagnostic s.clock ++
    ", tick_count: " ++ toString s.tickCount ++
    ", closed: " ++ (if s.closed then "true" else "false") ++ ", .. \x7d"

end Session

end Playfield
