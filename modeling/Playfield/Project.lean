import Playfield.Scene

/-!
# Projects

The document that an author edits: settings, scenes, sounds and variables.

## Main definitions

* `Settings`: How the game is presented.
* `Sound`: A named audio clip with its encoded source.
* `Project`: The whole document.
* `Project.pictures`: The pictures that the project refers to.
* `Project.codec`: Projects as documents.
* `Project.read`, `Project.write`: Projects as texts.
-/

namespace Playfield

/-- Which way the screen is held. -/
inductive Orientation where
  | landscape
  | portrait
  deriving DecidableEq

/-- How the game is presented. -/
structure Settings (R : Type) where
  title : String
  description : String
  version : String
  icon : Option String
  loadingScreenImage : Option String
  resolution : Size R
  orientation : Orientation

/-- A named audio clip. -/
structure Sound (R : Type) where
  name : String
  source : String
  defaultVolume : Option R
  isMusic : Option Bool

/-- The whole document. -/
structure Project (R : Type) where
  settings : Settings R
  scenes : List (Scene R)
  sounds : List (Sound R)
  globals : Variables R

namespace Project

variable {R : Type}

/-- The first scene of an id. -/
def scene? (p : Project R) (id : String) : Option (Scene R) :=
  p.scenes.find? (fun s => s.id == id)

/-- The first sound of a name. -/
def sound? (p : Project R) (name : String) : Option (Sound R) :=
  p.sounds.find? (fun s => s.name == name)

/-- The pictures of a sprite: the still one if it is not empty, and every frame. -/
def spritePictures (s : Sprite R) : List String :=
  (s.still.filter (fun p => p != "")).toList ++ s.animations.flatMap (·.frames)

/-- The pictures of an object. -/
def objectPictures (o : Object R) : List String :=
  match o.appearance.sprite? with
  | some s => spritePictures s
  | none => []

/-- The pictures that objects of the project refer to, without repetition. -/
def pictures (p : Project R) : Names :=
  (p.scenes.flatMap (fun s => s.objects.flatMap objectPictures)).foldl Names.add .empty

end Project

section Documents

variable {R : Type} [Scalar R] [Numeral R]

/-- Orientations in documents. -/
def Orientation.codec : Codec Orientation :=
  .named [("landscape", .landscape), ("portrait", .portrait)] fun
    | .landscape => "landscape"
    | .portrait => "portrait"

namespace Settings

/-- The settings of a document that has none. -/
def initial : Settings R := ⟨"", "", "", none, none, ⟨800, 600⟩, .landscape⟩

/-- Settings in documents. -/
def codec : Codec (Settings R) :=
  .record (Fields.start Settings.mk
    |>.defaulting "title" .text "" (·.title)
    |>.defaulting "description" .text "" (·.description)
    |>.defaulting "version" .text "" (·.version)
    |>.optional "icon" .text (·.icon)
    |>.optional "loadingScreenImage" .text (·.loadingScreenImage)
    |>.defaulting "resolution" Size.codec ⟨800, 600⟩ (·.resolution)
    |>.defaulting "orientation" Orientation.codec .landscape (·.orientation))

end Settings

/-- Sounds in documents. -/
def Sound.codec : Codec (Sound R) :=
  .record (Fields.start Sound.mk
    |>.required "name" .text (·.name)
    |>.required "dataUrl" .text (·.source)
    |>.optional "defaultVolume" .number (·.defaultVolume)
    |>.optional "isMusic" .bool (·.isMusic))

namespace Project

/-- The assets of a document, which are its sounds. -/
def assetsCodec : Codec (List (Sound R)) :=
  .record (Fields.start (fun s => s)
    |>.defaulting "sounds" (.list Sound.codec) [] (fun s => s))

/-- Projects as documents. -/
def codec : Codec (Project R) :=
  .record (Fields.start Project.mk
    |>.defaulting "settings" Settings.codec .initial (·.settings)
    |>.defaulting "scenes" (.list Scene.codec) [] (·.scenes)
    |>.defaulting "assets" assetsCodec [] (·.sounds)
    |>.defaulting "globalVariables" Variables.codec .empty (·.globals))

/-- Reads a document. -/
def read (text : String) : Except Codec.DocumentError (Project R) := codec.parse text

/-- The text of a document. -/
def write (p : Project R) : String := (codec.write p).pretty

end Project

end Documents

end Playfield
