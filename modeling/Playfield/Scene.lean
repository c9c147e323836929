import Playfield.Event.Tree
import Playfield.Object.Codec

/-!
# Scenes

A scene: its layers, its objects and its events.

A scene is a template and is never changed while a game runs. Names need not be
unique in it. Wherever something is looked up, the first of several wins.

## Main definitions

* `Layer`: A named draw layer. Later layers are in front.
* `Scene`: Layers, objects and events.
* `Scene.object?`, `Scene.template?`, `Scene.layerIndex?`: Look-ups.
* `Scene.codec`: Scenes in documents.
-/

namespace Playfield

/-- A named draw layer. A parallax of one moves with the scene, one of zero
    stays on the screen. -/
structure Layer (R : Type) where
  name : String
  visibleInEditor : Bool
  parallax : Point R

/-- Layers, objects and events. -/
structure Scene (R : Type) where
  id : String
  name : String
  layers : List (Layer R)
  objects : List (Object R)
  events : List (EventNode R)

namespace Scene

variable {R : Type}

/-- The events that a game sees, in order. -/
def activeEvents (s : Scene R) : List (Event R) := EventNode.activeEvents s.events

/-- All events, in order. -/
def allEvents (s : Scene R) : List (Event R) := EventNode.allEvents s.events

/-- The first object of an id. -/
def object? (s : Scene R) (id : String) : Option (Object R) :=
  s.objects.find? (fun o => o.id == id)

/-- The first object of a name, from which copies are made. -/
def template? (s : Scene R) (name : String) : Option (Object R) :=
  s.objects.find? (fun o => o.name == name)

/-- The first layer of a name. -/
def layer? (s : Scene R) (name : String) : Option (Layer R) :=
  s.layers.find? (fun l => l.name == name)

/-- The place of the first layer of a name. -/
def layerIndex? (s : Scene R) (name : String) : Option Nat :=
  s.layers.findIdx? (fun l => l.name == name)

end Scene

variable {R : Type} [Scalar R] [Numeral R]

/-- Layers in documents. -/
def Layer.codec : Codec (Layer R) :=
  .record (Fields.start (fun n v x y => Layer.mk n v ⟨x, y⟩)
    |>.required "name" .text (·.name)
    |>.defaulting "visibleInEditor" .bool true (·.visibleInEditor)
    |>.defaulting "parallaxX" .number 1 (·.parallax.x)
    |>.defaulting "parallaxY" .number 1 (·.parallax.y))

/-- Scenes in documents. -/
def Scene.codec : Codec (Scene R) :=
  .record (Fields.start Scene.mk
    |>.required "id" .text (·.id)
    |>.defaulting "name" .text "" (·.name)
    |>.defaulting "layers" (.list Layer.codec) [] (·.layers)
    |>.defaulting "objects" (.list Object.codec) [] (·.objects)
    |>.defaulting "events" EventNode.listCodec [] (·.events))

end Playfield
