import Playfield.Session.Conditions
import Playfield.Text.Fragment

/-!
# Actions in a Session

What actions do.

An action on an object is an effect on one instance. What the effect needs from
elsewhere, a place or a text, is found first (`Session.order`), and what is left
is a change of the instance alone (`Order.result?`). An effect that does not fit
the instance, like a text for a sprite, changes nothing. New instances,
destructions, scene changes and loads are only requested.

An action that names something that is not there does nothing at all. The one
exception is following: the camera finds out by itself that its target is gone.

## Main definitions

* `renderGlobals`: A text with its references replaced.
* `seek`: A step towards a place.
* `Order`: A change of one instance.
* `Session.place?`: Where something is put.
* `Session.affect`: Does an effect to an object.
* `Session.perform`: Does an action.
-/

namespace Playfield

variable {R : Type} [Scalar R]

/-- A text with its references replaced by the variables that they name. A
    reference to a variable that does not exist stays. -/
def renderGlobals [Numeral R] (globals : Variables R) (text : String) : String :=
  String.ofList ((Fragment.split text.toList).flatMap fun f =>
    match f with
    | .literal c => [c]
    | .reference name =>
      match globals.get? (String.ofList name) with
      | some v => v.display.toList
      | none => f.source)

/-- A step of limited length towards a place. Within a distance of one the place
    counts as reached. -/
def seek [Planar R] (start goal : Point R) (reach : R) : Point R :=
  let way := goal - start
  let distance := way.length
  if 1 < distance then start + (way.divide distance).scale (Scalar.least reach distance) else start

/-- A change of one instance. -/
inductive Order (R : Type) where
  | moveBy (way : Point R)
  | moveTo (place : Point R)
  | seek (place : Point R) (reach : R)
  | advance (speed : R)
  | changeVariable (name : String) (op : Arithmetic) (value : Value R)
  | rotate (degrees : R)
  | setPicture (source : String)
  | setVisible (visible : Bool)
  | resize (size : Size R)
  | animate (animation : Option String)
  | setAnimationSpeed (animation : String) (speed : R)
  | damage (amount : R)
  | setHealth (amount : R)
  | setText (text : String)
  | setBar (value : R)
  | setProperty (p : Settable) (value : Value R)

namespace Order

variable [Numeral R]

/-- The object with another appearance. -/
def reshape (o : Object R) (a : Appearance R) : Object R := { o with appearance := a }

/-- The object with a field set, if the value fits the field and the field the
    object. -/
def setProperty? (o : Object R) (value : Value R) : Settable → Option (Object R)
  | .scale => value.toNumber?.map fun x => { o with scale := x }
  | .rotation => value.toNumber?.map fun x => { o with rotation := x }
  | .color =>
    (o.appearance.updateText? fun t => { t with color := value.display }).map (reshape o)
  | .fontSize =>
    value.toNumber?.bind fun x =>
      (o.appearance.updateText? fun t => { t with fontSize := x }).map (reshape o)

/-- The variables with one of them computed anew, if it and the operand are
    numbers. A missing variable counts as zero. -/
def changeVariable? (vs : Variables R) (name : String) (op : Arithmetic) (value : Value R) :
    Option (Variables R) :=
  let current := match vs.get? name with
    | none | some .null => some 0
    | some v => v.storedNumber?
  match current, value.toNumber? with
  | some x, some y => some (vs.insert name (.number (op.apply x y)))
  | _, _ => none

/-- The instance with an animation started or stopped, if it is a sprite. -/
def animate? (i : Instance R) (animation : Option String) : Option (Instance R) :=
  match i.object.appearance with
  | .sprite s =>
    let object := { i.object with appearance := .sprite { s with current := animation } }
    some { i with
      object := object
      cursor := if animation.isSome then Instance.startCursor else i.cursor }
  | _ => none

variable [Planar R]

/-- The changed instance, if the change fits it. The time that has passed limits
    how far a change can move it. -/
def result? (dt : R) (i : Instance R) : Order R → Option (Instance R)
  | .moveBy way => some (i.moveTo (i.object.position + way))
  | .moveTo place => some (i.moveTo place)
  | .seek place speed => some (i.moveTo (Playfield.seek i.object.position place (speed * dt)))
  | .advance speed =>
    some (i.moveTo (i.object.position + (i.object.heading.scale speed).scale dt))
  | .changeVariable name op value =>
    (changeVariable? i.object.vars name op value).map fun vs =>
      { i with object := { i.object with vars := vs } }
  | .rotate degrees => some { i with object := { i.object with rotation := degrees } }
  | .setPicture source =>
    (i.object.appearance.updateSprite? fun s => some { s with still := some source }).map fun a =>
      { i with object := reshape i.object a }
  | .setVisible visible => some { i with object := { i.object with visible := visible } }
  | .resize size => some { i with object := { i.object with size := size } }
  | .animate animation => animate? i animation
  | .setAnimationSpeed animation speed =>
    (i.object.appearance.updateSprite? fun s =>
      s.updateAnimation? animation fun a => { a with speed := speed }).map fun a =>
        { i with object := reshape i.object a }
  | .damage amount => i.health?.map fun x => i.setHealth (x - amount)
  | .setHealth amount => i.health?.map fun _ => i.setHealth amount
  | .setText text =>
    (i.object.appearance.updateText? fun t => { t with text := text }).map fun a =>
      { i with object := reshape i.object a }
  | .setBar value =>
    (i.object.appearance.updateBar? fun b => { b with current := value }).map fun a =>
      { i with object := reshape i.object a }
  | .setProperty p value =>
    (setProperty? i.object value p).map fun o => { i with object := o }

end Order

namespace Session

variable {B : Type} [Numeral R] [Planar R]

/-- Changes the first live instance of an id, if it is there and the change fits
    it. -/
def change? (s : Session R B) (id : String) (dt : R) (order : Order R) : Option (Session R B) :=
  ((s.roster.get? id).bind fun i => order.result? dt i).map fun i =>
    { s with roster := s.roster.modify id fun _ => i }

/-- Changes the first live instance of an id, or does nothing. -/
def change (s : Session R B) (id : String) (dt : R) (order : Order R) : Session R B :=
  (s.change? id dt order).getD s

/-- Where something is put: at a place, or at an offset from a live object. -/
def place? (s : Session R B) (binding : Option Binding) (p : Placement R) : Option (Point R) :=
  match p.type, p.anchor.map (Binding.resolve binding) with
  | .absolute, _ => some p.offset
  | .relative, none => none
  | .relative, some id =>
    if id = "" then none
    else
      (s.roster.get? id).map fun i =>
        let origin := match p.point.filter (· != "") with
          | some point => i.object.worldPoint point
          | none => i.center
        origin + p.offset

/-- Notes a new instance, under an id of its own. -/
def spawn (s : Session R B) (i : Instance R) : Session R B :=
  let (i, supply) := s.supply.name i
  { s with roster := s.roster.queueSpawn i, supply := supply }

/-- Notes the destruction of a live instance. -/
def destroy (s : Session R B) (id : String) : Session R B :=
  if (s.roster.get? id).isSome then { s with roster := s.roster.queueDestroy id } else s

/-- A copy of a template as it leaves a point of a live instance. -/
def shot? (s : Session R B) (id bullet point : String) : Option (Instance R) :=
  match s.scene.template? bullet, s.roster.get? id with
  | some template, some firer => some (Instance.projectile firer.object template point)
  | _, _ => none

/-- Fires a copy of a template from a point of a live instance. -/
def fire (s : Session R B) (id bullet point : String) : Session R B :=
  match s.shot? id bullet point with
  | some i => s.spawn i
  | none => s

/-- Sets the picture of a live instance and requests it. -/
def setPicture (s : Session R B) (id : String) (dt : R) (source : String) : Session R B :=
  match s.change? id dt (.setPicture source) with
  | some s => s.request .image source
  | none => s

/-- The change of one instance that an effect amounts to, if it is one and what
    it needs is there. -/
def order? (s : Session R B) (binding : Option Binding) : Effect R → Option (Order R)
  | .moveBy offset => some (.moveBy offset)
  | .changeVariable name op value => some (.changeVariable name op value)
  | .place p => (s.place? binding p).map .moveTo
  | .setRotation degrees => some (.rotate degrees)
  | .setVisible visible => some (.setVisible visible)
  | .setSize size => some (.resize size)
  | .playAnimation name => some (.animate (some name))
  | .stopAnimation => some (.animate none)
  | .moveTo goal speed => some (.seek goal speed)
  | .setAnimationSpeed name speed => some (.setAnimationSpeed name speed)
  | .moveTowards goal speed =>
    (s.roster.get? (Binding.resolve binding goal)).map fun i => .seek i.object.position speed
  | .moveAhead speed => some (.advance speed)
  | .damage amount => some (.damage amount)
  | .setHealth amount => some (.setHealth amount)
  | .setText text => some (.setText (renderGlobals s.globals text))
  | .setBar value => some (.setBar value)
  | .setProperty p value => some (.setProperty p value)
  | .destroy | .setSprite _ | .fire _ _ => none

/-- Does an effect to the object of an id. -/
def affect (s : Session R B) (binding : Option Binding) (dt : R) (id : String) (e : Effect R) :
    Session R B :=
  match e with
  | .destroy => s.destroy id
  | .setSprite source => s.setPicture id dt source
  | .fire bullet point => s.fire id bullet point
  | e =>
    match s.order? binding e with
    | some order => s.change id dt order
    | none => s

/-- Sets the picture of a new instance and requests it, unless it is empty or the
    instance is not a sprite. -/
def withPicture (s : Session R B) (source : String) (i : Instance R) : Session R B × Instance R :=
  if source = "" then (s, i)
  else
    match i.object.appearance.updateSprite? fun p => some { p with still := some source } with
    | none => (s, i)
    | some a => (s.request .image source, { i with object := { i.object with appearance := a } })

/-- A copy of a template at the place and on the layer of a creation, if there is a
    template and a place for it. -/
def creature? (s : Session R B) (binding : Option Binding) (c : Creation R) :
    Option (Instance R) :=
  match s.scene.template? c.name, s.place? binding c.placement with
  | some template, some place =>
    let i := (Instance.ofTemplate template).moveTo place
    let layer := if c.layer = "" then i.object.layer else c.layer
    some { i with object := { i.object with layer := layer } }
  | _, _ => none

/-- Creates an object, if there is a template and a place for it. -/
def create (s : Session R B) (binding : Option Binding) (c : Creation R) : Session R B :=
  match s.creature? binding c with
  | some i =>
    let (s, i) := s.withPicture c.sprite i
    s.spawn i
  | none => s

/-- The smallest box around the live objects of some ids. -/
def area? (s : Session R B) (binding : Option Binding) (ids : List String) : Option (Box R) :=
  match ids.filterMap fun id => s.roster.get? (Binding.resolve binding id) with
  | [] => none
  | i :: is => some (is.foldl (fun b i => b.hull i.object.box) i.object.box)

/-- Steers the camera. -/
def steer (s : Session R B) (binding : Option Binding) (c : CameraCommand R) : Session R B :=
  let camera := match c with
    | .follow target => s.camera.follow (target.map (Binding.resolve binding))
    | .moveTo goal => s.camera.moveTo goal
    | .shake intensity duration => s.camera.startShake intensity duration
    | .zoom amount op => s.camera.changeZoom op amount
    | .fit ids padding =>
      match s.area? binding ids with
      | some area => s.camera.fit area padding s.config.viewport
      | none => s.camera
    | .glide goal duration => s.camera.glideTo goal duration
    | .confine bounds => s.camera.confine (some bounds)
    | .release => s.camera.confine none
  { s with camera := camera }

/-- Starts and stops sounds. -/
def sound [AudioOutput R B] (s : Session R B) (c : SoundCommand R) : Session R B :=
  let mixer := match c with
    | .play name => s.mixer.play name (s.clip? name)
    | .stop name => s.mixer.stop name
    | .music name => s.mixer.playMusic name (s.clip? name)
    | .stopMusic => s.mixer.stopMusic
    | .volume v => s.mixer.setVolume (Scalar.clamp v 0 1)
  { s with mixer := mixer }

/-- Computes a global variable anew, if it and the operand are numbers. -/
def changeGlobal (s : Session R B) (name : String) (op : Arithmetic) (value : Value R) :
    Session R B :=
  match (s.globals.get? name).bind Value.storedNumber?, value.toNumber? with
  | some x, some y => { s with globals := s.globals.insert name (.number (op.apply x y)) }
  | _, _ => s

variable [AudioOutput R B] [DecidableEq R]

/-- Does an action. -/
def perform (binding : Option Binding) (dt : R) (s : Session R B) (a : Action R) : Session R B :=
  match a.kind with
  | .object target e => s.affect binding dt (Binding.resolve binding target) e
  | .create c => s.create binding c
  | .camera c => s.steer binding c
  | .sound c => s.sound c
  | .setGlobal name value => { s with globals := s.globals.insert name value.coerced }
  | .changeGlobal name op value => s.changeGlobal name op value
  | .changeScene scene => { s with pendingScene := some scene }
  | .showPopup p => { s with popup := some p }
  | .startTimer name => { s with timers := s.timers.insert name s.clock }
  | .save slot => (s.save slot).1
  | .load slot => { s with pendingLoad := some slot }
  | .clearSave slot => (s.clearSave slot).1

end Session

end Playfield
