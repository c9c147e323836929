import Playfield.Session.Actions
import Playfield.Simulation.Animate
import Playfield.Simulation.Bars
import Playfield.Simulation.Step

/-!
# Ticks

How a session goes on.

A tick has four parts. First everything steps that moves by itself: behaviors,
bars and animations. Then the events run, in order, each with what those before
it have done. Then the roster is brought in line with what has been requested:
a load comes first, and if there is none or it fails, a change of scene, and if
there is none or there is no such scene, the spawns and destructions. At last the
camera moves, unless a load has just put it where it should be.

An open message holds up all of this but the input. Time that is not a positive
number does not pass.

A tick comes to no end if an animation has a frame behind the last word. Nothing
is known of a session after that. The one that is given back has only the tick
counted, so that what holds of a session before its calls can be said of it.

An event with a condition that goes through a group runs once for each member
that lives when the event is reached.

## Main definitions

* `Event.group?`: The id of the group that an event goes through.
* `Session.runEvent`, `Session.runEvents`: The events of a tick.
* `Session.reconcile`: The end of the events.
* `Session.conclude`: What follows the events.
* `Session.simulate?`: What precedes them.
* `Session.tick`: A tick, with its outcome.

## Theorems

* `Session.tick_closed`: A closed session does not change.
* `Session.tick_popup`: With an open message only input and the count of ticks go
  on.
-/

namespace Playfield

/-- What a tick has done. -/
inductive Outcome where
  | advanced
  | paused
  | sceneChanged (scene : String)
  | loaded (slot : String)
  | closed
  /-- It has come to no end, because the number of a frame is not a word. -/
  | overflowed
  deriving DecidableEq

variable {R : Type} [Scalar R]

/-- The id of the group that an event goes through. -/
def Event.group? (e : Event R) : Option String :=
  e.conditions.findSome? fun c =>
    match c.kind with
    | .forEach id => some id
    | _ => none

/-- The time that passes. -/
def elapsedTime (dt : R) : R := if Scalar.isFinite dt && decide (0 < dt) then dt else 0

namespace Session

variable {B : Type}

/-- Ends the tick for the input. -/
def rotateInput (s : Session R B) : Session R B := { s with input := s.input.rotate }

/-- Moves the camera. -/
def moveCamera (dt : R) (s : Session R B) : Session R B :=
  let centerOf (id : String) := (s.roster.get? id).map (·.center)
  { s with camera := s.camera.update dt s.config.viewport s.config.smoothing centerOf }

/-- Changes the scene if that is requested and there is such a scene, or else lets
    spawns and destructions take effect. -/
def settle (s : Session R B) : Session R B × Outcome :=
  let rest := { s with pendingScene := none }
  match s.pendingScene.bind fun id => (s.project.scene? id).map (id, ·) with
  | some (id, scene) => (rest.activate scene, .sceneChanged id)
  | none => ({ rest with roster := rest.roster.applyPending }, .advanced)

variable [Numeral R]

/-- Brings the session in line with what the events have requested. -/
def reconcile (s : Session R B) : Session R B × Outcome :=
  let rest := { s with pendingLoad := none }
  match s.pendingLoad with
  | none => rest.settle
  | some slot =>
    match rest.load slot with
    | (s, .ok ()) => (s, .loaded slot)
    | (s, .error _) => s.settle

/-- What follows the events. -/
def conclude (dt : R) (s : Session R B) : Session R B × Outcome :=
  let (s, outcome) := s.reconcile
  let s := match outcome with
    | .loaded _ => s
    | _ => moveCamera dt s
  (s.rotateInput, outcome)

variable [Planar R] [AudioOutput R B]

/-- Lets everything step that moves by itself. -/
def simulate? (dt : R) (s : Session R B) : Option (Session R B) :=
  let (roster, supply) := s.roster.step s.scene s.input dt s.supply
  ((roster.syncBars s.globals).animate? dt).map fun roster => { s with
    clock := s.clock + dt
    mixer := s.mixer.reap
    camera := s.camera.beginTick
    roster := roster
    supply := supply }

variable [DecidableEq R]

/-- Runs an event under a binding. -/
def runBound (e : Event R) (dt : R) (s : Session R B) (binding : Option Binding) : Session R B :=
  match holdAll e.id binding e.conditions s with
  | (true, s) => e.actions.foldl (perform binding dt) s
  | (false, s) => s

/-- Runs an event, for each member of its group if it goes through one. -/
def runEvent (dt : R) (s : Session R B) (e : Event R) : Session R B :=
  match e.group? with
  | none => runBound e dt s none
  | some id => (s.members id).foldl (fun s i => runBound e dt s (some ⟨id, i.id⟩)) s

/-- Runs the active events of the scene. -/
def runEvents (dt : R) (s : Session R B) : Session R B :=
  s.scene.activeEvents.foldl (runEvent dt) s

/-- A tick of an open session without a message. -/
def play (dt : R) (s : Session R B) : Session R B × Outcome :=
  match simulate? dt s with
  | some s => conclude dt (runEvents dt s)
  | none => (s, .overflowed)

/-- A tick. -/
def tick (s : Session R B) (dt : R) : Session R B × Outcome :=
  if s.closed then (s, .closed)
  else
    let s := { s with tickCount := s.tickCount + 1 }
    if s.popup.isSome then (s.rotateInput, .paused) else s.play (elapsedTime dt)

theorem tick_closed (s : Session R B) (dt : R) (h : s.closed = true) :
    s.tick dt = (s, .closed) := by
  simp [tick, h]

theorem tick_popup (s : Session R B) (dt : R) (hc : s.closed = false) (hp : s.popup.isSome) :
    s.tick dt = ({ s with tickCount := s.tickCount + 1, input := s.input.rotate }, .paused) := by
  simp [tick, hc, hp, rotateInput]

end Session

end Playfield
