import Playfield.Roster
import Playfield.Supply

/-!
# Behaviors at Work

What the behaviors of an instance do in a tick.

An instance steps on its own. It sees the scene, the input and the time that has
passed, and nothing of the other instances; so a step is a function of the
instance, and the order in which instances step can only show in the order of
what they have spawned. The behaviors of one instance act one after the other,
each on what the one before has left.

A bullet that has outlived itself does not move any more, but behaviors behind
it still act. New instances have no ids of their own yet. They get them when
they are noted in the roster, so that a step does not depend on the supply of
ids.

## Main definitions

* `Stepped`: An instance on its way through a tick.
* `Mover.aim`: The velocity that the keys ask for.
* `approach`: How a velocity gets there.
* `Stepped.act`: What one behavior does.
* `Instance.step`: What all behaviors of an instance do.
* `Roster.step`: What all instances do.
-/

namespace Playfield

variable {R : Type} [Scalar R]

/-- The velocity after a step towards a goal. Speeding up is limited by the goal;
    without a goal the velocity dies away. -/
def approach (v goal acceleration deceleration : R) : R :=
  if Scalar.same goal 0 then
    Scalar.sign v * Scalar.most (Scalar.abs v - deceleration) 0
  else
    let side := Scalar.sign goal
    Scalar.least (Scalar.abs goal) (Scalar.abs (v + side * acceleration)) * side

namespace Mover

/-- One over the square root of two. -/
def diagonalFactor : R := 0.707106781186547524400844362104849039

/-- The side that two keys ask for. The second key wins. -/
def side (first second : Bool) : R := if second then 1 else if first then -1 else 0

/-- The velocity that the keys ask for. Where diagonals are not allowed, the
    horizontal keys win; where they are, they are not faster than other ways. -/
def aim (m : Mover R) (i : Input R) : Point R :=
  let keys := m.controls.keys
  let x : R := side (i.isKeyDown keys.left) (i.isKeyDown keys.right)
  let y : R := side (i.isKeyDown keys.up) (i.isKeyDown keys.down)
  let diagonal := (i.isKeyDown keys.left || i.isKeyDown keys.right) &&
    (i.isKeyDown keys.up || i.isKeyDown keys.down)
  if diagonal then
    if m.diagonals then Point.scale (Point.scale ⟨x, y⟩ m.speed) diagonalFactor
    else Point.scale ⟨x, 0⟩ m.speed
  else Point.scale ⟨x, y⟩ m.speed

/-- The velocity after a tick. -/
def accelerate (m : Mover R) (i : Input R) (dt : R) (v : Point R) : Point R :=
  let goal := m.aim i
  ⟨approach v.x goal.x (m.acceleration * dt) (m.deceleration * dt),
    approach v.y goal.y (m.acceleration * dt) (m.deceleration * dt)⟩

end Mover

/-- An instance on its way through a tick, and what it has asked for. -/
structure Stepped (R : Type) where
  subject : Instance R
  spawns : List (Instance R)
  destroys : List String

namespace Stepped

variable [Planar R]

/-- Moves the instance by a displacement. -/
def move (s : Stepped R) (way : Point R) : Stepped R :=
  { s with subject := s.subject.moveTo (s.subject.object.position + way) }

/-- Sets what a behavior remembers. -/
def remember (s : Stepped R) (k : Behavior.Kind) (v : BehaviorState R) : Stepped R :=
  { s with subject := { s.subject with states := s.subject.states.set k (some v) } }

/-- A mover follows the keys. -/
def drive (m : Mover R) (i : Input R) (dt : R) (v : Point R) (s : Stepped R) : Stepped R :=
  let v := m.accelerate i dt v
  (s.remember .mover (.mover v)).move (v.scale dt)

/-- An instance turns to the pointer. -/
def face (i : Input R) (offset : R) (s : Stepped R) : Stepped R :=
  let d := i.pointer - s.subject.center
  let rotation := Planar.bearing d.y d.x + offset
  { s with subject := { s.subject with object := { s.subject.object with rotation := rotation } } }

/-- A bullet flies ahead until its time is over. -/
def fly (speed lifespan dt elapsed : R) (s : Stepped R) : Stepped R :=
  let elapsed := elapsed + dt
  let s := s.remember .bullet (.bullet elapsed)
  if lifespan < elapsed then { s with destroys := s.destroys ++ [s.subject.id] }
  else s.move ((s.subject.object.heading.scale speed).scale dt)

/-- A turret cools down and fires when it is cold. -/
def aimAndFire (scene : Scene R) (t : Turret R) (dt cooldown : R) (s : Stepped R) : Stepped R :=
  let cooldown := cooldown - dt
  let idle := s.remember .turret (.turret cooldown)
  if t.automatic && decide (cooldown ≤ 0) then
    match scene.template? t.bullet with
    | none => idle
    | some template =>
      { s.remember .turret (.turret (1 / t.fireRate)) with
        spawns := s.spawns ++ [Instance.projectile s.subject.object template t.spawnPoint] }
  else idle

/-- What one behavior does. -/
def act (scene : Scene R) (i : Input R) (dt : R) (s : Stepped R) (b : Behavior R) : Stepped R :=
  match b, s.subject.states.get b.kind with
  | .mover m, some (.mover v) => s.drive m i dt v
  | .facePointer _ offset, _ => s.face i offset
  | .bullet speed _ lifespan, some (.bullet elapsed) => s.fly speed lifespan dt elapsed
  | .turret t, some (.turret cooldown) => s.aimAndFire scene t dt cooldown
  | _, _ => s

end Stepped

namespace Instance

variable [Planar R]

/-- The instance with its health as a variable. -/
def mirrorHealth (i : Instance R) : Instance R :=
  match i.health? with
  | none => i
  | some x =>
    { i with object := { i.object with
        vars := i.object.vars.insert "health" (.number x) } }

/-- What all behaviors of an instance do. -/
def step (scene : Scene R) (input : Input R) (dt : R) (i : Instance R) : Stepped R :=
  i.object.behaviors.foldl (Stepped.act scene input dt) ⟨i.mirrorHealth, [], []⟩

end Instance

/-- What all instances do. -/
def Roster.step [Planar R] (r : Roster R) (scene : Scene R) (input : Input R) (dt : R)
    (supply : Supply) : Roster R × Supply :=
  let steps := r.live.map (Instance.step scene input dt)
  let (spawns, supply) := supply.nameAll (steps.flatMap (·.spawns))
  ({ live := steps.map (·.subject)
     spawns := r.spawns ++ spawns
     destroys := r.destroys ++ steps.flatMap (·.destroys) }, supply)

end Playfield
