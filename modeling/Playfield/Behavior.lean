import Playfield.Json.Codec

/-!
# Behaviors

What an object can do by itself: move under the keys, fly, shoot, turn, have
health, be a button.

A behavior is configuration and never changes. What changes while the game runs
(a speed, a cooldown) is kept apart from it, one state for each kind of
behavior, see `Playfield.Instance`. So a kind is a type of its own.

## Main definitions

* `Behavior`: A capability with its configuration.
* `Behavior.Kind`: Which capability it is.
* `ControlScheme.keys`: The keys that steer a mover.
* `Behavior.codec`: Behaviors in documents.

## Theorems

* `Behavior.Kind.mem_all`: The list of kinds is complete.
-/

namespace Playfield

/-- Which keys steer a mover. -/
inductive ControlScheme where
  | wasd
  | arrows
  deriving DecidableEq

namespace ControlScheme

/-- The names of four keys. -/
structure Keys where
  up : String
  down : String
  left : String
  right : String

/-- The keys of a scheme. -/
def keys : ControlScheme → Keys
  | .wasd => ⟨"w", "s", "a", "d"⟩
  | .arrows => ⟨"ArrowUp", "ArrowDown", "ArrowLeft", "ArrowRight"⟩

/-- Schemes in documents. -/
def codec : Codec ControlScheme :=
  .named [("wasd", .wasd), ("arrows", .arrows)] fun
    | .wasd => "wasd"
    | .arrows => "arrows"

end ControlScheme

/-- A mover steered from above by four keys. -/
structure Mover (R : Type) where
  speed : R
  acceleration : R
  deceleration : R
  diagonals : Bool
  controls : ControlScheme
  deriving DecidableEq

/-- A gun that fires copies of a named object. -/
structure Turret (R : Type) where
  fireRate : R
  bullet : String
  spawnPoint : String
  automatic : Bool
  deriving DecidableEq

/-- A capability of an object with its configuration. -/
inductive Behavior (R : Type) where
  | mover (m : Mover R)
  | bullet (speed : R) (destroyOnCollision : Bool) (lifespan : R)
  | turret (t : Turret R)
  | facePointer (rotationSpeed offset : R)
  | health (most start : R)
  | button
  deriving DecidableEq

namespace Behavior

/-- Which capability a behavior is, in the order in which states are saved. -/
inductive Kind where
  | mover
  | bullet
  | turret
  | facePointer
  | health
  | button
  deriving DecidableEq

namespace Kind

/-- Every kind, in order. -/
def all : List Kind := [.mover, .bullet, .turret, .facePointer, .health, .button]

theorem mem_all (k : Kind) : k ∈ all := by cases k <;> simp [all]

/-- The name of a kind in documents. -/
def name : Kind → String
  | .mover => "top_down_movement"
  | .bullet => "bullet"
  | .turret => "turret"
  | .facePointer => "rotate_towards_mouse"
  | .health => "health"
  | .button => "button"

/-- The kind of a name. -/
def ofName? (s : String) : Option Kind := all.find? (fun k => k.name == s)

/-- Kinds in documents. -/
def codec : Codec Kind := .named (all.map fun k => (k.name, k)) name

end Kind

/-- The kind of a behavior. -/
def kind {R : Type} : Behavior R → Kind
  | .mover _ => .mover
  | .bullet _ _ _ => .bullet
  | .turret _ => .turret
  | .facePointer _ _ => .facePointer
  | .health _ _ => .health
  | .button => .button

section Documents

variable {R : Type} [Scalar R] [Numeral R]

/-- The fields of a mover. -/
def moverFields : Fields (Mover R) (Mover R) :=
  Fields.start Mover.mk
    |>.required "speed" .number (·.speed)
    |>.defaulting "acceleration" .number 0 (·.acceleration)
    |>.defaulting "deceleration" .number 0 (·.deceleration)
    |>.defaulting "allowDiagonals" .bool true (·.diagonals)
    |>.defaulting "controlScheme" ControlScheme.codec .wasd (·.controls)

/-- The fields of a turret. -/
def turretFields : Fields (Turret R) (Turret R) :=
  Fields.start Turret.mk
    |>.required "fireRate" .number (·.fireRate)
    |>.required "bulletObjectName" .text (·.bullet)
    |>.defaulting "spawnPoint" .text "" (·.spawnPoint)
    |>.defaulting "autoFire" .bool false (·.automatic)

/-- The forms of a behavior. -/
def variants : List (Variant (Behavior R)) :=
  [.of "top_down_movement"
      (fun | .mover m => some m | _ => none)
      (moverFields.map .mover),
    .of "bullet"
      (fun | .bullet s d l => some (s, d, l) | _ => none)
      (Fields.start Behavior.bullet
        |>.required "speed" .number (·.1)
        |>.defaulting "destroyOnCollision" .bool false (·.2.1)
        |>.required "lifespan" .number (·.2.2)),
    .of "turret"
      (fun | .turret t => some t | _ => none)
      (turretFields.map .turret),
    .of "rotate_towards_mouse"
      (fun | .facePointer r o => some (r, o) | _ => none)
      (Fields.start Behavior.facePointer
        |>.defaulting "rotationSpeed" .number 0 (·.1)
        |>.defaulting "offset" .number 0 (·.2)),
    .of "health"
      (fun | .health m c => some (m, c) | _ => none)
      (Fields.start Behavior.health
        |>.required "maxHealth" .number (·.1)
        |>.defaulting "currentHealth" .number 0 (·.2)),
    .of "button"
      (fun | .button => some () | _ => none)
      (Fields.start Behavior.button)]

/-- Behaviors in documents. -/
def codec : Codec (Behavior R) := .tagged variants

end Documents

end Behavior

end Playfield
