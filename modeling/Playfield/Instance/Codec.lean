import Playfield.Instance.Basic
import Playfield.Object.Codec

/-!
# Instances in Documents

How a save holds the instances of a scene.

The states of the behaviors are an object whose names are the kinds.

## Main definitions

* `BehaviorState.codec`, `BehaviorStates.codec`: States of behaviors.
* `Instance.codec`: Instances.
-/

namespace Playfield

variable {R : Type} [Scalar R] [Numeral R]

/-- The forms of a behavior state. -/
def BehaviorState.variants : List (Variant (BehaviorState R)) :=
  [.of "top_down_movement"
      (fun | .mover v => some v | _ => none)
      (Fields.start (fun x y => BehaviorState.mover ⟨x, y⟩)
        |>.required "vx" .number (·.x)
        |>.required "vy" .number (·.y)),
    .of "bullet"
      (fun | .bullet t => some t | _ => none)
      (Fields.start BehaviorState.bullet |>.required "elapsed" .number (fun t => t)),
    .of "turret"
      (fun | .turret t => some t | _ => none)
      (Fields.start BehaviorState.turret |>.required "cooldown" .number (fun t => t)),
    .of "health"
      (fun | .health x => some x | _ => none)
      (Fields.start BehaviorState.health |>.required "current" .number (fun x => x))]

/-- Behavior states in documents. -/
def BehaviorState.codec : Codec (BehaviorState R) := .tagged variants

namespace BehaviorStates

/-- Reads every slot, up to the first that is not read. A name is looked up before
    its value is read. -/
def readSlots (src : Source) :
    Json.Members → Except ReadError (List (Behavior.Kind × BehaviorState R))
  | [] => .ok []
  | (name, j) :: ms =>
    match j, Behavior.Kind.ofName? name with
    | .unclosed f _, _ => .error (.broken f)
    | .misnamed _, _ => .error (.broken .malformed)
    | _, none => .error .mismatch
    | j, some k =>
      match BehaviorState.codec.read src j with
      | .error e => .error e
      | .ok s =>
        match readSlots src ms with
        | .ok es => .ok ((k, s) :: es)
        | .error e => .error e

/-- Slots in documents. -/
def codec : Codec (BehaviorStates R) where
  write s := .object (s.toList.map fun e => (e.1.name, BehaviorState.codec.write e.2))
  read
    | src, .object ms =>
      match readSlots src ms with
      | .ok es => .ok (ofList es)
      | .error e => .error e
    | _, j => .error (.unexpected j)

end BehaviorStates

/-- Animation cursors in documents. -/
def Cursor.codec : Codec (Cursor R) :=
  .record (Fields.start Cursor.mk
    |>.required "frameIndex" .count (·.frame)
    |>.required "frameTime" .number (·.time))

/-- Instances in documents. -/
def Instance.codec : Codec (Instance R) :=
  .record (Fields.start Instance.mk
    |>.required "object" Object.codec (·.object)
    |>.defaulting "animation" Cursor.codec startCursor (·.cursor)
    |>.defaulting "behaviorState" BehaviorStates.codec .empty (·.states))

end Playfield
