import Playfield.Object.Basic

/-!
# Instances

The copies of templates that live in a running scene.

An instance is an object that changes, together with what its documents do not
know: where its animation stands, and what its behaviors remember. Behaviors are
configuration, so what they remember is kept beside them, in one slot for each
kind of behavior. Two behaviors of one kind share a slot.

A save can hold anything in a slot, also the state of another kind. Such a state
is kept and never used.

## Main definitions

* `BehaviorState`: What a behavior remembers.
* `BehaviorStates`: One slot for each kind of behavior.
* `Instance`: An object, its animation cursor and its behavior states.
* `Instance.ofTemplate`: A fresh copy of a template.
* `Instance.ensureStates`: Fills the slots that are missing.

## Theorems

* `BehaviorStates.get_set`: Setting a slot changes that slot only.
-/

namespace Playfield

/-- What a behavior remembers. -/
inductive BehaviorState (R : Type) where
  | mover (velocity : Point R)
  | bullet (elapsed : R)
  | turret (cooldown : R)
  | health (current : R)
  deriving DecidableEq

/-- What a behavior remembers at first, if it remembers anything. -/
def BehaviorState.fresh? {R : Type} [Scalar R] : Behavior R → Option (BehaviorState R)
  | .mover _ => some (.mover .zero)
  | .bullet _ _ _ => some (.bullet 0)
  | .turret _ => some (.turret 0)
  | .health most _ => some (.health most)
  | .facePointer _ _ | .button => none

/-- One slot for each kind of behavior. -/
structure BehaviorStates (R : Type) where
  mover : Option (BehaviorState R)
  bullet : Option (BehaviorState R)
  turret : Option (BehaviorState R)
  facePointer : Option (BehaviorState R)
  health : Option (BehaviorState R)
  button : Option (BehaviorState R)
  deriving DecidableEq

namespace BehaviorStates

variable {R : Type}

/-- No slot is filled. -/
def empty : BehaviorStates R := ⟨none, none, none, none, none, none⟩

/-- The slot of a kind. -/
def get (s : BehaviorStates R) : Behavior.Kind → Option (BehaviorState R)
  | .mover => s.mover
  | .bullet => s.bullet
  | .turret => s.turret
  | .facePointer => s.facePointer
  | .health => s.health
  | .button => s.button

/-- The slots with one of them changed. -/
def set (s : BehaviorStates R) (k : Behavior.Kind) (v : Option (BehaviorState R)) :
    BehaviorStates R :=
  match k with
  | .mover => { s with mover := v }
  | .bullet => { s with bullet := v }
  | .turret => { s with turret := v }
  | .facePointer => { s with facePointer := v }
  | .health => { s with health := v }
  | .button => { s with button := v }

theorem get_set (s : BehaviorStates R) (k l : Behavior.Kind) (v : Option (BehaviorState R)) :
    (s.set k v).get l = if k = l then v else s.get l := by
  cases k <;> cases l <;> rfl

theorem ext_get {s t : BehaviorStates R} (h : ∀ k, s.get k = t.get k) : s = t := by
  have hm := h .mover
  have hb := h .bullet
  have ht := h .turret
  have hf := h .facePointer
  have hh := h .health
  have hu := h .button
  cases s
  cases t
  simp_all [get]

/-- The filled slots with their kinds, in the order of the kinds. -/
def toList (s : BehaviorStates R) : List (Behavior.Kind × BehaviorState R) :=
  Behavior.Kind.all.filterMap fun k => (s.get k).map (k, ·)

/-- The slots of a list of states, of which the last of a kind counts. -/
def ofList (es : List (Behavior.Kind × BehaviorState R)) : BehaviorStates R :=
  es.foldl (fun s e => s.set e.1 (some e.2)) empty

variable [Scalar R]

/-- Puts a fresh state into the slot of a behavior. -/
def start (s : BehaviorStates R) (b : Behavior R) : BehaviorStates R :=
  match BehaviorState.fresh? b with
  | none => s
  | some v => s.set b.kind (some v)

/-- Puts a fresh state into the slot of a behavior unless it is filled. -/
def ensure (s : BehaviorStates R) (b : Behavior R) : BehaviorStates R :=
  if (s.get b.kind).isSome then s else s.start b

end BehaviorStates

/-- Where an animation stands. -/
structure Cursor (R : Type) where
  frame : UInt64
  /-- How long the frame has been shown. -/
  time : R
  deriving DecidableEq

/-- An object that lives in a running scene. -/
structure Instance (R : Type) where
  object : Object R
  cursor : Cursor R
  states : BehaviorStates R
  deriving DecidableEq

namespace Instance

variable {R : Type}

/-- The id of an instance. -/
def id (i : Instance R) : String := i.object.id

/-- The name of an instance, which it shares with the others of its group. -/
def name (i : Instance R) : String := i.object.name

/-- How much health is left, if there is any health. -/
def health? (i : Instance R) : Option R :=
  match i.states.health with
  | some (.health x) => some x
  | _ => none

/-- Sets how much health is left. -/
def setHealth (i : Instance R) (x : R) : Instance R :=
  { i with states := { i.states with health := some (.health x) } }

/-- The instance under a generated id. -/
def named (i : Instance R) (suffix : String) : Instance R :=
  { i with object := { i.object with id := "runtime_" ++ i.name ++ "_" ++ suffix } }

/-- The instance at another place. -/
def moveTo (i : Instance R) (p : Point R) : Instance R :=
  { i with object := { i.object with position := p } }

variable [Scalar R]

/-- An animation at its beginning. -/
def startCursor : Cursor R := ⟨0, 0⟩

/-- A fresh copy of a template. -/
def ofTemplate (o : Object R) : Instance R :=
  ⟨o, startCursor, o.behaviors.foldl BehaviorStates.start .empty⟩

/-- The instance with a fresh state in every slot that its behaviors need and
    that is missing. -/
def ensureStates (i : Instance R) : Instance R :=
  { i with states := i.object.behaviors.foldl BehaviorStates.ensure i.states }

/-- The middle of the instance. -/
def center (i : Instance R) : Point R := i.object.center

/-- A copy of a template as it leaves a gun: at a point of the firing object and
    turned as that object is. -/
def projectile [Planar R] (firer template : Object R) (point : String) : Instance R :=
  let bullet := ofTemplate template
  { bullet with object := { bullet.object with
      position := firer.worldPoint point - bullet.object.scaledSize.half
      rotation := firer.rotation } }

end Instance

end Playfield
