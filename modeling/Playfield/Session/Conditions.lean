import Playfield.Session.Save

/-!
# Conditions in a Session

When a condition holds.

An event that goes through a group of objects runs with a binding: the id that
its author wrote stands for one member of the group after the other. The binding
is resolved wherever an id is looked up. Collisions are the exception that makes
the rule useful. There an id stands for its whole group, unless it is the bound
one, which stands for the bound instance alone; so "each bullet hits a rock" is
written with the ids of any bullet and any rock.

A group is known by the name that its members share. An id names the group of
the live instance that has it, and once there is none, that of the template.

Only two kinds of conditions remember anything, and only in the session's memory.
So evaluating a condition yields a truth value and a memory.

## Main definitions

* `Binding`: An id and what it stands for.
* `Session.group?`, `Session.members`: Groups.
* `Session.collides`: Overlap of two sides.
* `Session.test`: A question about one object.
* `Session.holds`: Whether a condition holds, and the memory afterwards.
-/

namespace Playfield

/-- An id and the id that it stands for. -/
structure Binding where
  id : String
  target : String
  deriving DecidableEq

namespace Binding

/-- What an id stands for. -/
def resolve (b : Option Binding) (id : String) : String :=
  match b with
  | some b => if b.id = id then b.target else id
  | none => id

/-- Whether an id is bound. -/
def binds (b : Option Binding) (id : String) : Bool :=
  match b with
  | some b => b.id == id
  | none => false

end Binding

namespace Session

variable {R B : Type} [Scalar R] [Numeral R]

/-- The name of the group of an id. -/
def group? (s : Session R B) (id : String) : Option String :=
  ((s.roster.get? id).map (·.name)).or ((s.scene.object? id).map (·.name))

/-- The live instances of the group of an id. -/
def members (s : Session R B) (id : String) : List (Instance R) :=
  match s.group? id with
  | some name => s.roster.withName name
  | none => []

/-- The instances that a side of a collision stands for. -/
def side (s : Session R B) (binding : Option Binding) (id : String) : List (Instance R) :=
  if Binding.binds binding id then (s.roster.get? (Binding.resolve binding id)).toList
  else s.members id

/-- Two different visible instances overlap. -/
def touch (i j : Instance R) : Bool :=
  i.id != j.id && i.object.visible && j.object.visible && i.object.box.overlaps j.object.box

/-- Some instance of one side overlaps some instance of the other. -/
def collides (s : Session R B) (binding : Option Binding) (id₁ id₂ : String) : Bool :=
  (s.side binding id₁).any fun i => (s.side binding id₂).any fun j => touch i j

/-- The pointer is on an instance. -/
def isUnderPointer (s : Session R B) (i : Instance R) : Bool :=
  i.object.box.contains s.input.pointer

/-- The current value of a field, and the value that it is compared with. Being
    visible is compared with being true, which a value is only if it says so. -/
def propertyValue (o : Object R) (p : Property) (value : Value R) : Value R × Value R :=
  match p with
  | .positionX => (.number o.position.x, value)
  | .positionY => (.number o.position.y, value)
  | .rotation => (.number o.rotation, value)
  | .width => (.number o.size.width, value)
  | .height => (.number o.size.height, value)
  | .scale => (.number o.effectiveScale, value)
  | .visible => (.bool o.visible, .bool (value.toBool?.getD false))

/-- A question about one object, which may not be there. -/
def test (s : Session R B) (i : Option (Instance R)) : ObjectTest R → Bool
  | .variable name op value =>
    i.any fun i => op.holds ((i.object.vars.get? name).getD .null) value
  | .property p op value =>
    i.any fun i =>
      let (current, expected) := propertyValue i.object p value
      op.holds current expected
  | .underPointer invert =>
    i.any fun i => i.object.visible && (s.isUnderPointer i != invert)
  | .playing animation invert =>
    ((i.bind (·.object.appearance.sprite?)).any fun p => p.current == some animation) != invert
  | .health op value => (i.bind (·.health?)).any fun x => op.holdsNumber x value
  | .pressed =>
    s.input.isButtonDown .left && i.any fun i => i.object.visible && s.isUnderPointer i

variable [Planar R]

/-- Whether a condition of an event holds, and the memory afterwards. -/
def holds (s : Session R B) (event : String) (binding : Option Binding) (c : Condition R) :
    Bool × Memory R :=
  let find (id : String) := s.roster.get? (Binding.resolve binding id)
  match c.kind with
  | .keyDown key => (s.input.isKeyDown key, s.memory)
  | .keyReleased key => (s.input.keyReleased key, s.memory)
  -- whichever button the author has named
  | .buttonDown _ => (s.input.isButtonDown .left, s.memory)
  | .buttonReleased _ => (s.input.buttonReleased .left, s.memory)
  | .object id t => (s.test (find id) t, s.memory)
  | .clicked id => (s.input.clicked == some (Binding.resolve binding id), s.memory)
  | .forEach _ => (true, s.memory)
  | .groupSize id op size =>
    ((s.group? (Binding.resolve binding id)).any fun name =>
      op.holdsNumber (Scalar.ofNat (s.roster.withName name).length) size, s.memory)
  | .collision id₁ id₂ => (s.collides binding id₁ id₂, s.memory)
  | .distance id₁ id₂ op distance =>
    match find id₁, find id₂ with
    | some i, some j => (op.holdsNumber (i.center.distance j.center) distance, s.memory)
    | _, _ => (false, s.memory)
  | .timer name seconds =>
    ((s.timers.get? name).any fun start => decide (seconds ≤ s.clock - start), s.memory)
  | .every seconds =>
    let last := (s.memory.lastHeld.get? c.id).getD s.memory.since
    if seconds ≤ s.clock - last then
      (true, { s.memory with lastHeld := s.memory.lastHeld.insert c.id s.clock })
    else (false, s.memory)
  | .global name op value =>
    (op.holds ((s.globals.get? name).getD .null) value, s.memory)
  | .sceneStart =>
    (!s.memory.started.contains event, { s.memory with started := s.memory.started.add event })
  | .saveExists slot invert => (s.saveExists slot != invert, s.memory)
  | .cameraMoving => (s.camera.view.isMoving, s.memory)
  | .cameraInside origin size => (s.camera.isInside (.ofOrigin origin size), s.memory)
  | .soundPlaying sound invert => (s.mixer.isPlaying sound != invert, s.memory)

/-- Whether all conditions hold, looked at in order up to the first that does
    not. The memory goes from one to the next. -/
def holdAll (event : String) (binding : Option Binding) :
    List (Condition R) → Session R B → Bool × Session R B
  | [], s => (true, s)
  | c :: cs, s =>
    match s.holds event binding c with
    | (true, m) => holdAll event binding cs { s with memory := m }
    | (false, m) => (false, { s with memory := m })

end Session

end Playfield
