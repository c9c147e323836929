import Playfield.Instance.Basic
import Playfield.Scene

/-!
# The Roster

The live instances of a scene, in order, and the changes that wait.

While the events of a tick run, the list of instances must not change under
them: an event that goes through a group has to meet each member once. So new
instances and destructions are only noted, and take effect together when all
events have run.

Ids need not be unique in a badly made document. Every look-up by id means the
first instance that has it; a destruction means all of them. Destructions can be
noted in any order and more than once. They are put in order before they take
effect, so that each live instance is looked up among them in few steps.

## Main definitions

* `Roster`: Live instances, waiting spawns and waiting destructions.
* `Roster.get?`, `Roster.withName`: Look-ups.
* `Roster.modify`: Changes the first instance of an id.
* `Roster.doomed`: The waiting destructions in order.
* `Roster.applyPending`: Lets what waits take effect.

## Theorems

* `Roster.mem_modifyFirst`: What is in a list after a change.
* `Roster.survivors_sublist`: Nobody is born by a destruction.
* `Roster.live_applyPending`: What is live afterwards.
-/

namespace Playfield

/-- Live instances and the changes that wait. -/
structure Roster (R : Type) where
  live : List (Instance R)
  spawns : List (Instance R)
  destroys : List String

namespace Roster

variable {R : Type}

/-- Nothing lives and nothing waits. -/
def empty : Roster R := ⟨[], [], []⟩

/-- Other live instances. What waits is dropped. -/
def ofLive (is : List (Instance R)) : Roster R := ⟨is, [], []⟩

/-- Fresh copies of the objects of a scene. -/
def ofScene [Scalar R] (s : Scene R) : Roster R := ofLive (s.objects.map Instance.ofTemplate)

/-- The first live instance of an id. -/
def get? (r : Roster R) (id : String) : Option (Instance R) := r.live.find? (fun i => i.id == id)

/-- The place of the first live instance of an id. -/
def index? (r : Roster R) (id : String) : Option Nat := r.live.findIdx? (fun i => i.id == id)

/-- The live instances of a name. -/
def withName (r : Roster R) (name : String) : List (Instance R) :=
  r.live.filter (fun i => i.name == name)

/-- Changes the first instance of an id in a list. -/
def modifyFirst (id : String) (f : Instance R → Instance R) : List (Instance R) → List (Instance R)
  | [] => []
  | i :: is => if i.id == id then f i :: is else i :: modifyFirst id f is

/-- Changes the first live instance of an id. -/
def modify (r : Roster R) (id : String) (f : Instance R → Instance R) : Roster R :=
  { r with live := modifyFirst id f r.live }

/-- An instance of the changed list has been there before, or it is a changed one. -/
theorem mem_modifyFirst {id : String} {f : Instance R → Instance R} {i : Instance R}
    {is : List (Instance R)} (h : i ∈ modifyFirst id f is) : i ∈ is ∨ ∃ j ∈ is, i = f j := by
  induction is with
  | nil => cases h
  | cons k is ih =>
    unfold modifyFirst at h
    split at h
    · rcases List.mem_cons.1 h with hi | hi
      · exact .inr ⟨k, List.mem_cons_self, hi⟩
      · exact .inl (List.mem_cons_of_mem k hi)
    · rcases List.mem_cons.1 h with rfl | hi
      · exact .inl List.mem_cons_self
      · rcases ih hi with hi | ⟨j, hj, hij⟩
        · exact .inl (List.mem_cons_of_mem k hi)
        · exact .inr ⟨j, List.mem_cons_of_mem k hj, hij⟩

/-- Notes a new instance. -/
def queueSpawn (r : Roster R) (i : Instance R) : Roster R := { r with spawns := r.spawns ++ [i] }

/-- Notes a destruction. -/
def queueDestroy (r : Roster R) (id : String) : Roster R :=
  { r with destroys := r.destroys ++ [id] }

/-- The ids that are to be destroyed, in order and each of them once. -/
def doomed (r : Roster R) : Array String :=
  (r.destroys.mergeSort fun a b => !decide (b < a)).eraseReps.toArray

/-- Whether an id is in an ordered table. -/
def isListed (table : Array String) (id : String) : Bool :=
  table.binSearchContains id fun a b => decide (a < b)

/-- The live instances that are not to be destroyed. -/
def survivors (r : Roster R) : List (Instance R) :=
  if r.destroys.isEmpty then r.live
  else
    let table := r.doomed
    r.live.filter (fun i => !isListed table i.id)

theorem survivors_sublist (r : Roster R) : r.survivors.Sublist r.live := by
  unfold survivors
  split
  · exact List.Sublist.refl _
  · exact List.filter_sublist

/-- Lets what waits take effect: destructions first, then new instances. -/
def applyPending (r : Roster R) : Roster R := ofLive (r.survivors ++ r.spawns)

/-- How many instances `applyPending` adds and removes. -/
def pendingCounts (r : Roster R) : Nat × Nat :=
  (r.spawns.length, r.live.length - r.survivors.length)

/-- Drops what waits. -/
def discardPending (r : Roster R) : Roster R := ofLive r.live

theorem live_applyPending (r : Roster R) : r.applyPending.live = r.survivors ++ r.spawns := rfl

end Roster

end Playfield
