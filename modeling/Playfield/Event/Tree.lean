import Playfield.Event.Codec

/-!
# Events

Events, and the tree in which an author keeps them.

An event does its actions when all its conditions hold. The tree is there for
the author: groups can be nested, and closing a group takes everything below it
out of the game without deleting it. A game therefore sees a list, the active
events in the order of the document (`activeEvents`), while tools that check a
document look at all of them (`allEvents`).

A codec for a tree that contains itself cannot be described without already
having it. The description is therefore iterated as often as the tree at hand
is deep, which is often enough for it to be the codec of that tree.

## Main definitions

* `Event`: Conditions and actions.
* `EventNode`: An event, a group of nodes, or a comment.
* `EventNode.activeEvents`, `EventNode.allEvents`: The events of a tree.
* `EventNode.listCodec`: Trees in documents.

## Theorems

* `EventNode.activeEvents_sublist`: Active events are events, in the same order.
-/

namespace Playfield

/-- Actions that are done when all conditions hold. -/
structure Event (R : Type) where
  id : String
  name : String
  comment : Option String
  conditions : List (Condition R)
  actions : List (Action R)
  deriving DecidableEq

/-- A node of the tree of events. -/
inductive EventNode (R : Type) where
  | event (e : Event R)
  | group (id name : String) (comment : Option String) (collapsed : Bool)
      (nodes : List (EventNode R))
  | comment (id text : String)

namespace EventNode

variable {R : Type}

/-- The id of a node. -/
def id : EventNode R → String
  | .event e => e.id
  | .group id _ _ _ _ => id
  | .comment id _ => id

mutual

/-- The events of a node that no closed group hides. -/
def active : EventNode R → List (Event R)
  | .event e => [e]
  | .group _ _ _ collapsed ns => if collapsed then [] else activeEvents ns
  | .comment _ _ => []

/-- The events of a list of nodes that no closed group hides, in order. -/
def activeEvents : List (EventNode R) → List (Event R)
  | [] => []
  | n :: ns => active n ++ activeEvents ns

end

mutual

/-- The events of a node. -/
def all : EventNode R → List (Event R)
  | .event e => [e]
  | .group _ _ _ _ ns => allEvents ns
  | .comment _ _ => []

/-- The events of a list of nodes, in order. -/
def allEvents : List (EventNode R) → List (Event R)
  | [] => []
  | n :: ns => all n ++ allEvents ns

end

mutual

theorem active_sublist (n : EventNode R) : (active n).Sublist (all n) := by
  cases n with
  | event e => exact List.Sublist.refl _
  | comment => exact List.Sublist.refl _
  | group id name comment collapsed ns =>
    cases collapsed
    · simpa [active, all] using activeEvents_sublist ns
    · simp [active]

theorem activeEvents_sublist (ns : List (EventNode R)) :
    (activeEvents ns).Sublist (allEvents ns) := by
  cases ns with
  | nil => exact List.Sublist.refl _
  | cons n ns => exact (active_sublist n).append (activeEvents_sublist ns)

end

mutual

/-- The number of groups around the innermost node, and one. -/
def depth : EventNode R → Nat
  | .group _ _ _ _ ns => depthAll ns + 1
  | _ => 1

/-- The depth of the deepest node. -/
def depthAll : List (EventNode R) → Nat
  | [] => 0
  | n :: ns => max (depth n) (depthAll ns)

end

end EventNode

section Documents

variable {R : Type} [Scalar R] [Numeral R]

/-- The fields of an event. -/
def Event.fields : Fields (Event R) (Event R) :=
  Fields.start Event.mk
    |>.required "id" .text (·.id)
    |>.defaulting "name" .text "" (·.name)
    |>.optional "comment" .text (·.comment)
    |>.defaulting "conditions" (.list Condition.codec) [] (·.conditions)
    |>.defaulting "actions" (.list Action.codec) [] (·.actions)

/-- Events in documents. -/
def Event.codec : Codec (Event R) := .record Event.fields

namespace EventNode

/-- What a group consists of. -/
abbrev Group (R : Type) : Type :=
  String × String × Option String × Bool × List (EventNode R)

/-- The fields of a group, given the codec of the nodes in it. -/
def groupFields (inner : Codec (EventNode R)) : Fields (Group R) (EventNode R) :=
  Fields.start EventNode.group
    |>.required "id" .text (·.1)
    |>.defaulting "name" .text "" (·.2.1)
    |>.optional "comment" .text (·.2.2.1)
    |>.defaulting "isCollapsed" .bool false (·.2.2.2.1)
    |>.defaulting "events" (.list inner) [] (·.2.2.2.2)

/-- The forms of a node, given the codec of the nodes in a group. -/
def variants (inner : Codec (EventNode R)) : List (Variant (EventNode R)) :=
  [.of "event" (fun | .event e => some e | _ => none) (Event.fields.map .event),
    .of "group" (fun | .group i n c b ns => some (i, n, c, b, ns) | _ => none)
      (groupFields inner),
    .of "comment" (fun | .comment i t => some (i, t) | _ => none)
      (Fields.start EventNode.comment
        |>.required "id" .text (·.1)
        |>.defaulting "comment" .text "" (·.2))]

/-- The codec of nodes up to a depth. -/
def codecTo : Nat → Codec (EventNode R)
  | 0 => ⟨fun _ => .null, fun _ j => .error (.unexpected j)⟩
  | d + 1 => .tagged (variants (codecTo d))

/-- Nodes in documents. -/
def codec : Codec (EventNode R) where
  write n := (codecTo n.depth).write n
  read src j := (codecTo j.depth).read src j

/-- Lists of nodes in documents. -/
def listCodec : Codec (List (EventNode R)) := .list codec

end EventNode

end Documents

end Playfield
