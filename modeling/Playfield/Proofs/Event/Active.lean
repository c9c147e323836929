import Mathlib
import Playfield.Project

/-!
# Active Events

Which events of a tree a game sees.

Two traversals of a tree of events give the active ones and all of them, and they are
written independently of each other. Here both are read off a third one, which keeps
with each event the groups around it (`EventNode.occurrences`): all events are all that
occur, and active are those that occur in no closed group, in the same order.

So of two trees the active events are the same if the trees only differ in what is inside
of closed groups, in comments, and in how groups are called. That is said by what is left
of a tree when all this is taken away (`EventNode.essentials`).

## Main definitions

* `EventNode.Occurrence`: An event with the groups around it.
* `EventNode.occurrences`: The events of a tree with the groups around them.
* `EventNode.essentials`: What is left of a tree without what closed groups hide, without
  comments, and without the names of groups.
* `Scene.essential`, `Project.essential`: Scenes and projects with such trees only.

## Theorems

* `EventNode.allEvents_eq`: All events are all that occur.
* `EventNode.activeEvents_eq`: Active are those that occur in no closed group.
* `EventNode.activeEvents_essentials`: The active events are among what is left.
-/

namespace Playfield

namespace EventNode

variable {R : Type}

/-- An event in a tree, with the groups around it, the innermost first. -/
structure Occurrence (R : Type) where
  event : Event R
  ancestors : List (EventNode R)

/-- A node is a closed group. -/
def isClosed : EventNode R → Bool
  | .group _ _ _ collapsed _ => collapsed
  | .event _ | .comment _ _ => false

/-- One of the groups around an event is closed. -/
def Occurrence.isHidden (o : Occurrence R) : Bool := o.ancestors.any isClosed

mutual

/-- The events of a node, with the groups around them, of which some are around the node. -/
def occurrencesIn (above : List (EventNode R)) : EventNode R → List (Occurrence R)
  | .event e => [⟨e, above⟩]
  | .group id name remark collapsed ns =>
    occurrences (.group id name remark collapsed ns :: above) ns
  | .comment _ _ => []

/-- The events of a list of nodes, in order, with the groups around them, of which some are
    around the list. -/
def occurrences (above : List (EventNode R)) : List (EventNode R) → List (Occurrence R)
  | [] => []
  | n :: ns => occurrencesIn above n ++ occurrences above ns

end

mutual

theorem map_event_occurrencesIn (above : List (EventNode R)) (n : EventNode R) :
    (occurrencesIn above n).map (·.event) = all n := by
  cases n with
  | event e => rfl
  | comment id text => rfl
  | group id name remark collapsed ns => exact map_event_occurrences _ ns

theorem map_event_occurrences (above : List (EventNode R)) (ns : List (EventNode R)) :
    (occurrences above ns).map (·.event) = allEvents ns := by
  cases ns with
  | nil => rfl
  | cons n ns =>
      rw [occurrences, allEvents, List.map_append, map_event_occurrencesIn above n,
        map_event_occurrences above ns]

end

mutual

/-- The groups around a node are around all events in it. -/
theorem isHidden_of_mem_occurrencesIn {above : List (EventNode R)}
    (h : above.any isClosed = true) (n : EventNode R) :
    ∀ o ∈ occurrencesIn above n, o.isHidden = true := by
  cases n with
  | event e => exact List.forall_mem_singleton.2 h
  | comment id text => exact List.forall_mem_nil _
  | group id name remark collapsed ns =>
      refine isHidden_of_mem_occurrences ?_ ns
      rw [List.any_cons, h, Bool.or_true]

theorem isHidden_of_mem_occurrences {above : List (EventNode R)}
    (h : above.any isClosed = true) (ns : List (EventNode R)) :
    ∀ o ∈ occurrences above ns, o.isHidden = true := by
  cases ns with
  | nil => exact List.forall_mem_nil _
  | cons n ns =>
      exact List.forall_mem_append.2
        ⟨isHidden_of_mem_occurrencesIn h n, isHidden_of_mem_occurrences h ns⟩

end

/-- The events that occur in no closed group. -/
def visible (os : List (Occurrence R)) : List (Event R) :=
  (os.filter fun o => !o.isHidden).map (·.event)

theorem visible_append (os ps : List (Occurrence R)) :
    visible (os ++ ps) = visible os ++ visible ps := by
  rw [visible, List.filter_append, List.map_append]
  rfl

mutual

theorem visible_occurrencesIn {above : List (EventNode R)} (h : above.any isClosed = false)
    (n : EventNode R) : visible (occurrencesIn above n) = active n := by
  cases n with
  | event e =>
      have hopen : (Occurrence.mk e above).isHidden = false := h
      rw [occurrencesIn, visible, List.filter_cons_of_pos (by rw [hopen]; rfl)]
      rfl
  | comment id text => rfl
  | group id name remark collapsed ns =>
      rw [occurrencesIn, active]
      cases collapsed with
      | true =>
          -- Whatever is inside of the group is hidden by it.
          have hclosed : (EventNode.group id name remark true ns :: above).any isClosed = true :=
            rfl
          have hhidden := isHidden_of_mem_occurrences hclosed ns
          rw [visible, List.filter_eq_nil_iff.2 fun o ho => by rw [hhidden o ho]; decide]
          rfl
      | false => exact visible_occurrences (by rw [List.any_cons, h]; rfl) ns

theorem visible_occurrences {above : List (EventNode R)} (h : above.any isClosed = false)
    (ns : List (EventNode R)) : visible (occurrences above ns) = activeEvents ns := by
  cases ns with
  | nil => rfl
  | cons n ns =>
      rw [occurrences, activeEvents, visible_append, visible_occurrencesIn h n,
        visible_occurrences h ns]

end

/-- All events are all that occur. -/
theorem allEvents_eq (ns : List (EventNode R)) :
    allEvents ns = (occurrences [] ns).map (·.event) :=
  (map_event_occurrences [] ns).symm

/-- Active are the events that occur in no closed group, in the same order. -/
theorem activeEvents_eq (ns : List (EventNode R)) :
    activeEvents ns = ((occurrences [] ns).filter fun o => !o.isHidden).map (·.event) :=
  (visible_occurrences rfl ns).symm

mutual

/-- What is left of a node without what closed groups hide, without comments, and without
    the names of groups: one node, or none. -/
def essential : EventNode R → List (EventNode R)
  | .event e => [.event e]
  | .group _ _ _ true _ => [.group "" "" none true []]
  | .group _ _ _ false ns => [.group "" "" none false (essentials ns)]
  | .comment _ _ => []

/-- What is left of a list of nodes. -/
def essentials : List (EventNode R) → List (EventNode R)
  | [] => []
  | n :: ns => essential n ++ essentials ns

end

theorem activeEvents_append (ms ns : List (EventNode R)) :
    activeEvents (ms ++ ns) = activeEvents ms ++ activeEvents ns := by
  induction ms with
  | nil => rfl
  | cons m ms ih => rw [List.cons_append, activeEvents, activeEvents, ih, List.append_assoc]

mutual

theorem activeEvents_essential (n : EventNode R) : activeEvents (essential n) = active n := by
  cases n with
  | event e => rfl
  | comment id text => rfl
  | group id name remark collapsed ns =>
      cases collapsed with
      | true => rfl
      | false =>
          have hinner := activeEvents_essentials ns
          simpa [essential, activeEvents, active] using hinner

/-- The active events are among what is left of a tree. -/
theorem activeEvents_essentials (ns : List (EventNode R)) :
    activeEvents (essentials ns) = activeEvents ns := by
  cases ns with
  | nil => rfl
  | cons n ns =>
      rw [essentials, activeEvents_append, activeEvents_essential n, activeEvents_essentials ns]
      rfl

end

/-- A list of events is a tree of which they are the active events. -/
theorem activeEvents_map_event (es : List (Event R)) : activeEvents (es.map .event) = es := by
  induction es with
  | nil => rfl
  | cons e es ih => rw [List.map_cons, activeEvents, ih]; rfl

end EventNode

section Documents

variable {R : Type}

/-- A scene with what is left of its tree of events. -/
def Scene.essential (s : Scene R) : Scene R := { s with events := EventNode.essentials s.events }

/-- A project with what is left of its trees of events. -/
def Project.essential (p : Project R) : Project R :=
  { p with scenes := p.scenes.map Scene.essential }

end Documents

end Playfield
