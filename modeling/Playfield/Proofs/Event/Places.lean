import Mathlib
import Playfield.Event.Tree

/-!
# Places in a Tree of Events

Where an event stands.

Events are listed in the order of the document, and whoever reports one of them means one that
stands somewhere: the same event can stand in several places, and ids need not tell events apart.
The place of an event is the way to it. It leads from the list of nodes into a node, and if that
is a group, into a node of the group, whether the group is closed or not.

Ways are compared like words, so that of two nodes of a list everything below the first comes
before everything below the second. In this order the list of all events goes through the tree,
and it passes each place once.

## Main definitions

* `EventNode.Holds`, `EventNode.Stands`: An event stands below a node, and in a list of nodes.
* `EventNode.placed`, `EventNode.placedFrom`: All events with their places.

## Theorems

* `EventNode.map_fst_placedFrom`: They are the events of the tree.
* `EventNode.mem_placedFrom`: Their places are those where they stand.
* `EventNode.sorted_placedFrom`: They come in the order of their places.
-/

namespace Playfield

namespace EventNode

variable {R : Type}

/-- An event stands below a node, at the end of a way. -/
inductive Holds : EventNode R → List Nat → Event R → Prop
  | event (e : Event R) : Holds (.event e) [] e
  | group {id name : String} {comment : Option String} {closed : Bool} {ns : List (EventNode R)}
    {k : Nat} {n : EventNode R} {way : List Nat} {e : Event R} :
    ns[k]? = some n → Holds n way e → Holds (.group id name comment closed ns) (k :: way) e

/-- An event stands in a list of nodes, at the end of a way. -/
def Stands (ns : List (EventNode R)) (place : List Nat) (e : Event R) : Prop :=
  ∃ k n way, place = k :: way ∧ ns[k]? = some n ∧ Holds n way e

mutual

/-- The events below a node with their places. -/
def placed : EventNode R → List (Event R × List Nat)
  | .event e => [(e, [])]
  | .group _ _ _ _ ns => placedFrom 0 ns
  | .comment _ _ => []

/-- The events of a list of nodes with their places, the first node being counted as given. -/
def placedFrom (first : Nat) : List (EventNode R) → List (Event R × List Nat)
  | [] => []
  | n :: ns => (placed n).map (fun p => (p.1, first :: p.2)) ++ placedFrom (first + 1) ns

end

mutual

theorem map_fst_placed (n : EventNode R) : (placed n).map (·.1) = all n := by
  cases n with
  | event e => rfl
  | group id name comment closed ns => exact map_fst_placedFrom 0 ns
  | comment id text => rfl

theorem map_fst_placedFrom (first : Nat) (ns : List (EventNode R)) :
    (placedFrom first ns).map (·.1) = allEvents ns := by
  cases ns with
  | nil => rfl
  | cons n ns =>
      rw [placedFrom, allEvents, List.map_append, map_fst_placedFrom (first + 1) ns, List.map_map]
      exact congrArg (· ++ allEvents ns) (map_fst_placed n)

end

mutual

theorem mem_placed (n : EventNode R) (e : Event R) (way : List Nat) :
    (e, way) ∈ placed n ↔ Holds n way e := by
  cases n with
  | event e' =>
      rw [placed, List.mem_singleton]
      constructor
      · rintro ⟨rfl, rfl⟩
        exact .event e
      · rintro ⟨⟩
        rfl
  | group id name comment closed ns =>
      rw [placed, mem_placedFrom]
      constructor
      · rintro ⟨k, n, way, rfl, hn, h⟩
        rw [Nat.zero_add]
        exact .group hn h
      · rintro (_ | ⟨hn, h⟩)
        exact ⟨_, _, _, by rw [Nat.zero_add], hn, h⟩
  | comment id text =>
      rw [placed]
      constructor
      · exact fun h => absurd h List.not_mem_nil
      · exact fun h => nomatch h

/-- An event is listed with the place where it stands. -/
theorem mem_placedFrom (first : Nat) (ns : List (EventNode R)) (e : Event R) (place : List Nat) :
    (e, place) ∈ placedFrom first ns ↔
      ∃ k n way, place = (first + k) :: way ∧ ns[k]? = some n ∧ Holds n way e := by
  cases ns with
  | nil => simp [placedFrom]
  | cons n ns =>
      rw [placedFrom, List.mem_append, mem_placedFrom (first + 1) ns, List.mem_map]
      constructor
      · rintro (⟨⟨e, way⟩, h, ⟨⟩⟩ | ⟨k, m, way, rfl, hm, h⟩)
        · exact ⟨0, n, way, rfl, rfl, (mem_placed n e way).1 h⟩
        · exact ⟨k + 1, m, way, by rw [Nat.add_right_comm, Nat.add_assoc], hm, h⟩
      · rintro ⟨k, m, way, rfl, hm, h⟩
        cases k with
        | zero =>
            cases hm
            exact .inl ⟨(e, way), (mem_placed _ e way).2 h, rfl⟩
        | succ k => exact .inr ⟨k, m, way, by rw [Nat.add_right_comm, Nat.add_assoc], hm, h⟩

end

theorem mem_placedFrom_zero {ns : List (EventNode R)} {e : Event R} {place : List Nat} :
    (e, place) ∈ placedFrom 0 ns ↔ Stands ns place e := by
  rw [mem_placedFrom, Stands]
  simp only [Nat.zero_add]

mutual

theorem sorted_placed (n : EventNode R) : (placed n).Pairwise fun p q => p.2 < q.2 := by
  cases n with
  | event e => exact List.pairwise_singleton _ _
  | group id name comment closed ns => exact sorted_placedFrom 0 ns
  | comment id text => exact List.Pairwise.nil

/-- The events are listed in the order of their places. -/
theorem sorted_placedFrom (first : Nat) (ns : List (EventNode R)) :
    (placedFrom first ns).Pairwise fun p q => p.2 < q.2 := by
  cases ns with
  | nil => exact List.Pairwise.nil
  | cons n ns =>
      rw [placedFrom, List.pairwise_append, List.pairwise_map]
      refine ⟨?_, sorted_placedFrom (first + 1) ns, ?_⟩
      · exact (sorted_placed n).imp fun h => List.cons_lt_cons_iff.2 (.inr ⟨rfl, h⟩)
      · -- What stands below a later node has a greater first step.
        intro p hp q hq
        rcases List.mem_map.1 hp with ⟨p, -, rfl⟩
        rcases (mem_placedFrom (first + 1) ns q.1 q.2).1 hq with ⟨k, m, way, hway, -, -⟩
        rw [hway]
        exact List.cons_lt_cons_iff.2 (.inl (by omega))

end

end EventNode

end Playfield
