import Mathlib
import Playfield.Event.Tree
import Playfield.Proofs.Event.Actions
import Playfield.Proofs.Json.Growth
import Playfield.Proofs.Json.Refusal

/-!
# Finite Events

The trees of events that come back from a document.

Groups stand in groups, so the codec of a node is iterated as often as the tree at hand
is deep. When a node is written the tree is the node, and when it is read it is the
document. The document is at least as deep as the node, as every group is an object. So
the codec that reads a node is iterated at least as often as the one that has written
it, and more often is as good: beyond its depth a node is written in one way only.
With this the law of nodes is an induction on the number of iterations in which nothing
is unbounded.

A node that is read may be written one level deeper than it was, where the innermost
group or event has left out its lists. This is said along with the rest, for any bound
on what is read.

## Main definitions

* `Event.IsFinite`, `EventNode.IsFinite`: All numbers of an event or of a tree are finite.

## Theorems

* `EventNode.codecTo_write`: Beyond its depth a node is written in one way.
* `EventNode.depth_le_depth_write`: What is written is as deep as the node.
* `EventNode.covers_variants`, `EventNode.carries_codecTo`: The law of each iteration.
* `EventNode.carries_codec`, `EventNode.carries_listCodec`: Nodes come back if they are
  finite, and are written at most one level deeper than they were read.
* `EventNode.refusesAt_codec`: Nodes that are nested too deep are refused.
-/

namespace Playfield

namespace EventNode

variable {R : Type}

theorem mem_allEvents {e : Event R} {ns : List (EventNode R)} :
    e ∈ allEvents ns ↔ ∃ n ∈ ns, e ∈ n.all := by
  induction ns with
  | nil => simp [allEvents]
  | cons n ns ih => simp [allEvents, ih]

theorem depth_pos (n : EventNode R) : 0 < n.depth := by
  cases n with
  | group => exact Nat.succ_pos _
  | _ => exact Nat.one_pos

theorem depthAll_le {d : Nat} {ns : List (EventNode R)} :
    depthAll ns ≤ d ↔ ∀ n ∈ ns, n.depth ≤ d := by
  induction ns with
  | nil => simp [depthAll]
  | cons n ns ih => rw [depthAll, max_le_iff, ih, List.forall_mem_cons]

end EventNode

section

variable {R : Type} [Scalar R]

/-- All numbers of an event are finite. -/
structure Event.IsFinite (e : Event R) : Prop where
  conditions : ∀ c ∈ e.conditions, c.IsFinite
  actions : ∀ a ∈ e.actions, a.IsFinite

namespace EventNode

/-- All numbers of the events of a node are finite, closed groups or not. -/
def IsFinite (n : EventNode R) : Prop := ∀ e ∈ n.all, e.IsFinite

theorem isFinite_group {id name : String} {comment : Option String} {collapsed : Bool}
    {ns : List (EventNode R)} :
    (group id name comment collapsed ns).IsFinite ↔ ∀ n ∈ ns, n.IsFinite := by
  constructor
  · exact fun h n hn e he => h e (mem_allEvents.2 ⟨n, hn, he⟩)
  · intro h e he
    rcases mem_allEvents.1 he with ⟨n, hn, he⟩
    exact h n hn e he

end EventNode

end

namespace EventNode

variable {R : Type} [Scalar R] [Numeral R]

/-! ## What is written -/

theorem write_event (d : Nat) (e : Event R) : (codecTo (d + 1)).write (.event e) =
    .object (("type", .text "event") :: ([("id", .text e.id), ("name", .text e.name)] ++
      (e.comment.map fun t => ("comment", .text t)).toList ++
      [("conditions", Condition.codec.list.write e.conditions),
        ("actions", Action.codec.list.write e.actions)])) := by
  rcases e with ⟨id, name, _ | comment, conditions, actions⟩ <;> rfl

theorem write_group (d : Nat) (id name : String) (comment : Option String) (collapsed : Bool)
    (ns : List (EventNode R)) : (codecTo (d + 1)).write (.group id name comment collapsed ns) =
    .object (("type", .text "group") :: ([("id", .text id), ("name", .text name)] ++
      (comment.map fun t => ("comment", .text t)).toList ++
      [("isCollapsed", .bool collapsed), ("events", (codecTo d).list.write ns)])) := by
  cases comment <;> rfl

theorem depth_write_event (d : Nat) (e : Event R) : ((codecTo (d + 1)).write (.event e)).depth =
    max (Condition.codec.list.write e.conditions).depth
      (Action.codec.list.write e.actions).depth + 1 := by
  rw [write_event]
  cases e.comment <;> simp [Json.depth, Json.depthMembers]

theorem depth_write_group (d : Nat) (id name : String) (comment : Option String)
    (collapsed : Bool) (ns : List (EventNode R)) :
    ((codecTo (d + 1)).write (.group id name comment collapsed ns)).depth =
      ((codecTo d).list.write ns).depth + 1 := by
  rw [write_group]
  cases comment <;> simp [Json.depth, Json.depthMembers]

/-- Iterating more often than a node is deep does not change what is written. -/
theorem codecTo_write {d e : Nat} {n : EventNode R} (hd : n.depth ≤ d) (he : n.depth ≤ e) :
    (codecTo d).write n = (codecTo e).write n := by
  -- On the iterations. A group takes one from both of them and hands the rest to its nodes.
  induction d generalizing e n with
  | zero => exact absurd n.depth_pos (by omega)
  | succ d ih =>
      have hpos := n.depth_pos
      obtain ⟨e, rfl⟩ : ∃ e', e = e' + 1 := ⟨e - 1, by omega⟩
      cases n with
      | event ev => rfl
      | comment id text => rfl
      | group id name comment collapsed ns =>
          rw [depth] at hd he
          have hns : (codecTo d).list.write ns = (codecTo e).list.write ns := by
            refine congrArg Json.list (List.map_congr_left fun n hn => ih ?_ ?_)
            · exact depthAll_le.1 (Nat.le_of_succ_le_succ hd) n hn
            · exact depthAll_le.1 (Nat.le_of_succ_le_succ he) n hn
          rw [write_group, write_group, hns]

theorem codec_write {d : Nat} {n : EventNode R} (hd : n.depth ≤ d) :
    codec.write n = (codecTo d).write n :=
  codecTo_write le_rfl hd

/-- Every group is an object around its nodes. -/
theorem depth_le_depth_codecTo {d : Nat} {n : EventNode R} (hd : n.depth ≤ d) :
    n.depth ≤ ((codecTo d).write n).depth := by
  induction d generalizing n with
  | zero => exact absurd n.depth_pos (by omega)
  | succ d ih =>
      cases n with
      | event ev =>
          rw [depth_write_event]
          exact Nat.succ_le_succ (Nat.zero_le _)
      | comment id text => exact Nat.succ_le_succ (Nat.zero_le _)
      | group id name comment collapsed ns =>
          rw [depth] at hd ⊢
          rw [depth_write_group]
          refine Nat.succ_le_succ (depthAll_le.2 fun n hn => ?_)
          have hle : ((codecTo d).write n).depth ≤ Json.depthItems (ns.map (codecTo d).write) :=
            Json.depthItems_le.1 le_rfl _ (List.mem_map_of_mem hn)
          exact (ih (depthAll_le.1 (Nat.le_of_succ_le_succ hd) n hn)).trans
            (hle.trans (Nat.le_succ _))

theorem depth_le_depth_write (n : EventNode R) : n.depth ≤ (codec.write n).depth :=
  depth_le_depth_codecTo le_rfl

end EventNode

variable {R : Type} [Scalar R] [Numeral R] [Numeral.Lawful R]

/-! ## What comes back -/

theorem Condition.carries_below (D : Nat) : (Condition.codec : Codec (Condition R)).Carries ⊤
    Condition.IsFinite (Json.Below D)
    fun c => c.IsFinite ∧ (Condition.codec.write c).depth ≤ D :=
  ((Condition.holds_codec 0).below (fun _ j _ _ => Nat.succ_le_succ (Nat.zero_le j.depth))
    D).unbounded

theorem Action.carries_below (D : Nat) : (Action.codec : Codec (Action R)).Carries ⊤
    Action.IsFinite (Json.Below D) fun a => a.IsFinite ∧ (Action.codec.write a).depth ≤ D :=
  ((Action.holds_codec 0).below
    (fun _ _ _ h => Nat.succ_le_succ (Codec.depth_pos_of_read_flattened h)) D).unbounded

/-- Lists that an event leaves out are written one level deep, which is why there is a bound
    above zero to begin with. -/
theorem Event.carries_fields (D : Nat) : (Event.fields : Fields (Event R) (Event R)).Carries ⊤
    Event.IsFinite (Json.Below (D + 1)) fun e => e.IsFinite ∧
      (Condition.codec.list.write e.conditions).depth ≤ D + 1 ∧
      (Action.codec.list.write e.actions).depth ≤ D + 1 := by
  have hnil : (Json.list []).depth ≤ D + 1 := Nat.succ_le_succ (Nat.zero_le D)
  refine .field (.defaulting (Codec.carries_list_below Action.carries_below _).unbounded
    ⟨List.forall_mem_nil _, hnil⟩) (fun _ h => h.actions) ?_
  refine .field (.defaulting (Codec.carries_list_below Condition.carries_below _).unbounded
    ⟨List.forall_mem_nil _, hnil⟩) (fun _ h => h.conditions) ?_
  refine .free .optionalText ?_
  refine .free (.defaulting Codec.carries_text trivial) ?_
  refine .free (.required Codec.carries_text) ?_
  refine .start ?_
  intro id name comment conditions hconditions actions hactions
  exact ⟨⟨hconditions.1, hactions.1⟩, hconditions.2, hactions.2⟩

namespace EventNode

/-- The forms of a node, from the law of the nodes in a group. -/
theorem covers_variants {d : Nat} (D : Nat) (h : ∀ D, (codecTo d : Codec (EventNode R)).Carries ⊤
    (fun n => n.depth ≤ d ∧ n.IsFinite) (Json.Below D)
    fun n => (n.depth ≤ d ∧ n.IsFinite) ∧ ((codecTo d).write n).depth ≤ D) :
    Variant.Covers (variants (codecTo d) : List (Variant (EventNode R))) ["type"] ⊤
      (fun n => n.depth ≤ d + 1 ∧ n.IsFinite) (Json.Below (D + 1))
      fun n => (n.depth ≤ d + 1 ∧ n.IsFinite) ∧ ((codecTo (d + 1)).write n).depth ≤ D + 2 := by
  refine ⟨(by decide : ["event", "group", "comment"].Nodup), ?_, ?_⟩
  · intro n
    cases n <;> rfl
  simp only [variants, List.forall_mem_cons]
  refine ⟨?event, ?group, ?comment, List.forall_mem_nil _⟩
  case event =>
    refine .of (by decide : ["id", "name", "comment", "conditions", "actions", "type"].Nodup)
      (fun _ h => h.2 _ (List.mem_singleton.2 rfl)) ?_
    refine .map ((Event.carries_fields D).imp fun e he => ⟨⟨?_, ?_⟩, ?_⟩)
    · exact Nat.succ_le_succ (Nat.zero_le d)
    · exact fun e' he' => List.mem_singleton.1 he' ▸ he.1
    · rw [depth_write_event]
      exact Nat.succ_le_succ (max_le he.2.1 he.2.2)
  case group =>
    refine .of (by decide : ["id", "name", "comment", "isCollapsed", "events", "type"].Nodup)
      (fun _ h => h) ?_
    refine .field (.defaulting (Codec.carries_list_below h (D + 1)).unbounded
      ⟨List.forall_mem_nil _, Nat.succ_le_succ (Nat.zero_le D)⟩)
      (fun _ h n hn => ⟨depthAll_le.1 (Nat.le_of_succ_le_succ h.1) n hn,
        isFinite_group.1 h.2 n hn⟩) ?_
    refine .free (.defaulting Codec.carries_bool trivial) ?_
    refine .free .optionalText ?_
    refine .free (.defaulting Codec.carries_text trivial) ?_
    refine .free (.required Codec.carries_text) ?_
    refine .start ?_
    intro id name comment collapsed ns hns
    refine ⟨⟨Nat.succ_le_succ (depthAll_le.2 fun n hn => (hns.1 n hn).1), ?_⟩, ?_⟩
    · exact isFinite_group.2 fun n hn => (hns.1 n hn).2
    · rw [depth_write_group]
      exact Nat.succ_le_succ hns.2
  case comment =>
    refine .of (by decide : ["id", "comment", "type"].Nodup)
      (fun _ h => h) ?_
    refine .free (.defaulting Codec.carries_text trivial) ?_
    refine .free (.required Codec.carries_text) ?_
    refine .start ?_
    intro id text
    refine ⟨⟨Nat.succ_le_succ (Nat.zero_le d), fun e he => absurd he List.not_mem_nil⟩, ?_⟩
    exact Nat.succ_le_succ (Nat.zero_le _)

theorem carries_codecTo (d D : Nat) : (codecTo d : Codec (EventNode R)).Carries ⊤
    (fun n => n.depth ≤ d ∧ n.IsFinite) (Json.Below D)
    fun n => (n.depth ≤ d ∧ n.IsFinite) ∧ ((codecTo d).write n).depth ≤ D := by
  -- On the iterations: the nodes in a group are those of the iteration before.
  induction d generalizing D with
  | zero =>
      refine ⟨fun _ => .null, fun src n h => absurd n.depth_pos (by omega), ?_⟩
      intro src j n _ hread
      cases hread
  | succ d ih =>
      exact Codec.carries_tagged_below
        (Q := fun D (n : EventNode R) =>
          (n.depth ≤ d + 1 ∧ n.IsFinite) ∧ ((codecTo (d + 1)).write n).depth ≤ D)
        (fun D => covers_variants D ih) D

/-- Nodes come back if they are finite, and are written at most one level deeper than they
    were read. -/
theorem carries_codec (D : Nat) : (codec : Codec (EventNode R)).Carries ⊤ IsFinite
    (Json.Below D) fun n => n.IsFinite ∧ (codec.write n).depth ≤ D := by
  refine ⟨fun n => (carries_codecTo n.depth 0).plain n, ?_, ?_⟩
  · intro src n hn
    -- Reading is iterated as often as the document is deep, which is often enough.
    have hdepth : n.depth ≤ (codec.write n).held.depth := by
      rw [Json.depth_held]
      exact n.depth_le_depth_write
    have hread := (carries_codecTo (codec.write n).held.depth 0).read_write src n ⟨hdepth, hn⟩
    rw [← codec_write hdepth] at hread
    exact hread
  · intro src j n hj hread
    have hn := (carries_codecTo j.depth D).of_read src j n hj hread
    rw [codec_write hn.1.1]
    exact ⟨hn.1.2, hn.2⟩

theorem carries_listCodec (D : Nat) : (listCodec : Codec (List (EventNode R))).Carries ⊤
    (fun ns => ∀ n ∈ ns, n.IsFinite) (Json.Below D)
    fun ns => (∀ n ∈ ns, n.IsFinite) ∧ (listCodec.write ns).depth ≤ D :=
  (Codec.carries_list_below carries_codec D).unbounded

/-- A node that is nested too deep is not read back, however often reading is iterated. -/
theorem refusesAt_codec (around : Nat) : (codec : Codec (EventNode R)).RefusesAt around := by
  intro src n m hread
  -- A node is written by some iteration with a successor, which is where the forms are.
  have hwrite : (codec.write n : Json) = (codecTo (n.depth - 1 + 1)).write n :=
    codec_write (by have := n.depth_pos; omega)
  rw [hwrite] at hread ⊢
  change (codecTo _).read src _ = _ at hread
  cases hdepth : (((codecTo (n.depth - 1 + 1)).write n).kept around).depth with
  | zero =>
      rw [hdepth] at hread
      cases hread
  | succ e =>
      rw [hdepth] at hread
      exact Codec.depth_le_of_read_tagged (covers_variants 0 (carries_codecTo _)) hread

end EventNode

end Playfield
