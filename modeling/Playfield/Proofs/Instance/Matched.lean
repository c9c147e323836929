import Mathlib
import Playfield.Proofs.Session.Lasting

/-!
# Matched Instances

Instances that remember what their behaviors need, and nothing else.

A behavior that moves, flies or fires looks for its state in the slot of its kind. If
there is none, or one of another kind, it does nothing, and nobody is told. So a slot
that is not filled as it should be is an object that stands still for no reason.

A fresh copy of a template has a state in each slot that its behaviors need, one of the
kind of the slot, and the others are empty. What happens to an instance later keeps that
(`Instance.Evolves`), and where nothing is missing, a load adds nothing. So instances
are matched at any time, and no behavior ever finds nothing to work on.

## Main definitions

* `Behavior.Kind.remembers`: A kind of behaviors that remember something.
* `Behavior.needs`: The slots that some behaviors need.
* `Behavior.lacks`: A behavior finds nothing to work on.
* `Instance.IsMatched`: The slots are filled as the behaviors need them.

## Theorems

* `BehaviorStates.kind?_foldl_start`: What fresh copies remember.
* `Instance.lasting_isMatched`: Matched instances stay so.
* `Instance.IsMatched.lacks_foldl_act`: None of their behaviors finds nothing to work on.
-/

namespace Playfield

namespace Behavior

variable {R : Type}

/-- Whether behaviors of a kind remember anything. -/
def Kind.remembers : Kind → Bool
  | .mover | .bullet | .turret | .health => true
  | .facePointer | .button => false

/-- The slots that some behaviors need, one for each behavior that remembers anything. -/
def needs (bs : List (Behavior R)) : List Kind := (bs.map kind).filter (·.remembers)

/-- A behavior would work on a state and does not find one of its kind. -/
def lacks : Behavior R → Option (BehaviorState R) → Bool
  | .mover _, some (.mover _) => false
  | .bullet _ _ _, some (.bullet _) => false
  | .turret _, some (.turret _) => false
  | .facePointer _ _, _ | .health _ _, _ | .button, _ => false
  | _, _ => true

theorem mem_needs {bs : List (Behavior R)} {k : Kind} :
    k ∈ needs bs ↔ k.remembers = true ∧ ∃ b ∈ bs, b.kind = k := by
  rw [needs, List.mem_filter, List.mem_map, and_comm]

theorem needs_cons (b : Behavior R) (bs : List (Behavior R)) :
    needs (b :: bs) = if b.kind.remembers = true then b.kind :: needs bs else needs bs := by
  rw [needs, List.map_cons, List.filter_cons]
  rfl

/-- In a slot of its kind a behavior finds what it would work on. -/
theorem lacks_of_kind? {b : Behavior R} {s : BehaviorStates R}
    (h : b.kind.remembers = true → s.kind? b.kind = some b.kind) :
    b.lacks (s.get b.kind) = false := by
  rw [BehaviorStates.kind?] at h
  cases b <;> simp only [kind, Kind.remembers, Option.map_eq_some_iff, true_imp_iff] at h ⊢ <;>
    try rfl
  -- Movers, bullets, turrets and health find a state of which the kind is known.
  all_goals
    rcases h with ⟨v, hv, hkind⟩
    rw [hv]
    cases v <;> first | rfl | cases hkind

end Behavior

theorem BehaviorStates.kind?_empty {R : Type} (k : Behavior.Kind) :
    (empty : BehaviorStates R).kind? k = none := by
  cases k <;> rfl

section States

variable {R : Type} [Scalar R]

/-- A fresh state is one of the kind of its behavior, and there is one if that kind
    remembers anything. -/
theorem BehaviorState.kind_fresh? (b : Behavior R) :
    (fresh? b).map (·.kind) = if b.kind.remembers = true then some b.kind else none := by
  cases b <;> rfl

theorem BehaviorState.isSome_fresh? (b : Behavior R) :
    (fresh? b).isSome = b.kind.remembers := by
  cases b <;> rfl

namespace BehaviorStates

theorem kind?_start (s : BehaviorStates R) (b : Behavior R) (k : Behavior.Kind) :
    (s.start b).kind? k =
      if b.kind.remembers = true ∧ b.kind = k then some k else s.kind? k := by
  have hfresh := BehaviorState.kind_fresh? b
  unfold start
  split
  · next hnone =>
    rw [hnone] at hfresh
    split at hfresh
    · cases hfresh
    · next hb => rw [if_neg fun h => hb h.1]
  · next v hv =>
    rw [hv] at hfresh
    split at hfresh
    · next hb =>
      rw [kind?_set]
      by_cases hk : b.kind = k
      · rw [if_pos hk, if_pos ⟨hb, hk⟩, ← hk]
        exact hfresh
      · rw [if_neg hk, if_neg fun h => hk h.2]
    · cases hfresh

/-- What is started is what is needed, and the other slots are left as they are. -/
theorem kind?_foldl_start (bs : List (Behavior R)) (s : BehaviorStates R) (k : Behavior.Kind) :
    (bs.foldl start s).kind? k = if k ∈ Behavior.needs bs then some k else s.kind? k := by
  induction bs generalizing s with
  | nil => rfl
  | cons b bs ih =>
      rw [List.foldl_cons, ih, kind?_start, Behavior.needs_cons]
      by_cases hlater : k ∈ Behavior.needs bs
      · rw [if_pos hlater, if_pos]
        split
        · exact List.mem_cons_of_mem _ hlater
        · exact hlater
      · rw [if_neg hlater]
        by_cases hb : b.kind.remembers = true
        · simp [hb, hlater, eq_comm]
        · simp [hb, hlater]

end BehaviorStates

end States

namespace Instance

variable {R : Type}

/-- In the slots that the behaviors of an instance need there are states of their kinds,
    and the other slots are empty. -/
def IsMatched (i : Instance R) : Prop :=
  ∀ k, i.states.kind? k = if k ∈ Behavior.needs i.object.behaviors then some k else none

theorem IsMatched.kind? {i : Instance R} (h : i.IsMatched) {b : Behavior R}
    (hb : b ∈ i.object.behaviors) (hremembers : b.kind.remembers = true) :
    i.states.kind? b.kind = some b.kind := by
  rw [h, if_pos (Behavior.mem_needs.2 ⟨hremembers, b, hb, rfl⟩)]

theorem IsMatched.evolves {i j : Instance R} (hij : i.Evolves j) (h : i.IsMatched) :
    j.IsMatched := by
  intro k
  rw [hij.kinds, hij.behaviors]
  exact h k

variable [Scalar R]

theorem isMatched_ofTemplate (o : Object R) : (ofTemplate o).IsMatched := by
  intro k
  have hstarted := BehaviorStates.kind?_foldl_start o.behaviors .empty k
  rwa [BehaviorStates.kind?_empty] at hstarted

theorem IsMatched.isEquipped {i : Instance R} (h : i.IsMatched) : i.IsEquipped := by
  intro b hb hfresh
  rw [BehaviorState.isSome_fresh?] at hfresh
  have hkind := h.kind? hb hfresh
  rw [BehaviorStates.kind?, Option.map_eq_some_iff] at hkind
  rcases hkind with ⟨v, hv, _⟩
  rw [hv]
  rfl

/-- Matched instances stay so. A load does not have to fill anything. -/
theorem lasting_isMatched : Lasting (R := R) IsMatched where
  ofTemplate := isMatched_ofTemplate
  evolves := IsMatched.evolves
  ensureStates := by
    intro i h
    rwa [ensureStates_of_isEquipped h.isEquipped]

/-- None of the behaviors of a matched instance finds nothing to work on when its turn
    comes. -/
theorem IsMatched.lacks_foldl_act [Planar R] {i : Instance R} (h : i.IsMatched) (scene : Scene R)
    (input : Input R) (dt : R) {before after : List (Behavior R)} {b : Behavior R}
    (hb : i.object.behaviors = before ++ b :: after) :
    b.lacks ((before.foldl (Stepped.act scene input dt) ⟨i.mirrorHealth, [], []⟩).subject.states.get
      b.kind) = false := by
  -- The behaviors before have left all states of the kinds of which they have been.
  have hbefore := (evolves_mirrorHealth i).trans
    (Stepped.evolves_foldl_act scene input dt before ⟨i.mirrorHealth, [], []⟩)
  refine Behavior.lacks_of_kind? fun hremembers => ?_
  rw [hbefore.kinds]
  refine h.kind? ?_ hremembers
  rw [hb]
  exact List.mem_append_right _ List.mem_cons_self

end Instance

end Playfield
