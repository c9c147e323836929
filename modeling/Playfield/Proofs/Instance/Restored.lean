import Mathlib
import Playfield.Proofs.Instance.Finite
import Playfield.Proofs.Instance.Equipped
import Playfield.Scalar.Double

/-!
# Restored and Fresh States

Two ways to give an instance its behavior states.

A fresh copy of a template is given a state for each of its behaviors, one after the other.
An instance that comes back from a save is given those that it lacks. There is one slot for
each kind of behavior, so with two behaviors of one kind the ways part: what is given later
replaces what is there, and what is missing is only missing once. A fresh copy remembers what
the last behavior of a kind wants, and a restored instance what the first one wants.

Only health can show the difference. All other behaviors of one kind begin alike, but each
health behavior has a maximum of its own to begin with. So an instance whose states are lost
and filled in again is the fresh copy exactly if its first and its last health behavior have
the same maximum. What is in a slot is never touched, and nothing is missing afterwards.

## Main definitions

* `BehaviorState.freshIn?`: What a behavior puts into a slot at first.
* `Instance.bare`: A copy of a template whose states are lost.

## Theorems

* `BehaviorStates.get_foldl_start`: Of what is started the last counts.
* `BehaviorStates.get_foldl_ensure`: Of what is filled in the first counts.
* `BehaviorState.freshIn?_alike`: Without health all behaviors of a kind begin alike.
* `Instance.ensureStates_restores`: When filling in gives a fresh copy.
-/

namespace Playfield

variable {R : Type}

/-- Where a search can only find one thing, it does not matter from which end it starts. -/
theorem findSome?_reverse_of_alike {α β : Type} {f : α → Option β} {xs : List α}
    (h : ∀ {a b : α} {v w : β}, f a = some v → f b = some w → v = w) :
    xs.reverse.findSome? f = xs.findSome? f := by
  cases hfirst : xs.findSome? f with
  | none =>
      rw [List.findSome?_eq_none_iff] at hfirst ⊢
      exact fun a ha => hfirst a (List.mem_reverse.1 ha)
  | some v =>
      rcases List.exists_of_findSome?_eq_some hfirst with ⟨a, ha, hv⟩
      have hfound : (xs.reverse.findSome? f).isSome := by
        rw [List.findSome?_isSome_iff]
        exact ⟨a, List.mem_reverse.2 ha, by rw [hv]; rfl⟩
      rcases Option.isSome_iff_exists.1 hfound with ⟨w, hw⟩
      rcases List.exists_of_findSome?_eq_some hw with ⟨b, _, hbw⟩
      rw [hw, h hbw hv]

section States

variable [Scalar R]

/-- What a behavior puts into the slot of a kind at first. -/
def BehaviorState.freshIn? (k : Behavior.Kind) (b : Behavior R) : Option (BehaviorState R) :=
  if b.kind = k then fresh? b else none

/-- Without health all behaviors of a kind begin alike. -/
theorem BehaviorState.freshIn?_alike {k : Behavior.Kind} (hk : k ≠ .health) {a b : Behavior R}
    {v w : BehaviorState R} (ha : freshIn? k a = some v) (hb : freshIn? k b = some w) : v = w := by
  unfold freshIn? at ha hb
  split at ha
  · next hka =>
    split at hb
    · next hkb =>
      subst hka
      cases a <;> cases b <;> cases hkb <;> cases ha <;> cases hb
      -- Health is all that could differ, and buttons and what turns remember nothing.
      · rfl
      · rfl
      · rfl
      · exact absurd rfl hk
    · cases hb
  · cases ha

namespace BehaviorStates

theorem get_start (s : BehaviorStates R) (b : Behavior R) (k : Behavior.Kind) :
    (s.start b).get k = (BehaviorState.freshIn? k b).or (s.get k) := by
  unfold start BehaviorState.freshIn?
  split
  · next hnone => rw [hnone, ite_self, Option.none_or]
  · next v hv =>
    rw [get_set, hv]
    split
    · rw [Option.some_or]
    · rw [Option.none_or]

theorem get_ensure (s : BehaviorStates R) (b : Behavior R) (k : Behavior.Kind) :
    (s.ensure b).get k = (s.get k).or (BehaviorState.freshIn? k b) := by
  unfold ensure
  split
  · next hfilled =>
    by_cases hk : b.kind = k
    · rcases Option.isSome_iff_exists.1 hfilled with ⟨v, hv⟩
      rw [← hk, hv, Option.some_or]
    · rw [BehaviorState.freshIn?, if_neg hk, Option.or_none]
  · next hempty =>
    rw [get_start]
    by_cases hk : b.kind = k
    · have hnone : s.get k = none := by simpa [hk] using hempty
      rw [hnone, Option.or_none, Option.none_or]
    · rw [BehaviorState.freshIn?, if_neg hk, Option.none_or, Option.or_none]

/-- Of what is started the last counts. -/
theorem get_foldl_start (bs : List (Behavior R)) (s : BehaviorStates R) (k : Behavior.Kind) :
    (bs.foldl start s).get k =
      (bs.reverse.findSome? (BehaviorState.freshIn? k)).or (s.get k) := by
  induction bs generalizing s with
  | nil => rfl
  | cons b bs ih =>
      rw [List.foldl_cons, ih, get_start, List.reverse_cons, List.findSome?_append, Option.or_assoc,
        List.findSome?_singleton]

/-- Of what is filled in the first counts, unless the slot was filled before. -/
theorem get_foldl_ensure (bs : List (Behavior R)) (s : BehaviorStates R) (k : Behavior.Kind) :
    (bs.foldl ensure s).get k = (s.get k).or (bs.findSome? (BehaviorState.freshIn? k)) := by
  induction bs generalizing s with
  | nil => rw [List.findSome?_nil, Option.or_none, List.foldl_nil]
  | cons b bs ih =>
      rw [List.foldl_cons, ih, get_ensure, Option.or_assoc, List.findSome?_cons]
      cases BehaviorState.freshIn? k b <;> rfl

end BehaviorStates

namespace Instance

/-- A copy of a template whose states are lost. -/
def bare (o : Object R) : Instance R := { ofTemplate o with states := .empty }

/-- A copy whose states are lost gets back what the first behavior of each kind begins with,
    where a fresh copy has what the last one begins with. That is the same for all kinds but
    health, so it is the fresh copy if the first and the last health behavior agree, and only
    then. Filling in twice is filling in once, and a filled slot keeps what is in it. -/
theorem ensureStates_restores :
    (∀ o : Object R,
      (∀ k, (bare o).ensureStates.states.get k =
        o.behaviors.findSome? (BehaviorState.freshIn? k)) ∧
      (∀ k, (ofTemplate o).states.get k =
        o.behaviors.reverse.findSome? (BehaviorState.freshIn? k)) ∧
      ((bare o).ensureStates = ofTemplate o ↔
        o.behaviors.findSome? (BehaviorState.freshIn? .health) =
          o.behaviors.reverse.findSome? (BehaviorState.freshIn? .health))) ∧
    ∀ i : Instance R, i.ensureStates.ensureStates = i.ensureStates ∧
      ∀ k, i.ensureStates.states.get k =
        (i.states.get k).or (i.object.behaviors.findSome? (BehaviorState.freshIn? k)) := by
  have hensured (i : Instance R) (k : Behavior.Kind) := BehaviorStates.get_foldl_ensure
    i.object.behaviors i.states k
  refine ⟨fun o => ?_, fun i => ⟨ensureStates_of_isEquipped i.isEquipped_ensureStates, hensured i⟩⟩
  have hfirst (k : Behavior.Kind) : (bare o).ensureStates.states.get k =
      o.behaviors.findSome? (BehaviorState.freshIn? k) :=
    (hensured (bare o) k).trans (by rw [bare, BehaviorStates.get_empty, Option.none_or]; rfl)
  have hlast (k : Behavior.Kind) : (ofTemplate o).states.get k =
      o.behaviors.reverse.findSome? (BehaviorState.freshIn? k) :=
    (BehaviorStates.get_foldl_start o.behaviors .empty k).trans
      (by rw [BehaviorStates.get_empty, Option.or_none])
  refine ⟨hfirst, hlast, fun h => ?_, fun hhealth => ?_⟩
  · rw [← hfirst, h, hlast]
  · have hstates : (bare o).ensureStates.states = (ofTemplate o).states := by
      refine BehaviorStates.ext_get fun k => ?_
      rw [hfirst, hlast]
      by_cases hk : k = .health
      · rw [hk, hhealth]
      · exact (findSome?_reverse_of_alike (BehaviorState.freshIn?_alike hk)).symm
    -- Nothing but the states has been lost.
    exact congrArg (fun states => { ofTemplate o with states := states }) hstates

end Instance

end States

/-- A sprite with two health behaviors of different maxima. -/
def Object.hardy {R : Type} [Scalar R] : Object R :=
  ⟨"hardy", "Hardy", .zero, ⟨1, 1⟩, 1, 0, .empty, "Main", true, .empty, [],
    [.health 1 0, .health 2 0], .sprite ⟨none, [], none⟩⟩

/-- Its fresh copy has the health of the second, and a restored one that of the first. -/
theorem Instance.restored_ne_fresh :
    (Instance.ofTemplate (.hardy : Object Float)).health? = some 2 ∧
      (Instance.bare (.hardy : Object Float)).ensureStates.health? = some 1 ∧
      (Instance.bare (.hardy : Object Float)).ensureStates ≠ Instance.ofTemplate .hardy := by
  refine ⟨rfl, rfl, fun h => ?_⟩
  have hhealth : some (1 : Float) = some 2 := congrArg Instance.health? h
  exact absurd hhealth (by decide)

end Playfield
