import Mathlib
import Playfield.Proofs.Session.Substitution

/-!
# Collisions

What it means that two objects of a scene collide.

A collision names two ids, and each of them is resolved on its own, by one of three rules
(`Session.Means`). The bound id means the instance that it is bound to, and no other. An id that
is live means all that share the name of its instance. An id of which nothing lives any more
means all that share the name of its template.

So the two sides can be the same, or have instances in common, and an instance must not be
found to collide with itself. It is kept from that by its id, and not by its name, which it
shares with the others of its group: where both sides are one group, any two of the group can
collide, and where both sides are the bound instance, nothing can.

None of the two sides is told apart from the other. That boxes overlap is mutual
(`Instance.Overlaps.symm`), whatever numbers they are made of, and everything else that is asked
of two instances is mutual as it stands.

## Main definitions

* `Session.Means`: An instance that an id of a collision means.
* `Instance.Overlaps`: Two boxes share more than an edge.
* `Session.Collide`: Two instances collide.

## Theorems

* `Session.mem_side_iff`: A side of a collision consists of what its id means.
* `Session.means_bound_iff`: The bound id means nothing but the bound instance.
* `Session.touch_iff`: The test of two instances is that they collide.
* `Session.collides_iff`: A collision is a pair that collides.
* `Session.collides_bound`: The bound instance does not collide with itself.
* `Session.collision_pairs`: A collision holds of two ids in either order, and only of a pair.
-/

namespace Playfield

theorem Binding.binds_eq_true_iff {b : Option Binding} {id : String} :
    binds b id = true ↔ ∃ target, b = some ⟨id, target⟩ := by
  constructor
  · intro h
    cases b with
    | none => cases h
    | some b =>
        have hid : b.id = id := beq_iff_eq.1 h
        exact ⟨b.target, by rw [← hid]⟩
  · rintro ⟨target, rfl⟩
    exact beq_self_eq_true id

namespace Instance

variable {R : Type} [Scalar R]

/-- On each axis, each of two boxes begins before the other one ends. -/
structure Overlaps (i j : Instance R) : Prop where
  left : i.object.position.x < j.object.position.x + j.object.scaledSize.width
  right : j.object.position.x < i.object.position.x + i.object.scaledSize.width
  above : i.object.position.y < j.object.position.y + j.object.scaledSize.height
  below : j.object.position.y < i.object.position.y + i.object.scaledSize.height

theorem Overlaps.symm {i j : Instance R} (h : i.Overlaps j) : j.Overlaps i :=
  ⟨h.right, h.left, h.below, h.above⟩

theorem overlaps_iff {i j : Instance R} :
    i.object.box.overlaps j.object.box = true ↔ i.Overlaps j := by
  simp only [Box.overlaps, Bool.and_eq_true, decide_eq_true_eq]
  constructor
  · rintro ⟨⟨⟨hleft, hright⟩, habove⟩, hbelow⟩
    exact ⟨hleft, hright, habove, hbelow⟩
  · intro h
    exact ⟨⟨⟨h.left, h.right⟩, h.above⟩, h.below⟩

end Instance

namespace Session

variable {R B : Type} {s : Session R B} {b : Option Binding} {id : String} {i j : Instance R}

/-- An instance that an id of a collision means. -/
inductive Means (s : Session R B) (b : Option Binding) (id : String) (i : Instance R) : Prop
  /-- The bound id means the instance that it is bound to. -/
  | bound {target : String} : b = some ⟨id, target⟩ → s.roster.get? target = some i →
      Means s b id i
  /-- Another id means what is called as its instance is. -/
  | namesake {j : Instance R} : (∀ target, b ≠ some ⟨id, target⟩) →
      s.roster.get? id = some j → i ∈ s.roster.live → i.name = j.name → Means s b id i
  /-- And if it has no instance any more, what is called as its template is. -/
  | ofTemplate {o : Object R} : (∀ target, b ≠ some ⟨id, target⟩) →
      (∀ j ∈ s.roster.live, j.id ≠ id) → s.scene.object? id = some o →
      i ∈ s.roster.live → i.name = o.name → Means s b id i

/-- What an id means is live. -/
theorem Means.live (h : s.Means b id i) : i ∈ s.roster.live := by
  cases h with
  | bound _ hget => exact List.mem_of_find?_eq_some hget
  | namesake _ _ hlive _ => exact hlive
  | ofTemplate _ _ _ hlive _ => exact hlive

/-- The bound id means nothing else than the bound instance. -/
theorem means_bound_iff {target : String} :
    s.Means (some ⟨id, target⟩) id i ↔ s.roster.get? target = some i := by
  constructor
  · intro h
    cases h with
    | bound hbound hget =>
        cases hbound
        exact hget
    | namesake hfree => exact absurd rfl (hfree target)
    | ofTemplate hfree => exact absurd rfl (hfree target)
  · exact .bound rfl

/-- The name of a group is that of the live instance, and else that of the template. -/
theorem group?_eq_some_iff {name : String} : s.group? id = some name ↔
    (∃ j, s.roster.get? id = some j ∧ name = j.name) ∨
      (∀ j ∈ s.roster.live, j.id ≠ id) ∧ ∃ o, s.scene.object? id = some o ∧ name = o.name := by
  have hgone : s.roster.get? id = none ↔ ∀ j ∈ s.roster.live, j.id ≠ id := by
    simp [Roster.get?]
  rw [← hgone, group?]
  cases s.roster.get? id with
  | none => simp [eq_comm]
  | some j => simp [eq_comm]

/-- A side of a collision consists of what its id means. -/
theorem mem_side_iff : i ∈ s.side b id ↔ s.Means b id i := by
  unfold side
  by_cases hb : Binding.binds b id = true
  · obtain ⟨target, rfl⟩ := Binding.binds_eq_true_iff.1 hb
    have hresolve : Binding.resolve (some ⟨id, target⟩) id = target := if_pos rfl
    rw [if_pos hb, hresolve, Option.mem_toList, means_bound_iff]
  · have hfree : ∀ target, b ≠ some ⟨id, target⟩ :=
      fun target h => hb (Binding.binds_eq_true_iff.2 ⟨target, h⟩)
    rw [if_neg hb, mem_members, group?_eq_some_iff]
    constructor
    · rintro ⟨hlive, ⟨j, hget, hname⟩ | ⟨hgone, o, ho, hname⟩⟩
      · exact .namesake hfree hget hlive hname
      · exact .ofTemplate hfree hgone ho hlive hname
    · intro h
      cases h with
      | bound hbound => exact absurd hbound (hfree _)
      | namesake _ hget hlive hname => exact ⟨hlive, .inl ⟨_, hget, hname⟩⟩
      | ofTemplate _ hgone ho hlive hname => exact ⟨hlive, .inr ⟨hgone, _, ho, hname⟩⟩

variable [Scalar R]

/-- Two live instances with ids of their own can be seen and overlap. -/
structure Collide (s : Session R B) (i j : Instance R) : Prop where
  live : i ∈ s.roster.live ∧ j ∈ s.roster.live
  visible : i.object.visible = true ∧ j.object.visible = true
  apart : i.id ≠ j.id
  overlap : i.Overlaps j

theorem Collide.symm (h : s.Collide i j) : s.Collide j i :=
  ⟨h.live.symm, h.visible.symm, h.apart.symm, h.overlap.symm⟩

theorem touch_iff (hi : i ∈ s.roster.live) (hj : j ∈ s.roster.live) :
    touch i j = true ↔ s.Collide i j := by
  simp only [touch, Bool.and_eq_true, bne_iff_ne, Instance.overlaps_iff]
  constructor
  · rintro ⟨⟨⟨hid, hvi⟩, hvj⟩, hoverlap⟩
    exact ⟨⟨hi, hj⟩, ⟨hvi, hvj⟩, hid, hoverlap⟩
  · intro h
    exact ⟨⟨⟨h.apart, h.visible.1⟩, h.visible.2⟩, h.overlap⟩

/-- A collision is a pair that collides, one from each side. -/
theorem collides_iff {id₁ id₂ : String} : s.collides b id₁ id₂ = true ↔
    ∃ i j, s.Means b id₁ i ∧ s.Means b id₂ j ∧ s.Collide i j := by
  simp only [collides, List.any_eq_true, mem_side_iff]
  constructor
  · rintro ⟨i, hi, j, hj, htouch⟩
    exact ⟨i, j, hi, hj, (touch_iff hi.live hj.live).1 htouch⟩
  · rintro ⟨i, j, hi, hj, hcollide⟩
    exact ⟨i, hi, j, hj, (touch_iff hi.live hj.live).2 hcollide⟩

theorem collides_comm (s : Session R B) (b : Option Binding) (id₁ id₂ : String) :
    s.collides b id₁ id₂ = s.collides b id₂ id₁ := by
  have hswap {id₁ id₂ : String} (h : s.collides b id₁ id₂ = true) :
      s.collides b id₂ id₁ = true := by
    rw [collides_iff] at h ⊢
    obtain ⟨i, j, hi, hj, hcollide⟩ := h
    exact ⟨j, i, hj, hi, hcollide.symm⟩
  exact Bool.eq_iff_iff.2 ⟨hswap, hswap⟩

/-- The bound instance does not collide with itself. -/
theorem collides_bound (s : Session R B) (b : Binding) :
    s.collides (some b) b.id b.id = false := by
  rw [Bool.eq_false_iff, ne_eq, collides_iff]
  rintro ⟨i, j, hi, hj, hcollide⟩
  have hsame : some i = some j := (means_bound_iff.1 hi).symm.trans (means_bound_iff.1 hj)
  rw [Option.some_inj] at hsame
  exact hcollide.apart (congrArg Instance.id hsame)

variable [Numeral R] [Planar R]

/-- The order of the two ids of a collision does not matter, and it holds if and only if two
    instances collide, of which the first is meant by the first id and the second by the
    second. The bound instance does not collide with itself. -/
theorem collision_pairs (s : Session R B) (event condition : String) (b : Option Binding)
    (id₁ id₂ : String) :
    s.holds event b ⟨condition, .collision id₁ id₂⟩ =
        s.holds event b ⟨condition, .collision id₂ id₁⟩ ∧
      ((s.holds event b ⟨condition, .collision id₁ id₂⟩).1 = true ↔
        ∃ i j, s.Means b id₁ i ∧ s.Means b id₂ j ∧ s.Collide i j) ∧
      ∀ c : Binding, (s.holds event (some c) ⟨condition, .collision c.id c.id⟩).1 = false := by
  refine ⟨?_, ?_, ?_⟩
  · exact congrArg (·, s.memory) (s.collides_comm b id₁ id₂)
  · exact collides_iff
  · exact s.collides_bound

end Session

end Playfield
