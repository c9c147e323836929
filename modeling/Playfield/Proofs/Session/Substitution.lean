import Mathlib
import Playfield.Proofs.Session.Load

/-!
# Bindings Are Substitutions

What it means that an id stands for another one.

While an event goes through a group, its conditions and actions run under a binding, and the
binding is resolved wherever one of them looks up an id. So there are as many places where
that could be forgotten as there are ids in the vocabulary. The binding can also be done
away with beforehand: what is asked or done is rewritten, each id that is bound being
replaced, and runs without any binding. Both come to the same, for every kind of action and
nearly every kind of condition.

Which ids are replaced is not left to the rewriting. They are those that an action or a
condition is said to name, all of them and no others (`Action.Kind.references_rename`,
`Action.Kind.rename_congr` and their like): the ones by which a document is checked are the
ones that are looked up.

A collision is the exception. There an id stands for all of its group, unless it is the
bound one, and once an id is rewritten nobody can tell that it was. So a collision is
described by what its sides stand for (`Session.StandsFor`).

## Main definitions

* `Action.Kind.rename`, `Condition.Kind.rename`: Other ids in place of those that are named.
* `Binding.replace`: The replacement that a binding amounts to.
* `Session.StandsFor`: An instance that a side of a collision stands for.

## Theorems

* `Action.Kind.references_rename`, `Condition.Kind.references_rename`: All ids that are
  named are replaced.
* `Action.Kind.rename_congr`, `Condition.Kind.rename_congr`: No others are.
* `Session.perform_rename`, `Session.holds_rename`: Rewriting does what a binding does.
* `Session.members_eq`: The members of a group are the live instances of its name.
* `Session.mem_side`: What a side of a collision stands for.
* `Session.binding_substitutes`: A binding is a substitution.
-/

namespace Playfield

section Documents

variable {R : Type} {f g : String → String}

/-- The placement at another anchor. -/
def Placement.rename (f : String → String) (p : Placement R) : Placement R :=
  { p with anchor := p.anchor.map f }

/-- The effect with other ids in place of those that it names. -/
def Effect.rename (f : String → String) : Effect R → Effect R
  | .moveTowards goal speed => .moveTowards (f goal) speed
  | .place p => .place (p.rename f)
  | e => e

theorem Effect.references_rename (e : Effect R) :
    Action.effectReferences (e.rename f) = (Action.effectReferences e).map f := by
  cases e
  case place p => exact Option.toList_map
  all_goals rfl

theorem Placement.rename_congr {p : Placement R} (h : ∀ id ∈ p.anchor.toList, f id = g id) :
    p.rename f = p.rename g := by
  have hanchor : p.anchor.map f = p.anchor.map g :=
    Option.map_congr fun id hid => h id (Option.mem_toList.2 hid)
  unfold rename
  rw [hanchor]

theorem Effect.rename_congr {e : Effect R} (h : ∀ id ∈ Action.effectReferences e, f id = g id) :
    e.rename f = e.rename g := by
  cases e
  case place p => exact congrArg Effect.place (Placement.rename_congr h)
  case moveTowards goal speed =>
    exact congrArg (Effect.moveTowards · speed) (h goal (List.mem_singleton_self goal))
  all_goals rfl

namespace Action.Kind

/-- The kind of action with other ids in place of those that it names. -/
def rename (f : String → String) : Kind R → Kind R
  | .object target e => .object (f target) (e.rename f)
  | .create c => .create { c with placement := c.placement.rename f }
  | .camera (.follow target) => .camera (.follow (target.map f))
  | .camera (.fit ids padding) => .camera (.fit (ids.map f) padding)
  | k => k

/-- All ids that an action names are replaced. -/
theorem references_rename (f : String → String) (k : Kind R) :
    (k.rename f).references = k.references.map f := by
  cases k
  case object target e => exact congrArg (f target :: ·) e.references_rename
  case create c => exact Option.toList_map
  case camera c =>
    cases c
    case follow target => exact Option.toList_map
    all_goals rfl
  all_goals rfl

/-- No others are: of a replacement it matters only what it does to those. -/
theorem rename_congr {k : Kind R} (h : ∀ id ∈ k.references, f id = g id) :
    k.rename f = k.rename g := by
  cases k
  case object target e =>
    have hs := List.forall_mem_cons.1 h
    exact congrArg₂ Kind.object hs.1 (Effect.rename_congr hs.2)
  case create c =>
    exact congrArg (fun p => Kind.create { c with placement := p }) (Placement.rename_congr h)
  case camera c =>
    cases c
    case follow target =>
      exact congrArg (fun t => Kind.camera (.follow t))
        (Option.map_congr fun id hid => h id (Option.mem_toList.2 hid))
    case fit ids padding =>
      exact congrArg (fun t => Kind.camera (.fit t padding)) (List.map_congr_left h)
    all_goals rfl
  all_goals rfl

theorem rename_self (k : Kind R) : k.rename (fun id => id) = k := by
  cases k
  case object target e =>
    cases e
    case place p => simp [rename, Effect.rename, Placement.rename]
    all_goals rfl
  case create c => simp [rename, Placement.rename]
  case camera c => cases c <;> simp [rename]
  all_goals rfl

end Action.Kind

namespace Condition.Kind

/-- The kind of condition with other ids in place of those that it names. -/
def rename (f : String → String) : Kind R → Kind R
  | .object id t => .object (f id) t
  | .clicked id => .clicked (f id)
  | .forEach id => .forEach (f id)
  | .groupSize id op size => .groupSize (f id) op size
  | .collision id₁ id₂ => .collision (f id₁) (f id₂)
  | .distance id₁ id₂ op x => .distance (f id₁) (f id₂) op x
  | k => k

/-- All ids that a condition names are replaced. -/
theorem references_rename (f : String → String) (k : Kind R) :
    (k.rename f).references = k.references.map f := by
  cases k <;> rfl

/-- No others are. -/
theorem rename_congr {k : Kind R} (h : ∀ id ∈ k.references, f id = g id) :
    k.rename f = k.rename g := by
  cases k <;> simp_all [rename, references]

theorem rename_self (k : Kind R) : k.rename (fun id => id) = k := by
  cases k <;> rfl

end Condition.Kind

end Documents

namespace Binding

/-- The replacement that a binding amounts to. -/
def replace (b : Binding) (id : String) : String := if id = b.id then b.target else id

theorem resolve_some (b : Binding) : resolve (some b) = b.replace := by
  funext id
  exact if_congr eq_comm rfl rfl

theorem map_resolve_none (id : Option String) : id.map (resolve none) = id := Option.map_id'

end Binding

namespace Session

variable {R B : Type} (s : Session R B)

/-- An instance that a side of a collision stands for: the bound one, if it is the bound id,
    and otherwise each one of its group. -/
def StandsFor (b : Binding) (id : String) (i : Instance R) : Prop :=
  if id = b.id then s.roster.get? b.target = some i
  else i ∈ s.roster.live ∧ s.group? id = some i.name

theorem members_eq (id : String) :
    s.members id = s.roster.live.filter fun i => s.group? id = some i.name := by
  unfold members
  cases s.group? id with
  | none => simp
  | some name =>
      refine List.filter_congr fun i _ => ?_
      rw [Bool.eq_iff_iff, beq_iff_eq, decide_eq_true_iff, Option.some_inj, eq_comm]

theorem mem_members (id : String) (i : Instance R) :
    i ∈ s.members id ↔ i ∈ s.roster.live ∧ s.group? id = some i.name := by
  rw [members_eq, List.mem_filter, decide_eq_true_iff]

theorem mem_side (b : Binding) (id : String) (i : Instance R) :
    i ∈ s.side (some b) id ↔ s.StandsFor b id i := by
  unfold side StandsFor
  rw [Binding.resolve_some]
  by_cases h : id = b.id
  · rw [if_pos h, if_pos (by simp [Binding.binds, h]), Option.mem_toList, Binding.replace, if_pos h]
  · rw [if_neg h, if_neg (by simp [Binding.binds, Ne.symm h]), mem_members]

variable [Scalar R]

theorem area?_rename (binding : Option Binding) (ids : List String) :
    s.area? none (ids.map (Binding.resolve binding)) = s.area? binding ids := by
  unfold area?
  rw [List.filterMap_map]
  rfl

variable [Planar R]

/-- Where something is put is found with the anchor replaced. -/
theorem place?_rename (binding : Option Binding) (p : Placement R) :
    s.place? none (p.rename (Binding.resolve binding)) = s.place? binding p := by
  unfold place? Placement.rename
  rw [Binding.map_resolve_none]

theorem create_rename (binding : Option Binding) (c : Creation R) :
    s.create none { c with placement := c.placement.rename (Binding.resolve binding) } =
      s.create binding c := by
  have hcreature : s.creature? none
      { c with placement := c.placement.rename (Binding.resolve binding) } =
        s.creature? binding c := by
    unfold creature?
    dsimp only
    rw [place?_rename]
  unfold create
  rw [hcreature]

theorem order?_rename [Numeral R] (binding : Option Binding) (e : Effect R) :
    s.order? none (e.rename (Binding.resolve binding)) = s.order? binding e := by
  cases e
  case place p => exact congrArg (Option.map Order.moveTo) (s.place?_rename binding p)
  all_goals rfl

variable [Numeral R]

/-- A condition under a binding is the rewritten condition without one, unless it is about a
    collision. -/
theorem holds_rename (event : String) (binding : Option Binding) {c : Condition R}
    (hc : ∀ id₁ id₂, c.kind ≠ .collision id₁ id₂) :
    s.holds event none { c with kind := c.kind.rename (Binding.resolve binding) } =
      s.holds event binding c := by
  rcases c with ⟨id, kind⟩
  cases kind
  case collision id₁ id₂ => exact absurd rfl (hc id₁ id₂)
  all_goals rfl

/-- A collision looks for two overlapping instances that its sides stand for. -/
theorem holds_collision (event : String) (b : Binding) (id id₁ id₂ : String) :
    (s.holds event (some b) ⟨id, .collision id₁ id₂⟩).2 = s.memory ∧
      ((s.holds event (some b) ⟨id, .collision id₁ id₂⟩).1 = true ↔
        ∃ i j, s.StandsFor b id₁ i ∧ s.StandsFor b id₂ j ∧ touch i j = true) := by
  refine ⟨rfl, ?_⟩
  simp only [holds, collides, List.any_eq_true, mem_side]
  constructor
  · rintro ⟨i, hi, j, hj, htouch⟩
    exact ⟨i, j, hi, hj, htouch⟩
  · rintro ⟨i, j, hi, hj, htouch⟩
    exact ⟨i, hi, j, hj, htouch⟩

theorem affect_rename (binding : Option Binding) (dt : R) (id : String) (e : Effect R) :
    s.affect none dt id (e.rename (Binding.resolve binding)) = s.affect binding dt id e := by
  have horder := s.order?_rename binding e
  -- Three effects do without an order, and the rest differ in how it is found.
  cases e
  case destroy | setSprite | fire => rfl
  all_goals
    simp only [Effect.rename] at horder ⊢
    simp only [affect, horder]

variable [AudioOutput R B] [DecidableEq R]

/-- An action under a binding is the rewritten action without one. -/
theorem perform_rename (binding : Option Binding) (dt : R) (a : Action R) :
    perform none dt s { a with kind := a.kind.rename (Binding.resolve binding) } =
      perform binding dt s a := by
  rcases a with ⟨id, kind⟩
  cases kind
  case object target e => exact s.affect_rename binding dt _ e
  case create c => exact s.create_rename binding c
  case camera c =>
    cases c
    case follow target =>
      simp only [perform, Action.Kind.rename, steer, Binding.map_resolve_none]
    case fit ids padding =>
      simp only [perform, Action.Kind.rename, steer, area?_rename]
    all_goals rfl
  all_goals rfl

/-- A binding is a substitution. The ids that are replaced are those that an action or a
    condition names. With them replaced an action does without the binding what it did under
    it, and a condition is answered in the same way. A side of a collision stands for the
    bound instance if its id is the bound one, and for its group if not. -/
theorem binding_substitutes (b : Binding) :
    (∀ k : Action.Kind R, (k.rename b.replace).references = k.references.map b.replace ∧
      ((∀ id ∈ k.references, id ≠ b.id) → k.rename b.replace = k)) ∧
    (∀ k : Condition.Kind R, (k.rename b.replace).references = k.references.map b.replace ∧
      ((∀ id ∈ k.references, id ≠ b.id) → k.rename b.replace = k)) ∧
    (∀ (s : Session R B) (dt : R) (a : Action R),
      perform (some b) dt s a = perform none dt s { a with kind := a.kind.rename b.replace }) ∧
    (∀ (s : Session R B) (event : String) (c : Condition R),
      (∀ id₁ id₂, c.kind ≠ .collision id₁ id₂) →
        s.holds event (some b) c =
          s.holds event none { c with kind := c.kind.rename b.replace }) ∧
    ∀ (s : Session R B) (event id id₁ id₂ : String),
      (s.holds event (some b) ⟨id, .collision id₁ id₂⟩).2 = s.memory ∧
        ((s.holds event (some b) ⟨id, .collision id₁ id₂⟩).1 = true ↔
          ∃ i j, s.StandsFor b id₁ i ∧ s.StandsFor b id₂ j ∧ touch i j = true) := by
  -- An id that is not the bound one stays what it is.
  have hother (ids : List String) (h : ∀ id ∈ ids, id ≠ b.id) : ∀ id ∈ ids, b.replace id = id :=
    fun id hid => if_neg (h id hid)
  refine ⟨fun k => ⟨k.references_rename _, fun h => ?_⟩, fun k => ⟨k.references_rename _,
    fun h => ?_⟩, ?_, ?_, fun s event id id₁ id₂ => s.holds_collision event b id id₁ id₂⟩
  · rw [Action.Kind.rename_congr (hother _ h), Action.Kind.rename_self]
  · rw [Condition.Kind.rename_congr (hother _ h), Condition.Kind.rename_self]
  · intro s dt a
    rw [← Binding.resolve_some, perform_rename]
  · intro s event c hc
    rw [← Binding.resolve_some, holds_rename s event (some b) hc]

end Session

/-- A rock of some id. -/
def Object.rock (id : String) : Object Float :=
  ⟨id, "Rock", ⟨0, 0⟩, ⟨1, 1⟩, 1, 0, .empty, "Main", true, .empty, [], [],
    .sprite ⟨none, [], none⟩⟩

/-- A session in which some rocks lie on each other. -/
def Session.ofRocks (ids : List String) : Session Float (SilentOutput Float) :=
  { Session.ofActions [] with roster := .ofLive (ids.map fun id => .ofTemplate (.rock id)) }

namespace Session

/-- With the first of two rocks standing for the second, the second is destroyed in its place.
    It collides with the group of rocks, and not with itself. -/
theorem binding_substitutes_rocks :
    let s := ofRocks ["a", "b"]
    let b : Binding := ⟨"a", "b"⟩
    perform (some b) 1 s ⟨"1", .object "a" .destroy⟩ =
        perform none 1 s ⟨"1", .object "b" .destroy⟩ ∧
      (perform (some b) 1 s ⟨"1", .object "a" .destroy⟩).roster.destroys = ["b"] ∧
      s.holds "e" (some b) ⟨"2", .clicked "a"⟩ = s.holds "e" none ⟨"2", .clicked "b"⟩ ∧
      (∃ i j, s.StandsFor b "a" i ∧ s.StandsFor b "b" j ∧ touch i j = true) ∧
      ¬ ∃ i j, s.StandsFor b "a" i ∧ s.StandsFor b "a" j ∧ touch i j = true := by
  intro s b
  have h := binding_substitutes (R := Float) (B := SilentOutput Float) b
  refine ⟨h.2.2.1 s 1 ⟨"1", .object "a" .destroy⟩, by decide +kernel, ?_, ?_, ?_⟩
  · exact h.2.2.2.1 s "e" ⟨"2", .clicked "a"⟩ (by simp)
  · exact (h.2.2.2.2 s "e" "3" "a" "b").2.1 (by decide +kernel)
  · rw [← (h.2.2.2.2 s "e" "3" "a" "a").2]
    decide +kernel

end Session

end Playfield
