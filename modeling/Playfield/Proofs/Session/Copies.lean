import Mathlib
import Playfield.Proofs.Session.Follows
import Playfield.Proofs.Session.Origins

/-!
# Copies

What the new instances of a tick are copies of, and what they take from the supply.

Behaviors that fire and actions that fire or create make copies of objects of the
active scene, and of nothing else. So a new instance has the name of such an object
(`Instance.IsCopy`), and a suffix is taken for each of them and for nothing else
(`Session.Takes`).

## Main definitions

* `Instance.IsCopy`: An instance with the name of an object of a scene.
* `Session.Takes`: A number of suffixes has been taken.

## Theorems

* `Instance.isCopy_of_step_spawns`: What behaviors spawn are copies.
* `Deed.isCopy_newcomer?`: So are the new instances of actions.
* `Session.takes_perform`: An action takes a suffix for each copy.
-/

namespace Playfield

section Copies

variable {R : Type}

/-- An instance with the name of an object of a scene. -/
def Instance.IsCopy (scene : Scene R) (i : Instance R) : Prop :=
  ∃ o ∈ scene.objects, o.name = i.name

theorem Scene.mem_of_template? {scene : Scene R} {name : String} {template : Object R}
    (h : scene.template? name = some template) : template ∈ scene.objects :=
  List.mem_of_find?_eq_some h

theorem Instance.IsCopy.known {p : Project R} {scene : Scene R} {i : Instance R}
    (h : i.IsCopy scene) (hscene : scene ∈ p.scenes) : ∃ o ∈ p.objects, o.name = i.name := by
  rcases h with ⟨o, ho, hname⟩
  exact ⟨o, List.mem_flatMap.2 ⟨scene, hscene, ho⟩, hname⟩

theorem Session.name_withPicture {B : Type} (s : Session R B) (source : String) (i : Instance R) :
    (s.withPicture source i).2.name = i.name := by
  unfold withPicture
  split
  · rfl
  · split <;> rfl

variable [Scalar R] [Planar R]

theorem Instance.isCopy_of_step_spawns (scene : Scene R) (input : Input R) (dt : R)
    (i : Instance R) : ∀ j ∈ (i.step scene input dt).spawns, j.IsCopy scene := by
  intro j hj
  rcases exists_projectile_of_mem_spawns scene input dt hj with ⟨_, template, _, _, ht, rfl⟩
  exact ⟨template, Scene.mem_of_template? ht, rfl⟩

theorem Deed.isCopy_newcomer? {B : Type} {d : Deed R B} {i : Instance R}
    (h : d.newcomer? = some i) : i.IsCopy d.session.scene := by
  rcases cases_newcomer? h with ⟨_, template, _, _, ht, rfl⟩ | ⟨c, j, _, hj, rfl⟩
  · exact ⟨template, Scene.mem_of_template? ht, rfl⟩
  · obtain ⟨template, _, _, ht, rfl⟩ := Session.exists_of_creature? hj
    refine ⟨template, Scene.mem_of_template? ht, ?_⟩
    rw [Session.name_withPicture]
    rfl

end Copies

namespace Session

variable {R B : Type} {s t : Session R B}

/-- A number of suffixes has been taken. -/
structure Takes (s : Session R B) (n : Nat) (t : Session R B) : Prop where
  suffix : t.supply.suffix = s.supply.suffix
  taken : t.supply.suffixesTaken = s.supply.suffixesTaken + n

theorem takes_of_eq (h : t.supply = s.supply) : Takes s 0 t :=
  ⟨congrArg Supply.suffix h, congrArg Supply.suffixesTaken h⟩

theorem takes_spawn (h : t.supply = s.supply) (i : Instance R) : Takes s 1 (t.spawn i) := by
  refine ⟨?_, ?_⟩
  · rw [← h]
    rfl
  · rw [← h]
    rfl

theorem takes_create [Scalar R] [Planar R] (s : Session R B) (binding : Option Binding) (a : String)
    (c : Creation R) :
    Takes s (Deed.spawns ⟨s, binding, ⟨a, .create c⟩⟩).length (s.create binding c) := by
  simp only [create, Deed.spawns, Deed.newcomer?]
  cases s.creature? binding c with
  | none => exact takes_of_eq rfl
  | some i => exact takes_spawn (supply_withPicture s c.sprite i) _

variable [Scalar R] [Numeral R] [Planar R]

theorem supply_change (s : Session R B) (id : String) (dt : R) (order : Order R) :
    (s.change id dt order).supply = s.supply := by
  unfold change change?
  cases (s.roster.get? id).bind fun i => order.result? dt i with
  | none => rfl
  | some i => rfl

theorem supply_setPicture (s : Session R B) (id : String) (dt : R) (source : String) :
    (s.setPicture id dt source).supply = s.supply := by
  unfold setPicture change?
  cases (s.roster.get? id).bind fun i => (Order.setPicture source).result? dt i with
  | none => rfl
  | some i => rfl

theorem takes_affect (s : Session R B) (binding : Option Binding) (dt : R) (a target : String)
    (e : Effect R) :
    Takes s (Deed.spawns ⟨s, binding, ⟨a, .object target e⟩⟩).length
      (s.affect binding dt (Binding.resolve binding target) e) := by
  cases e
  case destroy =>
    simp only [affect, destroy]
    split <;> exact takes_of_eq rfl
  case setSprite source => exact takes_of_eq (supply_setPicture s _ dt source)
  case fire bullet point =>
    simp only [affect, fire, Deed.spawns, Deed.newcomer?]
    cases s.shot? (Binding.resolve binding target) bullet point with
    | none => exact takes_of_eq rfl
    | some i => exact takes_spawn rfl i
  -- The other effects make nothing new.
  all_goals
    simp only [affect]
    split
    · exact takes_of_eq (supply_change s _ dt _)
    · exact takes_of_eq rfl

variable [AudioOutput R B] [DecidableEq R]

/-- An action takes a suffix for each copy that it makes. -/
theorem takes_perform (s : Session R B) (binding : Option Binding) (dt : R) (a : Action R) :
    Takes s (Deed.spawns ⟨s, binding, a⟩).length (perform binding dt s a) := by
  rcases a with ⟨id, kind⟩
  cases kind <;> simp only [perform]
  case object target e => exact takes_affect s binding dt id target e
  case create c => exact takes_create s binding id c
  case changeGlobal name op value =>
    unfold changeGlobal
    split <;> exact takes_of_eq rfl
  case save slot =>
    -- A save takes a time, which is not a suffix.
    rcases exists_save s slot with ⟨store, hstore⟩
    rw [hstore]
    exact ⟨rfl, rfl⟩
  case clearSave slot =>
    rcases exists_clearSave s slot with ⟨store, hstore⟩
    rw [hstore]
    exact takes_of_eq rfl
  all_goals exact takes_of_eq rfl

end Session

end Playfield
