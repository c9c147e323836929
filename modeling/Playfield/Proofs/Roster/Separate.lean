import Mathlib
import Playfield.Proofs.Instance.Confined

/-!
# Instances Step Apart

That the instances of a roster do not see one another when they step.

A step of the roster is a step of each instance, and the two can be told apart only by the
supply of ids, which is handed from one instance to the next. So there are two accounts of
it. With the supply handed on, a step of the roster is exactly a step of one small roster
after the other, each with one instance in it (`Roster.stepEach`). Without the generated
ids no order is left at all: what an instance becomes, what it asks for and what it
destroys are the same as if it were alone, whatever ids the supply has for it. All that
is said of a permutation of the instances, or of some of them, follows.

Of the scene a step reads the templates by their names, and nothing else.

## Main definitions

* `Instance.anonymous`: An instance without its id.
* `Roster.append`: Two rosters in one.
* `Roster.stepEach`: Instances that step one after the other, each in a roster of its own.
* `Roster.StepsApart`: No instance sees another.

## Theorems

* `Supply.map_nameAll`: What does not depend on ids is not changed by them.
* `Stepped.act_congr`, `Instance.step_congr`: A step reads the templates only.
* `Roster.step_eq_stepEach`: A step of a roster is a step of each of its instances.
* `Roster.stepsApart`: Instances step apart.
-/

namespace Playfield

/-- An instance without its id. -/
def Instance.anonymous {R : Type} (i : Instance R) : Instance R :=
  { i with object := { i.object with id := "" } }

namespace Supply

variable {R α : Type}

/-- What does not depend on ids is not changed by them. -/
theorem map_nameAll {key : Instance R → α} (hkey : ∀ i suffix, key (i.named suffix) = key i)
    (s : Supply) (is : List (Instance R)) : (s.nameAll is).1.map key = is.map key := by
  induction is generalizing s with
  | nil => rfl
  | cons i is ih => exact congrArg₂ List.cons (hkey i _) (ih _)

theorem nameAll_append (s : Supply) (is js : List (Instance R)) :
    s.nameAll (is ++ js) =
      ((s.nameAll is).1 ++ ((s.nameAll is).2.nameAll js).1, ((s.nameAll is).2.nameAll js).2) := by
  induction is generalizing s with
  | nil => rfl
  | cons i is ih => simp only [List.cons_append, nameAll, ih]

end Supply

section Congruence

variable {R : Type} [Scalar R] [Planar R] {scene scene' : Scene R}
  (hscene : ∀ name, scene'.template? name = scene.template? name) (input : Input R) (dt : R)

include hscene

/-- A behavior reads the templates only. -/
theorem Stepped.act_congr (s : Stepped R) (b : Behavior R) :
    s.act scene' input dt b = s.act scene input dt b := by
  unfold act aimAndFire
  simp only [hscene]

theorem Instance.step_congr (i : Instance R) :
    i.step scene' input dt = i.step scene input dt := by
  have hact : Stepped.act scene' input dt = Stepped.act scene input dt := by
    funext s b
    exact Stepped.act_congr hscene input dt s b
  rw [step, step, hact]

theorem Roster.step_congr (r : Roster R) (supply : Supply) :
    r.step scene' input dt supply = r.step scene input dt supply := by
  have hstep : Instance.step scene' input dt = Instance.step scene input dt :=
    funext (Instance.step_congr hscene input dt)
  rw [step, step, hstep]

end Congruence

namespace Roster

variable {R : Type}

/-- Two rosters in one, the second behind the first. -/
def append (r r' : Roster R) : Roster R :=
  ⟨r.live ++ r'.live, r.spawns ++ r'.spawns, r.destroys ++ r'.destroys⟩

variable [Scalar R] [Planar R] (scene : Scene R) (input : Input R) (dt : R)

/-- Instances that step one after the other, each in a roster of its own. What the supply has
    left after one of them is there for the next. -/
def stepEach : List (Instance R) → Supply → Roster R × Supply
  | [], supply => (empty, supply)
  | i :: is, supply =>
    let (first, supply) := (ofLive [i]).step scene input dt supply
    let (rest, supply) := stepEach is supply
    (first.append rest, supply)

theorem stepEach_eq (is : List (Instance R)) (supply : Supply) :
    stepEach scene input dt is supply = (ofLive is).step scene input dt supply := by
  induction is generalizing supply with
  | nil => rfl
  | cons i is ih =>
      rw [stepEach]
      simp only [ih]
      simp only [step, ofLive, append, List.map_cons, List.map_nil, List.flatMap_cons,
        List.flatMap_nil, List.append_nil, List.nil_append, List.cons_append,
        Supply.nameAll_append]

variable (r : Roster R) (supply : Supply)

/-- A step of a roster is a step of each of its instances, behind what waits already. -/
theorem step_eq_stepEach : r.step scene input dt supply =
    (append ⟨[], r.spawns, r.destroys⟩ (stepEach scene input dt r.live supply).1,
      (stepEach scene input dt r.live supply).2) := by
  rw [stepEach_eq]
  simp only [step, ofLive, append, List.nil_append]

theorem live_step : (r.step scene input dt supply).1.live =
    r.live.map fun i => (i.step scene input dt).subject := List.map_map

theorem anonymous_spawns_step : (r.step scene input dt supply).1.spawns.map Instance.anonymous =
    r.spawns.map Instance.anonymous ++
      r.live.flatMap fun i => (i.step scene input dt).spawns.map Instance.anonymous := by
  have hspawns : (r.step scene input dt supply).1.spawns = r.spawns ++
      (supply.nameAll ((r.live.map (Instance.step scene input dt)).flatMap (·.spawns))).1 := rfl
  rw [hspawns, List.map_append, Supply.map_nameAll fun _ _ => rfl, List.flatMap_map,
    List.map_flatMap]

theorem destroys_step : (r.step scene input dt supply).1.destroys =
    r.destroys ++ r.live.flatMap fun i => (i.step scene input dt).destroys :=
  congrArg (r.destroys ++ ·) (List.flatMap_map ..)

/-- No instance of a roster sees another when they step. -/
structure StepsApart : Prop where
  /-- With the ids that are generated, a step is that of one instance after the other. -/
  oneByOne : r.step scene input dt supply =
    (append ⟨[], r.spawns, r.destroys⟩ (stepEach scene input dt r.live supply).1,
      (stepEach scene input dt r.live supply).2)
  /-- An instance becomes what it would become alone, with any ids that are left. -/
  live : ∀ others, (r.step scene input dt supply).1.live =
    r.live.flatMap fun i => ((ofLive [i]).step scene input dt others).1.live
  spawns : ∀ others, (r.step scene input dt supply).1.spawns.map Instance.anonymous =
    r.spawns.map Instance.anonymous ++
      r.live.flatMap fun i =>
        ((ofLive [i]).step scene input dt others).1.spawns.map Instance.anonymous
  destroys : ∀ others, (r.step scene input dt supply).1.destroys =
    r.destroys ++ r.live.flatMap fun i => ((ofLive [i]).step scene input dt others).1.destroys
  /-- Of the scene the templates are read, and nothing else. -/
  templates : ∀ scene', (∀ name, scene'.template? name = scene.template? name) →
    r.step scene' input dt supply = r.step scene input dt supply
  /-- In another order, or without some of them, the instances become the same. -/
  picked : ∀ (r' : Roster R) (others : Supply) (ks : List Nat),
    r'.live = ks.filterMap (r.live[·]?) → (r'.step scene input dt others).1.live =
      ks.filterMap ((r.step scene input dt supply).1.live[·]?)
  /-- What changes of an instance. -/
  confined : List.Forall₂ (fun i j => i.DiffersIn (i.object.behaviors.map (·.kind)) j)
    r.live (r.step scene input dt supply).1.live

theorem stepsApart : r.StepsApart scene input dt supply where
  oneByOne := step_eq_stepEach scene input dt r supply
  live := by
    intro others
    rw [live_step, List.map_eq_flatMap]
    exact List.flatMap_congr fun i _ => (live_step scene input dt (ofLive [i]) others).symm
  spawns := by
    intro others
    rw [anonymous_spawns_step]
    refine congrArg (r.spawns.map Instance.anonymous ++ ·) (List.flatMap_congr fun i _ => ?_)
    rw [anonymous_spawns_step]
    exact (List.append_nil _).symm
  destroys := by
    intro others
    rw [destroys_step]
    refine congrArg (r.destroys ++ ·) (List.flatMap_congr fun i _ => ?_)
    rw [destroys_step]
    exact (List.append_nil _).symm
  templates := fun _ hscene => step_congr hscene input dt r supply
  picked := by
    intro r' others ks hr'
    rw [live_step, live_step, hr', List.map_filterMap]
    exact List.filterMap_congr fun k _ => List.getElem?_map.symm
  confined := by
    rw [live_step, List.forall₂_map_right_iff, List.forall₂_same]
    exact fun i _ => Instance.differsIn_step scene input dt i

end Roster

end Playfield
