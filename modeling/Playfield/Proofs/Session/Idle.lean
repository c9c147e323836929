import Mathlib
import Playfield.Proofs.Session.Substitution

/-!
# Idle Actions

Actions that find nothing to act on.

An action names objects, templates and variables that may not be there, and asks for things
that an object may not have: a text, an animation, health. What an action needs and does
not find is listed case by case (`Session.Lacks`). An action that lacks something is idle. It
does not do the half of it that it could do, and it leaves no trace: the session afterwards is
the session before, with its assets, its supply of ids and everything that waits.

The list is complete. Every action is an attempt that comes to nothing or to a new session
(`Session.attempt?`), and it comes to nothing in the listed cases only. Following is not among
them. That the followed object is missing is found out by the camera, and later.

## Main definitions

* `Effect.IsUnfit`: An effect does not fit an instance.
* `Session.IsUnanchored`: A relative placement has nothing to be relative to.
* `Session.Misses`: An effect refers to what is not there.
* `Session.Lacks`: An action does not find what it needs.
* `Session.attempt?`: What an action makes of a session, if it finds what it needs.

## Theorems

* `Session.result?_eq_none_iff`: A change fails if it does not fit.
* `Session.affect?_eq_none_iff`, `Session.create?_eq_none_iff`,
  `Session.changeGlobal?_eq_none_iff`: When an attempt comes to nothing.
* `Session.attempt?_eq_none_iff`: An attempt comes to nothing if something is lacking.
* `Session.perform_eq_attempt?`: An action is an attempt, or nothing.
* `Session.perform_lacking`: An action that lacks something changes nothing.
-/

namespace Playfield

section Fit

variable {R : Type}

theorem Sprite.updateAnimation?_eq_none_iff {s : Sprite R} {name : String}
    {f : Animation R → Animation R} :
    s.updateAnimation? name f = none ↔ s.animation? name = none := by
  unfold updateAnimation? animation?
  rw [Option.map_eq_none_iff]
  -- Both look for the first animation of the name.
  induction s.animations with
  | nil => simp [updateAnimation?.go]
  | cons a as ih =>
      rw [updateAnimation?.go, List.find?_cons]
      cases a.name == name with
      | true => simp
      | false => simpa using ih

namespace Appearance

theorem updateSprite?_eq_none_iff {a : Appearance R} {f : Sprite R → Option (Sprite R)} :
    a.updateSprite? f = none ↔ ∀ s, a.sprite? = some s → f s = none := by
  cases a <;> simp [updateSprite?, sprite?]

theorem updateText?_eq_none_iff {a : Appearance R} {f : Label R → Label R} :
    a.updateText? f = none ↔ ∀ t, a ≠ .text t := by
  cases a <;> simp [updateText?]

theorem updateBar?_eq_none_iff {a : Appearance R} {f : Bar R → Bar R} :
    a.updateBar? f = none ↔ ∀ b, a ≠ .bar b := by
  cases a <;> simp [updateBar?]

end Appearance

variable [Scalar R]

theorem Order.animate?_eq_none_iff {i : Instance R} {animation : Option String} :
    animate? i animation = none ↔ ∀ p, i.object.appearance ≠ .sprite p := by
  unfold animate?
  cases i.object.appearance <;> simp

variable [Numeral R]

/-- An effect does not fit an instance: it is about another kind of object, about an animation
    or health that the object does not have, or it computes with what is no number. -/
def Effect.IsUnfit (i : Instance R) : Effect R → Prop
  | .setSprite _ => i.object.appearance.sprite? = none
  | .playAnimation _ | .stopAnimation => ∀ p, i.object.appearance ≠ .sprite p
  | .setAnimationSpeed name _ =>
    ∀ p, i.object.appearance.sprite? = some p → p.animation? name = none
  | .setText _ | .setProperty .color _ => ∀ t, i.object.appearance ≠ .text t
  | .setProperty .fontSize value =>
    (∀ t, i.object.appearance ≠ .text t) ∨ value.toNumber? = none
  | .setProperty .scale value | .setProperty .rotation value => value.toNumber? = none
  | .setBar _ => ∀ b, i.object.appearance ≠ .bar b
  | .damage _ | .setHealth _ => i.health? = none
  -- A variable that is missing or null counts as zero.
  | .changeVariable name _ value => value.toNumber? = none ∨
    ∃ v, i.object.vars.get? name = some v ∧ v ≠ .null ∧ v.storedNumber? = none
  | _ => False

namespace Order

theorem changeVariable?_eq_none_iff {vs : Variables R} {name : String} {op : Arithmetic}
    {value : Value R} : changeVariable? vs name op value = none ↔ value.toNumber? = none ∨
      ∃ v, vs.get? name = some v ∧ v ≠ .null ∧ v.storedNumber? = none := by
  unfold changeVariable?
  cases value.toNumber? with
  | none => simp
  | some y =>
      cases vs.get? name with
      | none => simp
      | some v => cases v <;> simp [Value.storedNumber?]

theorem setPicture?_eq_none_iff [Planar R] {i : Instance R} {dt : R} {source : String} :
    (setPicture source).result? dt i = none ↔ i.object.appearance.sprite? = none := by
  rw [result?, Option.map_eq_none_iff, Appearance.updateSprite?_eq_none_iff,
    Option.eq_none_iff_forall_ne_some]
  exact forall₂_congr fun s _ => by simp

theorem setProperty?_eq_none_iff {i : Instance R} {value : Value R} {p : Settable} :
    setProperty? i.object value p = none ↔ (Effect.setProperty p value).IsUnfit i := by
  cases p
  case scale => exact Option.map_eq_none_iff
  case rotation => exact Option.map_eq_none_iff
  case color => exact Option.map_eq_none_iff.trans Appearance.updateText?_eq_none_iff
  case fontSize =>
    rw [setProperty?, Option.bind_eq_none_iff, Effect.IsUnfit]
    simp only [Option.map_eq_none_iff, Appearance.updateText?_eq_none_iff]
    cases value.toNumber? with
    | none => simp
    | some x => simp

end Order

end Fit

namespace Session

variable {R B : Type} [Scalar R]

/-- A relative placement has nothing to be relative to: no anchor, one that stands for the empty
    id, or one that is not there. -/
def IsUnanchored (s : Session R B) (binding : Option Binding) (p : Placement R) : Prop :=
  p.type = .relative ∧ ∀ id, p.anchor = some id →
    Binding.resolve binding id = "" ∨ s.roster.get? (Binding.resolve binding id) = none

theorem area?_eq_none_iff {s : Session R B} {binding : Option Binding} {ids : List String} :
    s.area? binding ids = none ↔ ∀ id ∈ ids, s.roster.get? (Binding.resolve binding id) = none := by
  unfold area?
  rw [← List.filterMap_eq_nil_iff]
  split
  · next h => simp [h]
  · next h => simp [h]

section Places

variable [Planar R] {s : Session R B} {binding : Option Binding}

theorem place?_eq_none_iff {p : Placement R} :
    s.place? binding p = none ↔ s.IsUnanchored binding p := by
  unfold place? IsUnanchored
  cases p.type with
  | absolute => simp
  | relative =>
      cases p.anchor with
      | none => simp
      | some id =>
          by_cases h : Binding.resolve binding id = ""
          · simp [h]
          · simp [h]

theorem creature?_eq_none_iff {c : Creation R} : s.creature? binding c = none ↔
    s.scene.template? c.name = none ∨ s.IsUnanchored binding c.placement := by
  unfold creature?
  rw [← place?_eq_none_iff]
  cases s.scene.template? c.name with
  | none => simp
  | some template => cases s.place? binding c.placement <;> simp

theorem shot?_eq_none_iff {id bullet point : String} : s.shot? id bullet point = none ↔
    s.scene.template? bullet = none ∨ s.roster.get? id = none := by
  unfold shot?
  cases s.scene.template? bullet with
  | none => simp
  | some template => cases s.roster.get? id <;> simp

end Places

variable [Numeral R]

/-- An effect refers to what is not there: an object to move to, an object to be put beside, a
    template to fire. -/
def Misses (s : Session R B) (binding : Option Binding) : Effect R → Prop
  | .moveTowards goal _ => s.roster.get? (Binding.resolve binding goal) = none
  | .place p => s.IsUnanchored binding p
  | .fire bullet _ => s.scene.template? bullet = none
  | _ => False

/-- An action does not find what it needs. -/
inductive Lacks (s : Session R B) (binding : Option Binding) : Action.Kind R → Prop
  /-- There is no object for an effect. -/
  | target {id : String} {e : Effect R} :
    s.roster.get? (Binding.resolve binding id) = none → Lacks s binding (.object id e)
  /-- The effect does not fit the object. -/
  | unfit {id : String} {e : Effect R} {i : Instance R} :
    s.roster.get? (Binding.resolve binding id) = some i → e.IsUnfit i →
      Lacks s binding (.object id e)
  /-- The effect refers to what is not there. -/
  | reference {id : String} {e : Effect R} : s.Misses binding e → Lacks s binding (.object id e)
  /-- There is no template to copy. -/
  | template {c : Creation R} : s.scene.template? c.name = none → Lacks s binding (.create c)
  /-- There is no object to be created beside. -/
  | anchor {c : Creation R} : s.IsUnanchored binding c.placement → Lacks s binding (.create c)
  /-- There is no object to show. -/
  | area {ids : List String} {padding : R} :
    (∀ id ∈ ids, s.roster.get? (Binding.resolve binding id) = none) →
      Lacks s binding (.camera (.fit ids padding))
  /-- There is no number to compute with. -/
  | current {name : String} {op : Arithmetic} {value : Value R} :
    (∀ x, s.globals.get? name ≠ some (.number x)) → Lacks s binding (.changeGlobal name op value)
  /-- There is no number to compute it with. -/
  | operand {name : String} {op : Arithmetic} {value : Value R} : value.toNumber? = none →
    Lacks s binding (.changeGlobal name op value)

/-- An effect lacks what it refers to, or an object that it fits. -/
theorem lacks_object_iff {s : Session R B} {binding : Option Binding} {id : String}
    {e : Effect R} : s.Lacks binding (.object id e) ↔ s.Misses binding e ∨
      ∀ i, s.roster.get? (Binding.resolve binding id) = some i → e.IsUnfit i := by
  constructor
  · intro h
    cases h with
    | target h => simp [h]
    | unfit h hunfit => exact .inr fun j hj => Option.some.inj (h.symm.trans hj) ▸ hunfit
    | reference h => exact .inl h
  · rintro (h | h)
    · exact .reference h
    · cases hi : s.roster.get? (Binding.resolve binding id) with
      | none => exact .target hi
      | some i => exact .unfit hi (h i hi)

/-- The session with a global variable computed anew, if there are numbers to compute with. -/
def changeGlobal? (s : Session R B) (name : String) (op : Arithmetic) (value : Value R) :
    Option (Session R B) :=
  ((s.globals.get? name).bind Value.storedNumber?).bind fun x => value.toNumber?.map fun y =>
    { s with globals := s.globals.insert name (.number (op.apply x y)) }

theorem changeGlobal?_eq_none_iff {s : Session R B} {binding : Option Binding} {name : String}
    {op : Arithmetic} {value : Value R} :
    s.changeGlobal? name op value = none ↔ s.Lacks binding (.changeGlobal name op value) := by
  -- A null is no number here, unlike in the variables of an object.
  have hcurrent : (s.globals.get? name).bind Value.storedNumber? = none ↔
      ∀ x, s.globals.get? name ≠ some (.number x) := by
    cases s.globals.get? name with
    | none => simp
    | some v => cases v <;> simp [Value.storedNumber?]
  unfold changeGlobal?
  constructor
  · intro h
    cases hx : (s.globals.get? name).bind Value.storedNumber? with
    | none => exact .current (hcurrent.1 hx)
    | some x =>
        rw [hx, Option.bind_some, Option.map_eq_none_iff] at h
        exact .operand h
  · intro h
    cases h with
    | current h => rw [hcurrent.2 h, Option.bind_none]
    | operand h => simp [h]

theorem changeGlobal_eq_changeGlobal? {s : Session R B} {name : String} {op : Arithmetic}
    {value : Value R} : s.changeGlobal name op value = (s.changeGlobal? name op value).getD s := by
  unfold changeGlobal changeGlobal?
  cases (s.globals.get? name).bind Value.storedNumber? with
  | none => rfl
  | some x => cases value.toNumber? <;> rfl

variable [Planar R]

/-- What an effect makes of a session, if it finds what it needs. -/
def affect? (s : Session R B) (binding : Option Binding) (dt : R) (id : String) :
    Effect R → Option (Session R B)
  | .destroy =>
    (s.roster.get? id).map fun _ => { s with roster := s.roster.queueDestroy id }
  | .setSprite source => (s.change? id dt (.setPicture source)).map (request .image source)
  | .fire bullet point => (s.shot? id bullet point).map s.spawn
  | e => (s.order? binding e).bind (s.change? id dt)

/-- What a creation makes of a session, if it finds what it needs. -/
def create? (s : Session R B) (binding : Option Binding) (c : Creation R) :
    Option (Session R B) :=
  (s.creature? binding c).map fun i =>
    let (s, i) := s.withPicture c.sprite i
    s.spawn i

section Attempts

variable {s : Session R B} {binding : Option Binding} {dt : R}

/-- A change fails if it does not fit. -/
theorem result?_eq_none_iff {e : Effect R} {order : Order R} {i : Instance R}
    (h : s.order? binding e = some order) : order.result? dt i = none ↔ e.IsUnfit i := by
  cases e
  case destroy | setSprite | fire => nomatch h
  -- Two orders depend on what has been found elsewhere, and once it is found they always fit.
  case place p =>
    obtain ⟨place, -, rfl⟩ := Option.map_eq_some_iff.1 h
    simp [Order.result?, Effect.IsUnfit]
  case moveTowards goal speed =>
    obtain ⟨target, -, rfl⟩ := Option.map_eq_some_iff.1 h
    simp [Order.result?, Effect.IsUnfit]
  all_goals
    cases h
    simp [Order.result?, Effect.IsUnfit, Order.changeVariable?_eq_none_iff,
      Order.animate?_eq_none_iff, Appearance.updateSprite?_eq_none_iff,
      Sprite.updateAnimation?_eq_none_iff, Appearance.updateText?_eq_none_iff,
      Appearance.updateBar?_eq_none_iff, Order.setProperty?_eq_none_iff]

theorem change?_eq_none_iff {id : String} {order : Order R} : s.change? id dt order = none ↔
    ∀ i, s.roster.get? id = some i → order.result? dt i = none := by
  rw [change?, Option.map_eq_none_iff, Option.bind_eq_none_iff]

/-- A change that an effect amounts to fails if what the effect refers to is missing, and on an
    object that is missing or that the effect does not fit. -/
theorem ordered_eq_none_iff {id : String} {e : Effect R} :
    (s.order? binding e).bind (s.change? id dt) = none ↔
      s.order? binding e = none ∨ ∀ i, s.roster.get? id = some i → e.IsUnfit i := by
  cases h : s.order? binding e with
  | none => simp
  | some order => simp [change?_eq_none_iff, result?_eq_none_iff h]

theorem affect?_eq_none_iff {id : String} {e : Effect R} : s.affect? binding dt id e = none ↔
    s.Misses binding e ∨ ∀ i, s.roster.get? id = some i → e.IsUnfit i := by
  cases e
  case destroy =>
    rw [affect?, Option.map_eq_none_iff, Option.eq_none_iff_forall_ne_some]
    simp [Misses, Effect.IsUnfit]
  case setSprite source =>
    rw [affect?, Option.map_eq_none_iff, change?_eq_none_iff]
    simp only [Order.setPicture?_eq_none_iff, Misses, Effect.IsUnfit, false_or]
  case fire bullet point =>
    rw [affect?, Option.map_eq_none_iff, shot?_eq_none_iff, Option.eq_none_iff_forall_ne_some]
    simp [Misses, Effect.IsUnfit, Option.eq_none_iff_forall_ne_some]
  -- The others are changes of the object alone. Two of them refer to something.
  case place p =>
    exact ordered_eq_none_iff.trans
      (or_congr_left (Option.map_eq_none_iff.trans place?_eq_none_iff))
  case moveTowards goal speed =>
    exact ordered_eq_none_iff.trans (or_congr_left Option.map_eq_none_iff)
  all_goals
    simp only [affect?, ordered_eq_none_iff]
    simp [order?, Misses]

theorem create?_eq_none_iff {c : Creation R} :
    s.create? binding c = none ↔ s.Lacks binding (.create c) := by
  rw [create?, Option.map_eq_none_iff, creature?_eq_none_iff]
  constructor
  · rintro (h | h)
    · exact .template h
    · exact .anchor h
  · intro h
    cases h with
    | template h => exact .inl h
    | anchor h => exact .inr h

theorem affect_eq_affect? {id : String} {e : Effect R} :
    s.affect binding dt id e = (s.affect? binding dt id e).getD s := by
  cases e
  case destroy =>
    simp only [affect, affect?, destroy]
    cases s.roster.get? id <;> rfl
  case setSprite source =>
    simp only [affect, affect?, setPicture]
    cases s.change? id dt (.setPicture source) <;> rfl
  case fire bullet point =>
    simp only [affect, affect?, fire]
    cases s.shot? id bullet point <;> rfl
  all_goals
    simp only [affect, affect?]
    generalize s.order? binding _ = order
    cases order <;> rfl

end Attempts

variable [AudioOutput R B] [DecidableEq R]

/-- What an action makes of a session, if it finds what it needs. -/
def attempt? (binding : Option Binding) (dt : R) (s : Session R B) (a : Action R) :
    Option (Session R B) :=
  match a.kind with
  | .object target e => s.affect? binding dt (Binding.resolve binding target) e
  | .create c => s.create? binding c
  | .camera (.fit ids padding) => (s.area? binding ids).map fun area =>
      { s with camera := s.camera.fit area padding s.config.viewport }
  | .changeGlobal name op value => s.changeGlobal? name op value
  | _ => some (perform binding dt s a)

variable {s : Session R B} {binding : Option Binding} {dt : R}

/-- An attempt comes to nothing if something is lacking, and only then. -/
theorem attempt?_eq_none_iff {a : Action R} :
    attempt? binding dt s a = none ↔ s.Lacks binding a.kind := by
  rcases a with ⟨id, kind⟩
  cases kind
  case object target e => exact affect?_eq_none_iff.trans lacks_object_iff.symm
  case create c => exact create?_eq_none_iff
  case changeGlobal name op value => exact changeGlobal?_eq_none_iff
  case camera c =>
    cases c
    case fit ids padding =>
      refine (Option.map_eq_none_iff.trans area?_eq_none_iff).trans ⟨.area, fun h => ?_⟩
      cases h with
      | area h => exact h
    -- Nothing else that is done to the camera needs anything.
    all_goals exact ⟨nofun, nofun⟩
  all_goals exact ⟨nofun, nofun⟩

/-- An action is an attempt. If nothing comes of it, the session stays what it is. -/
theorem perform_eq_attempt? {a : Action R} :
    perform binding dt s a = (attempt? binding dt s a).getD s := by
  rcases a with ⟨id, kind⟩
  cases kind
  case object target e => exact affect_eq_affect?
  case create c =>
    simp only [perform, attempt?, create, create?]
    cases s.creature? binding c <;> rfl
  case changeGlobal name op value => exact changeGlobal_eq_changeGlobal?
  case camera c =>
    cases c
    case fit ids padding =>
      simp only [perform, attempt?, steer]
      cases s.area? binding ids <;> rfl
    all_goals rfl
  all_goals rfl

/-- An action that lacks something changes nothing at all. An action that lacks nothing is
    done. -/
theorem perform_lacking (s : Session R B) (binding : Option Binding) (dt : R) (a : Action R) :
    (s.Lacks binding a.kind → perform binding dt s a = s) ∧
      (¬ s.Lacks binding a.kind → attempt? binding dt s a = some (perform binding dt s a)) := by
  have hlacks : attempt? binding dt s a = none ↔ s.Lacks binding a.kind := attempt?_eq_none_iff
  rw [← hlacks, perform_eq_attempt?]
  cases attempt? binding dt s a with
  | none => simp
  | some next => simp

/-- A rock has no text, and it cannot move to what is not there. It can be destroyed. -/
theorem perform_lacking_rocks :
    let s := ofRocks ["a", "b"]
    let write : Action Float := ⟨"1", .object "a" (.setText "text")⟩
    let chase : Action Float := ⟨"2", .object "a" (.moveTowards "c" 1)⟩
    let destroy : Action Float := ⟨"3", .object "a" .destroy⟩
    (s.Lacks none write.kind ∧ perform none 1 s write = s) ∧
      (s.Lacks none chase.kind ∧ perform none 1 s chase = s) ∧
      ¬ s.Lacks none destroy.kind ∧
        attempt? none 1 s destroy = some (perform none 1 s destroy) := by
  intro s write chase destroy
  have hwrite : s.Lacks none write.kind :=
    .unfit (i := .ofTemplate (.rock "a")) (by decide +kernel) nofun
  have hchase : s.Lacks none chase.kind :=
    .reference (show s.roster.get? "c" = none by decide +kernel)
  have hdestroy : ¬ s.Lacks none destroy.kind := by
    rw [lacks_object_iff]
    rintro (h | h)
    · exact h
    · exact h (.ofTemplate (.rock "a")) (by decide +kernel)
  exact ⟨⟨hwrite, (perform_lacking s none 1 write).1 hwrite⟩,
    ⟨hchase, (perform_lacking s none 1 chase).1 hchase⟩,
    hdestroy, (perform_lacking s none 1 destroy).2 hdestroy⟩

end Session

end Playfield
