import Mathlib
import Playfield.Proofs.Session.Slots
import Playfield.Session.Tick

/-!
# What Events Do Not Look At

What conditions and actions leave alone when they run.

While the events of a tick run, nobody asks what the project is, which events there are,
or which load has been requested. All three can be exchanged without anything else
becoming different, and what is exchanged is still so afterwards: to exchange them
commutes with everything that events do. What else there is to know about one of the
three then has to be shown only for the beginning and the end of a tick.

## Main definitions

* `Veil`: A way to exchange the three.
* `Session.veiled`: A session in which they are exchanged.

## Theorems

* `Session.veiled_holdAll`: Conditions do not look at them.
* `Session.veiled_perform`: Nor do actions, but one that requests a load keeps to that.
-/

namespace Playfield

/-- A way to exchange what events do not look at. -/
structure Veil (R : Type) where
  project : Project R → Project R
  events : List (EventNode R) → List (EventNode R)
  load : Option String → Option String

namespace Session

variable {R B : Type} (v : Veil R)

/-- The session with another project, other events in its scene, and another request to
    load. -/
def veiled (s : Session R B) : Session R B :=
  { s with
    project := v.project s.project
    scene := { s.scene with events := v.events s.scene.events }
    pendingLoad := v.load s.pendingLoad }

theorem veiled_withPicture (s : Session R B) (source : String) (i : Instance R) :
    (s.veiled v).withPicture source i =
      ((s.withPicture source i).1.veiled v, (s.withPicture source i).2) := by
  unfold withPicture
  split
  · rfl
  · split <;> rfl

theorem veiled_clearSave (s : Session R B) (slot : String) :
    (s.veiled v).clearSave slot = ((s.clearSave slot).1.veiled v, (s.clearSave slot).2) := by
  have hs : (s.veiled v).slots.remove ((s.veiled v).slotKey slot) =
    s.slots.remove (s.slotKey slot) := rfl
  unfold clearSave
  rw [hs]
  split <;> rfl

variable [Scalar R]

theorem veiled_create [Planar R] (s : Session R B) (binding : Option Binding) (c : Creation R) :
    (s.veiled v).create binding c = (s.create binding c).veiled v := by
  have hc : (s.veiled v).creature? binding c = s.creature? binding c := rfl
  unfold create
  rw [hc]
  cases s.creature? binding c with
  | none => rfl
  | some i =>
      dsimp only
      rw [veiled_withPicture]
      rfl

variable [Numeral R]

theorem veiled_changeGlobal (s : Session R B) (name : String) (op : Arithmetic)
    (value : Value R) :
    (s.veiled v).changeGlobal name op value = (s.changeGlobal name op value).veiled v := by
  have hg : (s.veiled v).globals = s.globals := rfl
  unfold changeGlobal
  rw [hg]
  split <;> rfl

/-- What is exchanged is no part of a save. -/
theorem veiled_save [DecidableEq R] (s : Session R B) (slot : String) :
    (s.veiled v).save slot = ((s.save slot).1.veiled v, (s.save slot).2) := by
  cases h : encode slot (s.snapshot s.supply.now.1) with
  | error e =>
      have h' : encode slot ((s.veiled v).snapshot (s.veiled v).supply.now.1) = .error e := h
      rw [save_of_refused h, save_of_refused h']
      rfl
  | ok text =>
      have h' : encode slot ((s.veiled v).snapshot (s.veiled v).supply.now.1) = .ok text := h
      rw [save_of_encoded h, save_of_encoded h']
      rfl

variable [Planar R]

theorem veiled_change? (s : Session R B) (id : String) (dt : R) (order : Order R) :
    (s.veiled v).change? id dt order = (s.change? id dt order).map (veiled v) := by
  unfold change?
  rw [Option.map_map]
  rfl

theorem veiled_change (s : Session R B) (id : String) (dt : R) (order : Order R) :
    (s.veiled v).change id dt order = (s.change id dt order).veiled v := by
  unfold change
  rw [veiled_change?]
  cases s.change? id dt order <;> rfl

theorem veiled_setPicture (s : Session R B) (id : String) (dt : R) (source : String) :
    (s.veiled v).setPicture id dt source = (s.setPicture id dt source).veiled v := by
  unfold setPicture
  rw [veiled_change?]
  cases s.change? id dt (.setPicture source) <;> rfl

theorem veiled_affect (s : Session R B) (binding : Option Binding) (dt : R) (id : String)
    (e : Effect R) :
    (s.veiled v).affect binding dt id e = (s.affect binding dt id e).veiled v := by
  cases e
  case destroy =>
    have hr : (s.veiled v).roster = s.roster := rfl
    simp only [affect, destroy, hr]
    split <;> rfl
  case setSprite source => exact veiled_setPicture v s id dt source
  case fire bullet point =>
    have hs : (s.veiled v).shot? id bullet point = s.shot? id bullet point := rfl
    simp only [affect, fire, hs]
    cases s.shot? id bullet point <;> rfl
  -- The other effects find what they need in the roster and the variables.
  all_goals
    have ho : (s.veiled v).order? binding = s.order? binding := rfl
    simp only [affect, ho]
    split
    · exact veiled_change v s id dt _
    · rfl

/-- Conditions do not look at what is exchanged. -/
theorem veiled_holdAll (event : String) (binding : Option Binding) (cs : List (Condition R))
    (s : Session R B) :
    holdAll event binding cs (s.veiled v) =
      ((holdAll event binding cs s).1, (holdAll event binding cs s).2.veiled v) := by
  -- Conditions only change what they remember, so the sessions stay alike from one to the next.
  induction cs generalizing s with
  | nil => rfl
  | cons c cs ih =>
      have hc : (s.veiled v).holds event binding c = s.holds event binding c := rfl
      unfold holdAll
      rw [hc]
      split
      · next m _ => exact ih { s with memory := m }
      · rfl

variable [AudioOutput R B] [DecidableEq R]

/-- Actions do not look at what is exchanged. One that requests a load is an exception,
    unless its request is left as it is. -/
theorem veiled_perform (s : Session R B) (binding : Option Binding) (dt : R) (a : Action R)
    (ha : ∀ slot, a.kind = .load slot → v.load (some slot) = some slot) :
    perform binding dt (s.veiled v) a = (perform binding dt s a).veiled v := by
  rcases a with ⟨id, kind⟩
  cases kind <;> simp only [perform]
  case object target e => exact veiled_affect v s binding dt _ e
  case create c => exact veiled_create v s binding c
  case camera c => cases c <;> rfl
  case sound c => cases c <;> rfl
  case changeGlobal name op value => exact veiled_changeGlobal v s name op value
  case save slot => exact congrArg Prod.fst (veiled_save v s slot)
  case clearSave slot => exact congrArg Prod.fst (veiled_clearSave v s slot)
  case load slot => simp only [veiled, ha slot rfl]
  all_goals rfl

end Session

end Playfield
