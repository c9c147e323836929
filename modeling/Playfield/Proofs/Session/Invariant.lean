import Mathlib
import Playfield.Proofs.Session.Local
import Playfield.Proofs.Session.Reachable

/-!
# Invariants of Sessions

How a property is shown to be kept by everything that can happen to a session.

There are many calls and many actions, but a property that is about instances and saves
can only be lost in few ways: when a scene is entered, when a save is restored, when what
waits takes effect, when a slot is written, when something moves by itself, and when an
action is done. What is left of calls and ticks only decides which of these happens. So a
property that survives each of them (`Session.Invariant`) is kept by all calls, and at all
stages of a tick.

Whatever is written into slots, what can be read there afterwards could be read before or
is a save of the session. This is all that a property has to know about saving.

## Main definitions

* `Session.SharesWorld`: Sessions with the same project, scene, instances, slots and ids.
* `Session.ReadsFrom`: Slots in which only known texts and saves of a session can be read.
* `Session.Invariant`: A property that survives whatever a call is made of.

## Theorems

* `Session.readsFrom_save`, `Session.readsFrom_perform`: What can be read after a save and
  after an action.
* `Session.Invariant.conclude`, `Session.Invariant.stages`, `Session.Invariant.tick`: A
  tick keeps invariants.
* `Session.Invariant.call`, `Session.Invariant.run`: So do all calls.
-/

namespace Playfield

namespace Session

variable {R B : Type}

/-- Two sessions have the same project and scene, the same instances, live and waiting,
    the same slots, and the same supply of ids. -/
structure SharesWorld (s t : Session R B) : Prop where
  project : t.project = s.project
  scene : t.scene = s.scene
  roster : t.roster = s.roster
  slots : t.slots = s.slots
  supply : t.supply = s.supply

variable [Scalar R] [Numeral R] {s : Session R B}

/-- What can be read in some slots could be read in those of a session, or is a save of
    it. -/
def ReadsFrom (s : Session R B) (slots : SlotStore) : Prop :=
  ∀ key text, slots.get key = .ok (some text) → s.slots.get key = .ok (some text) ∨
    ∃ time, SaveState.codec.parse text = .ok (s.snapshot time)

theorem readsFrom_self (s : Session R B) : s.ReadsFrom s.slots := fun _ _ hget => .inl hget

omit [Scalar R] [Numeral R] in
theorem slots_clearSave (s : Session R B) (slot : String) :
    (s.clearSave slot).1.slots = (s.slots.remove (s.slotKey slot)).1 := by
  unfold clearSave
  generalize s.slots.remove (s.slotKey slot) = result
  rcases result with ⟨store, e | _⟩ <;> rfl

theorem readsFrom_clearSave (s : Session R B) (slot : String) :
    s.ReadsFrom (s.clearSave slot).1.slots := by
  intro key text h
  rw [slots_clearSave] at h
  exact .inl (SlotStore.get_of_remove h)

variable [DecidableEq R]

/-- What can be read after a save is the save, or could be read before. -/
theorem readsFrom_save (s : Session R B) (slot : String) :
    s.ReadsFrom (s.save slot).1.slots := by
  intro key text h
  cases henc : encode slot (s.snapshot s.supply.now.1) with
  | error e =>
      rw [save_of_refused henc] at h
      exact .inl h
  | ok written =>
      rw [save_of_encoded henc] at h
      rcases SlotStore.get_of_set h with rfl | h
      · exact .inr ⟨_, (encode_eq_ok_iff.1 henc).2⟩
      · exact .inl h

variable [Planar R] [AudioOutput R B]

theorem readsFrom_perform (s : Session R B) (binding : Option Binding) (dt : R) (a : Action R) :
    s.ReadsFrom (perform binding dt s a).slots := by
  rcases (alters_perform s binding dt a).slots with hslots | ⟨name, hname, _⟩
  · rw [hslots]
    exact readsFrom_self s
  · -- Only two actions name a slot.
    rcases a with ⟨id, kind⟩
    cases kind <;> simp only [Action.Kind.slot?, reduceCtorEq] at hname
    case save =>
      simp only [perform]
      exact readsFrom_save s _
    case clearSave =>
      simp only [perform]
      exact readsFrom_clearSave s _

/-- A property of sessions that survives whatever calls and ticks are made of. -/
structure Invariant (P : Session R B → Prop) : Prop where
  congr : ∀ {s t : Session R B}, P s → s.SharesWorld t → P t
  activate : ∀ {s : Session R B} {scene : Scene R}, scene ∈ s.project.scenes → P s →
    P (s.activate scene)
  restore : ∀ {s : Session R B} {key text : String} {save : SaveState R} {scene : Scene R},
    s.slots.get key = .ok (some text) → SaveState.codec.parse text = .ok save →
      scene ∈ s.project.scenes → P s → P (s.restore save scene)
  settle : ∀ {s : Session R B}, P s → P { s with roster := s.roster.applyPending }
  store : ∀ {s : Session R B} {slots : SlotStore} {supply : Supply}, s.ReadsFrom slots →
    supply.suffix = s.supply.suffix → supply.suffixesTaken = s.supply.suffixesTaken → P s →
      P { s with slots := slots, supply := supply }
  begun : ∀ {s : Session R B} (dt : R), P s → P (s.begun dt)
  perform : ∀ {s : Session R B} (binding : Option Binding) (dt : R) (a : Action R), P s →
    P (perform binding dt s a)

namespace Invariant

variable {P : Session R B → Prop} (hP : Invariant P)

include hP

theorem enter (h : P s) (id : Option String) : P (s.enter id).1 := by
  have hassets : P s.registerAssets := by
    rcases exists_registerAssets s with ⟨assets, sounds, done, hr⟩
    rw [hr]
    exact hP.congr h ⟨rfl, rfl, rfl, rfl, rfl⟩
  cases hscene : s.registerAssets.findScene id with
  | error e =>
      rw [enter_of_error hscene]
      exact hassets
  | ok scene =>
      rw [enter_of_ok hscene]
      have hmem := List.mem_of_find?_eq_some (scene?_of_findScene hscene)
      exact hP.congr (hP.activate hmem hassets) ⟨rfl, rfl, rfl, rfl, rfl⟩

theorem load (h : P s) (slot : String) : P (s.load slot).1 := by
  rcases load_cases s slot with ⟨e, hload⟩ | ⟨text, save, scene, hget, hparse, hscene, hload⟩
  · rwa [hload]
  · rw [hload]
    exact hP.restore hget hparse (List.mem_of_find?_eq_some hscene) h

theorem clearSave (h : P s) (slot : String) : P (s.clearSave slot).1 := by
  have hread := readsFrom_clearSave s slot
  rcases exists_clearSave s slot with ⟨slots, hslots⟩
  rw [hslots] at hread ⊢
  exact hP.store hread rfl rfl h

theorem save (h : P s) (slot : String) : P (s.save slot).1 := by
  have hread := readsFrom_save s slot
  rcases exists_save s slot with ⟨slots, hslots⟩
  rw [hslots] at hread ⊢
  exact hP.store hread rfl rfl h

/-- The end of a tick keeps invariants. -/
theorem conclude (h : P s) (dt : R) : P (conclude dt s).1 := by
  rcases request_cases s with ⟨slot, hl, hload⟩ | ⟨hl, ⟨id, scene, hs, hscene⟩ | hs⟩
  · rw [conclude_of_loaded _ hl hload]
    exact hP.congr (hP.load h slot) ⟨rfl, rfl, rfl, rfl, rfl⟩
  · rw [conclude_of_changed _ hl hs hscene]
    have hmem := List.mem_of_find?_eq_some hscene
    exact hP.congr (hP.activate hmem h) ⟨rfl, rfl, rfl, rfl, rfl⟩
  · rw [conclude_of_advanced _ hl hs]
    exact hP.congr (hP.settle h) ⟨rfl, rfl, rfl, rfl, rfl⟩

/-- All stages of a tick keep invariants. -/
theorem stages (h : P s) (dt : R) : ∀ t ∈ s.stages dt, P t :=
  forall_stages (fun _ _ ht => hP.congr ht ⟨rfl, rfl, rfl, rfl, rfl⟩)
    (fun _ binding a ht => hP.perform binding _ a ht) (hP.begun dt h)

theorem tick (h : P s) (dt : R) : P (s.tick dt).1 := by
  rcases tick_cases s dt with ⟨_, input, count, htick⟩ | ⟨_, htick⟩
  · rw [htick]
    exact hP.congr h ⟨rfl, rfl, rfl, rfl, rfl⟩
  · rw [htick]
    exact hP.conclude (hP.stages h dt _ (by simp [Session.stages])) _

theorem call (h : P s) (c : HostCall R B) : P (s.call c) := by
  by_cases hc : c.isPassive = true
  · rcases exists_call_of_isPassive s hc with ⟨input, assets, mixer, popup, closed, hcall⟩
    rw [hcall]
    exact hP.congr h ⟨rfl, rfl, rfl, rfl, rfl⟩
  cases c
  case enter id => exact hP.enter h id
  case tick dt => exact hP.tick h dt
  case save slot => exact hP.save h slot
  case load slot => exact hP.load h slot
  case clearSave slot => exact hP.clearSave h slot
  all_goals exact absurd rfl hc

/-- All calls keep invariants. -/
theorem run (h : P s) (calls : List (HostCall R B)) : P (s.run calls) := by
  unfold Session.run
  -- What one call keeps is so before the next.
  induction calls generalizing s with
  | nil => exact h
  | cons c calls ih => exact ih (hP.call h c)

/-- Between two calls and at the stages of a tick. -/
theorem always (h : P s) (calls : List (HostCall R B)) (dt : R) :
    ∀ t ∈ s.run calls :: (s.run calls).stages dt, P t :=
  List.forall_mem_cons.2 ⟨hP.run h calls, hP.stages (hP.run h calls) dt⟩

end Invariant

end Session

end Playfield
