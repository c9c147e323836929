import Mathlib
import Playfield.Proofs.Session.Reconcile
import Playfield.Proofs.Slot.Apart

/-!
# Actions Are Local

What an action leaves alone.

Events that go through a group, and conditions that count one, rely on it that
the live instances stay where they are while events run. An action can change one
live instance, the first one of the id that it names, and it changes neither its
id nor its name. It can ask for new instances and destructions, behind what has
been asked for before. It can write or empty the slot that it names. Everything
else that events look at is what it has been (`Session.ActsLocally`).

So the ids and names of the live instances are the same at all stages of a tick
up to its conclusion, whatever the events are.

## Main definitions

* `Roster.labels`: The ids and names of the live instances.
* `Action.Kind.target?`, `Action.Kind.slot?`: What an action names.
* `Session.Alters`: What an action may change.
* `Session.ActsLocally`: What an action leaves alone.

## Theorems

* `Roster.findIdx?_of_modifyFirst_ne`: Where a list changes.
* `Session.alters_perform`: What each action changes.
* `Session.perform_local`: Actions are local, and ids and names last for a tick.
-/

namespace Playfield

namespace Roster

variable {R : Type}

/-- The ids and names of the live instances. -/
def labels (r : Roster R) : List (String × String) := r.live.map fun i => (i.id, i.name)

theorem labels_of_becomes {is js : List (Instance R)} (h : List.Forall₂ Instance.Becomes is js) :
    js.map (fun i => (i.id, i.name)) = is.map fun i => (i.id, i.name) := by
  induction h with
  | nil => rfl
  | cons hij _ ih => rw [List.map_cons, List.map_cons, ih, hij.id, hij.name]

/-- If a change of the first instance of an id shows in a place, the instance is
    there. -/
theorem findIdx?_of_modifyFirst_ne {id : String} {f : Instance R → Instance R} {k : Nat}
    {is : List (Instance R)} (h : (modifyFirst id f is)[k]? ≠ is[k]?) :
    is.findIdx? (fun i => i.id == id) = some k := by
  induction is generalizing k with
  | nil => exact absurd rfl h
  | cons i is ih =>
      rw [List.findIdx?_cons]
      unfold modifyFirst at h
      by_cases hi : (i.id == id) = true
      · rw [if_pos hi] at h ⊢
        cases k with
        | zero => rfl
        | succ k => exact absurd rfl h
      · rw [if_neg hi] at h ⊢
        cases k with
        | zero => exact absurd rfl h
        | succ k => rw [ih h, Option.map_some]

end Roster

/-- The object that an action is done to. -/
def Action.Kind.target? {R : Type} : Action.Kind R → Option String
  | .object target _ => some target
  | _ => none

/-- The slot that an action writes or empties. -/
def Action.Kind.slot? {R : Type} : Action.Kind R → Option String
  | .save slot | .clearSave slot => some slot
  | _ => none

namespace Session

variable {R B : Type} {s t : Session R B} {target slot : Option String}

/-- Input and memory are the same, and so are the live instances but for the one of
    an id, and the slots but for one of them. -/
structure Alters (s : Session R B) (target slot : Option String) (t : Session R B) : Prop where
  input : t.input = s.input
  memory : t.memory = s.memory
  live : t.roster.live = s.roster.live ∨
    ∃ id f, target = some id ∧ t.roster.live = Roster.modifyFirst id f s.roster.live
  slots : t.slots = s.slots ∨
    ∃ name, slot = some name ∧ SlotStore.SameBut (s.slotKey name) s.slots t.slots

/-- Nothing of that has changed. -/
theorem alters_of_eq (hinput : t.input = s.input) (hmemory : t.memory = s.memory)
    (hlive : t.roster.live = s.roster.live) (hslots : t.slots = s.slots) :
    Alters s target slot t :=
  ⟨hinput, hmemory, Or.inl hlive, Or.inl hslots⟩

theorem alters_withPicture (s : Session R B) (source : String) (i : Instance R) :
    Alters s target slot (s.withPicture source i).1 := by
  unfold withPicture
  split
  · exact alters_of_eq rfl rfl rfl rfl
  · split <;> exact alters_of_eq rfl rfl rfl rfl

theorem Alters.request (h : Alters s target slot t) (kind : AssetKind) (source : String) :
    Alters s target slot (t.request kind source) :=
  ⟨h.input, h.memory, h.live, h.slots⟩

/-- A new instance that is noted is not among the live ones. -/
theorem Alters.spawn (h : Alters s target slot t) (i : Instance R) :
    Alters s target slot (t.spawn i) :=
  ⟨h.input, h.memory, h.live, h.slots⟩

theorem alters_clearSave (s : Session R B) (name : String) :
    Alters s target (some name) (s.clearSave name).1 := by
  have hslots := SlotStore.sameBut_remove s.slots (s.slotKey name)
  unfold clearSave
  generalize s.slots.remove (s.slotKey name) = result at hslots
  rcases result with ⟨store, e | _⟩
  · exact ⟨rfl, rfl, Or.inl rfl, Or.inr ⟨name, rfl, hslots⟩⟩
  · exact ⟨rfl, rfl, Or.inl rfl, Or.inr ⟨name, rfl, hslots⟩⟩

variable [Scalar R] [Numeral R]

theorem alters_save [DecidableEq R] (s : Session R B) (name : String) :
    Alters s target (some name) (s.save name).1 := by
  cases h : encode name (s.snapshot s.supply.now.1) with
  | error e =>
      rw [save_of_refused h]
      exact alters_of_eq rfl rfl rfl rfl
  | ok text =>
      rw [save_of_encoded h]
      exact ⟨rfl, rfl, Or.inl rfl,
        Or.inr ⟨name, rfl, SlotStore.sameBut_set s.slots (s.slotKey name) text⟩⟩

variable [Planar R]

theorem alters_change? {id : String} {dt : R} {order : Order R}
    (h : s.change? id dt order = some t) : Alters s (some id) slot t := by
  simp only [change?, Option.map_eq_some_iff, Option.bind_eq_some_iff] at h
  rcases h with ⟨j, _, rfl⟩
  exact ⟨rfl, rfl, Or.inr ⟨id, fun _ => j, rfl, rfl⟩, Or.inl rfl⟩

theorem alters_change (s : Session R B) (id : String) (dt : R) (order : Order R) :
    Alters s (some id) slot (s.change id dt order) := by
  unfold change
  cases h : s.change? id dt order with
  | none => exact alters_of_eq rfl rfl rfl rfl
  | some t => exact alters_change? h

theorem alters_affect (s : Session R B) (binding : Option Binding) (dt : R) (id : String)
    (e : Effect R) : Alters s (some id) slot (s.affect binding dt id e) := by
  cases e
  case destroy =>
    simp only [affect, destroy]
    split <;> exact alters_of_eq rfl rfl rfl rfl
  case setSprite source =>
    simp only [affect, setPicture]
    split
    · next t h =>
      exact (alters_change? h).request .image source
    · exact alters_of_eq rfl rfl rfl rfl
  case fire bullet point =>
    simp only [affect, fire]
    split <;> exact alters_of_eq rfl rfl rfl rfl
  -- The other effects change one instance, or nothing.
  all_goals
    simp only [affect]
    split
    · exact alters_change s id dt _
    · exact alters_of_eq rfl rfl rfl rfl

variable [AudioOutput R B] [DecidableEq R]

/-- What each action changes. -/
theorem alters_perform (s : Session R B) (binding : Option Binding) (dt : R) (a : Action R) :
    Alters s (a.kind.target?.map (Binding.resolve binding)) a.kind.slot?
      (perform binding dt s a) := by
  rcases a with ⟨id, kind⟩
  -- Five kinds of actions touch instances, slots or the noted instances and values.
  cases kind <;> simp only [perform]
  case object target e => exact alters_affect s binding dt _ e
  case save slot => exact alters_save s slot
  case clearSave slot => exact alters_clearSave s slot
  case create c =>
    unfold create
    split
    · exact (alters_withPicture s c.sprite _).spawn _
    · exact alters_of_eq rfl rfl rfl rfl
  case changeGlobal name op value =>
    unfold changeGlobal
    split <;> exact alters_of_eq rfl rfl rfl rfl
  -- The others have to do with other parts of the session.
  all_goals exact alters_of_eq rfl rfl rfl rfl

/-- What an action leaves alone. -/
structure ActsLocally (s : Session R B) (binding : Option Binding) (a : Action R)
    (t : Session R B) : Prop where
  labels : t.roster.labels = s.roster.labels
  live : ∀ k, t.roster.live[k]? ≠ s.roster.live[k]? → ∃ target, a.kind.target? = some target ∧
    s.roster.index? (Binding.resolve binding target) = some k
  spawns : s.roster.spawns <+: t.roster.spawns
  destroys : s.roster.destroys <+: t.roster.destroys
  project : t.project = s.project
  config : t.config = s.config
  scene : t.scene = s.scene
  input : t.input = s.input
  clock : t.clock = s.clock
  memory : t.memory = s.memory
  slots : t.slots = s.slots ∨ ∃ slot, a.kind.slot? = some slot ∧
    SlotStore.SameBut (s.slotKey slot) s.slots t.slots

theorem actsLocally_perform (s : Session R B) (binding : Option Binding) (dt : R) (a : Action R) :
    s.ActsLocally binding a (perform binding dt s a) := by
  have hf := follows_perform s binding dt a
  have ha := alters_perform s binding dt a
  refine ⟨Roster.labels_of_becomes hf.live, ?_, ?_, ?_, hf.keeps.project, hf.keeps.config, hf.scene,
    ha.input, hf.clock, ha.memory, ha.slots⟩
  · intro k hk
    rcases ha.live with hlive | ⟨id, f, hid, hlive⟩
    · rw [hlive] at hk
      exact absurd rfl hk
    · rw [hlive] at hk
      rw [Option.map_eq_some_iff] at hid
      rcases hid with ⟨target, htarget, rfl⟩
      exact ⟨target, htarget, Roster.findIdx?_of_modifyFirst_ne hk⟩
  · rw [hf.spawns]
    exact List.prefix_append _ _
  · rw [hf.destroys]
    exact List.prefix_append _ _

/-- Actions are local, and the ids and names of the live instances are the same from
    the beginning of a tick until it is concluded. -/
theorem perform_local :
    (∀ (s : Session R B) (binding : Option Binding) (dt : R) (a : Action R),
        s.ActsLocally binding a (perform binding dt s a)) ∧
      ∀ (s : Session R B) (dt : R), ∀ t ∈ s.stages dt, t.roster.labels = s.roster.labels := by
  refine ⟨actsLocally_perform, ?_⟩
  intro s dt
  -- It holds when the tick has begun, and each action that is taken keeps the labels.
  refine forall_stages (P := fun t => t.roster.labels = s.roster.labels) (fun _ _ h => h) ?_
    (Roster.labels_of_becomes (live_begun s dt))
  intro t binding a h
  exact (actsLocally_perform t binding _ a).labels.trans h

end Session

end Playfield
