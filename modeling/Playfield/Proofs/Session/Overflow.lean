import Mathlib
import Playfield.Proofs.Instance.Overflow
import Playfield.Proofs.Session.Lasting

/-!
# Loads and the Last Word

What a save can do to the counting of frames.

A save is loaded if it is one of a scene of the project. Nothing is asked of the cursors in
it, and one that stands at the last word overflows in the first tick in which the time of its
frame is over. A session that has been loaded therefore overflows in its first tick exactly
if the save has such a cursor (`Session.load_overflows_iff`).

There is no other way. No instance of a session becomes full, so if one overflows, at any
time after a load, a save that could be read at the time of the load has held a full one,
and no session has written that save. In every other tick the frames are counted as if there
were no largest one.

## Main definitions

* `SlotStore.IsSound`: No instance in a save is full.
* `Session.IsSound`: No instance is full, neither in the session nor in a save.

## Theorems

* `Session.countsOn_begun`: In a tick that is played frames are counted without a limit.
* `Session.invariant_isSound`: Whatever happens leaves a session sound.
* `Written.not_isFull`: No instance in a save that a session has written is full.
* `Session.load_overflows_iff`: Overflows after a load.
-/

namespace Playfield

section Copies

variable {R B : Type}

theorem Session.cursor_withPicture (s : Session R B) (source : String) (i : Instance R) :
    (s.withPicture source i).2.cursor = i.cursor := by
  unfold withPicture
  split
  · rfl
  · split <;> rfl

variable [Scalar R] [Planar R]

/-- What an action makes begins with the first frame. -/
theorem Deed.cursor_newcomer? {d : Deed R B} {i : Instance R} (h : d.newcomer? = some i) :
    i.cursor = Instance.startCursor := by
  rcases cases_newcomer? h with ⟨_, _, _, _, _, rfl⟩ | ⟨c, j, _, hj, rfl⟩
  · rfl
  · obtain ⟨_, _, _, _, rfl⟩ := Session.exists_of_creature? hj
    rw [Session.cursor_withPicture]
    rfl

theorem Deed.not_isFull_spawns (d : Deed R B) : ∀ i ∈ d.spawns, ¬ i.IsFull := by
  intro i hi
  rw [spawns, Option.mem_toList, Option.map_eq_some_iff] at hi
  rcases hi with ⟨j, hj, rfl⟩
  have hcursor : j.cursor = Instance.startCursor := cursor_newcomer? hj
  exact Instance.not_isFull_of_start hcursor

end Copies

/-- No instance is full in the saves that can be read. -/
def SlotStore.IsSound (R : Type) [Scalar R] [Numeral R] (slots : SlotStore) : Prop :=
  ∀ key text, slots.get key = .ok (some text) → ∀ save : SaveState R,
    SaveState.codec.parse text = .ok save → ∀ i ∈ save.instances, ¬ i.IsFull

namespace Session

variable {R B : Type} {s t : Session R B}

/-! ## Ticks that are played -/

section Ticks

variable [Scalar R] [Numeral R] [Planar R] [AudioOutput R B]

/-- It is the cursors of the moving instances that a tick moves. -/
theorem live_begun_eq (s : Session R B) (dt : R) : (s.begun dt).roster.live =
    (s.moving (elapsedTime dt)).map (Instance.animate (elapsedTime dt)) :=
  rfl

/-- In a tick that is played the frames of all instances are counted without a limit. -/
theorem countsOn_begun [DecidableEq R] {dt : R} (h : s.idles dt = false) :
    List.Forall₂ (Instance.CountsOn (elapsedTime dt)) s.roster.live (s.begun dt).roster.live := by
  obtain ⟨hc, hp, hover⟩ := idles_eq_false_iff.1 h
  obtain ⟨f, hf, hplays⟩ := s.exists_moving (elapsedTime dt)
  rw [live_begun_eq, hf, List.map_map, List.forall₂_map_right_iff, List.forall₂_same]
  intro i hi
  refine (hplays i).countsOn (Instance.countsOn_animate fun hi' => hover ?_)
  exact overflows_iff.2 ⟨hc, hp, i, hi, (hplays i).overflows_iff.1 hi'⟩

end Ticks

/-! ## Sound sessions -/

variable [Scalar R] [Numeral R]

/-- No instance is full: neither one that lives or waits nor one in a save that can be
    read. -/
structure IsSound (s : Session R B) : Prop where
  live : ∀ i ∈ s.roster.live, ¬ i.IsFull
  spawns : ∀ i ∈ s.roster.spawns, ¬ i.IsFull
  saved : s.slots.IsSound R

namespace IsSound

theorem congr (h : s.IsSound) (hst : s.SharesWorld t) : t.IsSound where
  live := by rw [hst.roster]; exact h.live
  spawns := by rw [hst.roster]; exact h.spawns
  saved := by rw [hst.slots]; exact h.saved

theorem of_start {project : Project R} {config : Config R} {slots : SlotStore} {output : B}
    {supply : Supply} (h : start project config slots output supply = .ok s)
    (hslots : slots.IsSound R) : s.IsSound := by
  have hnew := isNew_start h
  refine ⟨?_, ?_, ?_⟩
  · rw [hnew.roster]
    exact List.forall_mem_nil _
  · rw [hnew.roster]
    exact List.forall_mem_nil _
  · rw [hnew.slots]
    exact hslots

theorem activate (h : s.IsSound) (scene : Scene R) : (s.activate scene).IsSound where
  live := List.forall_mem_map.2 fun _ _ => Instance.not_isFull_of_start rfl
  spawns := List.forall_mem_nil _
  saved := h.saved

/-- What has been loaded comes from a save, and nothing waits. -/
theorem of_saved (hsaved : s.slots.IsSound R) {key text : String} {save : SaveState R}
    (hget : s.slots.get key = .ok (some text))
    (hparse : SaveState.codec.parse text = .ok save) (scene : Scene R) :
    (s.restore save scene).IsSound where
  live := List.forall_mem_map.2 fun i hi hfull =>
    hsaved key text hget save hparse i hi (i.playsOn_ensureStates.isFull hfull)
  spawns := List.forall_mem_nil _
  saved := hsaved

/-- What waits becomes live, and some of the others go. -/
theorem settle (h : s.IsSound) : IsSound { s with roster := s.roster.applyPending } where
  live := List.forall_mem_append.2
    ⟨fun i hi => h.live i (s.roster.survivors_sublist.subset hi), h.spawns⟩
  spawns := List.forall_mem_nil _
  saved := h.saved

/-- A save that has been made since holds live instances. -/
theorem saved_later (h : s.IsSound) {slots : SlotStore} (hread : s.ReadsFrom slots) :
    slots.IsSound R := by
  intro key text hget save hparse
  rcases hread key text hget with hold | ⟨time, hnew⟩
  · exact h.saved key text hold save hparse
  · rw [hnew] at hparse
    cases hparse
    exact h.live

theorem store (h : s.IsSound) {slots : SlotStore} (supply : Supply) (hread : s.ReadsFrom slots) :
    IsSound { s with slots := slots, supply := supply } where
  live := h.live
  spawns := h.spawns
  saved := h.saved_later hread

variable [Planar R] [AudioOutput R B]

/-- What moves by itself does not become full. -/
theorem begun (h : s.IsSound) (dt : R) : (s.begun dt).IsSound := by
  refine ⟨?_, ?_, h.saved⟩
  · obtain ⟨f, hf, hplays⟩ := s.exists_moving (elapsedTime dt)
    rw [live_begun_eq, hf, List.forall_mem_map, List.forall_mem_map]
    intro i hi hfull
    exact h.live i hi ((hplays i).isFull (Instance.isFull_of_animate hfull))
  · refine forall_spawns_begun (P := fun i => ¬ i.IsFull) ?_ ?_ h.spawns
    · exact fun _ _ hi hfull => hi (hfull.congr rfl rfl)
    · exact fun _ _ _ _ _ => Instance.not_isFull_of_start rfl

variable [DecidableEq R]

/-- Nothing in a sound session overflows. -/
theorem not_overflows (h : s.IsSound) (dt : R) : ¬ s.Overflows dt := by
  intro hover
  obtain ⟨-, -, i, hi, hover⟩ := overflows_iff.1 hover
  exact h.live i hi hover.isFull

theorem perform (h : s.IsSound) (binding : Option Binding) (dt : R) (a : Action R) :
    (perform binding dt s a).IsSound := by
  refine ⟨?_, ?_, h.saved_later (readsFrom_perform s binding dt a)⟩
  · intro j hj hfull
    rcases (descends_perform s binding dt a).cases_of_mem hj with hj | ⟨i, hi, order, -, hij⟩
    · exact h.live j hj hfull
    · exact h.live i hi (Order.isFull_of_result? hij hfull)
  · rw [(follows_perform s binding dt a).spawns, List.flatMap_singleton, List.forall_mem_append]
    exact ⟨h.spawns, Deed.not_isFull_spawns _⟩

end IsSound

variable [Planar R] [AudioOutput R B] [DecidableEq R]

/-- Whatever happens leaves a session sound. -/
theorem invariant_isSound : Invariant fun s : Session R B => s.IsSound where
  congr := IsSound.congr
  activate := fun {_ scene} _ h => h.activate scene
  restore := fun {_ _ _ _ scene} hget hparse _ h => .of_saved h.saved hget hparse scene
  settle := IsSound.settle
  store := fun {_ _ supply} hread _ _ h => h.store supply hread
  begun := fun dt h => h.begun dt
  perform := fun binding dt a h => h.perform binding dt a

/-- The instances in written saves are not full. -/
theorem Written.not_isFull {text : String} (h : Written R text) : ∀ save : SaveState R,
    SaveState.codec.parse text = .ok save → ∀ i ∈ save.instances, ¬ i.IsFull := by
  -- The texts that the session has begun with have been written before it.
  induction h with
  | @intro B _ project config slots output supply s t hstart hslots calls dt ht key text hget ih =>
      have hsound := invariant_isSound.always (IsSound.of_start hstart ih) calls dt t ht
      exact hsound.saved key text hget

/-- A text that is a save of a scene of the project is loaded, whatever cursors are in it. The
    number of a frame overflows in the next tick exactly if the save has a running animation
    whose cursor stands at the last word when the time of its frame is over. If there is ever
    an overflow later on, then a save that could be read at the load, this or another one, has
    an animation whose cursor stands there, and it is none that a session has written. In every
    other tick that is played, frames are counted without a limit. -/
theorem load_overflows_iff (s : Session R B) (slot text : String) (save : SaveState R)
    (scene : Scene R) (hget : s.slots.get (s.slotKey slot) = .ok (some text))
    (hparse : SaveState.codec.parse text = .ok save)
    (hscene : s.project.scene? save.scene = some scene) :
    (s.load slot).2 = .ok () ∧
    (∀ dt, (s.load slot).1.Overflows dt ↔ s.closed = false ∧ s.popup = none ∧
      ∃ i ∈ save.instances, i.Overflows (elapsedTime dt)) ∧
    ∀ calls dt, let t := (s.load slot).1.run calls
      (t.Overflows dt → ∃ key text', s.slots.get key = .ok (some text') ∧ ¬ Written R text' ∧
        ∃ save' : SaveState R, SaveState.codec.parse text' = .ok save' ∧
          ∃ i ∈ save'.instances, i.IsFull) ∧
      (t.idles dt = false → List.Forall₂ (Instance.CountsOn (elapsedTime dt)) t.roster.live
        (t.begun dt).roster.live) := by
  rw [load_of_parsed hget hparse hscene]
  dsimp only
  refine ⟨rfl, fun dt => ?_, fun calls dt => ⟨fun hover => ?_, countsOn_begun⟩⟩
  · have hlive : (s.restore save scene).roster.live = save.instances.map (·.ensureStates) := rfl
    rw [overflows_iff, hlive]
    simp only [List.mem_map, exists_exists_and_eq_and,
      (Instance.playsOn_ensureStates _).overflows_iff]
    rfl
  · -- If there were no full instance in a save, none would ever be one.
    by_contra hnone
    have hsaved : s.slots.IsSound R := fun key text' hget' save' hparse' i hi hfull =>
      hnone ⟨key, text', hget', fun hwritten => hwritten.not_isFull save' hparse' i hi hfull,
        save', hparse', i, hi, hfull⟩
    have hloaded : (s.restore save scene).IsSound := .of_saved hsaved hget hparse scene
    exact (invariant_isSound.run hloaded calls).not_overflows dt hover

end Session

/-- A door that opens once. -/
def Object.door {R : Type} [Scalar R] : Object R :=
  ⟨"door", "Door", .zero, ⟨1, 1⟩, 1, 0, .empty, "Main", true, .empty, [], [],
    .sprite ⟨none, [⟨"open", "Open", ["ajar", "wide"], 1, false⟩], some "Open"⟩⟩

/-- The door with its cursor at some frame. -/
def Instance.opening (frame : UInt64) : Instance Float :=
  { Instance.ofTemplate .door with cursor := ⟨frame, 0⟩ }

/-- A save of that door. -/
def SaveState.opening (frame : UInt64) : SaveState Float :=
  ⟨0, "main", [.opening frame], .empty, .centered ⟨400, 300⟩, .empty⟩

theorem SaveState.parse_opening (frame : UInt64) :
    codec.parse (codec.write (opening frame)).compact = .ok (opening frame) := by
  have hzero : Scalar.isFinite (0 : Float) = true := by decide
  have hone : Scalar.isFinite (1 : Float) = true := by decide
  have hdoor : (Object.door : Object Float).IsFinite :=
    ⟨⟨hzero, hzero⟩, ⟨hone, hone⟩, hone, hzero, List.forall_mem_nil _, List.forall_mem_nil _,
      List.forall_mem_nil _, List.forall_mem_nil _, List.forall_mem_singleton.2 hone⟩
  have hview : (View.centered ⟨400, 300⟩ : View Float).IsFinite :=
    ⟨⟨by decide, by decide⟩, by decide, nofun, nofun, ⟨by decide, by decide⟩⟩
  refine (parse_write_iff _).2 ⟨List.forall_mem_singleton.2 ?_, List.forall_mem_nil _, hview,
    List.forall_mem_nil _⟩
  exact ⟨hdoor, hzero, BehaviorStates.isFinite_empty⟩

namespace Session

/-- A session with that save in its only slot. -/
def opening (frame : UInt64) : Session Float (SilentOutput Float) :=
  { (ofActions [] : Session Float (SilentOutput Float)) with
    slots := .memory (Dictionary.empty.insert "gamma_save_a"
      (SaveState.codec.write (SaveState.opening frame)).compact) }

theorem get_opening (frame : UInt64) :
    (opening frame).slots.get ((opening frame).slotKey "a") =
      .ok (some (SaveState.codec.write (SaveState.opening frame)).compact) :=
  rfl

/-- A door that has been saved at its first frame is loaded, and nothing overflows then. -/
theorem load_overflows_iff_first :
    ((opening 0).load "a").2 = .ok () ∧
      ∀ calls dt, ¬ (((opening 0).load "a").1.run calls).Overflows dt := by
  obtain ⟨hok, -, hlater⟩ := load_overflows_iff (opening 0) "a" _ _ _ (get_opening 0)
    (SaveState.parse_opening 0) rfl
  refine ⟨hok, fun calls dt hover => ?_⟩
  obtain ⟨key, text, hget, -, save, hparse, i, hi, hfull⟩ := (hlater calls dt).1 hover
  have htext : (SaveState.codec.write (SaveState.opening 0)).compact = text := by
    have hfound := Except.ok.inj hget
    rw [Dictionary.get?_insert] at hfound
    split at hfound
    · exact Option.some.inj hfound
    · cases hfound
  rw [← htext, SaveState.parse_opening] at hparse
  cases hparse
  rw [List.mem_singleton.1 hi] at hfull
  exact Instance.not_isFull_of_start rfl hfull

theorem load_opening (frame : UInt64) : (opening frame).load "a" =
    ((opening frame).restore (.opening frame) (opening frame).scene, .ok ()) :=
  load_of_parsed (get_opening frame) (SaveState.parse_opening frame) rfl

/-- With a door that is saved at the last word no tick comes to an end after a load in which the
    time of the frame is over. -/
theorem overflows_opening : ((opening 18446744073709551615).load "a").1.Overflows 1 := by
  rw [load_opening]
  refine overflows_iff.2 ⟨rfl, rfl, _, List.mem_singleton_self _, ?_⟩
  exact ⟨⟨"open", "Open", ["ajar", "wide"], 1, false⟩, rfl, by decide, by decide +kernel,
    by decide⟩

/-- A door that has been saved at the last word is loaded as well, and overflows. -/
theorem overflows_last :
    let s := opening 18446744073709551615
    (s.load "a").2 = .ok () ∧ ((s.load "a").1.tick 1).2 = .overflowed :=
  ⟨congrArg Prod.snd (load_opening _), overflows_opening⟩

/-- Its session is open and shows no message, and yet the tick ends in no way. -/
theorem not_ends_last :
    let t := ((opening 18446744073709551615).load "a").1
    t.closed = false ∧ t.popup = none ∧ ¬ ∃ o, t.Ends 1 o := by
  refine ⟨by rw [load_opening]; rfl, by rw [load_opening]; rfl, ?_⟩
  rintro ⟨o, ho⟩
  have houtcome : o = .overflowed := ho.outcome.symm.trans overflows_opening
  rw [houtcome] at ho
  exact ho

end Session

end Playfield
