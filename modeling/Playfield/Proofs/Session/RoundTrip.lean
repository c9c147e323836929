import Mathlib
import Playfield.Proofs.Session.Finite
import Playfield.Proofs.Session.Reachable

/-!
# Saving and Loading

A save that has been accepted is loaded as it was, whatever happens in between.

When a session is saved, its text is read back and compared, so what the slot holds
is a text of the save, and it is the same save that a load reads. What remains to be
shown is that the slot still holds it, and that the session which loads it makes
nothing else of it.

The first is a matter of which slots are written. The calls of a host and the actions
in its ticks write slots, and what they write is listed (`Session.writes`); other slots
stay as they are (`Session.Keeps`). The second is a matter of what a load adds: states
of behaviors, a floor of the zoom, and the scene of an id. All three have nothing to
do, because a session that can be reached is regular.

## Main definitions

* `Session.writes`: The slots that calls write or empty.
* `Session.HasLoaded`: A session with the state of another one loaded into it.

## Theorems

* `Session.keeps_run`: Calls change no slots but those that they write.
* `Session.hasLoaded_restore`: What a load makes of a save of a regular session.
* `Session.load_of_save`: A save is loaded as it was.
-/

namespace Playfield

namespace Session

section Writes

variable {R B : Type} [Scalar R] [Numeral R]

theorem keeps_conclude (s : Session R B) (dt : R) : Keeps s [] (conclude dt s).1 := by
  rcases request_cases s with ⟨slot, hl, hload⟩ | ⟨hl, ⟨id, scene, hs, hscene⟩ | hs⟩
  · rcases exists_of_load_ok hload with ⟨text, save, scene, hget, hparse, hscene⟩
    rw [conclude_of_loaded _ hl hload, load_of_parsed hget hparse hscene]
    exact keeps_of_eq _ rfl rfl rfl
  · rw [conclude_of_changed _ hl hs hscene]
    exact keeps_of_eq _ rfl rfl rfl
  · rw [conclude_of_advanced _ hl hs]
    exact keeps_of_eq _ rfl rfl rfl

variable [Planar R] [AudioOutput R B] [DecidableEq R]

/-- The slots that a tick writes or empties. -/
def tickWrites (s : Session R B) (dt : R) : List String :=
  if s.idles dt then []
  else ((s.begun dt).deeds (elapsedTime dt)).flatMap Deed.writes

/-- The slots that a call writes or empties. -/
def callWrites (s : Session R B) : HostCall R B → List String
  | .tick dt => s.tickWrites dt
  | .save slot => s.savedSlots slot
  | .clearSave slot => [slot]
  | _ => []

/-- The slots that calls write or empty. -/
def writes (s : Session R B) (calls : List (HostCall R B)) : List String :=
  traced call callWrites s calls

theorem keeps_tick (s : Session R B) (dt : R) : Keeps s (s.tickWrites dt) (s.tick dt).1 := by
  unfold tickWrites
  rcases tick_cases s dt with ⟨_, input, count, htick⟩ | ⟨hplayed, htick⟩
  · rw [htick]
    exact keeps_of_eq _ rfl rfl rfl
  · -- Only the events of a tick write slots; neither its beginning nor its end does.
    have hbegin : Keeps s [] (s.begun dt) := keeps_of_eq _ rfl rfl rfl
    have hevents := (follows_runEvents (s.begun dt) (elapsedTime dt)).keeps
    have hend := (hbegin.append hevents).append (keeps_conclude (s.passed dt) (elapsedTime dt))
    rw [List.nil_append, List.append_nil] at hend
    rw [if_neg hplayed, htick]
    exact hend

theorem keeps_call (s : Session R B) (c : HostCall R B) : Keeps s (s.callWrites c) (s.call c) := by
  by_cases hc : c.isPassive = true
  · rcases exists_call_of_isPassive s hc with ⟨input, assets, mixer, popup, closed, hcall⟩
    rw [hcall]
    exact keeps_of_eq _ rfl rfl rfl
  cases c <;> simp only [call, callWrites]
  case enter id =>
    rcases exists_registerAssets s with ⟨assets, sounds, done, hr⟩
    unfold enter
    rw [hr]
    dsimp only
    split
    · exact keeps_of_eq _ rfl rfl rfl
    · exact keeps_of_eq _ rfl rfl rfl
  case tick dt => exact keeps_tick s dt
  case save slot => exact keeps_save s slot
  case clearSave slot => exact keeps_clearSave s slot
  case load slot =>
    rcases load_cases s slot with ⟨e, hload⟩ | ⟨text, save, scene, _, _, _, hload⟩
    · rw [hload]
      exact keeps_of_eq _ rfl rfl rfl
    · rw [hload]
      exact keeps_of_eq _ rfl rfl rfl
  all_goals exact absurd rfl hc

/-- Calls change no slots but those that they write. -/
theorem keeps_run (s : Session R B) (calls : List (HostCall R B)) :
    Keeps s (s.writes calls) (s.run calls) :=
  traced_account ⟨fun _ => keeps_of_eq _ rfl rfl rfl, fun h h' => h.append h'⟩ keeps_call s calls

end Writes

variable {B : Type}

/-- A session `u` that `t` has become by loading the state of `s`. -/
structure HasLoaded (s t u : Session Float B) : Prop where
  scene : u.scene = s.scene
  live : u.roster.live = s.roster.live
  globals : u.globals = s.globals
  position : u.camera.view.position = s.camera.view.position
  zoom : u.camera.view.zoom = s.camera.view.zoom
  bounds : u.camera.view.bounds = s.camera.view.bounds
  glide : u.camera.view.glide = s.camera.view.glide
  follow : u.camera.view.follow = s.camera.view.follow
  /-- Each timer has been running as long as it had been when the state was saved. -/
  timers : u.timers = s.timers.mapValues fun start => u.clock - (s.clock - start)
  clock : u.clock = t.clock
  memory : u.memory = .fresh u.clock
  settled : u.IsSettled

/-- What a load makes of a save of a regular session. -/
theorem hasLoaded_restore {s : Session Float B} (h : s.IsRegular) (t : Session Float B)
    (time : UInt64) : HasLoaded s t (t.restore (s.snapshot time) s.scene) where
  scene := rfl
  live := by
    -- A load fills the slots that are missing, and none is.
    have hkeep : s.roster.live.map (·.ensureStates) = s.roster.live.map id :=
      List.map_congr_left fun i hi => Instance.ensureStates_of_isEquipped (h.live i hi)
    rw [List.map_id] at hkeep
    exact hkeep
  globals := rfl
  position := rfl
  zoom := h.zoom
  bounds := rfl
  glide := rfl
  follow := rfl
  timers := by
    simp only [restore, snapshot, Dictionary.mapValues, List.map_map]
    rfl
  clock := rfl
  memory := rfl
  settled := ⟨rfl, rfl, rfl, rfl⟩

/-- What an accepted save leaves in its slot. -/
theorem get_of_save_ok {R : Type} [Scalar R] [Numeral R] [DecidableEq R] {s : Session R B}
    {slot : String} {slots : Dictionary String} (hs : s.slots = .memory slots)
    (h : (s.save slot).2 = .ok ()) :
    ∃ text slots', (s.save slot).1.slots = .memory slots' ∧
      slots'.get? (s.slotKey slot) = some text ∧
      SaveState.codec.parse text = .ok (s.snapshot s.supply.now.1) := by
  cases henc : encode slot (s.snapshot s.supply.now.1) with
  | error e =>
      rw [save_of_refused henc] at h
      cases h
  | ok text =>
      rw [save_of_memory hs henc]
      exact ⟨text, _, rfl, Dictionary.get?_insert_self _ _ _, (encode_eq_ok_iff.1 henc).2⟩

variable [AudioOutput Float B]

/-- A save that has been accepted is loaded as it was, whatever calls are made before
    the load, as long as they do not write or empty its slot. -/
theorem load_of_save {project : Project Float} {config : Config Float}
    {slots : Dictionary String} {output : B} {supply : Supply} {s₀ : Session Float B}
    (hstart : start project config (.memory slots) output supply = .ok s₀)
    (calls later : List (HostCall Float B)) (slot : String)
    (hsave : ((s₀.run calls).save slot).2 = .ok ())
    (hlater : slot ∉ ((s₀.run calls).save slot).1.writes later) :
    ((((s₀.run calls).save slot).1.run later).load slot).2 = .ok () ∧
      HasLoaded (s₀.run calls) (((s₀.run calls).save slot).1.run later)
        ((((s₀.run calls).save slot).1.run later).load slot).1 := by
  -- The session that is saved is regular, and its slots are in memory.
  have hrest := (isAtRest_start hstart).run calls
  have hslots₀ : s₀.slots = .memory slots := by
    unfold start at hstart
    split at hstart
    · cases hstart
    · cases hstart
      rfl
  rcases (keeps_run s₀ calls).slots slots hslots₀ with ⟨slots₁, hslots₁, _⟩
  generalize s₀.run calls = s at *
  rcases get_of_save_ok hslots₁ hsave with ⟨text, slots₂, hslots₂, hget, hparse⟩
  -- Neither the save nor what comes after it changes project, prefix or the text in the slot.
  have hkept := keeps_save s slot
  generalize (s.save slot).1 = t at *
  have hlaterKept := keeps_run t later
  rcases hlaterKept.slots slots₂ hslots₂ with ⟨slots₃, hslots₃, hsame⟩
  generalize t.run later = u at *
  have hkey : t.slotKey slot = s.slotKey slot := by rw [slotKey, hkept.config, slotKey]
  have hkey' : u.slotKey slot = t.slotKey slot := by rw [slotKey, hlaterKept.config, slotKey]
  have htext : u.slots.get (u.slotKey slot) = .ok (some text) := by
    rw [hslots₃, SlotStore.get, hkey', hsame slot hlater, hkey, hget]
  -- The scene is found again by its id, because it is the first with that id.
  have hscene : u.project.scene? (s.snapshot s.supply.now.1).scene = some s.scene := by
    rw [hlaterKept.project, hkept.project]
    exact hrest.regular.scene
  rw [load_of_parsed htext hparse hscene]
  exact ⟨rfl, hasLoaded_restore hrest.regular u _⟩

end Session

/-- A lantern that can be damaged. -/
def Object.lantern : Object Float :=
  ⟨"lantern", "Lantern", .zero, ⟨1, 1⟩, 1, 0, .empty, "Main", true, .empty, [],
    [.health 3 2], .sprite ⟨none, [], none⟩⟩

/-- A project with one lantern. In the first tick of the scene its timer and a variable are set. -/
def Project.lantern : Project Float :=
  ⟨.initial, [⟨"main", "Main", [⟨"Main", true, ⟨1, 1⟩⟩], [.lantern],
    [.event ⟨"first", "First", none, [⟨"1", .sceneStart⟩],
      [⟨"1", .startTimer "burning"⟩, ⟨"2", .setGlobal "lit" (.number 1)⟩]⟩]⟩], [], .empty⟩

/-- A session of that project that has not begun yet, without sound and with empty slots in
    memory. -/
def Session.lantern : Session Float (SilentOutput Float) :=
  (Session.start .lantern (.ofSettings .initial) (.memory .empty) .initial
    ⟨fun _ => "", fun _ => 0, 0, 0⟩).toOption.get rfl

namespace Session

theorem start_lantern : start .lantern (.ofSettings .initial) (.memory .empty)
    SilentOutput.initial ⟨fun _ => "", fun _ => 0, 0, 0⟩ = .ok lantern := rfl

/-- The session after two ticks. -/
def burning : Session Float (SilentOutput Float) :=
  lantern.run [.enter none, .tick 0.5, .tick 0.25]

theorem live_burning : burning.roster.live = [{ Instance.ofTemplate .lantern with
    object := { Object.lantern with
      vars := Dictionary.empty.insert "health" (.number 3) } }] := by
  decide +kernel

theorem globals_burning : burning.globals = Dictionary.empty.insert "lit" (.number 1) := by
  decide +kernel

theorem isFinite_burning : (burning.snapshot burning.supply.now.1).IsFinite where
  instances := by
    intro i hi
    have hlive : i ∈ burning.roster.live := hi
    rw [live_burning, List.mem_singleton] at hlive
    rw [hlive]
    refine ⟨⟨⟨by decide, by decide⟩, ⟨by decide, by decide⟩, by decide, by decide, ?_, ?_, ?_, ?_,
      ?_⟩, by decide, ?_⟩
    · exact List.forall_mem_singleton.2 (by decide : Scalar.isFinite (3 : Float) = true)
    · exact List.forall_mem_nil _
    · exact List.forall_mem_nil _
    · exact List.forall_mem_singleton.2 ⟨by decide, by decide⟩
    · exact List.forall_mem_nil _
    · intro k v h
      cases k <;> cases h
      exact (by decide : Scalar.isFinite (3 : Float) = true)
  globals := by
    intro e he
    have hglobals : e ∈ burning.globals.entries := he
    rw [globals_burning] at hglobals
    rw [List.mem_singleton.1 hglobals]
    exact (by decide : Scalar.isFinite (1 : Float) = true)
  view := by
    refine ⟨⟨by decide +kernel, by decide +kernel⟩, by decide +kernel, ?_, ?_,
      ⟨by decide +kernel, by decide +kernel⟩⟩
    · intro b hb
      cases hb
    · intro g hg
      cases hg
  timers := by decide +kernel

/-- The lantern with its variable, the variable of the game and the timer are loaded as they
    have been saved, although the game has gone on. -/
theorem load_of_save_burning :
    let later : List (HostCall Float (SilentOutput Float)) :=
      [.dismissPopup, .clearSave "b", .tick 1]
    let t := (burning.save "a").1.run later
    burning.roster.live.length = 1 ∧ burning.globals.get? "lit" = some (.number 1) ∧
      burning.timers.get? "burning" = some 0.5 ∧ burning.clock = 0.75 ∧
      (burning.save "a").2 = .ok () ∧ (t.load "a").2 = .ok () ∧
      HasLoaded burning t (t.load "a").1 := by
  intro later t
  -- All numbers of this session are finite, so its save is accepted.
  have hsaved : burning.save "a" = _ := save_of_finite rfl isFinite_burning
  have hlater : "a" ∉ (burning.save "a").1.writes later := by
    rw [hsaved]
    decide +kernel
  have hload := load_of_save start_lantern [.enter none, .tick 0.5, .tick 0.25] later "a"
    (congrArg Prod.snd hsaved) hlater
  refine ⟨?_, ?_, by decide +kernel, by decide +kernel, congrArg Prod.snd hsaved, hload⟩
  · rw [live_burning]
    rfl
  · rw [globals_burning]
    rfl

end Session

end Playfield
