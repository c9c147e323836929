import Mathlib
import Playfield.Proofs.Camera.Zoom
import Playfield.Proofs.Session.Reconcile

/-!
# Sessions That a Host Can Reach

What is true of every session, whatever its host has done.

Three things are kept by all calls and all actions (`Session.IsRegular`). The active
scene is the first one of its id in the project. Every instance, live or waiting, is
equipped. And the zoom is usable. Between two calls, moreover, nothing waits
(`Session.IsAtRest`).

Of what a tick does only the beginning and the end have to be looked at here. What
lies between are the events, and for them there is `Session.follows_runEvents`; but
for the zoom, which needs to be followed through the events on its own because the
camera is steered in them.

## Main definitions

* `Session.IsNew`: A session to which nothing has happened.
* `Session.IsRegular`: What is true of every session.
* `Session.IsAtRest`: What is true of it between two calls.

## Theorems

* `Session.exists_registerAssets`: Registering assets changes little.
* `Session.IsRegular.begun`, `Session.IsRegular.runEvents`, `Session.IsRegular.conclude`:
  Each part of a tick keeps a session regular.
* `Session.isNew_start`, `Session.isAtRest_start`: A session is new and at rest at the
  beginning.
* `Session.IsAtRest.call`, `Session.IsAtRest.run`: All calls lead from rest to rest.
-/

namespace Playfield

theorem Project.scene?_id {R : Type} {p : Project R} {id : String} {scene : Scene R}
    (h : p.scene? id = some scene) : p.scene? scene.id = some scene := by
  have hid : scene.id = id := by
    have hp := List.find?_some h
    rwa [beq_iff_eq] at hp
  rwa [hid]

theorem Project.scene?_head {R : Type} {p : Project R} {scene : Scene R} {rest : List (Scene R)}
    (h : p.scenes = scene :: rest) : p.scene? scene.id = some scene := by
  simp only [Project.scene?, h, List.find?_cons, beq_self_eq_true]

/-- Registering assets changes assets, sounds and nothing else. -/
theorem Session.exists_registerAssets {R B : Type} (s : Session R B) :
    ∃ assets sounds done, s.registerAssets =
      { s with assets := assets, sounds := sounds, assetsRegistered := done } := by
  -- Pictures first and sounds then, each along its list.
  have hpictures (ps : List String) (s : Session R B) :
      ∃ assets, ps.foldl (fun s p => s.request .image p) s = { s with assets := assets } := by
    induction ps generalizing s with
    | nil => exact ⟨_, rfl⟩
    | cons p ps ih =>
        rcases ih (s.request .image p) with ⟨assets, h⟩
        exact ⟨assets, h⟩
  have hsounds (ss : List (Sound R)) (s : Session R B) :
      ∃ assets sounds, ss.foldl registerSound s =
        { s with assets := assets, sounds := sounds } := by
    induction ss generalizing s with
    | nil => exact ⟨_, _, rfl⟩
    | cons a ss ih =>
        rcases ih (registerSound s a) with ⟨assets, sounds, h⟩
        exact ⟨assets, sounds, h⟩
  unfold registerAssets
  split
  · exact ⟨_, _, _, rfl⟩
  · rcases hpictures s.project.pictures.keys s with ⟨assets, hp⟩
    rcases hsounds s.project.sounds { s with assets := assets } with ⟨assets', sounds, hs⟩
    dsimp only
    rw [hp, hs]
    exact ⟨_, _, _, rfl⟩

theorem Session.scene?_of_findScene {R B : Type} {s : Session R B} {id : Option String}
    {scene : Scene R} (h : s.findScene id = .ok scene) :
    s.project.scene? scene.id = some scene := by
  unfold findScene at h
  split at h
  · split at h
    · next found hfound =>
      cases h
      exact Project.scene?_id hfound
    · cases h
  · split at h
    · next first rest hscenes =>
      cases h
      exact Project.scene?_head hscenes
    · cases h

namespace Session

variable {R B : Type} [Scalar R] {s : Session R B} {id : Option String}

/-- Nothing has happened to a session yet. -/
structure IsNew (project : Project R) (config : Config R) (slots : SlotStore) (s : Session R B) :
    Prop where
  scene : ∃ rest, project.scenes = s.scene :: rest
  project : s.project = project
  roster : s.roster = .empty
  view : s.camera.view = .centered config.viewport.half
  assets : s.assets = .empty config.decodeMode
  slots : s.slots = slots
  clock : s.clock = 0
  memory : s.memory = .fresh 0
  pendingScene : s.pendingScene = none
  pendingLoad : s.pendingLoad = none
  assetsRegistered : s.assetsRegistered = false

theorem isNew_start {project : Project R} {config : Config R} {slots : SlotStore} {output : B}
    {supply : Supply} (h : start project config slots output supply = .ok s) :
    s.IsNew project config slots := by
  unfold start at h
  split at h
  · cases h
  · next scene rest hscenes =>
    cases h
    exact ⟨⟨rest, hscenes⟩, rfl, rfl, rfl, rfl, rfl, rfl, rfl, rfl, rfl, rfl⟩

theorem enter_of_error {e : SessionError} (h : s.registerAssets.findScene id = .error e) :
    s.enter id = (s.registerAssets, .error e) := by
  simp only [enter, h]

theorem enter_of_ok {scene : Scene R} (h : s.registerAssets.findScene id = .ok scene) :
    s.enter id = ({ s.registerAssets.activate scene with closed := false }, .ok ()) := by
  simp only [enter, h]

end Session

namespace Deed

variable {R B : Type} [Scalar R] [Planar R]

theorem isEquipped_newcomer? {d : Deed R B} {i : Instance R} (h : d.newcomer? = some i) :
    i.IsEquipped := by
  rcases cases_newcomer? h with ⟨_, template, firer, point, _, rfl⟩ | ⟨c, j, _, hj, rfl⟩
  · exact Instance.isEquipped_projectile firer template point
  · obtain ⟨template, place, layer, _, rfl⟩ := Session.exists_of_creature? hj
    have hcopy := Instance.isEquipped_ofTemplate template
    -- A picture is neither a behavior nor a state.
    unfold Session.withPicture
    split
    · exact hcopy.congr rfl rfl
    · split <;> exact hcopy.congr rfl rfl

theorem isEquipped_spawns (d : Deed R B) : ∀ i ∈ d.spawns, i.IsEquipped := by
  intro i hi
  simp only [spawns, Option.mem_toList, Option.map_eq_some_iff] at hi
  rcases hi with ⟨j, hj, rfl⟩
  exact (isEquipped_newcomer? hj).congr rfl rfl

end Deed

namespace Session

variable {B : Type}

/-- What is true of every session. -/
structure IsRegular (s : Session Float B) : Prop where
  scene : s.project.scene? s.scene.id = some s.scene
  live : ∀ i ∈ s.roster.live, i.IsEquipped
  spawns : ∀ i ∈ s.roster.spawns, i.IsEquipped
  zoom : s.camera.view.IsUsable

theorem IsRegular.activate {s : Session Float B} {scene : Scene Float}
    (hproject : s.project.scene? scene.id = some scene) : (s.activate scene).IsRegular where
  scene := hproject
  live := by
    intro i hi
    rcases List.mem_map.1 hi with ⟨o, _, rfl⟩
    exact Instance.isEquipped_ofTemplate o
  spawns := by
    intro i hi
    cases hi
  zoom := View.isUsable_centered _

theorem IsRegular.restore {s : Session Float B} {save : SaveState Float} {scene : Scene Float}
    (hproject : s.project.scene? scene.id = some scene) : (s.restore save scene).IsRegular where
  scene := hproject
  live := by
    intro i hi
    rcases List.mem_map.1 hi with ⟨j, _, rfl⟩
    exact Instance.isEquipped_ensureStates j
  spawns := by
    intro i hi
    cases hi
  zoom := Camera.isUsable_restore _ _

/-- Only project, scene, roster and zoom matter. -/
theorem IsRegular.congr {s t : Session Float B} (h : s.IsRegular) (hproject : t.project = s.project)
    (hscene : t.scene = s.scene) (hroster : t.roster = s.roster)
    (hzoom : t.camera.view.zoom = s.camera.view.zoom) : t.IsRegular where
  scene := by rw [hproject, hscene]; exact h.scene
  live := by rw [hroster]; exact h.live
  spawns := by rw [hroster]; exact h.spawns
  zoom := by rw [View.IsUsable, hzoom]; exact h.zoom

/-- What is true of every session between two calls. -/
structure IsAtRest (s : Session Float B) : Prop where
  regular : s.IsRegular
  settled : s.IsSettled

theorem isAtRest_start {project : Project Float} {config : Config Float} {slots : SlotStore}
    {output : B} {supply : Supply} {s : Session Float B}
    (h : start project config slots output supply = .ok s) : s.IsAtRest := by
  have hnew := isNew_start h
  rcases hnew.scene with ⟨rest, hscenes⟩
  refine ⟨⟨?_, ?_, ?_, ?_⟩, ⟨hnew.pendingLoad, hnew.pendingScene, ?_, ?_⟩⟩
  · rw [hnew.project]
    exact Project.scene?_head hscenes
  · rw [hnew.roster]
    exact List.forall_mem_nil _
  · rw [hnew.roster]
    exact List.forall_mem_nil _
  · rw [hnew.view]
    exact View.isUsable_centered _
  · rw [hnew.roster]
    rfl
  · rw [hnew.roster]
    rfl

theorem IsAtRest.congr {s t : Session Float B} (h : s.IsAtRest) (hproject : t.project = s.project)
    (hscene : t.scene = s.scene) (hroster : t.roster = s.roster)
    (hzoom : t.camera.view.zoom = s.camera.view.zoom) (hload : t.pendingLoad = s.pendingLoad)
    (hpending : t.pendingScene = s.pendingScene) : t.IsAtRest where
  regular := h.regular.congr hproject hscene hroster hzoom
  settled :=
    { load := hload.trans h.settled.load
      scene := hpending.trans h.settled.scene
      destroys := by rw [hroster]; exact h.settled.destroys
      spawns := by rw [hroster]; exact h.settled.spawns }

theorem IsRegular.registerAssets {s : Session Float B} (h : s.IsRegular) :
    s.registerAssets.IsRegular := by
  rcases exists_registerAssets s with ⟨assets, sounds, done, hr⟩
  rw [hr]
  exact h.congr rfl rfl rfl rfl

theorem IsRegular.enter {s : Session Float B} (h : s.IsRegular) (id : Option String) :
    (s.enter id).1.IsRegular := by
  have hassets := h.registerAssets
  unfold Session.enter
  dsimp only
  cases hscene : s.registerAssets.findScene id with
  | error e => exact hassets
  | ok scene =>
      -- The scene that has been found is the first of its id in the project.
      have hactive := IsRegular.activate (scene?_of_findScene hscene)
      exact hactive.congr rfl rfl rfl rfl

theorem IsAtRest.enter {s : Session Float B} (h : s.IsAtRest) (id : Option String) :
    (s.enter id).1.IsAtRest := by
  refine ⟨h.regular.enter id, ?_⟩
  rcases exists_registerAssets s with ⟨assets, sounds, done, hr⟩
  unfold Session.enter
  rw [hr]
  dsimp only
  split
  · exact ⟨h.settled.load, h.settled.scene, h.settled.destroys, h.settled.spawns⟩
  · exact ⟨rfl, rfl, rfl, rfl⟩

theorem isUsable_steer {s : Session Float B} (h : s.camera.view.IsUsable) (binding : Option Binding)
    (c : CameraCommand Float) : (s.steer binding c).camera.view.IsUsable := by
  cases c
  case zoom amount op => exact Camera.isUsable_changeZoom _ _ _
  case fit ids padding =>
    unfold steer
    dsimp only
    split
    · exact Camera.isUsable_fit _ _ _ _
    · exact h
  -- The other commands set another part of the view.
  all_goals exact h

theorem IsRegular.load {s : Session Float B} (h : s.IsRegular) (slot : String) :
    (s.load slot).1.IsRegular := by
  rcases load_cases s slot with ⟨e, hload⟩ | ⟨text, save, scene, _, _, hscene, hload⟩
  · rwa [hload]
  · rw [hload]
    exact IsRegular.restore (Project.scene?_id hscene)

theorem IsAtRest.load {s : Session Float B} (h : s.IsAtRest) (slot : String) :
    (s.load slot).1.IsAtRest := by
  refine ⟨h.regular.load slot, ?_⟩
  rcases load_cases s slot with ⟨e, hload⟩ | ⟨text, save, scene, _, _, _, hload⟩
  · rw [hload]
    exact h.settled
  · rw [hload]
    exact ⟨rfl, rfl, rfl, rfl⟩

theorem IsRegular.moveCamera {s : Session Float B} (h : s.IsRegular) (dt : Float) :
    (moveCamera dt s).IsRegular :=
  h.congr rfl rfl rfl (Camera.zoom_update _ _ _ _ _)

/-- The end of a tick keeps a session regular. -/
theorem IsRegular.conclude {s : Session Float B} (h : s.IsRegular) (dt : Float) :
    (conclude dt s).1.IsRegular := by
  rcases request_cases s with ⟨slot, hl, hload⟩ | ⟨hl, ⟨id, scene, hs, hscene⟩ | hs⟩
  · rw [conclude_of_loaded _ hl hload]
    exact (h.load slot).congr rfl rfl rfl rfl
  · rw [conclude_of_changed _ hl hs hscene]
    exact ((IsRegular.activate (Project.scene?_id hscene)).moveCamera dt).congr rfl rfl rfl rfl
  · rw [conclude_of_advanced _ hl hs]
    have hpending : IsRegular { s with
        pendingLoad := none
        pendingScene := none
        roster := s.roster.applyPending } := by
      refine ⟨h.scene, ?_, by simp [Roster.applyPending, Roster.ofLive], h.zoom⟩
      intro i hi
      rcases List.mem_append.1 hi with hi | hi
      · exact h.live i (s.roster.survivors_sublist.subset hi)
      · exact h.spawns i hi
    exact (hpending.moveCamera dt).congr rfl rfl rfl rfl

variable [AudioOutput Float B]

theorem isUsable_perform {s : Session Float B} (h : s.camera.view.IsUsable)
    (binding : Option Binding) (dt : Float) (a : Action Float) :
    (perform binding dt s a).camera.view.IsUsable := by
  cases hc : (⟨s, binding, a⟩ : Deed Float B).camera? with
  | none =>
      -- Only commands for the camera touch the view.
      have hcamera := (follows_perform s binding dt a).camera (by simpa using hc)
      rwa [hcamera]
  | some c =>
      rcases a with ⟨id, kind⟩
      cases kind <;> simp only [Deed.camera?, reduceCtorEq] at hc
      exact isUsable_steer h binding _

/-- The events of a tick keep a session regular. -/
theorem IsRegular.runEvents {s : Session Float B} (h : s.IsRegular) (dt : Float) :
    (runEvents dt s).IsRegular := by
  have hf := follows_runEvents s dt
  refine ⟨?_, ?_, ?_, ?_⟩
  · rw [hf.keeps.project, hf.scene]
    exact h.scene
  · exact Instance.forall_isEquipped_of_becomes hf.live h.live
  · rw [hf.spawns, List.forall_mem_append]
    refine ⟨h.spawns, ?_⟩
    intro i hi
    rcases List.mem_flatMap.1 hi with ⟨d, _, hd⟩
    exact Deed.isEquipped_spawns d i hd
  · -- The zoom may change with every action, so it is followed through all of them.
    have hzoom : Account (fun (s : Session Float B) (_ : List (Deed Float B)) t =>
        s.camera.view.IsUsable → t.camera.view.IsUsable) :=
      ⟨fun _ h => h, fun h h' hs => h' (h hs)⟩
    exact runEvents_account hzoom (fun _ _ h => h)
      (fun _ binding a hs => isUsable_perform hs binding dt a) s h.zoom

theorem IsRegular.begun {s : Session Float B} (h : s.IsRegular) (dt : Float) :
    (s.begun dt).IsRegular where
  scene := h.scene
  live := Instance.forall_isEquipped_of_becomes (live_begun s dt) h.live
  spawns := by
    refine forall_spawns_begun (fun _ _ hi => hi.congr rfl rfl) ?_ h.spawns
    exact fun _ template firer point _ => Instance.isEquipped_projectile firer template point
  zoom := h.zoom

theorem IsRegular.tick {s : Session Float B} (h : s.IsRegular) (dt : Float) :
    (s.tick dt).1.IsRegular := by
  rcases tick_cases s dt with ⟨_, input, count, htick⟩ | ⟨_, htick⟩
  · rw [htick]
    exact h.congr rfl rfl rfl rfl
  · rw [htick]
    exact ((h.begun dt).runEvents _).conclude _

theorem IsAtRest.tick {s : Session Float B} (h : s.IsAtRest) (dt : Float) :
    (s.tick dt).1.IsAtRest := by
  refine ⟨h.regular.tick dt, ?_⟩
  rcases tick_cases s dt with ⟨_, input, count, htick⟩ | ⟨_, htick⟩
  · rw [htick]
    exact ⟨h.settled.load, h.settled.scene, h.settled.destroys, h.settled.spawns⟩
  · rw [htick]
    exact isSettled_conclude _ _

/-- All calls lead from rest to rest. -/
theorem IsAtRest.call {s : Session Float B} (h : s.IsAtRest) (c : HostCall Float B) :
    (s.call c).IsAtRest := by
  by_cases hc : c.isPassive = true
  · rcases exists_call_of_isPassive s hc with ⟨input, assets, mixer, popup, closed, hcall⟩
    rw [hcall]
    exact h.congr rfl rfl rfl rfl rfl rfl
  cases c
  case enter id => exact h.enter id
  case tick dt => exact h.tick dt
  case load slot => exact h.load slot
  case save slot =>
    rcases exists_save s slot with ⟨store, hstore⟩
    rw [Session.call, hstore]
    exact h.congr rfl rfl rfl rfl rfl rfl
  case clearSave slot =>
    rcases exists_clearSave s slot with ⟨store, hstore⟩
    rw [Session.call, hstore]
    exact h.congr rfl rfl rfl rfl rfl rfl
  all_goals exact absurd rfl hc

theorem IsAtRest.run {s : Session Float B} (h : s.IsAtRest) (calls : List (HostCall Float B)) :
    (s.run calls).IsAtRest := by
  unfold Session.run
  -- Each call starts from rest and ends at rest.
  induction calls generalizing s with
  | nil => exact h
  | cons c calls ih => exact ih (h.call c)

end Session

end Playfield
