import Mathlib
import Playfield.Proofs.Event.Active
import Playfield.Proofs.Session.Veil
import Playfield.Scalar.Double
import Playfield.Session.Host

/-!
# Inert Parts of a Project

What of the trees of events a game does not depend on.

A session reads its tree of events in one place only, where a tick runs the active ones.
So the tree can be flattened, to a list of the active events and nothing else, without
anything else becoming different: flattening commutes with every call, and the host is
told the same (`Session.flat_tick` and its like). The project has to be flattened along,
because scenes are copied from it.

Two projects that only differ in what closed groups hide, in comments and in the names of
groups are the same when they are flattened. So their sessions agree forever
(`Session.agrees_of_essential`).

## Main definitions

* `Scene.flat`, `Project.flat`, `Session.flat`: Only the active events are left.
* `Session.Agrees`: Two sessions look alike, and a host is told the same about them.

## Theorems

* `Project.flat_essential`: What is flattened away first makes no difference.
* `Session.flat_conclude`, `Session.flat_tick`: Flat sessions go on in the same way.
* `Session.flat_call`, `Session.flat_run`: All calls keep to that.
* `Session.agrees_of_essential`: Only active events matter.
-/

namespace Playfield

section Documents

variable {R : Type}

/-- The scene with the active events only. -/
def Scene.flat (s : Scene R) : Scene R := { s with events := s.activeEvents.map .event }

/-- The project with the active events only. -/
def Project.flat (p : Project R) : Project R := { p with scenes := p.scenes.map Scene.flat }

theorem Scene.activeEvents_flat (s : Scene R) : s.flat.activeEvents = s.activeEvents :=
  EventNode.activeEvents_map_event s.activeEvents

theorem Scene.flat_essential (s : Scene R) : s.essential.flat = s.flat := by
  have hactive : s.essential.activeEvents = s.activeEvents :=
    EventNode.activeEvents_essentials s.events
  unfold flat
  rw [hactive]
  rfl

namespace Project

/-- What is flattened away makes no difference before. -/
theorem flat_essential (p : Project R) : p.essential.flat = p.flat := by
  have hscenes : p.essential.scenes.map Scene.flat = p.scenes.map Scene.flat := by
    rw [essential, List.map_map]
    exact List.map_congr_left fun s _ => Scene.flat_essential s
  unfold flat
  rw [hscenes]
  rfl

theorem flat_of_essential {p q : Project R} (h : q.essential = p.essential) : q.flat = p.flat := by
  rw [← flat_essential q, h, flat_essential]

theorem scene?_flat (p : Project R) (id : String) : p.flat.scene? id = (p.scene? id).map .flat := by
  rw [scene?, scene?, flat, List.find?_map]
  rfl

theorem pictures_flat (p : Project R) : p.flat.pictures = p.pictures := by
  rw [pictures, pictures, flat, List.flatMap_map]
  rfl

end Project

/-- Only the active events are left, in the project and in the scene. -/
def Veil.flat : Veil R where
  project := Project.flat
  events := fun ns => (EventNode.activeEvents ns).map .event
  load := id

end Documents

namespace Session

variable {R B : Type}

/-- The session with the active events only, now and in the project. -/
def flat (s : Session R B) : Session R B := s.veiled .flat

section Ends

theorem flat_clearSave (s : Session R B) (slot : String) :
    s.flat.clearSave slot = ((s.clearSave slot).1.flat, (s.clearSave slot).2) :=
  veiled_clearSave .flat s slot

theorem flat_findScene (s : Session R B) (id : Option String) :
    s.flat.findScene id = (s.findScene id).map Scene.flat := by
  cases id with
  | none =>
      have hscenes : s.flat.project.scenes = s.project.scenes.map Scene.flat := rfl
      unfold findScene
      dsimp only
      rw [hscenes]
      cases s.project.scenes <;> rfl
  | some id =>
      have hscene : s.flat.project.scene? id = (s.project.scene? id).map .flat :=
        s.project.scene?_flat id
      unfold findScene
      dsimp only
      rw [hscene]
      cases s.project.scene? id <;> rfl

theorem flat_registerAssets (s : Session R B) :
    s.flat.registerAssets = s.registerAssets.flat := by
  have hpictures : s.flat.project.pictures = s.project.pictures := s.project.pictures_flat
  have hdone : s.flat.assetsRegistered = s.assetsRegistered := rfl
  -- What is requested is the same, one picture and one sound after the other.
  have hrequest (ps : List String) (t : Session R B) :
      ps.foldl (fun s p => s.request .image p) t.flat =
        (ps.foldl (fun s p => s.request .image p) t).flat :=
    List.foldl_hom flat fun _ _ => rfl
  have hregister (ss : List (Sound R)) (t : Session R B) :
      ss.foldl registerSound t.flat = (ss.foldl registerSound t).flat :=
    List.foldl_hom flat fun _ _ => rfl
  have hsounds (t : Session R B) : t.flat.project.sounds = t.project.sounds := rfl
  unfold registerAssets
  rw [hdone, hpictures]
  split
  · rfl
  · dsimp only
    rw [hrequest, hsounds, hregister]
    rfl

variable [Scalar R]

theorem flat_enter (s : Session R B) (id : Option String) :
    s.flat.enter id = ((s.enter id).1.flat, (s.enter id).2) := by
  unfold enter
  dsimp only
  rw [flat_registerAssets, flat_findScene]
  cases s.registerAssets.findScene id <;> rfl

theorem flat_settle (s : Session R B) : s.flat.settle = (s.settle.1.flat, s.settle.2) := by
  have hscene (id : String) : (s.flat.project.scene? id) = (s.project.scene? id).map .flat :=
    s.project.scene?_flat id
  have hpending : s.flat.pendingScene = s.pendingScene := rfl
  unfold settle
  rw [hpending]
  cases s.pendingScene with
  | none => rfl
  | some id =>
      dsimp only [Option.bind]
      rw [hscene]
      cases s.project.scene? id <;> rfl

variable [Numeral R]

theorem flat_load (s : Session R B) (slot : String) :
    s.flat.load slot = ((s.load slot).1.flat, (s.load slot).2) := by
  have hget : s.flat.slots.get (s.flat.slotKey slot) = s.slots.get (s.slotKey slot) := rfl
  unfold load
  rw [hget]
  split
  · rfl
  · rfl
  · split
    · rfl
    · next save _ =>
      have hscene : s.flat.project.scene? save.scene = (s.project.scene? save.scene).map .flat :=
        s.project.scene?_flat save.scene
      rw [hscene]
      cases s.project.scene? save.scene <;> rfl

theorem flat_save [DecidableEq R] (s : Session R B) (slot : String) :
    s.flat.save slot = ((s.save slot).1.flat, (s.save slot).2) :=
  veiled_save .flat s slot

theorem flat_reconcile (s : Session R B) :
    s.flat.reconcile = (s.reconcile.1.flat, s.reconcile.2) := by
  have hpending : s.flat.pendingLoad = s.pendingLoad := rfl
  unfold reconcile
  rw [hpending]
  cases s.pendingLoad with
  | none => exact flat_settle { s with pendingLoad := none }
  | some slot =>
      have hrest : ({ s.flat with pendingLoad := none } : Session R B) =
        flat { s with pendingLoad := none } := rfl
      dsimp only
      rw [hrest, flat_load]
      rcases load { s with pendingLoad := none } slot with ⟨t, e | u⟩
      · exact flat_settle t
      · rfl

/-- Flat sessions end a tick in the same way. -/
theorem flat_conclude (s : Session R B) (dt : R) :
    conclude dt s.flat = ((conclude dt s).1.flat, (conclude dt s).2) := by
  unfold conclude
  rw [flat_reconcile]
  dsimp only
  cases s.reconcile.2 <;> rfl

end Ends

section Events

variable [Scalar R] [Numeral R] [Planar R] [AudioOutput R B]

/-- Nothing that moves by itself looks at events. -/
theorem flat_simulate? (dt : R) (s : Session R B) :
    simulate? dt s.flat = (simulate? dt s).map flat := by
  rw [simulate?, simulate?]
  dsimp only
  rw [Option.map_map]
  rfl

variable [DecidableEq R]

theorem flat_runBound (e : Event R) (dt : R) (s : Session R B) (binding : Option Binding) :
    runBound e dt s.flat binding = (runBound e dt s binding).flat := by
  have hconditions := veiled_holdAll .flat e.id binding e.conditions s
  have hactions (t : Session R B) : e.actions.foldl (perform binding dt) t.flat =
      (e.actions.foldl (perform binding dt) t).flat :=
    List.foldl_hom flat fun t a => veiled_perform .flat t binding dt a fun _ _ => rfl
  unfold runBound
  rw [flat, hconditions]
  rcases holdAll e.id binding e.conditions s with ⟨_ | _, t⟩
  · rfl
  · exact hactions t

theorem flat_runEvent (dt : R) (s : Session R B) (e : Event R) :
    runEvent dt s.flat e = (runEvent dt s e).flat := by
  have hmembers (id : String) : s.flat.members id = s.members id := rfl
  unfold runEvent
  cases e.group? with
  | none => exact flat_runBound e dt s none
  | some id =>
      dsimp only
      rw [hmembers]
      -- The members are found in the roster, so they are the same on both sides.
      exact List.foldl_hom flat fun t i => flat_runBound e dt t _

/-- The events that run are the active ones, which are those of a flat scene too. -/
theorem flat_runEvents (dt : R) (s : Session R B) :
    runEvents dt s.flat = (runEvents dt s).flat := by
  have hactive : s.flat.scene.activeEvents = s.scene.activeEvents := s.scene.activeEvents_flat
  unfold runEvents
  rw [hactive]
  exact List.foldl_hom flat fun t e => flat_runEvent dt t e

theorem flat_play (dt : R) (s : Session R B) :
    s.flat.play dt = ((s.play dt).1.flat, (s.play dt).2) := by
  unfold play
  rw [flat_simulate?]
  cases simulate? dt s with
  | none => rfl
  | some t =>
      dsimp only [Option.map_some]
      rw [flat_runEvents, flat_conclude]

/-- Flat sessions go on in the same way. -/
theorem flat_tick (s : Session R B) (dt : R) :
    s.flat.tick dt = ((s.tick dt).1.flat, (s.tick dt).2) := by
  have hclosed : s.flat.closed = s.closed := rfl
  have hpopup : s.flat.popup = s.popup := rfl
  unfold tick
  rw [hclosed]
  split
  · rfl
  · dsimp only
    rw [hpopup]
    split
    · rfl
    · exact flat_play (elapsedTime dt) { s with tickCount := s.tickCount + 1 }

/-- All calls keep sessions flat. -/
theorem flat_call (s : Session R B) (c : HostCall R B) : s.flat.call c = (s.call c).flat := by
  cases c <;> dsimp only [call]
  case enter id => rw [flat_enter]
  case click pixel =>
    have hpopup : s.flat.popup = s.popup := rfl
    unfold click
    rw [hpopup]
    split <;> rfl
  case tick dt => rw [flat_tick]
  case save slot => rw [flat_save]
  case load slot => rw [flat_load]
  case clearSave slot => rw [flat_clearSave]
  case teardown =>
    have hclosed : s.flat.closed = s.closed := rfl
    unfold teardown
    rw [hclosed]
    split <;> rfl
  all_goals rfl

theorem flat_run (s : Session R B) (calls : List (HostCall R B)) :
    s.flat.run calls = (s.run calls).flat :=
  List.foldl_hom flat flat_call

/-- Two sessions look alike, and whatever the host does next, it is told the same. -/
structure Agrees (s t : Session R B) : Prop where
  instances : t.roster = s.roster
  globals : t.globals = s.globals
  camera : t.camera = s.camera
  timers : t.timers = s.timers
  slots : t.slots = s.slots
  enter : ∀ id, (t.enter id).2 = (s.enter id).2
  tick : ∀ dt, (t.tick dt).2 = (s.tick dt).2
  save : ∀ slot, (t.save slot).2 = (s.save slot).2
  load : ∀ slot, (t.load slot).2 = (s.load slot).2
  clearSave : ∀ slot, (t.clearSave slot).2 = (s.clearSave slot).2

/-- Sessions that are the same when they are flat agree. -/
theorem agrees_of_flat {s t : Session R B} (h : t.flat = s.flat) : s.Agrees t := by
  have hsame {α : Type} (f : Session R B → α) (hf : ∀ u : Session R B, f u.flat = f u) :
      f t = f s := by
    rw [← hf t, h, hf s]
  have hanswer {α : Type} (f : Session R B → Session R B × α)
      (hf : ∀ u : Session R B, f u.flat = ((f u).1.flat, (f u).2)) : (f t).2 = (f s).2 :=
    hsame (fun u => (f u).2) fun u => by rw [hf u]
  refine ⟨hsame (·.roster) fun _ => rfl, hsame (·.globals) fun _ => rfl,
    hsame (·.camera) fun _ => rfl, hsame (·.timers) fun _ => rfl, hsame (·.slots) fun _ => rfl,
    ?_, ?_, ?_, ?_, ?_⟩
  · exact fun id => hanswer (·.enter id) (flat_enter · id)
  · exact fun dt => hanswer (·.tick dt) (flat_tick · dt)
  · exact fun slot => hanswer (·.save slot) (flat_save · slot)
  · exact fun slot => hanswer (·.load slot) (flat_load · slot)
  · exact fun slot => hanswer (·.clearSave slot) (flat_clearSave · slot)

end Events

section Starts

variable [Scalar R]

theorem flat_start (project : Project R) (config : Config R) (slots : SlotStore) (output : B)
    (supply : Supply) : start project.flat config slots output supply =
      (start project config slots output supply).map flat := by
  have hscenes : project.flat.scenes = project.scenes.map Scene.flat := rfl
  unfold start
  rw [hscenes]
  cases project.scenes <;> rfl

variable [Numeral R] [Planar R] [AudioOutput R B] [DecidableEq R]

/-- Only active events matter. They are all events of a scene, in the same order, but for
    those that are in a closed group. And sessions of two projects that only differ in what
    closed groups hide, in comments and in the names of groups agree, whatever is done to
    both of them. -/
theorem agrees_of_essential :
    (∀ scene : Scene R,
      scene.allEvents = (EventNode.occurrences [] scene.events).map (·.event) ∧
      scene.activeEvents =
        ((EventNode.occurrences [] scene.events).filter fun o => !o.isHidden).map (·.event)) ∧
    ∀ (p q : Project R), q.essential = p.essential →
      ∀ (config : Config R) (slots : SlotStore) (output : B) (supply : Supply) (s : Session R B),
        start p config slots output supply = .ok s →
        ∃ t, start q config slots output supply = .ok t ∧
          ∀ calls, (s.run calls).Agrees (t.run calls) := by
  refine ⟨fun scene => ⟨EventNode.allEvents_eq _, EventNode.activeEvents_eq _⟩, ?_⟩
  intro p q hpq config slots output supply s hs
  -- Both sessions are the same when they are flat, at the beginning and ever after.
  have hflat : (start q config slots output supply).map flat = .ok s.flat := by
    rw [← flat_start, Project.flat_of_essential hpq, flat_start, hs]
    rfl
  cases ht : start q config slots output supply with
  | error e =>
      rw [ht] at hflat
      cases hflat
  | ok t =>
      rw [ht] at hflat
      have hst : t.flat = s.flat := Except.ok.inj hflat
      refine ⟨t, rfl, fun calls => agrees_of_flat ?_⟩
      rw [← flat_run, hst, flat_run]

end Starts

end Session

/-- A project with one scene that is empty but for a tree of events. -/
def Project.ofTree (nodes : List (EventNode Float)) : Project Float :=
  ⟨.initial, [⟨"main", "Main", [], [], nodes⟩], [], .empty⟩

/-- An event that sets a variable. -/
def EventNode.setting (name : String) : EventNode Float :=
  .event ⟨name, "", none, [], [⟨name, .setGlobal name (.bool true)⟩]⟩

/-- An open group with a comment above it, and a closed one. -/
def Project.grouped : Project Float := .ofTree
  [.comment "1" "to do", .group "2" "Play" none false [.setting "seen"],
    .group "3" "Old" none true [.setting "hidden"]]

/-- The open group under another name with a comment in it, and a closed one that is
    empty. -/
def Project.regrouped : Project Float := .ofTree
  [.group "4" "Main" (some "done") false [.comment "5" "", .setting "seen"],
    .group "6" "" none true []]

namespace Session

/-- Sessions of the two projects set the same variable, and neither of them sets the one
    that is hidden. -/
theorem agrees_of_essential_regrouped :
    Project.regrouped.essential = Project.grouped.essential ∧
      ∃ s t : Session Float (SilentOutput Float),
        start .grouped (.ofSettings .initial) (.memory .empty) .initial
          ⟨fun _ => "", fun _ => 0, 0, 0⟩ = .ok s ∧
        start .regrouped (.ofSettings .initial) (.memory .empty) .initial
          ⟨fun _ => "", fun _ => 0, 0, 0⟩ = .ok t ∧
        (s.run [.enter none, .tick 1]).Agrees (t.run [.enter none, .tick 1]) ∧
        (t.run [.enter none, .tick 1]).globals.entries = [("seen", .bool true)] := by
  refine ⟨rfl, ?_⟩
  rcases agrees_of_essential.2 .grouped .regrouped rfl (.ofSettings .initial) (.memory .empty)
    SilentOutput.initial ⟨fun _ => "", fun _ => 0, 0, 0⟩ _ rfl with ⟨t, ht, hagrees⟩
  refine ⟨_, t, rfl, ht, hagrees _, ?_⟩
  cases ht
  decide +kernel

end Session

end Playfield
