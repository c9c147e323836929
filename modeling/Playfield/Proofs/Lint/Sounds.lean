import Mathlib
import Playfield.Proofs.Lint.Faults
import Playfield.Scalar.Double

/-!
# Checked Sounds

Which names of sounds a check looks at.

Sounds are named in two vocabularies. Three actions start or stop a sound of a name, and one
condition asks whether it is being played. Of all this the check looks at the actions. If it
reports no unknown sound then every sound that an action names is a sound of the project,
wherever the action stands, in closed groups as well.

The condition is left out. Ids of objects are checked in conditions as they are in actions, and
of sounds that is only half done: a condition may ask for a sound that does not exist, and
nobody is told. How far this goes is said by a renaming. Whatever the conditions of a project
ask for, if they ask for other sounds instead then the reports are the same, word for word.

## Main definitions

* `Condition.Kind.sound?`: The sound that a condition names.
* `Project.renameHeard`: The project with other sounds in its conditions.

## Theorems

* `EventNode.all_map`, `EventNode.allEvents_map`: The events of a tree whose events are changed.
* `Project.mem_lint_unknownSound`: When an unknown sound is reported.
* `Project.lint_renameHeard`: The sounds in conditions do not matter.
* `Project.lint_sounds`: The sounds in actions do, and no others.
* `Project.lint_overlooks_heard`: A sound that does not exist and is not reported.
-/

namespace Playfield

variable {R : Type}

/-- The sound that a condition names. -/
def Condition.Kind.sound? : Condition.Kind R → Option String
  | .soundPlaying name _ => some name
  | _ => none

/-- The condition with another sound in it, if there is one. -/
def Condition.Kind.renameSound (f : String → String) : Condition.Kind R → Condition.Kind R
  | .soundPlaying name invert => .soundPlaying (f name) invert
  | kind => kind

theorem Condition.Kind.references_renameSound (f : String → String) (kind : Condition.Kind R) :
    (kind.renameSound f).references = kind.references := by
  cases kind <;> rfl

/-- The event with other sounds in its conditions. -/
def Event.renameHeard (f : String → String) (e : Event R) : Event R :=
  { e with conditions := e.conditions.map fun c => { c with kind := c.kind.renameSound f } }

namespace EventNode

mutual

/-- The node with its events changed. -/
def map (f : Event R → Event R) : EventNode R → EventNode R
  | .event e => .event (f e)
  | .group id name remark closed ns => .group id name remark closed (mapAll f ns)
  | .comment id text => .comment id text

/-- The nodes with their events changed. -/
def mapAll (f : Event R → Event R) : List (EventNode R) → List (EventNode R)
  | [] => []
  | n :: ns => map f n :: mapAll f ns

end

mutual

theorem all_map (f : Event R → Event R) (n : EventNode R) : all (map f n) = (all n).map f := by
  cases n with
  | event e => rfl
  | group id name remark closed ns => exact allEvents_map f ns
  | comment id text => rfl

theorem allEvents_map (f : Event R → Event R) (ns : List (EventNode R)) :
    allEvents (mapAll f ns) = (allEvents ns).map f := by
  cases ns with
  | nil => rfl
  | cons n ns => rw [mapAll, allEvents, allEvents, List.map_append, all_map f n, allEvents_map f ns]

end

end EventNode

/-- The scene with other sounds in its conditions. -/
def Scene.renameHeard (f : String → String) (s : Scene R) : Scene R :=
  { s with events := EventNode.mapAll (Event.renameHeard f) s.events }

/-- The project with other sounds in its conditions. -/
def Project.renameHeard (f : String → String) (p : Project R) : Project R :=
  { p with scenes := p.scenes.map (Scene.renameHeard f) }

namespace Lint

/-- Whether a key has occurred before does not depend on what else is there. -/
theorem keyed_map {α : Type} {key : α → String} (f : α → α) (h : ∀ a, key (f a) = key a)
    (as : List α) : keyed key (as.map f) = (keyed key as).map fun p => (f p.1, p.2) := by
  have hkeys : (as.map f).map key = as.map key := by
    rw [List.map_map]
    exact List.map_congr_left fun a _ => h a
  rw [keyed, hkeys, List.zip_map_left]
  rfl

variable (f : String → String) (p : Project R) (s : Scene R) (e : Event R)

theorem references_renameHeard : references (e.renameHeard f) = references e := by
  simp only [references, Event.renameHeard, List.flatMap_map,
    Condition.Kind.references_renameSound]

theorem isNone_scene?_renameHeard (id : String) :
    ((p.renameHeard f).scene? id).isNone = (p.scene? id).isNone := by
  rw [Project.scene?, Project.renameHeard, List.find?_map, Option.isNone_map]
  rfl

theorem action_renameHeard (a : Action R) :
    action (p.renameHeard f) (s.renameHeard f) (e.renameHeard f) a = action p s e a := by
  unfold action
  split
  -- An action that goes to a scene is the only one for which the project is asked for scenes.
  · rw [isNone_scene?_renameHeard]
    rfl
  all_goals rfl

theorem event_renameHeard (repeats : Bool) :
    event (p.renameHeard f) (s.renameHeard f) (e.renameHeard f) repeats = event p s e repeats := by
  have hactions := funext (action_renameHeard f p s e)
  rw [event, references_renameHeard, hactions]
  rfl

theorem scene_renameHeard : scene (p.renameHeard f) (s.renameHeard f) = scene p s := by
  have hevents : (s.renameHeard f).allEvents = s.allEvents.map (Event.renameHeard f) :=
    EventNode.allEvents_map _ s.events
  rw [scene, hevents, keyed_map (Event.renameHeard f) fun _ => rfl, List.flatMap_map]
  simp only [event_renameHeard]
  rfl

end Lint

namespace Project

/-- What sounds conditions ask for does not matter to a check. -/
theorem lint_renameHeard (f : String → String) (p : Project R) :
    (p.renameHeard f).lint = p.lint := by
  have hscenes : (p.renameHeard f).scenes = p.scenes.map (Scene.renameHeard f) := rfl
  rw [lint, hscenes, List.isEmpty_map, Lint.keyed_map (Scene.renameHeard f) fun _ => rfl,
    List.flatMap_map]
  simp only [Lint.scene_renameHeard]
  rfl

/-- An unknown sound is reported if and only if an action names it. -/
theorem mem_lint_unknownSound {p : Project R} {scene event name : String} :
    .unknownSound scene event name ∈ p.lint ↔
      ∃ s ∈ p.scenes, s.id = scene ∧ ∃ way e, EventNode.Stands s.events way e ∧ e.id = event ∧
        ∃ a ∈ e.actions, a.kind.sound? = some name ∧ ∀ t ∈ p.sounds, t.name ≠ name := by
  rw [p.census_lint.mem_iff]
  constructor
  · rintro ⟨q, hfault⟩
    -- Of all faults only that of an action reads like this.
    cases hfault with
    | scene hs hfault =>
        cases hfault with
        | object _ hfault => cases hfault
        | event he hfault =>
            cases hfault with
            | name ha hfault =>
                cases hfault with
                | sound hname hmissing =>
                    exact ⟨_, List.mem_of_getElem? hs, rfl, _, _, he, rfl, _,
                      List.mem_of_getElem? ha, hname, hmissing⟩
  · rintro ⟨s, hs, rfl, way, e, he, rfl, a, ha, hname, hmissing⟩
    rcases List.getElem?_of_mem hs with ⟨k, hk⟩
    rcases List.getElem?_of_mem ha with ⟨m, hm⟩
    exact ⟨_, .scene hk (.event he (.name hm (.sound hname hmissing)))⟩

/-- A check reports no unknown sound if and only if every sound that an action names, wherever
    it stands, is a sound of the project. The sounds that conditions name have no part in it:
    with any others in their places the reports are the same. -/
theorem lint_sounds (p : Project R) :
    ((∀ scene event name, Issue.unknownSound scene event name ∉ p.lint) ↔
        ∀ s ∈ p.scenes, ∀ way e, EventNode.Stands s.events way e → ∀ a ∈ e.actions,
          ∀ name, a.kind.sound? = some name → ∃ t ∈ p.sounds, t.name = name) ∧
      ∀ f : String → String, (p.renameHeard f).lint = p.lint := by
  refine ⟨⟨fun h s hs way e he a ha name hname => ?_, fun h scene event name hreport => ?_⟩,
    fun f => lint_renameHeard f p⟩
  · by_contra! hmissing
    exact h s.id e.id name
      (mem_lint_unknownSound.2 ⟨s, hs, rfl, way, e, he, rfl, a, ha, hname, hmissing⟩)
  · rcases mem_lint_unknownSound.1 hreport with
      ⟨s, hs, -, way, e, he, -, a, ha, hname, hmissing⟩
    rcases h s hs way e he a ha name hname with ⟨t, ht, hid⟩
    exact hmissing t ht hid

/-- A project without sounds, in which an event waits for a sound to be played. -/
def listening : Project Float :=
  ⟨.initial, [⟨"main", "Main", [], [], [.event ⟨"wait", "Wait", none,
    [⟨"1", .soundPlaying "boom" false⟩], []⟩]⟩], [], .empty⟩

/-- Nothing is reported of it. -/
theorem lint_overlooks_heard :
    listening.lint = [] ∧ ∃ s ∈ listening.scenes, ∃ way e, EventNode.Stands s.events way e ∧
      ∃ c ∈ e.conditions, c.kind.sound? = some "boom" ∧
        ¬ ∃ t ∈ listening.sounds, t.name = "boom" := by
  refine ⟨rfl, _, List.mem_singleton_self _, [0], _, ⟨0, _, [], rfl, rfl, .event _⟩, _,
    List.mem_singleton_self _, rfl, ?_⟩
  rintro ⟨t, ht, -⟩
  cases ht

end Project

end Playfield
