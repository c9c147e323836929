import Playfield.Project

/-!
# Checking Documents

Mistakes of an author that a game tolerates.

None of them stops a game. An object that is not there makes a condition false
and an action idle, an unknown layer makes an object invisible. But they are
mistakes, and a tool should name them.

Issues are listed scene by scene. In a scene the objects come first, in order,
then the events, in order and whether they are active or not.

## Main definitions

* `Issue`: A mistake, with the names that show where it is.
* `Issue.message`: The line that reports it.
* `Project.lint`: The mistakes of a project.
-/

namespace Playfield

/-- A mistake in a document. -/
inductive Issue where
  | noScenes
  | duplicateScene (scene : String)
  | duplicateObject (scene object : String)
  | duplicateEvent (scene event : String)
  | unknownLayer (scene object layer : String)
  | missingObject (scene event object : String)
  | unknownScene (scene event target : String)
  | unknownSound (scene event sound : String)
  deriving DecidableEq

namespace Issue

/-- The line that reports a mistake. -/
def message : Issue → String
  | .noScenes => "project has no scenes"
  | .duplicateScene s => "duplicate scene id " ++ s
  | .duplicateObject s o => "[" ++ s ++ "] duplicate object id " ++ o
  | .duplicateEvent s e => "[" ++ s ++ "] duplicate event id " ++ e
  | .unknownLayer s o l => "[" ++ s ++ "] object " ++ o ++ " is on unknown layer " ++ Text.quoted l
  | .missingObject s e o => "[" ++ s ++ "] event " ++ e ++ " references missing object " ++ o
  | .unknownScene s e t => "[" ++ s ++ "] event " ++ e ++ " changes to unknown scene " ++ t
  | .unknownSound s e n => "[" ++ s ++ "] event " ++ e ++ " uses unknown sound " ++ Text.quoted n

end Issue

namespace Lint

/-- Each element with whether it stands in the list before. The first argument
    holds what stands before the list. -/
def withRepeats {α : Type} [DecidableEq α] : List α → List α → List (α × Bool)
  | _, [] => []
  | seen, a :: as => (a, decide (a ∈ seen)) :: withRepeats (a :: seen) as

/-- The elements that stand in the list before, once for each repetition. -/
def repeated {α : Type} [DecidableEq α] (as : List α) : List α :=
  ((withRepeats [] as).filter (·.2)).map (·.1)

variable {R : Type}

/-- The mistakes of an object. -/
def object (s : Scene R) (o : Object R) (repeats : Bool) : List Issue :=
  (if repeats then [.duplicateObject s.id o.id] else []) ++
    if (s.layer? o.layer).isNone then [.unknownLayer s.id o.id o.layer] else []

/-- The ids that an event names, in order. -/
def references (e : Event R) : List String :=
  e.conditions.flatMap (·.kind.references) ++ e.actions.flatMap (·.kind.references)

/-- The mistakes of an action, its objects aside. -/
def action (p : Project R) (s : Scene R) (e : Event R) (a : Action R) : List Issue :=
  match a.kind with
  | .changeScene target =>
    if (p.scene? target).isNone then [.unknownScene s.id e.id target] else []
  | .sound (.play n) | .sound (.stop n) | .sound (.music n) =>
    if (p.sound? n).isNone then [.unknownSound s.id e.id n] else []
  | _ => []

/-- The mistakes of an event. -/
def event (p : Project R) (s : Scene R) (e : Event R) (repeats : Bool) : List Issue :=
  (if repeats then [.duplicateEvent s.id e.id] else []) ++
    ((references e).filter (fun id => (s.object? id).isNone)).map
      (fun id => .missingObject s.id e.id id) ++
    e.actions.flatMap (action p s e)

/-- Each element with whether its key has occurred before. -/
def keyed {α : Type} (key : α → String) (as : List α) : List (α × Bool) :=
  as.zip ((withRepeats [] (as.map key)).map (·.2))

/-- The mistakes of a scene. -/
def scene (p : Project R) (s : Scene R) : List Issue :=
  (keyed (·.id) s.objects).flatMap (fun o => object s o.1 o.2) ++
    (keyed (·.id) s.allEvents).flatMap (fun e => event p s e.1 e.2)

end Lint

/-- The mistakes of a project. -/
def Project.lint {R : Type} (p : Project R) : List Issue :=
  (if p.scenes.isEmpty then [.noScenes] else []) ++
    (Lint.keyed (·.id) p.scenes).flatMap fun s =>
      (if s.2 then [.duplicateScene s.1.id] else []) ++ Lint.scene p s.1

end Playfield
