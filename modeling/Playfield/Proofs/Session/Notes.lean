import Mathlib
import Playfield.Proofs.Session.History

/-!
# What Timers Depend On

A run, as far as timers go, written down as a list.

Four things have to do with a timer: that time passes, that the timer is started, that all
timers are saved in a slot, and that those of a slot are loaded. Together with the conditions
that are evaluated in between they are the notes of a run (`Session.notes`). Time passes at the
beginning of a tick, before its events; a load that an action asks for is at the end, behind
all of them. In between the notes follow the events: first the conditions of an event, and if
they hold, its actions.

A tick that is not played has no notes, a save or a load that fails has none, and
neither has a scene that is entered or changed.

## Main definitions

* `TimerNote`: What timers depend on, and what depends on them.
* `Session.eventNotes`, `Session.tickNotes`, `Session.callNotes`: The notes of an event, of a
  tick and of a call.
* `Session.notes`: The notes of a run.

## Theorems

* `Session.runEvents_notes`: What holds of each evaluation and of each action and composes
  holds of the events of a tick.
-/

namespace Playfield

/-- What timers depend on, and what depends on them. -/
inductive TimerNote (R B : Type) where
  | passed (dt : R)
  | asked (q : Inquiry R B)
  | started (name : String)
  /-- A session has been saved in a slot. -/
  | saved (session : Session R B) (slot : String)
  | loaded (slot : String)

namespace TimerNote

variable {R B : Type}

/-- The session that a note is about. -/
def session? : TimerNote R B → Option (Session R B)
  | .asked q => some q.session
  | .saved s _ => some s
  | _ => none

/-- The note sets the timer of a name to a value that does not depend on the one before. -/
def Sets (name : String) : TimerNote R B → Prop
  | .started other => other = name
  | .loaded _ => True
  | _ => False

/-- The note puts timers into a slot. -/
def Saves (slot : String) : TimerNote R B → Prop
  | .saved _ other => other = slot
  | _ => False

instance (n : TimerNote R B) (name : String) : Decidable (n.Sets name) :=
  match n with
  | .started other => inferInstanceAs (Decidable (other = name))
  | .loaded _ => .isTrue trivial
  | .passed _ | .asked _ | .saved _ _ => .isFalse id

instance (n : TimerNote R B) (slot : String) : Decidable (n.Saves slot) :=
  match n with
  | .saved _ other => inferInstanceAs (Decidable (other = slot))
  | .passed _ | .asked _ | .started _ | .loaded _ => .isFalse id

end TimerNote

variable {R B : Type} [Scalar R] [Numeral R] [DecidableEq R]

/-- The notes of a save. One that is refused has none. -/
def Session.saveNotes (s : Session R B) (slot : String) : List (TimerNote R B) :=
  (s.savedSlots slot).map (.saved s)

theorem Session.saveNotes_of_ok {s : Session R B} {slot : String} (h : (s.save slot).2 = .ok ()) :
    s.saveNotes slot = [.saved s slot] := by
  rw [saveNotes, savedSlots_of_ok h]
  rfl

theorem Session.saveNotes_of_error {s : Session R B} {slot : String} {e : SaveError}
    (h : (s.save slot).2 = .error e) : s.saveNotes slot = [] := by
  unfold saveNotes savedSlots
  rw [h]
  rfl

/-- The notes of an action. -/
def Deed.notes (d : Deed R B) : List (TimerNote R B) :=
  match d.action.kind with
  | .startTimer name => [.started name]
  | .save slot => d.session.saveNotes slot
  | _ => []

namespace Session

variable [Planar R] [AudioOutput R B]

/-- The notes of an event under a binding. -/
def boundNotes (e : Event R) (dt : R) (s : Session R B) (binding : Option Binding) :
    List (TimerNote R B) :=
  (boundInquiries e s binding).map .asked ++ (boundDeeds e dt s binding).flatMap Deed.notes

/-- The notes of an event, for each member of its group if it goes through one. -/
def eventNotes (dt : R) (s : Session R B) (e : Event R) : List (TimerNote R B) :=
  match e.group? with
  | none => boundNotes e dt s none
  | some id =>
    traced (fun s (i : Instance R) => runBound e dt s (some ⟨id, i.id⟩))
      (fun s i => boundNotes e dt s (some ⟨id, i.id⟩)) s (s.members id)

/-- The notes of the active events of the scene. -/
def activeNotes (dt : R) (s : Session R B) : List (TimerNote R B) :=
  traced (runEvent dt) (eventNotes dt) s s.scene.activeEvents

/-- The notes of the end of a tick. -/
def outcomeNotes : Outcome → List (TimerNote R B)
  | .loaded slot => [.loaded slot]
  | _ => []

/-- The notes of a tick. -/
def tickNotes (s : Session R B) (dt : R) : List (TimerNote R B) :=
  if s.idles dt then []
  else .passed (elapsedTime dt) ::
    ((s.begun dt).activeNotes (elapsedTime dt) ++ outcomeNotes (s.tick dt).2)

/-- The notes of a call. -/
def callNotes (s : Session R B) : HostCall R B → List (TimerNote R B)
  | .tick dt => s.tickNotes dt
  | .save slot => s.saveNotes slot
  | .load slot => if (s.load slot).2.isOk then [.loaded slot] else []
  | _ => []

/-- The notes of a run. -/
def notes (s : Session R B) (calls : List (HostCall R B)) : List (TimerNote R B) :=
  traced call callNotes s calls

theorem notes_append (s : Session R B) (first later : List (HostCall R B)) :
    s.notes (first ++ later) = s.notes first ++ (s.run first).notes later :=
  traced_append call callNotes s first later

theorem callNotes_load_of_ok {s : Session R B} {slot : String} (h : (s.load slot).2.isOk = true) :
    s.callNotes (.load slot) = [.loaded slot] :=
  if_pos h

/-- The notes of a slot that is saved, and loaded after a tick. -/
theorem notes_of_returned {s : Session R B} {slot : String} {dt : R}
    (hsave : (s.save slot).2 = .ok ())
    (hload : ((s.run [.save slot, .tick dt]).load slot).2.isOk = true) :
    s.notes [.save slot, .tick dt, .load slot] =
      .saved s slot :: ((s.run [.save slot]).tickNotes dt ++ [.loaded slot]) := by
  have hnotes : s.notes [.save slot, .tick dt, .load slot] = s.saveNotes slot ++
      ((s.run [.save slot]).tickNotes dt ++
        ((s.run [.save slot, .tick dt]).callNotes (.load slot) ++ [])) := rfl
  rw [hnotes, saveNotes_of_ok hsave, callNotes_load_of_ok hload, List.singleton_append,
    List.append_nil]

section Account

variable {P : Session R B → List (TimerNote R B) → Session R B → Prop} {dt : R}

theorem runBound_notes (hP : Account P)
    (hask : ∀ q : Inquiry R B, P q.session [.asked q] { q.session with memory := q.memory })
    (hdeed : ∀ d : Deed R B, P d.session d.notes (perform d.binding dt d.session d.action))
    (e : Event R) (s : Session R B) (binding : Option Binding) :
    P s (boundNotes e dt s binding) (runBound e dt s binding) := by
  have hasked : Account fun (s : Session R B) (qs : List (Inquiry R B)) t =>
      P s (qs.map .asked) t := by
    refine ⟨hP.nothing, fun h h' => ?_⟩
    rw [List.map_append]
    exact hP.append h h'
  have hdone : Account fun (s : Session R B) (ds : List (Deed R B)) t =>
      P s (ds.flatMap Deed.notes) t := by
    refine ⟨hP.nothing, fun h h' => ?_⟩
    rw [List.flatMap_append]
    exact hP.append h h'
  -- Conditions first, and if they hold, the actions one after the other.
  have hcond := holdAll_inquiries hasked hask e.id binding e.conditions s
  unfold boundNotes boundInquiries boundDeeds runBound
  cases hh : holdAll e.id binding e.conditions s with
  | mk holds t =>
      rw [hh] at hcond
      cases holds with
      | false =>
          rw [List.flatMap_nil, List.append_nil]
          exact hcond
      | true =>
          refine hP.append hcond (traced_account hdone (fun u a => ?_) t e.actions)
          rw [List.flatMap_singleton]
          exact hdeed ⟨u, binding, a⟩

/-- What holds of every evaluation and of every action and composes holds of the events of a
    tick. -/
theorem runEvents_notes (hP : Account P)
    (hask : ∀ q : Inquiry R B, P q.session [.asked q] { q.session with memory := q.memory })
    (hdeed : ∀ d : Deed R B, P d.session d.notes (perform d.binding dt d.session d.action))
    (s : Session R B) : P s (s.activeNotes dt) (runEvents dt s) := by
  refine traced_account hP (fun t e => ?_) s s.scene.activeEvents
  unfold eventNotes runEvent
  cases e.group? with
  | none => exact runBound_notes hP hask hdeed e t none
  | some id =>
      exact traced_account hP (fun u i => runBound_notes hP hask hdeed e u _) t _

end Account

end Session

end Playfield
