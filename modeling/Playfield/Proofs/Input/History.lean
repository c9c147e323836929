import Mathlib
import Playfield.Input

/-!
# What an Input Remembers

What keys, buttons and the clicked object read, told by what has been reported.

An input keeps four sets and a name, and changes them with each report. What they read can also
be told without them, by the history of reports alone. Something is held if the latest event that
concerns it is its press (`Held`); it was held if that is so of the history before the latest
rotation (`WasHeld`); and an object is clicked if the latest click has been on it and nothing has
been rotated since. So nothing of a history counts but one report of it and that there has been
no other one behind it (`Latest`). Presses that are repeated, releases of what is not held and
focus that is lost more than once need no rule of their own.

All that follows comes from this form. What is held at a rotation and released afterwards reads as
released until the next rotation and not behind it. A press that is undone before the next
rotation is not seen by anyone who looks at the input after it: what is held reads as before, and
what was held at the latest rotation is not told by presses.

Keys and buttons differ in nothing, so they are treated as one (`Control`).

## Main definitions

* `Control`: A key or a button.
* `InputCall`, `Input.after`: What can be reported, and an input after some reports.
* `Latest`: There is a report of some kind with no other one behind it that would end it.
* `Held`, `WasHeld`, `Clicked`: What a history of reports says.
* `Input.TellsHistory`: What a control reads after a history.

## Theorems

* `latest_concat`, `latest_append`: A history that goes on.
* `Input.isDown_call`, `Input.wasDown_call`, `Input.clicked_call`: What a report changes.
* `Input.reads_after`: A reading that each report sets, ends or leaves alone.
* `InputEvent.cases_control`: Every event is about one control or about all of them.
* `wasHeld_append`, `wasHeld_between`: A history that goes on after a release, or to a rotation.
* `Input.after_release`: What a release reads as.
* `Input.reads_history`: An input reads what its history says.
-/

namespace Playfield

theorem Names.contains_erase (s : Names) (k l : String) :
    (Dictionary.erase s k).contains l = true ↔ k ≠ l ∧ s.contains l = true := by
  unfold Dictionary.contains
  rw [Dictionary.get?_erase]
  by_cases h : k = l
  · simp [h]
  · simp [h]

theorem Names.contains_empty (k : String) : (Dictionary.empty : Names).contains k = false := rfl

theorem Buttons.has_none (b : MouseButton) : none.has b = false := by
  cases b <;> rfl

/-- A key or a button. -/
inductive Control where
  | key (key : String)
  | button (button : MouseButton)
  deriving DecidableEq

namespace Control

/-- The event that presses a control. -/
def press : Control → InputEvent
  | .key k => .keyDown k
  | .button b => .buttonDown b

/-- The event that releases a control, and no other one. -/
def release : Control → InputEvent
  | .key k => .keyUp k
  | .button b => .buttonUp b

variable {c d : Control}

theorem press_inj : c.press = d.press ↔ c = d := by
  cases c <;> cases d <;> simp [press]

theorem release_inj : c.release = d.release ↔ c = d := by
  cases c <;> cases d <;> simp [release]

theorem press_ne_release : c.press ≠ d.release := by
  cases c <;> cases d <;> simp [press, release]

theorem press_ne_focusLost : c.press ≠ .focusLost := by
  cases c <;> simp [press]

end Control

namespace InputEvent

/-- The event releases a control. -/
def Releases (e : InputEvent) (c : Control) : Prop := e = c.release ∨ e = .focusLost

/-- The event presses a control or releases it. -/
def Concerns (e : InputEvent) (c : Control) : Prop := e = c.press ∨ e.Releases c

/-- Every event presses a control, releases one, or releases all of them. -/
theorem cases_control (e : InputEvent) :
    (∃ c : Control, e = c.press) ∨ (∃ c : Control, e = c.release) ∨ e = .focusLost := by
  cases e with
  | keyDown k => exact .inl ⟨.key k, rfl⟩
  | keyUp k => exact .inr (.inl ⟨.key k, rfl⟩)
  | buttonDown b => exact .inl ⟨.button b, rfl⟩
  | buttonUp b => exact .inr (.inl ⟨.button b, rfl⟩)
  | focusLost => exact .inr (.inr rfl)

theorem concerns_press_iff {c d : Control} : d.press.Concerns c ↔ d = c := by
  simp [Concerns, Releases, Control.press_inj, Control.press_ne_release,
    Control.press_ne_focusLost]

theorem Releases.concerns {e : InputEvent} {c : Control} (h : e.Releases c) : e.Concerns c :=
  .inr h

theorem Releases.ne_press {e : InputEvent} {c d : Control} (h : e.Releases c) : e ≠ d.press := by
  obtain rfl | rfl := h
  · exact Control.press_ne_release.symm
  · exact Control.press_ne_focusLost.symm

theorem concerns_release_iff {c d : Control} : d.release.Concerns c ↔ d = c := by
  have hfocus : d.release ≠ .focusLost := by cases d <;> simp [Control.release]
  simp [Concerns, Releases, Control.release_inj, Control.press_ne_release.symm, hfocus]

end InputEvent

/-- What is reported to an input. -/
inductive InputCall (R : Type) where
  | event (e : InputEvent)
  | point (place : Point R)
  | click (id : Option String)
  | rotate

section Histories

variable {α : Type} {begins : List α → α → Prop} {ends : α → Prop} {history later : List α} {k : α}

/-- Something has begun in a history, and nothing behind it has ended it. Whether it begins can
    depend on what there is before. -/
def Latest (begins : List α → α → Prop) (ends : α → Prop) (history : List α) : Prop :=
  ∃ before k after, history = before ++ k :: after ∧ begins before k ∧ ∀ l ∈ after, ¬ ends l

theorem not_latest_nil : ¬ Latest begins ends [] := by
  rintro ⟨before, k, after, heq, -⟩
  simp at heq

theorem latest_concat : Latest begins ends (history ++ [k]) ↔
    begins history k ∨ Latest begins ends history ∧ ¬ ends k := by
  constructor
  · rintro ⟨before, l, after, heq, hbegins, hafter⟩
    -- Either it begins with the last report, or the last report is behind it.
    obtain rfl | ⟨after, m, rfl⟩ := after.eq_nil_or_concat
    · obtain ⟨rfl, hkl⟩ := List.append_inj' heq rfl
      cases hkl
      exact .inl hbegins
    · rw [List.concat_eq_append] at heq hafter
      rw [← List.cons_append, ← List.append_assoc] at heq
      obtain ⟨rfl, hkm⟩ := List.append_inj' heq rfl
      cases hkm
      rw [List.forall_mem_append, List.forall_mem_singleton] at hafter
      exact .inr ⟨⟨before, l, after, rfl, hbegins, hafter.1⟩, hafter.2⟩
  · rintro (hbegins | ⟨⟨before, l, after, rfl, hbegins, hafter⟩, hk⟩)
    · exact ⟨history, k, [], rfl, hbegins, List.forall_mem_nil _⟩
    · refine ⟨before, l, after ++ [k], by simp, hbegins, ?_⟩
      rw [List.forall_mem_append, List.forall_mem_singleton]
      exact ⟨hafter, hk⟩

/-- A history that goes on, and nothing begins any more. -/
theorem latest_append (h : ∀ before k, before ++ [k] <+: later → ¬ begins (history ++ before) k) :
    Latest begins ends (history ++ later) ↔
      Latest begins ends history ∧ ∀ k ∈ later, ¬ ends k := by
  induction later using List.reverseRecOn with
  | nil => simp
  | append_singleton later k ih =>
      have hlast : ¬ begins (history ++ later) k := h later k List.prefix_rfl
      have hrest := ih fun before l hl => h before l (hl.trans (List.prefix_append later [k]))
      rw [← List.append_assoc, latest_concat, or_iff_right hlast, hrest, List.forall_mem_append,
        List.forall_mem_singleton, and_assoc]

variable {R : Type} {c : Control} {history later : List (InputCall R)} {k : InputCall R}

/-- The latest event that concerns a control is its press. -/
def Held (c : Control) : List (InputCall R) → Prop :=
  Latest (fun _ k => k = .event c.press) fun k => ∃ e, k = .event e ∧ e.Concerns c

/-- A control was held at the latest rotation. -/
def WasHeld (c : Control) : List (InputCall R) → Prop :=
  Latest (fun before k => k = .rotate ∧ Held c before) (· = .rotate)

/-- An object was set as the clicked one, and there has been no click and no rotation since. -/
def Clicked (id : String) : List (InputCall R) → Prop :=
  Latest (fun _ k => k = .click (some id)) fun k => k = .rotate ∨ ∃ other, k = .click other

/-- What is not held has to be pressed. -/
theorem not_held_append (h : ¬ Held c history) (hlater : .event c.press ∉ later) :
    ¬ Held c (history ++ later) := by
  rw [Held, latest_append fun before k hk hpress => hlater (hk.subset (by simp [hpress]))]
  exact fun hheld => h hheld.1

/-- What is not held and not pressed was held at the latest rotation if it was so before, and
    there has been none since. -/
theorem wasHeld_append (h : ¬ Held c history) (hlater : .event c.press ∉ later) :
    WasHeld c (history ++ later) ↔ WasHeld c history ∧ .rotate ∉ later := by
  have hbegins : ∀ before k, before ++ [k] <+: later →
      ¬ (k = .rotate ∧ Held c (history ++ before)) := by
    rintro before k hk ⟨-, hheld⟩
    exact not_held_append h (fun hpress => hlater (hk.subset (by simp [hpress]))) hheld
  have hends : (∀ k ∈ later, k ≠ .rotate) ↔ .rotate ∉ later :=
    ⟨fun hall hmem => hall _ hmem rfl, fun hmem k hk heq => hmem (heq ▸ hk)⟩
  rw [WasHeld, latest_append hbegins]
  exact and_congr_right fun _ => hends

/-- Without a rotation nothing comes to have been held or not. -/
theorem wasHeld_between (hlater : .rotate ∉ later) :
    WasHeld c (history ++ later) ↔ WasHeld c history := by
  have hnone : ∀ k ∈ later, k ≠ .rotate := fun k hk heq => hlater (heq ▸ hk)
  rw [WasHeld, latest_append fun before k hk hrotate => hnone k (hk.subset (by simp)) hrotate.1]
  exact and_iff_left hnone

end Histories

namespace Input

section Calls

variable {R : Type} (i : Input R)

/-- What a report does to an input. -/
def call : InputCall R → Input R
  | .event e => i.apply e
  | .point place => { i with pointer := place }
  | .click id => { i with clicked := id }
  | .rotate => i.rotate

/-- A control is down. -/
def isDown : Control → Bool
  | .key k => i.isKeyDown k
  | .button b => i.isButtonDown b

/-- A control was down when the last tick ended. -/
def wasDown : Control → Bool
  | .key k => i.keysBefore.contains k
  | .button b => i.buttonsBefore.has b

/-- A control was down when the last tick ended and is not any more. -/
def isReleased : Control → Bool
  | .key k => i.keyReleased k
  | .button b => i.buttonReleased b

theorem isReleased_iff (c : Control) :
    i.isReleased c = true ↔ i.wasDown c = true ∧ ¬ i.isDown c = true := by
  cases c <;> simp [isReleased, keyReleased, buttonReleased, wasDown, isDown, isKeyDown,
    isButtonDown, and_comm]

theorem isDown_press (c d : Control) :
    (i.apply c.press).isDown d = true ↔ c = d ∨ i.isDown d = true := by
  cases c <;> cases d <;> simp [Control.press, apply, isDown, isKeyDown, isButtonDown,
    Names.contains_add, Buttons.has_set]

theorem isDown_release (c d : Control) :
    (i.apply c.release).isDown d = true ↔ c ≠ d ∧ i.isDown d = true := by
  cases c <;> cases d <;> simp [Control.release, apply, isDown, isKeyDown, isButtonDown,
    Names.contains_erase, Buttons.has_set]

theorem isDown_focusLost (c : Control) : (i.apply .focusLost).isDown c = false := by
  cases c with
  | key k => exact Names.contains_empty k
  | button b => exact Buttons.has_none b

/-- An event presses a control, releases it or leaves it alone. -/
theorem isDown_apply (e : InputEvent) (c : Control) :
    (i.apply e).isDown c = true ↔ e = c.press ∨ i.isDown c = true ∧ ¬ e.Concerns c := by
  rcases e.cases_control with ⟨d, rfl⟩ | ⟨d, rfl⟩ | rfl
  · rw [isDown_press, Control.press_inj, InputEvent.concerns_press_iff]
    by_cases h : d = c
    · simp [h]
    · simp [h]
  · rw [isDown_release, InputEvent.concerns_release_iff]
    simp [Control.press_ne_release.symm, and_comm]
  · rw [isDown_focusLost]
    simp [Control.press_ne_focusLost.symm, InputEvent.Concerns, InputEvent.Releases]

theorem isDown_call (k : InputCall R) (c : Control) : (i.call k).isDown c = true ↔
    k = .event c.press ∨ i.isDown c = true ∧ ¬ ∃ e, k = .event e ∧ e.Concerns c := by
  cases k with
  | event e => simpa [call] using i.isDown_apply e c
  | point place => cases c <;> simp [call, isDown, isKeyDown, isButtonDown]
  | click id => cases c <;> simp [call, isDown, isKeyDown, isButtonDown]
  | rotate => cases c <;> simp [call, isDown, isKeyDown, isButtonDown, rotate]

theorem wasDown_call (k : InputCall R) (c : Control) : (i.call k).wasDown c = true ↔
    (k = .rotate ∧ i.isDown c = true) ∨ i.wasDown c = true ∧ ¬ k = .rotate := by
  cases k with
  | event e => cases e <;> cases c <;> simp [call, apply, wasDown]
  | point place => cases c <;> simp [call, wasDown]
  | click id => cases c <;> simp [call, wasDown]
  | rotate => cases c <;> simp [call, wasDown, isDown, isKeyDown, isButtonDown, rotate]

theorem clicked_call (k : InputCall R) (id : String) : (i.call k).clicked = some id ↔
    k = .click (some id) ∨
      i.clicked = some id ∧ ¬ (k = .rotate ∨ ∃ other, k = .click other) := by
  cases k with
  | event e => cases e <;> simp [call, apply]
  | point place => simp [call]
  | click id => simp [call]
  | rotate => simp [call, rotate]

end Calls

section Readings

variable {R : Type} [Scalar R]

/-- An input after some reports. -/
def after (history : List (InputCall R)) : Input R := history.foldl call .initial

theorem isDown_initial (c : Control) : (initial : Input R).isDown c = false := by
  cases c with
  | key k => exact Names.contains_empty k
  | button b => exact Buttons.has_none b

theorem wasDown_initial (c : Control) : (initial : Input R).wasDown c = false :=
  isDown_initial (R := R) c

/-- A reading that a report sets or ends or else leaves alone is told by the latest report that
    does either. -/
theorem reads_after (reads : Input R → Prop) {begins : Input R → InputCall R → Prop}
    {ends : InputCall R → Prop} (hinitial : ¬ reads .initial)
    (hcall : ∀ i k, reads (i.call k) ↔ begins i k ∨ reads i ∧ ¬ ends k)
    (history : List (InputCall R)) :
    reads (after history) ↔ Latest (fun before k => begins (after before) k) ends history := by
  induction history using List.reverseRecOn with
  | nil => exact iff_of_false hinitial not_latest_nil
  | append_singleton history k ih =>
      have hlast : after (history ++ [k]) = (after history).call k := List.foldl_concat ..
      rw [hlast, hcall, ih, latest_concat]

theorem isDown_after (c : Control) (history : List (InputCall R)) :
    (after history).isDown c = true ↔ Held c history :=
  reads_after (fun i => i.isDown c = true) (by rw [isDown_initial]; exact Bool.false_ne_true)
    (fun i k => i.isDown_call k c) history

theorem wasDown_after (c : Control) (history : List (InputCall R)) :
    (after history).wasDown c = true ↔ WasHeld c history := by
  have hreads := reads_after (fun i : Input R => i.wasDown c = true)
    (by rw [wasDown_initial]; exact Bool.false_ne_true)
    (fun i k => i.wasDown_call k c) history
  simp only [isDown_after] at hreads
  exact hreads

theorem clicked_after (id : String) (history : List (InputCall R)) :
    (after history).clicked = some id ↔ Clicked id history :=
  reads_after (fun i => i.clicked = some id) (by simp [initial]) (fun i k => i.clicked_call k id)
    history

theorem isReleased_after (c : Control) (history : List (InputCall R)) :
    (after history).isReleased c = true ↔ WasHeld c history ∧ ¬ Held c history := by
  rw [isReleased_iff, wasDown_after, isDown_after]

/-- What a control reads after a history, and how long it reads as released. -/
structure TellsHistory (history : List (InputCall R)) (c : Control) : Prop where
  down : (after history).isDown c = true ↔ Held c history
  released : (after history).isReleased c = true ↔ WasHeld c history ∧ ¬ Held c history
  /-- What was held at the latest rotation and is released reads as released until the next
      rotation, and not behind it, unless it is pressed again. -/
  lasting : ∀ e later, e.Releases c → .event c.press ∉ later → WasHeld c history →
    ((after (history ++ .event e :: later)).isReleased c = true ↔ .rotate ∉ later)
  /-- What is pressed and released between two rotations is not down then, and does not read as
      released, unless it was held at the first of the two; behind the second it never does. -/
  fleeting : ∀ between e later, .rotate ∉ between → e.Releases c → .event c.press ∉ later →
    ¬ WasHeld c history ∨ .rotate ∈ later →
      let i := after (history ++ .event c.press :: between ++ .event e :: later)
      i.isDown c = false ∧ i.isReleased c = false

variable {c : Control} {e : InputEvent} {history later : List (InputCall R)}

/-- A release reads as one from what was held at the latest rotation until the next one. -/
theorem after_release (he : e.Releases c) (hlater : .event c.press ∉ later) :
    (after (history ++ .event e :: later)).isDown c = false ∧
      ((after (history ++ .event e :: later)).isReleased c = true ↔
        WasHeld c history ∧ .rotate ∉ later) := by
  have hfree : ¬ Held c (history ++ [.event e]) := by
    rw [Held, latest_concat]
    rintro (hpress | ⟨-, hother⟩)
    · exact he.ne_press (InputCall.event.inj hpress)
    · exact hother ⟨e, rfl, he.concerns⟩
  have hbefore : WasHeld c (history ++ [.event e]) ↔ WasHeld c history := by
    rw [WasHeld, latest_concat]
    simp
  have hsplit : history ++ .event e :: later = history ++ [.event e] ++ later := by simp
  rw [isReleased_after, Bool.eq_false_iff, ne_eq, isDown_after, hsplit,
    wasHeld_append hfree hlater, hbefore]
  have hlast := not_held_append hfree hlater
  exact ⟨hlast, and_iff_left hlast⟩

theorem tellsHistory (history : List (InputCall R)) (c : Control) : TellsHistory history c where
  down := isDown_after c history
  released := isReleased_after c history
  lasting := by
    intro e later he hlater hheld
    exact (after_release he hlater).2.trans (and_iff_right hheld)
  fleeting := by
    intro between e later hbetween he hlater hunseen
    let pressed := history ++ .event c.press :: between
    have hrelease : (after (pressed ++ .event e :: later)).isDown c = false ∧
        ((after (pressed ++ .event e :: later)).isReleased c = true ↔
          WasHeld c pressed ∧ .rotate ∉ later) := after_release he hlater
    have hsame : WasHeld c pressed ↔ WasHeld c history :=
      wasHeld_between (by simpa using hbetween)
    refine ⟨hrelease.1, ?_⟩
    rw [Bool.eq_false_iff, ne_eq, hrelease.2, hsame]
    rintro ⟨hheld, hrotated⟩
    exact hunseen.elim (absurd hheld) fun h => hrotated h

/-- An input reads what its history says: of a key or a button whether it is down and whether it
    has been released, and of the objects which one has been clicked. -/
theorem reads_history (history : List (InputCall R)) :
    (∀ c, TellsHistory history c) ∧
      ∀ id, (after history).clicked = some id ↔ Clicked id history :=
  ⟨tellsHistory history, fun id => clicked_after id history⟩

end Readings

end Input

end Playfield
